import JobScheduling.Proofs.Environment.Loaded
import JobScheduling.Proofs.Settings.Choice
import JobScheduling.Settings.Environment

/-!
# `JobScheduling.Proofs.Settings.Environment`: a choice as variables

Variables give a choice (`Choice.GivenBy`) when there is one for each setting that the choice is
about and none for the others. A variable is set, and then its text may have blank characters
around it, or it is not and the file has a line for it, in which the name, an equals sign and the
text stand (`Settings.Gives`).

* What is loaded of such a file is the text (`Gives.lookup_loaded`), and from the texts the reader
  makes the assignments of the choice (`Choice.GivenBy.assignments`).
* `Setting.IsValue` says which texts are values of a setting, and they are those that are read
  (`Setting.exists_read_iff`). The reader stops at the first other one (`assignments_of_fault`).
-/

set_option autoImplicit false

namespace JobScheduling

/-- A value as plain text: a number in decimal digits, and a switch by the name of its position. -/
def Assignment.WrittenAs : Assignment → List Char → Prop
  | .number _ value, text => IsDecimal text value
  | .switch _ value, text => text = boolText value

/-- Plain texts have letters and digits only. -/
theorem Assignment.WrittenAs.isAlphanum {a : Assignment} {text : List Char} (h : a.WrittenAs text) :
    ∀ c ∈ text, c.isAlphanum = true := by
  cases a with
  | number setting value =>
    intro c hc
    rw [Char.isAlphanum, IsDecimal.digits h c hc, Bool.or_true]
  | switch setting value =>
    obtain rfl : text = boolText value := h
    cases value <;> exact List.all_eq_true.1 rfl

namespace Setting

/-- Whether a text is a value of a setting. A number may have a plus sign in front. -/
def IsValue : Setting → List Char → Prop
  | .number _, text => ∃ value ≤ maxWord,
    IsDecimal text value ∨ ∃ rest, text = '+' :: rest ∧ IsDecimal rest value
  | .switch _, text => ∃ value, text = boolText value

/-- The values of a setting are what its reader accepts. -/
theorem exists_read_iff (setting : Setting) (text : String) :
    (∃ a, setting.read text = .ok a) ↔ setting.IsValue (trim text.toList) := by
  have hmap {α β : Type} (f : α → β) (result : Except Plain.Fault α) :
      (∃ b, result.map f = .ok b) ↔ ∃ a, result = .ok a := by
    cases result <;> simp [Except.map]
  cases setting with
  | number setting =>
    rw [read, hmap]
    exact exists_congr fun value => Plain.word_eq_ok_iff _ value
  | switch setting =>
    rw [read, hmap]
    exact exists_congr fun value => Plain.bool_eq_ok_iff _ value

/-- A value is read back from its plain text. -/
theorem read_of_writtenAs {choice : Choice} {setting : Setting} {a : Assignment}
    (ha : choice.value? setting = some a) {text : String} (htext : a.WrittenAs (trim text.toList)) :
    setting.read text = .ok a := by
  cases setting with
  | number setting =>
    obtain ⟨value, hvalue, rfl⟩ := Option.map_eq_some_iff.1 ha
    rw [read, (Plain.word_eq_ok_iff _ value).2 ⟨choice.le_maxWord setting value hvalue, .inl htext⟩]
    rfl
  | switch setting =>
    obtain ⟨value, -, rfl⟩ := Option.map_eq_some_iff.1 ha
    rw [read, (Plain.bool_eq_ok_iff _ value).2 htext]
    rfl

/-- Names of variables are names in files. -/
theorem variableName_eq_cons (setting : Setting) : ∃ c rest,
    setting.variableName.toList = c :: rest ∧ DotFile.beginsName c = true ∧
      ∀ d ∈ rest, DotFile.continuesName d = true := by
  -- The names are known, so this is checked for each.
  have hnames : ∀ s ∈ all, (s.variableName.toList.head?.any DotFile.beginsName) = true ∧
      s.variableName.toList.tail.all DotFile.continuesName = true := by decide +kernel
  obtain ⟨hhead, htail⟩ := hnames setting (mem_all setting)
  cases hname : setting.variableName.toList with
  | nil =>
    rw [hname] at hhead
    cases hhead
  | cons c rest =>
    rw [hname] at hhead htail
    exact ⟨c, rest, rfl, hhead, List.all_eq_true.1 htail⟩

end Setting

namespace Settings

/-- The variables after the file was loaded, if there is one. -/
def loaded (given : Variables) : Option String → Variables
  | none => given
  | some text => DotFile.load given text.toList

/-- The logical lines of the file, if there is one. -/
def linesOf : Option String → List (Option (List Char))
  | none => []
  | some text => DotFile.lines text.toList

/-- The settings are read from the loaded variables, with or without a file. -/
theorem ofEnvironment_eq (cores : Nat) (given : Variables) (file : Option String) :
    ofEnvironment cores given file = ofVariables cores (loaded given file) := by
  cases file <;> rfl

/-- Variables and a file give a variable this text. -/
inductive Gives (given : Variables) (file : Option String) (name : String) (text : List Char) : Prop
  | process (before after : List Char) (hbefore : ∀ c ∈ before, isBlank c = true)
      (hafter : ∀ c ∈ after, isBlank c = true)
      (hset : given.lookup name = some (String.ofList (before ++ text ++ after)))
  /-- The variable is not set, and the first line for it writes the text after an equals sign. -/
  | file (before after : List Char) (hbefore : ∀ c ∈ before, isBlank c = true)
      (hafter : ∀ c ∈ after, isBlank c = true) (hunset : given.lookup name = none)
      (hline : DotFile.firstLine? name (linesOf file)
        = some (before ++ (name.toList ++ '=' :: text) ++ after))

section
variable {given : Variables} {file : Option String}

/-- A variable after the file was loaded. -/
theorem lookup_loaded (h : ∀ text, file = some text → DotFile.isWellFormed text.toList = true)
    (given : Variables) (name : String) :
    ∃ resolve : String → String, (loaded given file).lookup name
      = (given.lookup name).or (((DotFile.firstLine? name (linesOf file)).bind
          (DotFile.Line.written? name)).bind (DotFile.expand? resolve)) := by
  cases file with
  | none => exact ⟨fun _ => "", (Option.or_none ..).symm⟩
  | some text => exact DotFile.lookup_load (h text rfl) given name

/-- The text that is given is loaded. -/
theorem Gives.lookup_loaded {setting : Setting} {text : List Char}
    (h : Gives given file setting.variableName text)
    (hfile : ∀ text, file = some text → DotFile.isWellFormed text.toList = true)
    (htext : ∀ c ∈ text, c.isAlphanum = true) :
    ∃ value, (loaded given file).lookup setting.variableName = some value ∧
      trim value.toList = text := by
  have hblank : ∀ c ∈ text, isBlank c = false := fun c hc => isBlank_of_isAlphanum (htext c hc)
  obtain ⟨resolve, hlookup⟩ := Settings.lookup_loaded hfile given setting.variableName
  rw [hlookup]
  -- The process gives the value, blank around it, or the file does in a line of its own.
  cases h with
  | process before after hbefore hafter hset =>
    refine ⟨_, by rw [hset, Option.some_or], ?_⟩
    rw [String.toList_ofList]
    exact trim_padded hbefore hblank hafter
  | file before after hbefore hafter hunset hline =>
    obtain ⟨c, rest, hname, hc, hrest⟩ := setting.variableName_eq_cons
    have hparse := DotFile.parse_assign hc hrest htext hbefore hafter
    rw [← hname, String.ofList_toList] at hparse
    have hwritten : DotFile.Line.written? setting.variableName
        (before ++ (setting.variableName.toList ++ '=' :: text) ++ after) = some text := by
      simp only [DotFile.Line.written?, hparse, if_true]
    refine ⟨String.ofList text, ?_, ?_⟩
    · rw [hunset, hline, Option.none_or, Option.bind_some, hwritten, Option.bind_some,
        DotFile.expand?_plain resolve htext]
    · rw [String.toList_ofList]
      exact trim_eq_self hblank

/-- The assignments that variables make when they give the values of a choice. -/
theorem assignments_of_choice {choice : Choice} (settings : List Setting)
    (hgiven : ∀ setting a, choice.value? setting = some a →
      ∃ text, given.lookup setting.variableName = some text ∧ setting.read text = .ok a)
    (habsent : ∀ setting, choice.value? setting = none →
      given.lookup setting.variableName = none) :
    assignments given settings = .ok (settings.filterMap choice.value?) := by
  induction settings with
  | nil => rfl
  | cons setting settings ih =>
    rw [List.filterMap_cons]
    cases hvalue : choice.value? setting with
    | none =>
      rw [assignments, habsent setting hvalue]
      exact ih
    | some a =>
      obtain ⟨text, htext, hread⟩ := hgiven setting a hvalue
      rw [assignments, htext]
      dsimp only
      rw [hread, ih]
      rfl

/-- The first variable whose text is no value of its setting is reported. -/
theorem assignments_of_fault {before : List Setting} {setting : Setting} {text : String}
    (after : List Setting)
    (hbefore : ∀ s ∈ before, ∀ text, given.lookup s.variableName = some text →
      s.IsValue (trim text.toList))
    (htext : given.lookup setting.variableName = some text)
    (hfault : ¬ setting.IsValue (trim text.toList)) :
    ∃ fault : Plain.Fault, assignments given (before ++ setting :: after)
      = .error (setting.variableName ++ ": " ++ fault.message) := by
  -- By induction on the settings that come before, all of which are read.
  induction before with
  | nil =>
    cases hread : setting.read text with
    | ok a => exact absurd ((setting.exists_read_iff text).1 ⟨a, hread⟩) hfault
    | error fault =>
      refine ⟨fault, ?_⟩
      rw [List.nil_append, assignments, htext]
      dsimp only
      rw [hread]
  | cons first before ih =>
    obtain ⟨fault, hrest⟩ := ih fun s hs => hbefore s (List.mem_cons_of_mem _ hs)
    refine ⟨fault, ?_⟩
    rw [List.cons_append, assignments]
    cases hfirst : given.lookup first.variableName with
    | none => exact hrest
    | some value =>
      obtain ⟨a, ha⟩ := (first.exists_read_iff value).2
        (hbefore first List.mem_cons_self value hfirst)
      dsimp only
      rw [ha, hrest]
      rfl

end

end Settings

namespace Choice

/-- Variables and a file, if there is one, give values to the settings that the choice is about and
to no others. All lines of the file are well formed. -/
structure GivenBy (choice : Choice) (given : Variables) (file : Option String) : Prop where
  wellFormed : ∀ text, file = some text → DotFile.isWellFormed text.toList = true
  values : ∀ setting a, choice.value? setting = some a →
    ∃ text, a.WrittenAs text ∧ Settings.Gives given file setting.variableName text
  others : ∀ setting, choice.value? setting = none →
    given.lookup setting.variableName = none ∧
      DotFile.firstLine? setting.variableName (Settings.linesOf file) = none

/-- Variables make the assignments of the choice that they give. -/
theorem GivenBy.assignments {choice : Choice} {given : Variables} {file : Option String}
    (h : choice.GivenBy given file) :
    Settings.assignments (Settings.loaded given file) Setting.all = .ok choice.assignments := by
  refine Settings.assignments_of_choice Setting.all ?_ ?_
  · intro setting a ha
    obtain ⟨text, hwritten, hgives⟩ := h.values setting a ha
    -- What is loaded is read the same way as what was written.
    obtain ⟨value, hvalue, rfl⟩ := hgives.lookup_loaded h.wellFormed hwritten.isAlphanum
    exact ⟨value, hvalue, Setting.read_of_writtenAs ha hwritten⟩
  · intro setting hnone
    obtain ⟨hunset, hline⟩ := h.others setting hnone
    obtain ⟨resolve, hlookup⟩ := Settings.lookup_loaded h.wellFormed given setting.variableName
    rw [hlookup, hunset, hline]
    rfl

end Choice

end JobScheduling
