import JobScheduling.Environment.DotFile
import JobScheduling.Proofs.Text.Values

/-!
# `JobScheduling.Proofs.Environment.Loaded`: what a file of variables leaves in the environment

A file is read in logical lines (`DotFile.lines`). When all of them are well formed the result can
be said without the loader (`lookup_load`): a variable that is set stays as it is, and any other one
has the value that the first line for it gives, with the references in it resolved in some way.

* Whether a written value is malformed does not depend on what references stand for
  (`isSome_expand?`), so it is a property of the line (`Line.isWellFormed`).
* A value of letters and digits holds no references and stands for itself (`expand?_plain`).
* A line of a name, an equals sign and such a value says what it seems to say (`parse_assign`).
-/

set_option autoImplicit false

namespace JobScheduling

namespace DotFile

/-- The logical lines of a file. -/
def lines (file : List Char) : List (Option (List Char)) :=
  logicalLines [] .plain (physicalLines (if file.head? = some '\ufeff' then file.tail else file))

/-- A file is loaded line by line. -/
theorem load_eq (set : Variables) (file : List Char) :
    load set file = loadLines set [] (lines file) := rfl

/-- The value that a logical line writes for a variable. -/
def Line.written? (name : String) (line : List Char) : Option (List Char) :=
  match Line.parse line with
  | .assign n written => if n = name then some written else none
  | _ => none

/-- Whether a line says something, and its value can be expanded. -/
def Line.isWellFormed (line : List Char) : Bool :=
  match Line.parse line with
  | .nothing => true
  | .assign _ written => (expand? (fun _ => "") written).isSome
  | .malformed => false

/-- Whether all lines are well formed, and the file does not end within one. -/
def isWellFormed (file : List Char) : Bool :=
  (lines file).all fun line => line.any Line.isWellFormed

/-- The first line of a file for a variable. -/
def firstLine? (name : String) (lines : List (Option (List Char))) : Option (List Char) :=
  lines.findSome? fun line => line.filter fun l => (Line.written? name l).isSome

/-! ### Expansion -/

namespace Expansion

/-- Two expansions that differ in their characters only. -/
structure Alike (e e' : Expansion) : Prop where
  inDouble : e.inDouble = e'.inDouble
  mode : e.mode = e'.mode

variable (resolve resolve' : String → String) {e e' : Expansion}

/-- One character more on both sides. -/
theorem Alike.push (h : e.Alike e') (c : Char) : (e.push c).Alike (e'.push c) := ⟨h.inDouble, rfl⟩

/-- The same mode on both sides. -/
theorem Alike.enter (h : e.Alike e') (mode : ValueMode) : (e.enter mode).Alike (e'.enter mode) :=
  ⟨h.inDouble, rfl⟩

/-- References may stand for different texts. -/
theorem Alike.refer (h : e.Alike e') (name : List Char) :
    (e.refer resolve name).Alike (e'.refer resolve' name) := ⟨h.inDouble, rfl⟩

/-- A character outside quotes is taken in the same way. -/
theorem Alike.takeText (h : e.Alike e') (c : Char) : (e.takeText c).Alike (e'.takeText c) := by
  unfold Expansion.takeText
  rw [h.inDouble]
  repeat' split
  all_goals first | exact h.enter _ | exact h.push c | exact ⟨rfl, h.mode⟩

/-- One character is malformed next to both, or leaves them alike. -/
theorem Alike.take (h : e.Alike e') (c : Char) :
    Option.Rel Alike (e.take resolve c) (e'.take resolve' c) := by
  unfold Expansion.take
  rw [← h.mode]
  -- What a character does depends on the mode and on the quotes, and not on what was read.
  cases e.mode with
  | text => exact .some (h.takeText c)
  | comment => exact .some h
  | ended =>
    dsimp only
    split
    · exact .some h
    split
    · exact .some (h.enter _)
    · exact .none
  | escape =>
    dsimp only
    split
    · exact .some (h.push _)
    split
    · exact .some (h.push c)
    · exact .none
  | single =>
    dsimp only
    split
    · exact .some (h.enter _)
    · exact .some ((h.push c).enter _)
  | name read =>
    have hrefer := h.refer resolve resolve' read
    dsimp only
    split
    · exact .some (h.enter _)
    split
    · exact .some (h.enter _)
    split
    · exact .some (hrefer.enter _)
    · exact .some (hrefer.push c)
  | braced read =>
    dsimp only
    split
    · exact .some (h.refer resolve resolve' read)
    · exact .some (h.enter _)

/-- The same of a text. -/
theorem Alike.foldlM_take (h : e.Alike e') (written : List Char) :
    Option.Rel Alike (written.foldlM (Expansion.take resolve) e)
      (written.foldlM (Expansion.take resolve') e') := by
  induction written generalizing e e' with
  | nil => exact .some h
  | cons c written ih =>
    rw [List.foldlM_cons, List.foldlM_cons]
    have hc := h.take resolve resolve' c
    generalize e.take resolve c = f at hc ⊢
    generalize e'.take resolve' c = f' at hc ⊢
    cases hc with
    | none => exact .none
    | some halike => exact ih halike

/-- Two such expansions end well or badly together. -/
theorem Alike.isSome_result? (h : e.Alike e') :
    (e.result? resolve).isSome = (e'.result? resolve').isSome := by
  have hclosed {e e' : Expansion} (h : e.Alike e') :
      ((some e).bind fun e =>
          if e.inDouble then none else some (String.ofList e.value.reverse)).isSome
        = ((some e').bind fun e =>
          if e.inDouble then none else some (String.ofList e.value.reverse)).isSome := by
    simp only [Option.bind_some, h.inDouble]
    split <;> rfl
  unfold result?
  rw [← h.mode]
  -- In the middle of a name the reference ends with the value. In braces or quotes the value is not
  -- closed.
  cases e.mode with
  | name read => exact hclosed (h.refer resolve resolve' read)
  | braced | single => rfl
  | text | escape | ended | comment => exact hclosed h

end Expansion

/-- A written value is malformed or not, whatever references stand for. -/
theorem isSome_expand? (resolve resolve' : String → String) (written : List Char) :
    (expand? resolve written).isSome = (expand? resolve' written).isSome := by
  unfold expand?
  split
  · rfl
  · -- Both expansions go through the same text, and only the values put in differ.
    have hstart : Expansion.Alike {} {} := ⟨rfl, rfl⟩
    have hrel := hstart.foldlM_take resolve resolve' written
    generalize written.foldlM (Expansion.take resolve) {} = f at hrel ⊢
    generalize written.foldlM (Expansion.take resolve') {} = f' at hrel ⊢
    cases hrel with
    | none => rfl
    | some halike => exact halike.isSome_result? resolve resolve'

/-! ### Lines of a name and a plain value -/

/-- Characters of names are visible. -/
theorem isBlank_of_continuesName {c : Char} (h : continuesName c = true) : isBlank c = false := by
  simp only [continuesName, Bool.or_eq_true, beq_iff_eq, or_assoc] at h
  rcases h with h | rfl | rfl
  · exact isBlank_of_isAlphanum h
  · decide
  · decide

/-- What can begin a name can stand in it. -/
theorem continuesName_of_beginsName {c : Char} (h : beginsName c = true) :
    continuesName c = true := by
  simp only [beginsName, continuesName, Char.isAlphanum, Bool.or_eq_true] at h ⊢
  exact .inl (h.imp_left .inl)

/-- A letter or digit outside quotes stands for itself. -/
theorem Expansion.takeText_of_isAlphanum {e : Expansion} (he : e.inDouble = false) {c : Char}
    (hc : c.isAlphanum = true) : e.takeText c = e.push c := by
  -- None of the characters that are told apart is a letter or digit.
  have hother {d : Char} (hd : d.isAlphanum = false) : c ≠ d := by
    rintro rfl
    rw [hc] at hd
    cases hd
  unfold takeText
  rw [he, if_neg (hother rfl), if_neg (hother rfl), if_neg (hother rfl),
    if_neg Bool.false_ne_true, if_neg (hother rfl),
    if_neg (not_or.2 ⟨hother rfl, hother rfl⟩)]

/-- Letters and digits are taken as they stand. -/
theorem Expansion.foldlM_take_plain (resolve : String → String) {written : List Char}
    (h : ∀ c ∈ written, c.isAlphanum = true) (value : List Char) :
    written.foldlM (Expansion.take resolve) { value }
      = some { value := written.reverse ++ value } := by
  induction written generalizing value with
  | nil => rfl
  | cons c written ih =>
    have htake : Expansion.take resolve { value } c = some { value := c :: value } :=
      congrArg some (takeText_of_isAlphanum rfl (h c List.mem_cons_self))
    rw [List.foldlM_cons, htake]
    refine (ih (fun d hd => h d (List.mem_cons_of_mem _ hd)) (c :: value)).trans ?_
    rw [List.reverse_cons, List.append_assoc, List.singleton_append]

/-- A value of letters and digits stands for itself. -/
theorem expand?_plain (resolve : String → String) {written : List Char}
    (h : ∀ c ∈ written, c.isAlphanum = true) :
    expand? resolve written = some (String.ofList written) := by
  have hcomment : ¬ written.head? = some '#' := by
    intro hhead
    exact absurd (h '#' (List.mem_of_mem_head? hhead)) (by decide)
  unfold expand?
  rw [if_neg hcomment, Expansion.foldlM_take_plain resolve h, List.append_nil]
  show some (String.ofList written.reverse.reverse) = _
  rw [List.reverse_reverse]

/-- What a name, an equals sign and a plain value say, with blank characters around them. -/
theorem parse_assign {c : Char} {name written before after : List Char}
    (hc : beginsName c = true) (hname : ∀ d ∈ name, continuesName d = true)
    (hwritten : ∀ d ∈ written, d.isAlphanum = true) (hbefore : ∀ d ∈ before, isBlank d = true)
    (hafter : ∀ d ∈ after, isBlank d = true) :
    Line.parse (before ++ (c :: name ++ '=' :: written) ++ after)
      = .assign (String.ofList (c :: name)) written := by
  have hblank : ∀ d ∈ c :: name ++ '=' :: written, isBlank d = false := by
    simp only [List.cons_append, List.mem_cons, List.mem_append]
    rintro d (rfl | hd | rfl | hd)
    · exact isBlank_of_continuesName (continuesName_of_beginsName hc)
    · exact isBlank_of_continuesName (hname d hd)
    · decide
    · exact isBlank_of_isAlphanum (hwritten d hd)
  -- The name ends at the equals sign.
  have hread : name? (c :: name ++ '=' :: written) = some (c :: name, '=' :: written) := by
    have hstops : continuesName '=' = false := by decide
    rw [List.cons_append, name?, if_pos hc, List.takeWhile_append_of_pos hname,
      List.dropWhile_append_of_pos hname, List.takeWhile_cons, List.dropWhile_cons, hstops,
      if_neg Bool.false_ne_true, if_neg Bool.false_ne_true, List.append_nil]
  have hvalue : written.dropWhile isBlank = written :=
    dropWhile_isBlank fun d hd => isBlank_of_isAlphanum (hwritten d hd)
  -- The line begins with a letter, so it is not empty and no comment.
  have hsays : ¬ ((c :: name ++ '=' :: written).isEmpty = true ∨
      (c :: name ++ '=' :: written).head? = some '#') := by
    rintro (hempty | hcomment)
    · cases hempty
    · cases hcomment
      exact absurd hc (by decide)
  unfold Line.parse
  rw [trim_padded hbefore hblank hafter]
  dsimp only
  rw [if_neg hsays, hread]
  show Line.assign (String.ofList (c :: name)) (written.dropWhile isBlank) = _
  rw [hvalue]

/-! ### The loader -/

/-- A variable after a line has set it, unless it was set. -/
theorem lookup_set (set : Variables) (other value name : String) :
    (if (set.lookup other).isSome then set else set ++ [(other, value)]).lookup name
      = (set.lookup name).or (if other = name then some value else none) := by
  -- The variable that is set, and the others, which stay as they are.
  by_cases hother : other = name
  · subst hother
    rw [if_pos rfl]
    cases hset : set.lookup other with
    | some v => rw [if_pos Option.isSome_some, hset, Option.some_or]
    | none =>
      rw [if_neg (by simp), List.lookup_append, hset, List.lookup_cons_self]
  · rw [if_neg hother, Option.or_none]
    split
    · rfl
    · have hdiffer : (name == other) = false := by simpa using Ne.symm hother
      rw [List.lookup_append, List.lookup_cons, hdiffer, List.lookup_nil, Option.or_none]

/-- The variables after well-formed lines were loaded. -/
theorem lookup_loadLines {lines : List (Option (List Char))}
    (h : ∀ line ∈ lines, line.any Line.isWellFormed = true) (set read : Variables)
    (name : String) :
    ∃ resolve : String → String, (loadLines set read lines).lookup name
      = (set.lookup name).or (((firstLine? name lines).bind (Line.written? name)).bind
          (expand? resolve)) := by
  induction lines generalizing set read with
  | nil => exact ⟨fun _ => "", (Option.or_none ..).symm⟩
  | cons line lines ih =>
    obtain ⟨l, rfl, hl⟩ := (Option.any_eq_true ..).1 (h line List.mem_cons_self)
    have ih (set read) := ih (fun line hline => h line (List.mem_cons_of_mem _ hline)) set read
    -- A line that is not for the variable is passed over.
    have hskip (hl : Line.written? name l = none) :
        firstLine? name (some l :: lines) = firstLine? name lines := by
      simp [firstLine?, hl]
    unfold Line.isWellFormed at hl
    cases hparse : Line.parse l with
    | nothing =>
      obtain ⟨resolve, hlookup⟩ := ih set read
      refine ⟨resolve, ?_⟩
      rw [hskip (by simp only [Line.written?, hparse]), ← hlookup]
      simp only [loadLines, hparse]
    | malformed =>
      rw [hparse] at hl
      cases hl
    | assign other written =>
      rw [hparse] at hl
      have hexpands := (isSome_expand? (DotFile.resolve set read) _ written).trans hl
      obtain ⟨value, hvalue⟩ := Option.isSome_iff_exists.1 hexpands
      obtain ⟨resolve, hlookup⟩ := ih
        (if (set.lookup other).isSome then set else set ++ [(other, value)])
        ((other, value) :: read)
      rw [lookup_set] at hlookup
      have hload : loadLines set read (some l :: lines) = loadLines
          (if (set.lookup other).isSome then set else set ++ [(other, value)])
          ((other, value) :: read) lines := by
        simp only [loadLines, hparse, hvalue]
      by_cases hother : other = name
      · have hwritten : Line.written? name l = some written := by
          simp only [Line.written?, hparse, if_pos hother]
        have hfirst : firstLine? name (some l :: lines) = some l := by
          simp [firstLine?, hwritten]
        refine ⟨DotFile.resolve set read, ?_⟩
        rw [hload, hlookup, if_pos hother, hfirst, Option.bind_some, hwritten, Option.bind_some,
          hvalue, Option.or_assoc, Option.some_or]
      · refine ⟨resolve, ?_⟩
        rw [hload, hlookup, if_neg hother, Option.or_none, hskip]
        simp only [Line.written?, hparse, if_neg hother]

/-- The variables after a well-formed file was loaded: those that were set, and what the first line
gives for any other. -/
theorem lookup_load {file : List Char} (h : isWellFormed file = true) (set : Variables)
    (name : String) :
    ∃ resolve : String → String, (load set file).lookup name
      = (set.lookup name).or (((firstLine? name (lines file)).bind (Line.written? name)).bind
          (expand? resolve)) :=
  lookup_loadLines (List.all_eq_true.1 h) set [] name

/-- A variable that is set stays as it is, whatever the file says. -/
theorem lookup_load_of_set (file : List Char) {set : Variables} {name value : String}
    (h : set.lookup name = some value) : (load set file).lookup name = some value := by
  rw [load_eq]
  generalize lines file = lines, ([] : Variables) = read
  -- By induction on the lines, none of which changes a variable that is set.
  induction lines generalizing set read with
  | nil => exact h
  | cons line lines ih =>
    cases line with
    | none => exact h
    | some l =>
      rw [loadLines]
      split
      · exact ih h read
      · exact h
      · split
        · exact h
        · refine ih ?_ _
          rw [lookup_set, h, Option.some_or]

end DotFile

end JobScheduling
