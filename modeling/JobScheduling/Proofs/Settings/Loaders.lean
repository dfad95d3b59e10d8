import JobScheduling.Proofs.Settings.Document
import JobScheduling.Proofs.Settings.Environment

/-!
# `JobScheduling.Proofs.Settings.Loaders`: the same settings from the environment and a document

Settings are loaded in two ways, from variables and from a document. Each reads the values that it
is given into assignments, changes the default settings by them and checks the result. The values
are the same assignments either way (`Choice.GivenBy.assignments`, `Choice.HeldBy.assignments?`), so
all that follows is the same (`loaders_agree`).

A variable can be wrong in a way in which no choice is given by it. Then the first such variable is
reported (`Settings.Misread`).
-/

set_option autoImplicit false

namespace JobScheduling

namespace Settings

/-- The variable of a setting is there, and its text is no value of the setting, even without the
blank characters around it. -/
def Misread (given : Variables) (setting : Setting) : Prop :=
  ∃ text, given.lookup setting.variableName = some text ∧ ¬ setting.IsValue (trim text.toList)

/-- Variables that give a choice are loaded as the settings that it makes, if they have no fault. -/
theorem ofEnvironment_of_givenBy {choice : Choice} {given : Variables} {file : Option String}
    (h : choice.GivenBy given file) (cores : Nat) :
    ofEnvironment cores given file = ((standard cores).assignAll choice.assignments).checked := by
  rw [ofEnvironment_eq, ofVariables, h.assignments]

/-- A document that holds a choice is loaded as the settings that it makes, if they have no
fault. -/
theorem ofDocument_of_heldBy {choice : Choice} {document : String}
    {fields : List (List Piece × Tree)} (hparse : Tree.parse? document = some (.record fields))
    (h : choice.HeldBy fields) (cores : Nat) :
    ofDocument cores document
      = ((standard cores).assignAll choice.assignments).checked.mapError .invalid := by
  rw [ofDocument, hparse, Option.bind_some, h.assignments?]
  dsimp only
  cases ((standard cores).assignAll choice.assignments).checked <;> rfl

/-- Of the variables that are misread the first one is reported. -/
theorem ofVariables_of_misread (cores : Nat) {given : Variables} {setting : Setting}
    (h : Misread given setting) :
    ∃ before first after, Setting.all = before ++ first :: after ∧ Misread given first ∧
      (∀ s ∈ before, ¬ Misread given s) ∧ ∃ fault : Plain.Fault,
        ofVariables cores given = .error (first.variableName ++ ": " ++ fault.message) := by
  classical
  -- The first misread variable, in the order in which the settings are read.
  have hfound : (Setting.all.find? (Misread given ·)).isSome = true :=
    List.find?_isSome.2 ⟨setting, Setting.mem_all setting, decide_eq_true h⟩
  obtain ⟨first, hfirst⟩ := Option.isSome_iff_exists.1 hfound
  obtain ⟨hmisread, before, after, hall, hbefore⟩ := List.find?_eq_some_iff_append.1 hfirst
  obtain ⟨text, htext, hfault⟩ := of_decide_eq_true hmisread
  have hread : ∀ s ∈ before, ¬ Misread given s := fun s hs => by simpa using hbefore s hs
  have hvalues : ∀ s ∈ before, ∀ text, given.lookup s.variableName = some text →
      s.IsValue (trim text.toList) := by
    intro s hs value hvalue
    by_contra hwrong
    exact hread s hs ⟨value, hvalue, hwrong⟩
  obtain ⟨fault, herror⟩ := assignments_of_fault after hvalues htext hfault
  refine ⟨before, first, after, hall, ⟨text, htext, hfault⟩, hread, fault, ?_⟩
  rw [ofVariables, hall, herror]

/-- The two ways to load settings agree. Take values for some of the settings, within the range.

Variables and a file may give exactly these values, as decimal numerals and truth values: a variable
that is set may have any blank characters around its text, and for one that is not set the first
line for it in the file holds the text. And a document may hold a record with exactly these values,
in any order and among any other fields. Then both are loaded as the same settings, in which all
other values are the defaults, or refused with the message about the same fault.

When the text of some variable is no value of its setting, even without the blank characters around
it, nothing is loaded. The message begins with the name of the first such variable in the order of
the settings, whatever the other values are. A variable that is set counts as it is, whatever the
file says. -/
theorem loaders_agree (cores : Nat) :
    (∀ (choice : Choice) given file document fields, choice.GivenBy given file →
      Tree.parse? document = some (.record fields) → choice.HeldBy fields →
      ∃ s : Settings,
        (∀ setting, s.assignment setting
          = (choice.value? setting).getD ((standard cores).assignment setting)) ∧
        ofEnvironment cores given file = s.checked ∧
        ofDocument cores document = s.checked.mapError .invalid) ∧
    ∀ given file,
      let environment := loaded given file
      (∀ name text, given.lookup name = some text → environment.lookup name = some text) ∧
      ∀ setting, Misread environment setting →
        ∃ before first after, Setting.all = before ++ first :: after ∧ Misread environment first ∧
          (∀ s ∈ before, ¬ Misread environment s) ∧ ∃ fault : Plain.Fault,
            ofEnvironment cores given file = .error
              ("REPORT_SCHEDULER_" ++ first.name.map Char.toUpper ++ ": " ++ fault.message) := by
  constructor
  · intro choice given file document fields hgiven hparse hheld
    exact ⟨(standard cores).assignAll choice.assignments, assignment_assignAll choice _,
      ofEnvironment_of_givenBy hgiven cores, ofDocument_of_heldBy hparse hheld cores⟩
  · intro given file environment
    refine ⟨?_, ?_⟩
    · intro name text htext
      cases file with
      | none => exact htext
      | some file => exact DotFile.lookup_load_of_set file.toList htext
    · intro setting hmisread
      rw [ofEnvironment_eq]
      exact ofVariables_of_misread cores hmisread

/-- Four jobs at once, next to others. -/
def fourShared : Choice where
  number
    | .maxRunning => some 4
    | _ => none
  switch
    | .clustered => some true
    | _ => none
  le_maxWord := by
    intro setting value h
    cases setting <;> cases h
    decide

/-- A variable with blank characters around its value. -/
def fourSet : Variables := [("REPORT_SCHEDULER_MAX_RUNNING_JOBS", "\u00a004\n")]

/-- A file with two lines for one variable, of which the first counts. -/
def sharedFile : String :=
  "# local\nREPORT_SCHEDULER_CLUSTERED=true # for now\nREPORT_SCHEDULER_CLUSTERED=\"may be\"\n"

/-- A document with a field that is no setting. -/
def fourSharedDocument : String :=
  "\x7b\"clustered\": true, \"region\": [1e999], \"max_running_jobs\": 4\x7d"

/-- The file has two lines, both for the same variable. -/
theorem linesOf_sharedFile : linesOf (some sharedFile)
    = [some "REPORT_SCHEDULER_CLUSTERED=true ".toList,
      some "REPORT_SCHEDULER_CLUSTERED=\"may be\"".toList] := by
  decide +kernel

/-- Both lines of the shared file set the same variable. -/
theorem parse_sharedFile :
    DotFile.Line.parse "REPORT_SCHEDULER_CLUSTERED=true ".toList
        = .assign "REPORT_SCHEDULER_CLUSTERED" "true".toList ∧
      DotFile.Line.parse "REPORT_SCHEDULER_CLUSTERED=\"may be\"".toList
        = .assign "REPORT_SCHEDULER_CLUSTERED" "\"may be\"".toList := by
  decide +kernel

/-- The first line of the file counts. -/
theorem firstLine?_sharedFile (name : String) :
    DotFile.firstLine? name (linesOf (some sharedFile))
      = if "REPORT_SCHEDULER_CLUSTERED" = name then some "REPORT_SCHEDULER_CLUSTERED=true ".toList
        else none := by
  obtain ⟨hfirst, hsecond⟩ := parse_sharedFile
  rw [linesOf_sharedFile]
  by_cases hname : "REPORT_SCHEDULER_CLUSTERED" = name <;>
    simp only [DotFile.firstLine?, DotFile.Line.written?, hfirst, hsecond, hname, if_true, if_false,
      List.findSome?_cons, List.findSome?_nil, Option.filter_some, Option.isSome_some,
      Option.isSome_none, Bool.false_eq_true]

/-- One value is given by the process, one by the file, and the other settings by neither. -/
theorem givenBy_fourShared : fourShared.GivenBy fourSet (some sharedFile) where
  wellFormed := by
    rintro text ⟨⟩
    obtain ⟨hfirst, hsecond⟩ := parse_sharedFile
    show (linesOf (some sharedFile)).all _ = true
    rw [linesOf_sharedFile]
    simp only [List.all_cons, List.all_nil, Option.any_some, DotFile.Line.isWellFormed, hfirst,
      hsecond]
    decide +kernel
  values := by
    have hfour : Assignment.WrittenAs (.number .maxRunning 4) ['0', '4'] :=
      ⟨nofun, List.all_eq_true.1 rfl, rfl⟩
    rintro (setting | setting) a ha <;> cases setting <;> cases ha
    · exact ⟨_, hfour, .process ['\u00a0'] ['\n'] (List.all_eq_true.1 rfl)
        (List.all_eq_true.1 rfl) (by decide +kernel)⟩
    · exact ⟨boolText true, rfl, .file [] [' '] nofun (List.all_eq_true.1 rfl) (by decide +kernel)
        ((firstLine?_sharedFile _).trans (by decide +kernel))⟩
  others := by
    rintro (setting | setting) hnone
    all_goals
      cases setting <;> cases hnone <;>
        exact ⟨by decide +kernel, (firstLine?_sharedFile _).trans (by decide +kernel)⟩

/-- The fields of the document. -/
def fourSharedFields : List (List Piece × Tree) :=
  [("clustered".toList.map .char, .bool true),
    ("region".toList.map .char,
      .list [.number { whole := [1], exponent := some (false, [9, 9, 9]) }]),
    ("max_running_jobs".toList.map .char, .number { whole := [4] })]

/-- The document is a record. -/
theorem parse?_fourSharedDocument :
    Tree.parse? fourSharedDocument = some (.record fourSharedFields) := by rfl

/-- The same choice is held by its fields. -/
theorem heldBy_fourShared : fourShared.HeldBy fourSharedFields where
  text := by decide +kernel
  given := by
    rintro (setting | setting) a ha <;> cases setting <;> cases ha
    · exact ⟨_, rfl, [4], rfl, rfl⟩
    · exact ⟨_, rfl, rfl⟩
  absent := by
    rintro (setting | setting) hnone <;> cases setting <;> cases hnone <;> rfl

/-- Two variables whose texts are no values. -/
def misspelled : Variables :=
  [("REPORT_SCHEDULER_CLUSTERED", "yes"), ("REPORT_SCHEDULER_MAX_RUNNING_JOBS", "four")]

/-- A variable that is set wrongly is misread, although the file has a value for it. -/
theorem misread_misspelled :
    Misread (loaded misspelled (some sharedFile)) (.switch .clustered) := by
  refine ⟨"yes", DotFile.lookup_load_of_set _ (by decide +kernel), ?_⟩
  rw [← Setting.exists_read_iff]
  have hread : (Setting.switch .clustered).read "yes" = .error .notBool := by decide +kernel
  rintro ⟨a, ha⟩
  cases hread.symm.trans ha

/-- Both ways lead to four jobs at once in a clustered node. Where two variables are misspelled,
one of them is reported, and no setting before it is misread. -/
theorem loaders_agree_fourShared :
    (fourShared.GivenBy fourSet (some sharedFile) ∧
      Tree.parse? fourSharedDocument = some (.record fourSharedFields) ∧
      fourShared.HeldBy fourSharedFields ∧
      ∃ s : Settings,
        (∀ setting, s.assignment setting
          = (fourShared.value? setting).getD ((standard 8).assignment setting)) ∧
        ofEnvironment 8 fourSet (some sharedFile) = s.checked ∧
        ofDocument 8 fourSharedDocument = s.checked.mapError .invalid) ∧
    misspelled.lookup "REPORT_SCHEDULER_CLUSTERED" = some "yes" ∧
      (loaded misspelled (some sharedFile)).lookup "REPORT_SCHEDULER_CLUSTERED" = some "yes" ∧
      Misread (loaded misspelled (some sharedFile)) (.switch .clustered) ∧
      ∃ before first after, Setting.all = before ++ first :: after ∧
        Misread (loaded misspelled (some sharedFile)) first ∧
        (∀ s ∈ before, ¬ Misread (loaded misspelled (some sharedFile)) s) ∧
        ∃ fault : Plain.Fault, ofEnvironment 8 misspelled (some sharedFile) = .error
          ("REPORT_SCHEDULER_" ++ first.name.map Char.toUpper ++ ": " ++ fault.message) := by
  have hset : misspelled.lookup "REPORT_SCHEDULER_CLUSTERED" = some "yes" := by decide +kernel
  obtain ⟨hkept, hreported⟩ := (loaders_agree 8).2 misspelled (some sharedFile)
  exact ⟨⟨givenBy_fourShared, parse?_fourSharedDocument, heldBy_fourShared,
      (loaders_agree 8).1 fourShared fourSet (some sharedFile) fourSharedDocument
        fourSharedFields givenBy_fourShared parse?_fourSharedDocument heldBy_fourShared⟩,
    hset, hkept _ _ hset, misread_misspelled, hreported _ misread_misspelled⟩

/-- The one of the two that is reported is the first setting. -/
example : ofEnvironment 8 misspelled (some sharedFile)
    = .error "REPORT_SCHEDULER_MAX_RUNNING_JOBS: invalid digit found in string" := by
  decide +kernel

end Settings

end JobScheduling
