import JobScheduling.Environment.DotFile
import JobScheduling.Settings.Basic
import JobScheduling.Text.Plain

/-!
# Settings from the environment

Every setting can be given by a variable. Its value may have blank characters around it.
A variable that is not set leaves the default, and the first one in the order of the
settings whose value is of the wrong type is reported.
-/

set_option autoImplicit false

namespace JobScheduling

/-- What the names of all variables begin with. -/
def variableStem : String := "REPORT_SCHEDULER_"

/-- The filter for log lines where the environment gives none. -/
def defaultLogFilter : String := "report_scheduler=info"

namespace Setting

/-- The variable of a setting. -/
def variableName (setting : Setting) : String := variableStem ++ setting.name.map Char.toUpper

/-- Reads the value of a variable. -/
def read (value : String) : Setting → Except Plain.Fault Assignment
  | number setting => (Plain.word (trim value.toList)).map (.number setting)
  | switch setting => (Plain.bool (trim value.toList)).map (.switch setting)

end Setting

namespace Settings

/-- The assignments that variables make to these settings, or the text of the first
fault. -/
def assignments (given : Variables) : List Setting → Except String (List Assignment)
  | [] => .ok []
  | setting :: rest =>
    match given.lookup setting.variableName with
    | none => assignments given rest
    | some value =>
      match setting.read value with
      | .error fault => .error (setting.variableName ++ ": " ++ fault.message)
      | .ok assignment => (assignments given rest).map (assignment :: ·)

/-- The settings that variables give, with defaults for a host with so many cores. -/
def ofVariables (cores : Nat) (given : Variables) : Except String Settings :=
  match assignments given Setting.all with
  | .error message => .error message
  | .ok assignments => ((standard cores).assignAll assignments).checked

/-- The settings that the environment gives after a file of variables was loaded, if there
is one. -/
def ofEnvironment (cores : Nat) (given : Variables) (file : Option String) :
    Except String Settings :=
  ofVariables cores <| match file with
    | none => given
    | some text => DotFile.load given text.toList

end Settings

end JobScheduling
