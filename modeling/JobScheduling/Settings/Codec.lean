import JobScheduling.Json.Members
import JobScheduling.Settings.Basic

/-!
# Settings as documents

Settings are written as a record with one field for each setting. What is read may leave
settings out, and these keep their defaults: a record any of them, a list those at its
end. A document that is read is refused when it is malformed, and its settings when they
have a fault.
-/

set_option autoImplicit false

namespace JobScheduling

/-- The value of an assignment in a document. -/
def Assignment.encode : Assignment → Json
  | number _ value => .ofNat value
  | switch _ value => .bool value

/-- Reads a value for a setting. -/
def Setting.decode? : Setting → Tree → Option Assignment
  | number setting, tree => tree.word?.map (.number setting)
  | switch setting, tree => tree.bool?.map (.switch setting)

namespace Settings

/-- The settings as a document. -/
def encode (s : Settings) : Json :=
  .record (Setting.all.map fun setting => (setting.name, (s.assignment setting).encode))

/-- The assignments that a document makes, in the order of the settings. -/
def assignments? (tree : Tree) : Option (List Assignment) := do
  let found ← tree.members? true Setting.names
  let given := Setting.all.filterMap fun setting =>
    (found.lookup setting.name).map fun value => (setting, value)
  -- One wrong value spoils the document, wherever it stands.
  given.mapM fun (setting, value) => setting.decode? value

/-- What is wrong with a document that should hold settings. -/
inductive DocumentFault
  | malformed
  | invalid (message : String)
  deriving DecidableEq, Repr

/-- The settings that a document holds, with defaults for a host with so many cores. -/
def ofDocument (cores : Nat) (document : String) : Except DocumentFault Settings :=
  match (Tree.parse? document).bind assignments? with
  | none => .error .malformed
  | some assignments =>
    match ((standard cores).assignAll assignments).checked with
    | .error message => .error (.invalid message)
    | .ok settings => .ok settings

end Settings

namespace PoolSettings

/-- The names of the members of settings of a pool. -/
def members : List String := ["worker_count", "thread_stack_size", "thread_name_prefix"]

/-- The settings as a document. -/
def encode (s : PoolSettings) : Json :=
  .record [("worker_count", .ofNat s.workers), ("thread_stack_size", .ofNat s.stackSize),
    ("thread_name_prefix", .text s.workerName)]

/-- Reads settings of a pool. Missing members have their defaults, null has none. -/
def decode? (cores : Nat) (tree : Tree) : Option PoolSettings := do
  let found ← tree.members? true members
  let given {α : Type} (name : String) (read : Tree → Option α) (default : α) : Option α :=
    match found.lookup name with
    | none => some default
    | some value => read value
  let workers ← given "worker_count" Tree.word? cores
  let stackSize ← given "thread_stack_size" Tree.word? defaultStackSize
  let workerName ← given "thread_name_prefix" Tree.text? defaultWorkerName
  return { workers, stackSize, workerName }

/-- The settings of a pool that a document holds. -/
def ofDocument? (cores : Nat) (document : String) : Option PoolSettings :=
  (Tree.parse? document).bind (decode? cores)

end PoolSettings

end JobScheduling
