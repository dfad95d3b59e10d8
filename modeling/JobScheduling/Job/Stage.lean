/-!
# The stages of a job

A recorded job waits, runs and ends. A request to cancel it passes through `canceling`,
so that whoever holds the job can stop it first. Three stages are final.

`Stage.canMoveTo` is the whole lifecycle. Nothing leaves a final stage, and no stage is
its own successor.
-/

set_option autoImplicit false

namespace JobScheduling

/-- Where a recorded job stands. -/
inductive Stage
  | waiting
  | running
  | canceling
  | canceled
  | done
  | error
  deriving DecidableEq, Repr, Inhabited

namespace Stage

/-- All stages. -/
def all : List Stage := [.waiting, .running, .canceling, .canceled, .done, .error]

/-- Whether the lifecycle leads from one stage to the other in one move. -/
def canMoveTo : Stage → Stage → Bool
  | .waiting, .running | .waiting, .canceling => true
  | .running, .done | .running, .error | .running, .canceling => true
  | .canceling, .canceled => true
  | _, _ => false

/-- Whether a job stays in this stage. -/
def isFinal : Stage → Bool
  | .canceled | .done | .error => true
  | .waiting | .running | .canceling => false

/-- The name of a stage. -/
def name : Stage → String
  | .waiting => "WAITING"
  | .running => "RUNNING"
  | .canceling => "CANCELING"
  | .canceled => "CANCELED"
  | .done => "DONE"
  | .error => "ERROR"

/-- The stage of a name. -/
def ofName? (s : String) : Option Stage := all.find? fun stage => stage.name == s

/-- Every stage is on the list. -/
theorem mem_all (stage : Stage) : stage ∈ all := by cases stage <;> decide

/-- A stage is found by its name. -/
theorem ofName?_name (stage : Stage) : ofName? stage.name = some stage := by
  cases stage <;> decide

/-- A stage is final exactly when no move leads out of it. -/
theorem isFinal_iff (stage : Stage) :
    stage.isFinal = true ↔ ∀ next, stage.canMoveTo next = false := by
  cases stage <;> simp only [isFinal, canMoveTo]
  · simpa using ⟨.running, rfl⟩
  · simpa using ⟨.done, rfl⟩
  · simpa using ⟨.canceled, rfl⟩
  all_goals simp

end Stage

end JobScheduling
