import JobScheduling.Error
import JobScheduling.Job.Status

/-!
# Records of the shared queue

A `Record` is a job's status together with the stages it went through and the time of
the last check by its client. The functions here are the only ones that change a stage.
Each leaves a record either as it was or with all its fields in step: a record that
starts is stamped with the time of its start, one that ends with the time of its end.

`Record.finish` takes a job to the end of its work. A job that was asked to stop ends as
canceled, whatever its work produced. A job that nobody marked as running is marked
first, since its work evidently began.
-/

set_option autoImplicit false

namespace JobScheduling

/-- How the work of a job ended. -/
inductive Ending
  | done (report : Report)
  | error (cause : String)
  deriving DecidableEq, Repr

/-- The stage in which the ending leaves a running job. -/
def Ending.stage : Ending → Stage
  | done _ => .done
  | error _ => .error

/-- A recorded job. -/
structure Record where
  status : Status
  /-- The time of the last status check by a client, or of the recording. -/
  lastCheck : Nat
  /-- Every stage so far, oldest first. -/
  history : List Stage
  deriving DecidableEq, Repr

namespace Record

/-- The record of a job that was just submitted. -/
def new (now : Nat) (job : Job) (request : Nat) : Record :=
  { status := .waiting job request, lastCheck := now, history := [.waiting] }

/-- The stage the job stands at. -/
def stage (r : Record) : Stage := r.status.stage

/-- Whether the job has ended. -/
def isFinal (r : Record) : Bool := r.stage.isFinal

/-- Whether a record has ended depends on its stage only. -/
theorem isFinal_of_stage {r : Record} {stage : Stage} (h : r.stage = stage) :
    r.isFinal = stage.isFinal := by
  rw [isFinal, h]

/-- The record one stage further. -/
def enter (next : Stage) (r : Record) : Record :=
  { r with status := { r.status with stage := next }, history := r.history ++ [next] }

/-- The error for a move that the lifecycle does not have. -/
def refusal (r : Record) (next : Stage) : Error :=
  .invalidTransition r.status.job.id r.stage next

/-- The record with the time of its start. -/
def stampStart (now : Nat) (r : Record) : Record :=
  { r with status := { r.status with startedAt := some now } }

/-- The record with the time of its end. -/
def stampEnd (now : Nat) (r : Record) : Record :=
  { r with status := { r.status with completedAt := some now } }

/-- The record with a reason for its cancellation or failure. -/
def withError (reason : String) (r : Record) : Record :=
  { r with status := { r.status with error := some reason } }

/-- Marks a waiting job as running. -/
def start (now : Nat) (r : Record) : Except Error Record :=
  match r.stage with
  | .waiting => .ok ((r.enter .running).stampStart now)
  | _ => .error (r.refusal .running)

/-- Asks a job to stop, or with `immediate` records that it has stopped. A job that was
asked before keeps the reason given then, and a job that has ended stays as it is. -/
def cancel (now : Nat) (reason : String) (immediate : Bool) (r : Record) : Record :=
  let asked := match r.stage with
    | .waiting | .running => (r.enter .canceling).withError reason
    | _ => r
  if r.isFinal || !immediate then asked else (asked.enter .canceled).stampEnd now

/-- Puts what the work produced into a record of a running job. -/
def conclude (now : Nat) (ending : Ending) (r : Record) : Record :=
  let r := (r.enter ending.stage).stampEnd now
  match ending with
  | .done report => { r with status := { r.status with report := some report } }
  | .error cause => r.withError cause

/-- Records that the work of a job ended. A job that was still waiting starts and ends at
one time, the time of the operation. -/
def finish (now : Nat) (ending : Ending) (r : Record) : Except Error Record :=
  match r.stage with
  | .canceling => .ok ((r.enter .canceled).stampEnd now)
  | .waiting => .ok (((r.enter .running).stampStart now).conclude now ending)
  | .running => .ok (r.conclude now ending)
  | _ => .error (r.refusal ending.stage)

/-- The record after a status check by a client. -/
def checked (now : Nat) (r : Record) : Record := { r with lastCheck := now }

/-- The time of the last event that keeps an ended record from expiring. -/
def lastAccess (r : Record) : Nat :=
  match r.status.completedAt with
  | none => r.lastCheck
  | some ended => max ended r.lastCheck

/-- Whether the job has ended and nobody asked for it within the retention. -/
def isExpired (now retention : Nat) (r : Record) : Bool :=
  r.isFinal && retention < elapsed now r.lastAccess

/-- Whether the job has taken too long or its client has stopped asking for it. -/
def isOverdue (now timeout abandoned : Nat) (r : Record) : Bool :=
  !r.isFinal && (timeout < r.status.job.age now || abandoned < elapsed now r.lastCheck)

/-- How long the work of a job took that ended now. -/
def duration (now : Nat) (r : Record) : Nat :=
  elapsed now (r.status.startedAt.getD r.status.job.submittedAt)

end Record

end JobScheduling
