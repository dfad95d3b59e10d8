import JobScheduling.Job.Basic
import JobScheduling.Job.Stage

/-!
# The status of a job

A `Status` is what the shared queue tells about a job. Which of its optional fields are
set depends on the stages the job went through.
-/

set_option autoImplicit false

namespace JobScheduling

/-- What is known about a recorded job. -/
structure Status where
  job : Job
  stage : Stage
  /-- The job was the how manieth to be recorded. -/
  request : Nat
  startedAt : Option Nat := none
  completedAt : Option Nat := none
  report : Option Report := none
  error : Option String := none
  /-- An estimate of the time until a waiting job starts. -/
  waitingTime : Nat := 0
  deriving DecidableEq, Repr

namespace Status

/-- The status of a job that was just recorded. -/
def waiting (job : Job) (request : Nat) : Status := { job, stage := .waiting, request }

/-- Whether the job has ended. -/
def isFinal (status : Status) : Bool := status.stage.isFinal

end Status

end JobScheduling
