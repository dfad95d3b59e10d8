import JobScheduling.Job.Basic

/-!
# Tickets

A pool answers an accepted job with a ticket. Whoever holds the ticket can follow the
execution and cancel it. A ticket finishes once: the first of completion, failure,
cancellation and interruption wins, and what comes later is dropped.

Cancelling a ticket finishes it at once. The worker that executes the job learns of it
from the `cancelled` mark.
-/

set_option autoImplicit false

namespace JobScheduling

/-- How a ticket finished. -/
inductive Outcome
  | completed (report : Report)
  | failed (failure : Failure)
  | cancelled
  /-- The pool was shut down before the job began. The job has not ended by that. -/
  | interrupted
  deriving DecidableEq, Repr

/-- How far the execution of a job has come. -/
inductive Progress
  | queued
  | running
  | finished (outcome : Outcome)
  deriving DecidableEq, Repr

/-- The execution of one job on a pool. -/
structure Ticket where
  job : Job
  progress : Progress := .queued
  /-- Whether a worker took the job up. -/
  started : Bool := false
  /-- Whether a request to cancel succeeded. -/
  cancelled : Bool := false
  deriving DecidableEq, Repr

namespace Ticket

/-- How the ticket finished, once it has. -/
def outcome? (t : Ticket) : Option Outcome :=
  match t.progress with
  | .finished outcome => some outcome
  | _ => none

/-- Whether the ticket has finished. -/
def isFinished (t : Ticket) : Bool := t.outcome?.isSome

/-- Finishes the ticket, unless it has finished before. -/
def finish (outcome : Outcome) (t : Ticket) : Bool × Ticket :=
  if t.isFinished then (false, t) else (true, { t with progress := .finished outcome })

/-- Cancels the ticket, unless it has finished before. -/
def cancel (t : Ticket) : Bool × Ticket :=
  if t.isFinished then (false, t)
  else (true, { t with progress := .finished .cancelled, cancelled := true })

/-- Takes the job up, unless it has begun or finished before. -/
def begin? (t : Ticket) : Bool × Ticket :=
  match t.progress with
  | .queued => (true, { t with progress := .running, started := true })
  | _ => (false, t)

/-- The first outcome wins. -/
theorem outcome?_finish (outcome : Outcome) (t : Ticket) :
    (t.finish outcome).2.outcome? = some (t.outcome?.getD outcome) := by
  unfold finish isFinished
  cases h : t.outcome? with
  | none => rfl
  | some o => simp [h]

/-- A cancelled ticket has the outcome it had, or is cancelled. -/
theorem outcome?_cancel (t : Ticket) :
    t.cancel.2.outcome? = some (t.outcome?.getD .cancelled) := by
  unfold cancel isFinished
  cases h : t.outcome? with
  | none => rfl
  | some o => simp [h]

/-- A call on a ticket. -/
inductive Call
  | begin
  | cancel
  | finish (outcome : Outcome)
  deriving DecidableEq, Repr

/-- Makes one call. -/
def call : Call → Ticket → Bool × Ticket
  | .begin => begin?
  | .cancel => cancel
  | .finish outcome => finish outcome

/-- Makes calls one after the other, and lists what they answered. -/
def calls : List Call → Ticket → List Bool × Ticket
  | [], t => ([], t)
  | c :: rest, t =>
    let (answer, t) := call c t
    let (answers, t) := calls rest t
    (answer :: answers, t)

end Ticket

end JobScheduling
