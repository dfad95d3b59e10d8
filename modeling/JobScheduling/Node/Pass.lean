import JobScheduling.Node.Requests

/-!
# Reconciliation passes

A pass brings the jobs that a node holds and the shared queue in line. It examines every
held job and cancels those that are overdue, then reports the finished ones to the shared
queue and lets go of them. On a clustered node it goes on to cancel the overdue jobs of
all nodes, to stop the jobs that others were asked to cancel, and to claim waiting jobs
for the free workers.

The held jobs are visited in the order that `scan` gives them. A refusal of the shared
queue while a job is reported concerns that job only. A crash, or a refusal elsewhere,
ends the pass, and what it did before stays done.
-/

set_option autoImplicit false

namespace JobScheduling

namespace Node

variable {σ : Type}

/-- What the examination of a held job found. -/
inductive Finding
  /-- The job goes on. -/
  | active
  | finished
  /-- The job was overdue, and its ticket was cancelled just now. -/
  | expired
  deriving DecidableEq, Repr

/-- Whether a job has taken longer than the node allows. -/
def isTimedOut (now : Nat) (job : Job) (n : Node) : Bool :=
  n.settings.timeoutSecs * 1000 < job.age now

/-- Whether the client of a job has not asked for it for too long. A job whose last check
is unknown does not count as abandoned. -/
def isAbandoned (service : SharedQueue σ) (id : String) : Act σ Bool := do
  let limit := (← Act.node).settings.abandonedSecs * 1000
  match ← Act.attempt (Act.ask service (service.sinceCheck id)) with
  | .ok since => return limit < since
  | .error _ => return false

/-- Whether a held job is overdue: timed out, or else abandoned. -/
def isOverdue (service : SharedQueue σ) (now : Nat) (id : String) (ticket : Ticket) :
    Act σ Bool := do
  if (← Act.node).isTimedOut now ticket.job then return true else isAbandoned service id

/-- Examines a held job and cancels its ticket when it is overdue and has not finished by
then. -/
def examine (service : SharedQueue σ) (now : Nat) (id : String) : Act σ (String × Finding) := do
  match (← Act.node).ticket? id with
  | none => return (id, .active)
  | some ticket =>
    if ticket.isFinished then return (id, .finished)
    else
      let overdue ← isOverdue service now id ticket
      -- The call can have taken so long that the job finished in the meantime.
      if ((← Act.node).ticket? id).any (·.isFinished) then return (id, .finished)
      else if overdue then
        Act.change (·.cancelTicket id)
        return (id, .expired)
      else return (id, .active)

/-- Reports the outcome of a job to the shared queue. A job that was interrupted has not
ended, and nothing is reported. -/
def report (service : SharedQueue σ) (id : String) : Outcome → Act σ Unit
  | .completed report => Act.ask service (service.finish id (.done report))
  | .failed failure => Act.ask service (service.finish id (.error failure.rootCause))
  | .cancelled => Act.ask service (service.cancel id timeoutReason true)
  | .interrupted => pure ()

/-- Lets go of a finished job and reports its outcome. -/
def settleHeld (service : SharedQueue σ) (id : String) : Act σ Unit := do
  let outcome := ((← Act.node).ticket? id).bind (·.outcome?)
  Act.change (·.drop id)
  match outcome with
  | none => pure ()
  | some outcome =>
    let _ ← Act.attempt (report service id outcome)

/-- Leaves a purge of the backlog to the workers. A pool that was shut down has none. -/
def schedulePurge (n : Node) : Node :=
  match n.pool.schedulePurge with
  | .ok pool => { n with pool }
  | .error _ => n

/-- The part of a pass that concerns the held jobs. -/
def reviewHeld (service : SharedQueue σ) (scan : Registry.Scan) (now : Nat) : Act σ Unit := do
  let findings ← Act.mapEach (examine service now) (scan (← Act.node).held.keys)
  if findings.any fun finding => finding.2 = .expired then Act.change schedulePurge
  let finished := (findings.filter fun finding => finding.2 ≠ .active).map Prod.fst
  Act.forEach (settleHeld service) finished

/-- Stops a job that was asked to stop, if it is for this node to do so: when the node
holds the job, or when no node ever claimed it. -/
def stopRequested (service : SharedQueue σ) (status : Status) : Act σ Unit := do
  match ← Act.attempt (cancelHeld service status.job.id cancelReason) with
  | .ok false =>
    if status.startedAt.isNone then
      let _ ← Act.attempt (Act.ask service (service.cancel status.job.id cancelReason true))
  | _ => pure ()

/-- Claims waiting jobs for the free workers. -/
def claim (service : SharedQueue σ) : Act σ Unit := do
  let n ← Act.node
  -- Finished jobs were let go before, so the jobs still held are those that need a worker.
  if n.held.size < n.settings.maxRunning then
    let claimed ← Act.ask service (service.startNext (n.settings.maxRunning - n.held.size))
    Act.forEach (fun status => hold status.job) claimed

/-- The part of a pass that concerns the jobs of all nodes. -/
def reviewShared (service : SharedQueue σ) : Act σ Unit := do
  let settings := (← Act.node).settings
  let _ ← Act.ask service
    (service.cancelOverdue settings.timeoutMillis settings.abandonedMillis timeoutReason)
  let requested ← Act.ask service service.toCancel
  Act.forEach (stopRequested service) requested
  claim service

/-- One pass. A node that was shut down does nothing. -/
def pass (service : SharedQueue σ) (scan : Registry.Scan) (now : Nat) : Act σ Unit := do
  if (← Act.node).isShutDown then return ()
  else
    reviewHeld service scan now
    if (← Act.node).settings.clustered then reviewShared service

/-- One pass, whichever way it ends. -/
def reconcile (service : SharedQueue σ) (scan : Registry.Scan) (now : Nat) : Act σ Unit :=
  Act.swallow (pass service scan now)

end Node

end JobScheduling
