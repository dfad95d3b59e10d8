import JobScheduling.Node.Act

/-!
# Requests to a node

A client submits a job, cancels it, and asks for its status. Each request checks what can
refuse it before it changes anything.

On a node that is not clustered a submitted job is handed to the pool at once. A clustered
node leaves it in the shared queue, for whichever node claims it.
-/

set_option autoImplicit false

namespace JobScheduling

namespace Node

variable {σ : Type}

/-- Hands a job to the pool of the node and holds it. -/
def hold (job : Job) : Act σ Unit := do
  match (← Act.node).take job with
  | .error e => Act.refuse e
  | .ok node => Act.change fun _ => node

/-- If the node holds the job, cancels its ticket, lets go of it and records that it has
stopped. Says whether the node held it. -/
def cancelHeld (service : SharedQueue σ) (id reason : String) : Act σ Bool := do
  if (← Act.node).held.contains id then
    -- The node lets go before it tells the queue, which may refuse.
    Act.change fun n => (n.cancelTicket id).drop id
    Act.ask service (service.cancel id reason true)
    return true
  else return false

/-- Records a job in the shared queue and, unless the node is clustered, runs it here. A
job that cannot be run here after all is recorded as canceled. -/
def submit (service : SharedQueue σ) (job : Job) : Act σ Unit := do
  if (← Act.node).isShutDown then Act.refuse .poolShutDown
  else if job.hasBlankOwner then Act.refuse (.accessDenied job.id)
  else
    let waiting ← Act.ask service service.waitingCount
    let limit := (← Act.node).settings.maxWaiting
    if limit ≤ waiting then Act.refuse (.capacityExceeded waiting limit)
    else
      Act.ask service (service.add job)
      if (← Act.node).settings.clustered then return ()
      else
        match ← Act.attempt (hold job) with
        | .ok () => return ()
        | .error e =>
          let _ ← Act.attempt (Act.ask service (service.cancel job.id cancelReason true))
          Act.refuse e

/-- Refuses a caller to whom a job does not answer. -/
def authorize (job : Job) (credential : Option String) : Act σ Unit :=
  if job.admits credential then pure () else Act.refuse (.accessDenied job.id)

/-- Asks a job to stop. If the node holds it, it is stopped at once. -/
def cancel (service : SharedQueue σ) (id : String) (credential : Option String) :
    Act σ Unit := do
  let status ← Act.ask service (service.get id false)
  authorize status.job credential
  -- The job that the node holds can be an earlier one of the same id.
  match (← Act.node).ticket? id with
  | none => pure ()
  | some ticket => authorize ticket.job credential
  Act.ask service (service.cancel id cancelReason false)
  let _ ← cancelHeld service id cancelReason

/-- The status of a job, with an estimate of the time that a waiting job still waits. The
request counts as a status check by the client. -/
def status (service : SharedQueue σ) (id : String) (credential : Option String) :
    Act σ Status := do
  let status ← Act.ask service (service.get id true)
  authorize status.job credential
  if status.stage = .waiting then
    let completed ← Act.ask service service.completedCount
    let average ← Act.ask service service.averageDuration
    let capacity := (← Act.node).settings.maxRunning
    return { status with waitingTime := estimateWait status.request completed capacity average }
  else return status

end Node

end JobScheduling
