import JobScheduling.Pool.Workers
import JobScheduling.Settings.Basic
import JobScheduling.Table

/-!
# Nodes

A `Node` runs jobs on a pool of its own. It holds the jobs it has taken on: `held` leads
from a reference id to the number of the job's ticket. A node that was shut down takes on
nothing more.
-/

set_option autoImplicit false

namespace JobScheduling

/-- A node of the scheduler. -/
structure Node where
  settings : Settings
  pool : Pool
  /-- The ticket of each job that the node holds. -/
  held : Table Nat := {}
  isShutDown : Bool := false

namespace Node

/-- The reason for a cancellation that a client asked for. -/
def cancelReason : String := "task cancelled"

/-- The reason for the cancellation of a job that took too long or was abandoned. -/
def timeoutReason : String := "task cancelled (timeout)"

/-- A node that starts next to a shared queue with this retention. Without work to do for
its jobs it cannot start. -/
def new (settings : Settings) (retention : Option Nat) (priority : Priority)
    (work : Option (Job → Work)) : Except Error Node :=
  match work with
  | none => .error (.invalidSettings "a job executor is required")
  | some work =>
    match settings.fault? with
    | some fault => .error (.invalidSettings fault.message)
    | none =>
      match settings.retentionFault? retention with
      | some fault => .error (.invalidSettings fault.message)
      | none => (Pool.new settings.pool work priority).map fun pool => { settings, pool }

/-- Whether the node cleans up old files when it starts. -/
def cleansUp (n : Node) : Bool := n.settings.cleanup

/-- The ticket of a job that the node holds. -/
def ticket? (id : String) (n : Node) : Option Ticket :=
  (n.held.find? id).bind fun number => n.pool.tickets[number]?

/-- Stops the node and its pool. -/
def shutDown (n : Node) : Node :=
  if n.isShutDown then n else { n with isShutDown := true, pool := n.pool.shutDown }

/-- Stops the node, and ends the work that is still going on, each in its way. -/
def stop (lastly : Job → WorkEnd) (n : Node) : Node :=
  let n := n.shutDown
  { n with pool := n.pool.endAll lastly }

/-- Hands a job to the pool and holds it. -/
def take (job : Job) (n : Node) : Except Error Node :=
  match n.pool.submit job with
  | .error e => .error e
  | .ok (ticket, pool) => .ok { n with pool, held := n.held.insert job.id ticket }

/-- Lets go of a job. -/
def drop (id : String) (n : Node) : Node := { n with held := n.held.erase id }

/-- Cancels the ticket of a job that the node holds. -/
def cancelTicket (id : String) (n : Node) : Node :=
  match n.held.find? id with
  | none => n
  | some ticket => { n with pool := (n.pool.cancel ticket).2 }

/-- The estimated time until a waiting job starts. Of the jobs recorded up to it, those
that have not ended and have no worker queue up in rounds of the average duration. -/
def estimateWait (request completed capacity average : Nat) : Nat :=
  let capacity := max capacity 1
  capped ((request - completed - capacity) / capacity * average)

end Node

end JobScheduling
