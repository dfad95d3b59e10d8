import JobScheduling.Registry.Basic

/-!
# Runs of the registry

A `Registry.Request` is one operation on the shared queue, and `Registry.serve` serves it.
A run is a list of requests with the times at which they are made.
-/

set_option autoImplicit false

namespace JobScheduling

namespace Registry

/-- An operation on the shared queue. -/
inductive Request
  | add (job : Job)
  | get (id : String) (external : Bool)
  | start (id : String)
  | startNext (n : Nat)
  | done (id : String) (report : Report)
  | fail (id : String) (cause : String)
  | cancel (id : String) (reason : String) (immediate : Bool)
  | cancelOverdue (timeout abandoned : Nat) (reason : String)
  | toCancel
  | purge
  | sinceCheck (id : String)
  deriving DecidableEq, Repr

/-- What the shared queue answers. -/
inductive Answer
  | unit
  | status (status : Status)
  | statuses (statuses : List Status)
  | count (n : Nat)
  | refused (error : Error)
  deriving DecidableEq, Repr

/-- The answer of an operation that can be refused. -/
def Answer.of {α : Type} (f : α → Answer) : Except Error α → Answer
  | .ok a => f a
  | .error e => .refused e

/-- Serves one request. -/
def serve (scan : Scan) (now : Nat) (request : Request) (q : Registry) : Answer × Registry :=
  let unit (result : Except Error Unit × Registry) : Answer × Registry :=
    (.of (fun _ => .unit) result.1, result.2)
  match request with
  | .add job => unit (q.add now job)
  | .get id external =>
    let (result, q) := q.get now id external
    (.of .status result, q)
  | .start id => unit (q.start now id)
  | .startNext n =>
    let (claimed, q) := q.startNext now n
    (.statuses claimed, q)
  | .done id report => unit (q.finish now id (.done report))
  | .fail id cause => unit (q.finish now id (.error cause))
  | .cancel id reason immediate => unit (q.cancel now id reason immediate)
  | .cancelOverdue timeout abandoned reason =>
    let (count, q) := q.cancelOverdue scan now timeout abandoned reason
    (.count count, q)
  | .toCancel =>
    let (statuses, q) := q.toCancel scan now
    (.statuses statuses, q)
  | .purge => (.count (q.expiredCount now), q.purge now)
  | .sinceCheck id => (.of .count (q.sinceCheck now id), q)

/-- The registry after a run of requests, each with the time at which it is made. -/
def run (scan : Scan) (requests : List (Nat × Request)) (q : Registry) : Registry :=
  requests.foldl (fun q request => (q.serve scan request.1 request.2).2) q

end Registry

end JobScheduling
