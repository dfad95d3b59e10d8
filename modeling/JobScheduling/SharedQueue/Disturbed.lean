import JobScheduling.SharedQueue.Basic

/-!
# A shared queue with disturbances

`Disturbed` is the shared queue in memory behind a connection that misbehaves on demand.
A disturbance makes calls of one method fail, or stops a node while the call goes on.
Some answers can be forced. What is behind the connection is not touched by any of that.

Of several disturbances that match a call the first one acts, and each acts a given number
of times at most.
-/

set_option autoImplicit false

namespace JobScheduling

/-- The methods of a shared queue. A cancellation that is immediate is one of its own. -/
inductive Method
  | add
  | get
  | start
  | startNext
  | done
  | fail
  | cancel
  | cancelImmediate
  | cancelOverdue
  | toCancel
  | waitingCount
  | completedCount
  | averageDuration
  | sinceCheck
  deriving DecidableEq, Repr

/-- What a disturbance does to a call. -/
inductive Effect
  /-- The call is refused with this reason. -/
  | backend (reason : String)
  /-- The call is refused as if it named an unknown job. -/
  | noSuchReference
  /-- The call crashes with this text. -/
  | crash (text : String)
  /-- The node of this number is stopped, and the call goes on. -/
  | stopNode (node : Nat)
  deriving DecidableEq, Repr

/-- A disturbance of one method, for all jobs or for one, so many times or always. -/
structure Disturbance where
  method : Method
  id : Option String := none
  effect : Effect
  times : Option Nat := none
  deriving DecidableEq, Repr

namespace Disturbance

/-- Whether the disturbance acts on a call. -/
def acts (method : Method) (id : Option String) (d : Disturbance) : Bool :=
  d.method == method && (d.id.isNone || d.id == id) && d.times != some 0

/-- The disturbance after it has acted. -/
def spent (d : Disturbance) : Disturbance := { d with times := d.times.map (· - 1) }

/-- The first disturbance that acts on a call, and all of them after that. -/
def strike (method : Method) (id : Option String) :
    List Disturbance → Option Effect × List Disturbance
  | [] => (none, [])
  | d :: rest =>
    if d.acts method id then (some d.effect, d.spent :: rest)
    else
      let (effect, rest) := strike method id rest
      (effect, d :: rest)

end Disturbance

/-- Answers that the queue gives whatever is recorded. -/
structure Forced where
  waiting : Option Nat := none
  completed : Option Nat := none
  average : Option Nat := none
  sinceCheck : Option Nat := none
  /-- The request number in every status. -/
  request : Option Nat := none
  deriving DecidableEq, Repr

/-- A shared queue in memory behind a connection that misbehaves. -/
structure Disturbed where
  registry : Registry
  disturbances : List Disturbance := []
  forced : Forced := {}
  /-- The nodes that were stopped by disturbances. -/
  stopped : List Nat := []

namespace Disturbed

/-- A call on the shared queue behind the connection. -/
def through {α : Type} (method : Method) (id : Option String) (call : Call Registry α) :
    Call Disturbed α := fun q =>
  let (effect, disturbances) := Disturbance.strike method id q.disturbances
  let q := { q with disturbances }
  let pass (q : Disturbed) : Except Fault α × Disturbed :=
    let (answer, registry) := call q.registry
    (answer, { q with registry })
  match effect with
  | some (.backend reason) => (.error (.refused (.backend reason)), q)
  | some .noSuchReference => (.error (.refused (.noSuchReference (id.getD ""))), q)
  | some (.crash text) => (.error (.crashed text), q)
  | some (.stopNode node) => pass { q with stopped := node :: q.stopped }
  | none => pass q

/-- A call whose answer can be forced. -/
def forcing {α : Type} (force : Forced → α → α) (call : Call Disturbed α) : Call Disturbed α :=
  fun q =>
    let (answer, q) := call q
    (answer.map (force q.forced), q)

/-- A status with the forced request number. -/
def forceStatus (forced : Forced) (status : Status) : Status :=
  { status with request := forced.request.getD status.request }

/-- The calls of one node on the queue at one time. The work of a node that is stopped
ends as `lastly` says. -/
def service (scan : Registry.Scan) (lastly : Job → WorkEnd) (now node : Nat) :
    SharedQueue Disturbed :=
  let plain := Registry.service scan now
  { add := fun job => through .add (some job.id) (plain.add job)
    get := fun id external =>
      forcing forceStatus (through .get (some id) (plain.get id external))
    start := fun id => through .start (some id) (plain.start id)
    startNext := fun n =>
      forcing (fun f => List.map (forceStatus f)) (through .startNext none (plain.startNext n))
    finish := fun id ending =>
      let method := match ending with
        | .done _ => .done
        | .error _ => .fail
      through method (some id) (plain.finish id ending)
    cancel := fun id reason immediate =>
      through (if immediate then .cancelImmediate else .cancel) (some id)
        (plain.cancel id reason immediate)
    cancelOverdue := fun timeout abandoned reason =>
      through .cancelOverdue none (plain.cancelOverdue timeout abandoned reason)
    toCancel :=
      forcing (fun f => List.map (forceStatus f)) (through .toCancel none plain.toCancel)
    waitingCount :=
      forcing (fun f n => f.waiting.getD n) (through .waitingCount none plain.waitingCount)
    completedCount :=
      forcing (fun f n => f.completed.getD n) (through .completedCount none plain.completedCount)
    averageDuration :=
      forcing (fun f n => f.average.getD n) (through .averageDuration none plain.averageDuration)
    sinceCheck := fun id =>
      forcing (fun f n => f.sinceCheck.getD n) (through .sinceCheck (some id) (plain.sinceCheck id))
    meanwhile := fun q n => if q.stopped.contains node then n.stop lastly else n }

end Disturbed

end JobScheduling
