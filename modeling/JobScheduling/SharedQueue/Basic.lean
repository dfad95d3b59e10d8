import JobScheduling.Node.Basic
import JobScheduling.Registry.Basic

/-!
# The shared queue as a node sees it

A node reaches the shared queue through calls. A call is answered, refused with an error,
or crashes. What lies behind the calls is a state of type `σ`, and a `SharedQueue σ` says
how each call changes it.

While a call is under way other things can happen to the node that makes it. That is what
`meanwhile` is for: it says how the node has changed when the call is over.

`Registry.service` is the shared queue in memory. Its calls never crash and leave the
calling node alone.
-/

set_option autoImplicit false

namespace JobScheduling

/-- Why a call gave no answer. -/
inductive Fault
  | refused (error : Error)
  /-- The call crashed and left a text. -/
  | crashed (text : String)
  deriving DecidableEq, Repr

/-- A call on the shared queue. -/
abbrev Call (σ α : Type) := σ → Except Fault α × σ

/-- The calls on a shared queue with states of type `σ`, made at one time by one node. -/
structure SharedQueue (σ : Type) where
  add : Job → Call σ Unit
  /-- The status of a job. An external request is a check by the client. -/
  get : (id : String) → (external : Bool) → Call σ Status
  start : (id : String) → Call σ Unit
  startNext : (n : Nat) → Call σ (List Status)
  finish : (id : String) → Ending → Call σ Unit
  cancel : (id reason : String) → (immediate : Bool) → Call σ Unit
  cancelOverdue : (timeout abandoned : Nat) → (reason : String) → Call σ Nat
  toCancel : Call σ (List Status)
  waitingCount : Call σ Nat
  completedCount : Call σ Nat
  averageDuration : Call σ Nat
  sinceCheck : (id : String) → Call σ Nat
  /-- The calling node after a call that left the queue in this state. -/
  meanwhile : σ → Node → Node := fun _ n => n

namespace Call

/-- A call that is always answered. -/
def answer {σ α : Type} (f : σ → α × σ) : Call σ α := fun s => (.ok (f s).1, (f s).2)

/-- A call that can be refused. -/
def ofExcept {σ α : Type} (f : σ → Except Error α × σ) : Call σ α := fun s =>
  ((f s).1.mapError .refused, (f s).2)

end Call

namespace Registry

/-- The shared queue in memory at one time. Its records are visited in the order that
`scan` gives them. -/
def service (scan : Scan) (now : Nat) : SharedQueue Registry where
  add job := .ofExcept (·.add now job)
  get id external := .ofExcept (·.get now id external)
  start id := .ofExcept (·.start now id)
  startNext n := .answer (·.startNext now n)
  finish id ending := .ofExcept (·.finish now id ending)
  cancel id reason immediate := .ofExcept (·.cancel now id reason immediate)
  cancelOverdue timeout abandoned reason :=
    .answer (·.cancelOverdue scan now timeout abandoned reason)
  toCancel := .answer (·.toCancel scan now)
  waitingCount := .answer fun q => (q.waitingCount, q)
  completedCount := .answer fun q => (q.completed, q)
  averageDuration := .answer fun q => (q.averageDuration, q)
  sinceCheck id := .ofExcept fun q => (q.sinceCheck now id, q)

end Registry

end JobScheduling
