import JobScheduling.Proofs.Cluster.Happenings
import JobScheduling.Proofs.Cluster.Retired

/-!
# `JobScheduling.Proofs.Cluster.Reached`: what nodes and other callers make of an empty queue

What every step leaves as it should be (`Composed`) a request of somebody else leaves so as well
(`Composed.happen`), since it does not reach the nodes. So each cluster that nodes and others make
of an empty queue is composed (`composed_reached`).
-/

set_option autoImplicit false

namespace JobScheduling

namespace Cluster

variable {scan : Registry.Scan} (heldScan : Registry.Scan) (lastly : Job → WorkEnd)
  (hscan : ∀ ids, (scan ids).Perm ids)

include hscan

/-- A step keeps a cluster composed, and a request of somebody else keeps the records in place,
which is all of it that such a request reaches. -/
theorem Composed.happen {c : Cluster Registry} (h : c.Composed) (s : Happening) :
    (Cluster.happen scan heldScan lastly c s).Composed := by
  cases s with
  | step s => exact h.step hscan heldScan lastly s
  | request request =>
    have hkeyed := Registry.keyed_serve scan c.now request h.sized.keyed
    exact ⟨h.resting, ⟨h.sized.nodes, hkeyed⟩, h.drains⟩

/-- Clusters stay composed, whatever happens. -/
theorem Composed.later (past : List Happening) {c : Cluster Registry} (h : c.Composed) :
    (Cluster.later scan heldScan lastly past c).Composed :=
  later_induction (P := Composed) (fun _ s h => h.happen heldScan lastly hscan s) past h

/-- Whatever has happened, the workers rest, and the records and the held jobs are in place. -/
theorem composed_reached (past : List Happening) {now : Nat} {retention : Option Nat}
    {nodes : List (Option Node)}
    (hnodes : ∀ n, some n ∈ nodes → ∃ settings priority work,
      Node.new settings retention priority work = .ok n) :
    (later scan heldScan lastly past { now, queue := { retention }, nodes }).Composed :=
  (composed_of_new hnodes).later heldScan lastly hscan past

end Cluster

end JobScheduling
