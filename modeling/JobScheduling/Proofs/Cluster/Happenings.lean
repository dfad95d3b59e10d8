import JobScheduling.Proofs.Cluster.Steps

/-!
# `JobScheduling.Proofs.Cluster.Happenings`: clusters next to other callers of the queue

The nodes of a cluster need not be the only ones that call the shared queue. A `Happening` is a
step of the cluster, or a request to the queue by somebody else, and `Cluster.later` is the cluster
after all that has happened. A run of steps only is one of these pasts (`later_map_step`), so what
is shown of every past covers every run.

A request of somebody else does not reach the nodes, and the workers do nothing on it. So what it
keeps is a property of the queue, and an invariant needs one case more than for a step.
`later_induction` leads from there to the whole past.
-/

set_option autoImplicit false

namespace JobScheduling

namespace Cluster

/-- What happens to a cluster. -/
inductive Happening
  | step (s : Step)
  /-- Somebody else calls the shared queue. -/
  | request (request : Registry.Request)

variable (scan heldScan : Registry.Scan) (lastly : Job → WorkEnd)

/-- The cluster after something has happened. -/
def happen (c : Cluster Registry) : Happening → Cluster Registry
  | .step s => (c.step (shared scan heldScan lastly) s).2
  | .request request => { c with queue := (c.queue.serve scan c.now request).2 }

/-- The cluster after all of this has happened. -/
def later (past : List Happening) (c : Cluster Registry) : Cluster Registry :=
  past.foldl (happen scan heldScan lastly) c

/-- When only steps have happened, the cluster is the one after their run. -/
theorem later_map_step (steps : List Step) (c : Cluster Registry) :
    later scan heldScan lastly (steps.map .step) c
      = (run (shared scan heldScan lastly) steps c).2 := by
  induction steps generalizing c with
  | nil => rfl
  | cons s steps ih => exact ih (c.step (shared scan heldScan lastly) s).2

section
variable {scan heldScan lastly} {P : Cluster Registry → Prop}

/-- What each of the things that happened keeps is so after all of them. -/
theorem later_induction_of_mem (past : List Happening)
    (h : ∀ c, ∀ s ∈ past, P c → P (happen scan heldScan lastly c s)) {c : Cluster Registry}
    (hc : P c) : P (later scan heldScan lastly past c) := by
  induction past generalizing c with
  | nil => exact hc
  | cons s past ih =>
    exact ih (fun c s hs => h c s (List.mem_cons_of_mem _ hs)) (h c s List.mem_cons_self hc)

/-- What is kept by everything that can happen is so whatever has happened. -/
theorem later_induction (h : ∀ c s, P c → P (happen scan heldScan lastly c s))
    (past : List Happening) {c : Cluster Registry} (hc : P c) :
    P (later scan heldScan lastly past c) :=
  later_induction_of_mem past (fun c s _ => h c s) hc

end

end Cluster

end JobScheduling
