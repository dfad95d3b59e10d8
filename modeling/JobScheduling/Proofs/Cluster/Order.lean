import JobScheduling.Proofs.Cluster.Admission
import JobScheduling.Proofs.Cluster.Pass
import JobScheduling.Proofs.Node.Order

/-!
# `JobScheduling.Proofs.Cluster.Order`: runs in any order

A pass does the same in all orders wherever a node and the queue are in shape
(`PassOrder.reconcile_congr`), and they are in shape whatever has happened (`Cluster.Sized`). No
other step goes over a list in an arbitrary order, and a request of somebody else leaves the same
queue in all orders (`Registry.serve_congr`). So all that happens comes to the same, whichever
orders the passes and the others take (`step_world`, `happen_world`).
-/

set_option autoImplicit false

namespace JobScheduling

/-- The world of nodes that share the queue in memory and make their passes in these orders. -/
def PassOrder.world (o : PassOrder) (lastly : Job → WorkEnd) : World Registry where
  service now _ := o.service now
  lastly
  scan := o.held

/-- The order in which everything was recorded, backwards. -/
def PassOrder.last : PassOrder :=
  ⟨List.reverse, List.reverse, List.reverse, List.reverse_perm, List.reverse_perm,
    List.reverse_perm⟩

namespace Cluster

variable {c : Cluster Registry}

/-- Beside passes, the orders concern no request to a node. -/
theorem request_world (o : PassOrder) (lastly : Job → WorkEnd) {α : Type} (k : Nat)
    (answer : α → Answer) (work : Act Registry α) :
    c.request (o.world lastly) k answer work = c.request (shared id id lastly) k answer work := rfl

/-- A request for a pass is the same in all orders. -/
theorem request_reconcile (o : PassOrder) (lastly : Job → WorkEnd) (h : c.Sized) (k : Nat) :
    c.request (shared id id lastly) k (fun _ => .unit) (o.reconcile c.now)
      = c.request (shared id id lastly) k (fun _ => .unit) (PassOrder.first.reconcile c.now) := by
  cases hn : c.node? k with
  | none => rw [request_of_none hn, request_of_none hn]
  | some n =>
    have hpass : (o.reconcile c.now).run (c.site n)
        = (PassOrder.first.reconcile c.now).run (c.site n) :=
      o.reconcile_congr .first (h.nodes k n hn).named h.keyed
    rw [request_eq hn, request_eq hn, hpass]

/-- A step is the same, whichever orders a pass takes. -/
theorem step_world (o : PassOrder) (lastly : Job → WorkEnd) (h : c.Sized) (s : Step) :
    c.step (o.world lastly) s = c.step (shared id id lastly) s := by
  cases s with
  | reconcile k => exact (request_world o lastly k _ _).trans (request_reconcile o lastly h k)
  -- No other step visits the records in an order that could matter.
  | release node id how named =>
    simp only [step]
    cases c.runningFor? node id named with
    | none => rfl
    | some start => rfl
  | submit | cancel | status | shutDown | halt => exact request_world o lastly _ _ _
  | drop | setClock => rfl

/-- A run is the same, whichever orders its passes take. -/
theorem run_world (o : PassOrder) (lastly : Job → WorkEnd) (steps : List Step) (h : c.Sized) :
    run (o.world lastly) steps c = run (shared id id lastly) steps c := by
  induction steps generalizing c with
  | nil => rfl
  | cons s steps ih =>
    have hnext := @sized_step id (fun _ => .rfl) id lastly c h s
    simp only [run, step_world o lastly h s, ih hnext]

end Cluster

namespace PassOrder

/-- The cluster after something has happened, in these orders. -/
def happen (o : PassOrder) (lastly : Job → WorkEnd) (c : Cluster Registry) :
    Cluster.Happening → Cluster Registry
  | .step s => (c.step (o.world lastly) s).2
  | .request request => { c with queue := (c.queue.serve o.overdue c.now request).2 }

/-- The cluster after all of this has happened, in these orders. -/
def later (o : PassOrder) (lastly : Job → WorkEnd) (past : List Cluster.Happening)
    (c : Cluster Registry) : Cluster Registry :=
  past.foldl (o.happen lastly) c

/-- When only steps have happened, the cluster is the one after their run. -/
theorem later_map_step (o : PassOrder) (lastly : Job → WorkEnd) (steps : List Cluster.Step)
    (c : Cluster Registry) :
    o.later lastly (steps.map .step) c = (Cluster.run (o.world lastly) steps c).2 := by
  induction steps generalizing c with
  | nil => rfl
  | cons s steps ih => exact ih (c.step (o.world lastly) s).2

end PassOrder

namespace Cluster

variable {c : Cluster Registry}

/-- What happens comes to the same in all orders. -/
theorem happen_world (o : PassOrder) (lastly : Job → WorkEnd) (h : c.Sized) (s : Happening) :
    o.happen lastly c s = happen id id lastly c s := by
  cases s with
  | step s => exact congrArg Prod.snd (step_world o lastly h s)
  | request request =>
    have hqueue := Registry.serve_congr o.overdue_perm (fun _ => .rfl) c.now request c.queue
    exact congrArg (fun q => { c with queue := q }) hqueue

/-- A past comes to the same in all orders. -/
theorem later_world (o : PassOrder) (lastly : Job → WorkEnd) (past : List Happening)
    (h : c.Sized) : o.later lastly past c = later id id lastly past c := by
  induction past generalizing c with
  | nil => simp only [PassOrder.later, later, List.foldl_nil]
  | cons s past ih =>
    have hnext := @sized_happen id (fun _ => .rfl) id lastly c h s
    exact (congrArg (o.later lastly past) (happen_world o lastly h s)).trans (ih hnext)

/-- Nothing depends on the orders in which passes go over the held jobs, over the records and over
the jobs that were asked to stop. Take nodes that have just started, clustered or not, with any
settings, priorities and work, next to an empty queue. Whatever happens to them and to the queue
leaves the same cluster in all orders. A run from there gives the same answers and leaves the same
cluster. And a pass of any node that is there, stopped or not, at any time leaves the same site: the
jobs that the node holds, the outcomes of all tickets, the backlog of the pool down to the order of
its items, and the records and counters of the queue. -/
theorem later_orders (lastly : Job → WorkEnd) {now : Nat} {retention : Option Nat}
    {nodes : List (Option Node)}
    (hnodes : ∀ n, some n ∈ nodes → ∃ clustered, n.Started clustered) (past : List Happening)
    (o o' : PassOrder) :
    let start : Cluster Registry := { now, queue := { retention }, nodes }
    let c := o.later lastly past start
    c = o'.later lastly past start ∧
      (∀ steps, run (o.world lastly) steps c = run (o'.world lastly) steps c) ∧
      ∀ k n, c.node? k = some n → ∀ (p p' : PassOrder) (time : Nat),
        (p.reconcile time).run (c.site n) = (p'.reconcile time).run (c.site n) := by
  intro start c
  have hstart : start.Sized := sized_of_new hnodes
  have hlater : c = later id id lastly past start := later_world o lastly past hstart
  have hc : c.Sized := hlater ▸ sized_later (fun _ => .rfl) id lastly past hstart
  refine ⟨hlater.trans (later_world o' lastly past hstart).symm, ?_, ?_⟩
  · intro steps
    exact (run_world o lastly steps hc).trans (run_world o' lastly steps hc).symm
  · intro k n hn p p' time
    exact p.reconcile_congr p' (hc.nodes k n hn).named hc.keyed

/-- A clustered node has claimed one of two jobs. The other one waits and was asked to stop, the
second time by somebody else. Both are overdue. -/
def bothOverdue : List Happening :=
  [.step (.submit 0 { id := "a", submittedAt := 5 }),
    .step (.submit 0 { id := "b", submittedAt := 4 }), .step (.reconcile 0),
    .step (.cancel 1 "a" none), .request (.cancel "a" "enough" false), .step (.setClock 10000000)]

/-- The pass of the first node, in the order of the records and backwards. -/
theorem later_orders_bothOverdue :
    let start : Cluster Registry :=
      { now := 5, queue := { retention := some defaultRetention }, nodes := mixedPair }
    let c := PassOrder.last.later .standard bothOverdue start
    c = PassOrder.first.later .standard bothOverdue start ∧
      run (PassOrder.last.world .standard) [.reconcile 0] c
        = run (PassOrder.first.world .standard) [.reconcile 0] c ∧
      ∃ n, c.node? 0 = some n ∧ (PassOrder.last.reconcile 10000000).run (c.site n)
        = (PassOrder.first.reconcile 10000000).run (c.site n) := by
  intro start c
  have hthere : (c.node? 0).isSome = true := by decide +kernel
  obtain ⟨n, hn⟩ := Option.isSome_iff_exists.1 hthere
  obtain ⟨hlater, hrun, hpass⟩ := @later_orders .standard 5 (some defaultRetention) mixedPair
    exists_started_mixedPair bothOverdue .last .first
  exact ⟨hlater, hrun [.reconcile 0], n, hn, hpass 0 n hn .last .first 10000000⟩

end Cluster

end JobScheduling
