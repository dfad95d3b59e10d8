import JobScheduling.Pool.Script
import JobScheduling.Proofs.Cluster.Capacity
import JobScheduling.Proofs.Cluster.Executions
import JobScheduling.Proofs.Cluster.Happenings
import JobScheduling.Proofs.Node.Reconciled

/-!
# `JobScheduling.Proofs.Cluster.Pass`: passes in a cluster

`Node.reconciled_reconcile` says what a pass of a clustered node guarantees. All that it asks of
the node is that it is fit, and of the queue that its records lie under the ids of their jobs.
Both are so in every cluster of nodes that started next to an empty queue, whichever of them are
clustered, and whoever else calls the queue (`sized_step`, `sized_later`). `later_reconciled` is the
guarantee in every such cluster.
-/

set_option autoImplicit false

namespace JobScheduling

namespace Cluster

variable {scan heldScan : Registry.Scan} {lastly : Job → WorkEnd}

/-- No clustered node holds more jobs than it may run, and the records lie in their places. -/
structure Sized (c : Cluster Registry) : Prop where
  nodes : ∀ k n, c.node? k = some n → n.Fit
  keyed : c.queue.Keyed

/-- Nodes that have just started hold no job. -/
theorem sized_of_new {now : Nat} {retention : Option Nat} {nodes : List (Option Node)}
    (hnodes : ∀ n, some n ∈ nodes → ∃ clustered, n.Started clustered) :
    Sized { now, queue := { retention }, nodes } := by
  refine ⟨?_, Registry.keyed_empty retention⟩
  intro k n hn
  obtain ⟨_, _, _, _, _, -, hnew⟩ := hnodes n (mem_of_node? hn)
  exact Node.fit_of_new hnew

/-- The deed of a step leaves its node fit. A node that is not clustered may hold any number of
jobs. -/
theorem fit_deed (hscan : ∀ ids, (scan ids).Perm ids) {c : Cluster Registry} (h : c.Sized)
    {s : Step} {k : Nat} {f : Site Registry → Site Registry} {n : Node}
    (hdeed : c.deed? scan heldScan lastly s = some (k, f)) (hn : c.node? k = some n) :
    (f (c.site n)).node.Fit := by
  have hfit := h.nodes k n hn
  refine node_deed Node.lasts_fit (fun _ h => h) ?_ ?_ ?_ ?_ ?_ hscan hdeed hn hfit.named h.keyed
    hfit
  · exact fun n m how h hm => h.of_whole (h.toWhole.endWork hm how) rfl (Nat.le_refl _)
  · exact fun n h => h.of_halted n.halted_shutDown
  · exact fun n h => h.of_halted (n.halted_stop lastly)
  · exact fun n job ticket pool h halone hsubmit =>
      ⟨h.toWhole.take hsubmit, fun hclustered => absurd (halone.symm.trans hclustered) nofun⟩
  · exact fun now site h _ => Node.fit_claim scan now h

/-- Whatever happens in a cluster, its clustered nodes stay within their limits. -/
theorem sized_step (hscan : ∀ ids, (scan ids).Perm ids) (heldScan : Registry.Scan)
    (lastly : Job → WorkEnd) {c : Cluster Registry} (h : c.Sized) (s : Step) :
    (c.step (shared scan heldScan lastly) s).2.Sized := by
  have hsite : ∀ k f n, c.deed? scan heldScan lastly s = some (k, f) → c.node? k = some n →
      let site' := settle (Registry.service scan c.now) (f (c.site n))
      site'.node.Fit ∧ site'.queue.Keyed := by
    intro k f n hdeed hn
    obtain ⟨-, hkeyed, -⟩ := outlay_deed h.keyed hdeed hn
    refine ⟨fit_settle scan c.now (fit_deed hscan h hdeed hn), ?_⟩
    -- The workers reach the queue only to start a job.
    exact settle_queue (P := Registry.Keyed)
      (fun q id hq => Registry.keyed_serve scan c.now (.start id) hq) hkeyed
  obtain ⟨hnodes, hqueue⟩ := step_sites (P := Node.Fit) (Q := Registry.Keyed) scan heldScan lastly
    hsite h.nodes h.keyed
  exact ⟨hnodes, hqueue⟩

/-- What the nodes do keeps their limits, and a request of somebody else does not reach them. -/
theorem sized_happen (hscan : ∀ ids, (scan ids).Perm ids) (heldScan : Registry.Scan)
    (lastly : Job → WorkEnd) {c : Cluster Registry} (h : c.Sized) (s : Happening) :
    (happen scan heldScan lastly c s).Sized := by
  cases s with
  | step s => exact sized_step hscan heldScan lastly h s
  | request request => exact ⟨h.nodes, Registry.keyed_serve scan c.now request h.keyed⟩

/-- Whatever has happened, the clustered nodes are within their limits. -/
theorem sized_later (hscan : ∀ ids, (scan ids).Perm ids) (heldScan : Registry.Scan)
    (lastly : Job → WorkEnd) (past : List Happening) {c : Cluster Registry} (h : c.Sized) :
    (later scan heldScan lastly past c).Sized :=
  later_induction (P := Sized) (fun _ s h => sized_happen hscan heldScan lastly h s) past h

/-- What a pass guarantees. Take nodes that have just started, clustered or not, with any settings,
priorities and work, next to an empty queue, and whatever has happened since: nodes may have been
stopped and lost, others may have called the queue, ids may have been submitted again, and the clock
may have gone either way, as long as it is in the range of the times that can be told now. Then take
a clustered node that goes on. Its pass reviews the jobs that it holds, cancels what is overdue,
stops what it was asked to stop, and then claims. When it ends, before the workers act, all that
`Node.Reconciled` lists holds. -/
theorem later_reconciled (hscan : ∀ ids, (scan ids).Perm ids) (heldScan : Registry.Scan)
    (lastly : Job → WorkEnd) {now : Nat} {retention : Option Nat} {nodes : List (Option Node)}
    (hnodes : ∀ n, some n ∈ nodes → ∃ clustered, n.Started clustered) (past : List Happening) :
    let c := later scan heldScan lastly past { now, queue := { retention }, nodes }
    c.now ≤ maxWord → ∀ k n, c.node? k = some n → n.isShutDown = false →
      n.settings.clustered = true →
      let before :=
        ((Node.prepare (Registry.service scan c.now) heldScan c.now).run (c.site n)).2
      let after :=
        ((Node.reconcile (Registry.service scan c.now) heldScan c.now).run (c.site n)).2
      after = ((Node.claim (Registry.service scan c.now)).run before).2 ∧
        Node.Reconciled c.now n.settings before after := by
  intro c hrange k n hn hgoesOn hclustered
  have h : c.Sized := sized_later hscan heldScan lastly past (sized_of_new hnodes)
  exact Node.reconciled_reconcile hscan heldScan hrange (h.nodes k n hn) hgoesOn hclustered h.keyed

/-- Three jobs wait, one of which somebody else has recorded, when another one is asked to stop. -/
def contended : List Happening :=
  [.step (.submit 0 { id := "b", submittedAt := 5 }),
    .step (.submit 1 { id := "c", submittedAt := 4 }),
    .request (.add { id := "a", submittedAt := 5 }), .step (.setClock 9),
    .step (.cancel 1 "c" none)]

/-- The pass of the first of two clustered nodes. -/
theorem later_reconciled_contended :
    let c := later id id .standard contended
      { now := 5, queue := { retention := some defaultRetention }, nodes := freshPair }
    c.now ≤ maxWord ∧ ∃ n, c.node? 0 = some n ∧ n.isShutDown = false ∧
      n.settings.clustered = true ∧
      let before := ((Node.prepare (Registry.service id c.now) id c.now).run (c.site n)).2
      let after := ((Node.reconcile (Registry.service id c.now) id c.now).run (c.site n)).2
      after = ((Node.claim (Registry.service id c.now)).run before).2 ∧
        Node.Reconciled c.now n.settings before after := by
  intro c
  have hrange : c.now ≤ maxWord := by decide +kernel
  have hnode : (c.node? 0).map (fun n => (n.isShutDown, n.settings.clustered))
      = some (false, true) := by decide +kernel
  obtain ⟨n, hn, hstate⟩ := Option.map_eq_some_iff.1 hnode
  obtain ⟨hgoesOn, hclustered⟩ := Prod.mk.inj hstate
  exact ⟨hrange, n, hn, hgoesOn, hclustered, @later_reconciled id (fun _ => .rfl) id .standard 5
    (some defaultRetention) _ (fun _ hn => ⟨true, started_freshPair hn⟩) contended hrange 0 n hn
      hgoesOn hclustered⟩

end Cluster

end JobScheduling
