import JobScheduling.Proofs.Node.Pass
import JobScheduling.Proofs.Registry.Order

/-!
# `JobScheduling.Proofs.Node.Order`: a pass in any order

A pass goes over three lists whose order means nothing: the jobs that the node holds, the records
that may be overdue, and the jobs that were asked to stop. `PassOrder` is an order for each. Here a
pass is shown to leave the same site in all orders, down to the last counter of the queue and the
last item of the backlog (`PassOrder.reconcile_congr`).

Each list holds an id once, and what is done for one id can be exchanged with what is done for
another one (`settledSite_comm`, `stoppedSite_comm`). The claim, which puts jobs into the backlog,
is not concerned: it goes over the waiting jobs in the order of their submission.
-/

set_option autoImplicit false

namespace JobScheduling

/-- Reports of two jobs can be exchanged. -/
theorem Registry.report_comm (now : Nat) {id id' : String} (h : id ≠ id') (o o' : Outcome)
    (q : Registry) :
    (q.report now id o).report now id' o' = (q.report now id' o').report now id o := by
  cases o with
  | interrupted => rfl
  | completed | failed | cancelled =>
    cases o' with
    | interrupted => rfl
    | completed | failed | cancelled => exact update_comm now h ..

namespace Node

variable {now : Nat} {q : Registry} {site : Site Registry} {ids ids' : List String}

/-! ### The review of the held jobs -/

/-- The examinations change the tickets of a node at most. -/
theorem examineAll_eq (now : Nat) (q : Registry) (ids : List String) (n : Node) :
    ∃ tickets, n.examineAll now q ids = { n with pool := { n.pool with tickets } } := by
  refine examineAll_induction
    (P := fun n' => ∃ tickets, n' = { n with pool := { n.pool with tickets } }) ?_ ids ⟨_, rfl⟩
  rintro _ m ⟨tickets, rfl⟩
  refine ⟨tickets.modify m fun t => t.cancel.2, ?_⟩
  rw [Pool.cancel_snd]
  rfl

/-- The order of the examinations does not matter. -/
theorem examineAll_congr {n : Node} (h : n.Named) (hmem : ∀ id, id ∈ ids ↔ id ∈ ids') :
    n.examineAll now q ids = n.examineAll now q ids' := by
  have htickets :
      (n.examineAll now q ids).pool.tickets = (n.examineAll now q ids').pool.tickets := by
    refine List.ext_getElem? fun m => ?_
    simp only [getElem?_examineAll _ h, hmem]
  obtain ⟨tickets, hids⟩ := examineAll_eq now q ids n
  obtain ⟨tickets', hids'⟩ := examineAll_eq now q ids' n
  rw [hids, hids'] at htickets ⊢
  rw [show tickets = tickets' from htickets]

/-- The examination of one job does not change what is found of another. -/
theorem finding_examined {n : Node} (h : n.Named) {id k : String} (hk : k ≠ id) :
    (n.examined now q id).finding now q k = n.finding now q k := by
  have hticket : (n.examined now q id).ticket? k = n.ticket? k := by
    refine (ticket?_examineAll now q [id] h k).trans ?_
    simp [hk]
  have hsettings : (n.examined now q id).settings = n.settings := settings_examineAll [id] n
  unfold finding isDue isTimedOut
  rw [hticket, hsettings]

/-- Every job is found as it was before the examinations. -/
theorem run_mapEach_examine_eq (scan : Registry.Scan) (now : Nat) (hnodup : ids.Nodup)
    (h : site.node.Named) :
    (Act.mapEach (examine (Registry.service scan now) now) ids).run site
      = (.ok (ids.map fun id => (id, site.node.finding now site.queue id)),
          { site with node := site.node.examineAll now site.queue ids }) := by
  induction ids generalizing site with
  | nil => rfl
  | cons id ids ih =>
    obtain ⟨hid, hrest⟩ := List.nodup_cons.1 hnodup
    have hnamed : (site.node.examined now site.queue id).Named :=
      h.of_closes (held_examineAll [id] _) (closes_examineAll [id] _)
    have hrun := @ih { site with node := site.node.examined now site.queue id } hrest hnamed
    -- To examine one job does not change what is found about another.
    have hfindings : (ids.map fun k =>
          (k, (site.node.examined now site.queue id).finding now site.queue k))
        = ids.map fun k => (k, site.node.finding now site.queue k) := by
      refine List.map_congr_left fun k hk => ?_
      rw [finding_examined h (ne_of_mem_of_not_mem hk hid)]
    simp only [Act.mapEach]
    rw [Act.run_bind_ok (run_examine id site), Act.run_bind_ok hrun]
    simp only [hfindings]
    rfl

/-- The finished jobs are settled one after the other. -/
theorem run_forEach_settleHeld_eq (scan : Registry.Scan) (now : Nat) (ids : List String)
    (site : Site Registry) :
    (Act.forEach (settleHeld (Registry.service scan now)) ids).run site
      = (.ok (), ids.foldl (fun site id => settledSite now id site) site) := by
  induction ids generalizing site with
  | nil => rfl
  | cons id ids ih => exact (Act.run_forEach_cons (run_settleHeld id site)).trans (ih _)

/-- Jobs can be settled in any order. -/
theorem settledSite_comm (now : Nat) {id id' : String} (h : id ≠ id') (site : Site Registry) :
    settledSite now id' (settledSite now id site)
      = settledSite now id (settledSite now id' site) := by
  -- To let go of one job does not change the outcome of the other.
  have hother : (site.node.drop id).outcome? id' = site.node.outcome? id' := by
    rw [outcome?_drop, if_neg (Ne.symm h)]
  have hother' : (site.node.drop id').outcome? id = site.node.outcome? id := by
    rw [outcome?_drop, if_neg h]
  have hdrop : (site.node.drop id).drop id' = (site.node.drop id').drop id := by
    simp only [drop, Table.erase_comm]
  simp only [settledSite, hother, hother', hdrop]
  cases site.node.outcome? id with
  | none => rfl
  | some o =>
    cases site.node.outcome? id' with
    | none => rfl
    | some o' =>
      simp only [Option.elim_some]
      rw [Registry.report_comm now h]

/-- The site after a review that visits some of the held jobs. -/
def reviewedSite (now : Nat) (ids : List String) (site : Site Registry) : Site Registry :=
  let examined := site.node.examineAll now site.queue ids
  let tidied :=
    if ids.any fun id => site.node.finding now site.queue id = .expired then examined.schedulePurge
    else examined
  (ids.filter examined.hasFinished).foldl (fun site id => settledSite now id site)
    { site with node := tidied }

/-- The review of the held jobs leaves `reviewedSite`. -/
theorem run_reviewHeld_eq (scan : Registry.Scan) (now : Nat) {heldScan : Registry.Scan}
    (hnodup : (heldScan site.node.held.keys).Nodup) (h : site.node.Named) :
    (reviewHeld (Registry.service scan now) heldScan now).run site
      = (.ok (), reviewedSite now (heldScan site.node.held.keys) site) := by
  generalize hids : heldScan site.node.held.keys = ids at hnodup
  have hrun := run_mapEach_examine_eq scan now hnodup h
  obtain ⟨findings, hexamine, hfinished⟩ := run_mapEach_examine scan now ids site h
  -- The findings are those of the site before any job was examined.
  have hfindings : findings = ids.map fun id => (id, site.node.finding now site.queue id) :=
    Except.ok.inj (congrArg Prod.fst (hexamine.symm.trans hrun))
  have hexpired : (findings.any fun finding => finding.2 = .expired)
      = ids.any fun id => site.node.finding now site.queue id = .expired := by
    rw [hfindings, List.any_map]
    rfl
  unfold reviewHeld reviewedSite
  rw [Act.run_bind_ok (Act.run_node site), hids, Act.run_bind_ok hexamine]
  dsimp only
  rw [hfinished, hexpired]
  split
  · rw [Act.run_bind_ok (Act.run_change _ _)]
    exact run_forEach_settleHeld_eq ..
  · exact run_forEach_settleHeld_eq ..

/-- The order in which a review visits the held jobs does not matter. -/
theorem reviewedSite_congr (h : site.node.Named) (hids : ids.Perm ids') :
    reviewedSite now ids site = reviewedSite now ids' site := by
  have hexamined : site.node.examineAll now site.queue ids
      = site.node.examineAll now site.queue ids' := examineAll_congr h fun _ => hids.mem_iff
  simp only [reviewedSite]
  rw [hexamined, hids.any_eq]
  refine (hids.filter _).foldl_eq' ?_ _
  intro id _ id' _ site
  by_cases hid : id = id'
  · rw [hid]
  · exact settledSite_comm now hid site

/-! ### The review of the shared queue -/

/-- Held jobs can be let go in any order. -/
theorem letGo_comm {id id' : String} (h : id ≠ id') (n : Node) :
    (n.letGo id).letGo id' = (n.letGo id').letGo id := by
  have hother : (n.held.erase id).find? id' = n.held.find? id' := by
    rw [Table.find?_erase, if_neg (Ne.symm h)]
  have hother' : (n.held.erase id').find? id = n.held.find? id := by
    rw [Table.find?_erase, if_neg h]
  have herase := n.held.erase_comm id id'
  simp only [letGo, cancelTicket, drop]
  cases hm : n.held.find? id with
  | none =>
    cases hm' : n.held.find? id' <;> simp [hother, hother', hm, hm', herase]
  | some m =>
    cases hm' : n.held.find? id' with
    | none => simp [hother, hother', hm, hm', herase]
    | some m' => simp [hother, hother', hm, hm', herase, Pool.cancel_comm m m']

/-- To let go of one job leaves the others held. -/
theorem contains_letGo {id k : String} (h : k ≠ id) (n : Node) :
    (n.letGo id).held.contains k = n.held.contains k := by
  have hheld : (n.letGo id).held = n.held.erase id := by
    simp only [letGo, cancelTicket, drop]
    split <;> rfl
  rw [hheld, Table.contains, Table.find?_erase, if_neg h, Table.contains]

/-- The stop of a job, for the node and for the queue. -/
theorem stoppedSite_eq (now : Nat) (status : Status) (site : Site Registry) :
    stoppedSite now status site
      = { node := if site.node.held.contains status.job.id then site.node.letGo status.job.id
            else site.node
          queue := if site.node.held.contains status.job.id || status.startedAt.isNone then
              (site.queue.cancel now status.job.id cancelReason true).2
            else site.queue } := by
  simp only [stoppedSite]
  cases site.node.held.contains status.job.id <;> cases status.startedAt.isNone <;> rfl

/-- Jobs can be stopped in any order. -/
theorem stoppedSite_comm (now : Nat) {status status' : Status} (h : status.job.id ≠ status'.job.id)
    (site : Site Registry) :
    stoppedSite now status' (stoppedSite now status site)
      = stoppedSite now status (stoppedSite now status' site) := by
  have hletGo := letGo_comm h site.node
  have hother := contains_letGo (Ne.symm h) site.node
  have hother' := contains_letGo h site.node
  have hcancel : (((site.queue.cancel now status.job.id cancelReason true).2).cancel now
        status'.job.id cancelReason true).2
      = (((site.queue.cancel now status'.job.id cancelReason true).2).cancel now
        status.job.id cancelReason true).2 := Registry.update_comm now h ..
  simp only [stoppedSite_eq]
  cases hheld : site.node.held.contains status.job.id <;>
    cases hheld' : site.node.held.contains status'.job.id <;>
    cases status.startedAt.isNone <;> cases status'.startedAt.isNone <;>
    simp [hheld, hheld', hletGo, hother, hother', hcancel]

/-- The order in which jobs are stopped does not matter. -/
theorem stoppedAll_congr (now : Nat) {statuses statuses' : List Status}
    (hnodup : (statuses.map (·.job.id)).Nodup) (hperm : statuses.Perm statuses')
    (site : Site Registry) : stoppedAll now statuses site = stoppedAll now statuses' site := by
  refine hperm.foldl_eq' ?_ site
  intro status hstatus status' hstatus' site
  by_cases hid : status.job.id = status'.job.id
  · rw [List.inj_on_of_nodup_map hnodup hstatus hstatus' hid]
  · exact stoppedSite_comm now hid site

end Node

/-! ### The whole pass -/

/-- The orders in which a pass visits the held jobs, the records of all jobs, and the jobs that were
asked to stop. Each is visited once. -/
structure PassOrder where
  held : Registry.Scan
  overdue : Registry.Scan
  requested : Registry.Scan
  held_perm (ids : List String) : (held ids).Perm ids
  overdue_perm (ids : List String) : (overdue ids).Perm ids
  requested_perm (ids : List String) : (requested ids).Perm ids

namespace PassOrder

/-- The order in which everything was recorded. -/
def first : PassOrder := ⟨id, id, id, fun _ => .rfl, fun _ => .rfl, fun _ => .rfl⟩

/-- The shared queue in memory, as a pass in these orders visits it. -/
def service (o : PassOrder) (now : Nat) : SharedQueue Registry :=
  { Registry.service o.overdue now with toCancel := (Registry.service o.requested now).toCancel }

/-- A pass in these orders. -/
def reconcile (o : PassOrder) (now : Nat) : Act Registry Unit :=
  Node.reconcile (o.service now) o.held now

variable {now : Nat} {site : Site Registry}

/-- Before the claim, in these orders. -/
theorem run_clearShared (o : PassOrder) (now : Nat) (site : Site Registry) :
    let settings := site.node.settings
    let q := (site.queue.cancelOverdue o.overdue now settings.timeoutMillis
      settings.abandonedMillis Node.timeoutReason).2
    (Node.clearShared (o.service now)).run site
      = (.ok (), Node.stoppedAll now (q.toCancel o.requested now).1
          { site with queue := (q.toCancel o.requested now).2 }) := by
  intro settings q
  have hoverdue : (Act.ask (o.service now) ((o.service now).cancelOverdue settings.timeoutMillis
      settings.abandonedMillis Node.timeoutReason)).run site
      = (.ok _, { site with queue := q }) := rfl
  have hrequested : (Act.ask (o.service now) (o.service now).toCancel).run { site with queue := q }
      = (.ok (q.toCancel o.requested now).1,
        { site with queue := (q.toCancel o.requested now).2 }) := rfl
  unfold Node.clearShared
  rw [Act.run_bind_ok (Act.run_node site)]
  dsimp only
  rw [Act.run_bind_ok hoverdue, Act.run_bind_ok hrequested]
  exact @Node.run_forEach_stopRequested o.overdue now _ _

/-- The sweep comes to the same in any two orders. -/
theorem run_clearShared_congr (o o' : PassOrder) (now : Nat) (hkeyed : site.queue.Keyed) :
    (Node.clearShared (o.service now)).run site = (Node.clearShared (o'.service now)).run site := by
  rw [o.run_clearShared, o'.run_clearShared,
    Registry.cancelOverdue_congr o.overdue_perm o'.overdue_perm]
  generalize hq : (site.queue.cancelOverdue o'.overdue now site.node.settings.timeoutMillis
    site.node.settings.abandonedMillis Node.timeoutReason).2 = q
  have hswept : (q.purge now).Keyed := by
    have h := Registry.keyed_serve o'.overdue now (.cancelOverdue site.node.settings.timeoutMillis
      site.node.settings.abandonedMillis Node.timeoutReason) hkeyed
    exact hq ▸ Registry.keyed_serve o'.overdue now .toCancel h
  -- The requests are the same in another order, and each is for a job of its own.
  have hperm := Registry.toCancel_perm o.requested_perm o'.requested_perm now q
  have hnodup := Registry.nodup_toCancel o.requested_perm now hswept
  exact congrArg (Prod.mk (Except.ok ())) (Node.stoppedAll_congr now hnodup hperm _)

/-- A pass does the same in all orders. -/
theorem reconcile_congr (o o' : PassOrder) (hnamed : site.node.Named) (hkeyed : site.queue.Keyed) :
    (o.reconcile now).run site = (o'.reconcile now).run site := by
  have hnodup (o : PassOrder) : (o.held site.node.held.keys).Nodup :=
    (o.held_perm _).nodup_iff.2 site.node.held.distinct
  have hids : (o.held site.node.held.keys).Perm (o'.held site.node.held.keys) :=
    (o.held_perm _).trans (o'.held_perm _).symm
  -- Both reviews leave one site, and both sweeps go on from there.
  obtain ⟨reviewed, hreview, hr⟩ := Node.run_reviewHeld o.overdue now o.held site hnamed
  have hreview' : (Node.reviewHeld (o'.service now) o'.held now).run site = (.ok (), reviewed) := by
    refine (Node.run_reviewHeld_eq o'.overdue now (hnodup o') hnamed).trans ?_
    rw [← Node.reviewedSite_congr hnamed hids, ← hreview]
    exact (Node.run_reviewHeld_eq o.overdue now (hnodup o) hnamed).symm
  have hreview : (Node.reviewHeld (o.service now) o.held now).run site = (.ok (), reviewed) :=
    hreview
  have hshared : (Node.reviewShared (o.service now)).run reviewed
      = (Node.reviewShared (o'.service now)).run reviewed := by
    have hclear := o.run_clearShared_congr o' now (hkeyed.of_moves fun _ _ => hr.moves)
    rw [Node.run_reviewShared_eq (o.run_clearShared now reviewed),
      Node.run_reviewShared_eq (hclear.symm.trans (o.run_clearShared now reviewed))]
    rfl
  simp only [reconcile, Node.reconcile, Node.pass]
  rw [Act.run_swallow, Act.run_swallow, Act.run_bind_ok (Act.run_node site),
    Act.run_bind_ok (Act.run_node site)]
  split
  · rfl
  · rw [Act.run_bind_ok hreview, Act.run_bind_ok hreview', Act.run_bind_ok (Act.run_node reviewed),
      Act.run_bind_ok (Act.run_node reviewed)]
    split
    · rw [hshared]
    · rfl

end PassOrder

end JobScheduling
