import JobScheduling.Proofs.Node.Pass

/-!
# `JobScheduling.Proofs.Node.Tracked`: open tickets are held

A node must not lose sight of work: `Node.Tracked` says that each ticket of its pool that has not
finished is the one under which the node holds the job. A node that lets go of a job cancels its
ticket (`Tracked.letGo`), or the ticket has finished before (`Reviewed.tracked`).

The one operation that endangers this is a claim, because a job that is taken on displaces the
ticket under which a job of the same id was held. `tracked_reconcile` therefore asks that before
the claim of a pass no waiting job is held.
-/

set_option autoImplicit false

namespace JobScheduling

namespace Node

/-- Each ticket that has not finished is the one under which its job is held. -/
def Tracked (n : Node) : Prop :=
  ∀ (m : Nat) t, n.pool.tickets[m]? = some t → t.isFinished = false →
    n.held.find? t.job.id = some m

section
variable {n n' : Node}

/-- A change of the pool alone. -/
theorem Tracked.of_follows (h : n.Tracked) (hheld : n'.held = n.held)
    (hfollows : n.pool.Follows n'.pool) : n'.Tracked := by
  intro m t' ht' hopen
  obtain ⟨t, ht, hf⟩ := hfollows.ticket_before ht'
  rw [hheld, hf.job]
  exact h m t ht (hf.isFinished_eq_false hopen)

/-- A held job is let go, and its ticket is cancelled. -/
theorem Tracked.letGo (h : n.Tracked) {id : String} {m : Nat} (hm : n.held.find? id = some m) :
    Tracked { n with pool := (n.pool.cancel m).2, held := n.held.erase id } := by
  intro i t' ht' hopen
  obtain ⟨t, ht, hc⟩ := (Pool.closes_cancel m n.pool).ticket_before ht'
  have hheld := h i t ht (hc.isFinished_eq_false hopen)
  rw [show (n.held.erase id).find? _ = _ from Table.find?_erase .., hc.job]
  split
  next hid =>
    -- This is the ticket that was cancelled.
    rw [hid, hm] at hheld
    cases hheld
    rw [show (n.pool.cancel m).2.tickets[m]? = _ from getElem?_cancel .., if_pos rfl, ht] at ht'
    cases ht'
    rw [Ticket.isFinished_cancel] at hopen
    cases hopen
  next => exact hheld

end

section
variable {now : Nat} {site site' : Site Registry} {ids : List String}

/-- A review of the held jobs lets go of finished tickets only. -/
theorem Reviewed.tracked (h : Reviewed now ids site site') (htracked : site.node.Tracked) :
    site'.node.Tracked := by
  intro m t' ht' hopen
  obtain ⟨t, ht, hc⟩ := h.closes.ticket_before ht'
  have hheld := htracked m t ht (hc.isFinished_eq_false hopen)
  rw [h.held, hc.job]
  split
  next hleft =>
    -- The job has left the node: its ticket was judged, so it is finished and not open.
    obtain ⟨outcome, hout⟩ := Option.isSome_iff_exists.1 hleft
    obtain ⟨hid, t₁, ht₁, hjudged⟩ := leaving_eq_some hout
    obtain ⟨m₁, hm₁, htm₁⟩ := ticket?_eq_some_iff.1 ht₁
    rw [hheld] at hm₁
    cases hm₁
    rw [ht] at htm₁
    cases htm₁
    rw [h.tickets, ht, Option.map_some, if_pos ⟨hid, hheld⟩] at ht'
    cases ht'
    rw [Ticket.isFinished_of_outcome? hjudged] at hopen
    cases hopen
  next => exact hheld

/-- The jobs that were asked to stop have their tickets cancelled. -/
theorem Tracked.calmed (h : site.node.Tracked) (scan : Registry.Scan) (q : Registry) :
    (calmed scan now q site).node.Tracked :=
  stoppedAll_induction (P := fun s => s.node.Tracked) (fun _ _ h => h)
    (fun _ _ _ h hm => h.letGo hm) _ h

/-- A claim of jobs that are not held. -/
theorem Claimed.tracked (h : Claimed now ids site site') (htracked : site.node.Tracked)
    (hkeyed : site.queue.Keyed) (hfree : ∀ id ∈ ids, site.node.held.find? id = none) :
    site'.node.Tracked := by
  intro m t ht hopen
  rcases h.tickets m with hold | ⟨-, id, hid, hm⟩
  · -- It was there before: its job is not among the claimed ones, since these were not held.
    have hheld := htracked m t (hold ▸ ht) hopen
    rw [(h.other t.job.id fun hid => ?_).2]
    · exact hheld
    · rw [hfree _ hid] at hheld
      cases hheld
  · -- It is the ticket of a claimed job.
    obtain ⟨r, m', hr, -, -, hm', -, hticket⟩ := h.claimed id hid
    rw [hm] at hm'
    cases hm'
    rw [ht] at hticket
    cases hticket
    rw [show r.status.job.id = id from (hkeyed id r hr).1]
    exact hm

/-- If no waiting job is held after the review of the held jobs, none is before the claim. -/
theorem free_prepare (now : Nat) (site : Site Registry) {scan : Registry.Scan}
    (hscan : ∀ ids, (scan ids).Perm ids) (heldScan : Registry.Scan) (hnamed : site.node.Named)
    (hkeyed : site.queue.Keyed)
    (hfree : ∀ reviewed, Reviewed now (heldScan site.node.held.keys) site reviewed →
      ∀ id r, reviewed.queue.records.find? id = some r → r.stage = .waiting →
        reviewed.node.held.find? id = none) :
    let before := ((prepare (Registry.service scan now) heldScan now).run site).2
    ∀ id r, before.queue.records.find? id = some r → r.stage = .waiting →
      before.node.held.find? id = none := by
  obtain ⟨reviewed, q, hreviewed, -, hrun, hswept, -⟩ :=
    run_prepare now site hscan heldScan hnamed hkeyed
  rw [← hreviewed.settings] at hswept
  rw [hrun]
  show ∀ id r, (calmed scan now q reviewed).queue.records.find? id = some r →
    r.stage = .waiting → (calmed scan now q reviewed).node.held.find? id = none
  intro id r hr hwaiting
  have hpurged := (find?_of_calmed hswept hr (Record.isFinal_of_stage hwaiting)).2
  have hnone := hfree reviewed hreviewed id r (Registry.find?_of_find?_purge hpurged) hwaiting
  rw [calmed, held_stoppedAll]
  split
  · rfl
  · exact hnone

/-- A pass keeps the open tickets held, if before its claim no waiting job is held. -/
theorem tracked_reconcile {scan : Registry.Scan} (hscan : ∀ ids, (scan ids).Perm ids)
    (heldScan : Registry.Scan) (hwhole : site.node.Whole)
    (hclustered : site.node.settings.clustered = true) (hkeyed : site.queue.Keyed)
    (htracked : site.node.Tracked)
    (hfree : let before := ((prepare (Registry.service scan now) heldScan now).run site).2
      ∀ id r, before.queue.records.find? id = some r → r.stage = .waiting →
        before.node.held.find? id = none) :
    ((reconcile (Registry.service scan now) heldScan now).run site).2.node.Tracked := by
  cases hdown : site.node.isShutDown with
  | true =>
    -- A node that is shut down does nothing.
    rw [site_reconcile_eq now site hscan heldScan hwhole.named hkeyed, if_pos hdown]
    exact htracked
  | false =>
    obtain ⟨reviewed, q, hreviewed, -, hrun, -⟩ :=
      run_prepare now site hscan heldScan hwhole.named hkeyed
    obtain ⟨-, hkeyedBefore, hclaimed⟩ :=
      claimed_reconcile now site hscan heldScan hwhole hdown hclustered hkeyed
    rw [hrun] at hclaimed hfree hkeyedBefore
    refine hclaimed.tracked ((hreviewed.tracked htracked).calmed scan q) hkeyedBefore ?_
    -- What is claimed was waiting, and of waiting jobs none was held.
    intro id hid
    obtain ⟨r, hr, hwaiting⟩ := Registry.find?_of_mem_claimedIds hid
    exact hfree id r hr hwaiting

end

end Node

end JobScheduling
