import JobScheduling.Proofs.Node.Share

/-!
# `JobScheduling.Proofs.Node.Pass`: a pass as a whole

A pass moves records (`Reviewed.moves`, `Shared.moves`) and leaves each held id with a ticket
for its job (`Reviewed.named`, `Shared.named`).

`Node.Whole` is what every node has, and what is done with a node keeps it so. `Node.prepare`
is a pass of a clustered node up to its claim. `run_prepare` says what it leaves, and
`site_reconcile_eq` that a pass is that and then the claim.
-/

set_option autoImplicit false

namespace JobScheduling

namespace Registry

/-- A change that moves records keeps them lawful and in their places. -/
theorem Keyed.of_moves {now : Nat} {q q' : Registry} (h : q.Keyed)
    (hmoves : ∀ id r', q'.records.find? id = some r' →
      ∃ r, q.records.find? id = some r ∧ r.Moves now r') : q'.Keyed := by
  intro id r' hr'
  obtain ⟨r, hr, m⟩ := hmoves id r' hr'
  obtain ⟨hid, hlawful⟩ := h id r hr
  exact ⟨(congrArg Job.id (m.evolves hlawful).job).trans hid, hlawful.moves m⟩

end Registry

/-- A report moves a record. -/
theorem Record.settled_moves (now : Nat) (outcome : Option Outcome) (r : Record) :
    r.Moves now (r.settled now outcome) := by
  cases outcome with
  | none => exact .refl
  | some outcome =>
    cases outcome with
    | completed report => exact Registry.finished_moves ..
    | failed failure => exact Registry.finished_moves ..
    | cancelled => exact Record.cancel_moves ..
    | interrupted => exact .refl

/-- A record that waits after a report waited before, and is the same. -/
theorem Record.settled_of_waiting {now : Nat} {outcome : Option Outcome} {r : Record}
    (h : (r.settled now outcome).stage = .waiting) : r.settled now outcome = r := by
  -- A report that leaves a record waiting was refused.
  have hfinish (ending : Ending) (h : (Registry.finished now ending r).stage = .waiting) :
      Registry.finished now ending r = r := by
    simp only [Registry.finished, finish] at h ⊢
    cases hr : r.stage <;> rw [hr] at h <;> cases ending <;> first | rfl | cases h
  cases outcome with
  | none => rfl
  | some outcome =>
    cases outcome with
    | completed report => exact hfinish _ h
    | failed failure => exact hfinish _ h
    | cancelled =>
      have hfinal : (r.settled now (some .cancelled)).isFinal = true :=
        Registry.isFinal_cancel ..
      rw [isFinal_of_stage h] at hfinal
      cases hfinal
    | interrupted => rfl

namespace Node

variable {now : Nat} {site site' : Site Registry}

/-- The review of what is held moves records by reports. -/
theorem Reviewed.moves {ids : List String} (h : Reviewed now ids site site') {id : String}
    {r' : Record} (hr' : site'.queue.records.find? id = some r') :
    ∃ r, site.queue.records.find? id = some r ∧ r.Moves now r' := by
  rw [h.records, Option.map_eq_some_iff] at hr'
  obtain ⟨r, hr, rfl⟩ := hr'
  exact ⟨r, hr, Record.settled_moves ..⟩

/-- The part for all nodes moves what the purge left. -/
theorem Shared.moves (h : Shared now site site') {id : String} {r' : Record}
    (hr' : site'.queue.records.find? id = some r') :
    ∃ r, (site.queue.purge now).records.find? id = some r ∧ r.Moves now r' := by
  cases h.each id with
  | kept hrecord _ =>
    rw [hrecord, Option.map_eq_some_iff] at hr'
    obtain ⟨r, hr, rfl⟩ := hr'
    exact ⟨r, hr, Registry.evicted_moves ..⟩
  | stopped r hr _ hrecord _ =>
    rw [hrecord] at hr'
    cases hr'
    refine ⟨r, hr, ?_⟩
    split
    · exact Record.cancel_moves ..
    · exact .refl
  | claimed r m hr _ hrecord _ _ _ =>
    rw [hrecord] at hr'
    cases hr'
    exact ⟨r, hr, Registry.started_moves ..⟩

/-- After a review of the held jobs each held id still leads to a ticket for its job. -/
theorem Reviewed.named {ids : List String} (h : Reviewed now ids site site')
    (hnamed : site.node.Named) : site'.node.Named := by
  intro id m hm
  rw [h.held] at hm
  split at hm
  · cases hm
  · obtain ⟨t, ht, hid⟩ := hnamed id m hm
    obtain ⟨t', ht', hc⟩ := h.closes.ticket ht
    exact ⟨t', ht', hc.job ▸ hid⟩

/-- After a review of the shared queue each held id still leads to a ticket for its job. -/
theorem Shared.named (h : Shared now site site') (hnamed : site.node.Named)
    (hkeyed : site.queue.Keyed) : site'.node.Named := by
  intro id m hm
  -- What is held stays under its ticket, or is let go, or was claimed with a new ticket.
  cases h.each id with
  | kept _ hheld =>
    rw [hheld] at hm
    obtain ⟨t, ht, hid⟩ := hnamed id m hm
    obtain ⟨t', ht', hc⟩ := h.old m t ht
    exact ⟨t', ht', hc.job ▸ hid⟩
  | stopped _ _ _ _ hheld =>
    rw [hheld] at hm
    cases hm
  | claimed r m' hr _ _ hheld _ hticket =>
    rw [hheld] at hm
    cases hm
    exact ⟨_, hticket, (hkeyed id r (Registry.find?_of_find?_purge hr)).1⟩

/-! ### Whole nodes -/

/-- What every node has. It was stopped together with its pool, or both go on, and each held id
leads to a ticket for its job. -/
structure Whole (n : Node) : Prop where
  stopped : n.isShutDown = n.pool.isShutDown
  sound : n.pool.Sound
  named : n.Named

section
variable {n n' : Node}

/-- A node that has just started holds no job, and goes on. -/
theorem whole_of_new {settings : Settings} {retention : Option Nat} {priority : Priority}
    {work : Option (Job → Work)} (h : Node.new settings retention priority work = .ok n) :
    n.Whole := by
  obtain ⟨-, -, hheld, hgoesOn, -, hpoolGoesOn, hsound⟩ := new_eq_ok h
  refine ⟨hgoesOn.trans hpoolGoesOn.symm, hsound, ?_⟩
  intro id m hm
  rw [hheld] at hm
  cases hm

/-- A change of the pool alone. -/
theorem Whole.of_follows (h : n.Whole) (hheld : n'.held = n.held)
    (hstopped : n'.isShutDown = n'.pool.isShutDown) (hsound : n'.pool.Sound)
    (hfollows : n.pool.Follows n'.pool) : n'.Whole :=
  ⟨hstopped, hsound, h.named.of_follows hheld hfollows⟩

/-- A ticket that is cancelled stays one for its job. -/
theorem Whole.cancel (h : n.Whole) (m : Nat) :
    Whole { n with pool := (n.pool.cancel m).2 } :=
  h.of_follows rfl (h.stopped.trans (Pool.isShutDown_cancel m _).symm)
    (Pool.sound_cancel h.sound m) (Pool.closes_cancel m _).follows

/-- A job is let go. -/
theorem Whole.drop (h : n.Whole) (id : String) : (n.drop id).Whole := by
  refine ⟨h.stopped, h.sound, ?_⟩
  intro id' m hm
  rw [show (n.drop id).held = n.held.erase id from rfl, Table.find?_erase] at hm
  split at hm
  · cases hm
  · exact h.named id' m hm

/-- Work that occupies a worker is ended. -/
theorem Whole.endWork (h : n.Whole) {m : Nat} (hm : m ∈ n.pool.busy) (how : WorkEnd) :
    Whole { n with pool := n.pool.endWork m how } := by
  refine h.of_follows rfl h.stopped (Pool.sound_endWork h.sound how ?_)
    (Pool.closes_endWork m how _).follows
  intro t ht
  obtain ⟨t', ht', hstarted⟩ := h.sound.busy m hm
  rw [ht] at ht'
  cases ht'
  exact hstarted

/-- A job that is taken on is held under a ticket for it. A pool that accepts a job goes on. -/
theorem Whole.take (h : n.Whole) {job : Job} {ticket : Nat} {pool : Pool}
    (hsubmit : n.pool.submit job = .ok (ticket, pool)) :
    Whole { n with pool, held := n.held.insert job.id ticket } := by
  obtain ⟨hopen, -, -, -, -, hopen'⟩ := Pool.submit_eq_ok hsubmit
  -- The id of the job leads to the new ticket, and the others to theirs.
  refine ⟨h.stopped.trans (hopen.trans hopen'.symm), Pool.sound_submit h.sound hsubmit, ?_⟩
  intro id m hm
  rw [show (n.held.insert job.id ticket).find? id = _ from Table.find?_insert ..] at hm
  split at hm
  next hid =>
    cases hm
    exact ⟨_, Pool.newTicket_of_submit hsubmit, hid.symm⟩
  next =>
    obtain ⟨t, ht, hjob⟩ := h.named id m hm
    exact ⟨t, Pool.ticket_of_submit hsubmit ht, hjob⟩

/-- What the stop of a node leaves of it. -/
structure Halted (n n' : Node) : Prop where
  settings : n'.settings = n.settings
  held : n'.held = n.held
  stopped : n.isShutDown = n.pool.isShutDown → n'.isShutDown = n'.pool.isShutDown
  sound : n.pool.Sound → n'.pool.Sound
  closes : n.pool.Closes n'.pool

/-- The stop leaves the node all that it holds, and closes its tickets. -/
theorem halted_shutDown (n : Node) : n.Halted n.shutDown := by
  unfold shutDown
  split
  · exact ⟨rfl, rfl, id, id, .of_eq rfl⟩
  · exact ⟨rfl, rfl, fun _ => (Pool.isShutDown_shutDown _).symm, Pool.sound_shutDown,
      Pool.closes_shutDown _⟩

/-- So does a stop that ends the work as well. -/
theorem halted_stop (lastly : Job → WorkEnd) (n : Node) : n.Halted (n.stop lastly) := by
  have h := n.halted_shutDown
  exact ⟨h.settings, h.held, fun hs => (h.stopped hs).trans (Pool.isShutDown_endAll ..).symm,
    fun hs => Pool.sound_endAll (h.sound hs) lastly, h.closes.trans (Pool.closes_endAll lastly _)⟩

/-- A stopped node is whole. -/
theorem Halted.whole (h : n.Halted n') (hn : n.Whole) : n'.Whole :=
  hn.of_follows h.held (h.stopped hn.stopped) (h.sound hn.sound) h.closes.follows

end

/-! ### The pass up to its claim -/

/-- A pass of a clustered node up to its claim. -/
def prepare {σ : Type} (service : SharedQueue σ) (heldScan : Registry.Scan) (now : Nat) :
    Act σ Unit := do
  reviewHeld service heldScan now
  clearShared service

section
variable (now site) {scan : Registry.Scan} (hscan : ∀ ids, (scan ids).Perm ids)
  (heldScan : Registry.Scan) (hnamed : site.node.Named) (hkeyed : site.queue.Keyed)

include hscan hnamed hkeyed

/-- Before its claim a pass has reviewed the held jobs, canceled the overdue ones of all nodes
and stopped those that were asked to stop. -/
theorem run_prepare :
    ∃ reviewed q, Reviewed now (heldScan site.node.held.keys) site reviewed ∧
      reviewed.queue.Keyed ∧
      (prepare (Registry.service scan now) heldScan now).run site
        = (.ok (), calmed scan now q reviewed) ∧
      (∀ k, (q.purge now).records.find? k = ((reviewed.queue.purge now).records.find? k).map
        (Registry.evicted now site.node.settings.timeoutMillis site.node.settings.abandonedMillis
          timeoutReason)) ∧
      (q.purge now).Keyed ∧ Frame reviewed (calmed scan now q reviewed) ∧
      (calmed scan now q reviewed).queue.Keyed := by
  -- The review of what is held, and the sweep up to the claim.
  obtain ⟨reviewed, hrun, hr⟩ := run_reviewHeld scan now heldScan site hnamed
  have hkeyed' : reviewed.queue.Keyed := hkeyed.of_moves fun _ _ => hr.moves
  obtain ⟨q, hclear, hswept, hkeyedSwept, hframe, -, hkeyedCleared⟩ :=
    run_clearShared hscan now hkeyed'
  rw [hr.settings] at hswept
  exact ⟨reviewed, q, hr, hkeyed', (Act.run_bind_ok hrun).trans hclear, hswept, hkeyedSwept,
    hframe, hkeyedCleared⟩

/-- A pass ends with the review of the held jobs, or on a clustered node with the claim that
comes last. A node that was stopped does nothing. -/
theorem site_reconcile_eq :
    ((reconcile (Registry.service scan now) heldScan now).run site).2
      = if site.node.isShutDown = true then site
        else if site.node.settings.clustered = true then
          ((claim (Registry.service scan now)).run
            ((prepare (Registry.service scan now) heldScan now).run site).2).2
        else ((reviewHeld (Registry.service scan now) heldScan now).run site).2 := by
  obtain ⟨reviewed, hrun, hr⟩ := run_reviewHeld scan now heldScan site hnamed
  have hkeyed' : reviewed.queue.Keyed := hkeyed.of_moves fun _ _ => hr.moves
  obtain ⟨q, hclear, -⟩ := run_clearShared hscan now hkeyed'
  have hprepare : (prepare (Registry.service scan now) heldScan now).run site
      = (.ok (), calmed scan now q reviewed) := (Act.run_bind_ok hrun).trans hclear
  -- Both sides are the same parts in one order.
  rw [site_reconcile heldScan hrun, hr.settings, run_reviewShared_eq hclear, hrun, hprepare]

end

/-- A pass of a clustered node that goes on ends with a claim: the node claims as many of the jobs
that wait by then as it lacks to its limit. -/
theorem claimed_reconcile (now : Nat) (site : Site Registry) {scan : Registry.Scan}
    (hscan : ∀ ids, (scan ids).Perm ids) (heldScan : Registry.Scan) (h : site.node.Whole)
    (hgoesOn : site.node.isShutDown = false)
    (hclustered : site.node.settings.clustered = true) (hkeyed : site.queue.Keyed) :
    let before := ((prepare (Registry.service scan now) heldScan now).run site).2
    let after := ((reconcile (Registry.service scan now) heldScan now).run site).2
    after = ((claim (Registry.service scan now)).run before).2 ∧ before.queue.Keyed ∧
      Claimed now
        (before.queue.claimedIds (site.node.settings.maxRunning - before.node.held.size))
        before after := by
  intro before after
  have hafter : after = ((claim (Registry.service scan now)).run before).2 := by
    show ((reconcile (Registry.service scan now) heldScan now).run site).2 = _
    rw [site_reconcile_eq now site hscan heldScan h.named hkeyed, hgoesOn,
      if_neg Bool.false_ne_true, if_pos hclustered]
  -- Neither part stops the pool or changes the settings, so the claim asks for as many jobs as the
  -- node has room for.
  obtain ⟨reviewed, q, hreviewed, -, hrun, -, -, hframe, hkeyedBefore⟩ :=
    run_prepare now site hscan heldScan h.named hkeyed
  have hbefore : before = calmed scan now q reviewed := congrArg Prod.snd hrun
  have hopen : before.node.pool.isShutDown = false := by
    rw [hbefore, hframe.poolIsShutDown, hreviewed.poolIsShutDown, ← h.stopped, hgoesOn]
  have hsettings : before.node.settings = site.node.settings := by
    rw [hbefore, hframe.settings, hreviewed.settings]
  rw [← hbefore] at hkeyedBefore
  obtain ⟨after', hclaim, hclaimed⟩ := run_claim scan now hkeyedBefore hopen
  rw [← hsettings, hafter, hclaim]
  exact ⟨rfl, hkeyedBefore, hclaimed⟩

end Node

end JobScheduling
