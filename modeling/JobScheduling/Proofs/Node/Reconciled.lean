import JobScheduling.Proofs.Node.Capacity
import JobScheduling.Proofs.Registry.Waiting

/-!
# `JobScheduling.Proofs.Node.Reconciled`: what a pass of a clustered node guarantees

`Node.Reconciled` says what holds when a pass of a clustered node ends, next to the site before
its claim. The parts of the pass act on the same records one after the other, and each has to
leave alone what those before it have reached.

* The sweep cancels every overdue job. What is still open when the pass ends has gone through it
  unchanged, or was claimed since (`inTime_calmed`).
* The node stops what it was asked to stop, if it holds the job or nobody has claimed it. The rest
  is for others (`asked_calmed`).
* The claim takes the first of the waiting jobs, as many as the node lacks to its limit
  (`Registry.length_claimedIds`, `Registry.precedes_of_claimed`), and hands each to the pool
  (`queuesNew_claim`).

`reconciled_reconcile` puts them together.
-/

set_option autoImplicit false

namespace JobScheduling

namespace Pool

/-- The tickets that a pool has given out since wait in its backlog. -/
def QueuesNew (p p' : Pool) : Prop :=
  ∀ (m : Nat) t, p.tickets[m]? = none → p'.tickets[m]? = some t → ⟨m, t.job⟩ ∈ p'.backlog.jobs

/-- A pool that stays as it is has no new ticket. -/
theorem QueuesNew.refl (p : Pool) : p.QueuesNew p := by
  intro m t hnew ht
  rw [hnew] at ht
  cases ht

/-- A job that is accepted is put into the backlog. -/
theorem QueuesNew.submit {p p' p'' : Pool} (h : p.QueuesNew p') {job : Job} {n : Nat}
    (hsubmit : p'.submit job = .ok (n, p'')) : p.QueuesNew p'' := by
  intro m t hnew ht
  obtain ⟨-, -, -, hbacklog, -⟩ := submit_eq_ok hsubmit
  rw [hbacklog]
  refine (Backlog.place_perm _ _ p'.backlog.jobs).mem_iff.2 ?_
  rcases ticket_cases_of_submit hsubmit ht with hold | ⟨rfl, rfl⟩
  · exact List.mem_cons_of_mem _ (h m t hnew hold)
  · exact List.mem_cons_self

end Pool

namespace Node

variable {scan : Registry.Scan} {now : Nat} {site : Site Registry}

/-- What a pass of a clustered node with these settings guarantees when it ends, before the
workers act. `before` is the site before the claim of the pass. -/
structure Reconciled (now : Nat) (settings : Settings) (before after : Site Registry) : Prop where
  /-- No job that has not ended is overdue. -/
  inTime : ∀ id r, after.queue.records.find? id = some r → r.isFinal = false →
    r.status.job.age now ≤ settings.timeoutSecs * 1000 ∧
      elapsed now r.lastCheck ≤ settings.abandonedSecs * 1000
  /-- A job that was asked to stop and has not stopped was started, and is held elsewhere. -/
  asked : ∀ id r, after.queue.records.find? id = some r → r.stage = .canceling →
    r.status.startedAt.isSome = true ∧ after.node.held.find? id = none
  /-- The first of the waiting jobs are claimed, as many as the node lacks to its limit. Each is
  handed to the pool and held, and nothing else changes. -/
  claimed : ∃ ids : List String, ids.Nodup ∧
    ids.length = min (settings.maxRunning - before.node.held.size) before.queue.waitingCount ∧
    Claimed now ids before after ∧
    (∀ id ∈ ids, ∀ id', id' ∉ ids → ∀ r r', before.queue.records.find? id = some r →
      before.queue.records.find? id' = some r' → r'.stage = .waiting →
        r.status.job.submittedAt < r'.status.job.submittedAt ∨
          r.status.job.submittedAt = r'.status.job.submittedAt ∧ id < id') ∧
    ∀ id ∈ ids, ∃ m job, after.node.held.find? id = some m ∧ job.id = id ∧
      ⟨m, job⟩ ∈ after.node.pool.backlog.jobs
  /-- The node holds no more jobs than it may run. -/
  within : after.node.held.size ≤ settings.maxRunning

section
variable {q : Registry}
  (hswept : ∀ k, (q.purge now).records.find? k = ((site.queue.purge now).records.find? k).map
    (Registry.evicted now site.node.settings.timeoutMillis site.node.settings.abandonedMillis
      timeoutReason))

include hswept

/-- Before the claim no open job is overdue. -/
theorem inTime_calmed (hrange : now ≤ maxWord) {id : String} {r : Record}
    (hr : (calmed scan now q site).queue.records.find? id = some r) (hopen : r.isFinal = false) :
    r.status.job.age now ≤ site.node.settings.timeoutSecs * 1000 ∧
      elapsed now r.lastCheck ≤ site.node.settings.abandonedSecs * 1000 := by
  have hleft := (find?_of_calmed hswept hr hopen).1
  rw [hswept, Option.map_eq_some_iff] at hleft
  obtain ⟨r₀, -, rfl⟩ := hleft
  have hdue := Registry.not_isOverdue_of_evicted hopen
  rw [Settings.timeoutMillis, Settings.abandonedMillis, Record.isOverdue_iff hrange] at hdue
  have hneither := not_or.1 fun hlate => hdue ⟨hopen, hlate⟩
  exact ⟨Nat.le_of_not_lt hneither.1, Nat.le_of_not_lt hneither.2⟩

/-- Before the claim a job that was asked to stop and has not stopped was started, and is not
held. -/
theorem asked_calmed (hscan : ∀ ids, (scan ids).Perm ids) (hkeyed : (q.purge now).Keyed)
    {id : String} {r : Record} (hr : (calmed scan now q site).queue.records.find? id = some r)
    (hcanceling : r.stage = .canceling) :
    r.status.startedAt.isSome = true ∧ (calmed scan now q site).node.held.find? id = none := by
  have hleft := (find?_of_calmed hswept hr (Record.isFinal_of_stage hcanceling)).1
  constructor
  · -- Otherwise the node would have stopped it.
    by_contra hstarted
    have hstops : (q.toCancel scan now).1.any (stops site.node.held id) = true := by
      refine (any_toCancel hscan hkeyed
        (fun status => site.node.held.contains id || status.startedAt.isNone) id).2 ?_
      refine ⟨r, hleft, hcanceling, ?_⟩
      rw [Option.isNone_iff_eq_none.2 (Option.not_isSome_iff_eq_none.1 hstarted), Bool.or_true]
    rw [calmed, find?_stoppedAll, Option.map_eq_some_iff] at hr
    obtain ⟨r₁, -, hr⟩ := hr
    rw [if_pos hstops] at hr
    have hfinal := Registry.isFinal_cancel now cancelReason r₁
    rw [hr, Record.isFinal_of_stage hcanceling] at hfinal
    cases hfinal
  · have hlisted := (mem_toCancel_ids hscan hkeyed id).2 ⟨r, hleft, hcanceling⟩
    rw [calmed, held_stoppedAll, if_pos hlisted]

end

/-- What a claim takes on waits in the backlog of the pool. -/
theorem queuesNew_claim (scan : Registry.Scan) (now : Nat) (site : Site Registry) :
    site.node.pool.QueuesNew ((claim (Registry.service scan now)).run site).2.node.pool := by
  obtain ⟨-, -, hqueues⟩ := claim_induction (P := fun _ n => site.node.pool.QueuesNew n.pool)
    (fun _ _ _ _ _ hqueues hsubmit => hqueues.submit hsubmit) scan now (.refl site.node.pool)
  exact hqueues

/-- What a pass of a clustered node that goes on guarantees. It is the review of the held jobs, the
sweep and the stop of those that were asked to, and then the claim. -/
theorem reconciled_reconcile (hscan : ∀ ids, (scan ids).Perm ids) (heldScan : Registry.Scan)
    (hrange : now ≤ maxWord) (h : site.node.Fit) (hgoesOn : site.node.isShutDown = false)
    (hclustered : site.node.settings.clustered = true) (hkeyed : site.queue.Keyed) :
    let before := ((prepare (Registry.service scan now) heldScan now).run site).2
    let after := ((reconcile (Registry.service scan now) heldScan now).run site).2
    after = ((claim (Registry.service scan now)).run before).2 ∧
      Reconciled now site.node.settings before after := by
  intro before after
  have hlast : after = ((claim (Registry.service scan now)).run before).2 ∧
      before.queue.Keyed ∧ Claimed now
        (before.queue.claimedIds (site.node.settings.maxRunning - before.node.held.size))
        before after :=
    claimed_reconcile now site hscan heldScan h.toWhole hgoesOn hclustered hkeyed
  obtain ⟨hafter, hkeyedBefore, hclaimed⟩ := hlast
  refine ⟨hafter, ?_⟩
  have hfit : after.node.Fit := by
    rw [hafter]
    exact fit_claim scan now (lasts_fit.prepare scan now heldScan site h)
  obtain ⟨reviewed, q, hreviewed, -, hrun, hswept, hkeyedSwept, hframe, -⟩ :=
    run_prepare now site hscan heldScan h.named hkeyed
  have hbefore : before = calmed scan now q reviewed := congrArg Prod.snd hrun
  have hsettings : reviewed.node.settings = site.node.settings := hreviewed.settings
  rw [← hsettings] at hswept
  have hqueues := queuesNew_claim scan now before
  rw [← hafter] at hqueues
  have hsame : after.node.settings = site.node.settings := by
    rw [hclaimed.settings, hbefore, hframe.settings, hsettings]
  clear_value before after
  subst hbefore
  generalize hids : (calmed scan now q reviewed).queue.claimedIds _ = ids at hclaimed
  -- A record that is open at the end was open before the claim, and is the same or claimed.
  have hrecord {id : String} {r : Record} (hr : after.queue.records.find? id = some r) :
      (id ∉ ids ∧ (calmed scan now q reviewed).queue.records.find? id = some r) ∨
        ∃ r₀, (calmed scan now q reviewed).queue.records.find? id = some r₀ ∧
          r₀.stage = .waiting ∧ r = Registry.started now r₀ := by
    by_cases hid : id ∈ ids
    · obtain ⟨r₀, -, hr₀, hwaiting, hstarted, -⟩ := hclaimed.claimed id hid
      rw [hr] at hstarted
      cases hstarted
      exact .inr ⟨r₀, hr₀, hwaiting, rfl⟩
    · exact .inl ⟨hid, (hclaimed.other id hid).1 ▸ hr⟩
  refine ⟨?_, ?_, ⟨ids, ?_, ?_, hclaimed, ?_, ?_⟩, ?_⟩
  · intro id r hr hopen
    rw [← hsettings]
    rcases hrecord hr with ⟨-, hr⟩ | ⟨r₀, hr₀, hwaiting, rfl⟩
    · exact inTime_calmed hswept hrange hr hopen
    · rw [Registry.job_started, Registry.lastCheck_started]
      exact inTime_calmed hswept hrange hr₀ (Record.isFinal_of_stage hwaiting)
  · intro id r hr hcanceling
    rcases hrecord hr with ⟨hid, hr⟩ | ⟨r₀, -, hwaiting, rfl⟩
    · rw [(hclaimed.other id hid).2]
      exact asked_calmed hswept hscan hkeyedSwept hr hcanceling
    · rw [Registry.stage_started now hwaiting] at hcanceling
      cases hcanceling
  · exact hids ▸ Registry.nodup_claimedIds ..
  · rw [← hids, Registry.length_claimedIds]
  · intro id hid id' hid' r r' hr hr' hwaiting
    rw [← hids] at hid hid'
    exact Registry.precedes_of_claimed hid hid' hr hr' hwaiting
  · intro id hid
    obtain ⟨r, m, hr, -, -, hm, hnew, hticket⟩ := hclaimed.claimed id hid
    exact ⟨m, r.status.job, hm, (hkeyedBefore id r hr).1, hqueues m _ hnew hticket⟩
  · rw [← hsame]
    exact hfit.within (hsame ▸ hclustered)

end Node

end JobScheduling
