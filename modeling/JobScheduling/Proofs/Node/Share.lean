import JobScheduling.Proofs.Node.Review
import JobScheduling.Proofs.Registry.Lifecycle

/-!
# `JobScheduling.Proofs.Node.Share`: what a pass does to the jobs of all nodes

The second part of a pass on a clustered node, `Node.reviewShared`, goes over the records of
the shared queue. It drops the expired ones, cancels the overdue ones, stops those that were
asked to stop, and claims waiting ones. Here it is described id by id.

* `find?_swept`: the records after the expired ones were dropped and the overdue ones
  canceled.
* `run_forEach_stopRequested`: the stop of the jobs that were asked to.
* `run_forEach_hold` and `run_claim`: how jobs are claimed and taken on.
* `run_clearShared`: all that comes before the claim.
* `sharedAt_of_claimed`, `sharedAt_of_not_claimed`: what all this comes to under one id.
* `run_reviewShared`: the whole review, as `Node.Shared`.

All records are visited, in an arbitrary order: `scan` permutes the ids it is given.
-/

set_option autoImplicit false

namespace JobScheduling

namespace Registry

/-! ### Dropping and canceling -/

/-- A record that ends now has not expired. -/
theorem expires_cancel (now : Nat) (reason : String) (q : Registry) {r : Record}
    (hr : q.expires now r = false) : q.expires now (r.cancel now reason true) = false := by
  by_cases hfinal : r.isFinal = true
  · rw [cancel_of_isFinal hfinal]
    exact hr
  · refine expires_of_ended_now ?_
    obtain ⟨asked, -, hcancel, -⟩ := cancel_of_open (Bool.eq_false_iff.2 hfinal) now reason
    rw [hcancel]
    rfl

/-- The records that are left after the expired ones were dropped and the overdue ones
canceled. A further purge drops nothing. -/
theorem find?_swept {scan : Scan} (hscan : ∀ ids, (scan ids).Perm ids)
    (now timeout abandoned : Nat) (reason : String) (q : Registry) (k : String) :
    let q' := (q.cancelOverdue scan now timeout abandoned reason).2
    q'.records.find? k
        = ((q.purge now).records.find? k).map (evicted now timeout abandoned reason) ∧
      (q'.purge now).records.find? k = q'.records.find? k := by
  intro q'
  have hfind : q'.records.find? k
      = ((q.purge now).records.find? k).map (evicted now timeout abandoned reason) := by
    refine (find?_cancelOverdue scan now timeout abandoned reason q k).trans ?_
    split
    next => rfl
    next hk =>
      -- An id that is not visited has no record.
      rw [(hscan _).mem_iff, ← Table.contains_iff] at hk
      have hnone : (q.purge now).records.find? k = none := Option.not_isSome_iff_eq_none.1 hk
      rw [hnone]
      rfl
  refine ⟨hfind, ?_⟩
  rw [find?_purge]
  cases hr' : q'.records.find? k with
  | none => rfl
  | some r' =>
  rw [hfind, Option.map_eq_some_iff] at hr'
  obtain ⟨r, hr, rfl⟩ := hr'
  rw [find?_purge, Option.filter_eq_some_iff] at hr
  have hkept : q.expires now r = false := by simpa using hr.2
  have hretention : q'.retention = q.retention := retention_cancelOverdue ..
  -- What the first purge has kept a second one keeps, canceled in between or not.
  have hlast : q.expires now (evicted now timeout abandoned reason r) = false := by
    simp only [evicted]
    split
    · exact expires_cancel now reason q hkept
    · exact hkept
  unfold expires at hlast
  rw [Option.filter_some, expires, hretention, hlast]
  rfl

end Registry

namespace Node

variable {scan : Registry.Scan} {now : Nat}

/-! ### Stopping -/

/-- The site after a job that was asked to stop was stopped, if it is for this node to do
so. -/
def stoppedSite (now : Nat) (status : Status) (site : Site Registry) : Site Registry :=
  if site.node.held.contains status.job.id = true then
    { node := site.node.letGo status.job.id
      queue := (site.queue.cancel now status.job.id cancelReason true).2 }
  else if status.startedAt.isNone = true then
    { site with queue := (site.queue.cancel now status.job.id cancelReason true).2 }
  else site

/-- A request to stop a job is not refused, as an error of the queue is caught. -/
theorem run_stopRequested (status : Status) (site : Site Registry) :
    (stopRequested (Registry.service scan now) status).run site
      = (.ok (), stoppedSite now status site) := by
  simp only [stopRequested, stoppedSite]
  have hrun := run_cancelHeld scan now status.job.id cancelReason site
  split at hrun
  next hheld =>
    -- The node holds the job, and whether the queue refuses does not matter.
    rw [Act.run_bind_ok (Act.run_attempt hrun), if_pos hheld]
    cases (site.queue.cancel now status.job.id cancelReason true).1 <;> rfl
  next hheld =>
    have hok : (cancelHeld (Registry.service scan now) status.job.id cancelReason).run site
        = ((Except.ok false : Except Error Bool).mapError .refused, site) := hrun
    rw [Act.run_bind_ok (Act.run_attempt hok), if_neg hheld]
    dsimp only
    -- A job that was never claimed is stopped by any node.
    split
    · exact Act.run_bind_ok (Act.run_attempt (Registry.run_cancel ..))
    · rfl

/-- The node lets go of the job that was asked to stop, and of no other. -/
theorem held_stoppedSite (status : Status) (site : Site Registry) (k : String) :
    (stoppedSite now status site).node.held.find? k
      = if k = status.job.id then none else site.node.held.find? k := by
  simp only [stoppedSite]
  by_cases hheld : site.node.held.contains status.job.id = true
  · obtain ⟨m, hm⟩ := Option.isSome_iff_exists.1 hheld
    rw [if_pos hheld, letGo_eq hm]
    exact Table.find?_erase ..
  · -- The node does not hold it; then only the record is touched.
    have hnone := Option.not_isSome_iff_eq_none.1 hheld
    have hsame : (stoppedSite now status site).node = site.node := by
      simp only [stoppedSite]
      rw [if_neg hheld]
      split <;> rfl
    show (stoppedSite now status site).node.held.find? k = _
    rw [hsame]
    split
    next hk => rw [hk]; exact hnone
    next => rfl

/-- Whether a job that was asked to stop is recorded as canceled by a node. -/
def stops (held : Table Nat) (k : String) (status : Status) : Bool :=
  status.job.id == k && (held.contains k || status.startedAt.isNone)

/-- The record of the job is canceled if it is for this node to do so. The others stay. -/
theorem find?_stoppedSite (status : Status) (site : Site Registry) (k : String) :
    (stoppedSite now status site).queue.records.find? k
      = (site.queue.records.find? k).map fun r =>
          if stops site.node.held k status = true then r.cancel now cancelReason true else r := by
  have hcancel : (site.queue.cancel now status.job.id cancelReason true).2.records.find? k
      = (site.queue.records.find? k).map fun r =>
          if status.job.id == k then r.cancel now cancelReason true else r := by
    rw [Registry.find?_cancel]
    by_cases hk : k = status.job.id
    · simp [hk]
    · simp [hk, Ne.symm hk]
  simp only [stoppedSite, stops]
  -- The job is held, or it was never claimed, or neither. Records of other ids do not change.
  by_cases hid : status.job.id = k
  · subst hid
    split
    next hheld => rw [hcancel]; simp [hheld]
    next hheld =>
      split
      next hstarted => rw [hcancel]; simp [hstarted]
      next hstarted => simp [hheld, hstarted]
  · have hne : (status.job.id == k) = false := by simpa using hid
    simp only [hne, Bool.false_and, Bool.false_eq_true, if_false, Option.map_id'] at hcancel ⊢
    split
    · exact hcancel
    · split
      · exact hcancel
      · rfl

/-- The site after some jobs were asked to stop, one after the other. -/
def stoppedAll (now : Nat) (statuses : List Status) (site : Site Registry) : Site Registry :=
  statuses.foldl (fun site status => stoppedSite now status site) site

/-- The jobs that were asked to stop are stopped one after the other. -/
theorem run_forEach_stopRequested (statuses : List Status) (site : Site Registry) :
    (Act.forEach (stopRequested (Registry.service scan now)) statuses).run site
      = (.ok (), stoppedAll now statuses site) := by
  induction statuses generalizing site with
  | nil => rfl
  | cons status statuses ih =>
    exact (Act.run_forEach_cons (run_stopRequested status site)).trans (ih _)

/-- What a cancellation and the end of a ticket keep, the stop of jobs keeps. -/
theorem stoppedAll_induction {P : Site Registry → Prop}
    (hcancel : ∀ site id, P site →
      P { site with queue := (site.queue.cancel now id cancelReason true).2 })
    (hletGo : ∀ site id (m : Nat), P site → site.node.held.find? id = some m →
      P { site with node :=
        { site.node with pool := (site.node.pool.cancel m).2, held := site.node.held.erase id } })
    (statuses : List Status) {site : Site Registry} (h : P site) :
    P (stoppedAll now statuses site) := by
  simp only [stoppedAll]
  -- By induction on the jobs, each of which is let go and canceled, or canceled, or left alone.
  induction statuses generalizing site with
  | nil => exact h
  | cons status statuses ih =>
    refine ih ?_
    show P (stoppedSite now status site)
    simp only [stoppedSite]
    split
    next hheld =>
      obtain ⟨m, hm⟩ := Option.isSome_iff_exists.1 hheld
      rw [letGo_eq hm]
      exact hcancel _ _ (hletGo site _ m h hm)
    next =>
      split
      · exact hcancel site _ h
      · exact h

/-- The node lets go of all jobs that were asked to stop. -/
theorem held_stoppedAll (statuses : List Status) (site : Site Registry) (k : String) :
    (stoppedAll now statuses site).node.held.find? k
      = if k ∈ statuses.map (·.job.id) then none else site.node.held.find? k := by
  simp only [stoppedAll]
  induction statuses generalizing site with
  | nil => rfl
  | cons status statuses ih =>
    rw [List.foldl_cons, ih, held_stoppedSite]
    by_cases hk : k = status.job.id <;> simp [hk]

/-- Each job that a node stops is recorded as canceled, once. -/
theorem find?_stoppedAll (statuses : List Status) (site : Site Registry) (k : String) :
    (stoppedAll now statuses site).queue.records.find? k
      = (site.queue.records.find? k).map fun r =>
          if statuses.any (stops site.node.held k) = true then r.cancel now cancelReason true
          else r := by
  simp only [stoppedAll]
  -- By induction on the jobs that were asked to stop. One id may come more than once.
  induction statuses generalizing site with
  | nil => simp
  | cons status statuses ih =>
    rw [List.foldl_cons, ih, find?_stoppedSite, Option.map_map]
    congr 1
    funext r
    simp only [Function.comp_apply, List.any_cons]
    by_cases hhead : stops site.node.held k status = true
    · -- A second cancellation changes nothing.
      have htwice := Registry.cancel_of_isFinal (Registry.isFinal_cancel now cancelReason r) now
        cancelReason true
      simp [hhead, htwice]
    · have hcontains : (stoppedSite now status site).node.held.contains k
          = site.node.held.contains k := by
        simp only [Table.contains]
        rw [held_stoppedSite]
        split
        next hk =>
          subst hk
          have hfree : site.node.held.contains status.job.id = false := by
            simp only [stops, beq_self_eq_true, Bool.true_and, Bool.or_eq_true, not_or] at hhead
            simpa using hhead.1
          exact hfree.symm
        next => rfl
      have hstops : stops (stoppedSite now status site).node.held k = stops site.node.held k := by
        funext s
        simp only [stops]
        rw [hcontains]
      simp [hhead, hstops]

/-! ### Claiming -/

/-- Several jobs are taken on, one after the other, by a pool that is not stopped. Each gets
a ticket of its own. -/
theorem run_forEach_hold (jobs : List Job) {site : Site Registry}
    (hopen : site.node.pool.isShutDown = false) :
    ∃ n, (Act.forEach (hold (σ := Registry)) jobs).run site = (.ok (), { site with node := n }) ∧
      n.settings = site.node.settings ∧ n.isShutDown = site.node.isShutDown ∧
      n.pool.isShutDown = false ∧ (site.node.pool.Sound → n.pool.Sound) ∧
      n.pool.tickets = site.node.pool.tickets ++ jobs.map (fun job => ({ job } : Ticket)) ∧
      (∀ k, k ∉ jobs.map (·.id) → n.held.find? k = site.node.held.find? k) ∧
      ((jobs.map (·.id)).Nodup → ∀ (i : Nat) job, jobs[i]? = some job →
        n.held.find? job.id = some (site.node.pool.tickets.length + i)) := by
  induction jobs generalizing site with
  | nil => exact ⟨site.node, rfl, rfl, rfl, hopen, id, by simp, fun _ _ => rfl, by simp⟩
  | cons job jobs ih =>
    obtain ⟨pool, hsubmit⟩ := Pool.exists_submit_eq_ok hopen job
    obtain ⟨-, -, htickets, -, -, hopen'⟩ := Pool.submit_eq_ok hsubmit
    have hhold : (hold job).run site = (.ok (),
        { site with node := { site.node with
            pool, held := site.node.held.insert job.id site.node.pool.tickets.length } }) := by
      rw [run_hold, exists_take_eq_ok hsubmit]
    obtain ⟨n, hrun, hsettings, hdown, hpool, hsound, htickets', hother, heach⟩ :=
      @ih { site with node := { site.node with
        pool, held := site.node.held.insert job.id site.node.pool.tickets.length } } hopen'
    refine ⟨n, (Act.run_forEach_cons hhold).trans hrun, hsettings, hdown, hpool,
      fun hs => hsound (Pool.sound_submit hs hsubmit), ?_, ?_, ?_⟩
    · rw [htickets', htickets]
      simp
    · intro k hk
      simp only [List.map_cons, List.mem_cons, not_or] at hk
      rw [hother k hk.2]
      exact (Table.find?_insert ..).trans (if_neg hk.1)
    · intro hnodup i job' hi
      simp only [List.map_cons, List.nodup_cons] at hnodup
      -- The first job is not taken on again, since the ids are distinct.
      cases i with
      | zero =>
        cases hi
        rw [hother job.id hnodup.1]
        exact (Table.find?_insert ..).trans (if_pos rfl)
      | succ i =>
        have hlen : pool.tickets.length = site.node.pool.tickets.length + 1 := by
          rw [htickets]
          simp
        rw [heach hnodup.2 i job' hi, hlen]
        congr 1
        omega

/-- Work for the images of a list is work for the list of the images. -/
theorem forEach_map {β γ : Type} (f : γ → β) (work : β → Act Registry Unit) (l : List γ) :
    Act.forEach (fun c => work (f c)) l = Act.forEach work (l.map f) := by
  induction l with
  | nil => rfl
  | cons c l ih =>
    show (work (f c) >>= fun _ => Act.forEach (fun c => work (f c)) l) = _
    rw [ih]
    rfl

/-- The jobs of a claim have the claimed ids, in their order. -/
theorem ids_startNext {q : Registry} (hkeyed : q.Keyed) (now n : Nat) :
    ((q.startNext now n).1.map (·.job)).map (·.id) = q.claimedIds n := by
  rw [List.map_map]
  exact hkeyed.ids_startNext now n

/-- The jobs of a claim are those in the records of the claimed ids. -/
theorem find?_of_mem_startNext {q : Registry} (hkeyed : q.Keyed) {now n : Nat} {job : Job}
    (hjob : job ∈ (q.startNext now n).1.map (·.job)) :
    ∃ r, q.records.find? job.id = some r ∧ job = r.status.job := by
  rw [Registry.startNext_fst, List.mem_map] at hjob
  obtain ⟨status, hstatus, rfl⟩ := hjob
  obtain ⟨id, -, hid⟩ := List.mem_filterMap.1 hstatus
  obtain ⟨r, hr, rfl⟩ := Option.map_eq_some_iff.1 hid
  rw [Registry.job_started, (hkeyed id r hr).1]
  exact ⟨r, hr, rfl⟩

/-- What a node makes of a site when it claims the jobs of some ids and takes them on. -/
structure Claimed (now : Nat) (ids : List String) (site site' : Site Registry) : Prop extends
    Frame site site' where
  /-- Old tickets stay, and a new one is that of a held job. -/
  tickets : ∀ m : Nat, site'.node.pool.tickets[m]? = site.node.pool.tickets[m]? ∨
    site.node.pool.tickets[m]? = none ∧ ∃ id ∈ ids, site'.node.held.find? id = some m
  other : ∀ id, id ∉ ids → site'.queue.records.find? id = site.queue.records.find? id ∧
    site'.node.held.find? id = site.node.held.find? id
  claimed : ∀ id ∈ ids, ∃ r m, site.queue.records.find? id = some r ∧ r.stage = .waiting ∧
    site'.queue.records.find? id = some (Registry.started now r) ∧
    site'.node.held.find? id = some m ∧ site.node.pool.tickets[m]? = none ∧
    site'.node.pool.tickets[m]? = some ({ job := r.status.job } : Ticket)

/-- A node claims as many of the waiting jobs as it lacks to its limit, and takes them on. -/
theorem run_claim (scan : Registry.Scan) (now : Nat) {site : Site Registry}
    (hkeyed : site.queue.Keyed) (hopen : site.node.pool.isShutDown = false) :
    ∃ site', (claim (Registry.service scan now)).run site = (.ok (), site') ∧
      Claimed now (site.queue.claimedIds (site.node.settings.maxRunning - site.node.held.size))
        site site' := by
  simp only [claim]
  rw [Act.run_bind_ok (Act.run_node site)]
  split
  case isFalse hfull =>
    rw [Nat.sub_eq_zero_of_le (Nat.le_of_not_lt hfull)]
    exact ⟨site, rfl, ⟨.refl site, fun _ => .inl rfl, fun _ _ => ⟨rfl, rfl⟩, nofun⟩⟩
  case isTrue =>
    generalize site.node.settings.maxRunning - site.node.held.size = free
    generalize hjobs : (site.queue.startNext now free).1.map (·.job) = jobs
    have hids : jobs.map (·.id) = site.queue.claimedIds free :=
      hjobs ▸ ids_startNext hkeyed now free
    obtain ⟨n, hrun, hsettings, hdown, hpool, hsound, htickets, hother, heach⟩ :=
      @run_forEach_hold jobs { site with queue := (site.queue.startNext now free).2 } hopen
    have heach := heach (hids ▸ site.queue.nodup_claimedIds free)
    -- The ticket of the `i`-th job comes `i` places after the old ones.
    have hnew (m : Nat) (hm : site.node.pool.tickets.length ≤ m) :
        n.pool.tickets[m]? = jobs[m - site.node.pool.tickets.length]?.map
          fun job => ({ job } : Ticket) := by
      rw [htickets, List.getElem?_append_right hm, List.getElem?_map]
    have hframe : Frame site { node := n, queue := (site.queue.startNext now free).2 } :=
      ⟨hsettings, hdown, hpool.trans hopen.symm, hsound, Registry.requests_startNext ..,
        Registry.retention_startNext ..⟩
    refine ⟨_, ?_, ⟨hframe, ?_, fun id hid => ⟨?_, ?_⟩, ?_⟩⟩
    · rw [Act.run_bind_ok (Registry.run_startNext scan now site free), forEach_map, hjobs]
      exact hrun
    · intro m
      by_cases hm : m < site.node.pool.tickets.length
      · left
        show n.pool.tickets[m]? = _
        rw [htickets, List.getElem?_append_left hm]
      · have hnone : site.node.pool.tickets[m]? = none :=
          List.getElem?_eq_none (Nat.le_of_not_lt hm)
        have hm' := hnew m (Nat.le_of_not_lt hm)
        cases hjob : jobs[m - site.node.pool.tickets.length]? with
        | none =>
          left
          rw [hnone]
          exact hm'.trans (by rw [hjob]; rfl)
        | some job =>
          refine .inr ⟨hnone, job.id, ?_, (heach _ job hjob).trans ?_⟩
          · rw [← hids]
            exact List.mem_map_of_mem (List.mem_of_getElem? hjob)
          · congr 1
            show site.node.pool.tickets.length + (m - site.node.pool.tickets.length) = m
            omega
    · exact (Registry.find?_startNext ..).trans (if_neg hid)
    · exact hother id (hids ▸ hid)
    · intro id hid
      obtain ⟨r, hr, hwaiting⟩ := Registry.find?_of_mem_claimedIds hid
      rw [← hids, List.mem_map] at hid
      obtain ⟨job, hjob, rfl⟩ := hid
      obtain ⟨r', hr', hjob'⟩ := find?_of_mem_startNext hkeyed (hjobs ▸ hjob)
      obtain rfl : r' = r := Option.some.inj (hr'.symm.trans hr)
      obtain ⟨i, hi⟩ := List.mem_iff_getElem?.1 hjob
      have hclaimed : job.id ∈ site.queue.claimedIds free := hids ▸ List.mem_map_of_mem hjob
      refine ⟨r', site.node.pool.tickets.length + i, hr, hwaiting, ?_, heach i job hi,
        List.getElem?_eq_none (Nat.le_add_right ..), ?_⟩
      · rw [show _ = _ from Registry.find?_startNext .., if_pos hclaimed, hr]
        rfl
      · show n.pool.tickets[_]? = _
        rw [hnew _ (Nat.le_add_right ..), Nat.add_sub_cancel_left, hi, ← hjob']
        rfl

/-! ### The whole review -/

/-- What a review of the shared queue does under one id. -/
inductive SharedAt (now : Nat) (site site' : Site Registry) (id : String) : Prop
  /-- The record has expired, is canceled because the job is overdue, or stays. -/
  | kept
      (hrecord : site'.queue.records.find? id = ((site.queue.purge now).records.find? id).map
        (Registry.evicted now site.node.settings.timeoutMillis site.node.settings.abandonedMillis
          timeoutReason))
      (hheld : site'.node.held.find? id = site.node.held.find? id)
  /-- The job was asked to stop. A node that holds it stops it, and so does any node while it
  has not been claimed. -/
  | stopped (r : Record) (hr : (site.queue.purge now).records.find? id = some r)
      (hstage : r.stage = .canceling)
      (hrecord : site'.queue.records.find? id = some
        (if site.node.held.contains id = true ∨ r.status.startedAt.isNone = true then
          r.cancel now cancelReason true
        else r))
      (hheld : site'.node.held.find? id = none)
  /-- The job is claimed and taken on. -/
  | claimed (r : Record) (m : Nat) (hr : (site.queue.purge now).records.find? id = some r)
      (hstage : r.stage = .waiting)
      (hrecord : site'.queue.records.find? id = some (Registry.started now r))
      (hheld : site'.node.held.find? id = some m)
      (hnew : site.node.pool.tickets[m]? = none)
      (hticket : site'.node.pool.tickets[m]? = some { job := r.status.job })

/-- What a review of the shared queue makes of a site. -/
structure Shared (now : Nat) (site site' : Site Registry) : Prop extends Frame site site' where
  old : ∀ (m : Nat) t, site.node.pool.tickets[m]? = some t →
    ∃ t', site'.node.pool.tickets[m]? = some t' ∧ t.Closes t'
  /-- A new ticket is that of a claimed job. -/
  new : ∀ m : Nat, site.node.pool.tickets[m]? = none → site'.node.pool.tickets[m]? ≠ none →
    ∃ id, site'.node.held.find? id = some m
  each : ∀ id, SharedAt now site site' id

section
variable {q : Registry} (hscan : ∀ ids, (scan ids).Perm ids) (hkeyed : (q.purge now).Keyed)

include hscan hkeyed

/-- The jobs that were asked to stop are those whose records are at that stage. -/
theorem any_toCancel (p : Status → Bool) (k : String) :
    ((q.toCancel scan now).1.any fun status => status.job.id == k && p status) = true ↔
      ∃ r, (q.purge now).records.find? k = some r ∧ r.stage = .canceling ∧
        p r.status = true := by
  rw [List.any_eq_true]
  constructor
  · rintro ⟨status, hstatus, hp⟩
    obtain ⟨id, -, r, hr, hstage, rfl⟩ := Registry.mem_toCancel.1 hstatus
    rw [Bool.and_eq_true, beq_iff_eq, (hkeyed id r hr).1] at hp
    rw [← hp.1]
    exact ⟨r, hr, hstage, hp.2⟩
  · -- The scan visits every record, so also this one.
    rintro ⟨r, hr, hstage, hp⟩
    have hvisited : k ∈ scan (q.purge now).records.keys :=
      (hscan _).mem_iff.2 (Table.mem_keys_of_find? hr)
    refine ⟨r.status, Registry.mem_toCancel.2 ⟨k, hvisited, r, hr, hstage, rfl⟩, ?_⟩
    rw [Bool.and_eq_true, beq_iff_eq]
    exact ⟨(hkeyed k r hr).1, hp⟩

/-- The ids on the list are those of the canceling records. -/
theorem mem_toCancel_ids (k : String) :
    k ∈ (q.toCancel scan now).1.map (·.job.id) ↔
      ∃ r, (q.purge now).records.find? k = some r ∧ r.stage = .canceling := by
  have h := any_toCancel hscan hkeyed (fun _ => true) k
  simpa [List.any_eq_true] using h

end

/-- The site after the jobs that were asked to stop were stopped. -/
def calmed (scan : Registry.Scan) (now : Nat) (q : Registry) (site : Site Registry) :
    Site Registry :=
  stoppedAll now (q.toCancel scan now).1 { site with queue := q.purge now }

/-- The stop of jobs concerns no more than their records and their tickets. -/
theorem frame_stoppedAll (now : Nat) (statuses : List Status) {site : Site Registry}
    (hkeyed : site.queue.Keyed) :
    Frame site (stoppedAll now statuses site) ∧
      site.node.pool.Closes (stoppedAll now statuses site).node.pool ∧
      (stoppedAll now statuses site).queue.Keyed := by
  refine stoppedAll_induction
    (P := fun s => Frame site s ∧ site.node.pool.Closes s.node.pool ∧ s.queue.Keyed)
    ?_ ?_ statuses ⟨.refl site, .of_eq rfl, hkeyed⟩
  -- One cancellation of a record, and one of a ticket.
  · rintro s id ⟨hframe, hcloses, hkeyed⟩
    have hcanceled : Frame s { s with queue := (s.queue.cancel now id cancelReason true).2 } :=
      ⟨rfl, rfl, rfl, fun h => h, Registry.requests_update .., Registry.retention_update ..⟩
    exact ⟨hframe.trans hcanceled, hcloses,
      Registry.keyed_serve (fun ids => ids) now (.cancel id cancelReason true) hkeyed⟩
  · rintro s id m ⟨hframe, hcloses, hkeyed⟩ -
    refine ⟨hframe.trans ⟨rfl, rfl, Pool.isShutDown_cancel .., ?_, rfl, rfl⟩,
      hcloses.trans (Pool.closes_cancel m _), hkeyed⟩
    intro hsound
    exact Pool.sound_cancel hsound m

section
variable {site site' : Site Registry} {q : Registry} {ids : List String} {k : String}
  (hscan : ∀ ids, (scan ids).Perm ids) (hkeyed : (q.purge now).Keyed)
  (hswept : ∀ k, (q.purge now).records.find? k = ((site.queue.purge now).records.find? k).map
    (Registry.evicted now site.node.settings.timeoutMillis site.node.settings.abandonedMillis
      timeoutReason))
  (hclaimed : Claimed now ids (calmed scan now q site) site')

include hswept

/-- A record that has not ended after the sweep has gone through it unchanged. -/
theorem find?_of_swept {r : Record} (hr : (q.purge now).records.find? k = some r)
    (hopen : r.isFinal = false) : (site.queue.purge now).records.find? k = some r := by
  rw [hswept, Option.map_eq_some_iff] at hr
  obtain ⟨r₀, hr₀, hevicted⟩ := hr
  have hsame : r₀ = r := by
    refine (Registry.evicted_of_open ?_).symm.trans hevicted
    rw [hevicted]
    exact hopen
  exact hsame ▸ hr₀

/-- A record that has not ended before the claim has not been changed since the review of the held
jobs. -/
theorem find?_of_calmed {r : Record}
    (hr : (calmed scan now q site).queue.records.find? k = some r) (hopen : r.isFinal = false) :
    (q.purge now).records.find? k = some r ∧ (site.queue.purge now).records.find? k = some r := by
  rw [calmed, find?_stoppedAll, Option.map_eq_some_iff] at hr
  obtain ⟨r₁, hr₁, hr⟩ := hr
  -- A job that is stopped has ended.
  have hsame : r₁ = r := by
    split at hr
    · have hfinal := Registry.isFinal_cancel now cancelReason r₁
      rw [hr, hopen] at hfinal
      cases hfinal
    · exact hr
  rw [hsame] at hr₁
  exact ⟨hr₁, find?_of_swept hswept hr₁ hopen⟩

include hclaimed

/-- What is claimed waits before the claim, so it was neither overdue nor asked to stop. -/
theorem sharedAt_of_claimed
    (hcloses : site.node.pool.Closes (calmed scan now q site).node.pool) (hk : k ∈ ids) :
    SharedAt now site site' k := by
  obtain ⟨r, m, hr, hwaiting, hstarted, hm, hnone, hticket⟩ := hclaimed.claimed k hk
  have hunchanged := (find?_of_calmed hswept hr (Record.isFinal_of_stage hwaiting)).2
  exact .claimed r m hunchanged hwaiting hstarted hm ((hcloses.eq_none_iff m).2 hnone) hticket

include hscan hkeyed

/-- What is not claimed was asked to stop, or it is left alone. -/
theorem sharedAt_of_not_claimed (hk : k ∉ ids) : SharedAt now site site' k := by
  obtain ⟨hsameRecord, hsameHeld⟩ := hclaimed.other k hk
  rw [calmed, find?_stoppedAll] at hsameRecord
  rw [calmed, held_stoppedAll] at hsameHeld
  have hstops := any_toCancel hscan hkeyed
    (fun status => site.node.held.contains k || status.startedAt.isNone) k
  -- The job was asked to stop, or it was not and nothing happens to it here.
  by_cases hasked : k ∈ (q.toCancel scan now).1.map (·.job.id)
  · obtain ⟨r, hr, hcanceling⟩ := (mem_toCancel_ids hscan hkeyed k).1 hasked
    have hopen : r.isFinal = false := Record.isFinal_of_stage hcanceling
    have hiff : (q.toCancel scan now).1.any (stops site.node.held k) = true ↔
        site.node.held.contains k = true ∨ r.status.startedAt.isNone = true := by
      refine hstops.trans ?_
      simp only [hr, Option.some.injEq, Bool.or_eq_true]
      constructor
      · rintro ⟨r', rfl, -, hp⟩
        exact hp
      · intro hp
        exact ⟨r, rfl, hcanceling, hp⟩
    refine .stopped r (find?_of_swept hswept hr hopen) hcanceling ?_ ?_
    · simp only [hsameRecord, hr, Option.map_some, hiff]
    · rw [hsameHeld, if_pos hasked]
  · have hnever : ¬ (q.toCancel scan now).1.any (stops site.node.held k) = true := by
      intro hany
      obtain ⟨r, hr, hcanceling, -⟩ := hstops.1 hany
      exact hasked ((mem_toCancel_ids hscan hkeyed k).2 ⟨r, hr, hcanceling⟩)
    refine .kept ?_ ?_
    · simp only [hsameRecord, hnever]
      exact (congrArg _ (hswept k)).trans Option.map_id'
    · rw [hsameHeld, if_neg hasked]

end

/-- The part of a review of the shared queue that comes before its claim. -/
def clearShared {σ : Type} (service : SharedQueue σ) : Act σ Unit := do
  let settings := (← Act.node).settings
  let _ ← Act.ask service
    (service.cancelOverdue settings.timeoutMillis settings.abandonedMillis timeoutReason)
  let requested ← Act.ask service service.toCancel
  Act.forEach (stopRequested service) requested

/-- Before the claim the overdue jobs are canceled, and those that were asked to stop are
stopped. -/
theorem run_clearShared {scan : Registry.Scan} (hscan : ∀ ids, (scan ids).Perm ids) (now : Nat)
    {site : Site Registry} (hkeyed : site.queue.Keyed) :
    ∃ q, (clearShared (Registry.service scan now)).run site = (.ok (), calmed scan now q site) ∧
      (∀ k, (q.purge now).records.find? k = ((site.queue.purge now).records.find? k).map
        (Registry.evicted now site.node.settings.timeoutMillis site.node.settings.abandonedMillis
          timeoutReason)) ∧
      (q.purge now).Keyed ∧ Frame site (calmed scan now q site) ∧
      site.node.pool.Closes (calmed scan now q site).node.pool ∧
      (calmed scan now q site).queue.Keyed := by
  generalize hq : (site.queue.cancelOverdue scan now site.node.settings.timeoutMillis
    site.node.settings.abandonedMillis timeoutReason).2 = q
  -- First the sweep, then the list, and the purge that both begin with.
  have hkeyedSwept : (q.purge now).Keyed := by
    have h := Registry.keyed_serve scan now (.cancelOverdue site.node.settings.timeoutMillis
      site.node.settings.abandonedMillis timeoutReason) hkeyed
    exact hq ▸ Registry.keyed_serve scan now .toCancel h
  have hsweep : Frame site { site with queue := q.purge now } := by
    refine ⟨rfl, rfl, rfl, fun h => h, ?_, ?_⟩
    · show (q.purge now).requests = _
      rw [Registry.requests_purge, ← hq, Registry.requests_cancelOverdue]
    · show (q.purge now).retention = _
      rw [Registry.retention_purge, ← hq, Registry.retention_cancelOverdue]
  have hstop : Frame { site with queue := q.purge now } (calmed scan now q site) ∧
      site.node.pool.Closes (calmed scan now q site).node.pool ∧
      (calmed scan now q site).queue.Keyed := frame_stoppedAll now _ hkeyedSwept
  refine ⟨q, ?_, fun k => ?_, hkeyedSwept, hsweep.trans hstop.1, hstop.2⟩
  · unfold clearShared
    rw [Act.run_bind_ok (Act.run_node site)]
    dsimp only
    rw [Act.run_bind_ok (Registry.run_cancelOverdue ..), hq,
      Act.run_bind_ok (Registry.run_toCancel ..)]
    exact run_forEach_stopRequested ..
  · obtain ⟨hfind, hpurge⟩ := Registry.find?_swept hscan now site.node.settings.timeoutMillis
      site.node.settings.abandonedMillis timeoutReason site.queue k
    rw [← hq, hpurge, hfind]

/-- The claim comes last. -/
theorem run_reviewShared_eq {service : SharedQueue Registry} {site cleared : Site Registry}
    (h : (clearShared service).run site = (.ok (), cleared)) :
    (reviewShared service).run site = (claim service).run cleared := by
  have hassoc : (reviewShared service).run site
      = (clearShared service >>= fun _ => claim service).run site := by
    simp only [reviewShared, clearShared, bind_assoc]
  rw [hassoc, Act.run_bind_ok h]

/-- A review of the shared queue answers, and leaves the site as `Shared` says. -/
theorem run_reviewShared {scan : Registry.Scan} (hscan : ∀ ids, (scan ids).Perm ids) (now : Nat)
    {site : Site Registry} (hkeyed : site.queue.Keyed)
    (hopen : site.node.pool.isShutDown = false) :
    ∃ site', (reviewShared (Registry.service scan now)).run site = (.ok (), site') ∧
      Shared now site site' := by
  obtain ⟨q, hclear, hswept, hkeyedSwept, hframe, hcloses, hkeyedStopped⟩ :=
    run_clearShared hscan now hkeyed
  obtain ⟨site', hclaim, hclaimed⟩ := run_claim scan now hkeyedStopped
    (hframe.poolIsShutDown.trans hopen)
  generalize (calmed scan now q site).queue.claimedIds _ = ids at hclaimed
  refine ⟨site', (run_reviewShared_eq hclear).trans hclaim, hframe.trans hclaimed.toFrame,
    ?_, ?_, ?_⟩
  · -- Old tickets are closed at most, new ones were claimed, and each id is one of those claimed or
    -- not.
    intro m t ht
    obtain ⟨t', ht', hc⟩ := hcloses.ticket ht
    rcases hclaimed.tickets m with hsame | ⟨hnone, -⟩
    · exact ⟨t', hsame.trans ht', hc⟩
    · rw [ht'] at hnone
      cases hnone
  · intro m hm hm'
    have hnone := (hcloses.eq_none_iff m).1 hm
    rcases hclaimed.tickets m with hsame | ⟨-, id, -, hid⟩
    · exact absurd (hsame.trans hnone) hm'
    · exact ⟨id, hid⟩
  · intro k
    by_cases hk : k ∈ ids
    · exact sharedAt_of_claimed hswept hclaimed hcloses hk
    · exact sharedAt_of_not_claimed hscan hkeyedSwept hswept hclaimed hk

end Node

end JobScheduling
