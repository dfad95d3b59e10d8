import JobScheduling.Pool.Script
import JobScheduling.Proofs.Cluster.Capacity

/-!
# `JobScheduling.Proofs.Cluster.Retention`: the retention guards the held jobs

An id may be submitted again once its record was purged. A node that claims the new job while it
still holds the old one would lose sight of the old one, whose ticket may be open. Settings are
refused when a limit is not shorter than the retention of the queue, and that rules it out for
clustered nodes next to a queue that is changed only through them, as long as the clock does not
go back and no job is submitted before its time.

* A held job is guarded (`Cluster.Guarded`): the record under its id was claimed and is younger
  than the job, so it cannot be claimed again, or the job is older than the retention.
* A record is lost when nobody has checked it within the retention (`Deed.keeps`). A held job
  below it is then older than that, since it was submitted before the record was made
  (`Guarded.deed`).
* A job older than the retention is older than the time limit of its node, so the node lets go of
  it when it reviews its held jobs, which it does before it claims (`Timely.free`).

`timely_step` and `timely_run` keep this going, and `run_claims_free` is the result.
-/

set_option autoImplicit false

namespace JobScheduling

/-- A review of the shared queue keeps the records that its purge keeps. -/
theorem Node.Shared.keeps {now : Nat} {site site' : Site Registry} (h : Node.Shared now site site')
    {id : String} {r : Record} (hr : (site.queue.purge now).records.find? id = some r) :
    ∃ r', site'.queue.records.find? id = some r' ∧ r.Moves now r' := by
  cases h.each id with
  | kept hrecord _ =>
    rw [hr] at hrecord
    exact ⟨_, hrecord, Registry.evicted_moves ..⟩
  -- The node may have canceled the record when it stopped the job.
  | stopped r₁ hr₁ _ hrecord _ =>
    rw [hr] at hr₁
    cases hr₁
    refine ⟨_, hrecord, ?_⟩
    split
    · exact Record.cancel_moves ..
    · exact .refl
  | claimed r₁ m hr₁ _ hrecord _ _ _ =>
    rw [hr] at hr₁
    cases hr₁
    exact ⟨_, hrecord, Registry.started_moves ..⟩

namespace Cluster

variable {scan heldScan : Registry.Scan} {lastly : Job → WorkEnd}

section
variable {now k : Nat} {site site' : Site Registry} {s : Step} {id : String} {r : Record}

/-- A routine step keeps a record, which can move, unless its last check lies further back than the
retention. -/
theorem Does.keeps (h : Does heldScan now k site s site')
    (hr : site.queue.records.find? id = some r) (hpast : r.lastCheck ≤ now) :
    (∃ r', site'.queue.records.find? id = some r' ∧ r.Moves now r') ∨
      ∃ retention, site.queue.retention = some retention ∧
        retention < elapsed now r.lastCheck := by
  -- Most operations map the record of one id and leave the others alone.
  have hmap {f : Record → Record} (hf : ∀ r : Record, r.Moves now (f r)) {p : Prop} [Decidable p]
      (r : Record) : ∃ r', (if p then (some r).map f else some r) = some r' ∧ r.Moves now r' := by
    split
    · exact ⟨f r, rfl, hf r⟩
    · exact ⟨r, rfl, .refl⟩
  cases h with
  | nothing | ends => exact .inl ⟨r, hr, .refl⟩
  | records job =>
    rcases Registry.find?_purge_cases now hr with hkept | hlost
    · left
      refine ⟨r, ?_, .refl⟩
      rw [show _ = _ from Registry.find?_add .., if_neg]
      · exact hkept
      · rintro ⟨rfl, hfree⟩
        rw [hkept] at hfree
        cases hfree
    · exact .inr hlost
  | checks id' =>
    left
    rw [show _ = _ from Registry.find?_get .., hr]
    exact hmap (fun _ => .single .check) r
  | asks id' =>
    left
    rw [show _ = _ from Registry.find?_cancel .., hr]
    exact hmap (Record.cancel_moves now _ _) r
  | stops id' =>
    left
    rw [show _ = _ from Registry.find?_cancel .., Registry.find?_cancel, hr]
    obtain ⟨r₁, hr₁, m₁⟩ := hmap (Record.cancel_moves now Node.cancelReason false) (p := id = id') r
    obtain ⟨r₂, hr₂, m₂⟩ := hmap (Record.cancel_moves now Node.cancelReason true) (p := id = id') r₁
    rw [hr₁]
    exact ⟨r₂, hr₂, m₁.trans m₂⟩
  | @passes reviewed _ hreview hshare =>
    have hr₁ := hreview.records id
    rw [hr, Option.map_some] at hr₁
    have m₁ := Record.settled_moves now (site.node.leaving now site.queue
      (heldScan site.node.held.keys) id) r
    rcases Registry.find?_purge_cases now hr₁ with hkept | ⟨retention, hretention, hlong⟩
    · obtain ⟨r', hr', m⟩ := hshare.keeps hkept
      exact .inl ⟨r', hr', m₁.trans m⟩
    · refine .inr ⟨retention, hreview.retention ▸ hretention, hlong.trans_le ?_⟩
      exact Nat.sub_le_sub_left (m₁.lastCheck_le hpast).1 now

/-- The same for every step that does not lose the node. -/
theorem Deed.keeps (h : Deed heldScan now k site s site')
    (hr : site.queue.records.find? id = some r) (hpast : r.lastCheck ≤ now) :
    (∃ r', site'.queue.records.find? id = some r' ∧ r.Moves now r') ∨
      ∃ retention, site.queue.retention = some retention ∧
        retention < elapsed now r.lastCheck := by
  cases h with
  | does h => exact h.keeps hr hpast
  | halts => exact .inl ⟨r, hr, .refl⟩

end

/-! ### Guarded jobs -/

/-- A held job is guarded from another one of its id: the record under the id was claimed, and its
last check came after the submission of the job, or the job is older than the retention. -/
def Guarded (now : Nat) (q : Registry) (id : String) (job : Job) : Prop :=
  (∃ r, q.records.find? id = some r ∧ r.stage ≠ .waiting ∧ job.submittedAt ≤ r.lastCheck) ∨
    ∃ retention, q.retention = some retention ∧ retention < job.age now

/-- What lies further back than a retention goes on doing so. -/
theorem Guarded.later {now now' : Nat} {q : Registry} {id : String} {job : Job}
    (h : Guarded now q id job) (hle : now ≤ now') : Guarded now' q id job :=
  h.imp_right fun ⟨retention, hretention, hlong⟩ =>
    ⟨retention, hretention, hlong.trans_le (Nat.sub_le_sub_right hle _)⟩

/-- A deed keeps a job guarded: the record under its id is lost only when it lies further back than
the retention, and then the job does too. -/
theorem Guarded.deed {now k : Nat} {site site' : Site Registry} {s : Step} {id : String} {job : Job}
    (h : Guarded now site.queue id job) (hdeed : Deed heldScan now k site s site')
    (hpast : ∀ id r, site.queue.records.find? id = some r → r.lastCheck ≤ now) :
    Guarded now site'.queue id job := by
  have holder (retention : Nat) (hretention : site.queue.retention = some retention)
      (hlong : retention < job.age now) : Guarded now site'.queue id job :=
    .inr ⟨retention, hdeed.retention.trans hretention, hlong⟩
  rcases h with ⟨r, hr, hclaimed, hsubmitted⟩ | ⟨retention, hretention, hlong⟩
  · rcases hdeed.keeps hr (hpast id r hr) with ⟨r', hr', m⟩ | ⟨retention, hretention, hlong⟩
    · exact .inl ⟨r', hr', m.stage_ne_waiting hclaimed,
        hsubmitted.trans (m.lastCheck_le (hpast id r hr)).1⟩
    · exact holder retention hretention (hlong.trans_le (Nat.sub_le_sub_left hsubmitted now))
  · exact holder retention hretention hlong

/-! ### The invariant -/

/-- Clustered nodes whose time limits are shorter than the retention of the queue, and which hold
guarded jobs only. -/
structure Timely (c : Cluster Registry) : Prop extends OfMembers c where
  range : c.now ≤ maxWord
  limits : ∀ k n, c.node? k = some n → ∀ retention, c.queue.retention = some retention →
    n.settings.timeoutMillis < retention
  checked : ∀ id r, c.queue.records.find? id = some r →
    r.status.job.submittedAt ≤ r.lastCheck ∧ r.lastCheck ≤ c.now
  guarded : ∀ k n id m t, c.node? k = some n → n.held.find? id = some m →
    n.pool.tickets[m]? = some t → Guarded c.now c.queue id t.job
  tracked : ∀ k n, c.node? k = some n → n.Tracked

/-- Nodes that have just started hold nothing. -/
theorem timely_of_new {now : Nat} {retention : Option Nat} {nodes : List (Option Node)}
    (hnodes : ∀ n, some n ∈ nodes → ∃ settings, n.StartedClustered settings retention)
    (hrange : now ≤ maxWord) : Timely { now, queue := { retention }, nodes } where
  toOfMembers := ofMembers_of_new hnodes
  range := hrange
  limits := by
    intro k n hn limit hlimit
    obtain ⟨settings, hstarted⟩ := hnodes n (mem_of_node? hn)
    obtain ⟨-, priority, work, hnew⟩ := hstarted
    have hfault := (Node.new_eq_ok hnew).1
    rw [show retention = some limit from hlimit] at hfault
    rw [(Node.new_eq_ok hnew).2.1]
    exact (Settings.lt_of_retentionFault? hfault).2
  checked := by
    intro id r hr
    cases hr
  guarded := by
    intro k n id m t hn hm
    rw [(fresh_of_new hnodes id).held k n hn] at hm
    cases hm
  tracked := (caughtUp_of_new hnodes).tracked

section
variable {c c' : Cluster Registry} {s : Step}

/-- After a node has reviewed its held jobs it holds none whose record waits. Such a job would be
older than the retention, so it would be older than the limit of the node, and the node has let go
of it. -/
theorem Timely.free (h : c.Timely) (hheldScan : ∀ ids, (heldScan ids).Perm ids) {k : Nat}
    {n : Node} (hn : c.node? k = some n) {reviewed : Site Registry}
    (hreviewed : Node.Reviewed c.now (heldScan n.held.keys) (c.site n) reviewed) (id : String)
    (r : Record) (hr : reviewed.queue.records.find? id = some r) (hwaiting : r.stage = .waiting) :
    reviewed.node.held.find? id = none := by
  -- A held job that stays has not finished and is not due, so its age is below the limits of the
  -- node. Its guard is what keeps a waiting record of the same id away.
  rw [hreviewed.held, ite_eq_left_iff]
  intro hstays
  have hstays := Option.not_isSome_iff_eq_none.1 hstays
  show n.held.find? id = none
  cases hm : n.held.find? id with
  | none => rfl
  | some m =>
    obtain ⟨t, ht, -⟩ := (h.nodes k n hn).named id m hm
    have hvisited : id ∈ heldScan n.held.keys :=
      (hheldScan _).mem_iff.2 (Table.mem_keys_of_find? hm)
    obtain ⟨-, hdue⟩ := (Node.leaving_eq_none_iff hvisited
      (Node.ticket?_eq_some_iff.2 ⟨m, hm, ht⟩)).1 hstays
    rw [(hreviewed.of_stays hstays).2] at hr
    rcases h.guarded k n id m t hn hm ht with ⟨r', hr', hclaimed, -⟩ | ⟨retention, hlimit, hlong⟩
    · rw [show c.queue.records.find? id = some r from hr] at hr'
      cases hr'
      exact absurd hwaiting hclaimed
    · -- The limit is shorter than the retention, and the age is one that can be told.
      have hshorter := h.limits k n hn retention hlimit
      have hage : t.job.age c.now ≤ maxWord := (Nat.sub_le ..).trans h.range
      have hintime : ¬ n.settings.timeoutSecs * 1000 < t.job.age c.now := by
        intro hlate
        simp only [Node.isDue, Node.isTimedOut, hlate, decide_true, Bool.true_or] at hdue
        cases hdue
      rw [Settings.timeoutMillis, capped] at hshorter
      omega

section
variable {k : Nat} {n n' : Node} {site : Site Registry}
  (hshift : Shift heldScan s k n site n' c c')

include hshift

/-- After a shift the held jobs are guarded: those that were held before by `Guarded.deed`, and
those that were claimed by their records. -/
theorem Timely.guarded_shift (h : c.Timely) {j m : Nat} {l' : Node} {id : String} {t' : Ticket}
    (hl' : c'.node? j = some l') (hm : l'.held.find? id = some m)
    (ht' : l'.pool.tickets[m]? = some t') : Guarded c'.now c'.queue id t'.job := by
  -- What is held after the shift was held before, or was claimed in it and looked at by that.
  rcases hshift.held_cases hl' hm with ⟨l, hl, hm₁⟩ | ⟨-, rfl, -, r, hclaims⟩
  · obtain ⟨t, ht, -⟩ := (h.nodes j l hl).named id m hm₁
    obtain ⟨l₁, t₁, hl₁, ht₁, hfollows⟩ := hshift.follows hl ht
    rw [hl'] at hl₁
    cases hl₁
    rw [ht'] at ht₁
    cases ht₁
    have hguarded : Guarded c.now (c.site n).queue id t.job := h.guarded j l id m t hl hm₁ ht
    rw [hfollows.job, hshift.replaces.now, hshift.replaces.queue]
    show Guarded c.now site.queue id t.job
    exact hguarded.deed hshift.deed fun id r hr => (h.checked id r hr).2
  · obtain ⟨t, ht, hjob⟩ := hclaims.ticket
    rw [hclaims.held] at hm
    cases hm
    rw [ht'] at ht
    cases ht
    rw [hjob]
    refine .inl ⟨_, hclaims.after, ?_, ?_⟩
    · rw [Registry.stage_started c.now hclaims.waiting]
      nofun
    · rw [Registry.lastCheck_started]
      exact (h.checked id r hclaims.before).1

/-- A shift keeps a cluster timely, if no job is submitted before its time. -/
theorem Timely.shift (h : c.Timely) (hsubmitted : ∀ k job, s = .submit k job →
      job.submittedAt ≤ c.now) (htracked : site.node.Tracked) : c'.Timely where
  toOfMembers := hshift.ofMembers h.toOfMembers
  range := by
    rw [hshift.replaces.now]
    exact h.range
  limits := by
    intro j l hl retention hretention
    rw [hshift.replaces.queue, hshift.deed.retention] at hretention
    rw [hshift.node?] at hl
    split at hl
    · cases hl
      rw [hshift.worked.settings, hshift.deed.settings]
      exact h.limits k n hshift.node retention hretention
    · exact h.limits j l hl retention hretention
  checked := by
    -- A new record was checked just now, and no move sets the check back.
    intro id r' hr'
    rw [hshift.replaces.queue] at hr'
    rw [hshift.replaces.now]
    rcases hshift.deed.record_cases hr' with ⟨job, rfl, -, rfl, -⟩ | ⟨r, hr, m⟩
    · exact ⟨hsubmitted k job rfl, Nat.le_refl _⟩
    · obtain ⟨hafter, hpast⟩ := h.checked id r hr
      obtain ⟨hlater, hpast'⟩ := m.lastCheck_le hpast
      rw [(m.evolves (h.keyed id r hr).2).job]
      exact ⟨hafter.trans hlater, hpast'⟩
  guarded := fun _ _ _ _ _ hl hm ht => h.guarded_shift hshift hl hm ht
  tracked := hshift.tracked htracked h.tracked

end

/-- The clock does not go back or out of range, and no job is submitted before its time. -/
def Punctual : Nat → List Step → Prop
  | _, [] => True
  | now, .setClock now' :: rest => now ≤ now' ∧ now' ≤ maxWord ∧ Punctual now' rest
  | now, .submit _ job :: rest => job.submittedAt ≤ now ∧ Punctual now rest
  | now, _ :: rest => Punctual now rest

/-- What is assumed of the clock and of the submissions is assumed of each step and of the rest. -/
theorem Punctual.head {now : Nat} {rest : List Step} (h : Punctual now (s :: rest)) :
    (∀ now', s = .setClock now' → now ≤ now' ∧ now' ≤ maxWord ∧ Punctual now' rest) ∧
      (∀ k job, s = .submit k job → job.submittedAt ≤ now) ∧
      ((∀ now', s ≠ .setClock now') → Punctual now rest) := by
  cases s with
  | setClock now' =>
    exact ⟨fun _ heq => by cases heq; exact h, nofun, fun hne => absurd rfl (hne _)⟩
  | submit k job => exact ⟨nofun, fun _ _ heq => by cases heq; exact h.1, fun _ => h.2⟩
  | _ => exact ⟨nofun, nofun, fun _ => h⟩

/-- A step that is on time keeps a cluster timely. -/
theorem timely_step (hscan : ∀ ids, (scan ids).Perm ids)
    (hheldScan : ∀ ids, (heldScan ids).Perm ids) (lastly : Job → WorkEnd) (h : c.Timely)
    {rest : List Step} (hs : Punctual c.now (s :: rest)) :
    let c' := (c.step (shared scan heldScan lastly) s).2
    c'.Timely ∧ Punctual c'.now rest := by
  intro c'
  obtain ⟨hclock, hsubmitted, hrest⟩ := hs.head
  -- A step that sets the clock does nothing else.
  by_cases hset : ∃ now, s = .setClock now
  · obtain ⟨now, rfl⟩ := hset
    obtain ⟨hforward, hrange, hrest⟩ := hclock now rfl
    refine ⟨⟨⟨h.nodes, h.keyed⟩, hrange, h.limits, ?_, ?_, h.tracked⟩, hrest⟩
    · exact fun id r hr => (h.checked id r hr).imp_right fun hpast => hpast.trans hforward
    · exact fun j l id m t hl hm ht => (h.guarded j l id m t hl hm ht).later hforward
  have hrest := hrest fun now hs => hset ⟨now, hs⟩
  rcases shift_cases hscan heldScan lastly h.toOfMembers s with
    hc' | ⟨now, hs, -⟩ | ⟨k, -, hc'⟩ | ⟨k, f, n, hdeed, hshift, -⟩
  · rw [show c' = c from hc']
    exact ⟨h, hrest⟩
  · exact absurd ⟨now, hs⟩ hset
  · rw [show c' = _ from hc']
    exact ⟨⟨⟨fun j n hn => h.nodes j n (node?_of_drop hn), h.keyed⟩, h.range,
      fun j n hn => h.limits j n (node?_of_drop hn), h.checked,
      fun j n id m t hn => h.guarded j n id m t (node?_of_drop hn),
      fun j n hn => h.tracked j n (node?_of_drop hn)⟩, hrest⟩
  · have htracked := tracked_deed hscan hdeed hshift.node (h.nodes k n hshift.node) h.keyed
      (h.tracked k n hshift.node) fun _ => h.free hheldScan hshift.node
    refine ⟨h.shift hshift hsubmitted htracked, ?_⟩
    rw [hshift.replaces.now]
    exact hrest

/-- A cluster stays timely while its steps are punctual. -/
theorem timely_run (hscan : ∀ ids, (scan ids).Perm ids)
    (hheldScan : ∀ ids, (heldScan ids).Perm ids) (lastly : Job → WorkEnd) {steps : List Step}
    (h : c.Timely) (hsteps : Punctual c.now steps) :
    (run (shared scan heldScan lastly) steps c).2.Timely := by
  induction steps generalizing c with
  | nil => exact h
  | cons s rest ih =>
    rw [run_cons]
    obtain ⟨h', hrest⟩ := timely_step hscan hheldScan lastly h hsteps
    exact ih h' hrest

end

/-- A claim never displaces a job that is held. Take clustered nodes that have just started, with
any settings, priorities and work, next to an empty queue with the retention that they were checked
against, and any run of them, so any point of it. Nodes may be stopped and lost, and an id may be
submitted again once its record is purged. The clock does not go back or out of range, and no job is
submitted before its time.

Then each ticket that has not finished is the one under which its node holds the job. And when a
node that goes on makes a pass now, it holds none of the jobs that it claims when it claims them. -/
theorem run_claims_free (hscan : ∀ ids, (scan ids).Perm ids)
    (hheldScan : ∀ ids, (heldScan ids).Perm ids) (lastly : Job → WorkEnd) {now : Nat}
    {retention : Option Nat} {nodes : List (Option Node)}
    (hnodes : ∀ n, some n ∈ nodes → ∃ settings, n.StartedClustered settings retention)
    (hrange : now ≤ maxWord) {steps : List Step} (hsteps : Punctual now steps) :
    let c := (run (shared scan heldScan lastly) steps { now, queue := { retention }, nodes }).2
    ∀ k n, c.node? k = some n → n.Tracked ∧ (n.isShutDown = false →
      let before :=
        ((Node.prepare (Registry.service scan c.now) heldScan c.now).run (c.site n)).2
      let after :=
        ((Node.reconcile (Registry.service scan c.now) heldScan c.now).run (c.site n)).2
      after = ((Node.claim (Registry.service scan c.now)).run before).2 ∧
        ∃ ids, Node.Claimed c.now ids before after ∧
          ∀ id ∈ ids, before.node.held.find? id = none) := by
  intro c k n hn
  have h : c.Timely := timely_run hscan hheldScan lastly (timely_of_new hnodes hrange) hsteps
  refine ⟨h.tracked k n hn, fun hgoesOn => ?_⟩
  have hmember := h.nodes k n hn
  obtain ⟨hafter, -, hclaimed⟩ := Node.claimed_reconcile c.now (c.site n) hscan heldScan
    hmember.toWhole hgoesOn hmember.clustered h.keyed
  refine ⟨hafter, _, hclaimed, fun id hid => ?_⟩
  obtain ⟨r, hr, hwaiting⟩ := Registry.find?_of_mem_claimedIds hid
  exact Node.free_prepare c.now (c.site n) hscan heldScan hmember.named h.keyed
    (fun _ => h.free hheldScan hn) id r hr hwaiting

/-- The first node holds a job whose record the second one cancels, since it took too long. When the
record is purged the id is submitted again. -/
def resubmittedLate : List Step :=
  [.submit 0 { id := "a", submittedAt := 0 }, .reconcile 0, .setClock 700000, .reconcile 1,
    .setClock 2600000, .submit 1 { id := "a", submittedAt := 2600000 }]

/-- The pass of the node that holds the job does not claim the new one under its id. -/
theorem run_claims_free_resubmittedLate :
    let c := (run (shared id id .standard) resubmittedLate
      { now := 0, queue := { retention := some defaultRetention }, nodes := freshPair }).2
    Punctual 0 resubmittedLate ∧
      ∀ k n, c.node? k = some n → n.Tracked ∧ (n.isShutDown = false →
        let before := ((Node.prepare (Registry.service id c.now) id c.now).run (c.site n)).2
        let after := ((Node.reconcile (Registry.service id c.now) id c.now).run (c.site n)).2
        after = ((Node.claim (Registry.service id c.now)).run before).2 ∧
          ∃ ids, Node.Claimed c.now ids before after ∧
            ∀ id ∈ ids, before.node.held.find? id = none) := by
  have hnodes (n : Node) (hn : some n ∈ freshPair) :
      ∃ settings, n.StartedClustered settings (some defaultRetention) :=
    ⟨oneWorker, startedClustered_freshPair hn⟩
  have hsteps : Punctual 0 resubmittedLate :=
    ⟨by decide, by decide, by decide, by decide, by decide, by decide, trivial⟩
  exact ⟨hsteps, @run_claims_free id id (fun _ => .rfl) (fun _ => .rfl) .standard 0
    (some defaultRetention) _ hnodes (by decide) resubmittedLate hsteps⟩

end Cluster

end JobScheduling
