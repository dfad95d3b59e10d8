import JobScheduling.Pool.Script
import JobScheduling.Proofs.Cluster.Joined

/-!
# `JobScheduling.Proofs.Cluster.Lingering`: held jobs whose records have ended

A node can cancel the record of a job that another node holds, because the job took too long or
was abandoned. The holder is not told. It stops the job in its own next pass, where it finds the
job overdue as well. There is one exception. A client may check the record after its end, and
the job may be within its time limit: then the holder no longer finds it overdue, and goes on
holding it. Such a job lingers (`Node.Lingers`).

* `Record.Entrusted`: what the record of a held job says as long as the job is held. A record
  that has ended was canceled, and one of the two limits had passed by then, or a check came
  after it.
* `Orderly`: the invariant of clustered nodes with the same limits, as long as the clock does
  not go back and no id is submitted twice. `orderly_step` and `orderly_run` keep it.
* `run_held_final_iff`: the jobs that a pass leaves held although their records have ended are
  those that linger.
-/

set_option autoImplicit false

namespace JobScheduling

namespace Record

/-- What can happen to the record of a job that is held, next to these limits, while the job
goes on being held. -/
inductive Spared (timeout abandoned now : Nat) (r : Record) : Record → Prop
  | same : Spared timeout abandoned now r r
  | checked : Spared timeout abandoned now r (r.checked now)
  | asked (reason : String) : Spared timeout abandoned now r (r.cancel now reason false)
  | overdue (reason : String) (hdue : r.isOverdue now timeout abandoned = true) :
    Spared timeout abandoned now r (r.cancel now reason true)

/-- What the record of a job says while a node holds the job, with a time limit of `T` seconds
and of `A` seconds between the checks by the client. -/
structure Entrusted (T A : Nat) (job : Job) (r : Record) : Prop where
  job : r.status.job = job
  claimed : r.stage ≠ .waiting
  started : r.status.startedAt.isSome = true
  /-- A record that has ended was canceled when the job was overdue, or was checked later. -/
  ended : r.isFinal = true → r.stage = .canceled ∧ ∃ e, r.status.completedAt = some e ∧
    (T * 1000 < r.status.job.age e ∨ A * 1000 < elapsed e r.lastCheck ∨ e ≤ r.lastCheck)

variable {T A now : Nat}

/-- The record of a job that was just claimed. -/
theorem entrusted_started {r : Record} (h : r.stage = .waiting) :
    (Registry.started now r).Entrusted T A r.status.job := by
  rw [Registry.started_eq, if_pos h]
  refine ⟨rfl, nofun, rfl, ?_⟩
  intro hfinal
  cases hfinal

/-- What happens to the record of a held job keeps it entrusted. -/
theorem Entrusted.spared {job : Job} {r r' : Record} (h : r.Entrusted T A job)
    (hrange : now ≤ maxWord) (hpast : ∀ e, r.status.completedAt = some e → e ≤ now)
    (hr' : r.Spared (capped (T * 1000)) (capped (A * 1000)) now r') : r'.Entrusted T A job := by
  cases hr' with
  | same => exact h
  | checked =>
    refine ⟨h.job, h.claimed, h.started, ?_⟩
    intro hfinal
    -- The check comes after the end, which lies in the past.
    obtain ⟨hcanceled, e, he, -⟩ := h.ended hfinal
    exact ⟨hcanceled, e, he, .inr (.inr (hpast e he))⟩
  | asked reason =>
    by_cases hfinal : r.isFinal = true
    · rw [Registry.cancel_of_isFinal hfinal]
      exact h
    · obtain ⟨asked, hasked, -, hstage, hjob, hstarted, -⟩ :=
        Registry.cancel_of_open (Bool.eq_false_iff.2 hfinal) now reason
      rw [hasked]
      refine ⟨hjob.trans h.job, ?_, hstarted ▸ h.started, ?_⟩
      · rw [hstage]
        nofun
      · intro hf
        rw [isFinal, hstage] at hf
        cases hf
  | overdue reason hdue =>
    obtain ⟨hopen, hdue⟩ := (isOverdue_iff hrange r).1 hdue
    obtain ⟨asked, -, hcancel, -, hjob, hstarted, hcheck⟩ :=
      Registry.cancel_of_open hopen now reason
    rw [hcancel]
    refine ⟨hjob.trans h.job, ?_, ?_, fun _ => ⟨rfl, now, rfl, ?_⟩⟩
    · intro hwaiting
      cases hwaiting
    · show asked.status.startedAt.isSome = true
      rw [hstarted]
      exact h.started
    · show T * 1000 < asked.status.job.age now ∨ A * 1000 < elapsed now asked.lastCheck ∨ _
      rw [hjob, hcheck]
      exact hdue.imp_right .inl

end Record

namespace Cluster

variable {scan heldScan : Registry.Scan} {lastly : Job → WorkEnd}

section
variable {now : Nat} {site site' : Site Registry} {id : String} {r r' : Record}
  (hr : site.queue.records.find? id = some r) (hclaimed : r.stage ≠ .waiting)
  (hheld : site.node.held.find? id = none ∨ (site'.node.held.find? id).isSome = true)

include hr hclaimed hheld

/-- A pass after which the node holds a claimed job, or before which it did not, has not let go
of the job in between. -/
theorem stays_of_pass {ids : List String} {reviewed : Site Registry}
    (hreview : Node.Reviewed now ids site reviewed) (hshare : Node.Shared now reviewed site') :
    site.node.leaving now site.queue ids id = none := by
  rcases hheld with hfree | hstill
  · exact Node.leaving_of_free hfree
  cases hleaving : site.node.leaving now site.queue ids id with
  | none => rfl
  | some o =>
    -- A job that was let go is held again only if it is claimed again.
    have hgone : reviewed.node.held.find? id = none := by
      rw [hreview.held, hleaving]
      rfl
    cases hshare.each id with
    | kept _ hsame =>
      rw [hsame, hgone] at hstill
      cases hstill
    | stopped _ _ _ _ hnone =>
      rw [hnone] at hstill
      cases hstill
    | claimed r₁ _ hr₁ hwaiting =>
      obtain ⟨r₀, hr₀, m⟩ := hreview.moves (Registry.find?_of_find?_purge hr₁)
      rw [hr] at hr₀
      cases hr₀
      exact absurd hwaiting (m.stage_ne_waiting hclaimed)

variable (hr' : site'.queue.records.find? id = some r')
  (hstarted : r.status.startedAt.isSome = true)

include hr' hstarted

/-- What a pass does to the record of a claimed job. -/
theorem spared_of_pass {ids : List String} {reviewed : Site Registry}
    (hreview : Node.Reviewed now ids site reviewed) (hshare : Node.Shared now reviewed site') :
    r.Spared site.node.settings.timeoutMillis site.node.settings.abandonedMillis now r' := by
  obtain ⟨hsameHeld, hsameRecord⟩ :=
    hreview.of_stays (stays_of_pass hr hclaimed hheld hreview hshare)
  have hpurged {r₁ : Record} (hr₁ : (reviewed.queue.purge now).records.find? id = some r₁) :
      r₁ = r := by
    have hr₁ := Registry.find?_of_find?_purge hr₁
    rw [hsameRecord, hr] at hr₁
    exact (Option.some.inj hr₁).symm
  cases hshare.each id with
  | kept hrecord _ =>
    rw [hrecord, hreview.settings, Option.map_eq_some_iff] at hr'
    obtain ⟨r₁, hr₁, rfl⟩ := hr'
    rw [hpurged hr₁]
    simp only [Registry.evicted]
    split
    next hdue => exact .overdue _ hdue
    next => exact .same
  | stopped r₁ hr₁ _ hrecord hgone =>
    -- The node did not hold the job, and some other node has claimed it.
    have hfree : site.node.held.find? id = none := by
      rcases hheld with hfree | hstill
      · exact hfree
      · rw [hgone] at hstill
        cases hstill
    have hnot : ¬ (reviewed.node.held.contains id = true ∨ r.status.startedAt.isNone = true) := by
      simp only [Table.contains]
      rw [hsameHeld, hfree, ← Option.not_isSome, hstarted]
      simp
    rw [hrecord, hpurged hr₁, if_neg hnot] at hr'
    cases hr'
    exact .same
  | claimed r₁ _ hr₁ hwaiting =>
    rw [hpurged hr₁] at hwaiting
    exact absurd hwaiting hclaimed

end

/-- What a routine step does to the record of a claimed job that the node goes on to hold, or
does not hold at all. -/
theorem Does.spared {now k : Nat} {site site' : Site Registry} {s : Step}
    (h : Does heldScan now k site s site') {id : String} {r r' : Record}
    (hs : ∀ job, s = .submit k job → job.id ≠ id)
    (hr : site.queue.records.find? id = some r) (hr' : site'.queue.records.find? id = some r')
    (hclaimed : r.stage ≠ .waiting) (hstarted : r.status.startedAt.isSome = true)
    (hheld : site.node.held.find? id = none ∨ (site'.node.held.find? id).isSome = true) :
    r.Spared site.node.settings.timeoutMillis site.node.settings.abandonedMillis now r' := by
  have hsame (hr' : site.queue.records.find? id = some r') : r.Spared
      site.node.settings.timeoutMillis site.node.settings.abandonedMillis now r' := by
    rw [hr] at hr'
    cases hr'
    exact .same
  cases h with
  | nothing | ends => exact hsame hr'
  | records job =>
    rw [show _ = _ from Registry.find?_add .., if_neg fun hid => hs job rfl hid.1.symm] at hr'
    exact hsame (Registry.find?_of_find?_purge hr')
  | checks id' =>
    rw [show _ = _ from Registry.find?_get .., hr] at hr'
    split at hr' <;> cases hr'
    · exact .checked
    · exact .same
  | asks id' =>
    rw [show _ = _ from Registry.find?_cancel .., hr] at hr'
    split at hr' <;> cases hr'
    · exact .asked _
    · exact .same
  | stops id' _ m hm =>
    -- The job that is stopped was held and is let go.
    have hne : id ≠ id' := by
      rintro rfl
      rw [hm, show _ = _ from Table.find?_erase .., if_pos rfl] at hheld
      rcases hheld with hheld | hheld <;> cases hheld
    rw [show _ = _ from Registry.find?_cancel .., if_neg hne, Registry.find?_cancel,
      if_neg hne] at hr'
    exact hsame hr'
  | passes hreview hshare =>
    exact spared_of_pass hr hclaimed hheld hr' hstarted hreview hshare

/-! ### The invariant -/

/-- Clustered nodes with a time limit of `T` seconds and of `A` seconds between the checks by a
client, which share a queue that keeps its records for longer. -/
structure Orderly (T A : Nat) (c : Cluster Registry) : Prop extends AtWork c where
  limits : ∀ k n, c.node? k = some n →
    n.settings.timeoutSecs = T ∧ n.settings.abandonedSecs = A
  range : c.now ≤ maxWord
  outlasts : ∀ k n, c.node? k = some n → ∀ retention, c.queue.retention = some retention →
    capped (A * 1000) < retention
  past : ∀ id r, c.queue.records.find? id = some r →
    ∀ e, r.status.completedAt = some e → e ≤ c.now
  /-- No two nodes hold jobs of one id. -/
  single : ∀ id j l i l', c.node? j = some l → c.node? i = some l' →
    (l.held.find? id).isSome = true → (l'.held.find? id).isSome = true → j = i
  entrusted : ∀ k n id t r, c.node? k = some n → n.ticket? id = some t →
    c.queue.records.find? id = some r → r.Entrusted T A t.job

/-- The time to which a step sets the clock. -/
def Step.clock? : Step → Option Nat
  | .setClock now => some now
  | _ => none

section
variable {T A : Nat} {s : Step} {c : Cluster Registry}

/-- A job whose record waits is not held. -/
theorem Orderly.free_of_waiting (h : Orderly T A c) {id : String} {r : Record}
    (hr : c.queue.records.find? id = some r) (hwaiting : r.stage = .waiting) {k : Nat} {n : Node}
    (hn : c.node? k = some n) : n.held.find? id = none := by
  cases hm : n.held.find? id with
  | none => rfl
  | some m =>
    obtain ⟨t, ht, -⟩ := (h.nodes k n hn).named id m hm
    have hclaimed := (h.entrusted k n id t r hn (Node.ticket?_eq_some_iff.2 ⟨m, hm, ht⟩) hr).claimed
    exact absurd hwaiting hclaimed

section
variable {k : Nat} {n n' : Node} {site : Site Registry} {c' : Cluster Registry}
  (h : Orderly T A c) (hturn : Turn heldScan s k n site n' c c')

include h hturn

/-- The record of a claimed job stays entrusted in a turn, if the node whose turn it is holds the
job afterwards or did not before. -/
theorem Orderly.entrusted_moved {id : String} {r r' : Record} {job : Job}
    (hr : c.queue.records.find? id = some r) (hr' : c'.queue.records.find? id = some r')
    (hs : s.submitted? ≠ some id) (hentrusted : r.Entrusted T A job)
    (hheld : n.held.find? id = none ∨ (n'.held.find? id).isSome = true) :
    r'.Entrusted T A job := by
  rw [hturn.replaces.queue] at hr'
  rw [hturn.worked.held] at hheld
  -- The step does not submit this id again, so the record is not replaced.
  have hne (job' : Job) (hsubmit : s = .submit k job') : job'.id ≠ id := by
    rintro rfl
    exact hs (hsubmit ▸ rfl)
  have hspared :=
    hturn.does.spared hne hr hr' hentrusted.claimed hentrusted.started hheld
  obtain ⟨htimeout, habandoned⟩ := h.limits k n hturn.node
  have hmillis : n.settings.timeoutMillis = capped (T * 1000) ∧
      n.settings.abandonedMillis = capped (A * 1000) := ⟨htimeout ▸ rfl, habandoned ▸ rfl⟩
  rw [show (c.site n).node = n from rfl, hmillis.1, hmillis.2] at hspared
  exact hentrusted.spared h.range (h.past id r hr) hspared

/-- After a turn the record of each held job is entrusted. -/
theorem Orderly.entrusted_turn (hfresh : ∀ id, s.submitted? = some id → c.Fresh id) {j m : Nat}
    {l' : Node} {id : String} {t' : Ticket} {r' : Record} (hl' : c'.node? j = some l')
    (hm : l'.held.find? id = some m) (ht' : l'.pool.tickets[m]? = some t')
    (hr' : c'.queue.records.find? id = some r') : r'.Entrusted T A t'.job := by
  rcases hturn.held_cases hl' hm with ⟨l, hl, hm₁⟩ | ⟨-, rfl, -, r, hclaims⟩
  · -- The job was held before, so its id is not one that is just submitted.
    have hs : s.submitted? ≠ some id := by
      intro hs
      have hfree := (hfresh id hs).held j l hl
      rw [hm₁] at hfree
      cases hfree
    obtain ⟨t, ht, -⟩ := (h.nodes j l hl).named id m hm₁
    obtain ⟨l'', t'', hl'', ht'', hfollows⟩ := hturn.follows hl ht
    rw [hl'] at hl''
    cases hl''
    rw [ht'] at ht''
    cases ht''
    have hbefore := hr'
    rw [hturn.replaces.queue] at hbefore
    rcases hturn.does.record_cases hbefore with ⟨job, rfl, rfl, -⟩ | ⟨r, hr, -⟩
    · exact absurd rfl hs
    have hentrusted := h.entrusted j l id t r hl (Node.ticket?_eq_some_iff.2 ⟨m, hm₁, ht⟩) hr
    rw [hfollows.job]
    -- The node whose turn it is goes on holding the job, or another node holds it.
    refine h.entrusted_moved hturn hr hr' hs hentrusted ?_
    rw [hturn.node?] at hl'
    split at hl'
    next =>
      cases hl'
      exact .inr (hm ▸ rfl)
    next hj =>
      left
      cases hk : n.held.find? id with
      | none => rfl
      | some m' => exact absurd (h.single id j l k n hl hturn.node (hm₁ ▸ rfl) (hk ▸ rfl)) hj
  · obtain ⟨t, ht, hjob⟩ := hclaims.ticket
    rw [hclaims.held] at hm
    cases hm
    rw [ht'] at ht
    cases ht
    have hr := hclaims.after
    rw [hr'] at hr
    cases hr
    rw [hjob]
    exact Record.entrusted_started hclaims.waiting

/-- A turn keeps the cluster orderly, unless it submits an id for the second time. -/
theorem Orderly.turn (hfresh : ∀ id, s.submitted? = some id → c.Fresh id) : Orderly T A c' where
  toAtWork := hturn.atWork h.toAtWork
  limits := by
    intro j l hl
    rw [hturn.node?] at hl
    split at hl
    · cases hl
      rw [hturn.worked.settings, hturn.does.settings]
      exact h.limits k n hturn.node
    · exact h.limits j l hl
  range := by
    rw [hturn.replaces.now]
    exact h.range
  outlasts := by
    intro _ _ _ retention hretention
    rw [hturn.replaces.queue, hturn.does.retention] at hretention
    exact h.outlasts k n hturn.node retention hretention
  past := by
    intro id r' hr'
    rw [hturn.replaces.queue] at hr'
    rw [hturn.replaces.now]
    rcases hturn.does.record_cases hr' with ⟨job, -, -, rfl, -⟩ | ⟨r, hr, hmoves⟩
    · -- A record that is new has not ended.
      intro e he
      cases he
    · exact hmoves.past (h.past id r hr)
  single := hturn.single (fun hr hwaiting _ _ => h.free_of_waiting hr hwaiting) h.single
  entrusted := by
    intro j l id t r hl ht hr
    obtain ⟨m, hm, htm⟩ := Node.ticket?_eq_some_iff.1 ht
    exact h.entrusted_turn hturn hfresh hl hm htm hr

end

/-- The time after a routine step. -/
theorem now_step (hscan : ∀ ids, (scan ids).Perm ids) (heldScan : Registry.Scan)
    (lastly : Job → WorkEnd) (h : c.AtWork) (hs : s.isRoutine = true) :
    (c.step (shared scan heldScan lastly) s).2.now = s.clock?.getD c.now := by
  cases hclock : s.clock? with
  | some now =>
    cases s <;> cases hclock
    rfl
  | none =>
    rcases routine_cases hscan heldScan lastly h hs with
      hc' | ⟨now, rfl, -⟩ | ⟨k, n, site, n', hturn⟩
    · rw [hc']
      rfl
    · cases hclock
    · exact hturn.replaces.now

/-- A routine step keeps a cluster orderly, and each id fresh that it does not submit. -/
theorem orderly_step (hscan : ∀ ids, (scan ids).Perm ids) (heldScan : Registry.Scan)
    (lastly : Job → WorkEnd) (h : Orderly T A c) (hs : s.isRoutine = true)
    (hclock : ∀ now, s.clock? = some now → c.now ≤ now ∧ now ≤ maxWord)
    (hfresh : ∀ id, s.submitted? = some id → c.Fresh id) :
    let c' := (c.step (shared scan heldScan lastly) s).2
    Orderly T A c' ∧ ∀ id, c.Fresh id → s.submitted? ≠ some id → c'.Fresh id := by
  intro c'
  rcases routine_cases hscan heldScan lastly h.toAtWork hs with
    hc' | ⟨now, rfl, hc'⟩ | ⟨k, n, site, n', hturn⟩
  · rw [show c' = c from hc']
    exact ⟨h, fun _ hid _ => hid⟩
  · obtain ⟨hforward, hrange⟩ := hclock now rfl
    rw [show c' = _ from hc']
    exact ⟨⟨⟨h.nodes, h.keyed⟩, h.limits, hrange, h.outlasts,
      fun id r hr e he => Nat.le_trans (h.past id r hr e he) hforward, h.single, h.entrusted⟩,
      fun _ hid _ => ⟨hid.record, hid.held⟩⟩
  · exact ⟨h.turn hturn hfresh, fun _ hid hne => hid.turn hturn hne⟩

/-- A run of routine steps keeps a cluster orderly. -/
theorem orderly_run (hscan : ∀ ids, (scan ids).Perm ids) (heldScan : Registry.Scan)
    (lastly : Job → WorkEnd) {steps : List Step} (h : Orderly T A c)
    (hsteps : ∀ s ∈ steps, s.isRoutine = true)
    (hclock : (c.now :: steps.filterMap Step.clock?).IsChain (· ≤ ·))
    (hrange : ∀ now ∈ steps.filterMap Step.clock?, now ≤ maxWord)
    (hnodup : (steps.filterMap Step.submitted?).Nodup)
    (hfresh : ∀ id ∈ steps.filterMap Step.submitted?, c.Fresh id) :
    Orderly T A (run (shared scan heldScan lastly) steps c).2 := by
  induction steps generalizing c with
  | nil => exact h
  | cons s rest ih =>
    have hs := hsteps s List.mem_cons_self
    have hnow := now_step hscan heldScan lastly h.toAtWork hs
    obtain ⟨h', hfresh'⟩ := orderly_step hscan heldScan lastly h hs
      (fun now hnow => by
        rw [List.filterMap_cons_some hnow] at hclock hrange
        exact ⟨(List.isChain_cons_cons.1 hclock).1, hrange now List.mem_cons_self⟩)
      (fun id hid => hfresh id (by rw [List.filterMap_cons_some hid]; exact List.mem_cons_self))
    -- What is assumed of the clock and of the submissions is assumed of the rest too.
    rw [run_cons]
    refine ih h' (fun s' hs' => hsteps s' (List.mem_cons_of_mem s hs')) ?_ ?_ ?_
      (fun id hid => hfresh' id ?_ ?_)
    · rw [hnow]
      cases ht : s.clock? with
      | none => rwa [List.filterMap_cons_none ht] at hclock
      | some now =>
        rw [List.filterMap_cons_some ht] at hclock
        exact (List.isChain_cons_cons.1 hclock).2
    · intro now hnow
      exact hrange now ((List.sublist_cons_self s rest).filterMap _ |>.subset hnow)
    · exact hnodup.sublist ((List.sublist_cons_self s rest).filterMap _)
    · exact hfresh id ((List.sublist_cons_self s rest).filterMap _ |>.subset hid)
    · intro hsubmitted
      rw [List.filterMap_cons_some hsubmitted, List.nodup_cons] at hnodup
      exact hnodup.1 hid

end

/-! ### What a pass leaves held -/

/-- A held job lingers, next to a time limit of `T` seconds and of `A` seconds between checks:
its record was canceled and has been checked since, but the job neither took too long nor is it
abandoned, and it goes on. -/
structure Lingers (T A now : Nat) (t : Ticket) (r : Record) : Prop where
  goesOn : t.isFinished = false
  canceled : r.stage = .canceled
  checked : ∃ e, r.status.completedAt = some e ∧ e ≤ r.lastCheck
  inTime : t.job.age now ≤ T * 1000
  attended : elapsed now r.lastCheck ≤ A * 1000

section
variable {T A : Nat} {c : Cluster Registry} {k : Nat} {n : Node} {id : String} {t : Ticket}
  {r : Record}

/-- When a holder does not find a job overdue. -/
theorem Orderly.isDue_eq_false_iff (h : Orderly T A c) (hn : c.node? k = some n)
    (hr : c.queue.records.find? id = some r) :
    n.isDue c.now c.queue id t = false ↔
      t.job.age c.now ≤ T * 1000 ∧ elapsed c.now r.lastCheck ≤ A * 1000 := by
  obtain ⟨htimeout, habandoned⟩ := h.limits k n hn
  simp only [Node.isDue, Node.isTimedOut]
  rw [hr, htimeout, habandoned]
  simp

/-- A record that was checked so recently has not expired. -/
theorem Orderly.kept_of_lingers (h : Orderly T A c) (hn : c.node? k = some n)
    (hr : Lingers T A c.now t r) :
    c.queue.expires c.now r = false := by
  obtain ⟨e, he, hchecked⟩ := hr.checked
  have haccess : r.lastAccess = r.lastCheck := by
    simp only [Record.lastAccess]
    rw [he]
    exact Nat.max_eq_right hchecked
  have hrange : elapsed c.now r.lastCheck ≤ maxWord := Nat.le_trans (Nat.sub_le ..) h.range
  have hrecent : elapsed c.now r.lastCheck ≤ capped (A * 1000) :=
    le_capped_iff.2 ⟨hr.attended, hrange⟩
  simp only [Registry.expires]
  cases hretention : c.queue.retention with
  | none => rfl
  | some retention =>
    -- The queue keeps its records for longer than the limit between two checks.
    have houtlasts := h.outlasts k n hn retention hretention
    simp only [Option.any_some, Record.isExpired, haccess, Bool.and_eq_false_iff,
      decide_eq_false_iff_not]
    right
    omega

section
variable {ids : List String} {reviewed site' : Site Registry} (h : Orderly T A c)
  (hn : c.node? k = some n) (hvisited : ∀ m, n.held.find? id = some m → id ∈ ids)
  (hreview : Node.Reviewed c.now ids (c.site n) reviewed)
  (hshare : Node.Shared c.now reviewed site')

include h hn hvisited hreview hshare

/-- A job that is held after a pass although its record has ended lingered before. -/
theorem Orderly.lingers_of_held_final (hstill : (site'.node.held.find? id).isSome = true)
    {r' : Record} (hr' : site'.queue.records.find? id = some r') (hfinal : r'.isFinal = true) :
    ∃ t r, n.ticket? id = some t ∧ c.queue.records.find? id = some r ∧ Lingers T A c.now t r := by
  cases hshare.each id with
  | stopped _ _ _ _ hgone =>
    rw [hgone] at hstill
    cases hstill
  | claimed r _ _ hwaiting hstarted =>
    rw [hstarted, Registry.started_eq, if_pos hwaiting] at hr'
    cases hr'
    cases hfinal
  | kept hkept hsame =>
    rw [hsame, hreview.held] at hstill
    split at hstill
    · cases hstill
    next hstays =>
    have hstays : n.leaving c.now c.queue ids id = none := Option.not_isSome_iff_eq_none.1 hstays
    obtain ⟨m, hm⟩ := Option.isSome_iff_exists.1 hstill
    obtain ⟨t, htm, -⟩ := (h.nodes k n hn).named id m hm
    have ht := Node.ticket?_eq_some_iff.2 ⟨m, hm, htm⟩
    obtain ⟨hopen, hdue⟩ := (Node.leaving_eq_none_iff (hvisited m hm) ht).1 hstays
    rw [hkept, Option.map_eq_some_iff] at hr'
    obtain ⟨r, hr, rfl⟩ := hr'
    have hr := Registry.find?_of_find?_purge hr
    rw [(hreview.of_stays hstays).2] at hr
    have hentrusted := h.entrusted k n id t r hn ht hr
    obtain ⟨hage, hcheck⟩ := (h.isDue_eq_false_iff hn hr).1 hdue
    -- What the holder does not find overdue is not canceled as overdue in the same pass.
    have hnotDue : ¬ r.isOverdue c.now (capped (T * 1000)) (capped (A * 1000)) = true := by
      rw [Record.isOverdue_iff h.range, hentrusted.job]
      omega
    obtain ⟨htimeout, habandoned⟩ := h.limits k n hn
    have hmillis : reviewed.node.settings.timeoutMillis = capped (T * 1000) ∧
        reviewed.node.settings.abandonedMillis = capped (A * 1000) := by
      rw [hreview.settings]
      exact ⟨htimeout ▸ rfl, habandoned ▸ rfl⟩
    unfold Registry.evicted at hfinal
    rw [hmillis.1, hmillis.2, if_neg hnotDue] at hfinal
    obtain ⟨hcanceled, e, he, hwhy⟩ := hentrusted.ended hfinal
    have hpast := h.past id r hr e he
    refine ⟨t, r, ht, hr, hopen, hcanceled, ⟨e, he, ?_⟩, hage, hcheck⟩
    -- Neither limit had passed at the end of the record, since neither has now.
    rw [hentrusted.job] at hwhy
    simp only [Job.age, elapsed] at *
    omega

/-- A job that lingers is held after a pass, and its record has ended. -/
theorem Orderly.held_final_of_lingers (ht : n.ticket? id = some t)
    (hr : c.queue.records.find? id = some r) (hlingers : Lingers T A c.now t r) :
    (site'.node.held.find? id).isSome = true ∧
      site'.queue.records.find? id = some r ∧ r.isFinal = true := by
  obtain ⟨m, hm, htm⟩ := Node.ticket?_eq_some_iff.1 ht
  have hdue : n.isDue c.now c.queue id t = false :=
    (h.isDue_eq_false_iff hn hr).2 ⟨hlingers.inTime, hlingers.attended⟩
  have hstays := (Node.leaving_eq_none_iff (hvisited m hm) ht).2 ⟨hlingers.goesOn, hdue⟩
  obtain ⟨hsameHeld, hsameRecord⟩ := hreview.of_stays hstays
  have hfinal : r.isFinal = true := Record.isFinal_of_stage hlingers.canceled
  have hpurged : (reviewed.queue.purge c.now).records.find? id = some r := by
    have hkept := h.kept_of_lingers hn hlingers
    unfold Registry.expires at hkept
    rw [Registry.find?_purge, hsameRecord, show (c.site n).queue = c.queue from rfl, hr,
      Option.filter_some, Registry.expires, hreview.retention,
      show (c.site n).queue = c.queue from rfl, hkept]
    rfl
  -- A canceled record is neither stopped nor claimed.
  have hstage {r₁ : Record} (hr₁ : (reviewed.queue.purge c.now).records.find? id = some r₁) :
      r₁.stage = .canceled := by
    rw [hpurged] at hr₁
    cases hr₁
    exact hlingers.canceled
  cases hshare.each id with
  | stopped r₁ hr₁ hcanceling =>
    rw [hstage hr₁] at hcanceling
    cases hcanceling
  | claimed r₁ _ hr₁ hwaiting =>
    rw [hstage hr₁] at hwaiting
    cases hwaiting
  | kept hkept hsame =>
    refine ⟨?_, ?_, hfinal⟩
    · rw [hsame, hsameHeld, show (c.site n).node = n from rfl, hm]
      rfl
    · rw [hkept, hpurged, Option.map_some, Registry.evicted_of_isFinal hfinal]

end

/-- The jobs that a pass leaves held although their records have ended are those that
linger. -/
theorem Orderly.held_final_iff (h : Orderly T A c) (hscan : ∀ ids, (scan ids).Perm ids)
    (hheldScan : ∀ ids, (heldScan ids).Perm ids) (hn : c.node? k = some n) (id : String) :
    let site' := ((Node.reconcile (Registry.service scan c.now) heldScan c.now).run (c.site n)).2
    (id ∈ site'.node.held.keys ∧
        ∃ r, site'.queue.records.find? id = some r ∧ r.isFinal = true) ↔
      ∃ t r, n.ticket? id = some t ∧ c.queue.records.find? id = some r ∧
        Lingers T A c.now t r := by
  intro site'
  obtain ⟨reviewed, hreview, hshare⟩ :=
    site_pass hscan heldScan c.now (c.site n) (h.nodes k n hn).member (h.nodes k n hn).goesOn
      h.keyed
  have hvisited (m : Nat) (hm : n.held.find? id = some m) : id ∈ heldScan n.held.keys :=
    (hheldScan _).mem_iff.2 (Table.mem_keys_of_find? hm)
  rw [← Table.contains_iff]
  constructor
  · rintro ⟨hstill, r', hr', hfinal⟩
    exact h.lingers_of_held_final hn hvisited hreview hshare hstill hr' hfinal
  · rintro ⟨t, r, ht, hr, hlingers⟩
    obtain ⟨hstill, hr', hfinal⟩ :=
      h.held_final_of_lingers hn hvisited hreview hshare ht hr hlingers
    exact ⟨hstill, r, hr', hfinal⟩

end

section
variable {T A now : Nat} {retention : Option Nat} {nodes : List (Option Node)}
  (hnodes : ∀ n, some n ∈ nodes → ∃ settings, n.StartedClustered settings retention ∧
    settings.timeoutSecs = T ∧ settings.abandonedSecs = A)

include hnodes

/-- Nodes that have just started next to an empty queue. Their limits are shorter than its
retention. -/
theorem orderly_of_new (hrange : now ≤ maxWord) :
    Orderly T A { now, queue := { retention }, nodes } where
  toAtWork := atWork_of_new fun n hn => (hnodes n hn).imp fun _ h => h.1
  limits := by
    intro k n hn
    obtain ⟨settings, hstarted, htimeout, habandoned⟩ := hnodes n (mem_of_node? hn)
    rw [hstarted.joined.2.1]
    exact ⟨htimeout, habandoned⟩
  range := hrange
  outlasts := by
    intro k n hn limit hlimit
    obtain ⟨settings, ⟨-, priority, work, hnew⟩, -, rfl⟩ := hnodes n (mem_of_node? hn)
    -- A node does not start when its limit is not shorter than the retention.
    have hfault := (Node.new_eq_ok hnew).1
    rw [show retention = some limit from hlimit] at hfault
    exact (Settings.lt_of_retentionFault? hfault).1
  past := by
    intro id r hr
    cases hr
  single := by
    intro id j l _ _ hl _ hm _
    rw [(fresh_of_new (fun n hn => (hnodes n hn).imp fun _ h => h.1) id).held j l hl] at hm
    cases hm
  entrusted := by
    intro _ _ id _ r _ _ hr
    cases hr

end

/-- What clustered nodes go on holding. Take any run of clustered nodes that have the same time
limit of `T` seconds, the same limit of `A` seconds between checks, and one queue that is
changed only through them. The clock does not go back, and no id is submitted twice. Then at the
end of a pass at any point of the run, the node holds a job whose record has ended exactly when
the job lingered before the pass: the record was canceled and has been checked since, neither
limit has passed by now, and the job goes on. -/
theorem run_held_final_iff (hscan : ∀ ids, (scan ids).Perm ids)
    (hheldScan : ∀ ids, (heldScan ids).Perm ids) (lastly : Job → WorkEnd) {T A now : Nat}
    {retention : Option Nat} {nodes : List (Option Node)}
    (hnodes : ∀ n, some n ∈ nodes → ∃ settings, n.StartedClustered settings retention ∧
      settings.timeoutSecs = T ∧ settings.abandonedSecs = A)
    {steps : List Step} (hsteps : ∀ s ∈ steps, s.isRoutine = true)
    (hclock : (now :: steps.filterMap Step.clock?).IsChain (· ≤ ·))
    (hrange : ∀ t ∈ now :: steps.filterMap Step.clock?, t ≤ maxWord)
    (honce : (steps.filterMap Step.submitted?).Nodup) :
    let c := (run (shared scan heldScan lastly) steps { now, queue := { retention }, nodes }).2
    ∀ k n, c.node? k = some n →
      let site' :=
        ((Node.reconcile (Registry.service scan c.now) heldScan c.now).run (c.site n)).2
      ∀ id, (id ∈ site'.node.held.keys ∧
          ∃ r, site'.queue.records.find? id = some r ∧ r.isFinal = true) ↔
        ∃ t r, n.ticket? id = some t ∧ c.queue.records.find? id = some r ∧
          Lingers T A c.now t r := by
  intro c k n hn site' id
  -- At the start no id has been submitted, so every one is fresh.
  have hnew := orderly_of_new hnodes (hrange now List.mem_cons_self)
  have h : Orderly T A c :=
    orderly_run hscan heldScan lastly hnew hsteps hclock
      (fun t ht => hrange t (List.mem_cons_of_mem now ht)) honce
      fun id _ => fresh_of_new (fun n hn => (hnodes n hn).imp fun _ h => h.1) id
  exact h.held_final_iff hscan hheldScan hn id

/-- The first of two nodes claims a job. The second one finds it abandoned and cancels the
record, and then the client checks it. -/
def checkedLate : List Step :=
  [.submit 0 { id := "a", submittedAt := 0 }, .reconcile 0, .setClock 120001, .reconcile 1,
    .status 1 "a" none]

/-- Two nodes with the default limits. The job lingers when its record was checked late. -/
theorem run_held_final_iff_checkedLate :
    let c := (run (shared id id .standard) checkedLate
      { now := 0, queue := { retention := some defaultRetention },
        nodes := freshPair }).2
    ∀ k n, c.node? k = some n →
      let site' := ((Node.reconcile (Registry.service id c.now) id c.now).run (c.site n)).2
      ∀ id, (id ∈ site'.node.held.keys ∧
          ∃ r, site'.queue.records.find? id = some r ∧ r.isFinal = true) ↔
        ∃ t r, n.ticket? id = some t ∧ c.queue.records.find? id = some r ∧
          Lingers 600 120 c.now t r := by
  have hnodes (n : Node) (hn : some n ∈ freshPair) :
      ∃ settings, n.StartedClustered settings (some defaultRetention) ∧
        settings.timeoutSecs = 600 ∧ settings.abandonedSecs = 120 :=
    ⟨oneWorker, startedClustered_freshPair hn, rfl, rfl⟩
  exact @run_held_final_iff id id (fun _ => .rfl) (fun _ => .rfl) .standard 600 120 0
    (some defaultRetention) _ hnodes checkedLate (by decide) (by decide) (by decide) (by decide)

/-- The first node goes on holding the job, although its record has ended. -/
theorem held_final_checkedLate :
    let c := (run (shared id id .standard) checkedLate
      { now := 0, queue := { retention := some defaultRetention },
        nodes := freshPair }).2
    (c.node? 0).any (fun n =>
      let site' := ((Node.reconcile (Registry.service id c.now) id c.now).run (c.site n)).2
      site'.node.held.contains "a" &&
        (site'.queue.records.find? "a").any (·.isFinal)) = true := by
  decide +kernel

end Cluster

end JobScheduling
