import JobScheduling.Pool.Script
import JobScheduling.Proofs.Cluster.Joined

/-!
# `JobScheduling.Proofs.Cluster.Holders`: who holds the job of an open record

Clustered nodes that go on, next to a queue that is changed only through them. `Housed` says that
the job of an open record is held somewhere exactly when its work was started, and that no two
nodes hold jobs of one id.

A node lets go of a job in five ways: the work has ended with a report or a failure, the job is
overdue, it is canceled at the node, or it was canceled elsewhere. `Does.open_cases` says that
the record has ended in each of these. So a record that is open after a step is new, or it is
kept as it is next to the same holder, or it waited and has been claimed.

Nothing is assumed of the clock, and the nodes may differ in their settings.
-/

set_option autoImplicit false

namespace JobScheduling

/-- A request to stop that leaves a record open has not started its work. -/
theorem Record.of_open_cancel {now : Nat} {reason : String} {r : Record}
    (h : (r.cancel now reason false).isFinal = false) :
    r.isFinal = false ∧ (r.cancel now reason false).status.startedAt = r.status.startedAt := by
  cases hr : r.isFinal with
  | true =>
    rw [Registry.cancel_of_isFinal hr, hr] at h
    cases h
  | false =>
    obtain ⟨asked, hasked, -, -, -, hstarted, -⟩ := Registry.cancel_of_open hr now reason
    exact ⟨rfl, hasked ▸ hstarted⟩

namespace Node

variable {now : Nat} {site site' : Site Registry} {id : String} {r' : Record}

/-- What a review of the held jobs leaves open it has left alone. -/
theorem Reviewed.of_open {ids : List String} (h : Reviewed now ids site site')
    (hn : site.node.Named) (hsound : site.node.pool.Sound)
    (hgoesOn : site.node.pool.isShutDown = false) (hr' : site'.queue.records.find? id = some r')
    (hopen : r'.isFinal = false) :
    site.queue.records.find? id = some r' ∧
      site'.node.held.contains id = site.node.held.contains id := by
  cases hleaving : site.node.leaving now site.queue ids id with
  | none =>
    obtain ⟨hheld, hrecord⟩ := h.of_stays hleaving
    simp only [Table.contains]
    rw [hheld]
    exact ⟨hrecord ▸ hr', rfl⟩
  | some outcome =>
    -- The record of a job that is let go ends with the report.
    have hne := h.leaving_ne_interrupted hn hsound hgoesOn hleaving
    rw [h.records, hleaving] at hr'
    obtain ⟨r, -, rfl⟩ := Option.map_eq_some_iff.1 hr'
    rw [show r.settled now (some outcome) = r.reported now outcome from rfl,
      Record.isFinal_reported now r hne] at hopen
    cases hopen

/-- What a review of the shared queue leaves open it has left alone, or claimed. -/
theorem Shared.of_open (h : Shared now site site')
    (hr' : site'.queue.records.find? id = some r') (hopen : r'.isFinal = false) :
    (site.queue.records.find? id = some r' ∧
        site'.node.held.contains id = site.node.held.contains id) ∨
      ∃ r, site.queue.records.find? id = some r ∧ r.stage = .waiting ∧
        r' = Registry.started now r ∧ site'.node.held.contains id = true := by
  simp only [Table.contains]
  -- A record that is open after the pass was kept, or was claimed, or was asked to stop and is held
  -- elsewhere.
  cases h.each id with
  | kept hrecord hheld =>
    rw [hrecord] at hr'
    obtain ⟨r, hr, rfl⟩ := Option.map_eq_some_iff.1 hr'
    rw [Registry.evicted_of_open hopen, hheld]
    exact .inl ⟨Registry.find?_of_find?_purge hr, rfl⟩
  | stopped r hr hstage hrecord hheld =>
    rw [hrecord] at hr'
    split at hr'
    · -- The node has stopped the job.
      cases hr'
      rw [Registry.isFinal_cancel] at hopen
      cases hopen
    next helsewhere =>
      cases hr'
      have hfree := (not_or.1 helsewhere).1
      simp only [Table.contains, Bool.not_eq_true] at hfree
      rw [hheld, hfree]
      exact .inl ⟨Registry.find?_of_find?_purge hr, rfl⟩
  | claimed r m hr hstage hrecord hheld hnew hticket =>
    rw [hrecord] at hr'
    cases hr'
    rw [hheld]
    exact .inr ⟨r, Registry.find?_of_find?_purge hr, hstage, rfl, rfl⟩

end Node

namespace Cluster

variable {scan heldScan : Registry.Scan} {lastly : Job → WorkEnd}

/-- A record that is open after a step: a new one, or one that was open before and whose job is
held as before, or one that waited and has been claimed. -/
theorem Does.open_cases {now k : Nat} {site site' : Site Registry} {s : Step}
    (h : Does heldScan now k site s site') (hn : site.node.Joined) {id : String} {r' : Record}
    (hr' : site'.queue.records.find? id = some r') (hopen : r'.isFinal = false) :
    (s.submitted? = some id ∧ r'.status.startedAt = none) ∨
      ∃ r, site.queue.records.find? id = some r ∧ r.isFinal = false ∧
        ((r'.status.startedAt = r.status.startedAt ∧
            site'.node.held.contains id = site.node.held.contains id) ∨
          (r.stage = .waiting ∧ r'.status.startedAt.isSome = true ∧
            site'.node.held.contains id = true)) := by
  have of_same (hr' : site.queue.records.find? id = some r')
      (hheld : site'.node.held.contains id = site.node.held.contains id) :
      (s.submitted? = some id ∧ r'.status.startedAt = none) ∨
        ∃ r, site.queue.records.find? id = some r ∧ r.isFinal = false ∧
          ((r'.status.startedAt = r.status.startedAt ∧
              site'.node.held.contains id = site.node.held.contains id) ∨
            (r.stage = .waiting ∧ r'.status.startedAt.isSome = true ∧
              site'.node.held.contains id = true)) :=
    .inr ⟨r', hr', hopen, .inl ⟨rfl, hheld⟩⟩
  cases h with
  | nothing | ends => exact of_same hr' rfl
  | records job =>
    rw [show _ = _ from Registry.find?_add ..] at hr'
    split at hr'
    next hnew =>
      cases hr'
      exact .inl ⟨congrArg some hnew.1.symm, rfl⟩
    next => exact of_same (Registry.find?_of_find?_purge hr') rfl
  | checks =>
    rw [show _ = _ from Registry.find?_get ..] at hr'
    split at hr'
    · obtain ⟨r, hr, rfl⟩ := Option.map_eq_some_iff.1 hr'
      exact .inr ⟨r, hr, hopen, .inl ⟨rfl, rfl⟩⟩
    · exact of_same hr' rfl
  | asks =>
    rw [show _ = _ from Registry.find?_cancel ..] at hr'
    split at hr'
    · obtain ⟨r, hr, rfl⟩ := Option.map_eq_some_iff.1 hr'
      obtain ⟨hbefore, hstarted⟩ := Record.of_open_cancel hopen
      exact .inr ⟨r, hr, hbefore, .inl ⟨hstarted, rfl⟩⟩
    · exact of_same hr' rfl
  | stops id' =>
    rw [show _ = _ from Registry.find?_cancel ..] at hr'
    split at hr'
    · obtain ⟨r, -, rfl⟩ := Option.map_eq_some_iff.1 hr'
      rw [Registry.isFinal_cancel] at hopen
      cases hopen
    next hid =>
      rw [Registry.find?_cancel, if_neg hid] at hr'
      refine of_same hr' ?_
      simp only [Table.contains, Table.find?_erase, if_neg hid]
  | @passes reviewed _ hreview hshare =>
    -- The review of the held jobs comes first, and what it leaves open is as it was.
    have hreviewed {r : Record} (hr : reviewed.queue.records.find? id = some r) :=
      hreview.of_open hn.named hn.sound hn.poolGoesOn hr
    rcases hshare.of_open hr' hopen with ⟨hr, hheld⟩ | ⟨r, hr, hwaiting, rfl, hheld⟩
    · obtain ⟨hr, hheld'⟩ := hreviewed hr hopen
      exact of_same hr (hheld.trans hheld')
    · have hbefore : r.isFinal = false := Record.isFinal_of_stage hwaiting
      refine .inr ⟨r, (hreviewed hr hbefore).1, hbefore, .inr ⟨hwaiting, ?_, hheld⟩⟩
      rw [Registry.started_eq, if_pos hwaiting]
      rfl

/-- Whether a node holds the job of an id. -/
def Holds (c : Cluster Registry) (k : Nat) (id : String) : Prop :=
  ∃ n, c.node? k = some n ∧ n.held.contains id = true

/-- The job of an open record is held exactly when its work was started, and by one node. -/
structure Housed (c : Cluster Registry) : Prop extends AtWork c where
  single : ∀ id j l i l', c.node? j = some l → c.node? i = some l' →
    (l.held.find? id).isSome = true → (l'.held.find? id).isSome = true → j = i
  held_iff : ∀ id r, c.queue.records.find? id = some r → r.isFinal = false →
    ((∃ k, c.Holds k id) ↔ r.status.startedAt.isSome = true)

section
variable {c c' : Cluster Registry} {s : Step}

/-- A job that waits is held by no node. -/
theorem Housed.free_of_waiting (h : c.Housed) {id : String} {r : Record}
    (hr : c.queue.records.find? id = some r) (hwaiting : r.stage = .waiting) (k : Nat) (n : Node)
    (hn : c.node? k = some n) : n.held.find? id = none := by
  have hstarted := (h.keyed id r hr).2.startedAt_of_waiting hwaiting
  rw [← Option.not_isSome_iff_eq_none]
  intro hheld
  have := (h.held_iff id r hr (Record.isFinal_of_stage hwaiting)).1 ⟨k, n, hn, hheld⟩
  rw [hstarted] at this
  cases this

/-- Who holds the job of an id after a turn. -/
theorem Turn.holds_iff {k : Nat} {n n' : Node} {site : Site Registry}
    (hturn : Turn heldScan s k n site n' c c') (j : Nat) (id : String) :
    c'.Holds j id ↔ if j = k then site.node.held.contains id = true else c.Holds j id := by
  simp only [Holds]
  rw [hturn.node?]
  split
  · rw [← hturn.worked.held]
    exact ⟨fun ⟨_, hn, hheld⟩ => Option.some.inj hn ▸ hheld, fun hheld => ⟨n', rfl, hheld⟩⟩
  · rfl

/-- A turn keeps the jobs of the open records where they are, unless it submits an id for the
second time. -/
theorem Housed.turn (h : c.Housed) {k : Nat} {n n' : Node} {site : Site Registry}
    (hturn : Turn heldScan s k n site n' c c')
    (hfresh : ∀ id, s.submitted? = some id → c.Fresh id) : c'.Housed where
  toAtWork := hturn.atWork h.toAtWork
  single := hturn.single h.free_of_waiting h.single
  held_iff := by
    intro id r' hr' hopen
    rw [hturn.replaces.queue] at hr'
    rcases hturn.does.open_cases (h.nodes k n hturn.node) hr' hopen with
      ⟨hs, hstarted⟩ | ⟨r, hr, hbefore, ⟨hstarted, hheld⟩ | ⟨-, hstarted, hheld⟩⟩
    · -- Nobody holds a job of an id that is new.
      rw [hstarted]
      refine ⟨?_, nofun⟩
      rintro ⟨j, l', hl', hheld⟩
      obtain ⟨m, hm⟩ := Option.isSome_iff_exists.1 hheld
      rcases hturn.held_cases hl' hm with ⟨l, hl, hm'⟩ | ⟨-, -, -, r, hclaims⟩
      · rw [(hfresh id hs).held j l hl] at hm'
        cases hm'
      · have hnone := hclaims.before
        rw [(hfresh id hs).record] at hnone
        cases hnone
    · -- The record was there before, and it is held where it was held, or it was claimed by this
      -- node.
      rw [hstarted, ← h.held_iff id r hr hbefore]
      refine exists_congr fun j => ?_
      rw [hturn.holds_iff, hheld]
      split
      next hj =>
        subst hj
        exact ⟨fun hheld => ⟨n, hturn.node, hheld⟩,
          fun ⟨l, hl, hheld⟩ => by rwa [Option.some.inj (hturn.node.symm.trans hl)]⟩
      next => rfl
    · refine ⟨fun _ => hstarted, fun _ => ⟨k, ?_⟩⟩
      rw [hturn.holds_iff, if_pos rfl]
      exact hheld

/-- A routine step keeps the jobs of the open records where they are. -/
theorem housed_step (hscan : ∀ ids, (scan ids).Perm ids) (heldScan : Registry.Scan)
    (lastly : Job → WorkEnd) (h : c.Housed) (hs : s.isRoutine = true)
    (hfresh : ∀ id, s.submitted? = some id → c.Fresh id) :
    let c' := (c.step (shared scan heldScan lastly) s).2
    c'.Housed ∧ ∀ id, c.Fresh id → s.submitted? ≠ some id → c'.Fresh id := by
  intro c'
  rcases routine_cases hscan heldScan lastly h.toAtWork hs with
    hc' | ⟨now, rfl, hc'⟩ | ⟨k, n, site, n', hturn⟩
  · rw [show c' = c from hc']
    exact ⟨h, fun _ hid _ => hid⟩
  · rw [show c' = _ from hc']
    exact ⟨⟨⟨h.nodes, h.keyed⟩, h.single, h.held_iff⟩, fun _ hid _ => ⟨hid.record, hid.held⟩⟩
  · exact ⟨h.turn hturn hfresh, fun _ hid hne => hid.turn hturn hne⟩

/-- A run of routine steps that submits no id twice keeps the jobs of the open records where they
are. -/
theorem housed_run (hscan : ∀ ids, (scan ids).Perm ids) (heldScan : Registry.Scan)
    (lastly : Job → WorkEnd) {steps : List Step} (h : c.Housed)
    (hsteps : ∀ s ∈ steps, s.isRoutine = true)
    (honce : (steps.filterMap Step.submitted?).Nodup)
    (hfresh : ∀ id ∈ steps.filterMap Step.submitted?, c.Fresh id) :
    Housed (run (shared scan heldScan lastly) steps c).2 :=
  once_induction steps (fun _ s hs hc hnew =>
    housed_step hscan heldScan lastly hc (hsteps s hs) hnew) honce h hfresh

end

/-- Every claimed job has one holder. Take clustered nodes that have just started, with any
settings, priorities and work, next to an empty queue, and any run of them, so any point of it, in
which no node is stopped or lost and no id is submitted twice. The clock may go either way.

A job that runs, or was asked to stop after its work was started, is held by exactly one node. A
job that waits, or was asked to stop before it was claimed, is held by none. And no two nodes
hold jobs of one id, whatever its record says. -/
theorem run_holders (hscan : ∀ ids, (scan ids).Perm ids) (heldScan : Registry.Scan)
    (lastly : Job → WorkEnd) {now : Nat} {retention : Option Nat} {nodes : List (Option Node)}
    (hnodes : ∀ n, some n ∈ nodes → ∃ settings, n.StartedClustered settings retention)
    {steps : List Step} (hsteps : ∀ s ∈ steps, s.isRoutine = true)
    (honce : (steps.filterMap Step.submitted?).Nodup) :
    let c := (run (shared scan heldScan lastly) steps { now, queue := { retention }, nodes }).2
    (∀ id r, c.queue.records.find? id = some r →
      (r.stage = .running ∨ r.stage = .canceling ∧ r.status.startedAt.isSome = true →
        ∃! k, c.Holds k id) ∧
      (r.stage = .waiting ∨ r.stage = .canceling ∧ r.status.startedAt = none →
        ∀ k, ¬ c.Holds k id)) ∧
      ∀ id j k, c.Holds j id → c.Holds k id → j = k := by
  intro c
  have hnew : Housed { now, queue := { retention }, nodes } := by
    refine ⟨atWork_of_new hnodes, ?_, ?_⟩
    · intro id j l _ _ hl _ hheld
      rw [(fresh_of_new hnodes id).held j l hl] at hheld
      cases hheld
    · intro id r hr
      cases hr
  have h : c.Housed :=
    housed_run hscan heldScan lastly hnew hsteps honce fun id _ => fresh_of_new hnodes id
  have hsingle (id : String) (j k : Nat) (hj : c.Holds j id) (hk : c.Holds k id) : j = k := by
    obtain ⟨l, hl, hheld⟩ := hj
    obtain ⟨l', hl', hheld'⟩ := hk
    exact h.single id j l k l' hl hl' hheld hheld'
  refine ⟨fun id r hr => ⟨?_, ?_⟩, hsingle⟩
  · -- The stage of an open record tells whether its work began, and that tells whether it is held.
    intro hclaimed
    have hopen : r.isFinal = false ∧ r.status.startedAt.isSome = true := by
      rcases hclaimed with hrunning | ⟨hcanceling, hstarted⟩
      · exact ⟨Record.isFinal_of_stage hrunning,
          (h.keyed id r hr).2.startedAt_of_running hrunning⟩
      · exact ⟨Record.isFinal_of_stage hcanceling, hstarted⟩
    obtain ⟨k, hk⟩ := (h.held_iff id r hr hopen.1).2 hopen.2
    exact ⟨k, hk, fun j hj => hsingle id j k hj hk⟩
  · intro hfree k hk
    have hopen : r.isFinal = false ∧ r.status.startedAt = none := by
      rcases hfree with hwaiting | ⟨hcanceling, hnone⟩
      · exact ⟨Record.isFinal_of_stage hwaiting,
          (h.keyed id r hr).2.startedAt_of_waiting hwaiting⟩
      · exact ⟨Record.isFinal_of_stage hcanceling, hnone⟩
    have hstarted := (h.held_iff id r hr hopen.1).1 ⟨k, hk⟩
    rw [hopen.2] at hstarted
    cases hstarted

/-- Both nodes hold a job, and a third job waits. The job of the first node and the one that
waits are asked to stop at the second node, after the clock was set back. -/
def askedElsewhere : List Step :=
  [.submit 0 { id := "a", submittedAt := 5 }, .reconcile 0,
    .submit 0 { id := "b", submittedAt := 5 }, .reconcile 1,
    .submit 1 { id := "c", submittedAt := 5 }, .setClock 3, .cancel 1 "a" none,
    .cancel 1 "c" none]

/-- Two jobs are claimed and one waits, and two of them are asked to stop by the node that does not
hold them. -/
theorem run_holders_askedElsewhere :
    let c := (run (shared id id .standard) askedElsewhere
      { now := 5, queue := { retention := some defaultRetention }, nodes := freshPair }).2
    (∀ s ∈ askedElsewhere, s.isRoutine = true) ∧
      (askedElsewhere.filterMap Step.submitted?).Nodup ∧
      (∀ id r, c.queue.records.find? id = some r →
        (r.stage = .running ∨ r.stage = .canceling ∧ r.status.startedAt.isSome = true →
          ∃! k, c.Holds k id) ∧
        (r.stage = .waiting ∨ r.stage = .canceling ∧ r.status.startedAt = none →
          ∀ k, ¬ c.Holds k id)) ∧
      ∀ id j k, c.Holds j id → c.Holds k id → j = k := by
  have hnodes (n : Node) (hn : some n ∈ freshPair) :
      ∃ settings, n.StartedClustered settings (some defaultRetention) :=
    ⟨oneWorker, startedClustered_freshPair hn⟩
  have hsteps : ∀ s ∈ askedElsewhere, s.isRoutine = true := by decide
  have honce : (askedElsewhere.filterMap Step.submitted?).Nodup := by decide
  exact ⟨hsteps, honce, @run_holders id (fun _ => .rfl) id .standard 5 (some defaultRetention) _
    hnodes askedElsewhere hsteps honce⟩

end Cluster

end JobScheduling
