import JobScheduling.Pool.Script
import JobScheduling.Proofs.Cluster.Denied
import JobScheduling.Proofs.Cluster.Members
import JobScheduling.Proofs.Node.Capacity
import JobScheduling.Proofs.Node.Tracked

/-!
# `JobScheduling.Proofs.Cluster.Capacity`: what is claimed is executed

Clustered nodes next to a queue that is changed only through them, where no id is submitted
twice. A node claims as many jobs as it may hold beyond those it holds, without a look at its
workers. That each of them finds a free worker is an argument in three parts.

* An open ticket is that of a held job (`Node.Tracked`), so no more tickets are open than jobs
  are held, and no more jobs are held than there are workers (`Node.Fit`).
* An open ticket waits in the backlog or occupies a worker (`Pool.Placed`), and workers that
  rest leave nothing in the backlog while one of them is free (`Pool.Placed.jobs_eq_nil`).
* So after each step no job is left in the backlog (`prompt_settle`), and the next claim finds
  the pool in this state (`caughtUp_step`).

`node_deed` is the induction over what a step does to a node, and `run_claimed_begun` the
result.
-/

set_option autoImplicit false

namespace JobScheduling

namespace Cluster

variable {scan heldScan : Registry.Scan} {lastly : Job → WorkEnd}

/-- What the deed of a step makes of a node: a property `P` that lasts becomes `Q`, if the end of
work, the stop of the node and the taking on of jobs make it so. -/
theorem node_deed {P Q : Node → Prop} (hlasts : Node.Lasts P) (hweaker : ∀ n, P n → Q n)
    (hends : ∀ n m how, P n → m ∈ n.pool.busy → Q (ended m how n))
    (hshutDown : ∀ n, P n → Q n.shutDown) (hstop : ∀ n, P n → Q (n.stop lastly))
    (htake : ∀ n job ticket pool, P n → n.settings.clustered = false →
      n.pool.submit job = .ok (ticket, pool) →
      Q { n with pool, held := n.held.insert job.id ticket })
    (hclaim : ∀ (now : Nat) (site : Site Registry), P site.node →
      site.node.settings.clustered = true →
      Q ((Node.claim (Registry.service scan now)).run site).2.node)
    (hscan : ∀ ids, (scan ids).Perm ids) {c : Cluster Registry} {s : Step} {k : Nat}
    {f : Site Registry → Site Registry} {n : Node}
    (hdeed : c.deed? scan heldScan lastly s = some (k, f)) (hn : c.node? k = some n)
    (hnamed : n.Named) (hkeyed : c.queue.Keyed) (h : P n) : Q (f (c.site n)).node := by
  -- The hypotheses cover what a deed can do to a node: to take on a job, to end work, to stop, to
  -- claim, and what lasts.
  cases s with
  | submit _ job =>
    cases hdeed
    dsimp only
    rcases Node.site_submit scan c.now job (c.site n) with
      hsite | ⟨-, hsite⟩ | ⟨halone, -, ⟨n', htaken, hsite⟩ | ⟨-, hsite⟩⟩
    · rw [hsite]
      exact hweaker n h
    · rw [hsite]
      exact hweaker n h
    · obtain ⟨ticket, pool, hsubmit, rfl⟩ := Node.take_eq_ok htaken
      rw [hsite]
      exact htake n job ticket pool h halone hsubmit
    · rw [hsite]
      exact hweaker n h
  | cancel _ id credential =>
    cases hdeed
    exact hweaker _ (hlasts.cancel scan c.now id credential h)
  | status _ id credential =>
    cases hdeed
    dsimp only
    rw [Node.site_status]
    exact hweaker n h
  | reconcile _ =>
    cases hdeed
    dsimp only
    rw [Node.site_reconcile_eq c.now (c.site n) hscan heldScan hnamed hkeyed]
    split
    · exact hweaker n h
    · have hprepared := hlasts.prepare scan c.now heldScan (c.site n) h
      split
      next hclustered =>
        obtain ⟨reviewed, q, hr, -, hrun, -, -, hframe, -⟩ :=
          Node.run_prepare c.now (c.site n) hscan heldScan hnamed hkeyed
        refine hclaim c.now _ hprepared ?_
        rw [hrun, hframe.settings, hr.settings]
        exact hclustered
      · exact hweaker _ (hlasts.reviewHeld scan c.now heldScan h)
  | release _ id how _ =>
    obtain ⟨start, hstart, heq⟩ := Option.map_eq_some_iff.1 hdeed
    cases heq
    exact hends n start.ticket how h (mem_busy_of_runningFor? hstart hn)
  | shutDown _ =>
    cases hdeed
    exact hstop n h
  | halt _ =>
    cases hdeed
    exact hshutDown n h
  | drop _ | setClock _ => cases hdeed

/-! ### Open tickets and workers -/

/-- On a node whose open tickets are held no more are open than jobs are held. -/
theorem length_le_size_of_tracked {n : Node} (h : n.Tracked) {numbers : List Nat}
    (hnodup : numbers.Nodup)
    (hopen : ∀ m ∈ numbers, ∃ t, n.pool.tickets[m]? = some t ∧ t.isFinished = false) :
    numbers.length ≤ n.held.size := by
  have hsub : numbers ⊆ n.held.values := by
    intro m hm
    obtain ⟨t, ht, hf⟩ := hopen m hm
    exact Table.mem_values_of_find? (h m t ht hf)
  exact (hnodup.subperm hsub).length_le.trans_eq n.held.length_values

/-- The workers leave a node fit. They let go of nothing. -/
theorem fit_settle (scan : Registry.Scan) (now : Nat) {site : Site Registry}
    (h : site.node.Fit) : (settle (Registry.service scan now) site).node.Fit := by
  obtain ⟨hsound, hdown⟩ :=
    Pool.sound_settle (hook (Registry.service scan now) site.node) h.sound site.queue
  refine h.of_whole ?_ rfl (Nat.le_refl _)
  exact h.toWhole.of_follows rfl (h.stopped.trans hdown.symm) hsound (Pool.follows_settle _ _ _)

/-- The workers take up all that is left in the backlog of a staffed node. -/
theorem prompt_settle (scan : Registry.Scan) (now : Nat) {site : Site Registry}
    (h : site.node.Staffed) (htracked : site.node.Tracked) :
    (settle (Registry.service scan now) site).node.Prompt := by
  have hhook (job : Job) (q : Registry) :
      (hook (Registry.service scan now) site.node job q).1 = true := by
    rw [hook_clustered h.clustered]
  obtain ⟨hplaced, hlost, hsettings⟩ := Pool.placed_settle hhook h.placed site.queue
  have hfit := fit_settle scan now h.toFit
  have hstaffed := h.of_fit hfit rfl ⟨hlost, hsettings⟩ hplaced
  refine ⟨hstaffed, hplaced.jobs_eq_nil hfit.sound (Pool.atRest_settle _ _ _) hstaffed.noneLost ?_⟩
  intro numbers hnodup hopen
  -- The open tickets are held, and no more jobs are held than there are workers.
  have htracked' : (settle (Registry.service scan now) site).node.Tracked :=
    htracked.of_follows rfl (Pool.follows_settle _ _ _)
  have hfew := length_le_size_of_tracked htracked' hnodup hopen
  have hwithin := hfit.within hstaffed.clustered
  have hworkers := hstaffed.workers
  exact hfew.trans (hworkers ▸ hwithin)

/-! ### Steps -/

section
variable {c c' : Cluster Registry} {s : Step}

/-- A deed that is not a pass keeps the open tickets of a clustered node held. -/
theorem Deed.tracked {now k : Nat} {site site' : Site Registry}
    (h : Deed heldScan now k site s site') (hs : s ≠ .reconcile k) (htracked : site.node.Tracked) :
    site'.node.Tracked := by
  cases h with
  | halts h => exact htracked.of_follows h.held h.closes.follows
  | does h =>
    cases h with
    | nothing | records | checks | asks => exact htracked
    | stops id _ m hm => exact htracked.letGo hm
    | ends _ _ how _ m => exact htracked.of_follows rfl (Pool.closes_endWork m how _).follows
    | passes => exact absurd rfl hs

/-- The deed of a step keeps the open tickets of a clustered node held, if in a pass no waiting
job is held after the review of the held jobs. -/
theorem tracked_deed (hscan : ∀ ids, (scan ids).Perm ids) {k : Nat}
    {f : Site Registry → Site Registry} {n : Node}
    (hdeed : c.deed? scan heldScan lastly s = some (k, f)) (hn : c.node? k = some n)
    (h : n.Member) (hkeyed : c.queue.Keyed) (htracked : n.Tracked)
    (hfree : ∀ reviewed, Node.Reviewed c.now (heldScan n.held.keys) (c.site n) reviewed →
      ∀ id r, reviewed.queue.records.find? id = some r → r.stage = .waiting →
        reviewed.node.held.find? id = none) :
    (f (c.site n)).node.Tracked := by
  by_cases hs : s = .reconcile k
  · subst hs
    cases hdeed
    exact Node.tracked_reconcile hscan heldScan h.toWhole h.clustered hkeyed htracked
      (Node.free_prepare c.now (c.site n) hscan heldScan h.named hkeyed hfree)
  · exact (deed_of_deed? hscan hdeed hn h hkeyed).tracked hs htracked

/-- Every node has taken up all that it has claimed, and no job that waits is held. -/
structure CaughtUp (c : Cluster Registry) : Prop where
  prompt : ∀ k n, c.node? k = some n → n.Prompt
  tracked : ∀ k n, c.node? k = some n → n.Tracked
  free : ∀ id r, c.queue.records.find? id = some r → r.stage = .waiting →
    ∀ k n, c.node? k = some n → n.held.find? id = none
  keyed : c.queue.Keyed

/-- A cluster that is caught up has members only. -/
theorem CaughtUp.ofMembers (h : c.CaughtUp) : c.OfMembers :=
  ⟨fun k n hn => ⟨(h.prompt k n hn).toWhole, (h.prompt k n hn).clustered⟩, h.keyed⟩

/-- Clustered nodes that have just started have nothing to do. -/
theorem caughtUp_of_new {now : Nat} {retention : Option Nat} {nodes : List (Option Node)}
    (hnodes : ∀ n, some n ∈ nodes → ∃ settings, n.StartedClustered settings retention) :
    CaughtUp { now, queue := { retention }, nodes } := by
  refine ⟨?_, ?_, ?_, Registry.keyed_empty retention⟩
  · intro k n hn
    obtain ⟨settings, hclustered, priority, work, hnew⟩ := hnodes n (mem_of_node? hn)
    exact Node.prompt_of_new hnew hclustered
  · intro k n hn m t ht
    obtain ⟨settings, hstarted⟩ := hnodes n (mem_of_node? hn)
    rw [hstarted.member.2.2.2.2] at ht
    cases ht
  · intro id r hr
    cases hr

/-- After a shift that submits no id for the second time no job that waits is held: what is
claimed waits no longer. -/
theorem Shift.free {k : Nat} {n n' : Node} {site : Site Registry}
    (hshift : Shift heldScan s k n site n' c c')
    (hfree : ∀ id r, c.queue.records.find? id = some r → r.stage = .waiting →
      ∀ k n, c.node? k = some n → n.held.find? id = none)
    (hfresh : ∀ id, s.submitted? = some id → c.Fresh id) {id : String} {r' : Record}
    (hr' : c'.queue.records.find? id = some r') (hwaiting : r'.stage = .waiting) (j : Nat)
    (l' : Node) (hl' : c'.node? j = some l') : l'.held.find? id = none := by
  -- What is held under the id was held before, and then no record of it waited, or it was claimed.
  cases hm : l'.held.find? id with
  | none => rfl
  | some m =>
    rcases hshift.held_cases hl' hm with ⟨l, hl, hbefore⟩ | ⟨-, -, -, r, hclaims⟩
    · have hnone : l.held.find? id = none := by
        rw [hshift.replaces.queue] at hr'
        rcases hshift.deed.record_cases hr' with ⟨job, rfl, rfl, -⟩ | ⟨r, hr, hmoves⟩
        · exact (hfresh job.id rfl).held j l hl
        · refine hfree id r hr ?_ j l hl
          by_contra hstage
          exact hmoves.stage_ne_waiting hstage hwaiting
      rw [hbefore] at hnone
      cases hnone
    · -- The record of a claimed job runs.
      rw [hclaims.after] at hr'
      cases hr'
      rw [Registry.started_eq, if_pos hclaims.waiting] at hwaiting
      cases hwaiting

/-- After a shift whose deed keeps the open tickets held, those of all nodes are. -/
theorem Shift.tracked {k : Nat} {n n' : Node} {site : Site Registry}
    (hshift : Shift heldScan s k n site n' c c') (hsite : site.node.Tracked)
    (h : ∀ j l, c.node? j = some l → l.Tracked) : ∀ j l, c'.node? j = some l → l.Tracked := by
  intro j l hl
  rw [hshift.node?] at hl
  split at hl
  · cases hl
    exact hsite.of_follows hshift.worked.held hshift.worked.follows
  · exact h j l hl

/-- A step that submits no id for the second time keeps a cluster caught up. -/
theorem caughtUp_step (hscan : ∀ ids, (scan ids).Perm ids) (heldScan : Registry.Scan)
    (lastly : Job → WorkEnd) (h : c.CaughtUp)
    (hfresh : ∀ id, s.submitted? = some id → c.Fresh id) :
    let c' := (c.step (shared scan heldScan lastly) s).2
    c'.CaughtUp ∧ ∀ id, c.Fresh id → s.submitted? ≠ some id → c'.Fresh id := by
  intro c'
  rcases shift_cases hscan heldScan lastly h.ofMembers s with
    hc' | ⟨now, -, hc'⟩ | ⟨k, -, hc'⟩ | ⟨k, f, n, hdeed, hshift, -⟩
  · rw [show c' = c from hc']
    exact ⟨h, fun _ hid _ => hid⟩
  · rw [show c' = _ from hc']
    exact ⟨⟨h.prompt, h.tracked, h.free, h.keyed⟩, fun _ hid _ => ⟨hid.record, hid.held⟩⟩
  · rw [show c' = _ from hc']
    exact ⟨⟨fun j n hn => h.prompt j n (node?_of_drop hn),
        fun j n hn => h.tracked j n (node?_of_drop hn),
        fun id r hr hwaiting j n hn => h.free id r hr hwaiting j n (node?_of_drop hn), h.keyed⟩,
      fun _ hid _ => ⟨hid.record, fun j n hn => hid.held j n (node?_of_drop hn)⟩⟩
  · have hn := hshift.node
    have hmember := h.ofMembers.nodes k n hn
    -- The review of the held jobs makes no record wait.
    have htracked : (f (c.site n)).node.Tracked := by
      refine tracked_deed hscan hdeed hn hmember h.keyed (h.tracked k n hn) ?_
      intro reviewed hreviewed id r' hr' hwaiting
      rw [hreviewed.records, Option.map_eq_some_iff] at hr'
      obtain ⟨r, hr, rfl⟩ := hr'
      rw [Record.settled_of_waiting hwaiting] at hwaiting
      rw [hreviewed.held, ite_eq_left_iff]
      exact fun _ => h.free id r hr hwaiting k n hn
    have hstaffed : (f (c.site n)).node.Staffed :=
      node_deed Node.lasts_prompt (fun _ h => h.toStaffed)
        (fun _ _ how h hm => (h.endWork hm how).toStaffed) (fun _ h => h.shutDown.toStaffed)
        (fun _ h => (h.stop lastly).toStaffed)
        (fun _ _ _ _ h halone => absurd (h.clustered.symm.trans halone) nofun)
        (fun now _ h _ => Node.staffed_claim scan now h.toStaffed)
        hscan hdeed hn hmember.named h.keyed (h.prompt k n hn)
    refine ⟨⟨?_, hshift.tracked htracked h.tracked, fun id r => hshift.free h.free hfresh,
      (hshift.ofMembers h.ofMembers).keyed⟩, fun _ hid hne => hid.shift hshift hne⟩
    intro j l hl
    rw [hshift.node?] at hl
    split at hl
    · cases hl
      exact prompt_settle scan c.now hstaffed htracked
    · exact h.prompt j l hl

end

/-- What is claimed is executed. Take clustered nodes that have just started, with any settings,
priorities and work, next to an empty queue, and any run of them, so any point of it, in which no
id is submitted twice. Nodes may be stopped and lost, and the clock may go either way.

A node holds no more jobs than it may run, no job is left in the backlog of its pool, and every
ticket that has not finished has begun and occupies a worker. -/
theorem run_claimed_begun (hscan : ∀ ids, (scan ids).Perm ids) (heldScan : Registry.Scan)
    (lastly : Job → WorkEnd) {now : Nat} {retention : Option Nat} {nodes : List (Option Node)}
    (hnodes : ∀ n, some n ∈ nodes → ∃ settings, n.StartedClustered settings retention)
    {steps : List Step} (honce : (steps.filterMap Step.submitted?).Nodup) :
    let c := (run (shared scan heldScan lastly) steps { now, queue := { retention }, nodes }).2
    ∀ k n, c.node? k = some n →
      n.held.size ≤ n.settings.maxRunning ∧ n.pool.backlog.jobs = [] ∧
        ∀ (m : Nat) t, n.pool.tickets[m]? = some t → t.isFinished = false →
          t.progress = .running ∧ t.started = true ∧ m ∈ n.pool.busy := by
  intro c k n hn
  have h : c.CaughtUp := once_induction steps
    (fun _ _ _ h hfresh => caughtUp_step hscan heldScan lastly h hfresh) honce
    (caughtUp_of_new hnodes) fun id _ => fresh_of_new hnodes id
  have hprompt := h.prompt k n hn
  refine ⟨hprompt.within hprompt.clustered, hprompt.jobs, ?_⟩
  intro m t ht hopen
  exact hprompt.placed.mem_busy hprompt.sound hprompt.jobs ht hopen

/-- Each node claims a job and a third one waits. The job of the first node is canceled, so it
claims the one that waits, and the other node is stopped while its work goes on. -/
def takenOver : List Step :=
  [.submit 0 { id := "a", submittedAt := 5 }, .submit 1 { id := "b", submittedAt := 5 },
    .submit 0 { id := "c", submittedAt := 4 }, .reconcile 0, .reconcile 1, .cancel 0 "c" none,
    .setClock 9, .reconcile 0, .halt 1]

/-- Three jobs, each submitted once, on two nodes with one worker each. -/
theorem run_claimed_begun_takenOver :
    let c := (run (shared id id .standard) takenOver
      { now := 5, queue := { retention := some defaultRetention }, nodes := freshPair }).2
    (takenOver.filterMap Step.submitted?).Nodup ∧
      ∀ k n, c.node? k = some n →
        n.held.size ≤ n.settings.maxRunning ∧ n.pool.backlog.jobs = [] ∧
          ∀ (m : Nat) t, n.pool.tickets[m]? = some t → t.isFinished = false →
            t.progress = .running ∧ t.started = true ∧ m ∈ n.pool.busy := by
  have hnodes (n : Node) (hn : some n ∈ freshPair) :
      ∃ settings, n.StartedClustered settings (some defaultRetention) :=
    ⟨oneWorker, startedClustered_freshPair hn⟩
  have honce : (takenOver.filterMap Step.submitted?).Nodup := by decide
  exact ⟨honce, @run_claimed_begun id (fun _ => .rfl) id .standard 5 (some defaultRetention) _
    hnodes takenOver honce⟩

end Cluster

end JobScheduling
