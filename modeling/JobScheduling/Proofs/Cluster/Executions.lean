import JobScheduling.Pool.Script
import JobScheduling.Proofs.Cluster.Joined
import JobScheduling.Proofs.Cluster.Matches
import JobScheduling.Proofs.Node.Outlay
import JobScheduling.Proofs.Registry.Claims
import Mathlib.Algebra.GroupWithZero.Nat

/-!
# `JobScheduling.Proofs.Cluster.Executions`: no submission is executed twice

The argument is one of accounts. `Cluster.outlay` counts the executions of the job of an id that
can begin without another submission: on any node a queued ticket is one, and among clustered
nodes a record that waits to be claimed is one more. An execution that begins spends one of
these, and only a submission that is accepted adds one (`outlay_step`). So the executions that
have begun and the outlay together are at most the submissions (`outlay_run`).

What the claims answer is not kept anywhere in a cluster. `sharedLogged` is the world where the
queue notes it, and runs are the same there (`matches_logged`, `Alike.run`).

`run_startsFor_le` puts both together. Nodes may be stopped, lost or called at any times, and an
id may be submitted again once its record is purged.
-/

set_option autoImplicit false

namespace JobScheduling

/-- A node that has just started, clustered or not. -/
def Node.Started (clustered : Bool) (n : Node) : Prop :=
  ∃ settings retention priority work, settings.clustered = clustered ∧
    Node.new settings retention priority work = .ok n

/-- A node that can be made has started, clustered or not. -/
theorem Node.started_of_new {settings : Settings} {retention : Option Nat} {priority : Priority}
    {work : Option (Job → Work)} {n : Node}
    (h : Node.new settings retention priority work = .ok n) : ∃ clustered, n.Started clustered :=
  ⟨_, settings, retention, priority, work, rfl, h⟩

namespace Cluster

/-- Both nodes of the pair start clustered. -/
theorem started_freshPair {n : Node} (hn : some n ∈ freshPair) : n.Started true := by
  obtain ⟨hclustered, priority, work, hnew⟩ := startedClustered_freshPair hn
  exact ⟨oneWorker, _, priority, some work, hclustered, hnew⟩

/-- The id of the job that a step submitted, if its answer says so. -/
def Step.accepted? : Step → Answer → Option String
  | .submit _ job, .unit => some job.id
  | _, _ => none

/-- The ids of the jobs that a run submitted, as its answers say. -/
def accepted (steps : List Step) (answers : List Answer) : List String :=
  (steps.zip answers).filterMap fun step => step.1.accepted? step.2

/-- How many executions of the job of an id have begun, on any node. -/
def startsFor (id : String) (c : Cluster Registry) : Nat := c.starts.countP (·.job.id == id)

/-- How many executions of the job of an id can begin without another submission: one for each
queued ticket, and one for a record that waits to be claimed. -/
def outlay (clustered : Bool) (id : String) (c : Cluster Registry) : Nat :=
  (c.nodes.map fun n => n.elim 0 (·.pool.queuedFor id)).sum
    + (clustered && c.queue.waits id).toNat

/-- All nodes are clustered, or none is, and the records lie under the ids of their jobs. -/
structure Uniform (clustered : Bool) (c : Cluster Registry) : Prop where
  nodes : ∀ k n, c.node? k = some n → n.settings.clustered = clustered
  keyed : c.queue.Keyed

variable {scan heldScan : Registry.Scan} {lastly : Job → WorkEnd}

/-! ### What the workers begin -/

/-- What the calls that start a job keep, the workers of a node keep. -/
theorem settle_queue {P : Registry → Prop} {now : Nat}
    (hstart : ∀ q id, P q → P (q.start now id).2) {site : Site Registry} (h : P site.queue) :
    P (settle (Registry.service scan now) site).queue := by
  -- The hook asks the queue for a start, and only on a node that is not clustered.
  have hhook (job : Job) (q : Registry) (hq : P q) :
      P (hook (Registry.service scan now) site.node job q).2 := by
    cases hclustered : site.node.settings.clustered with
    | true => rwa [hook_clustered hclustered]
    | false =>
      rw [hook_eq hclustered]
      exact hstart q job.id hq
  refine Pool.settle_induction (hook (Registry.service scan now) site.node)
    (P := fun _ q => P q) ?_ h
  intro p q p' q' hq hact
  rcases Pool.act?_cases hact with ⟨-, -, -, -, rfl⟩ | ⟨item, backlog, -, hitem⟩
  · exact hq
  · rcases hitem with ⟨-, -, rfl⟩ | ⟨slot, -, ⟨-, -, -, -, -, -, rfl⟩ | ⟨t, -, -, rfl, -⟩⟩
    · exact hq
    · exact hq
    · -- Of all acts of the workers only a begin reaches the queue.
      exact hhook slot.job q hq

/-- The executions that begin on a node are counted by its pool. -/
theorem countP_begins (scan : Registry.Scan) (now k : Nat) (site : Site Registry) (id : String) :
    (begins scan now k site).countP (·.job.id == id)
        + site.node.pool.begunFor id
      = (settle (Registry.service scan now) site).node.pool.begunFor id := by
  have hspends : site.node.pool.Spends (settle (Registry.service scan now) site).node.pool :=
    Pool.spends_settle _ _ _
  obtain ⟨new, hnew⟩ := hspends.begun
  simp only [begins, newStarts, Pool.begunFor]
  rw [← hnew, List.drop_left, List.countP_filterMap, List.countP_append, hspends.follows.isFor,
    Nat.add_comm]
  congr 1
  refine List.countP_congr fun n _ => ?_
  rw [← hspends.follows.isFor, Pool.isFor]
  cases (settle (Registry.service scan now) site).node.pool.tickets[n]? <;> simp

/-- The executions that begin are paid for by queued tickets. -/
theorem outlay_settle (scan : Registry.Scan) (now k : Nat) (site : Site Registry) (id : String) :
    (begins scan now k site).countP (·.job.id == id)
        + (settle (Registry.service scan now) site).outlay id ≤ site.outlay id := by
  have hspends : site.node.pool.Spends (settle (Registry.service scan now) site).node.pool :=
    Pool.spends_settle _ _ _
  have hcount := countP_begins scan now k site id
  have houtlay := hspends.outlay id
  -- The workers start records, and no record waits by that which did not wait before.
  have hwaits : (settle (Registry.service scan now) site).queue.waits id = true →
      site.queue.waits id = true := by
    refine settle_queue (P := fun q => q.waits id = true → site.queue.waits id = true) ?_ fun h => h
    intro q k hq hstarted
    have hadd : ∀ job, Registry.Request.start k ≠ .add job := nofun
    exact hq (Registry.waits_of_serve scan hadd hstarted)
  have hclustered : (site.node.settings.clustered
        && (settle (Registry.service scan now) site).queue.waits id)
      ≤ (site.node.settings.clustered && site.queue.waits id) := by
    rw [Bool.le_iff_imp, Bool.and_eq_true, Bool.and_eq_true]
    exact And.imp_right hwaits
  have hle := Bool.toNat_le_toNat hclustered
  simp only [Site.outlay]
  rw [show (settle (Registry.service scan now) site).node.settings = site.node.settings from rfl]
  omega

/-! ### One step -/

/-- What a deed leaves of a site: only a submission that succeeds adds to what can begin. -/
theorem outlay_deed {c : Cluster Registry} {s : Step} {k : Nat}
    {f : Site Registry → Site Registry} {n : Node} (hkeyed : c.queue.Keyed)
    (hdeed : c.deed? scan heldScan lastly s = some (k, f)) (hn : c.node? k = some n) :
    (f (c.site n)).node.settings = n.settings ∧ (f (c.site n)).queue.Keyed ∧
      ∀ id, (f (c.site n)).outlay id ≤ (c.site n).outlay id
        + if s.accepted? (c.step (shared scan heldScan lastly) s).1 = some id then 1 else 0 := by
  -- Whatever eases the site adds nothing, whatever the answer is.
  have of_eases (h : (c.site n).Eases (f (c.site n))) :
      (f (c.site n)).node.settings = n.settings ∧ (f (c.site n)).queue.Keyed ∧
        ∀ id, (f (c.site n)).outlay id ≤ (c.site n).outlay id
          + if s.accepted? (c.step (shared scan heldScan lastly) s).1 = some id then 1 else 0 :=
    ⟨h.settings, h.keyed hkeyed, fun id => Nat.le_trans (h.outlay id) (Nat.le_add_right _ _)⟩
  cases s with
  | submit j job =>
    cases hdeed
    obtain ⟨hsettings, -, hkeyed', houtlay⟩ := Site.outlay_submit scan c.now job (c.site n)
    refine ⟨hsettings, hkeyed' hkeyed, fun id => ?_⟩
    have hanswer : (c.step (shared scan heldScan lastly) (.submit k job)).1
        = .of (fun _ => .unit)
          ((Node.submit (Registry.service scan c.now) job).run (c.site n)).1 :=
      congrArg Prod.fst (request_eq hn _ _)
    have hid := houtlay id
    rw [hanswer]
    rcases hrun : ((Node.submit (Registry.service scan c.now) job).run (c.site n)).1 with
      (e | e) | u <;> rw [hrun] at hid
    · simpa [Step.accepted?, Answer.of] using hid
    · simpa [Step.accepted?, Answer.of] using hid
    · simpa [Step.accepted?, Answer.of] using hid
  | cancel j id credential =>
    cases hdeed
    exact of_eases (Site.eases_cancel scan c.now id credential _)
  | status j id credential =>
    cases hdeed
    exact of_eases (Site.eases_status scan c.now id credential _)
  | reconcile j =>
    cases hdeed
    exact of_eases (Site.eases_reconcile scan heldScan c.now hkeyed)
  | release node id how named =>
    obtain ⟨start, -, hstart⟩ := Option.map_eq_some_iff.1 hdeed
    cases hstart
    exact of_eases (Site.eases_ended start.ticket how _)
  | shutDown j =>
    cases hdeed
    exact of_eases (Site.eases_stop lastly _)
  | halt j =>
    cases hdeed
    exact of_eases (Site.eases_shutDown _)
  | drop j | setClock now => cases hdeed

/-- The sum over a list in which one element was replaced. -/
theorem sum_map_set {α : Type} (g : α → Nat) (a : α) {l : List α} {k : Nat} {b : α}
    (h : l[k]? = some b) : ((l.set k a).map g).sum + g b = (l.map g).sum + g a := by
  induction l generalizing k with
  | nil => cases h
  | cons c l ih =>
    cases k with
    | zero =>
      cases h
      simp only [List.set_cons_zero, List.map_cons, List.sum_cons]
      omega
    | succ k =>
      have htail := ih h
      simp only [List.set_cons_succ, List.map_cons, List.sum_cons]
      omega

/-- The loss of a node, with its queued tickets. -/
theorem outlay_drop {clustered : Bool} {c : Cluster Registry} (h : c.Uniform clustered) (k : Nat) :
    Uniform clustered { c with nodes := c.nodes.set k none } ∧
      ∀ id, outlay clustered id { c with nodes := c.nodes.set k none }
        ≤ c.outlay clustered id := by
  refine ⟨⟨?_, h.keyed⟩, fun id => Nat.add_le_add_right ?_ _⟩
  · exact fun j n hn => h.nodes j n (node?_of_drop hn)
  · show ((c.nodes.set k none).map _).sum ≤ _
    cases hk : c.nodes[k]? with
    | none => rw [List.set_eq_of_length_le (List.getElem?_eq_none_iff.1 hk)]
    | some lost =>
      have hsum := sum_map_set (fun n => n.elim 0 (·.pool.queuedFor id)) none hk
      simp only [Option.elim_none] at hsum
      omega

/-- A step begins no more executions than could begin before it, and only a submission that
succeeds adds to these. -/
theorem outlay_step (scan heldScan : Registry.Scan) (lastly : Job → WorkEnd) {clustered : Bool}
    {c : Cluster Registry} (h : c.Uniform clustered) (s : Step) :
    let answer := (c.step (shared scan heldScan lastly) s).1
    let c' := (c.step (shared scan heldScan lastly) s).2
    c'.Uniform clustered ∧ ∀ id, c'.startsFor id + c'.outlay clustered id
      ≤ c.startsFor id + c.outlay clustered id
        + if s.accepted? answer = some id then 1 else 0 := by
  intro answer c'
  -- Only a step at one node begins executions. Elsewhere the sum stays or gets less.
  rcases step_cases scan heldScan lastly c s with
    hc' | ⟨now, -, hc'⟩ | ⟨k, -, hc'⟩ | ⟨k, f, n, hdeed, hn, hreplaces, hstarts⟩
  · rw [show c' = c from hc']
    exact ⟨h, fun id => Nat.le_add_right _ _⟩
  · rw [show c' = _ from hc']
    exact ⟨⟨h.nodes, h.keyed⟩, fun id => Nat.le_add_right _ _⟩
  · rw [show c' = _ from hc']
    obtain ⟨huniform, houtlay⟩ := outlay_drop h k
    exact ⟨huniform, fun id =>
      Nat.le_trans (Nat.add_le_add_left (houtlay id) _) (Nat.le_add_right _ _)⟩
  · obtain ⟨hsettings, hkeyed, houtlay⟩ := outlay_deed h.keyed hdeed hn
    generalize hsite : f (c.site n) = site at *
    have hclustered : n.settings.clustered = clustered := h.nodes k n hn
    refine ⟨⟨?_, ?_⟩, fun id => ?_⟩
    · intro j m hm
      rw [hreplaces.node? (lt_length_of_node? hn)] at hm
      split at hm
      · cases hm
        exact (congrArg _ hsettings).trans hclustered
      · exact h.nodes j m hm
    · rw [hreplaces.queue]
      exact settle_queue (P := Registry.Keyed)
        (fun q id hq => Registry.keyed_serve scan c.now (.start id) hq) hkeyed
    · -- What the other nodes can begin is the same, and the queue is in the site.
      have hsum := sum_map_set (fun n => n.elim 0 (·.pool.queuedFor id))
        (some (settle (Registry.service scan c.now) site).node) (getElem?_of_node? hn)
      have hsettle := outlay_settle scan c.now k site id
      have hdeed : site.outlay id
          ≤ (c.site n).outlay id + if s.accepted? answer = some id then 1 else 0 := houtlay id
      have hbegun : c'.startsFor id
          = c.startsFor id + (begins scan c.now k site).countP (·.job.id == id) := by
        simp only [startsFor]
        rw [hstarts, List.countP_append]
      simp only [Site.outlay, Cluster.site] at hsettle hdeed
      rw [show (settle (Registry.service scan c.now) site).node.settings = n.settings from
        hsettings, hsettings, hclustered] at hsettle
      rw [hsettings, hclustered] at hdeed
      simp only [outlay]
      rw [hbegun, hreplaces.nodes, hreplaces.queue]
      simp only [Option.elim_some] at hsum
      omega

/-! ### Runs -/

/-- The accepted ids after one more step. -/
theorem count_accepted_cons (id : String) (s : Step) (answer : Answer) (steps : List Step)
    (answers : List Answer) :
    (accepted (s :: steps) (answer :: answers)).count id
      = (if s.accepted? answer = some id then 1 else 0) + (accepted steps answers).count id := by
  simp only [accepted, List.zip_cons_cons, List.filterMap_cons]
  cases s.accepted? answer with
  | none => simp
  | some id' =>
    rw [List.count_cons]
    simp [Nat.add_comm]

/-- A run begins no more executions than could begin before it, or were submitted in it. -/
theorem outlay_run (scan heldScan : Registry.Scan) (lastly : Job → WorkEnd) {clustered : Bool}
    (steps : List Step) {c : Cluster Registry} (h : c.Uniform clustered) (id : String) :
    let (answers, c') := run (shared scan heldScan lastly) steps c
    c'.startsFor id + c'.outlay clustered id
      ≤ c.startsFor id + c.outlay clustered id + (accepted steps answers).count id := by
  induction steps generalizing c with
  | nil => exact Nat.le_add_right _ _
  | cons s steps ih =>
    obtain ⟨huniform, hstep⟩ := outlay_step scan heldScan lastly h s
    have hstep := hstep id
    have hrest := ih huniform
    have hcount := count_accepted_cons id s (c.step (shared scan heldScan lastly) s).1 steps
      (run (shared scan heldScan lastly) steps (c.step (shared scan heldScan lastly) s).2).1
    dsimp only [run] at hrest hcount ⊢
    omega

/-- Nodes that have just started next to an empty queue can begin nothing. -/
theorem uniform_of_new {clustered : Bool} {nodes : List (Option Node)}
    (hnodes : ∀ n, some n ∈ nodes → n.Started clustered) (now : Nat) (retention : Option Nat) :
    let c : Cluster Registry := { now, queue := { retention }, nodes }
    c.Uniform clustered ∧ ∀ id, c.outlay clustered id = 0 := by
  intro c
  refine ⟨⟨?_, Registry.keyed_empty retention⟩, fun id => ?_⟩
  · intro k n hn
    obtain ⟨settings, _, _, _, hclustered, hnew⟩ := hnodes n (mem_of_node? hn)
    rw [(Node.new_eq_ok hnew).2.1, hclustered]
  -- Nothing waits in a new queue, and new pools have no tickets.
  · have hwaits : (clustered && c.queue.waits id) = false := Bool.and_false clustered
    have hqueued : (nodes.map fun n => n.elim 0 (·.pool.queuedFor id)).sum = 0 := by
      refine List.sum_eq_zero_iff_forall_eq_nat.2 ?_
      intro m hm
      obtain ⟨n, hn, rfl⟩ := List.mem_map.1 hm
      cases n with
      | none => rfl
      | some n =>
        obtain ⟨_, _, _, _, -, hnew⟩ := hnodes n hn
        obtain ⟨-, -, -, -, htickets, -⟩ := Node.new_eq_ok hnew
        simp only [Option.elim_some, Pool.queuedFor]
        rw [htickets, List.countP_nil]
    simp only [outlay]
    rw [hwaits, hqueued]
    rfl

/-! ### What the claims answer -/

/-- The world of `shared`, where the queue notes what is recorded and claimed. -/
def sharedLogged (scan heldScan : Registry.Scan) (lastly : Job → WorkEnd) :
    World Registry.Logged where
  service now _ := Registry.Logged.service scan now
  lastly
  scan := heldScan

/-- A registry, and the same one with sound notes. -/
def Noted (l : Registry.Logged) (q : Registry) : Prop := l.registry = q ∧ l.Sound

/-- A request that records nothing and claims nothing. -/
theorem matches_through {α : Type} (scan : Registry.Scan) (now : Nat) {call : Call Registry α}
    (request : Registry.Request) (hnone : ∀ answer, request.recorded answer = [])
    (hcall : ∀ q, (call q).2 = (q.serve scan now request).2) :
    Call.Matches Noted (Registry.Logged.through call) call := by
  rintro l _ ⟨rfl, hsound⟩
  have hserved := hsound.serve scan now request
  rw [hnone, List.append_nil, ← hcall] at hserved
  simp only [Registry.Logged.through]
  rcases hanswer : call l.registry with ⟨answer, q⟩
  rw [hanswer] at hserved
  cases answer <;> exact ⟨rfl, rfl, hserved⟩

/-- The calls answer the same with notes and without. -/
theorem matches_logged (scan : Registry.Scan) (now : Nat) :
    (Registry.Logged.service scan now).Matches Noted (Registry.service scan now) where
  -- A call that adds notes the job if it succeeds, a call that claims notes what it hands out, and
  -- no other call notes anything.
  add job := by
    rintro l _ ⟨rfl, hsound⟩
    have hserved := hsound.serve scan now (.add job)
    simp only [Registry.serve, Registry.Request.recorded] at hserved
    simp only [Registry.Logged.service, Registry.Logged.through, Registry.service, Call.ofExcept]
    cases hadd : (l.registry.add now job).1 with
    | ok u =>
      rw [hadd] at hserved
      exact ⟨rfl, rfl, hserved⟩
    | error e =>
      rw [hadd] at hserved
      simp only [Registry.Answer.of, List.append_nil] at hserved
      exact ⟨rfl, rfl, hserved⟩
  startNext n := by
    rintro l _ ⟨rfl, hsound⟩
    exact ⟨rfl, rfl, hsound.startNext now n⟩
  get id external := matches_through scan now (.get id external) (fun _ => rfl) fun _ => rfl
  start id := matches_through scan now (.start id) (fun _ => rfl) fun _ => rfl
  finish id ending := by
    cases ending with
    | done report => exact matches_through scan now (.done id report) (fun _ => rfl) fun _ => rfl
    | error cause => exact matches_through scan now (.fail id cause) (fun _ => rfl) fun _ => rfl
  cancel id reason immediate :=
    matches_through scan now (.cancel id reason immediate) (fun _ => rfl) fun _ => rfl
  cancelOverdue timeout abandoned reason :=
    matches_through scan now (.cancelOverdue timeout abandoned reason) (fun _ => rfl) fun _ => rfl
  toCancel := matches_through scan now .toCancel (fun _ => rfl) fun _ => rfl
  waitingCount := matches_through scan now (.sinceCheck "") (fun _ => rfl) fun _ => rfl
  completedCount := matches_through scan now (.sinceCheck "") (fun _ => rfl) fun _ => rfl
  averageDuration := matches_through scan now (.sinceCheck "") (fun _ => rfl) fun _ => rfl
  sinceCheck id := matches_through scan now (.sinceCheck id) (fun _ => rfl) fun _ => rfl
  meanwhile _ _ _ := rfl

/-- No submission is executed twice. Take nodes that have just started, all clustered or none,
with any settings, priorities and work, next to an empty queue, and any run of them, so any point
of it.

For every id the executions of its job that have begun, on any node, are no more than its
submissions that were accepted up to there. And if all that was recorded and all that the claims
of all nodes have answered is noted on the way, which changes nothing else: no record is
answered twice, and each answer has the number and the job of a record that was added. -/
theorem run_startsFor_le (scan heldScan : Registry.Scan) (lastly : Job → WorkEnd)
    {clustered : Bool} {nodes : List (Option Node)}
    (hnodes : ∀ n, some n ∈ nodes → n.Started clustered) (now : Nat) (retention : Option Nat)
    (steps : List Step) :
    let plain := run (shared scan heldScan lastly) steps { now, queue := { retention }, nodes }
    let noted := run (sharedLogged scan heldScan lastly) steps
      { now, queue := { registry := { retention } }, nodes }
    (∀ id, plain.2.startsFor id ≤ (accepted steps plain.1).count id) ∧
      (noted.1 = plain.1 ∧ noted.2.queue.registry = plain.2.queue ∧
        noted.2.nodes = plain.2.nodes ∧ noted.2.starts = plain.2.starts) ∧
      (noted.2.queue.claimed.map (·.request)).Nodup ∧
      ∀ status ∈ noted.2.queue.claimed,
        ∃ k, status.request = k + 1 ∧ noted.2.queue.added[k]? = some status.job := by
  -- Begun executions and those that may still begin are bounded by the accepted submissions.
  have hrun (id : String) := outlay_run scan heldScan lastly steps
    (uniform_of_new hnodes now retention).1 id
  have hworld : (sharedLogged scan heldScan lastly).Matches Noted (shared scan heldScan lastly) :=
    ⟨fun now _ => matches_logged scan now, rfl, rfl⟩
  have halike : Alike Noted
      { now, queue := { registry := { retention } }, nodes }
      { now, queue := { retention }, nodes } :=
    ⟨rfl, ⟨rfl, Registry.Logged.sound_empty retention⟩, rfl, rfl⟩
  obtain ⟨hanswers, -, ⟨hqueue, hsound⟩, hsame, hstarts⟩ := halike.run hworld steps
  refine ⟨fun id => ?_, ⟨hanswers, hqueue, hsame, hstarts⟩, hsound.nodup, hsound.stamped⟩
  have hbegun := hrun id
  rw [(uniform_of_new hnodes now retention).2 id] at hbegun
  exact Nat.le_trans (Nat.le_add_right _ _) (hbegun.trans_eq (Nat.zero_add _))

/-- The job is claimed, canceled by the other node, and purged. Its id is submitted again, and
the other node claims it. So two executions begin. -/
theorem run_startsFor_le_again :
    let steps : List Step :=
      [.submit 0 { id := "a", submittedAt := 0 }, .reconcile 0, .reconcile 1,
        .setClock 120001, .reconcile 1, .setClock 2000000, .reconcile 0,
        .submit 1 { id := "a", submittedAt := 2000000 }, .reconcile 1]
    (∀ n, some n ∈ freshPair → n.Started true) ∧
      let plain := run (shared id id .standard) steps
        { now := 0, queue := { retention := some defaultRetention }, nodes := freshPair }
      let noted := run (sharedLogged id id .standard) steps
        { now := 0, queue := { registry := { retention := some defaultRetention } }
          nodes := freshPair }
      (∀ id, plain.2.startsFor id ≤ (accepted steps plain.1).count id) ∧
        (noted.1 = plain.1 ∧ noted.2.queue.registry = plain.2.queue ∧
          noted.2.nodes = plain.2.nodes ∧ noted.2.starts = plain.2.starts) ∧
        (noted.2.queue.claimed.map (·.request)).Nodup ∧
        ∀ status ∈ noted.2.queue.claimed,
          ∃ k, status.request = k + 1 ∧ noted.2.queue.added[k]? = some status.job := by
  intro steps
  exact ⟨fun _ => started_freshPair, run_startsFor_le id id .standard (fun _ => started_freshPair)
    0 (some defaultRetention) steps⟩

end Cluster

end JobScheduling
