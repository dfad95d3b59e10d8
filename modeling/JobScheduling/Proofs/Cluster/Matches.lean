import JobScheduling.Cluster
import JobScheduling.Proofs.Node.Matches
import JobScheduling.Proofs.Pool.Tickets

/-!
# `JobScheduling.Proofs.Cluster.Matches`: clusters on two shared queues

Two shared queues match when their calls answer the same in related states and leave related
states. Then the same cluster does the same on both: `World.Matches.step` for one step, and
`World.Matches.run` for a run. So a queue may keep notes of its calls, and the run is the one
without the notes.

The lemmas follow the definitions: a call, a node's request or pass
(`SharedQueue.Matches.respects`), the workers after it, and the step.
-/

set_option autoImplicit false

namespace JobScheduling

variable {σ τ : Type} {T : σ → τ → Prop}

/-- In related states both calls answer the same, and they leave related states. -/
def Call.Matches {α : Type} (T : σ → τ → Prop) (call : Call σ α) (call' : Call τ α) : Prop :=
  ∀ s s', T s s' → (call s).1 = (call' s').1 ∧ T (call s).2 (call' s').2

/-- All calls of two queues match. -/
structure SharedQueue.Matches (T : σ → τ → Prop) (service : SharedQueue σ)
    (service' : SharedQueue τ) : Prop where
  add : ∀ job, Call.Matches T (service.add job) (service'.add job)
  get : ∀ id external, Call.Matches T (service.get id external) (service'.get id external)
  start : ∀ id, Call.Matches T (service.start id) (service'.start id)
  startNext : ∀ n, Call.Matches T (service.startNext n) (service'.startNext n)
  finish : ∀ id ending, Call.Matches T (service.finish id ending) (service'.finish id ending)
  cancel : ∀ id reason immediate,
    Call.Matches T (service.cancel id reason immediate) (service'.cancel id reason immediate)
  cancelOverdue : ∀ timeout abandoned reason,
    Call.Matches T (service.cancelOverdue timeout abandoned reason)
      (service'.cancelOverdue timeout abandoned reason)
  toCancel : Call.Matches T service.toCancel service'.toCancel
  waitingCount : Call.Matches T service.waitingCount service'.waitingCount
  completedCount : Call.Matches T service.completedCount service'.completedCount
  averageDuration : Call.Matches T service.averageDuration service'.averageDuration
  sinceCheck : ∀ id, Call.Matches T (service.sinceCheck id) (service'.sinceCheck id)
  meanwhile : ∀ s s', T s s' → service.meanwhile s = service'.meanwhile s'

/-- The same node next to related queues. -/
structure Site.Alike (T : σ → τ → Prop) (s : Site σ) (s' : Site τ) : Prop where
  node : s.node = s'.node
  queue : T s.queue s'.queue

/-! ### What a node does -/

/-- The same change of the node on both sides. -/
theorem Site.Alike.change {s : Site σ} {s' : Site τ} (h : s.Alike T s') (f : Node → Node) :
    Site.Alike T { s with node := f s.node } { s' with node := f s'.node } :=
  ⟨congrArg f h.node, h.queue⟩

section
variable {service : SharedQueue σ} {service' : SharedQueue τ}

/-- A call that matches is a matching request of a node. -/
theorem SharedQueue.Matches.ask (h : service.Matches T service') {α : Type} {call : Call σ α}
    {call' : Call τ α} (hcall : Call.Matches T call call') :
    Act.Matches (Site.Alike T) (Act.ask service call) (Act.ask service' call') := by
  intro s s' hs
  obtain ⟨hanswer, hqueue⟩ := hcall _ _ hs.queue
  refine ⟨hanswer, ?_, hqueue⟩
  show service.meanwhile _ s.node = service'.meanwhile _ s'.node
  rw [h.meanwhile _ _ hqueue, hs.node]

/-- The requests of a node end in the same way on both queues. -/
theorem SharedQueue.Matches.respects (h : service.Matches T service') :
    Node.Respects (Site.Alike T) service service' where
  -- The calls match, and the node is the same on both sides.
  node _ _ hs := hs.node
  get id external := h.ask (h.get id external)
  finish id ending := h.ask (h.finish id ending)
  cancel id reason immediate := h.ask (h.cancel id reason immediate)
  cancelOverdue timeout abandoned reason := h.ask (h.cancelOverdue timeout abandoned reason)
  toCancel := h.ask h.toCancel
  waitingCount := h.ask h.waitingCount
  completedCount := h.ask h.completedCount
  averageDuration := h.ask h.averageDuration
  sinceCheck id := h.ask (h.sinceCheck id)
  cancelTicket _ _ _ hs := hs.change _
  drop _ _ _ hs := hs.change _
  schedulePurge _ _ hs := hs.change _

/-- Whether the pool takes a job is read off the node alone. -/
theorem matches_hold (job : Job) :
    Act.Matches (Site.Alike T) (Node.hold job) (Node.hold job) := by
  refine Act.matches_bind (Act.matches_node fun _ _ hs => hs.node) fun n => ?_
  cases n.take job with
  | error e => exact Act.matches_refuse e
  | ok n' => exact Act.matches_change fun _ _ hs => hs.change fun _ => n'

/-- A submission does the same on both queues. -/
theorem SharedQueue.Matches.submit (h : service.Matches T service') (job : Job) :
    Act.Matches (Site.Alike T) (Node.submit service job) (Node.submit service' job) :=
  h.respects.matches_submit job (h.ask (h.add job)) (matches_hold job)

/-- A pass does the same on both queues. -/
theorem SharedQueue.Matches.reconcile (h : service.Matches T service') (scan : Registry.Scan)
    (now : Nat) :
    Act.Matches (Site.Alike T) (Node.reconcile service scan now)
      (Node.reconcile service' scan now) := by
  have hclaim := h.respects.matches_claim (fun n => h.ask (h.startNext n)) matches_hold
  exact h.respects.matches_reconcile scan now fun s s' hs _ =>
    h.respects.matches_reviewShared hclaim s s' hs

/-! ### What its workers do -/

/-- The workers are answered the same by both queues. -/
theorem SharedQueue.Matches.hook (h : service.Matches T service') (n : Node) (job : Job) :
    ∀ s s', T s s' → (Cluster.hook service n job s).1 = (Cluster.hook service' n job s').1 ∧
      T (Cluster.hook service n job s).2 (Cluster.hook service' n job s').2 := by
  intro s s' hT
  simp only [Cluster.hook]
  -- The hook tells the queue on a node that is not clustered, and its answer is the same on both
  -- sides.
  split
  · exact ⟨rfl, hT⟩
  · obtain ⟨hanswer, hqueue⟩ := h.start job.id s s' hT
    rcases hcall : service.start job.id s with ⟨answer, q⟩
    rcases hcall' : service'.start job.id s' with ⟨answer', q'⟩
    rw [hcall, hcall'] at hanswer hqueue
    cases hanswer
    rcases answer with (_ | _) | _ <;> exact ⟨rfl, hqueue⟩

/-- The workers do the same on both queues. -/
theorem SharedQueue.Matches.settle (h : service.Matches T service') {s : Site σ} {s' : Site τ}
    (hs : s.Alike T s') : (Cluster.settle service s).Alike T (Cluster.settle service' s') := by
  obtain ⟨n, q⟩ := s
  obtain ⟨n', q'⟩ := s'
  obtain ⟨hnode, hqueue⟩ := hs
  cases hnode
  obtain ⟨hpool, hqueue'⟩ := Pool.settle_matches (h.hook n) n.pool hqueue
  exact ⟨congrArg (fun pool => { n with pool }) hpool, hqueue'⟩

end

/-! ### What a cluster does -/

/-- Two worlds that differ in the shared queue only, and there match. -/
structure World.Matches (T : σ → τ → Prop) (world : World σ) (world' : World τ) : Prop where
  service : ∀ now k, (world.service now k).Matches T (world'.service now k)
  lastly : world.lastly = world'.lastly
  scan : world.scan = world'.scan

namespace Cluster

/-- The same nodes at the same time next to related queues, with the same log. -/
structure Alike (T : σ → τ → Prop) (c : Cluster σ) (c' : Cluster τ) : Prop where
  now : c.now = c'.now
  queue : T c.queue c'.queue
  nodes : c.nodes = c'.nodes
  starts : c.starts = c'.starts

variable {world : World σ} {world' : World τ} {c : Cluster σ} {c' : Cluster τ}

/-- Clusters that are alike have the same nodes. -/
theorem Alike.node? (h : c.Alike T c') (k : Nat) : c.node? k = c'.node? k := by
  simp only [Cluster.node?]
  rw [h.nodes]

/-- A node and its queue are put back on both sides. -/
theorem Alike.put (h : c.Alike T c') (hworld : world.Matches T world') (k : Nat) {site : Site σ}
    {site' : Site τ} (hsite : site.Alike T site') :
    (c.put world k site).Alike T (c'.put world' k site') := by
  refine ⟨h.now, hsite.queue, ?_, h.starts⟩
  simp only [Cluster.put, heed]
  rw [h.nodes, hsite.node, h.now]
  refine congrArg (List.mapIdx · _) (funext fun j => ?_)
  rw [(hworld.service c'.now j).meanwhile _ _ hsite.queue]

/-- The workers of one node begin the same work in both clusters. -/
theorem Alike.letWork (h : c.Alike T c') (hworld : world.Matches T world') (k : Nat) :
    (c.letWork world k).Alike T (c'.letWork world' k) := by
  simp only [Cluster.letWork]
  rw [h.node? k]
  cases c'.node? k with
  | none => exact h
  | some n =>
    have hsite : Site.Alike T { node := n, queue := c.queue } { node := n, queue := c'.queue } :=
      ⟨rfl, h.queue⟩
    have hsettle := (hworld.service c'.now k).settle hsite
    rw [← h.now] at hsettle
    have hput := h.put hworld k hsettle
    rw [← h.now]
    refine ⟨hput.now, hput.queue, hput.nodes, ?_⟩
    -- The executions noted are read off the node, and it is the same in both.
    show c.starts ++ _ = c'.starts ++ _
    rw [h.starts, hsettle.node]

/-- A request to a node is answered the same on both sides. -/
theorem Alike.request (h : c.Alike T c') (hworld : world.Matches T world') (k : Nat) {α : Type}
    (answer : α → Answer) {work : Act σ α} {work' : Act τ α}
    (hwork : Act.Matches (Site.Alike T) work work') :
    (c.request world k answer work).1 = (c'.request world' k answer work').1 ∧
      (c.request world k answer work).2.Alike T (c'.request world' k answer work').2 := by
  simp only [Cluster.request, act]
  rw [h.node? k]
  -- No node of that place, or the same node next to related queues.
  cases c'.node? k with
  | none => exact ⟨rfl, h⟩
  | some n =>
    obtain ⟨hend, hsite⟩ := hwork { node := n, queue := c.queue } { node := n, queue := c'.queue }
      ⟨rfl, h.queue⟩
    exact ⟨congrArg (Answer.of answer) hend, (h.put hworld k hsite).letWork hworld k⟩

/-- One step is answered the same on both sides. -/
theorem Alike.step (h : c.Alike T c') (hworld : world.Matches T world') (s : Step) :
    (c.step world s).1 = (c'.step world' s).1 ∧
      (c.step world s).2.Alike T (c'.step world' s).2 := by
  have hservice := hworld.service c'.now
  have hchange (f : Node → Node) :
      Act.Matches (Site.Alike T) (Act.change f : Act σ Unit) (Act.change f : Act τ Unit) :=
    Act.matches_change fun _ _ hs => hs.change f
  -- Each step is a request at one node, or it does not touch the queue.
  cases s with
  | submit k job =>
    simp only [Cluster.step]
    rw [h.now]
    exact h.request hworld k _ ((hservice k).submit job)
  | cancel k id credential =>
    simp only [Cluster.step]
    rw [h.now]
    exact h.request hworld k _ ((hservice k).respects.matches_cancel id credential)
  | status k id credential =>
    simp only [Cluster.step]
    rw [h.now]
    exact h.request hworld k _ ((hservice k).respects.matches_status id credential)
  | reconcile k =>
    simp only [Cluster.step]
    rw [h.now, hworld.scan]
    exact h.request hworld k _ ((hservice k).reconcile world'.scan c'.now)
  | release node id how named =>
    have hrunning : c.runningFor? node id named = c'.runningFor? node id named := by
      simp only [runningFor?]
      rw [h.starts]
      simp only [h.node?]
    simp only [Cluster.step]
    rw [hrunning]
    cases c'.runningFor? node id named with
    | none => exact ⟨rfl, h⟩
    | some start => exact ⟨rfl, (h.request hworld start.node _ (hchange _)).2⟩
  | shutDown k =>
    simp only [Cluster.step]
    rw [hworld.lastly]
    exact h.request hworld k _ (hchange _)
  | halt k => exact h.request hworld k _ (hchange _)
  | drop k =>
    simp only [Cluster.step]
    rw [h.nodes]
    split
    · exact ⟨rfl, h.now, h.queue, rfl, h.starts⟩
    · exact ⟨rfl, h⟩
  | setClock now => exact ⟨rfl, rfl, h.queue, h.nodes, h.starts⟩

/-- A run is answered the same on both sides. -/
theorem Alike.run (h : c.Alike T c') (hworld : world.Matches T world') (steps : List Step) :
    (Cluster.run world steps c).1 = (Cluster.run world' steps c').1 ∧
      (Cluster.run world steps c).2.Alike T (Cluster.run world' steps c').2 := by
  induction steps generalizing c c' with
  | nil => exact ⟨rfl, h⟩
  | cons s steps ih =>
    obtain ⟨hanswer, halike⟩ := h.step hworld s
    obtain ⟨hanswers, hlast⟩ := ih halike
    exact ⟨congrArg₂ List.cons hanswer hanswers, hlast⟩

end Cluster

end JobScheduling
