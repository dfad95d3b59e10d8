import JobScheduling.Cluster
import JobScheduling.Proofs.Node.Review

/-!
# `JobScheduling.Proofs.Cluster.Steps`: steps as deeds on one site

A step concerns one node and the shared queue at most. `Cluster.deed?` says which node, and
what the step makes of it and of the queue before the workers act. `step_cases` says that
nothing else happens in a step: the deed, then the workers of that node, or else a change of
the clock or the loss of a node. So what is so of every node and of the queue stays so, if a deed
and the workers leave it so at their site (`step_sites`).

All this is for `Cluster.shared`, where the nodes share the queue in memory and its calls
leave the nodes alone. The order in which the queue visits its records (`scan`), the order
in which a pass visits the held jobs (`heldScan`) and the way in which work ends that is
still going on when its node is stopped (`lastly`) are arbitrary.
-/

set_option autoImplicit false

namespace JobScheduling

namespace Cluster

/-- The world of nodes that share the queue in memory. -/
def shared (scan heldScan : Registry.Scan) (lastly : Job → WorkEnd) : World Registry where
  service now _ := Registry.service scan now
  lastly
  scan := heldScan

variable {scan heldScan : Registry.Scan} {lastly : Job → WorkEnd}

/-- The site of a node in a cluster. -/
def site (n : Node) (c : Cluster Registry) : Site Registry := { node := n, queue := c.queue }

/-- A node after some of its work was ended from outside. -/
def ended (ticket : Nat) (how : WorkEnd) (n : Node) : Node :=
  { n with pool := n.pool.endWork ticket how }

/-- The node that a step concerns, if there is one, and what the step makes of its site
before the workers act. -/
def deed? (scan heldScan : Registry.Scan) (lastly : Job → WorkEnd) (c : Cluster Registry) :
    Step → Option (Nat × (Site Registry → Site Registry))
  | .submit k job => some (k, fun s => ((Node.submit (Registry.service scan c.now) job).run s).2)
  | .cancel k id credential =>
    some (k, fun s => ((Node.cancel (Registry.service scan c.now) id credential).run s).2)
  | .status k id credential =>
    some (k, fun s => ((Node.status (Registry.service scan c.now) id credential).run s).2)
  | .reconcile k =>
    some (k, fun s =>
      ((Node.reconcile (Registry.service scan c.now) heldScan c.now).run s).2)
  | .release node id how named => (c.runningFor? node id named).map fun start =>
    (start.node, fun s => { s with node := ended start.ticket how s.node })
  | .shutDown k => some (k, fun s => { s with node := s.node.stop lastly })
  | .halt k => some (k, fun s => { s with node := s.node.shutDown })
  | .drop _ | .setClock _ => none

/-- A later cluster in which one node and the shared queue have been replaced. -/
structure Replaces (k : Nat) (site : Site Registry) (c c' : Cluster Registry) : Prop where
  now : c'.now = c.now
  queue : c'.queue = site.queue
  nodes : c'.nodes = c.nodes.set k (some site.node)

/-- The place of a node that is there. -/
theorem getElem?_of_node? {k : Nat} {c : Cluster Registry} {n : Node} (h : c.node? k = some n) :
    c.nodes[k]? = some (some n) := Option.join_eq_some_iff.1 h

/-- A node of a place is one of the nodes. -/
theorem mem_of_node? {k : Nat} {c : Cluster Registry} {n : Node} (h : c.node? k = some n) :
    some n ∈ c.nodes :=
  List.mem_of_getElem? (getElem?_of_node? h)

/-- A node that is left when one is lost. -/
theorem node?_of_drop {c : Cluster Registry} {k j : Nat} {n : Node}
    (h : node? j { c with nodes := c.nodes.set k none } = some n) : c.node? j = some n := by
  have hj : (c.nodes.set k none)[j]? = some (some n) := getElem?_of_node? h
  rw [List.getElem?_set] at hj
  split at hj
  · split at hj <;> cases hj
  · exact Option.join_eq_some_iff.2 hj

/-- A node that is there has a place. -/
theorem lt_length_of_node? {k : Nat} {c : Cluster Registry} {n : Node} (h : c.node? k = some n) :
    k < c.nodes.length :=
  (List.getElem?_eq_some_iff.1 (getElem?_of_node? h)).1

/-- The nodes after one was replaced. -/
theorem Replaces.node? {k : Nat} {site : Site Registry} {c c' : Cluster Registry}
    (h : Replaces k site c c') (hk : k < c.nodes.length) (j : Nat) :
    c'.node? j = if j = k then some site.node else c.node? j := by
  simp only [Cluster.node?]
  rw [h.nodes, List.getElem?_set]
  by_cases hj : k = j
  · subst hj
    simp [hk]
  · simp [hj, Ne.symm hj]

/-- The calls of the queue in memory leave all nodes alone. -/
theorem heed_shared (c : Cluster Registry) : heed (shared scan heldScan lastly) c = c := by
  simp only [heed]
  -- The shared registry stops no node on its own.
  have hnodes : (c.nodes.mapIdx fun k n =>
      n.map (((shared scan heldScan lastly).service c.now k).meanwhile c.queue)) = c.nodes := by
    refine List.ext_getElem? ?_
    intro k
    rw [List.getElem?_mapIdx]
    cases c.nodes[k]? with
    | none => rfl
    | some n => cases n <;> rfl
  rw [hnodes]

/-- The workers of a clustered node do not tell the queue that a job begins. -/
theorem hook_clustered {n : Node} (h : n.settings.clustered = true) (service : SharedQueue Registry)
    (job : Job) (q : Registry) : hook service n job q = (true, q) := by
  simp only [hook]
  rw [if_pos h]

/-- Next to a node that is not clustered the hook marks the record of the job as running. -/
theorem hook_eq {n : Node} (h : n.settings.clustered = false) {now : Nat} (job : Job)
    (q : Registry) :
    hook (Registry.service scan now) n job q = (true, (q.start now job.id).2) := by
  simp only [hook]
  rw [h, if_neg Bool.false_ne_true]
  have hcall : (Registry.service scan now).start job.id q
      = ((q.start now job.id).1.mapError .refused, (q.start now job.id).2) := rfl
  rw [hcall]
  cases (q.start now job.id).1 <;> rfl

/-- The executions that begin when the workers of the `k`-th node act at a site. -/
def begins (scan : Registry.Scan) (now k : Nat) (site : Site Registry) : List Start :=
  newStarts k site.node.pool.begun.length (settle (Registry.service scan now) site).node.pool

/-- The cluster after a request to a node that is there: its site is replaced when the workers
have acted, and what they have begun is logged. -/
theorem request_eq {α : Type} {k : Nat} {n : Node} {c : Cluster Registry}
    (h : c.node? k = some n) (answer : α → Answer) (work : Act Registry α) :
    let site := (work.run (c.site n)).2
    let site' := settle (Registry.service scan c.now) site
    c.request (shared scan heldScan lastly) k answer work
      = (.of answer (work.run (c.site n)).1,
        { c with
          queue := site'.queue
          nodes := c.nodes.set k (some site'.node)
          starts := c.starts ++ begins scan c.now k site }) := by
  intro site site'
  have hk := lt_length_of_node? h
  simp only [request, act]
  rw [h]
  show (_, letWork _ k (put _ k site c)) = _
  -- The site is put back twice, after the request and after the workers have acted.
  simp only [put]
  rw [heed_shared]
  simp only [letWork]
  have hnode : (Cluster.mk c.now site.queue (c.nodes.set k (some site.node)) c.starts).node? k
      = some site.node := by
    simp only [Cluster.node?]
    simp [hk]
  rw [hnode]
  simp only [put]
  rw [heed_shared]
  simp only [List.set_set]
  rfl

/-- A request to a node that is there replaces its site, after the workers have acted. -/
theorem request_replaces {α : Type} {k : Nat} {n : Node} {c : Cluster Registry}
    (h : c.node? k = some n) (answer : α → Answer) (work : Act Registry α) :
    Replaces k (settle (Registry.service scan c.now) (work.run (c.site n)).2) c
      (c.request (shared scan heldScan lastly) k answer work).2 := by
  rw [request_eq h]
  exact ⟨rfl, rfl, rfl⟩

/-- A request is answered with what its work ends with. -/
theorem request_fst {α : Type} {k : Nat} {n : Node} {c : Cluster Registry}
    (h : c.node? k = some n) (answer : α → Answer) (work : Act Registry α) :
    (c.request (shared scan heldScan lastly) k answer work).1
      = .of answer (work.run (c.site n)).1 := by
  rw [request_eq h]

/-- Where there is no node, a request has no effect. -/
theorem request_of_none {α : Type} {k : Nat} {c : Cluster Registry} (h : c.node? k = none)
    (answer : α → Answer) (work : Act Registry α) :
    c.request (shared scan heldScan lastly) k answer work = (.noNode, c) := by
  simp only [request, act]
  rw [h]
  rfl

/-- All that a step does: nothing, a change of the clock, the loss of a node, or a deed at a
site, after which the workers of the node act. -/
theorem step_cases (scan heldScan : Registry.Scan) (lastly : Job → WorkEnd)
    (c : Cluster Registry) (s : Step) :
    let c' := (c.step (shared scan heldScan lastly) s).2
    c' = c ∨ (∃ now, s = .setClock now ∧ c' = { c with now }) ∨
      (∃ k, s = .drop k ∧ c' = { c with nodes := c.nodes.set k none }) ∨
      ∃ k f n, c.deed? scan heldScan lastly s = some (k, f) ∧ c.node? k = some n ∧
        Replaces k (settle (Registry.service scan c.now) (f (c.site n))) c c' ∧
        c'.starts = c.starts ++ begins scan c.now k (f (c.site n)) := by
  -- All steps but two are requests to a node, which is there or not.
  have hrequest {α : Type} (k : Nat) (answer : α → Answer) (work : Act Registry α)
      (f : Site Registry → Site Registry) (hf : ∀ s, f s = (work.run s).2)
      (hdeed : c.deed? scan heldScan lastly s = some (k, f)) (c' : Cluster Registry)
      (hc' : c' = (c.request (shared scan heldScan lastly) k answer work).2) :
      c' = c ∨ ∃ k f n, c.deed? scan heldScan lastly s = some (k, f) ∧ c.node? k = some n ∧
        Replaces k (settle (Registry.service scan c.now) (f (c.site n))) c c' ∧
        c'.starts = c.starts ++ begins scan c.now k (f (c.site n)) := by
    subst hc'
    cases hn : c.node? k with
    | none => exact .inl (congrArg Prod.snd (request_of_none hn answer work))
    | some n =>
      refine .inr ⟨k, f, n, hdeed, hn, ?_⟩
      rw [hf, request_eq hn]
      exact ⟨⟨rfl, rfl, rfl⟩, rfl⟩
  cases s with
  | submit k job => exact (hrequest k _ _ _ (fun _ => rfl) rfl _ rfl).imp_right (.inr ∘ .inr)
  | cancel k id credential =>
    exact (hrequest k _ _ _ (fun _ => rfl) rfl _ rfl).imp_right (.inr ∘ .inr)
  | status k id credential =>
    exact (hrequest k _ _ _ (fun _ => rfl) rfl _ rfl).imp_right (.inr ∘ .inr)
  | reconcile k => exact (hrequest k _ _ _ (fun _ => rfl) rfl _ rfl).imp_right (.inr ∘ .inr)
  | release node id how named =>
    intro c'
    cases hstart : c.runningFor? node id named with
    | none =>
      left
      simp only [c', step, hstart]
    | some start =>
      have hdeed : c.deed? scan heldScan lastly (.release node id how named)
          = some (start.node, fun s => { s with node := ended start.ticket how s.node }) := by
        simp only [deed?, hstart, Option.map_some]
      refine (hrequest start.node (fun _ => .unit) (Act.change (ended start.ticket how)) _
        (fun _ => rfl) hdeed c' ?_).imp_right (.inr ∘ .inr)
      simp only [c', step, hstart]
      rfl
  | shutDown k => exact (hrequest k _ _ _ (fun _ => rfl) rfl _ rfl).imp_right (.inr ∘ .inr)
  | halt k => exact (hrequest k _ _ _ (fun _ => rfl) rfl _ rfl).imp_right (.inr ∘ .inr)
  | drop k =>
    intro c'
    by_cases hk : k < c.nodes.length
    · refine .inr (.inr (.inl ⟨k, rfl, ?_⟩))
      simp only [c', step, if_pos hk]
    · left
      simp only [c', step, if_neg hk]
  | setClock now => exact .inr (.inl ⟨now, rfl, rfl⟩)

/-- A step keeps what is so of every node and of the shared queue, if it leaves it so of the site
at which something is done in it. -/
theorem step_sites {P : Node → Prop} {Q : Registry → Prop} (scan heldScan : Registry.Scan)
    (lastly : Job → WorkEnd) {c : Cluster Registry} {s : Step}
    (hsite : ∀ k f n, c.deed? scan heldScan lastly s = some (k, f) → c.node? k = some n →
      let site' := settle (Registry.service scan c.now) (f (c.site n))
      P site'.node ∧ Q site'.queue)
    (hnodes : ∀ k n, c.node? k = some n → P n) (hqueue : Q c.queue) :
    let c' := (c.step (shared scan heldScan lastly) s).2
    (∀ k n, c'.node? k = some n → P n) ∧ Q c'.queue := by
  intro c'
  rcases step_cases scan heldScan lastly c s with
    hc' | ⟨now, -, hc'⟩ | ⟨k, -, hc'⟩ | ⟨k, f, n, hdeed, hn, hreplaces, -⟩
  -- Nothing happens, the clock is set, a node is dropped, or one site changes.
  · rw [show c' = c from hc']
    exact ⟨hnodes, hqueue⟩
  · rw [show c' = _ from hc']
    exact ⟨hnodes, hqueue⟩
  · rw [show c' = _ from hc']
    exact ⟨fun j m hm => hnodes j m (node?_of_drop hm), hqueue⟩
  · obtain ⟨hnode, hqueue'⟩ := hsite k f n hdeed hn
    refine ⟨?_, hreplaces.queue ▸ hqueue'⟩
    intro j m hm
    rw [hreplaces.node? (lt_length_of_node? hn)] at hm
    split at hm
    · cases hm
      exact hnode
    · exact hnodes j m hm

/-- Work that is ended from outside occupies a worker. -/
theorem mem_busy_of_runningFor? {c : Cluster Registry} {node : Option Nat} {id : String}
    {named : Option Nat} {start : Start} (h : c.runningFor? node id named = some start) {n : Node}
    (hn : c.node? start.node = some n) : start.ticket ∈ n.pool.busy := by
  have hstart := List.find?_some h
  rw [hn] at hstart
  simp only [Bool.and_eq_true, Option.any_some, List.contains_iff_mem] at hstart
  exact hstart.2

/-- When its node and its ticket are named, an execution can be ended that is not the longest
running one of its id. -/
theorem exists_runningFor? {c : Cluster Registry} {start : Start} (hstart : start ∈ c.starts)
    {n : Node} (hn : c.node? start.node = some n) (hbusy : start.ticket ∈ n.pool.busy) :
    ∃ found, c.runningFor? (some start.node) start.job.id (some start.ticket) = some found ∧
      found.node = start.node ∧ found.ticket = start.ticket := by
  have hfound : (c.runningFor? (some start.node) start.job.id (some start.ticket)).isSome = true :=
    List.find?_isSome.2 ⟨start, hstart, by simpa [hn] using hbusy⟩
  obtain ⟨found, hfound⟩ := Option.isSome_iff_exists.1 hfound
  have hnamed := List.find?_some hfound
  simp only [Bool.and_eq_true, Option.all_some, beq_iff_eq] at hnamed
  obtain ⟨⟨⟨-, hnode⟩, hticket⟩, -⟩ := hnamed
  exact ⟨found, hfound, hnode.symm, hticket.symm⟩

/-- A run is a run of its first step and then of the others. -/
theorem run_cons (world : World Registry) (s : Step) (rest : List Step) (c : Cluster Registry) :
    (run world (s :: rest) c).2 = (run world rest (c.step world s).2).2 := rfl

/-- A run is a run of a part of its steps and then of the others. -/
theorem run_append (world : World Registry) (before after : List Step) (c : Cluster Registry) :
    (run world (before ++ after) c).2 = (run world after (run world before c).2).2 := by
  induction before generalizing c with
  | nil => rfl
  | cons s before ih => exact ih (c.step world s).2

/-- What each of its steps keeps, a run keeps. -/
theorem run_induction_of_mem {world : World Registry} {P : Cluster Registry → Prop}
    (steps : List Step) (hstep : ∀ c, ∀ s ∈ steps, P c → P (c.step world s).2)
    {c : Cluster Registry} (h : P c) : P (run world steps c).2 := by
  induction steps generalizing c with
  | nil => exact h
  | cons s steps ih =>
    exact ih (fun c s hs => hstep c s (List.mem_cons_of_mem _ hs))
      (hstep c s List.mem_cons_self h)

/-- What every step keeps, a run keeps. -/
theorem run_induction {world : World Registry} {P : Cluster Registry → Prop}
    (hstep : ∀ c s, P c → P (c.step world s).2) (steps : List Step) {c : Cluster Registry}
    (h : P c) : P (run world steps c).2 :=
  run_induction_of_mem steps (fun c s _ => hstep c s) h

end Cluster

end JobScheduling
