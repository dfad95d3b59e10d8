import JobScheduling.Proofs.Cluster.Members

/-!
# `JobScheduling.Proofs.Cluster.Joined`: clustered nodes that go on

Nodes that are clustered and go on, next to a queue that is changed only through them.

* `Node.Joined` and `Cluster.AtWork`: what such a node, and a cluster of them, always has.
* `Turn`: what a routine step does at the site of a node (`Cluster.Does`), after which the
  workers of the node do no more than `Node.Worked` allows. A turn is a shift (`Turn.shift`).
* `routine_cases`: a routine step is the turn of a node, or it changes the clock, or nothing.
-/

set_option autoImplicit false

namespace JobScheduling

/-- A clustered node that goes on. -/
structure Node.Joined (n : Node) : Prop where
  clustered : n.settings.clustered = true
  goesOn : n.isShutDown = false
  poolGoesOn : n.pool.isShutDown = false
  sound : n.pool.Sound
  named : n.Named

/-- A node that goes on is a member. -/
theorem Node.Joined.member {n : Node} (h : n.Joined) : n.Member :=
  ⟨⟨h.goesOn.trans h.poolGoesOn.symm, h.sound, h.named⟩, h.clustered⟩

/-- A member that goes on was not stopped, and neither was its pool. -/
theorem Node.Member.joined {n : Node} (h : n.Member) (hgoesOn : n.isShutDown = false) : n.Joined :=
  ⟨h.clustered, hgoesOn, h.stopped.symm.trans hgoesOn, h.sound, h.named⟩

/-- A node that has just started clustered holds no job, and goes on. -/
theorem Node.StartedClustered.joined {settings : Settings} {retention : Option Nat} {n : Node}
    (h : n.StartedClustered settings retention) :
    n.Joined ∧ n.settings = settings ∧ n.held = {} ∧ n.pool.tickets = [] := by
  obtain ⟨hmember, hgoesOn, hrest⟩ := h.member
  exact ⟨hmember.joined hgoesOn, hrest⟩

/-- The workers keep a node going. -/
theorem Node.Worked.joined {n n' : Node} (h : n.Worked n') (hn : n.Joined) : n'.Joined :=
  (h.member hn.member).joined (h.isShutDown.trans hn.goesOn)

namespace Cluster

variable {scan heldScan : Registry.Scan} {lastly : Job → WorkEnd}

/-- Every node is clustered and goes on, and the records lie in their places. -/
structure AtWork (c : Cluster Registry) : Prop where
  nodes : ∀ k n, c.node? k = some n → n.Joined
  keyed : c.queue.Keyed

/-- A routine step keeps the node going. -/
theorem Does.joined {now k : Nat} {site site' : Site Registry} {s : Step}
    (h : Does heldScan now k site s site') (hn : site.node.Joined)
    (hkeyed : site.queue.Keyed) : site'.node.Joined := by
  obtain ⟨hmember, hdown⟩ := h.member hn.member hkeyed
  exact hmember.joined (hdown.trans hn.goesOn)

/-- The turn of a node, the `k`-th one: a step makes `site` of its site, and then its workers
act. -/
structure Turn (heldScan : Registry.Scan) (s : Step) (k : Nat) (n : Node) (site : Site Registry)
    (n' : Node) (c c' : Cluster Registry) : Prop where
  node : c.node? k = some n
  does : Does heldScan c.now k (c.site n) s site
  worked : site.node.Worked n'
  replaces : Replaces k { node := n', queue := site.queue } c c'

/-- All that a routine step does to clustered nodes. -/
theorem routine_cases (hscan : ∀ ids, (scan ids).Perm ids) (heldScan : Registry.Scan)
    (lastly : Job → WorkEnd) {c : Cluster Registry} (h : c.AtWork) {s : Step}
    (hs : s.isRoutine = true) :
    let c' := (c.step (shared scan heldScan lastly) s).2
    c' = c ∨ (∃ now, s = .setClock now ∧ c' = { c with now }) ∨
      ∃ k n site n', Turn heldScan s k n site n' c c' := by
  intro c'
  rcases step_cases scan heldScan lastly c s with
    hc' | hclock | ⟨k, rfl, -⟩ | ⟨k, f, n, hdeed, hn, hc', -⟩
  · exact .inl hc'
  · exact .inr (.inl hclock)
  · cases hs
  · have hdoes := does_of_deed hscan hdeed hn hs (h.nodes k n hn).member h.keyed
    obtain ⟨n', hsettle, hworked⟩ :=
      settle_clustered scan c.now (hdoes.joined (h.nodes k n hn) h.keyed).member
    exact .inr (.inr ⟨k, n, f (c.site n), n', hn, hdoes, hworked, hsettle ▸ hc'⟩)

/-- Clustered nodes that have just started next to an empty queue. -/
theorem atWork_of_new {now : Nat} {retention : Option Nat} {nodes : List (Option Node)}
    (hnodes : ∀ n, some n ∈ nodes → ∃ settings, n.StartedClustered settings retention) :
    AtWork { now, queue := { retention }, nodes } := by
  refine ⟨?_, Registry.keyed_empty retention⟩
  intro k n hn
  obtain ⟨settings, hstarted⟩ := hnodes n (mem_of_node? hn)
  exact hstarted.joined.1

/-! ### Turns -/

section
variable {s : Step} {k : Nat} {n n' : Node} {site : Site Registry} {c c' : Cluster Registry}

/-- A turn is one kind of shift. -/
theorem Turn.shift (h : Turn heldScan s k n site n' c c') : Shift heldScan s k n site n' c c' :=
  ⟨h.node, .does h.does, h.worked, h.replaces⟩

/-- A turn replaces the node that it concerns. -/
theorem Turn.node? (h : Turn heldScan s k n site n' c c') (j : Nat) :
    c'.node? j = if j = k then some n' else c.node? j := h.shift.node? j

/-- A turn keeps a cluster at work. -/
theorem Turn.atWork (h : Turn heldScan s k n site n' c c') (hc : c.AtWork) : c'.AtWork := by
  constructor
  · intro j m hm
    rw [h.node?] at hm
    split at hm
    · cases hm
      exact h.worked.joined (h.does.joined (hc.nodes k n h.node) hc.keyed)
    · exact hc.nodes j m hm
  · rw [h.replaces.queue]
    exact h.does.keyed hc.keyed

/-- A ticket is followed by one of the same number. -/
theorem Turn.follows (h : Turn heldScan s k n site n' c c') {j m : Nat} {l : Node} {t : Ticket}
    (hl : c.node? j = some l) (ht : l.pool.tickets[m]? = some t) :
    ∃ l' t', c'.node? j = some l' ∧ l'.pool.tickets[m]? = some t' ∧ t.Follows t' :=
  h.shift.follows hl ht

/-- An id that is held after a turn was held before, or its job was claimed in the turn. -/
theorem Turn.held_cases (h : Turn heldScan s k n site n' c c') {j m : Nat} {l' : Node}
    {id : String} (hl' : c'.node? j = some l') (hm : l'.held.find? id = some m) :
    (∃ l, c.node? j = some l ∧ l.held.find? id = some m) ∨
      j = k ∧ l' = n' ∧ s = .reconcile k ∧ ∃ r, Claims id m r n n' c c' :=
  h.shift.held_cases hl' hm

/-- A ticket after a turn follows one from before, or its job was claimed in the turn. -/
theorem Turn.ticket_cases (h : Turn heldScan s k n site n' c c') (hnamed : n.Named) {j m : Nat}
    {l' : Node} {t' : Ticket} (hl' : c'.node? j = some l') (ht' : l'.pool.tickets[m]? = some t') :
    (∃ l t, c.node? j = some l ∧ l.pool.tickets[m]? = some t ∧ t.Follows t') ∨
      j = k ∧ l' = n' ∧ s = .reconcile k ∧ ∃ id r, Claims id m r n n' c c' :=
  h.shift.ticket_cases hnamed hl' ht'

/-- After a turn no two nodes hold jobs of one id, if none did before and no job that waits was
held: the jobs that are claimed are those. -/
theorem Turn.single (h : Turn heldScan s k n site n' c c')
    (hfree : ∀ {id r}, c.queue.records.find? id = some r → r.stage = .waiting →
      ∀ j l, c.node? j = some l → l.held.find? id = none)
    (hsingle : ∀ id j l i l', c.node? j = some l → c.node? i = some l' →
      (l.held.find? id).isSome = true → (l'.held.find? id).isSome = true → j = i) :
    ∀ id j l i l', c'.node? j = some l → c'.node? i = some l' →
      (l.held.find? id).isSome = true → (l'.held.find? id).isSome = true → j = i := by
  intro id j l i l' hl hl' hheld hheld'
  obtain ⟨m, hm⟩ := Option.isSome_iff_exists.1 hheld
  obtain ⟨m', hm'⟩ := Option.isSome_iff_exists.1 hheld'
  -- Both ids were held before, or one was and the other is claimed, or both are claimed.
  rcases h.held_cases hl hm with ⟨l₁, hl₁, hm₁⟩ | ⟨hj, -, -, r, hclaims⟩ <;>
    rcases h.held_cases hl' hm' with ⟨l₂, hl₂, hm₂⟩ | ⟨hi, -, -, r', hclaims'⟩
  · exact hsingle id j l₁ i l₂ hl₁ hl₂ (hm₁ ▸ rfl) (hm₂ ▸ rfl)
  · have hnone := hfree hclaims'.before hclaims'.waiting j l₁ hl₁
    rw [hm₁] at hnone
    cases hnone
  · have hnone := hfree hclaims.before hclaims.waiting i l₂ hl₂
    rw [hm₂] at hnone
    cases hnone
  · exact hj.trans hi.symm

/-- An id stays fresh until it is submitted. -/
theorem Fresh.turn {id : String} (h : c.Fresh id) (hturn : Turn heldScan s k n site n' c c')
    (hs : s.submitted? ≠ some id) : c'.Fresh id := h.shift hturn.shift hs

end

end Cluster

end JobScheduling
