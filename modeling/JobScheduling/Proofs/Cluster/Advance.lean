import JobScheduling.Proofs.Cluster.Alone
import JobScheduling.Proofs.Cluster.Capacity
import JobScheduling.Proofs.Cluster.Executions
import JobScheduling.Proofs.Cluster.Outcomes
import JobScheduling.Proofs.Registry.CalledOff

/-!
# `JobScheduling.Proofs.Cluster.Advance`: what a step does to tickets and records

Two kinds of clusters keep their records and their tickets together: any number of clustered
nodes, and one node alone that is not clustered (`Cluster.Proper`). `Cluster.Advance` says what
they have in common, and `advance_step` that every step has it:

* a ticket follows one from before, or the record under the id of its job waits or runs;
* a ticket whose work has begun in the step was open when the workers started to act
  (`mem_begins`), so it was open before the step.

The records are followed in another way, that does not depend on the nodes. Whatever every request
to the queue keeps, a step keeps (`queue_step`).
-/

set_option autoImplicit false

namespace JobScheduling

/-! ### The queue in a step -/

/-- Each call of the queue is a request to it, so what all requests keep the calls keep. -/
theorem Registry.matches_self {P : Registry → Prop} (scan : Scan) (now : Nat)
    (h : ∀ request q, P q → P (q.serve scan now request).2) :
    (service scan now).Matches (fun q q' => q = q' ∧ P q) (service scan now) := by
  -- Each call is one request to the registry, and the three counts are none.
  have hcall {α : Type} {call : Call Registry α} (request : Request)
      (heq : ∀ q, (call q).2 = (q.serve scan now request).2) :
      Call.Matches (fun q q' => q = q' ∧ P q) call call := by
    rintro q _ ⟨rfl, hq⟩
    exact ⟨rfl, rfl, heq q ▸ h request q hq⟩
  exact
    { add := fun job => hcall (.add job) fun _ => rfl
      get := fun id external => hcall (.get id external) fun _ => rfl
      start := fun id => hcall (.start id) fun _ => rfl
      startNext := fun n => hcall (.startNext n) fun _ => rfl
      finish := fun id ending => by
        cases ending with
        | done report => exact hcall (.done id report) fun _ => rfl
        | error cause => exact hcall (.fail id cause) fun _ => rfl
      cancel := fun id reason immediate => hcall (.cancel id reason immediate) fun _ => rfl
      cancelOverdue := fun timeout abandoned reason =>
        hcall (.cancelOverdue timeout abandoned reason) fun _ => rfl
      toCancel := hcall .toCancel fun _ => rfl
      waitingCount := hcall (.sinceCheck "") fun _ => rfl
      completedCount := hcall (.sinceCheck "") fun _ => rfl
      averageDuration := hcall (.sinceCheck "") fun _ => rfl
      sinceCheck := fun id => hcall (.sinceCheck id) fun _ => rfl
      meanwhile := fun _ _ _ => rfl }

namespace Cluster

variable {scan heldScan : Registry.Scan} {lastly : Job → WorkEnd}

/-- What all requests to the queue keep, a step keeps. -/
theorem queue_step {P : Registry → Prop}
    (h : ∀ now request q, P q → P (q.serve scan now request).2) (heldScan : Registry.Scan)
    (lastly : Job → WorkEnd) {c : Cluster Registry} (hc : P c.queue) (s : Step) :
    P (c.step (shared scan heldScan lastly) s).2.queue := by
  have hworld : (shared scan heldScan lastly).Matches (fun q q' => q = q' ∧ P q)
      (shared scan heldScan lastly) :=
    ⟨fun now _ => Registry.matches_self scan now (h now), rfl, rfl⟩
  have halike : Alike (fun q q' => q = q' ∧ P q) c c := ⟨rfl, ⟨rfl, hc⟩, rfl, rfl⟩
  exact (halike.step hworld s).2.queue.2

/-- The registry after a step is one that the registry before it leads to. -/
theorem leadsTo_step (scan heldScan : Registry.Scan) (lastly : Job → WorkEnd)
    (c : Cluster Registry) (s : Step) :
    c.queue.LeadsTo (c.step (shared scan heldScan lastly) s).2.queue :=
  queue_step (P := c.queue.LeadsTo) (fun now request _ h => h.serve scan now request) heldScan
    lastly (.refl c.queue) s

end Cluster

/-! ### Tickets in a deed -/

namespace Pool

/-- The tickets of `p` are the same in `p'` or have finished there, and new ones are open. -/
structure Opens (p p' : Pool) : Prop where
  old : ∀ (m : Nat) t, p.tickets[m]? = some t → ∃ t', p'.tickets[m]? = some t' ∧ t.Closes t'
  new : ∀ (m : Nat) t', p.tickets[m]? = none → p'.tickets[m]? = some t' → t'.isFinished = false

/-- To close tickets opens none. -/
theorem Opens.of_closes {p p' : Pool} (h : p.Closes p') : p.Opens p' := by
  refine ⟨fun m t ht => h.ticket ht, ?_⟩
  intro m t' hnew ht'
  rw [(h.eq_none_iff m).1 hnew] at ht'
  cases ht'

/-- A submission opens the ticket it gives out. -/
theorem Opens.submit {p p' p'' : Pool} (h : p.Opens p') {job : Job} {n : Nat}
    (hsubmit : p'.submit job = .ok (n, p'')) : p.Opens p'' := by
  constructor
  · intro m t ht
    obtain ⟨t', ht', hc⟩ := h.old m t ht
    exact ⟨t', ticket_of_submit hsubmit ht', hc⟩
  · intro m t' hnew ht'
    rcases ticket_cases_of_submit hsubmit ht' with hbefore | ⟨-, rfl⟩
    · exact h.new m t' hnew hbefore
    · rfl

end Pool

/-- Tickets are closed, and nothing else, when they are cancelled, jobs are let go and a purge is
left to the workers. -/
theorem Node.lasts_closes (p : Pool) : Node.Lasts fun n => p.Closes n.pool where
  cancelTicket n id h := by
    unfold cancelTicket
    split
    · exact h
    next m _ => exact h.trans (Pool.closes_cancel m n.pool)
  drop _ _ h := h
  schedulePurge n h := h.trans (.of_eq (Node.tidied_schedulePurge n).tickets)

namespace Cluster

variable {scan heldScan : Registry.Scan} {lastly : Job → WorkEnd}

/-- In the deed of a step tickets are closed and given out. -/
theorem opens_deed (hscan : ∀ ids, (scan ids).Perm ids) {c : Cluster Registry} {s : Step} {k : Nat}
    {f : Site Registry → Site Registry} {n : Node}
    (hdeed : c.deed? scan heldScan lastly s = some (k, f)) (hn : c.node? k = some n)
    (hnamed : n.Named) (hkeyed : c.queue.Keyed) : n.pool.Opens (f (c.site n)).node.pool := by
  refine node_deed (Q := fun l => n.pool.Opens l.pool) (Node.lasts_closes n.pool)
    (fun _ h => .of_closes h) ?_ ?_ ?_ ?_ ?_ hscan hdeed hn hnamed hkeyed (.of_eq rfl)
  · exact fun l m how h _ => .of_closes (h.trans (Pool.closes_endWork m how l.pool))
  · exact fun l h => .of_closes (h.trans l.halted_shutDown.closes)
  · exact fun l h => .of_closes (h.trans (l.halted_stop lastly).closes)
  · exact fun _ _ _ _ h _ hsubmit => (Pool.Opens.of_closes h).submit hsubmit
  · intro now site h _
    obtain ⟨-, -, hopens⟩ := Node.claim_induction (P := fun _ l => n.pool.Opens l.pool)
      (fun _ _ _ _ _ hopens hsubmit => hopens.submit hsubmit) scan now (.of_closes h)
    exact hopens

/-- What the workers of a node begin when they act: the work of a ticket that was open. -/
theorem mem_begins {now k : Nat} {site : Site Registry} {start : Start}
    (h : start ∈ begins scan now k site) :
    start.node = k ∧ (∃ t, site.node.pool.tickets[start.ticket]? = some t ∧ t.isFinished = false) ∧
      ∃ t', (settle (Registry.service scan now) site).node.pool.tickets[start.ticket]?
        = some t' := by
  obtain ⟨new, hnew, hopen⟩ : ∃ new, (settle (Registry.service scan now) site).node.pool.begun
      -- What has begun since is the part of the list that is new.
      = site.node.pool.begun ++ new ∧
        ∀ n ∈ new, ∃ t, site.node.pool.tickets[n]? = some t ∧ t.isFinished = false :=
    Pool.begun_settle _ _ _
  simp only [begins, newStarts] at h
  rw [hnew, List.drop_left] at h
  obtain ⟨m, hm, hstart⟩ := List.mem_filterMap.1 h
  obtain ⟨t', ht', rfl⟩ := Option.map_eq_some_iff.1 hstart
  exact ⟨rfl, hopen m hm, t', ht'⟩

/-! ### Steps -/

/-- There is one node at most, which is not clustered and is in step with the queue. -/
structure Sole (c : Cluster Registry) : Prop where
  single : c.nodes.length ≤ 1
  inStep : ∀ k n, c.node? k = some n → (c.site n).InStep
  keyed : c.queue.Keyed

/-- All nodes are clustered, or there is one alone that is not. Nobody else uses the queue. -/
inductive Proper : Bool → Cluster Registry → Prop
  | members {c : Cluster Registry} (h : c.OfMembers) : Proper true c
  | alone {c : Cluster Registry} (h : c.Sole) : Proper false c

/-- Nodes that have just started next to an empty queue. -/
theorem proper_of_new {clustered : Bool} {nodes : List (Option Node)}
    (hnodes : ∀ n, some n ∈ nodes → n.Started clustered)
    (halone : clustered = false → nodes.length ≤ 1) (now : Nat) (retention : Option Nat) :
    Proper clustered { now, queue := { retention }, nodes } := by
  cases clustered with
  | true =>
    refine .members ⟨?_, Registry.keyed_empty retention⟩
    intro k n hn
    obtain ⟨_, _, _, _, hclustered, hnew⟩ := hnodes n (mem_of_node? hn)
    exact ⟨Node.whole_of_new hnew, (Node.new_eq_ok hnew).2.1 ▸ hclustered⟩
  | false =>
    refine .alone ⟨halone rfl, ?_, Registry.keyed_empty retention⟩
    intro k n hn
    obtain ⟨_, _, _, _, hclustered, hnew⟩ := hnodes n (mem_of_node? hn)
    exact Site.inStep_of_new hclustered hnew retention

/-- What a step does to the tickets of all nodes. -/
structure Advance (clustered : Bool) (c c' : Cluster Registry) : Prop where
  proper : c'.Proper clustered
  /-- The job of a new ticket has a record that goes on, and among clustered nodes it runs. -/
  tickets : ∀ {k m t'}, c'.ticket? k m = some t' →
    (∃ t, c.ticket? k m = some t ∧ t.Follows t') ∨
      c.ticket? k m = none ∧ ∃ r', c'.record? t'.job.id = some r' ∧
        (r'.stage = .running ∨ clustered = false ∧ r'.stage = .waiting)
  /-- Work that has begun is that of a ticket that was open before, or is new. -/
  starts : ∀ start ∈ c'.starts.drop c.starts.length,
    ∃ t', c'.ticket? start.node start.ticket = some t' ∧
      ∀ t, c.ticket? start.node start.ticket = some t → t.isFinished = false

section
variable {clustered : Bool} {c c' : Cluster Registry} {s : Step}

/-- A step that leaves the nodes alone, or loses one. -/
theorem advance_of_sub (hproper : c'.Proper clustered)
    (hnodes : ∀ k n, c'.node? k = some n → c.node? k = some n) (hstarts : c'.starts = c.starts) :
    Advance clustered c c' where
  proper := hproper
  tickets := by
    intro k m t' ht'
    obtain ⟨n, hn, ht'⟩ := ticket?_eq_some_iff.1 ht'
    exact .inl ⟨t', ticket?_eq_some_iff.2 ⟨n, hnodes k n hn, ht'⟩, .refl t'⟩
  starts := by
    intro start hstart
    rw [hstarts, List.drop_length] at hstart
    cases hstart

/-- A step with a deed, after which the workers of the node act. What is left to say is what the
records of the new tickets are. -/
theorem advance_of_deed {k : Nat} {n : Node} {site site' : Site Registry}
    (hproper : c'.Proper clustered) (hopens : n.pool.Opens site.node.pool)
    (hn : c.node? k = some n) (hreplaces : Replaces k site' c c')
    (hnode : site'.node = (settle (Registry.service scan c.now) site).node)
    (hstarts : c'.starts = c.starts ++ begins scan c.now k site)
    (hnew : ∀ (m : Nat) t', n.pool.tickets[m]? = none → site'.node.pool.tickets[m]? = some t' →
      ∃ r', c'.record? t'.job.id = some r' ∧
        (r'.stage = .running ∨ clustered = false ∧ r'.stage = .waiting)) :
    Advance clustered c c' where
  proper := hproper
  tickets := by
    -- Tickets of other nodes stay. Those of this node went on, or are new.
    intro j m t' ht'
    obtain ⟨l', hl', ht'⟩ := ticket?_eq_some_iff.1 ht'
    rw [hreplaces.node? (lt_length_of_node? hn)] at hl'
    split at hl'
    next hj =>
      subst hj
      cases hl'
      have hticket : c.ticket? j m = n.pool.tickets[m]? := by
        simp only [ticket?]
        rw [hn, Option.bind_some]
      rw [hticket]
      cases ht : n.pool.tickets[m]? with
      | none => exact .inr ⟨rfl, hnew m t' ht ht'⟩
      | some t =>
        obtain ⟨t₁, ht₁, hc⟩ := hopens.old m t ht
        have hfollows : site.node.pool.Follows site'.node.pool := by
          rw [hnode]
          exact Pool.follows_settle _ _ _
        obtain ⟨t'', ht'', hf⟩ := hfollows.ticket ht₁
        rw [ht'] at ht''
        cases ht''
        exact .inl ⟨t, rfl, .trans (.of_closes hc) hf⟩
    next => exact .inl ⟨t', ticket?_eq_some_iff.2 ⟨l', hl', ht'⟩, .refl t'⟩
  starts := by
    -- What begins in the step was open before it, in the site or as a new ticket.
    intro start hstart
    rw [hstarts, List.drop_left] at hstart
    obtain ⟨hk, ⟨t₁, ht₁, hopen⟩, t', ht'⟩ := mem_begins hstart
    rw [← hnode] at ht'
    refine ⟨t', ticket?_eq_some_iff.2 ⟨site'.node, ?_, ht'⟩, ?_⟩
    · rw [hreplaces.node? (lt_length_of_node? hn), if_pos hk]
    · intro t ht
      obtain ⟨l, hl, ht⟩ := ticket?_eq_some_iff.1 ht
      rw [hk, hn] at hl
      cases hl
      obtain ⟨t₂, ht₂, hc⟩ := hopens.old start.ticket t ht
      rw [ht₁] at ht₂
      cases ht₂
      exact hc.isFinished_eq_false hopen

/-- A step of clustered nodes. -/
theorem advance_members (hscan : ∀ ids, (scan ids).Perm ids) (heldScan : Registry.Scan)
    (lastly : Job → WorkEnd) (h : c.OfMembers) (s : Step) :
    Advance true c (c.step (shared scan heldScan lastly) s).2 := by
  generalize hc' : (c.step (shared scan heldScan lastly) s).2 = c'
  -- As `shift_cases` tells the steps apart.
  rcases shift_cases hscan heldScan lastly h s with
    hsame | ⟨now, -, hclock⟩ | ⟨k, -, hdrop⟩ | ⟨k, f, n, hdeed, hshift, hstarts⟩
  · rw [hc'] at hsame
    subst hsame
    exact advance_of_sub (.members h) (fun _ _ hn => hn) rfl
  · rw [hc'] at hclock
    subst hclock
    exact advance_of_sub (.members ⟨h.nodes, h.keyed⟩) (fun _ _ hn => hn) rfl
  · rw [hc'] at hdrop
    subst hdrop
    exact advance_of_sub (.members ⟨fun j l hl => h.nodes j l (node?_of_drop hl), h.keyed⟩)
      (fun _ _ hn => node?_of_drop hn) rfl
  · rw [hc'] at hshift hstarts
    have hn := hshift.node
    have hnamed := (h.nodes k n hn).named
    refine advance_of_deed (.members (hshift.ofMembers h))
      (opens_deed hscan hdeed hn hnamed h.keyed) hn hshift.replaces rfl hstarts ?_
    intro m t' hnone ht'
    rcases hshift.ticket_cases hnamed ((hshift.node? k).trans (if_pos rfl)) ht' with
      ⟨l, t, hl, ht, -⟩ | ⟨-, -, -, id, r, hclaims⟩
    · rw [hn] at hl
      cases hl
      rw [hnone] at ht
      cases ht
    · -- A new ticket is that of a claimed job, whose record runs from then on.
      obtain ⟨t, ht, hjob⟩ := hclaims.ticket
      rw [ht'] at ht
      cases ht
      rw [hjob, (h.keyed id r hclaims.before).1]
      exact ⟨_, hclaims.after, .inl (Registry.stage_started c.now hclaims.waiting)⟩

/-- A step of a node alone. -/
theorem advance_sole (hscan : ∀ ids, (scan ids).Perm ids) (heldScan : Registry.Scan)
    (lastly : Job → WorkEnd) (h : c.Sole) (s : Step) :
    Advance false c (c.step (shared scan heldScan lastly) s).2 := by
  have hkeyed : (c.step (shared scan heldScan lastly) s).2.queue.Keyed :=
    queue_step (P := Registry.Keyed)
      (fun now request _ h => Registry.keyed_serve scan now request h) heldScan lastly h.keyed s
  generalize hc' : (c.step (shared scan heldScan lastly) s).2 = c' at hkeyed ⊢
  rcases step_cases scan heldScan lastly c s with
    hsame | ⟨now, -, hclock⟩ | ⟨k, -, hdrop⟩ | ⟨k, f, n, hdeed, hn, hreplaces, hstarts⟩
  · rw [hc'] at hsame
    subst hsame
    exact advance_of_sub (.alone h) (fun _ _ hn => hn) rfl
  · rw [hc'] at hclock
    subst hclock
    exact advance_of_sub (.alone ⟨h.single, h.inStep, h.keyed⟩) (fun _ _ hn => hn) rfl
  · rw [hc'] at hdrop
    subst hdrop
    refine advance_of_sub (.alone ⟨?_, fun j l hl => h.inStep j l (node?_of_drop hl), h.keyed⟩)
      (fun _ _ hn => node?_of_drop hn) rfl
    exact (List.length_set ..).trans_le h.single
  · rw [hc'] at hreplaces hstarts
    have hin := h.inStep k n hn
    have hdone := (Site.inStep_deed hdeed hn hin).1
    have hsettled := (Site.inStep_settle scan c.now hdone).1
    have hproper : c'.Sole := by
      refine ⟨?_, ?_, hkeyed⟩
      · rw [hreplaces.nodes, List.length_set]
        exact h.single
      · intro j l hl
        rw [hreplaces.node? (lt_length_of_node? hn)] at hl
        split at hl
        · cases hl
          simp only [site]
          rw [hreplaces.queue]
          exact hsettled
        next hj =>
          -- There is no other node.
          have hlt := lt_length_of_node? hl
          have hlt' := lt_length_of_node? hn
          have hsingle := h.single
          omega
    have hopens := opens_deed hscan hdeed hn hin.named h.keyed
    refine advance_of_deed (.alone hproper) hopens hn hreplaces rfl hstarts ?_
    intro m t' hnone ht'
    -- A new ticket is open when the workers start to act, so its job is held.
    have hfollows : (f (c.site n)).node.pool.Follows
        (settle (Registry.service scan c.now) (f (c.site n))).node.pool :=
      Pool.follows_settle _ _ _
    obtain ⟨t₁, ht₁, hf⟩ := hfollows.ticket_before ht'
    have hheld := hdone.tracked m t₁ ht₁ (hopens.new m t₁ hnone ht₁)
    rw [← hf.job] at hheld
    have hticket : (settle (Registry.service scan c.now) (f (c.site n))).node.ticket? t'.job.id
        = some t' := Node.ticket?_eq_some_iff.2 ⟨m, hheld, ht'⟩
    have hagrees := hsettled.agrees t'.job.id
    rw [hticket] at hagrees
    obtain ⟨r', hr', hagrees⟩ := hagrees.exists_record
    refine ⟨r', ?_, hagrees.stage.symm.imp_right fun hwaiting => ⟨rfl, hwaiting⟩⟩
    simp only [record?]
    rw [hreplaces.queue]
    exact hr'

/-- What every step does to the tickets. -/
theorem advance_step (hscan : ∀ ids, (scan ids).Perm ids) (heldScan : Registry.Scan)
    (lastly : Job → WorkEnd) (h : c.Proper clustered) (s : Step) :
    Advance clustered c (c.step (shared scan heldScan lastly) s).2 := by
  cases h with
  | members h => exact advance_members hscan heldScan lastly h s
  | alone h => exact advance_sole hscan heldScan lastly h s

end

end Cluster

end JobScheduling
