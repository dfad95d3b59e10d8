import JobScheduling.Proofs.Cluster.Admission
import JobScheduling.Proofs.Cluster.Denied
import JobScheduling.Proofs.Cluster.Pass
import JobScheduling.Proofs.Pool.Stopped

/-!
# `JobScheduling.Proofs.Cluster.Retired`: nodes that were stopped

A node stops together with its pool, and what was stopped stays so (`isShutDown_step`). The stop
leaves nothing in the backlog, so from then on the workers of the node find nothing to begin, and
tell the shared queue nothing (`settle_of_stopped`).

`Cluster.Retired` says what is left of such a node: it takes no job and makes no pass, and of all
that is done at the node only the requests of clients reach the shared queue. A request to cancel
a job that it still holds is one of them.

`stop_final` puts this next to what a stop does to a pool (`Pool.Aftermath`).
-/

set_option autoImplicit false

namespace JobScheduling

namespace Record

/-- A job that was asked to stop is stopped as if it had not been asked before. -/
theorem cancel_cancel (now : Nat) (reason : String) (r : Record) :
    (r.cancel now reason false).cancel now reason true = r.cancel now reason true := by
  cases h : r.isFinal with
  | true => rw [Registry.cancel_of_isFinal h now reason false]
  | false =>
    obtain ⟨asked, hasked, hcancel, hstage, -⟩ := Registry.cancel_of_open h now reason
    rw [hasked, hcancel]
    simp [cancel, hstage, isFinal, Stage.isFinal]

/-- What is canceled as done by its node is CANCELED. -/
theorem stage_cancel_of_open {r : Record} (h : r.isFinal = false) (now : Nat) (reason : String) :
    (r.cancel now reason true).stage = .canceled := by
  obtain ⟨asked, -, hcancel, -⟩ := Registry.cancel_of_open h now reason
  rw [hcancel]
  rfl

end Record

namespace Pool

/-- If the pool was stopped, its backlog was drained. -/
def Drains (p : Pool) : Prop := p.isShutDown = true → p.Stopped

section
variable {σ : Type} {p p' : Pool}

/-- Of an open pool nothing is claimed. -/
theorem drains_of_open (h : p.isShutDown = false) : p.Drains := by
  intro hdown
  rw [h] at hdown
  cases hdown

/-- The stop drains the backlog, and a second one finds it drained. -/
theorem drains_shutDown (h : p.Drains) : p.shutDown.Drains := by
  intro _
  cases hp : p.isShutDown with
  | false => exact stopped_shutDown hp
  | true =>
    rw [(h hp).shutDown_eq]
    exact h hp

/-- What happens to pools that were stopped leaves them drained. -/
theorem Drains.windsDown (h : p.Drains) (hdown : p'.isShutDown = p.isShutDown)
    (hw : p.Stopped → WindsDown p p') : p'.Drains := by
  intro hp'
  have hs := h (hdown ▸ hp')
  exact hs.windsDown (hw hs)

/-- A pool that accepts a job is open. -/
theorem drains_submit {job : Job} {ticket : Nat} (hsubmit : p.submit job = .ok (ticket, p')) :
    p'.Drains := by
  obtain ⟨-, -, -, -, -, hopen⟩ := submit_eq_ok hsubmit
  exact drains_of_open hopen

/-- The workers of a stopped pool do not call the hook. -/
theorem Stopped.settle (h : p.Stopped) (hook : Hook σ) (s : σ) :
    (p.settle hook s).2 = s ∧ WindsDown p (p.settle hook s).1 := by
  have hreaches := reaches_settle hook .standard p s
  exact h.windsDown_reaches hreaches

end

end Pool

namespace Node

/-- To cancel a ticket, to let go of it and to schedule a purge puts nothing into a drained backlog.
-/
theorem lasts_drains : Lasts fun n => n.pool.Drains where
  cancelTicket n id h := by
    unfold cancelTicket
    split
    · exact h
    next m _ =>
      exact h.windsDown (Pool.isShutDown_cancel m n.pool) fun _ => .single (.cancels n.pool m)
  drop _ _ h := h
  schedulePurge n h := by
    intro hdown
    -- A stopped pool refuses the purge.
    have hstopped := h ((tidied_schedulePurge n).poolIsShutDown.symm.trans hdown)
    have hsame : n.schedulePurge = n := by
      simp only [schedulePurge, Pool.schedulePurge]
      rw [hstopped.isShutDown]
      rfl
    rw [hsame]
    exact hstopped

/-- None of the three starts the node again. -/
theorem lasts_isShutDown : Lasts fun n => n.isShutDown = true where
  cancelTicket n id h := by
    unfold cancelTicket
    split <;> exact h
  drop _ _ h := h
  schedulePurge n h := (tidied_schedulePurge n).isShutDown.trans h

/-- A node is stopped by its stop. -/
theorem isShutDown_shutDown (n : Node) : n.shutDown.isShutDown = true := by
  unfold shutDown
  split
  next h => exact h
  next => rfl

end Node

namespace Cluster

variable {scan heldScan : Registry.Scan} {lastly : Job → WorkEnd}

/-! ### Between two steps -/

/-- What holds of every cluster between two steps: the workers rest, every node is fit, and what
was stopped was drained. -/
structure Composed (c : Cluster Registry) : Prop where
  resting : c.Resting
  sized : c.Sized
  drains : ∀ k n, c.node? k = some n → n.pool.Drains

/-- Nodes that have just started are composed. -/
theorem composed_of_new {now : Nat} {retention : Option Nat} {nodes : List (Option Node)}
    (hnodes : ∀ n, some n ∈ nodes → ∃ settings priority work,
      Node.new settings retention priority work = .ok n) :
    Composed { now, queue := { retention }, nodes } := by
  refine ⟨resting_of_new hnodes, sized_of_new ?_, ?_⟩
  · intro n hn
    obtain ⟨settings, priority, work, hnew⟩ := hnodes n hn
    exact Node.started_of_new hnew
  · intro k n hn
    obtain ⟨settings, priority, work, hnew⟩ := hnodes n (mem_of_node? hn)
    obtain ⟨-, -, -, -, -, hopen, -⟩ := Node.new_eq_ok hnew
    exact Pool.drains_of_open hopen

/-- The workers of a stopped node leave the queue alone, and change nothing of the node but its
pool. -/
theorem settle_of_stopped (service : SharedQueue Registry) {site : Site Registry}
    (h : site.node.pool.Stopped) :
    ∃ pool, Pool.WindsDown site.node.pool pool ∧
      settle service site = { site with node := { site.node with pool } } := by
  obtain ⟨hqueue, hwinds⟩ := h.settle (hook service site.node) site.queue
  refine ⟨_, hwinds, ?_⟩
  simp only [settle]
  rw [hqueue]

/-- The workers of a stopped pool have nothing to take. -/
theorem drains_settle (service : SharedQueue Registry) {site : Site Registry}
    (h : site.node.pool.Drains) (hsound : site.node.pool.Sound) :
    (settle service site).node.pool.Drains :=
  h.windsDown (Pool.sound_settle (hook service site.node) hsound site.queue).2
    fun hs => (hs.settle (hook service site.node) site.queue).2

/-- A deed leaves a pool that was stopped drained. -/
theorem drains_deed (hscan : ∀ ids, (scan ids).Perm ids) {c : Cluster Registry} {s : Step}
    {k : Nat} {f : Site Registry → Site Registry} {n : Node}
    (hdeed : c.deed? scan heldScan lastly s = some (k, f)) (hn : c.node? k = some n)
    (hnamed : n.Named) (hkeyed : c.queue.Keyed) (h : n.pool.Drains) :
    (f (c.site n)).node.pool.Drains := by
  have hshutDown (n : Node) (h : n.pool.Drains) : n.shutDown.pool.Drains := by
    unfold Node.shutDown
    split
    · exact h
    · exact Pool.drains_shutDown h
  -- One case for each operation of a node, as `node_deed` lists them.
  refine node_deed Node.lasts_drains (fun _ h => h) ?_ hshutDown ?_ ?_ ?_ hscan hdeed hn hnamed
    hkeyed h
  · exact fun n m how h hm => h.windsDown rfl fun _ => .single (.ends hm how)
  · exact fun n h => (hshutDown n h).windsDown (Pool.isShutDown_endAll lastly _)
      fun _ => Pool.windsDown_endAll lastly _
  · exact fun n job ticket pool _ _ hsubmit => Pool.drains_submit hsubmit
  · intro now site h _
    obtain ⟨-, -, hdrains⟩ := Node.claim_induction (P := fun _ n => n.pool.Drains)
      (fun _ _ _ _ _ _ hsubmit => Pool.drains_submit hsubmit) scan now h
    exact hdrains

/-- Every step keeps a composed cluster composed. -/
theorem Composed.step (hscan : ∀ ids, (scan ids).Perm ids) (heldScan : Registry.Scan)
    (lastly : Job → WorkEnd) {c : Cluster Registry} (h : c.Composed) (s : Step) :
    (c.step (shared scan heldScan lastly) s).2.Composed := by
  refine ⟨h.resting.step scan heldScan lastly s, sized_step hscan heldScan lastly h.sized s, ?_⟩
  refine (step_sites (P := fun n => n.pool.Drains) (Q := fun _ => True) scan heldScan lastly ?_
    h.drains trivial).1
  intro k f n hdeed hn
  have hnamed := (h.sized.nodes k n hn).named
  have hdrains := drains_deed hscan hdeed hn hnamed h.sized.keyed (h.drains k n hn)
  exact ⟨drains_settle _ hdrains (fit_deed hscan h.sized hdeed hn).sound, trivial⟩

/-- A deed leaves a node that was stopped so. -/
theorem isShutDown_deed (hscan : ∀ ids, (scan ids).Perm ids) {c : Cluster Registry} {s : Step}
    {k : Nat} {f : Site Registry → Site Registry} {n : Node}
    (hdeed : c.deed? scan heldScan lastly s = some (k, f)) (hn : c.node? k = some n)
    (hsized : c.Sized) (h : n.isShutDown = true) : (f (c.site n)).node.isShutDown = true := by
  refine node_deed Node.lasts_isShutDown (fun _ h => h) (fun _ _ _ h _ => h)
    (fun n _ => n.isShutDown_shutDown) (fun n _ => n.isShutDown_shutDown)
    (fun _ _ _ _ h _ _ => h) ?_ hscan hdeed hn (hsized.nodes k n hn).named hsized.keyed h
  intro now site h _
  obtain ⟨-, -, hdown⟩ := Node.claim_induction (P := fun _ n => n.isShutDown = true)
    (fun _ _ _ _ _ h _ => h) scan now h
  exact hdown

/-- A node that was stopped stays so, for as long as it is there. -/
theorem isShutDown_step (hscan : ∀ ids, (scan ids).Perm ids) (heldScan : Registry.Scan)
    (lastly : Job → WorkEnd) {c : Cluster Registry} (hsized : c.Sized) {k : Nat}
    (h : ∀ n, c.node? k = some n → n.isShutDown = true) (s : Step) {n' : Node}
    (hn' : (c.step (shared scan heldScan lastly) s).2.node? k = some n') :
    n'.isShutDown = true := by
  -- The step does nothing, sets the clock, drops a node, or is an operation at one node.
  rcases step_cases scan heldScan lastly c s with
    hc' | ⟨now, -, hc'⟩ | ⟨j, -, hc'⟩ | ⟨j, f, n, hdeed, hn, hreplaces, -⟩
  · rw [hc'] at hn'
    exact h n' hn'
  · rw [hc'] at hn'
    exact h n' hn'
  · rw [hc'] at hn'
    exact h n' (node?_of_drop hn')
  · rw [hreplaces.node? (lt_length_of_node? hn)] at hn'
    split at hn'
    next hkj =>
      subst hkj
      cases hn'
      exact isShutDown_deed hscan hdeed hn hsized (h n hn)
    next => exact h n' hn'

/-- The two steps that stop a node. -/
def Step.stops (k : Nat) : Step → Prop
  | .shutDown j | .halt j => j = k
  | _ => False

/-- After the step that stops it, the node of that place is stopped, if there is one. -/
theorem isShutDown_of_stops {c : Cluster Registry} {k : Nat} {s : Step} (h : s.stops k) {n' : Node}
    (hn' : (c.step (shared scan heldScan lastly) s).2.node? k = some n') :
    n'.isShutDown = true := by
  -- Both ways to stop are a request that changes the node only.
  have hrequest (change : Node → Node) (hchange : ∀ n, (change n).isShutDown = true)
      (hn' : (c.request (shared scan heldScan lastly) k (fun _ => .flag true)
        (Act.change change)).2.node? k = some n') : n'.isShutDown = true := by
    cases hn : c.node? k with
    | none =>
      rw [request_of_none hn, hn] at hn'
      cases hn'
    | some n =>
      rw [(request_replaces hn _ _).node? (lt_length_of_node? hn), if_pos rfl] at hn'
      cases hn'
      exact hchange n
  cases s with
  | shutDown j =>
    obtain rfl : j = k := h
    exact hrequest (·.stop lastly) (fun n => n.isShutDown_shutDown) hn'
  | halt j =>
    obtain rfl : j = k := h
    exact hrequest (·.shutDown) Node.isShutDown_shutDown hn'
  | submit | cancel | status | reconcile | release | drop | setClock => exact h.elim

/-! ### What is left of a node -/

/-- What is left of the `k`-th node of a cluster after its stop. -/
structure Retired (scan heldScan : Registry.Scan) (lastly : Job → WorkEnd) (k : Nat) (n : Node)
    (c : Cluster Registry) : Prop where
  isShutDown : n.isShutDown = true
  /-- A pass changes nothing. -/
  reconcile : c.step (shared scan heldScan lastly) (.reconcile k) = (.unit, c)
  /-- Every job is refused, and nothing changes. -/
  submit : ∀ job, c.step (shared scan heldScan lastly) (.submit k job)
    = (.refused .poolShutDown, c)
  /-- Whatever is done at the node does not reach the shared queue, but for two requests of
  clients. So the outcomes of the jobs that the node still holds are not reported any more. -/
  silent : ∀ s f, c.deed? scan heldScan lastly s = some (k, f) →
    (∀ id credential, s ≠ .cancel k id credential) →
      (∀ id credential, s ≠ .status k id credential) →
      (c.step (shared scan heldScan lastly) s).2.queue = c.queue
  /-- A job that is still held, and whose record has not ended, can be canceled by a caller who may
  do so. Its record ends as canceled, the node lets go of it, and its ticket has finished. -/
  cancel : ∀ {id t r credential}, n.ticket? id = some t → c.queue.records.find? id = some r →
    r.isFinal = false → t.job.admits credential = true → r.status.job.admits credential = true →
      let result := c.step (shared scan heldScan lastly) (.cancel k id credential)
      let canceled := r.cancel c.now Node.cancelReason true
      result.1 = .unit ∧ canceled.stage = .canceled ∧
        (∀ id', result.2.queue.records.find? id'
          = if id' = id then some canceled else c.queue.records.find? id') ∧
        ∃ m n', n.held.find? id = some m ∧ result.2.node? k = some n' ∧
          n'.held = n.held.erase id ∧ n'.pool.hasFinished m = true

section
variable {c : Cluster Registry} {k : Nat} {n : Node}

/-- A node that was stopped was drained. -/
theorem Composed.stopped (h : c.Composed) (hn : c.node? k = some n) (hdown : n.isShutDown = true) :
    n.pool.Stopped :=
  h.drains k n hn ((h.sized.nodes k n hn).stopped.symm.trans hdown)

/-- At a stopped node the queue is what the operation left, because the workers add nothing to it.
-/
theorem queue_step_of_isShutDown (hscan : ∀ ids, (scan ids).Perm ids) (h : c.Composed)
    (hn : c.node? k = some n) (hdown : n.isShutDown = true) {s : Step}
    {f : Site Registry → Site Registry} (hdeed : c.deed? scan heldScan lastly s = some (k, f)) :
    (c.step (shared scan heldScan lastly) s).2.queue = c.queue ∨
      (c.step (shared scan heldScan lastly) s).2.queue = (f (c.site n)).queue := by
  rcases step_cases scan heldScan lastly c s with
    hc' | ⟨now, rfl, -⟩ | ⟨j, rfl, -⟩ | ⟨j, f', n', hdeed', hn', hreplaces, -⟩
  · exact .inl (congrArg Cluster.queue hc')
  · cases hdeed
  · cases hdeed
  · obtain ⟨rfl, rfl⟩ := Prod.mk.inj (Option.some.inj (hdeed.symm.trans hdeed'))
    cases hn.symm.trans hn'
    have hfit := h.sized.nodes k n hn
    have hfit' := fit_deed hscan h.sized hdeed hn
    have hdrains := drains_deed hscan hdeed hn hfit.named h.sized.keyed (h.drains k n hn)
    have hstopped := hdrains
      (hfit'.stopped.symm.trans (isShutDown_deed hscan hdeed hn h.sized hdown))
    obtain ⟨pool, -, hsettle⟩ := settle_of_stopped (Registry.service scan c.now) hstopped
    -- The workers of a stopped pool find nothing to do, so the queue stays as the deed left it.
    right
    rw [hreplaces.queue, hsettle]

/-- A stopped node refuses a job before it looks at it. -/
theorem run_submit_of_isShutDown (now : Nat) (job : Job) (site : Site Registry)
    (hdown : site.node.isShutDown = true) :
    (Node.submit (Registry.service scan now) job).run site
      = (.error (.refused .poolShutDown), site) := by
  unfold Node.submit
  rw [Act.run_bind_ok (Act.run_node site), if_pos hdown]
  rfl

/-- A stopped node makes no pass. -/
theorem run_reconcile_of_isShutDown (now : Nat) (site : Site Registry)
    (hdown : site.node.isShutDown = true) :
    (Node.reconcile (Registry.service scan now) heldScan now).run site = (.ok (), site) := by
  simp only [Node.reconcile, Node.pass]
  rw [Act.run_swallow, Act.run_bind_ok (Act.run_node site), if_pos hdown]
  rfl

/-- A request to cancel a job that a stopped node still holds ends its record and its ticket, and
the node lets go of it. -/
theorem step_cancel_of_isShutDown (h : c.Composed) (hn : c.node? k = some n)
    (hdown : n.isShutDown = true) {id : String} {t : Ticket} {r : Record}
    {credential : Option String} (ht : n.ticket? id = some t)
    (hr : c.queue.records.find? id = some r) (hopen : r.isFinal = false)
    (hticket : t.job.admits credential = true) (hrecord : r.status.job.admits credential = true) :
    let result := c.step (shared scan heldScan lastly) (.cancel k id credential)
    let canceled := r.cancel c.now Node.cancelReason true
    result.1 = .unit ∧ canceled.stage = .canceled ∧
      (∀ id', result.2.queue.records.find? id'
        = if id' = id then some canceled else c.queue.records.find? id') ∧
      ∃ m n', n.held.find? id = some m ∧ result.2.node? k = some n' ∧
        n'.held = n.held.erase id ∧ n'.pool.hasFinished m = true := by
  intro result canceled
  obtain ⟨m, hm, hnumber⟩ := Node.ticket?_eq_some_iff.1 ht
  have hheld : n.held.contains id = true := by
    rw [Table.contains, hm]
    rfl
  -- What the request leaves before the workers act.
  let after : Site Registry :=
    { node := { n with pool := (n.pool.cancel m).2, held := n.held.erase id }
      queue := ((c.queue.cancel c.now id Node.cancelReason false).2.cancel c.now id
        Node.cancelReason true).2 }
  have hrun : (Node.cancel (Registry.service scan c.now) id credential).run (c.site n)
      = (.ok (), after) := by
    refine (Node.run_cancel_of_admits scan c.now hr hrecord ?_).trans ?_
    · intro t' ht'
      cases ht.symm.trans ht'
      exact hticket
    · rw [show (c.site n).node = n from rfl, if_pos hheld, Node.letGo_eq hm]
      rfl
  have hstopped : after.node.pool.Stopped := (h.stopped hn hdown).winds (.cancels n.pool m)
  obtain ⟨pool, hwinds, hsettle⟩ := settle_of_stopped (Registry.service scan c.now) hstopped
  -- The workers only wind down, so they touch neither the queue nor what the node holds.
  have hresult : result = (.unit, { c with
      queue := after.queue
      nodes := c.nodes.set k (some { after.node with pool })
      starts := c.starts ++ begins scan c.now k after }) := by
    refine (request_eq hn (fun _ => .unit)
      (Node.cancel (Registry.service scan c.now) id credential)).trans ?_
    rw [hrun, hsettle]
    rfl
  refine ⟨congrArg Prod.fst hresult, Record.stage_cancel_of_open hopen .., ?_,
    m, { after.node with pool }, hm, ?_, rfl, ?_⟩
  · intro id'
    rw [hresult]
    show after.queue.records.find? id' = _
    -- Two operations on the record, the second of which overrides the first.
    rw [Registry.find?_cancel, Registry.find?_cancel]
    split
    next hid =>
      rw [hid, hr, Option.map_some, Option.map_some, Record.cancel_cancel]
    next => rfl
  · rw [hresult]
    simp only [node?]
    simp [lt_length_of_node? hn]
  · -- The ticket was cancelled before the workers acted.
    have hcancelled : (n.pool.cancel m).2.tickets[m]? = some t.cancel.2 := by
      rw [Pool.cancel_snd, Pool.modifyTicket, Pool.getElem?_modify, if_pos rfl, hnumber]
      rfl
    obtain ⟨t', ht', hc⟩ := hwinds.closes.ticket hcancelled
    rw [hc.eq_of_isFinished (Ticket.isFinished_cancel t)] at ht'
    exact (Pool.hasFinished_eq ht').trans (Ticket.isFinished_cancel t)

/-- What is left of a node that was stopped, in any cluster between two steps. -/
theorem Composed.retired (hscan : ∀ ids, (scan ids).Perm ids) (heldScan : Registry.Scan)
    (lastly : Job → WorkEnd) (h : c.Composed) (hn : c.node? k = some n)
    (hdown : n.isShutDown = true) : Retired scan heldScan lastly k n c where
  isShutDown := hdown
  reconcile := request_of_node_same hn (h.resting k n hn) (fun _ => .unit)
    (run_reconcile_of_isShutDown c.now (c.site n) hdown)
  submit job := request_of_node_same hn (h.resting k n hn) (fun _ => .unit)
    (run_submit_of_isShutDown c.now job (c.site n) hdown)
  silent s f hdeed hcancel hstatus := by
    -- What happens at a stopped node, case by case: only a request to cancel or to show a job can
    -- reach the queue.
    rcases queue_step_of_isShutDown hscan h hn hdown hdeed with hqueue | hqueue
    · exact hqueue
    · rw [hqueue]
      cases s with
      | submit _ job =>
        cases hdeed
        exact congrArg (·.2.queue) (run_submit_of_isShutDown c.now job (c.site n) hdown)
      | cancel _ id credential =>
        cases hdeed
        exact absurd rfl (hcancel id credential)
      | status _ id credential =>
        cases hdeed
        exact absurd rfl (hstatus id credential)
      | reconcile _ =>
        cases hdeed
        exact congrArg (·.2.queue) (run_reconcile_of_isShutDown c.now (c.site n) hdown)
      | release _ _ _ _ =>
        obtain ⟨start, -, heq⟩ := Option.map_eq_some_iff.1 hdeed
        cases heq
        rfl
      | shutDown _ | halt _ =>
        cases hdeed
        rfl
      | drop _ | setClock _ => cases hdeed
  cancel := step_cancel_of_isShutDown h hn hdown

end

/-! ### Runs -/

/-- A node that is stopped at some point of a run is retired at every later one. -/
theorem run_retired (hscan : ∀ ids, (scan ids).Perm ids) (heldScan : Registry.Scan)
    (lastly : Job → WorkEnd) {c : Cluster Registry} (h : c.Composed) (before : List Step)
    {stop : Step} {k : Nat} (hstop : stop.stops k) (after : List Step) {n : Node}
    (hn : (run (shared scan heldScan lastly) (before ++ stop :: after) c).2.node? k = some n) :
    Retired scan heldScan lastly k n
      (run (shared scan heldScan lastly) (before ++ stop :: after) c).2 := by
  have hbefore : (run (shared scan heldScan lastly) before c).2.Composed :=
    run_induction (P := Composed) (fun _ s h => h.step hscan heldScan lastly s) before h
  rw [run_append, run_cons] at hn ⊢
  -- Composed clusters stay composed, and what was stopped stays stopped.
  obtain ⟨hafter, hdown⟩ := run_induction
    (P := fun c => c.Composed ∧ ∀ n, c.node? k = some n → n.isShutDown = true)
    (fun _ s h => ⟨h.1.step hscan heldScan lastly s,
      fun _ => isShutDown_step hscan heldScan lastly h.1.sized h.2 s⟩)
    after ⟨hbefore.step hscan heldScan lastly stop, fun _ => isShutDown_of_stops hstop⟩
  exact hafter.retired hscan heldScan lastly hn (hdown n hn)

/-- What a stop leaves, of a pool and of a node.

Take a pool that has just been made, for any settings, work and priority, with any hook, and any
run of callers, ends of work and single acts of workers in any order. Stop it at any point at
which it was not stopped before, and go on in the same way. From then on the hook is not called,
which is why its state stays, and all that `Pool.Aftermath` lists holds. A hook must not crash,
and while it does not, no job is abandoned.

Take nodes that have just started, clustered or not, with any settings, priorities and work, next
to an empty queue, and any run of them in which a node is stopped, with the work that goes on
ended or not. As long as the node is there, all that `Retired` lists holds. -/
theorem stop_final :
    (∀ {σ : Type} (hook : Pool.Hook σ) (lastly : Job → WorkEnd) (settings : PoolSettings)
        (work : Job → Work) (priority : Priority) {new p q : Pool} {s₀ s s' : σ},
      Pool.new settings work priority = .ok new → Pool.Reaches hook lastly (new, s₀) (p, s) →
        p.isShutDown = false → Pool.Reaches hook lastly (p.shutDown, s) (q, s') →
          s' = s ∧ Pool.Aftermath lastly p q ∧
            ((∀ job s, (hook job s).1 = true) → q.abandoned = [])) ∧
    ∀ {scan : Registry.Scan}, (∀ ids, (scan ids).Perm ids) →
      ∀ (heldScan : Registry.Scan) (lastly : Job → WorkEnd) {now : Nat} {retention : Option Nat}
        {nodes : List (Option Node)},
      (∀ n, some n ∈ nodes → ∃ settings priority work,
        Node.new settings retention priority work = .ok n) →
      ∀ (before : List Step) {stop : Step} {k : Nat}, stop.stops k → ∀ after : List Step,
        let c := (run (shared scan heldScan lastly) (before ++ stop :: after)
          { now, queue := { retention }, nodes }).2
        ∀ n, c.node? k = some n → Retired scan heldScan lastly k n c := by
  -- The stop of a pool, and then the stop of a node among others.
  refine ⟨?_, ?_⟩
  · intro σ hook lastly settings work priority new p q s₀ s s' hnew hbefore hopen hafter
    obtain ⟨hstate, hwinds⟩ := (Pool.stopped_shutDown hopen).windsDown_reaches hafter
    have hbooked := Pool.booked_of_reaches hnew hbefore
    have haftermath : Pool.Aftermath lastly p q := Pool.aftermath hbooked hopen hwinds
    refine ⟨hstate, haftermath, fun hhook => ?_⟩
    have hreaches := (hbefore.tail (.stops p s)).trans hafter
    exact (Pool.noneLost_of_reaches hnew hhook hreaches).2
  · intro scan hscan heldScan lastly now retention nodes hnodes before stop k hstop after c n hn
    exact run_retired hscan heldScan lastly (composed_of_new hnodes) before hstop after hn

/-- A node that runs its own jobs is stopped while one of them runs and another one waits. -/
theorem stop_final_halted :
    (let p := Pool.cancelledWaiting.1
      let q := p.shutDown.endAll .standard
      p.isShutDown = false ∧ Pool.Aftermath .standard p q ∧ q.abandoned = []) ∧
    let before : List Step :=
      [.submit 1 { id := "a", submittedAt := 5 }, .submit 1 { id := "b", submittedAt := 5 }]
    let c := (run (shared id id .standard) (before ++ .halt 1 :: [.setClock 9])
      { now := 5, queue := { retention := some defaultRetention }, nodes := mixedPair }).2
    ∃ n t r, c.node? 1 = some n ∧ n.ticket? "a" = some t ∧
      c.queue.records.find? "a" = some r ∧ r.isFinal = false ∧ t.job.admits none = true ∧
        r.status.job.admits none = true ∧ Retired id id .standard 1 n c := by
  constructor
  · intro p q
    have hnew : Pool.new (.ofWorkers 1) Pool.oneWorker.work .latest = .ok Pool.oneWorker := rfl
    have hreaches :
        Pool.Reaches Pool.listing .standard (Pool.oneWorker, []) Pool.cancelledWaiting :=
      Pool.reaches_run Pool.listing .standard _ Pool.oneWorker []
    -- The pool is stopped while one ticket runs and one is cancelled and still queued.
    have hopen : p.isShutDown = false := by decide +kernel
    have hreaches' : Pool.Reaches Pool.listing .standard (p.shutDown, Pool.cancelledWaiting.2)
        (q, Pool.cancelledWaiting.2) :=
      (Pool.windsDown_endAll .standard _).reaches Pool.listing .standard _
    obtain ⟨-, haftermath, habandoned⟩ :=
      stop_final.1 Pool.listing .standard _ _ _ hnew hreaches hopen hreaches'
    exact ⟨hopen, haftermath, habandoned fun _ _ => rfl⟩
  · intro before c
    -- The node holds "a", which runs, when it is halted.
    have hthere : (c.node? 1).any (fun n => (n.ticket? "a").any (·.job.admits none)
        && (c.queue.records.find? "a").any
          fun r => !r.isFinal && r.status.job.admits none) = true := by decide +kernel
    obtain ⟨n, hn, hheld⟩ := (Option.any_eq_true ..).1 hthere
    obtain ⟨hticket, hrecord⟩ := (Bool.and_eq_true ..).mp hheld
    obtain ⟨t, ht, hadmits⟩ := (Option.any_eq_true ..).1 hticket
    obtain ⟨r, hr, hopen⟩ := (Option.any_eq_true ..).1 hrecord
    obtain ⟨hopen, hadmits'⟩ := (Bool.and_eq_true ..).mp hopen
    refine ⟨n, t, r, hn, ht, hr, by simpa using hopen, hadmits, hadmits', ?_⟩
    have hstop : Step.stops 1 (.halt 1) := rfl
    exact stop_final.2 (fun _ => .rfl) id .standard started_mixedPair before hstop [.setClock 9]
      n hn

end Cluster

end JobScheduling
