import JobScheduling.Proofs.Node.Calls

/-!
# `JobScheduling.Proofs.Node.Matches`: the work of a node next to two queues

A node can do the same work next to two shared queues. `Act.Matches R` says that it ends in
the same way next to both, and that the relation `R` between the two sites holds after it if
it held before. There is one lemma for each construction of `Act`.

`Node.Respects R service service'` lists what a relation must be kept by: the calls on the
two queues that every request makes, and the changes of a node that are made on the way. Then
the requests and the pass match, each by a lemma that follows its definition. The calls that
add and claim jobs, and the taking on of jobs, are hypotheses of the lemmas about submissions
and claims, so a relation may fail to be kept by them and still be kept by all the rest.

There are two uses. With two different queues and a relation between their states this is a
simulation. With one queue, and the same site on both sides, `R` is a property of sites that
the work keeps (`Act.keeps_of_matches`). `Node.Preserves` lists what must keep such a property,
next to the queue in memory.
-/

set_option autoImplicit false

namespace JobScheduling

namespace Act

variable {σ τ α β : Type} {R : Site σ → Site τ → Prop}

/-- The same end, and related sites. -/
def Agree (R : Site σ → Site τ → Prop) (x : Except Fault α × Site σ)
    (y : Except Fault α × Site τ) : Prop :=
  x.1 = y.1 ∧ R x.2 y.2

/-- From related sites the work of both sides ends in the same way, at related sites. -/
def Matches (R : Site σ → Site τ → Prop) (act : Act σ α) (act' : Act τ α) : Prop :=
  ∀ s s', R s s' → Agree R (act.run s) (act'.run s')

/-- An act that only gives a value touches neither state. -/
theorem matches_pure (a : α) : Matches R (pure a) (pure a) := fun _ _ h => ⟨rfl, h⟩

/-- Both sides are refused with one error. -/
theorem matches_refuse (error : Error) :
    Matches R (refuse error : Act σ α) (refuse error : Act τ α) := fun _ _ h => ⟨rfl, h⟩

/-- A sequence agrees where its first part does, and its second part from there. The relation may
become a weaker one on the way. -/
theorem agree_bind {R' : Site σ → Site τ → Prop} {act : Act σ α} {act' : Act τ α}
    {next : α → Act σ β} {next' : α → Act τ β} {s : Site σ} {s' : Site τ}
    (h : Agree R (act.run s) (act'.run s')) (hweaker : ∀ s s', R s s' → R' s s')
    (hnext : ∀ a s s', R s s' → Agree R' ((next a).run s) ((next' a).run s')) :
    Agree R' ((act >>= next).run s) ((act' >>= next').run s') := by
  obtain ⟨hend, hR⟩ := h
  rw [Agree, run_bind, run_bind]
  rcases hrun : act.run s with ⟨e | a, t⟩ <;> rcases hrun' : act'.run s' with ⟨e' | a', t'⟩ <;>
    rw [hrun, hrun'] at hend hR <;> cases hend
  · exact ⟨rfl, hweaker t t' hR⟩
  · exact hnext a t t' hR

/-- A sequence matches where its first part does, and its second part from there. -/
theorem matches_bind {act : Act σ α} {act' : Act τ α} {next : α → Act σ β}
    {next' : α → Act τ β} (h : Matches R act act') (hnext : ∀ a, Matches R (next a) (next' a)) :
    Matches R (act >>= next) (act' >>= next') :=
  fun s s' hs => agree_bind (h s s' hs) (fun _ _ h => h) hnext

/-- A condition that does not read the state sends both sides the same way. -/
theorem matches_ite {p : Prop} [Decidable p] {act act₂ : Act σ α} {act' act₂' : Act τ α}
    (h : p → Matches R act act') (h₂ : ¬ p → Matches R act₂ act₂') :
    Matches R (if p then act else act₂) (if p then act' else act₂') := by
  split
  next hp => exact h hp
  next hp => exact h₂ hp

/-- An error that is caught is caught on both sides. -/
theorem matches_attempt {act : Act σ α} {act' : Act τ α} (h : Matches R act act') :
    Matches R (attempt act) (attempt act') := by
  intro s s' hs
  obtain ⟨hend, hR⟩ := h s s' hs
  simp only [attempt, run] at hend hR ⊢
  rcases hrun : act s with ⟨(e | e) | a, t⟩ <;> rcases hrun' : act' s' with ⟨(e' | e') | a', t'⟩ <;>
    rw [hrun, hrun'] at hend hR <;> cases hend <;> exact ⟨rfl, hR⟩

/-- An error that is thrown away leaves what the two runs left. -/
theorem matches_swallow {act : Act σ Unit} {act' : Act τ Unit} (h : Matches R act act') :
    Matches R (swallow act) (swallow act') :=
  fun s s' hs => ⟨rfl, (h s s' hs).2⟩

/-- A loop matches when its body does, for each element of the list. -/
theorem matches_forEach_of_mem {work : β → Act σ Unit} {work' : β → Act τ Unit} {l : List β}
    (h : ∀ b ∈ l, Matches R (work b) (work' b)) :
    Matches R (forEach work l) (forEach work' l) := by
  induction l with
  | nil => exact matches_pure ()
  | cons b l ih =>
    exact matches_bind (h b List.mem_cons_self) fun _ =>
      ih fun b hb => h b (List.mem_cons_of_mem _ hb)

/-- The instances match item by item, whatever the items are. -/
theorem matches_forEach {work : β → Act σ Unit} {work' : β → Act τ Unit}
    (h : ∀ b, Matches R (work b) (work' b)) (l : List β) :
    Matches R (forEach work l) (forEach work' l) :=
  matches_forEach_of_mem fun b _ => h b

/-- The same for a loop that collects its results. -/
theorem matches_mapEach {γ : Type} {work : β → Act σ γ} {work' : β → Act τ γ}
    (h : ∀ b, Matches R (work b) (work' b)) (l : List β) :
    Matches R (mapEach work l) (mapEach work' l) := by
  induction l with
  | nil => exact matches_pure []
  | cons b l ih => exact matches_bind (h b) fun c => matches_bind ih fun cs => matches_pure _

/-- A change of the node on both sides. -/
theorem matches_change {f : Node → Node}
    (h : ∀ s s', R s s' → R { s with node := f s.node } { s' with node := f s'.node }) :
    Matches R (change f : Act σ Unit) (change f : Act τ Unit) :=
  fun s s' hs => ⟨rfl, h s s' hs⟩

/-- The node is the same on both sides, so what is done with it may depend on it. -/
theorem matches_node (h : ∀ s s', R s s' → s.node = s'.node) :
    Matches R (node : Act σ Node) (node : Act τ Node) :=
  fun s s' hs => ⟨congrArg Except.ok (h s s' hs), hs⟩

/-- Work that matches itself under a property of sites keeps the property. -/
theorem keeps_of_matches {P : Site σ → Prop} {act : Act σ α}
    (h : Matches (fun s s' => s = s' ∧ P s) act act) {s : Site σ} (hs : P s) : P (act.run s).2 :=
  (h s s ⟨rfl, hs⟩).2.2

end Act

namespace Node

open Act

variable {σ τ : Type}

/-- A relation between sites that holds on as long as no job is added, claimed or taken on. -/
structure Respects (R : Site σ → Site τ → Prop) (service : SharedQueue σ)
    (service' : SharedQueue τ) : Prop where
  node : ∀ s s', R s s' → s.node = s'.node
  get : ∀ id external,
    Matches R (ask service (service.get id external)) (ask service' (service'.get id external))
  finish : ∀ id ending,
    Matches R (ask service (service.finish id ending)) (ask service' (service'.finish id ending))
  cancel : ∀ id reason immediate,
    Matches R (ask service (service.cancel id reason immediate))
      (ask service' (service'.cancel id reason immediate))
  cancelOverdue : ∀ timeout abandoned reason,
    Matches R (ask service (service.cancelOverdue timeout abandoned reason))
      (ask service' (service'.cancelOverdue timeout abandoned reason))
  toCancel : Matches R (ask service service.toCancel) (ask service' service'.toCancel)
  waitingCount : Matches R (ask service service.waitingCount) (ask service' service'.waitingCount)
  completedCount :
    Matches R (ask service service.completedCount) (ask service' service'.completedCount)
  averageDuration :
    Matches R (ask service service.averageDuration) (ask service' service'.averageDuration)
  sinceCheck : ∀ id,
    Matches R (ask service (service.sinceCheck id)) (ask service' (service'.sinceCheck id))
  cancelTicket : ∀ id s s', R s s' →
    R { s with node := s.node.cancelTicket id } { s' with node := s'.node.cancelTicket id }
  drop : ∀ id s s', R s s' →
    R { s with node := s.node.drop id } { s' with node := s'.node.drop id }
  schedulePurge : ∀ s s', R s s' →
    R { s with node := s.node.schedulePurge } { s' with node := s'.node.schedulePurge }

section
variable {R : Site σ → Site τ → Prop} {service : SharedQueue σ} {service' : SharedQueue τ}

/-! ### Requests -/

/-- Who may access a job is read off the job alone. -/
theorem matches_authorize (job : Job) (credential : Option String) :
    Matches R (authorize job credential) (authorize job credential) :=
  matches_ite (fun _ => matches_pure ()) fun _ => matches_refuse _

/-- The node cancels the ticket and lets go of it, and then one request goes to the service. -/
theorem Respects.matches_cancelHeld (h : Respects R service service') (id reason : String) :
    Matches R (cancelHeld service id reason) (cancelHeld service' id reason) := by
  refine matches_bind (matches_node h.node) fun n => matches_ite (fun _ => ?_) fun _ => ?_
  · have hletGo := matches_change (f := fun n => (n.cancelTicket id).drop id) fun s s' hs =>
      h.drop id _ _ (h.cancelTicket id s s' hs)
    refine matches_bind hletGo fun _ => ?_
    exact matches_bind (h.cancel id reason true) fun _ => matches_pure _
  · exact matches_pure _

/-- A cancel request reads the record, asks for the cancellation, and cancels the ticket held here.
-/
theorem Respects.matches_cancel (h : Respects R service service') (id : String)
    (credential : Option String) :
    Matches R (Node.cancel service id credential) (Node.cancel service' id credential) := by
  refine matches_bind (h.get id false) fun status => ?_
  refine matches_bind (matches_authorize status.job credential) fun _ => ?_
  refine matches_bind (matches_node h.node) fun n => ?_
  -- What is done once access is granted, with or without a ticket of this node.
  have hrest : Matches R
      (ask service (service.cancel id cancelReason false) >>= fun _ =>
        cancelHeld service id cancelReason >>= fun _ => pure ())
      (ask service' (service'.cancel id cancelReason false) >>= fun _ =>
        cancelHeld service' id cancelReason >>= fun _ => pure ()) :=
    matches_bind (h.cancel id cancelReason false) fun _ =>
      matches_bind (h.matches_cancelHeld id cancelReason) fun _ => matches_pure ()
  cases n.ticket? id with
  | none => exact hrest
  | some ticket => exact matches_bind (matches_authorize ticket.job credential) fun _ => hrest

/-- A status request reads one record. -/
theorem Respects.matches_status (h : Respects R service service') (id : String)
    (credential : Option String) :
    Matches R (Node.status service id credential) (Node.status service' id credential) := by
  refine matches_bind (h.get id true) fun status => ?_
  refine matches_bind (matches_authorize status.job credential) fun _ => ?_
  refine matches_ite (fun _ => ?_) fun _ => matches_pure _
  refine matches_bind h.completedCount fun completed => ?_
  refine matches_bind h.averageDuration fun average => ?_
  exact matches_bind (matches_node h.node) fun n => matches_pure _

/-- A submission also adds a job, and may take it on. -/
theorem Respects.matches_submit (h : Respects R service service') (job : Job)
    (hadd : Matches R (ask service (service.add job)) (ask service' (service'.add job)))
    (hhold : Matches R (hold job) (hold job)) :
    Matches R (submit service job) (submit service' job) := by
  refine matches_bind (matches_node h.node) fun n => ?_
  refine matches_ite (fun _ => matches_refuse _) fun _ => ?_
  refine matches_ite (fun _ => matches_refuse _) fun _ => ?_
  -- The count is an answer of the service, so both sides go on from one number.
  refine matches_bind h.waitingCount fun waiting => ?_
  refine matches_bind (matches_node h.node) fun n => ?_
  refine matches_ite (fun _ => matches_refuse _) fun _ => ?_
  refine matches_bind hadd fun _ => ?_
  refine matches_bind (matches_node h.node) fun n => ?_
  refine matches_ite (fun _ => matches_pure ()) fun _ => ?_
  -- A submission that the pool of the node refuses takes its record back.
  refine matches_bind (matches_attempt hhold) fun result => ?_
  cases result with
  | ok => exact matches_pure ()
  | error e =>
    exact matches_bind (matches_attempt (h.cancel job.id cancelReason true)) fun _ =>
      matches_refuse e

/-! ### Passes -/

/-- The test whether a job is overdue makes one call, which may be refused. -/
theorem matches_isOverdue (hnode : ∀ s s', R s s' → s.node = s'.node) {id : String}
    (hcheck : Matches R (ask service (service.sinceCheck id))
      (ask service' (service'.sinceCheck id))) (now : Nat) (ticket : Ticket) :
    Matches R (isOverdue service now id ticket) (isOverdue service' now id ticket) := by
  refine matches_bind (matches_node hnode) fun n => ?_
  refine matches_ite (fun _ => matches_pure _) fun _ => ?_
  refine matches_bind (matches_node hnode) fun n => ?_
  refine matches_bind (matches_attempt hcheck) fun since => ?_
  cases since <;> exact matches_pure _

/-- An examination makes no other call than this test. -/
theorem matches_examine (hnode : ∀ s s', R s s' → s.node = s'.node) {id : String}
    (hcheck : Matches R (ask service (service.sinceCheck id))
      (ask service' (service'.sinceCheck id)))
    (hcancel : ∀ s s', R s s' →
      R { s with node := s.node.cancelTicket id } { s' with node := s'.node.cancelTicket id })
    (now : Nat) : Matches R (examine service now id) (examine service' now id) := by
  refine matches_bind (matches_node hnode) fun n => ?_
  cases n.ticket? id with
  | none => exact matches_pure _
  | some ticket =>
    refine matches_ite (fun _ => matches_pure _) fun _ => ?_
    refine matches_bind (matches_isOverdue hnode hcheck now ticket) fun overdue => ?_
    -- The call may have changed the node, so it is read again.
    refine matches_bind (matches_node hnode) fun n => ?_
    refine matches_ite (fun _ => matches_pure _) fun _ => ?_
    refine matches_ite (fun _ => ?_) fun _ => matches_pure _
    exact matches_bind (matches_change hcancel) fun _ => matches_pure _

/-- A held ticket is dropped, and its outcome, if it has one, is reported to the service. -/
theorem Respects.matches_settleHeld (h : Respects R service service') (id : String) :
    Matches R (settleHeld service id) (settleHeld service' id) := by
  refine matches_bind (matches_node h.node) fun n => ?_
  refine matches_bind (matches_change (h.drop id)) fun _ => ?_
  cases (n.ticket? id).bind (·.outcome?) with
  | none => exact matches_pure ()
  | some outcome =>
    -- The outcome decides which request is made. An interruption is not reported.
    refine matches_bind (matches_attempt ?_) fun _ => matches_pure ()
    cases outcome with
    | completed report => exact h.finish id _
    | failed failure => exact h.finish id _
    | cancelled => exact h.cancel id _ _
    | interrupted => exact matches_pure ()

/-- The review of the held tickets matches, because that of each does. -/
theorem Respects.matches_reviewHeld (h : Respects R service service') (scan : Registry.Scan)
    (now : Nat) : Matches R (reviewHeld service scan now) (reviewHeld service' scan now) := by
  refine matches_bind (matches_node h.node) fun n => ?_
  have hexamine (id : String) : Matches R (examine service now id) (examine service' now id) :=
    matches_examine h.node (h.sinceCheck id) (h.cancelTicket id) now
  refine matches_bind (matches_mapEach hexamine _) fun findings => ?_
  have hsettle := matches_forEach h.matches_settleHeld
    ((findings.filter fun finding => finding.2 ≠ .active).map Prod.fst)
  refine matches_ite (fun _ => ?_) fun _ => hsettle
  exact matches_bind (matches_change h.schedulePurge) fun _ => hsettle

/-- A record whose cancellation was asked for elsewhere is stopped on both sides. -/
theorem Respects.matches_stopRequested (h : Respects R service service') (status : Status) :
    Matches R (stopRequested service status) (stopRequested service' status) := by
  refine matches_bind (matches_attempt (h.matches_cancelHeld _ _)) fun result => ?_
  match result with
  | .error _ => exact matches_pure ()
  | .ok true => exact matches_pure ()
  | .ok false =>
    refine matches_ite (fun _ => ?_) fun _ => matches_pure ()
    exact matches_bind (matches_attempt (h.cancel _ _ _)) fun _ => matches_pure ()

/-- A claim also starts jobs and takes them on. -/
theorem Respects.matches_claim (h : Respects R service service')
    (hnext : ∀ n,
      Matches R (ask service (service.startNext n)) (ask service' (service'.startNext n)))
    (hhold : ∀ job, Matches R (hold job) (hold job)) :
    Matches R (claim service) (claim service') := by
  refine matches_bind (matches_node h.node) fun n => ?_
  refine matches_ite (fun _ => ?_) fun _ => matches_pure ()
  refine matches_bind (hnext _) fun claimed => ?_
  exact matches_forEach (fun status => hhold status.job) claimed

/-- The shared part of a pass matches as soon as its claim does. -/
theorem Respects.matches_reviewShared (h : Respects R service service')
    (hclaim : Matches R (claim service) (claim service')) :
    Matches R (reviewShared service) (reviewShared service') := by
  refine matches_bind (matches_node h.node) fun n => ?_
  refine matches_bind (h.cancelOverdue _ _ _) fun _ => ?_
  refine matches_bind h.toCancel fun requested => ?_
  exact matches_bind (matches_forEach h.matches_stopRequested requested) fun _ => hclaim

/-- Only a clustered node reviews the jobs of all nodes. -/
theorem Respects.matches_reconcile (h : Respects R service service') (scan : Registry.Scan)
    (now : Nat) (hshared : ∀ s s', R s s' → s.node.settings.clustered = true →
      Agree R ((reviewShared service).run s) ((reviewShared service').run s')) :
    Matches R (reconcile service scan now) (reconcile service' scan now) := by
  refine matches_swallow (matches_bind (matches_node h.node) fun n => ?_)
  refine matches_ite (fun _ => matches_pure ()) fun _ => ?_
  refine matches_bind (h.matches_reviewHeld scan now) fun _ s s' hs => ?_
  rw [run_bind_ok (run_node s), run_bind_ok (run_node s'), ← h.node s s' hs]
  split
  next hclustered => exact hshared s s' hs hclustered
  next => exact ⟨rfl, hs⟩

end

/-! ### Properties of sites -/

/-- A property of sites that is kept as long as no job is added, claimed or taken on. -/
structure Preserves (scan : Registry.Scan) (now : Nat) (P : Site Registry → Prop) : Prop where
  serve : ∀ request s, (∀ job, request ≠ .add job) → P s →
    P { s with queue := (s.queue.serve scan now request).2 }
  cancelTicket : ∀ id s, P s → P { s with node := s.node.cancelTicket id }
  drop : ∀ id s, P s → P { s with node := s.node.drop id }
  schedulePurge : ∀ s, P s → P { s with node := s.node.schedulePurge }

section
variable {scan : Registry.Scan} {now : Nat} {P : Site Registry → Prop}

/-- A call that changes the queue as a request does which adds no job. -/
theorem Preserves.ask (h : Preserves scan now P) {α : Type} {call : Call Registry α}
    (request : Registry.Request) (hadd : ∀ job, request ≠ .add job)
    (hcall : ∀ q, (call q).2 = (q.serve scan now request).2) :
    Matches (fun s s' => s = s' ∧ P s) (Act.ask (Registry.service scan now) call)
      (Act.ask (Registry.service scan now) call) := by
  rintro s _ ⟨rfl, hs⟩
  refine ⟨rfl, rfl, ?_⟩
  show P { s with queue := (call s.queue).2 }
  rw [hcall]
  exact h.serve request s hadd hs

/-- A property that every operation of the registry preserves is a relation to itself: both sides
are one run. -/
theorem Preserves.respects (h : Preserves scan now P) :
    Respects (fun s s' => s = s' ∧ P s) (Registry.service scan now)
      (Registry.service scan now) where
  node := by
    rintro s _ ⟨rfl, -⟩
    rfl
  get id external := h.ask (.get id external) nofun fun _ => rfl
  finish id ending := by
    cases ending with
    | done report => exact h.ask (.done id report) nofun fun _ => rfl
    | error cause => exact h.ask (.fail id cause) nofun fun _ => rfl
  cancel id reason immediate := h.ask (.cancel id reason immediate) nofun fun _ => rfl
  cancelOverdue timeout abandoned reason :=
    h.ask (.cancelOverdue timeout abandoned reason) nofun fun _ => rfl
  toCancel := h.ask .toCancel nofun fun _ => rfl
  -- A question about all records changes nothing, like one about a record that is missing.
  waitingCount := h.ask (.sinceCheck "") nofun fun _ => rfl
  completedCount := h.ask (.sinceCheck "") nofun fun _ => rfl
  averageDuration := h.ask (.sinceCheck "") nofun fun _ => rfl
  sinceCheck id := h.ask (.sinceCheck id) nofun fun _ => rfl
  cancelTicket id := by
    rintro s _ ⟨rfl, hs⟩
    exact ⟨rfl, h.cancelTicket id s hs⟩
  drop id := by
    rintro s _ ⟨rfl, hs⟩
    exact ⟨rfl, h.drop id s hs⟩
  schedulePurge := by
    rintro s _ ⟨rfl, hs⟩
    exact ⟨rfl, h.schedulePurge s hs⟩

variable {s : Site Registry}

/-- A cancel request keeps what the operations of the registry keep. -/
theorem Preserves.cancel (h : Preserves scan now P) (id : String) (credential : Option String)
    (hs : P s) : P ((Node.cancel (Registry.service scan now) id credential).run s).2 :=
  keeps_of_matches (h.respects.matches_cancel id credential) hs

/-- So does a status request. -/
theorem Preserves.status (h : Preserves scan now P) (id : String) (credential : Option String)
    (hs : P s) : P ((Node.status (Registry.service scan now) id credential).run s).2 :=
  keeps_of_matches (h.respects.matches_status id credential) hs

/-- What a claim keeps as well, a pass keeps. -/
theorem Preserves.reconcile (h : Preserves scan now P) (heldScan : Registry.Scan)
    (hclaim : ∀ s, P s → P ((claim (Registry.service scan now)).run s).2) (hs : P s) :
    P ((Node.reconcile (Registry.service scan now) heldScan now).run s).2 := by
  have hclaim' : Matches (fun s s' => s = s' ∧ P s) (claim (Registry.service scan now))
      (claim (Registry.service scan now)) := by
    rintro s _ ⟨rfl, hs⟩
    exact ⟨rfl, rfl, hclaim s hs⟩
  exact keeps_of_matches (h.respects.matches_reconcile heldScan now fun s s' hs _ =>
    h.respects.matches_reviewShared hclaim' s s' hs) hs

end

end Node

end JobScheduling
