import JobScheduling.Proofs.Pool.Filed

/-!
# `JobScheduling.Proofs.Pool.Counted`: what the counters of a pool count

Each counter counts the tickets in one of the places of `Pool.Filed`. An operation that moves a
ticket moves the counters with it: `counted_f` says so of the operation `f`, next to `filed_f`.
Together they are `Pool.Booked`, which every event keeps (`booked_event`). After the stop of a pool
it is also known which tickets were drained (`Pool.BookedWith`).

No operation subtracts more than there is to subtract, so the counters are what a
pool without a floor at zero would count.
-/

set_option autoImplicit false

namespace JobScheduling

namespace Outcome

def isCompleted : Outcome → Bool
  | completed _ => true
  | _ => false

def isFailed : Outcome → Bool
  | failed _ => true
  | _ => false

def isCancelled : Outcome → Bool
  | cancelled => true
  | _ => false

/-- A cancellation is no interruption, so it is counted among the ended jobs. -/
theorem cancelled_ne_interrupted : cancelled ≠ interrupted := by simp

end Outcome

/-- Work never ends by itself as interrupted. -/
theorem WorkEnd.outcome_ne_interrupted (how : WorkEnd) : how.outcome ≠ .interrupted := by
  cases how <;> simp [outcome]

namespace Counters

variable (o : Outcome) (c : Counters)

/-- The end of a job is no submission. -/
@[simp]
theorem submitted_ended : (c.ended o).submitted = c.submitted := by cases o <;> rfl

/-- The end of a job takes nothing out of the backlog. -/
@[simp]
theorem queued_ended : (c.ended o).queued = c.queued := by cases o <;> rfl

/-- That a worker gets free is counted on its own, not with the outcome. -/
@[simp]
theorem active_ended : (c.ended o).active = c.active := by cases o <;> rfl

/-- Reports are counted as completed jobs. -/
@[simp]
theorem completed_ended :
    (c.ended o).completed = c.completed + if o.isCompleted = true then 1 else 0 := by
  cases o <;> rfl

/-- Failures and crashes are counted as failed jobs. -/
@[simp]
theorem failed_ended : (c.ended o).failed = c.failed + if o.isFailed = true then 1 else 0 := by
  cases o <;> rfl

/-- Cancellations are counted as cancelled jobs. An interruption would be counted there as well, but
no work ends with one. -/
@[simp]
theorem cancelled_ended (h : o ≠ .interrupted) :
    (c.ended o).cancelled = c.cancelled + if o.isCancelled = true then 1 else 0 := by
  cases o with
  | interrupted => exact absurd rfl h
  | completed | failed | cancelled => rfl

end Counters

namespace Pool

/-- The counters of a pool count the tickets of each place. -/
structure Counted (a : Archive) (p : Pool) : Prop where
  submitted : p.counters.submitted = p.tickets.length
  queued : p.counters.queued = p.backlog.size
  active : p.counters.active = p.busy.length
  completed : p.counters.completed = a.settled.countP (·.2.isCompleted)
  failed : p.counters.failed = a.settled.countP (·.2.isFailed)
  cancelled : p.counters.cancelled = a.settled.countP (·.2.isCancelled)
  /-- Only what is drained is interrupted. -/
  settled : ∀ n o, (n, o) ∈ a.settled → o ≠ .interrupted
  drained : p.isShutDown = false → a.drained = []

/-- Every ticket is in one place, and the counters count them. -/
def Booked (p : Pool) : Prop := ∃ a, p.Filed a ∧ p.Counted a

section
variable {a : Archive} {p p' : Pool} {n : Nat}

/-- A new pool has counted nothing, and nothing has happened to it. -/
theorem booked_of_new {settings : PoolSettings} {work : Job → Work} {priority : Priority}
    (h : Pool.new settings work priority = .ok p) : p.Booked := by
  refine ⟨{}, filed_of_new h, ?_⟩
  unfold Pool.new at h
  split at h <;> cases h
  exact ⟨rfl, rfl, rfl, rfl, rfl, rfl, nofun, fun _ => rfl⟩

/-! ### What is done from outside -/

/-- A cancellation is not counted before a worker or a purge finds it. -/
theorem counted_cancel (h : p.Counted a) (n : Nat) : (p.cancel n).2.Counted a := by
  rw [cancel_snd]
  refine ⟨?_, h.queued, h.active, h.completed, h.failed, h.cancelled, h.settled, h.drained⟩
  show _ = (p.tickets.modify n _).length
  rw [List.length_modify]
  exact h.submitted

/-- A submission is one ticket more, and one job more in the backlog. -/
theorem counted_submit (h : p.Counted a) {job : Job} (hp : p.submit job = .ok (n, p')) :
    p'.Counted a := by
  unfold submit at hp
  split at hp <;> cases hp
  refine ⟨?_, ?_, h.active, h.completed, h.failed, h.cancelled, h.settled, h.drained⟩
  · show p.counters.submitted + 1 = (p.tickets ++ [_]).length
    rw [List.length_append, List.length_singleton, h.submitted]
  · -- The new slot finds its place among the jobs, and there is one more.
    have hlength := (Backlog.place_perm p.backlog.order ⟨p.tickets.length, job⟩
      p.backlog.jobs).length_eq
    rw [List.length_cons] at hlength
    show p.counters.queued + 1 = p.backlog.chores.length + (Backlog.place ..).length
    rw [hlength, h.queued, Backlog.size]
    omega

/-- A purge that is left to the workers is an item of the backlog, and counts as queued. -/
theorem counted_schedulePurge (h : p.Counted a) (hp : p.schedulePurge = .ok p') : p'.Counted a := by
  unfold schedulePurge at hp
  split at hp <;> cases hp
  refine ⟨h.submitted, ?_, h.active, h.completed, h.failed, h.cancelled, h.settled, h.drained⟩
  show p.counters.queued + 1 = (p.backlog.chores ++ [Chore.purge]).length + p.backlog.jobs.length
  rw [List.length_append, List.length_singleton, h.queued, Backlog.size]
  omega

/-- What a purge drops and what it leaves was in the backlog. -/
theorem purgeCount_add_size (p : Pool) : p.purgeCount + p.purge.backlog.size = p.backlog.size := by
  have hsplit := p.backlog.purgeCount_add_length fun slot => p.hasFinished slot.ticket
  show _ + (p.backlog.chores.length + (p.backlog.purge _).jobs.length) = _
  rw [Backlog.size, purgeCount]
  omega

/-- A purge counts each job that it drops as cancelled, and no longer as queued. -/
theorem counted_purge (h : p.Counted a) : p.purge.Counted (a.drop p.purged) := by
  have hsize := p.purgeCount_add_size
  have hlength := p.length_purged
  have hqueued := h.queued
  -- All that is dropped was cancelled.
  have hcount (f : Outcome → Bool) : (a.drop p.purged).settled.countP (fun e => f e.2)
      = (if f .cancelled = true then p.purgeCount else 0) + a.settled.countP (fun e => f e.2) := by
    simp only [Archive.drop, List.countP_append, List.countP_map, Function.comp_def, ← hlength]
    cases f .cancelled <;> simp
  refine ⟨h.submitted, ?_, h.active, ?_, ?_, ?_, ?_, h.drained⟩
  · show p.counters.queued - p.purgeCount = _
    omega
  · rw [hcount]
    exact h.completed.trans (Nat.zero_add _).symm
  · rw [hcount]
    exact h.failed.trans (Nat.zero_add _).symm
  · rw [hcount]
    show p.counters.cancelled + p.purgeCount = p.purgeCount + _
    rw [h.cancelled, Nat.add_comm]
  · intro n o hmem
    rcases List.mem_append.1 hmem with hmem | hmem
    · obtain ⟨m, -, heq⟩ := List.mem_map.1 hmem
      cases heq
      exact Outcome.cancelled_ne_interrupted
    · exact h.settled n o hmem

/-- The counters when a ticket is settled. -/
theorem Counted.settle {o : Outcome} (ho : o ≠ .interrupted) (h : p.Counted a) (n : Nat) :
    Counted (a.settle n o) { p with counters := p.counters.ended o } := by
  refine ⟨?_, ?_, ?_, ?_, ?_, ?_, ?_, h.drained⟩
  · exact (Counters.submitted_ended o p.counters).trans h.submitted
  · exact (Counters.queued_ended o p.counters).trans h.queued
  · exact (Counters.active_ended o p.counters).trans h.active
  · simp only [Archive.settle, List.countP_cons, Counters.completed_ended]
    rw [← h.completed]
  · simp only [Archive.settle, List.countP_cons, Counters.failed_ended]
    rw [← h.failed]
  · simp only [Archive.settle, List.countP_cons, Counters.cancelled_ended o p.counters ho]
    rw [← h.cancelled]
  · -- No interruption gets among the outcomes that are settled.
    intro m o' hmem
    rcases List.mem_cons.1 hmem with heq | hmem
    · cases heq
      exact ho
    · exact h.settled m o' hmem

/-- A worker that gets free is active no more, and the outcome of its job is counted once. -/
theorem counted_leave (h : p.Counted a) (hn : n ∈ p.busy) {o : Outcome} (ho : o ≠ .interrupted) :
    (p.leave n o).Counted (a.settle n o) := by
  have hlength : (p.busy.erase n).length = p.busy.length - 1 := List.length_erase_of_mem hn
  -- First the worker is free again, then the outcome is counted.
  have hfreed : Counted a { p with
      tickets := p.tickets.modify n fun t => (t.finish o).2
      busy := p.busy.erase n
      counters := { p.counters with active := p.counters.active - 1 } } := by
    refine ⟨?_, h.queued, ?_, h.completed, h.failed, h.cancelled, h.settled, h.drained⟩
    · show p.counters.submitted = (p.tickets.modify n _).length
      rw [List.length_modify, h.submitted]
    · show p.counters.active - 1 = (p.busy.erase n).length
      rw [hlength, h.active]
  exact hfreed.settle ho n

/-- Work that ends has an outcome to count, also when it was cancelled before. -/
theorem endOf_ne_interrupted (n : Nat) (how : WorkEnd) (p : Pool) :
    p.endOf n how ≠ .interrupted := by
  unfold endOf
  split
  · exact Outcome.cancelled_ne_interrupted
  · exact how.outcome_ne_interrupted

/-- The end of work is counted as the outcome with which it ended. -/
theorem counted_endWork (h : p.Counted a) (hn : n ∈ p.busy) (how : WorkEnd) :
    (p.endWork n how).Counted (a.settle n (p.endOf n how)) :=
  counted_leave h hn (endOf_ne_interrupted n how p)

/-- A stop empties the backlog, and counts the jobs that waited there as nothing but submitted. -/
theorem counted_shutDown (h : p.Counted a) (hopen : p.isShutDown = false) :
    p.shutDown.Counted (a.drain p.waiting) := by
  have hlength := (closes_shutDown p).length_tickets
  have hdown := isShutDown_shutDown p
  unfold shutDown at *
  rw [hopen, if_neg Bool.false_ne_true] at *
  refine ⟨?_, ?_, h.active, h.completed, h.failed, h.cancelled, h.settled, ?_⟩
  · exact h.submitted.trans hlength.symm
  · -- All that was queued has left the backlog, so the subtraction leaves nothing.
    show p.counters.queued - p.backlog.items.length = 0
    rw [h.queued, Backlog.length_items]
    omega
  · intro hup
    rw [hdown] at hup
    cases hup

/-! ### What workers do -/

variable {backlog : Backlog Chore Slot} {item : Backlog.Item Chore Slot}

/-- What a worker takes out of the backlog is queued no more. -/
theorem counted_popped (h : p.Counted a) (hpop : p.backlog.pop? = some (item, backlog)) :
    (p.popped backlog).Counted a := by
  have hsize := Backlog.size_of_pop? hpop
  have hqueued := h.queued
  refine ⟨h.submitted, ?_, h.active, h.completed, h.failed, h.cancelled, h.settled, h.drained⟩
  show p.counters.queued - 1 = backlog.size
  omega

/-- A ticket whose work begins is the same ticket. -/
theorem counted_taken (h : p.Counted a) (n : Nat) : (p.taken n).Counted a := by
  refine ⟨?_, h.queued, h.active, h.completed, h.failed, h.cancelled, h.settled, h.drained⟩
  show _ = (p.tickets.modify n _).length
  rw [List.length_modify]
  exact h.submitted

/-- A job that takes a worker is one more that is active. -/
theorem counted_occupied (h : p.Counted a) (n : Nat) : (p.occupied n).Counted a := by
  refine ⟨h.submitted, h.queued, ?_, h.completed, h.failed, h.cancelled, h.settled, h.drained⟩
  show p.counters.active + 1 = (p.busy ++ [n]).length
  rw [List.length_append, List.length_singleton, h.active]

/-- A worker that breaks down is counted as lost, and its job as nothing. -/
theorem counted_breaks (h : p.Counted a) (n : Nat) :
    Counted (a.strand n) { p with lost := p.lost + 1 } :=
  ⟨h.submitted, h.queued, h.active, h.completed, h.failed, h.cancelled, h.settled, h.drained⟩

end

/-! ### Events -/

section
variable {σ : Type} {hook : Hook σ} {lastly : Job → WorkEnd} {p : Pool} {drained : List Nat}

/-- Every ticket is in one place, the counters count them, and these are the tickets that were
drained. -/
def BookedWith (drained : List Nat) (p : Pool) : Prop :=
  ∃ a, p.Filed a ∧ p.Counted a ∧ a.drained = drained

/-- A pool whose archive is known is booked. -/
theorem BookedWith.booked (h : p.BookedWith drained) : p.Booked := by
  obtain ⟨a, hfiled, hcounted, -⟩ := h
  exact ⟨a, hfiled, hcounted⟩

/-- The archive of a booked pool drained some tickets, whichever they are. -/
theorem Booked.exists_drained (h : p.Booked) : ∃ drained, p.BookedWith drained := by
  obtain ⟨a, hfiled, hcounted⟩ := h
  exact ⟨a.drained, a, hfiled, hcounted, rfl⟩

/-- The end of work drains no ticket. -/
theorem BookedWith.endWork (h : p.BookedWith drained) {n : Nat} (hn : n ∈ p.busy) (how : WorkEnd) :
    (p.endWork n how).BookedWith drained := by
  obtain ⟨a, hfiled, hcounted, hdrained⟩ := h
  exact ⟨_, filed_endWork hfiled hn how, counted_endWork hcounted hn how, hdrained⟩

/-- The end of all work drains no ticket, since the end of each part of it does not. -/
theorem BookedWith.endAll (h : p.BookedWith drained) (how : Job → WorkEnd) :
    (p.endAll how).BookedWith drained :=
  endAll_induction how (fun _ _ how hq hn => hq.endWork hn how) h

/-- The stop of a pool that was not stopped drains what waits. -/
theorem Booked.shutDown (h : p.Booked) (hopen : p.isShutDown = false) :
    p.shutDown.BookedWith p.waiting := by
  obtain ⟨a, hfiled, hcounted⟩ := h
  refine ⟨_, filed_shutDown hfiled hopen, counted_shutDown hcounted hopen, ?_⟩
  rw [Archive.drain, hcounted.drained hopen, List.append_nil]

/-- Only the first stop drains tickets. -/
theorem BookedWith.shutDown (h : p.BookedWith drained) :
    ∃ drained', p.shutDown.BookedWith drained' ∧ (p.isShutDown = true → drained' = drained) := by
  cases hopen : p.isShutDown with
  | true =>
    unfold Pool.shutDown
    rw [hopen, if_pos rfl]
    exact ⟨drained, h, fun _ => rfl⟩
  | false => exact ⟨_, h.booked.shutDown hopen, nofun⟩

/-- What a caller does keeps the books. Of all that a caller can do only the first stop drains
tickets. -/
theorem BookedWith.perturb (h : p.BookedWith drained) (lastly : Job → WorkEnd) (step : Step) :
    ∃ drained', (p.perturb lastly step).2.BookedWith drained' ∧
      (p.isShutDown = true → drained' = drained) := by
  obtain ⟨a, hfiled, hcounted, hdrained⟩ := h
  -- All steps but a stop leave the drained tickets as they are.
  have hkept {p' : Pool} (h : p'.BookedWith drained) :
      ∃ drained', p'.BookedWith drained' ∧ (p.isShutDown = true → drained' = drained) :=
    ⟨drained, h, fun _ => rfl⟩
  cases step with
  | submit job =>
    simp only [Pool.perturb]
    cases hp : p.submit job with
    | error e => exact hkept ⟨a, hfiled, hcounted, hdrained⟩
    | ok result =>
      exact hkept ⟨a, filed_submit hfiled hp, counted_submit hcounted hp, hdrained⟩
  | cancel n => exact hkept ⟨a, filed_cancel hfiled n, counted_cancel hcounted n, hdrained⟩
  | purge => exact hkept ⟨_, filed_purge hfiled, counted_purge hcounted, hdrained⟩
  | schedulePurge =>
    simp only [Pool.perturb]
    cases hp : p.schedulePurge with
    | error e => exact hkept ⟨a, hfiled, hcounted, hdrained⟩
    | ok p' =>
      exact hkept ⟨a, filed_schedulePurge hfiled hp, counted_schedulePurge hcounted hp, hdrained⟩
  | release id how named =>
    simp only [Pool.perturb, Pool.release]
    split
    · exact hkept ⟨a, hfiled, hcounted, hdrained⟩
    next n hn =>
      exact hkept (BookedWith.endWork ⟨a, hfiled, hcounted, hdrained⟩
        (List.mem_of_find?_eq_some hn) how)
  | stop =>
    obtain ⟨drained', hstopped, hsame⟩ := BookedWith.shutDown ⟨a, hfiled, hcounted, hdrained⟩
    exact ⟨drained', hstopped.endAll lastly, hsame⟩

/-- A worker does what it took from the backlog. -/
theorem BookedWith.takes (h : p.BookedWith drained) {p' : Pool} {s s' : σ}
    {item : Backlog.Item Chore Slot} {backlog : Backlog Chore Slot}
    (hfree : p.hasFreeWorker = true) (hpop : p.backlog.pop? = some (item, backlog))
    (hcarries : Carries hook (p.popped backlog) s item p' s') : p'.BookedWith drained := by
  obtain ⟨a, hfiled, hcounted, hdrained⟩ := h
  have hpopped := counted_popped hcounted hpop
  cases hcarries with
  | purges => exact ⟨_, filed_purge (filed_popped hfiled hpop), counted_purge hpopped, hdrained⟩
  | @misses slot ht =>
    -- Every job of the backlog has a ticket.
    obtain ⟨t, ht', -⟩ := hfiled.waiting slot.ticket (waiting_eq_cons hpop ▸ List.mem_cons_self)
    cases ht.symm.trans ht'
  | @skips slot t ht hq =>
    exact ⟨_, filed_skipped hfiled hpop ht hq _,
      hpopped.settle Outcome.cancelled_ne_interrupted slot.ticket, hdrained⟩
  | @performs slot t ht hq =>
    have hoccupied : BookedWith drained (((p.popped backlog).taken slot.ticket).occupied
        slot.ticket) :=
      ⟨a, (inHand_taken hfiled hfree hpop ht hq).occupied,
        counted_occupied (counted_taken hpopped slot.ticket) slot.ticket, hdrained⟩
    rw [perform_eq]
    split
    · exact hoccupied
    · exact hoccupied.endWork (List.mem_append_right _ (List.mem_singleton.2 rfl)) _
  | @breaks slot t ht hq =>
    exact ⟨_, (inHand_taken hfiled hfree hpop ht hq).breaks,
      counted_breaks (counted_taken hpopped slot.ticket) slot.ticket, hdrained⟩

/-- An action of a worker keeps the books and drains no ticket. -/
theorem BookedWith.action {b c : Pool × σ} (hact : Action hook b c)
    (h : b.1.BookedWith drained) : c.1.BookedWith drained := by
  cases hact with
  | leaves hn hf =>
    obtain ⟨a, hfiled, hcounted, hdrained⟩ := h
    exact ⟨_, filed_leave hfiled hn (leaves_cancelled hfiled hn hf),
      counted_leave hcounted hn Outcome.cancelled_ne_interrupted, hdrained⟩
  | takes hfree hpop hcarries => exact h.takes hfree hpop hcarries

/-- Every event keeps the books. After the stop of a pool no ticket is drained any more. -/
theorem bookedWith_event {b c : Pool × σ} (hevent : Event hook lastly b c)
    (h : b.1.BookedWith drained) :
    ∃ drained', c.1.BookedWith drained' ∧ (b.1.isShutDown = true → drained' = drained) := by
  cases hevent with
  | steps p s step => exact h.perturb lastly step
  | ends hn how => exact ⟨drained, h.endWork hn how, fun _ => rfl⟩
  | stops p s => exact h.shutDown
  | acts hact => exact ⟨drained, h.action hact, fun _ => rfl⟩

/-- Every event keeps the books. -/
theorem booked_event {b c : Pool × σ} (hevent : Event hook lastly b c) (h : b.1.Booked) :
    c.1.Booked := by
  obtain ⟨drained, h⟩ := h.exists_drained
  obtain ⟨drained', h', -⟩ := bookedWith_event hevent h
  exact h'.booked

/-- Wherever events lead a new pool, its books are kept. -/
theorem booked_of_reaches {settings : PoolSettings} {work : Job → Work} {priority : Priority}
    {new : Pool} (hnew : Pool.new settings work priority = .ok new) {s₀ s : σ}
    (h : Reaches hook lastly (new, s₀) (p, s)) : p.Booked :=
  lasts_of_event booked_event h (booked_of_new hnew)

end

end Pool

end JobScheduling
