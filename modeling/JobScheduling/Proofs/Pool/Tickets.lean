import JobScheduling.Pool.Workers
import Mathlib.Data.List.Basic

/-!
# `JobScheduling.Proofs.Pool.Tickets`: what happens to the tickets of a pool

Of all that is done to a pool, only two things do more to a ticket than finish it:
`Pool.submit` gives out a new one, and a worker begins one. `Pool.Closes` says that each
ticket of a pool is either the same in a later pool or has finished in between, and there
is one lemma `closes_f` for each operation `f` of that kind. What a worker does is listed
by `act?_cases`, so a proof about workers is a case for each of its four alternatives.
-/

set_option autoImplicit false

namespace JobScheduling

namespace Ticket

/-- A later state of a ticket: the same one, or the ticket has finished. -/
def Closes (t t' : Ticket) : Prop :=
  t' = t ∨ t.isFinished = false ∧ t'.isFinished = true ∧ t'.job = t.job ∧ t'.started = t.started

/-- A ticket that nothing happens to does not close. -/
theorem Closes.refl (t : Ticket) : t.Closes t := .inl rfl

/-- Whatever closes a ticket, it remains the one of its job. -/
theorem Closes.job {t t' : Ticket} (h : t.Closes t') : t'.job = t.job := by
  rcases h with rfl | ⟨_, _, h, _⟩
  · rfl
  · exact h

/-- A ticket that closes has started or not, as before. -/
theorem Closes.started {t t' : Ticket} (h : t.Closes t') : t'.started = t.started := by
  rcases h with rfl | ⟨_, _, _, h⟩
  · rfl
  · exact h

/-- A ticket that has finished stays as it is. -/
theorem Closes.eq_of_isFinished {t t' : Ticket} (h : t.Closes t') (ht : t.isFinished = true) :
    t' = t := by
  rcases h with h | ⟨hopen, _⟩
  · exact h
  · rw [ht] at hopen
    cases hopen

/-- A ticket that has not finished later had not before. -/
theorem Closes.isFinished_eq_false {t t' : Ticket} (h : t.Closes t')
    (ht : t'.isFinished = false) : t.isFinished = false := by
  rcases h with rfl | ⟨hopen, _⟩
  · exact ht
  · exact hopen

/-- What closes a ticket in two steps closes it. -/
theorem Closes.trans {t t' t'' : Ticket} (h : t.Closes t') (h' : t'.Closes t'') :
    t.Closes t'' := by
  rcases h with rfl | ⟨hopen, hdone, hjob, hstarted⟩
  · exact h'
  · -- Once it has finished it stays as it is.
    rw [h'.eq_of_isFinished hdone]
    exact .inr ⟨hopen, hdone, hjob, hstarted⟩

/-- A later state of a ticket, whether it has begun in between or not: it is for the same
job, and once it has finished it is the same. -/
structure Follows (t t' : Ticket) : Prop where
  job : t'.job = t.job
  finished : t.isFinished = true → t' = t

/-- Every ticket follows itself. -/
theorem Follows.refl (t : Ticket) : t.Follows t := ⟨rfl, fun _ => rfl⟩

/-- A ticket that closes stands later in the same course. -/
theorem Follows.of_closes {t t' : Ticket} (h : t.Closes t') : t.Follows t' :=
  ⟨h.job, h.eq_of_isFinished⟩

/-- The course of a ticket goes on from wherever it stands. -/
theorem Follows.trans {t t' t'' : Ticket} (h : t.Follows t') (h' : t'.Follows t'') :
    t.Follows t'' := by
  refine ⟨h'.job.trans h.job, ?_⟩
  intro ht
  obtain rfl := h.finished ht
  exact h'.finished ht

/-- What has not finished later had not finished before. -/
theorem Follows.isFinished_eq_false {t t' : Ticket} (h : t.Follows t')
    (ht : t'.isFinished = false) : t.isFinished = false := by
  cases hf : t.isFinished with
  | false => rfl
  | true => rw [← hf, ← ht, h.finished hf]

/-- An outcome closes a ticket, unless it has finished before. -/
theorem closes_finish (outcome : Outcome) (t : Ticket) : t.Closes (t.finish outcome).2 := by
  simp only [finish]
  split
  · exact .refl t
  next h => exact .inr ⟨by simpa using h, rfl, rfl, rfl⟩

/-- A cancellation closes a ticket, unless it has finished before. -/
theorem closes_cancel (t : Ticket) : t.Closes t.cancel.2 := by
  simp only [cancel]
  split
  · exact .refl t
  next h => exact .inr ⟨by simpa using h, rfl, rfl, rfl⟩

/-- A ticket with an outcome has finished. -/
theorem isFinished_of_outcome? {t : Ticket} {outcome : Outcome}
    (h : t.outcome? = some outcome) : t.isFinished = true := by
  rw [isFinished, h]
  rfl

/-- A ticket that waits in the backlog has not finished. -/
theorem isFinished_of_queued {t : Ticket} (h : t.progress = .queued) : t.isFinished = false := by
  rw [isFinished, outcome?, h]
  rfl

/-- After an outcome was given, a ticket has finished in any case, with this outcome or one before.
-/
@[simp]
theorem isFinished_finish (outcome : Outcome) (t : Ticket) :
    (t.finish outcome).2.isFinished = true := by
  rw [isFinished, outcome?_finish]
  rfl

/-- After a cancellation a ticket has finished in any case. -/
@[simp]
theorem isFinished_cancel (t : Ticket) : t.cancel.2.isFinished = true := by
  rw [isFinished, outcome?_cancel]
  rfl

/-- The ticket after a worker has taken the job up. -/
def taken (t : Ticket) : Ticket := { t with progress := .running, started := true }

/-- A ticket can be begun exactly while it is queued. -/
theorem begin?_eq (t : Ticket) :
    t.begin? = if t.progress = .queued then (true, t.taken) else (false, t) := by
  simp only [begin?, taken]
  cases h : t.progress <;> simp

/-- A ticket that begins had not finished. -/
theorem follows_begin? (t : Ticket) : t.Follows t.begin?.2 := by
  rw [begin?_eq]
  split
  next hq =>
    refine ⟨rfl, ?_⟩
    intro hf
    rw [isFinished_of_queued hq] at hf
    cases hf
  next => exact .refl t

end Ticket

namespace Pool

/-- Each ticket of `p` is related to that of the same number in `p'`, and no ticket is new. -/
def Related (R : Ticket → Ticket → Prop) (p p' : Pool) : Prop :=
  ∀ n : Nat, Option.Rel R p.tickets[n]? p'.tickets[n]?

/-- Each ticket of `p` is the same in `p'`, or has finished there. -/
abbrev Closes : Pool → Pool → Prop := Related Ticket.Closes

/-- Each ticket of `p` is for the same job in `p'`, and one that has finished is the same. -/
abbrev Follows : Pool → Pool → Prop := Related Ticket.Follows

section
variable {R : Ticket → Ticket → Prop} {p p' p'' : Pool}

/-- Pools with the same tickets are related by every reflexive relation. -/
theorem Related.of_eq (hrefl : ∀ t, R t t) (h : p'.tickets = p.tickets) : p.Related R p' := by
  intro n
  rw [h]
  cases p.tickets[n]? with
  | none => exact .none
  | some t => exact .some (hrefl t)

/-- Related tickets are related by every weaker relation as well. -/
theorem Related.mono {R' : Ticket → Ticket → Prop} (hR : ∀ t t', R t t' → R' t t')
    (h : p.Related R p') : p.Related R' p' := by
  intro n
  have hn := h n
  generalize p.tickets[n]? = a at hn ⊢
  generalize p'.tickets[n]? = b at hn ⊢
  cases hn with
  | none => exact .none
  | some h => exact .some (hR _ _ h)

/-- Where a relation of tickets can be composed, so can that of the pools. -/
theorem Related.comp (hR : ∀ {t t' t''}, R t t' → R t' t'' → R t t'') (h : p.Related R p')
    (h' : p'.Related R p'') : p.Related R p'' := by
  intro n
  have hn := h n
  have hn' := h' n
  generalize p.tickets[n]? = a at hn ⊢
  generalize p'.tickets[n]? = b at hn hn'
  generalize p''.tickets[n]? = c at hn' ⊢
  cases hn with
  | none => cases hn'; exact .none
  | some h => cases hn' with
    | some h' => exact .some (hR h h')

/-- A ticket of a pool in a later pool. -/
theorem Related.ticket (h : p.Related R p') {n : Nat} {t : Ticket} (ht : p.tickets[n]? = some t) :
    ∃ t', p'.tickets[n]? = some t' ∧ R t t' := by
  have hn := h n
  rw [ht] at hn
  generalize p'.tickets[n]? = b at hn ⊢
  cases hn with
  | some h => exact ⟨_, rfl, h⟩

/-- A ticket of a later pool in the pool before. -/
theorem Related.ticket_before (h : p.Related R p') {n : Nat} {t' : Ticket}
    (ht : p'.tickets[n]? = some t') : ∃ t, p.tickets[n]? = some t ∧ R t t' := by
  have hn := h n
  rw [ht] at hn
  generalize p.tickets[n]? = a at hn ⊢
  cases hn with
  | some h => exact ⟨_, rfl, h⟩

/-- No ticket is new, and none is gone. -/
theorem Related.eq_none_iff (h : p.Related R p') (n : Nat) :
    p.tickets[n]? = none ↔ p'.tickets[n]? = none := by
  have hn := h n
  generalize p.tickets[n]? = a at hn ⊢
  generalize p'.tickets[n]? = b at hn ⊢
  cases hn <;> simp

/-- A change that leaves the tickets alone closes none. -/
theorem Closes.of_eq (h : p'.tickets = p.tickets) : p.Closes p' := Related.of_eq .refl h

/-- Two changes that close tickets at most close tickets at most. -/
theorem Closes.trans (h : p.Closes p') (h' : p'.Closes p'') : p.Closes p'' :=
  Related.comp .trans h h'

/-- A pool whose tickets were closed follows the pool before. -/
theorem Closes.follows (h : p.Closes p') : p.Follows p' := Related.mono (fun _ _ => .of_closes) h

/-- Of two changes in a row, each ticket follows the whole. -/
theorem Follows.trans (h : p.Follows p') (h' : p'.Follows p'') : p.Follows p'' :=
  Related.comp .trans h h'

end

/-- The ticket of a number after a change under a number. -/
theorem getElem?_modify (tickets : List Ticket) (n : Nat) (f : Ticket → Ticket) (m : Nat) :
    (tickets.modify n f)[m]? = if n = m then tickets[m]?.map f else tickets[m]? := by
  rw [List.getElem?_modify]
  split <;> cases tickets[m]? <;> rfl

/-- A change of one ticket that leaves it the same or finishes it. -/
theorem Closes.of_modify {p p' : Pool} {n : Nat} {f : Ticket → Ticket}
    (h : p'.tickets = p.tickets.modify n f) (hf : ∀ t : Ticket, t.Closes (f t)) :
    p.Closes p' := by
  intro m
  rw [h, getElem?_modify]
  cases p.tickets[m]? with
  | none => split <;> exact .none
  | some t =>
    split
    · exact .some (hf t)
    · exact .some (.refl t)

/-! ### What is done from outside -/

/-- Cancelling a ticket changes it alone. Without a ticket there is nothing to change. -/
theorem cancel_snd (n : Nat) (p : Pool) :
    (p.cancel n).2 = p.modifyTicket n fun t => t.cancel.2 := by
  unfold cancel
  split
  next hnone =>
    have hlength := List.getElem?_eq_none_iff.1 hnone
    simp only [modifyTicket, List.modify_eq_self hlength]
  next => rfl

/-- A cancellation closes one ticket at most. -/
theorem closes_cancel (n : Nat) (p : Pool) : p.Closes (p.cancel n).2 := by
  rw [cancel_snd]
  exact .of_modify rfl Ticket.closes_cancel

/-- Tickets can be cancelled in any order. -/
theorem cancel_comm (n m : Nat) (p : Pool) :
    ((p.cancel n).2.cancel m).2 = ((p.cancel m).2.cancel n).2 := by
  simp only [cancel_snd, modifyTicket]
  by_cases h : n = m
  · rw [h]
  · rw [List.modify_modify_ne _ _ _ h]

/-- A purge takes jobs out of the backlog, and leaves their tickets alone. -/
theorem closes_purge (p : Pool) : p.Closes p.purge := .of_eq rfl

/-- The worker that a job leaves closes its ticket. -/
theorem closes_leave (n : Nat) (outcome : Outcome) (p : Pool) : p.Closes (p.leave n outcome) :=
  .of_modify rfl (Ticket.closes_finish outcome)

/-- Work that ends closes its ticket, whichever way it ends. -/
theorem closes_endWork (n : Nat) (how : WorkEnd) (p : Pool) : p.Closes (p.endWork n how) :=
  closes_leave n _ p

/-- The part of `endAll` that concerns one ticket. -/
def endOne (how : Job → WorkEnd) (p : Pool) (n : Nat) : Pool :=
  match p.tickets[n]? with
  | none => p
  | some t => p.endWork n (how t.job)

/-- All work is ended ticket by ticket. -/
theorem endAll_eq (how : Job → WorkEnd) (p : Pool) : p.endAll how = p.busy.foldl (endOne how) p :=
  rfl

/-- What the end of each running work keeps, the end of all work keeps. -/
theorem endAll_induction {P : Pool → Prop} {p : Pool} (how : Job → WorkEnd)
    (hend : ∀ q n how, P q → n ∈ q.busy → P (q.endWork n how)) (h : P p) : P (p.endAll how) := by
  rw [endAll_eq]
  -- The busy workers are listed at the start. Those that are still to come stay busy.
  suffices hl : ∀ (numbers : List Nat) (q : Pool), P q → numbers.Sublist q.busy →
      P (numbers.foldl (endOne how) q) from hl p.busy p h (.refl _)
  intro numbers
  induction numbers with
  | nil => exact fun q hq _ => hq
  | cons n numbers ih =>
    intro q hq hsub
    have hone : P (q.endOne how n) ∧ numbers.Sublist (q.endOne how n).busy := by
      simp only [endOne]
      split
      · exact ⟨hq, List.sublist_of_cons_sublist hsub⟩
      · have hleft := hsub.erase n
        rw [List.erase_cons_head] at hleft
        exact ⟨hend q n _ hq (hsub.subset List.mem_cons_self), hleft⟩
    exact ih _ hone.1 hone.2

/-- The end of all work closes tickets at most. -/
theorem closes_endAll (how : Job → WorkEnd) (p : Pool) : p.Closes (p.endAll how) :=
  endAll_induction how (fun q n how hq _ => hq.trans (closes_endWork n how q)) (.of_eq rfl)

/-- The tickets after those of some numbers were interrupted. -/
theorem getElem?_interrupt (numbers : List Nat) (tickets : List Ticket) (m : Nat) :
    (numbers.foldl (fun tickets n => tickets.modify n fun t => (t.finish .interrupted).2)
        tickets)[m]?
      = if m ∈ numbers then tickets[m]?.map fun t => (t.finish .interrupted).2
        else tickets[m]? := by
  induction numbers generalizing tickets with
  | nil => simp
  | cons n numbers ih =>
    rw [List.foldl_cons, ih, getElem?_modify]
    by_cases hn : n = m
    · subst hn
      -- A ticket that is interrupted twice has finished at the first time.
      cases tickets[n]? with
      | none => simp
      | some t =>
        have htwice : ((t.finish .interrupted).2.finish .interrupted).2
            = (t.finish .interrupted).2 :=
          (Ticket.closes_finish _ _).eq_of_isFinished (Ticket.isFinished_finish _ t)
        simp [htwice]
    · simp [hn, Ne.symm hn]

/-- A ticket of a pool after the pool was stopped: the same, or interrupted. -/
theorem ticket_shutDown {p : Pool} {m : Nat} {t : Ticket} (ht : p.tickets[m]? = some t) :
    p.shutDown.tickets[m]? = some t ∨
      p.shutDown.tickets[m]? = some (t.finish .interrupted).2 := by
  simp only [shutDown]
  split
  · -- A pool that was stopped before is left as it is.
    exact .inl ht
  · show (List.foldl _ p.tickets _)[m]? = _ ∨ (List.foldl _ p.tickets _)[m]? = _
    rw [getElem?_interrupt, ht]
    split
    · exact .inr rfl
    · exact .inl rfl

/-- A stop interrupts the jobs in the backlog, and leaves all other tickets alone. -/
theorem closes_shutDown (p : Pool) : p.Closes p.shutDown := by
  intro m
  cases ht : p.tickets[m]? with
  | none =>
    have hnone : p.shutDown.tickets[m]? = none := by
      simp only [shutDown]
      split
      · exact ht
      · -- A ticket beyond the list is not reached by the interruptions.
        show (List.foldl _ p.tickets _)[m]? = _
        rw [getElem?_interrupt, ht, Option.map_none, ite_self]
    rw [hnone]
    exact .none
  | some t =>
    rcases ticket_shutDown ht with h | h <;> rw [h]
    · exact .some (.refl t)
    · exact .some (Ticket.closes_finish _ t)

/-! ### What workers do -/

section
variable {σ : Type} {hook : Hook σ}

/-- The pool from which a worker has taken an item, so that a backlog is left. -/
def popped (backlog : Backlog Chore Slot) (p : Pool) : Pool :=
  { p with backlog, counters := p.counters.dequeued 1 }

/-- The pool after a worker has taken up the job of a ticket, before its work begins. -/
def taken (n : Nat) (p : Pool) : Pool := p.modifyTicket n fun t => t.begin?.2

/-- The pool after a worker has begun the work of a ticket. -/
def occupied (n : Nat) (p : Pool) : Pool :=
  { p with
    busy := p.busy ++ [n]
    begun := p.begun ++ [n]
    counters := { p.counters with active := p.counters.active + 1 } }

/-- A job takes a worker first. If its work ends at once, that is the end of the work from there. -/
theorem perform_eq (slot : Slot) (p : Pool) :
    p.perform slot = match p.work slot.job with
      | .holds => p.occupied slot.ticket
      | .ends how => (p.occupied slot.ticket).endWork slot.ticket how := rfl

/-- The work of a job begins, and its ticket has finished when the work has. -/
theorem closes_perform (slot : Slot) (p : Pool) : p.Closes (p.perform slot) := by
  rw [perform_eq]
  split
  · exact .of_eq rfl
  · exact closes_endWork _ _ (p.occupied slot.ticket)

/-- A ticket whose work begins follows itself. -/
theorem follows_taken (n : Nat) (p : Pool) : p.Follows (p.taken n) := by
  intro m
  rw [show (p.taken n).tickets[m]? = _ from getElem?_modify p.tickets n _ m]
  cases p.tickets[m]? with
  | none => split <;> exact .none
  | some t =>
    split
    · exact .some (Ticket.follows_begin? t)
    · exact .some (.refl t)

/-- What a free worker does with an item that it took from the backlog of `p`, by the pool and the
state of the hook that it leaves. -/
inductive Carries (hook : Hook σ) (p : Pool) (s : σ) : Backlog.Item Chore Slot → Pool → σ → Prop
  | purges : Carries hook p s (.chore .purge) p.purge s
  /-- There is no such ticket. -/
  | misses {slot : Slot} (ht : p.tickets[slot.ticket]? = none) : Carries hook p s (.job slot) p s
  /-- The job was cancelled while it waited. -/
  | skips {slot : Slot} {t : Ticket} (ht : p.tickets[slot.ticket]? = some t)
      (hq : t.progress ≠ .queued) :
      Carries hook p s (.job slot) { p with counters := p.counters.ended .cancelled } s
  | performs {slot : Slot} {t : Ticket} (ht : p.tickets[slot.ticket]? = some t)
      (hq : t.progress = .queued) (hhook : (hook slot.job s).1 = true) :
      Carries hook p s (.job slot) ((p.taken slot.ticket).perform slot) (hook slot.job s).2
  /-- The hook crashes, and the worker with it. -/
  | breaks {slot : Slot} {t : Ticket} (ht : p.tickets[slot.ticket]? = some t)
      (hq : t.progress = .queued) (hhook : (hook slot.job s).1 = false) :
      Carries hook p s (.job slot) { p.taken slot.ticket with lost := p.lost + 1 }
        (hook slot.job s).2

/-- What a worker does with an item of the backlog is one of the cases of `Carries`. -/
theorem carries_carryOut (hook : Hook σ) (item : Backlog.Item Chore Slot) (p : Pool) (s : σ) :
    Carries hook p s item (carryOut hook item p s).1 (carryOut hook item p s).2 := by
  cases item with
  | chore c =>
    cases c
    exact .purges
  | job slot =>
    simp only [carryOut, execute]
    cases ht : p.tickets[slot.ticket]? with
    | none => exact .misses ht
    | some t =>
      -- A ticket that does not wait any more is skipped, and the hook is not told.
      dsimp only
      rw [t.begin?_eq]
      by_cases hq : t.progress = .queued
      · rw [if_pos hq, if_pos rfl]
        rcases hhook : hook slot.job s with ⟨answer, s'⟩
        cases answer with
        | true =>
          have hperforms := Carries.performs ht hq (congrArg Prod.fst hhook)
          rwa [hhook] at hperforms
        | false =>
          have hbreaks := Carries.breaks ht hq (congrArg Prod.fst hhook)
          rwa [hhook] at hbreaks
      · rw [if_neg hq, if_neg Bool.false_ne_true]
        exact .skips ht hq

/-- One action of a worker, whichever worker it is: one whose job was cancelled gives the job up,
or a free one takes the first item of the backlog. -/
inductive Action (hook : Hook σ) : Pool × σ → Pool × σ → Prop
  | leaves {p : Pool} {s : σ} {n : Nat} (hn : n ∈ p.busy) (hf : p.hasFinished n = true) :
      Action hook (p, s) (p.leave n .cancelled, s)
  | takes {p p' : Pool} {s s' : σ} {item : Backlog.Item Chore Slot} {backlog : Backlog Chore Slot}
      (hfree : p.hasFreeWorker = true) (hpop : p.backlog.pop? = some (item, backlog))
      (h : Carries hook (p.popped backlog) s item p' s') : Action hook (p, s) (p', s')

/-- The workers act one after the other. -/
theorem action_of_act? {p p' : Pool} {s s' : σ} (h : p.act? hook s = some (p', s')) :
    Action hook (p, s) (p', s') := by
  unfold act? at h
  split at h
  next n hn =>
    -- A worker that has a cancelled job gives it up before anything else is done.
    cases h
    exact .leaves (List.mem_of_find?_eq_some hn) (List.find?_some hn)
  next =>
    -- Otherwise a free worker takes the next item.
    split at h
    case isFalse => cases h
    case isTrue hfree =>
      obtain ⟨⟨item, backlog⟩, hpop, hitem⟩ := Option.map_eq_some_iff.1 h
      have hcarries := carries_carryOut hook item (p.popped backlog) s
      rw [show carryOut hook item (p.popped backlog) s = (p', s') from hitem] at hcarries
      exact .takes hfree hpop hcarries

/-- All that one action of the workers can be: a worker gives up a job that was cancelled,
does a chore, skips a job, or takes one up. A job that is taken up is either performed or
lost with its worker, as the hook says. -/
theorem act?_cases {p p' : Pool} {s s' : σ} (h : p.act? hook s = some (p', s')) :
    (∃ n ∈ p.busy, p.hasFinished n = true ∧ p' = p.leave n .cancelled ∧ s' = s) ∨
    ∃ item backlog, p.backlog.pop? = some (item, backlog) ∧
      ((item = .chore .purge ∧ p' = (p.popped backlog).purge ∧ s' = s) ∨
      ∃ slot, item = .job slot ∧
        (((∀ t, p.tickets[slot.ticket]? = some t → t.progress ≠ .queued) ∧
          p'.tickets = p.tickets ∧ p'.busy = p.busy ∧ p'.backlog = backlog ∧
          p'.isShutDown = p.isShutDown ∧ p'.begun = p.begun ∧ s' = s) ∨
        ∃ t, p.tickets[slot.ticket]? = some t ∧ t.progress = .queued ∧
          (hook slot.job s).2 = s' ∧
          (p' = ((p.popped backlog).taken slot.ticket).perform slot ∨
            p' = { (p.popped backlog).taken slot.ticket with lost := p.lost + 1 }))) := by
  cases action_of_act? h with
  | leaves hn hf => exact .inl ⟨_, hn, hf, rfl, rfl⟩
  -- Only an item that is a job with a ticket that waits comes to the hook.
  | @takes _ _ _ _ item backlog _ hpop hcarries =>
    refine .inr ⟨item, backlog, hpop, ?_⟩
    cases hcarries with
    | purges => exact .inl ⟨rfl, rfl, rfl⟩
    | @misses slot ht =>
      refine .inr ⟨slot, rfl, .inl ⟨fun t ht' => ?_, rfl, rfl, rfl, rfl, rfl, rfl⟩⟩
      exact nomatch ht.symm.trans ht'
    | @skips slot t ht hq =>
      refine .inr ⟨slot, rfl, .inl ⟨fun t' ht' => ?_, rfl, rfl, rfl, rfl, rfl, rfl⟩⟩
      rwa [← Option.some.inj (ht.symm.trans ht')]
    | @performs slot t ht hq _ => exact .inr ⟨slot, rfl, .inr ⟨t, ht, hq, rfl, .inl rfl⟩⟩
    | @breaks slot t ht hq _ => exact .inr ⟨slot, rfl, .inr ⟨t, ht, hq, rfl, .inr rfl⟩⟩

/-- What each action of the workers keeps, they keep until they have nothing left to do. -/
theorem settle_induction (hook : Hook σ) {P : Pool → σ → Prop}
    (hstep : ∀ p s p' s', P p s → p.act? hook s = some (p', s') → P p' s')
    {p : Pool} {s : σ} (h : P p s) : P (p.settle hook s).1 (p.settle hook s).2 := by
  simp only [settle]
  -- How many actions there are to do does not matter.
  generalize p.toDo = n
  induction n generalizing p s with
  | zero => exact h
  | succ n ih =>
    simp only [acts]
    cases hact : p.act? hook s with
    | none => exact h
    | some next => exact ih (hstep p s next.1 next.2 h hact)

/-- Each action of the workers leaves a pool that follows the one before. -/
theorem follows_act? {p p' : Pool} {s s' : σ} (h : p.act? hook s = some (p', s')) :
    p.Follows p' := by
  rcases act?_cases h with ⟨n, -, -, rfl, -⟩ | ⟨item, backlog, -, hitem⟩
  · exact (closes_leave n .cancelled p).follows
  · rcases hitem with ⟨-, rfl, -⟩ | ⟨slot, -, ⟨-, ht, -⟩ | ⟨t, -, -, -, rfl | rfl⟩⟩
    · exact Closes.follows (.of_eq rfl)
    · exact Closes.follows (.of_eq ht)
    · exact (follows_taken slot.ticket (p.popped backlog)).trans (closes_perform slot _).follows
    · exact follows_taken slot.ticket (p.popped backlog)

/-- The workers leave a pool that follows the one before. -/
theorem follows_settle (hook : Hook σ) (p : Pool) (s : σ) : p.Follows (p.settle hook s).1 :=
  settle_induction hook (P := fun p' _ => p.Follows p')
    (fun _ _ _ _ h hact => h.trans (follows_act? hact)) (Related.of_eq .refl rfl)

/-- What is told of no job is not changed by the workers. -/
theorem settle_snd (hook : Hook σ) (hhook : ∀ job s, (hook job s).2 = s) (p : Pool) (s : σ) :
    (p.settle hook s).2 = s := by
  refine settle_induction hook (P := fun _ s' => s' = s) ?_ rfl
  intro p₁ s₁ p₂ s₂ h hact
  rcases act?_cases hact with ⟨-, -, -, -, hs⟩ | ⟨item, backlog, -, hitem⟩
  · exact hs.trans h
  · rcases hitem with ⟨-, -, hs⟩ | ⟨slot, -, ⟨-, -, -, -, -, -, hs⟩ | ⟨t, -, -, hs, -⟩⟩
    · exact hs.trans h
    · exact hs.trans h
    · rw [← hs, hhook]
      exact h

/-! ### What a hook is told -/

/-- Where two hooks answer the same in related states and leave related states, an action of the
workers is the same under both. -/
theorem act?_matches {τ : Type} {T : σ → τ → Prop} {hook' : Hook τ}
    (h : ∀ job s s', T s s' → (hook job s).1 = (hook' job s').1 ∧
      T (hook job s).2 (hook' job s').2) (p : Pool) {s : σ} {s' : τ} (hT : T s s') :
    Option.Rel (fun x y => x.1 = y.1 ∧ T x.2 y.2) (p.act? hook s) (p.act? hook' s') := by
  -- Both sides take the same branches until a hook is told of a job.
  simp only [act?]
  split
  · exact .some ⟨rfl, hT⟩
  · split
    · cases p.backlog.pop? with
      | none => exact .none
      | some popped =>
        refine .some ?_
        obtain ⟨item, backlog⟩ := popped
        cases item with
        | chore c => cases c; exact ⟨rfl, hT⟩
        | job slot =>
          simp only [carryOut, execute]
          split
          · exact ⟨rfl, hT⟩
          · split
            · obtain ⟨hanswer, hT'⟩ := h slot.job s s' hT
              rcases hhook : hook slot.job s with ⟨b, t⟩
              rcases hhook' : hook' slot.job s' with ⟨b', t'⟩
              rw [hhook, hhook'] at hanswer hT'
              cases hanswer
              cases b <;> exact ⟨rfl, hT'⟩
            · exact ⟨rfl, hT⟩
    · exact .none

/-- The workers do the same under two hooks that answer the same. -/
theorem settle_matches {τ : Type} {T : σ → τ → Prop} {hook' : Hook τ}
    (h : ∀ job s s', T s s' → (hook job s).1 = (hook' job s').1 ∧
      T (hook job s).2 (hook' job s').2) (p : Pool) {s : σ} {s' : τ} (hT : T s s') :
    (p.settle hook s).1 = (p.settle hook' s').1 ∧
      T (p.settle hook s).2 (p.settle hook' s').2 := by
  simp only [settle]
  -- The bound on the actions is the same on both sides, for it depends on the pool only.
  generalize p.toDo = n
  induction n generalizing p s s' with
  | zero => exact ⟨rfl, hT⟩
  | succ n ih =>
    have hact := act?_matches h p hT
    simp only [acts]
    generalize p.act? hook s = a at hact
    generalize p.act? hook' s' = b at hact
    cases hact with
    | none => exact ⟨rfl, hT⟩
    | @some x y hnext =>
      obtain ⟨p₁, s₁⟩ := x
      obtain ⟨p₂, s₂⟩ := y
      obtain ⟨rfl, hT₁⟩ := hnext
      exact ih p₁ hT₁

/-- The hook that also notes every job it is told of, with the state it is told in. -/
def noting (hook : Hook σ) : Hook (σ × List (Job × σ)) := fun job s =>
  ((hook job s.1).1, (hook job s.1).2, s.2 ++ [(job, s.1)])

/-- What the workers do is the same whether the hook makes notes or not. -/
theorem settle_noting (hook : Hook σ) (p : Pool) (s : σ × List (Job × σ)) :
    ((p.settle (noting hook) s).1, (p.settle (noting hook) s).2.1) = p.settle hook s.1 := by
  have hhook (job : Job) (s : σ × List (Job × σ)) (s' : σ) (hs : s.1 = s') :
      (noting hook job s).1 = (hook job s').1 ∧ (noting hook job s).2.1 = (hook job s').2 := by
    cases hs
    exact ⟨rfl, rfl⟩
  obtain ⟨hpool, hstate⟩ :=
    settle_matches (T := fun (s : σ × List (Job × σ)) s' => s.1 = s') hhook p rfl
  exact Prod.ext hpool hstate

end

end Pool

end JobScheduling
