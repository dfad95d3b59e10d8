import JobScheduling.Proofs.Backlog.Reference
import JobScheduling.Proofs.Pool.Order

/-!
# `JobScheduling.Proofs.Pool.Tidied`: pools without what they no longer need

A job that is cancelled while it waits stays in the backlog until a worker skips it or a purge drops
it. Chores that wait do nothing but purge. `Pool.tidied` is a pool without both, and without the
two counters that tell how many they are. A purge does not change it (`tidied_purge`).

Everything else that happens to a pool happens to the tidied pool as well, and leaves the same
tidied pool: every step of a caller (`perturb_tidied`), and every action of a worker, except that
the tidied pool has no chores to do and no jobs to skip (`act?_tidied`). So the workers of pools
that are the same when tidied leave pools that are the same when tidied, whatever the one has to do
in between and the other has not (`settle_tidied`).
-/

set_option autoImplicit false

namespace JobScheduling

namespace Backlog

/-- In a sorted list, where an element goes does not depend on elements that are left out. -/
theorem filter_place {β : Type} {order : β → β → Ordering} [Std.TransCmp order] {keep : β → Bool}
    {a : β} {l : List β} (hl : l.Pairwise fun b c => (order b c).isLE = true) (ha : keep a = true) :
    (place order a l).filter keep = place order a (l.filter keep) := by
  induction l with
  | nil => exact List.filter_cons_of_pos ha
  | cons b l ih =>
    obtain ⟨hb, hrest⟩ := List.pairwise_cons.1 hl
    simp only [place]
    split
    next hlt =>
      -- The element precedes all that is left, and what was left out.
      have hall : ∀ c ∈ b :: l, order a c = .lt := by
        intro c hc
        rcases List.mem_cons.1 hc with rfl | hc
        · exact hlt
        · exact Std.TransCmp.lt_of_lt_of_isLE hlt (hb c hc)
      rw [List.filter_cons_of_pos ha,
        place_of_forall_lt fun c hc => hall c (List.mem_filter.1 hc).1]
    next hge =>
      cases hkeep : keep b with
      | true =>
        rw [List.filter_cons_of_pos hkeep, List.filter_cons_of_pos hkeep, ih hrest, place,
          if_neg hge]
      | false =>
        have hb : ¬ keep b = true := by simp [hkeep]
        rw [List.filter_cons_of_neg hb, List.filter_cons_of_neg hb, ih hrest]

end Backlog

/-- The counters without those of what waits and of what was cancelled. -/
def Counters.tidied (c : Counters) : Counters := { c with queued := 0, cancelled := 0 }

namespace Pool

/-- Whether a job in the backlog has yet to be done. -/
def isOpen (p : Pool) (slot : Slot) : Bool := !p.hasFinished slot.ticket

/-- The pool without its chores, without the jobs that were cancelled while they waited, and without
their counters. -/
def tidied (p : Pool) : Pool :=
  { p with
    backlog := { p.backlog with chores := [], jobs := p.backlog.jobs.filter p.isOpen }
    counters := p.counters.tidied }

section
variable {p q : Pool}

/-- What is open later was open before. -/
theorem Follows.isOpen (h : p.Follows q) {slot : Slot} (hopen : q.isOpen slot = true) :
    p.isOpen slot = true := by
  have hn := h slot.ticket
  simp only [Pool.isOpen, hasFinished] at hopen ⊢
  generalize p.tickets[slot.ticket]? = a at hn ⊢
  generalize q.tickets[slot.ticket]? = b at hn hopen
  cases hn with
  | none => rfl
  | some h =>
    simp only [Option.any_some, Bool.not_eq_true'] at hopen ⊢
    exact h.isFinished_eq_false hopen

/-- Every pool follows itself. -/
theorem Follows.refl (p : Pool) : p.Follows p := Related.of_eq Ticket.Follows.refl rfl

/-- What is open later was open before, so to leave out first what had finished by then changes
nothing. -/
theorem Follows.filter_isOpen (h : p.Follows q) (jobs : List Slot) :
    (jobs.filter p.isOpen).filter q.isOpen = jobs.filter q.isOpen := by
  rw [List.filter_filter]
  refine List.filter_congr fun slot _ => ?_
  cases hopen : q.isOpen slot with
  | false => rfl
  | true => rw [h.isOpen hopen, Bool.and_self]

/-- A purge drops nothing that the tidied pool has. -/
theorem tidied_purge (p : Pool) : p.purge.tidied = p.tidied :=
  congrArg (fun jobs => ({ p with
    backlog := { p.backlog with chores := [], jobs }
    counters := p.counters.tidied } : Pool)) (Follows.filter_isOpen (.refl p) p.backlog.jobs)

/-- A tidied pool is tidy. -/
@[simp]
theorem tidied_tidied (p : Pool) : p.tidied.tidied = p.tidied := tidied_purge p

/-- What does the same to a pool and to the tidied pool does the same to pools that are the same
when tidied. -/
theorem tidied_congr {f : Pool → Pool} (hf : ∀ p, (f p.tidied).tidied = (f p).tidied)
    (h : p.tidied = q.tidied) : (f p).tidied = (f q).tidied := by
  rw [← hf p, h, hf q]

/-- What leaves the backlog alone, and leaves tickets finished that had finished, does the same to
the tidied pool. -/
theorem tidied_apply {f : Pool → Pool} (hfollows : p.Follows (f p))
    (hbacklog : (f p).backlog = p.backlog) (hbacklog' : (f p.tidied).backlog = p.tidied.backlog)
    (hrest : ∀ b, { (f p.tidied).tidied with backlog := b } = { (f p).tidied with backlog := b }) :
    (f p.tidied).tidied = (f p).tidied := by
  -- The hypothesis is about everything but the backlog, so about the tickets too.
  have htickets : (f p.tidied).tickets = (f p).tickets := by
    have hsame := congrArg Pool.tickets (hrest p.backlog)
    exact hsame
  have hopen : (f p.tidied).isOpen = (f p).isOpen := by
    funext slot
    simp only [isOpen, hasFinished, htickets]
  have hbacklogs : (f p.tidied).tidied.backlog = (f p).tidied.backlog := by
    simp only [tidied] at hbacklog' hopen ⊢
    rw [hbacklog', hbacklog, hopen]
    exact congrArg (fun jobs => ({ p.backlog with chores := [], jobs } : Backlog Chore Slot))
      (hfollows.filter_isOpen p.backlog.jobs)
  calc (f p.tidied).tidied
      = { (f p.tidied).tidied with backlog := (f p).tidied.backlog } := by rw [← hbacklogs]
    _ = (f p).tidied := hrest _

end

/-! ### What is done from outside -/

section
variable (p : Pool)

/-- A worker leaves its ticket in the tidied pool as in the pool. -/
theorem tidied_leave (n : Nat) (outcome : Outcome) :
    (p.tidied.leave n outcome).tidied = (p.leave n outcome).tidied :=
  tidied_apply (f := leave n outcome) (closes_leave n outcome p).follows rfl rfl
    fun _ => by cases outcome <;> rfl

/-- So the end of work is the same in both. -/
theorem tidied_endWork (n : Nat) (how : WorkEnd) :
    (p.tidied.endWork n how).tidied = (p.endWork n how).tidied := tidied_leave p n _

/-- The work that goes on ends in the same way in both. -/
theorem tidied_endAll (how : Job → WorkEnd) :
    (p.tidied.endAll how).tidied = (p.endAll how).tidied := by
  have hone (n : Nat) (p : Pool) : (p.tidied.endOne how n).tidied = (p.endOne how n).tidied := by
    simp only [endOne]
    rw [show p.tidied.tickets = p.tickets from rfl]
    split
    · exact tidied_tidied p
    · exact tidied_endWork p n _
  -- The two folds run over the same numbers, as a tidied pool has the workers of the pool.
  have hfold (numbers : List Nat) {p q : Pool} (h : p.tidied = q.tidied) :
      (numbers.foldl (endOne how) p).tidied = (numbers.foldl (endOne how) q).tidied := by
    induction numbers generalizing p q with
    | nil => exact h
    | cons n numbers ih => exact ih (tidied_congr (f := fun p => p.endOne how n) (hone n) h)
  exact hfold p.busy (tidied_tidied p)

/-- A cancellation leaves the same pool when tidied, also that of a ticket that waits. -/
theorem tidied_cancel (n : Nat) : (p.tidied.cancel n).2.tidied = (p.cancel n).2.tidied := by
  rw [cancel_snd, cancel_snd]
  have hcloses := closes_cancel n p
  rw [cancel_snd] at hcloses
  exact tidied_apply (f := fun p => p.modifyTicket n fun t => t.cancel.2) hcloses.follows rfl rfl
    fun _ => rfl

/-- A stop interrupts the jobs that wait. One that was cancelled before has finished. -/
theorem tickets_shutDown_tidied : p.tidied.shutDown.tickets = p.shutDown.tickets := by
  cases hdown : p.isShutDown with
  | true =>
    have hdown' : p.tidied.isShutDown = true := hdown
    rw [shutDown, shutDown, if_pos hdown, if_pos hdown']
    rfl
  | false =>
    refine List.ext_getElem? fun n => ?_
    rw [getElem?_shutDown hdown, getElem?_shutDown (p := p.tidied) hdown]
    show (if n ∈ (p.backlog.jobs.filter p.isOpen).map Slot.ticket then _ else p.tickets[n]?) = _
    by_cases hn : n ∈ p.waiting
    · rw [if_pos hn]
      -- The tidied pool drains only the open tickets. The stop finds the others finished and leaves
      -- them as they are.
      split
      · rfl
      next hdone =>
        obtain ⟨slot, hslot, rfl⟩ := List.mem_map.1 hn
        have hfinished : p.hasFinished slot.ticket = true := by
          cases hf : p.hasFinished slot.ticket with
          | true => rfl
          | false =>
            have hopen : p.isOpen slot = true := by simp [isOpen, hf]
            exact absurd (List.mem_map_of_mem (List.mem_filter.2 ⟨hslot, hopen⟩)) hdone
        obtain ⟨t, ht, hf⟩ := (Option.any_eq_true ..).1 hfinished
        rw [ht, Option.map_some, (Ticket.closes_finish _ t).eq_of_isFinished hf]
    · have hn' : n ∉ (p.backlog.jobs.filter p.isOpen).map Slot.ticket :=
        fun h => hn ((List.filter_sublist.map _).subset h)
      rw [if_neg hn, if_neg hn']

/-- The stop drains the backlog, whatever was in it. -/
theorem tidied_shutDown : p.tidied.shutDown.tidied = p.shutDown.tidied := by
  cases hdown : p.isShutDown with
  | true =>
    have hdown' : p.tidied.isShutDown = true := hdown
    rw [shutDown, shutDown, if_pos hdown, if_pos hdown', tidied_tidied]
  | false =>
    -- A stopped pool is known from its tickets alone.
    have hform (r : Pool) (hr : r.isShutDown = false) : r.shutDown.tidied
        = { r.tidied with isShutDown := true, tickets := r.shutDown.tickets
                          backlog := { r.backlog with chores := [], jobs := [] } } := by
      rw [shutDown, if_neg (by rw [hr]; exact Bool.false_ne_true)]
      rfl
    rw [hform p hdown, hform p.tidied hdown, tickets_shutDown_tidied, tidied_tidied]
    rfl

/-- A release finds the same ticket in both, so the answer is the same as well. -/
theorem tidied_release (id : String) (how : WorkEnd) (named : Option Nat) :
    (p.tidied.release id how named).1 = (p.release id how named).1 ∧
      (p.tidied.release id how named).2.tidied = (p.release id how named).2.tidied := by
  have hsame : p.tidied.runningFor? id named = p.runningFor? id named := rfl
  simp only [release, hsame]
  cases p.runningFor? id named with
  | none => exact ⟨rfl, tidied_tidied p⟩
  | some n => exact ⟨rfl, tidied_endWork p n how⟩

end

/-- Chores that come in do not matter. -/
theorem tidied_schedulePurge {p p' : Pool} (h : p.schedulePurge = .ok p') :
    p'.tidied = p.tidied := by
  unfold schedulePurge at h
  split at h <;> cases h
  rfl

/-- A new ticket has not finished, so a job is open as before. -/
theorem isOpen_submit {p p' : Pool} {job : Job} {n : Nat} (h : p.submit job = .ok (n, p')) :
    p'.isOpen = p.isOpen := by
  funext slot
  obtain ⟨-, -, htickets, -⟩ := submit_eq_ok h
  simp only [isOpen, hasFinished, htickets, List.getElem?_append]
  split
  · rfl
  next hlength =>
    have hnone : p.tickets[slot.ticket]? = none := List.getElem?_eq_none (Nat.le_of_not_lt hlength)
    rw [hnone]
    cases slot.ticket - p.tickets.length <;> rfl

section
variable {priority : Priority} {p : Pool}

instance [Std.TransCmp priority] : Std.TransCmp (slotOrder priority) where
  eq_swap {a b} := @Std.OrientedCmp.eq_swap _ priority _ a.job b.job
  isLE_trans {a b c} := @Std.TransCmp.isLE_trans _ priority _ a.job b.job c.job

/-- What stands before in the backlog is not ordered after. -/
theorem Before.isLE {a b : Slot} (h : Before priority a b) :
    (slotOrder priority a b).isLE = true := by
  rcases h with h | ⟨h, -⟩ <;> simp only [slotOrder, h] <;> rfl

/-- A job that comes in has the same place among the jobs that are open. -/
theorem tidied_submit [Std.TransCmp priority] (h : p.Ordered priority) {job : Job} {n : Nat}
    {p' : Pool} (hp : p.submit job = .ok (n, p')) :
    ∃ q, p.tidied.submit job = .ok (n, q) ∧ q.tidied = p'.tidied := by
  have htrans : Std.TransCmp p.backlog.order := by
    rw [h.order]
    infer_instance
  have hsorted : p.backlog.jobs.Pairwise fun a b => (p.backlog.order a b).isLE = true := by
    rw [h.order]
    exact h.jobs.imp Before.isLE
  have hopen : p'.isOpen = p.isOpen := isOpen_submit hp
  have hnew : p.isOpen ⟨p.tickets.length, job⟩ = true := by simp [isOpen, hasFinished]
  -- The new job has its place among the open jobs whether the others are left out before or after
  -- it goes in.
  have hjobs : (Backlog.place p.backlog.order ⟨p.tickets.length, job⟩
        (p.backlog.jobs.filter p.isOpen)).filter p'.isOpen
      = (Backlog.place p.backlog.order ⟨p.tickets.length, job⟩
        p.backlog.jobs).filter p'.isOpen := by
    rw [hopen, Backlog.filter_place (hsorted.sublist List.filter_sublist) hnew,
      Backlog.filter_place hsorted hnew, Follows.filter_isOpen (.refl p)]
  have hdown : ¬ p.isShutDown = true := by simpa using (submit_eq_ok hp).1
  have hdown' : ¬ p.tidied.isShutDown = true := hdown
  rw [submit, if_neg hdown] at hp
  rw [submit, if_neg hdown']
  cases hp
  exact ⟨_, rfl, congrArg (fun jobs => ({ p with
    tickets := p.tickets ++ [{ job }]
    backlog := { p.backlog with chores := [], jobs }
    counters := { p.counters with submitted := p.counters.submitted + 1
                                  queued := 0, cancelled := 0 } } : Pool)) hjobs⟩

/-- A step that only drops what the tidied pool has not. -/
def Step.isPurge : Step → Bool
  | .purge | .schedulePurge => true
  | .submit _ | .cancel _ | .release .. | .stop => false

/-- A purge, at once or by a worker, is what a tidied pool has no use for. -/
theorem tidied_perturb_of_isPurge (lastly : Job → WorkEnd) (p : Pool) {step : Step}
    (h : step.isPurge = true) : (p.perturb lastly step).2.tidied = p.tidied := by
  cases step with
  | purge => exact tidied_purge p
  | schedulePurge =>
    simp only [perturb]
    cases hp : p.schedulePurge with
    | error e => rfl
    | ok p' => exact tidied_schedulePurge hp
  | submit | cancel | release | stop => cases h

/-- A step does the same to the tidied pool, and only a purge answers it with something else. -/
theorem perturb_tidied [Std.TransCmp priority] (lastly : Job → WorkEnd) (h : p.Ordered priority)
    (step : Step) :
    (p.tidied.perturb lastly step).2.tidied = (p.perturb lastly step).2.tidied ∧
      (step.isPurge = false →
        (p.tidied.perturb lastly step).1 = (p.perturb lastly step).1) := by
  -- A purge changes no tidied pool. Of the other operations each has its own lemma.
  cases hpurge : step.isPurge with
  | true =>
    rw [tidied_perturb_of_isPurge lastly _ hpurge, tidied_perturb_of_isPurge lastly _ hpurge,
      tidied_tidied]
    exact ⟨rfl, fun h => absurd h (by decide)⟩
  | false =>
    cases step with
    | submit job =>
      simp only [perturb]
      cases hp : p.submit job with
      | ok accepted =>
        obtain ⟨n, p'⟩ := accepted
        obtain ⟨q, hq, hsame⟩ := tidied_submit h hp
        rw [hq]
        exact ⟨hsame, fun _ => rfl⟩
      | error e =>
        unfold submit at hp ⊢
        split at hp <;> cases hp
        next hdown =>
          have hdown' : p.tidied.isShutDown = true := hdown
          rw [if_pos hdown']
          exact ⟨tidied_tidied p, fun _ => rfl⟩
    | cancel n =>
      refine ⟨tidied_cancel p n, fun _ => ?_⟩
      simp only [perturb, cancel, show p.tidied.tickets = p.tickets from rfl]
      split <;> rfl
    | release id how named =>
      obtain ⟨hanswer, hsame⟩ := tidied_release p id how named
      exact ⟨hsame, fun _ => congrArg Answer.flag hanswer⟩
    | stop =>
      refine ⟨?_, fun _ => rfl⟩
      have hend := tidied_congr (fun p => tidied_endAll p lastly) (tidied_shutDown p)
      exact hend
    | purge | schedulePurge => cases hpurge

end

/-! ### What workers do -/

section
variable {σ : Type} (hook : Hook σ)

/-- A worker takes a ticket in both alike. -/
theorem tidied_taken (n : Nat) (p : Pool) : (p.tidied.taken n).tidied = (p.taken n).tidied :=
  tidied_apply (f := taken n) (follows_taken n p) rfl rfl fun _ => rfl

/-- It is busy with it in both alike. -/
theorem tidied_occupied (n : Nat) (p : Pool) :
    (p.tidied.occupied n).tidied = (p.occupied n).tidied :=
  tidied_apply (f := occupied n) (Related.of_eq Ticket.Follows.refl rfl) rfl rfl fun _ => rfl

/-- The pool after a worker has broken down. -/
def broken (p : Pool) : Pool := { p with lost := p.lost + 1 }

/-- A job whose hook was refused is lost in both alike. -/
theorem tidied_broken (p : Pool) : p.tidied.broken.tidied = p.broken.tidied :=
  tidied_apply (f := broken) (Related.of_eq Ticket.Follows.refl rfl) rfl rfl fun _ => rfl

/-- The job runs in both alike, as both have the same work. -/
theorem tidied_perform (slot : Slot) (p : Pool) :
    (p.tidied.perform slot).tidied = (p.perform slot).tidied := by
  have hoccupied := tidied_occupied slot.ticket p
  rw [perform_eq, perform_eq, show p.tidied.work = p.work from rfl]
  split
  · exact hoccupied
  · exact tidied_congr (fun p => tidied_endWork p slot.ticket _) hoccupied

/-- A worker does the same with a job of the tidied pool. -/
theorem tidied_execute (slot : Slot) (p : Pool) (s : σ) :
    (p.tidied.execute hook slot s).1.tidied = (p.execute hook slot s).1.tidied ∧
      (p.tidied.execute hook slot s).2 = (p.execute hook slot s).2 := by
  have htaken := tidied_taken slot.ticket p
  -- Ticket and hook are the same on both sides, so the worker goes the same way.
  simp only [execute, show p.tidied.tickets = p.tickets from rfl]
  split
  · exact ⟨tidied_tidied p, rfl⟩
  · split
    · obtain ⟨answer, s'⟩ := hook slot.job s
      cases answer with
      | true => exact ⟨tidied_congr (tidied_perform slot) htaken, rfl⟩
      | false => exact ⟨tidied_congr tidied_broken htaken, rfl⟩
    · exact ⟨tidied_tidied p, rfl⟩

/-- A job that has finished is skipped. -/
theorem execute_of_finished {slot : Slot} {p : Pool} (h : p.isOpen slot = false) (s : σ) :
    (p.execute hook slot s).1.tidied = p.tidied ∧ (p.execute hook slot s).2 = s := by
  have hcarries := carries_carryOut hook (.job slot) p s
  rw [show carryOut hook (.job slot) p s = p.execute hook slot s from rfl] at hcarries
  -- Only a queued ticket is begun or lost, and this one has finished.
  have hnever {t : Ticket} (ht : p.tickets[slot.ticket]? = some t) (hq : t.progress = .queued) :
      False := by
    rw [isOpen, hasFinished, ht, Option.any_some, Ticket.isFinished_of_queued hq] at h
    cases h
  generalize p.execute hook slot s = result at hcarries
  obtain ⟨p', s'⟩ := result
  cases hcarries with
  | misses | skips => exact ⟨rfl, rfl⟩
  | performs ht hq => exact (hnever ht hq).elim
  | breaks ht hq => exact (hnever ht hq).elim

/-- A chore that is taken is missed by nobody. -/
theorem tidied_popped_chore {p : Pool} {c : Chore} {b : Backlog Chore Slot}
    (h : p.backlog.pop? = some (.chore c, b)) : (p.popped b).tidied = p.tidied := by
  obtain ⟨settings, work, ⟨order, chores, jobs⟩, tickets, busy, begun, lost, counters, down⟩ := p
  cases chores <;> cases jobs <;> cases h <;> rfl

/-- The first job that is open is the first job of the tidied pool. -/
theorem tidied_popped_job {p : Pool} {slot : Slot} {b : Backlog Chore Slot}
    (h : p.backlog.pop? = some (.job slot, b)) :
    if p.isOpen slot then
      ∃ b', p.tidied.backlog.pop? = some (.job slot, b') ∧ p.tidied.popped b' = (p.popped b).tidied
    else (p.popped b).tidied = p.tidied := by
  obtain ⟨settings, work, ⟨order, chores, jobs⟩, tickets, busy, begun, lost, counters, down⟩ := p
  -- The chores go first, so a job is popped only where none is left.
  cases chores with
  | cons c chores => cases h
  | nil =>
    cases jobs with
    | nil => cases h
    | cons first jobs =>
      cases h
      split
      next hopen =>
        simp only [tidied, List.filter_cons_of_pos hopen]
        exact ⟨_, rfl, rfl⟩
      next hopen =>
        simp only [tidied, List.filter_cons_of_neg hopen]
        rfl

/-- What an action of the workers is to the tidied pool: none, or an action that leaves the same
tidied pool. -/
theorem act?_tidied {p p' : Pool} {s s' : σ} (hact : p.act? hook s = some (p', s')) :
    (p'.tidied = p.tidied ∧ s' = s) ∨
      ∃ q, p.tidied.act? hook s = some (q, s') ∧ q.tidied = p'.tidied := by
  have hstray : p.tidied.strayWorker? = p.strayWorker? := rfl
  have hfree : p.tidied.hasFreeWorker = p.hasFreeWorker := rfl
  -- Both pools have the same workers. Where the pool does a chore or skips a job, the tidied pool
  -- waits, and otherwise both do one thing.
  simp only [act?, hstray, hfree] at hact ⊢
  split at hact
  next n hn =>
    cases hact
    exact .inr ⟨_, rfl, tidied_leave p n .cancelled⟩
  next hnone =>
    split at hact
    case isFalse => cases hact
    case isTrue hf =>
      obtain ⟨⟨item, b⟩, hpop, hitem⟩ := Option.map_eq_some_iff.1 hact
      cases item with
      | chore c =>
        cases hitem
        exact .inl ⟨(tidied_purge _).trans (tidied_popped_chore hpop), rfl⟩
      | job slot =>
        have hexecute : (p.popped b).execute hook slot s = (p', s') := hitem
        have hpopped := tidied_popped_job hpop
        cases hopen : p.isOpen slot with
        | false =>
          rw [hopen] at hpopped
          have hskip := execute_of_finished hook (p := p.popped b) hopen s
          rw [hexecute] at hskip
          exact .inl ⟨hskip.1.trans hpopped, hskip.2⟩
        | true =>
          rw [hopen] at hpopped
          obtain ⟨b', hpop', hsame⟩ := hpopped
          have hexecute' := tidied_execute hook slot (p.popped b) s
          rw [hexecute, ← hsame] at hexecute'
          rw [hpop', if_pos hf]
          refine .inr ⟨((p.tidied.popped b').execute hook slot s).1, ?_, hexecute'.1⟩
          exact congrArg some (Prod.ext rfl hexecute'.2)

/-- Workers that rest have nothing to do in the tidied pool. -/
theorem atRest_tidied {p : Pool} (h : p.AtRest) : p.tidied.AtRest := by
  refine ⟨h.1, fun hfree => ?_⟩
  have hitems := (Backlog.pop?_eq_none_iff _).1 (h.2 hfree)
  simp only [Backlog.items, List.append_eq_nil_iff, List.map_eq_nil_iff] at hitems
  simp [Backlog.pop?_eq_none_iff, Backlog.items, tidied, hitems.2]

/-- What is left out is not to be done either. -/
theorem toDo_tidied_le (p : Pool) : p.tidied.toDo ≤ p.toDo := by
  have hjobs := List.length_filter_le p.isOpen p.backlog.jobs
  simp only [toDo, tidied, Backlog.size, List.length_nil]
  omega

/-- The workers of a pool and those of the tidied pool leave the same tidied pool. -/
theorem settle_tidied (p : Pool) (s : σ) :
    (p.tidied.settle hook s).1.tidied = (p.settle hook s).1.tidied ∧
      (p.tidied.settle hook s).2 = (p.settle hook s).2 := by
  -- Each action leaves less to do, in the pool and in the tidied pool.
  induction hn : p.toDo using Nat.strong_induction_on generalizing p s with
  | _ n ih =>
    subst hn
    cases hact : p.act? hook s with
    | none =>
      have hrest : p.AtRest := act?_eq_none_iff.1 hact
      rw [settle_of_atRest hook hrest, settle_of_atRest hook (atRest_tidied hrest)]
      exact ⟨tidied_tidied p, rfl⟩
    | some next =>
      obtain ⟨p', s'⟩ := next
      have hless := toDo_lt_of_act? hact
      have hnext := ih _ hless p' s' rfl
      rw [settle_of_act? hact]
      rcases act?_tidied hook hact with ⟨hsame, rfl⟩ | ⟨q, hq, hsame⟩
      · rwa [hsame] at hnext
      · have hless' : q.toDo < p.toDo := Nat.lt_of_lt_of_le (toDo_lt_of_act? hq) (toDo_tidied_le p)
        have hnext' := ih _ hless' q s' rfl
        rw [hsame] at hnext'
        rw [settle_of_act? hq]
        exact ⟨hnext'.1.symm.trans hnext.1, hnext'.2.symm.trans hnext.2⟩

/-- The workers of pools that are the same when tidied leave pools that are the same when tidied. -/
theorem settle_congr {p q : Pool} (h : p.tidied = q.tidied) (s : σ) :
    (p.settle hook s).1.tidied = (q.settle hook s).1.tidied ∧
      (p.settle hook s).2 = (q.settle hook s).2 := by
  have hp := settle_tidied hook p s
  have hq := settle_tidied hook q s
  rw [h] at hp
  exact ⟨hp.1.symm.trans hq.1, hp.2.symm.trans hq.2⟩

end

end Pool

end JobScheduling
