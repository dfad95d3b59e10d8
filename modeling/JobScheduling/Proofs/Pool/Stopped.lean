import JobScheduling.Proofs.Pool.Accounts

/-!
# `JobScheduling.Proofs.Pool.Stopped`: pools after their stop

The stop of a pool drains its backlog, and nothing is put into it any more (`Pool.Stopped`). So
little can happen from then on: a ticket is cancelled, some work ends, or a worker leaves a ticket
that was cancelled (`Pool.Winds`). No other event changes a stopped pool, and none of them calls
the hook (`Stopped.windsDown_reaches`). The rest is about these three.

* `Pool.Aftermath` is what is left of a pool in every state after its stop, and `aftermath`
  derives it. Each ticket that was open at the stop is told apart: one that waited is interrupted,
  and one that did not wait finishes as `Pool.Closing` says.
* `reaches_balanced_iff` is about the counters once no work goes on. A job that was cancelled while
  it waited is counted when it leaves the backlog, unless it leaves it by the stop of the pool. So
  the counters lack as many jobs as a purge would have dropped just before the stop.
-/

set_option autoImplicit false

namespace JobScheduling

/-- Whether the outcome is an interruption. -/
def Outcome.isInterrupted : Outcome → Bool
  | .interrupted => true
  | _ => false

/-- The mark `cancelled` stands for a cancellation that finished the ticket. -/
theorem Ticket.Stays.cancelled_eq_false {started : Bool} {progress : Progress} {t : Ticket}
    (h : t.Stays started progress) (hopen : t.isFinished = false) : t.cancelled = false := by
  rcases h.progress with ⟨-, hmark⟩ | ⟨hp, -⟩
  · exact hmark
  · rw [isFinished, Ticket.outcome?, hp] at hopen
    cases hopen

namespace Pool

/-- The pool was stopped, and its backlog was drained. -/
structure Stopped (p : Pool) : Prop where
  isShutDown : p.isShutDown = true
  chores : p.backlog.chores = []
  jobs : p.backlog.jobs = []

/-- One thing that can still happen to a pool that was stopped. -/
inductive Winds : Pool → Pool → Prop
  | cancels (p : Pool) (n : Nat) : Winds p (p.cancel n).2
  | ends {p : Pool} {n : Nat} (hn : n ∈ p.busy) (how : WorkEnd) : Winds p (p.endWork n how)
  /-- A worker gives up a job that was cancelled. -/
  | leaves {p : Pool} {n : Nat} (hn : n ∈ p.busy) (hf : p.hasFinished n = true) :
      Winds p (p.leave n .cancelled)

/-- Any number of such things. -/
abbrev WindsDown : Pool → Pool → Prop := Relation.ReflTransGen Winds

/-- How the ticket of a number finished, once it has. -/
def outcome? (n : Nat) (p : Pool) : Option Outcome := p.tickets[n]?.bind (·.outcome?)

/-- How an open ticket gets an outcome on the way from one stopped pool to another: its work ends
at some point, or a request cancels it. -/
inductive Closing (n : Nat) (p q : Pool) : Outcome → Prop
  | ended {b : Pool} (hbefore : WindsDown p b) (hn : n ∈ b.busy) (hopen : b.hasFinished n = false)
      (how : WorkEnd) (hafter : WindsDown (b.endWork n how) q) : Closing n p q how.outcome
  | cancelled {b : Pool} (hbefore : WindsDown p b) (hopen : b.hasFinished n = false)
      (hafter : WindsDown (b.cancel n).2 q) : Closing n p q .cancelled

section
variable {σ : Type} {hook : Hook σ} {lastly : Job → WorkEnd} {p q : Pool} {n : Nat}

/-- The stop of an open pool drains its backlog. -/
theorem stopped_shutDown (hopen : p.isShutDown = false) : p.shutDown.Stopped := by
  unfold shutDown
  rw [hopen, if_neg Bool.false_ne_true]
  exact ⟨rfl, rfl, rfl⟩

/-! ### What can still happen -/

/-- Nothing that can still happen fills the backlog again. -/
theorem Stopped.winds (h : p.Stopped) (hw : Winds p q) : q.Stopped := by
  cases hw with
  | cancels n =>
    rw [cancel_snd]
    exact ⟨h.isShutDown, h.chores, h.jobs⟩
  | ends | leaves => exact ⟨h.isShutDown, h.chores, h.jobs⟩

/-- A pool stays stopped. -/
theorem Stopped.windsDown (h : p.Stopped) (hw : WindsDown p q) : q.Stopped := by
  induction hw with
  | refl => exact h
  | tail _ hlast ih => exact ih.winds hlast

/-- What happens to a stopped pool can happen to any pool, whatever its hook. -/
theorem Winds.event (hw : Winds p q) (hook : Hook σ) (lastly : Job → WorkEnd) (s : σ) :
    Event hook lastly (p, s) (q, s) := by
  cases hw with
  | cancels n => exact .steps p s (.cancel n)
  | ends hn how => exact .ends hn how
  | leaves hn hf => exact .acts (.leaves hn hf)

/-- What happens to a stopped pool are events of the pool, so all that holds in reachable pools
holds afterwards too. -/
theorem WindsDown.reaches (hw : WindsDown p q) (hook : Hook σ) (lastly : Job → WorkEnd) (s : σ) :
    Reaches hook lastly (p, s) (q, s) := by
  induction hw with
  | refl => exact .refl
  | tail _ hlast ih => exact ih.tail (hlast.event hook lastly s)

/-- A stopped pool refuses a submission and stays as it is. -/
theorem Stopped.submit_eq (h : p.Stopped) (lastly : Job → WorkEnd) (job : Job) :
    p.perturb lastly (.submit job) = (.refused .poolShutDown, p) := by
  simp only [perturb, Pool.submit]
  rw [h.isShutDown, if_pos rfl]

/-- It refuses to schedule a purge, too. -/
theorem Stopped.schedulePurge_eq (h : p.Stopped) (lastly : Job → WorkEnd) :
    p.perturb lastly .schedulePurge = (.refused .poolShutDown, p) := by
  simp only [perturb, Pool.schedulePurge]
  rw [h.isShutDown, if_pos rfl]

/-- There is nothing left to drop. -/
theorem Stopped.purge_eq (h : p.Stopped) : p.purge = p := by
  have hjobs := h.jobs
  obtain ⟨settings, work, ⟨order, chores, jobs⟩, tickets, busy, begun, lost, counters, down⟩ := p
  cases hjobs
  rfl

/-- To stop it again does nothing. -/
theorem Stopped.shutDown_eq (h : p.Stopped) : p.shutDown = p := by
  unfold Pool.shutDown
  rw [h.isShutDown, if_pos rfl]

/-- The end of all work is the end of one after the other. -/
theorem windsDown_endAll (how : Job → WorkEnd) (p : Pool) : WindsDown p (p.endAll how) :=
  endAll_induction how (fun _ _ how hq hn => hq.tail (.ends hn how)) .refl

/-- An operation on a stopped pool cancels a ticket, or ends work, or does nothing. -/
theorem Stopped.windsDown_perturb (h : p.Stopped) (lastly : Job → WorkEnd) (step : Step) :
    WindsDown p (p.perturb lastly step).2 := by
  cases step with
  | submit job =>
    rw [h.submit_eq]
  | cancel n => exact .single (.cancels p n)
  | purge =>
    show WindsDown p p.purge
    rw [h.purge_eq]
  -- A release ends the work of the ticket it finds, and does nothing if it finds none.
  | schedulePurge =>
    rw [h.schedulePurge_eq]
  | release id how named =>
    simp only [perturb, release]
    split
    · exact .refl
    next n hn => exact .single (.ends (List.mem_of_find?_eq_some hn) how)
  | stop =>
    show WindsDown p (p.shutDown.endAll lastly)
    rw [h.shutDown_eq]
    exact windsDown_endAll lastly p

/-- Every event at a stopped pool: the hook is not called, for no worker finds anything to take. -/
theorem Stopped.windsDown_event {b c : Pool × σ} (h : b.1.Stopped)
    (hevent : Event hook lastly b c) : c.2 = b.2 ∧ WindsDown b.1 c.1 := by
  cases hevent with
  | steps p s step => exact ⟨rfl, h.windsDown_perturb lastly step⟩
  | ends hn how => exact ⟨rfl, .single (.ends hn how)⟩
  | stops p s =>
    refine ⟨rfl, ?_⟩
    show WindsDown p p.shutDown
    rw [h.shutDown_eq]
  | acts hact =>
    cases hact with
    | leaves hn hf => exact ⟨rfl, .single (.leaves hn hf)⟩
    -- A worker that takes an item pops it from a backlog that is empty.
    | @takes p p' s s' item backlog hfree hpop hcarries =>
      have hitems : p.backlog.items = [] := by
        rw [Backlog.items, h.chores, h.jobs]
        rfl
      rw [Backlog.items_of_pop? hpop] at hitems
      cases hitems

/-- From the stop on, a pool only winds down and the hook is not called. -/
theorem Stopped.windsDown_reaches {b c : Pool × σ} (h : b.1.Stopped)
    (hreaches : Reaches hook lastly b c) : c.2 = b.2 ∧ WindsDown b.1 c.1 := by
  induction hreaches with
  | refl => exact ⟨rfl, .refl⟩
  | tail _ hevent ih =>
    obtain ⟨hstate, hwinds⟩ := (h.windsDown ih.2).windsDown_event hevent
    exact ⟨hstate.trans ih.1, ih.2.trans hwinds⟩

/-- A stopped pool keeps its books, and no ticket is drained any more. -/
theorem BookedWith.windsDown {drained : List Nat} (h : p.BookedWith drained) (hs : p.Stopped)
    (hw : WindsDown p q) : q.BookedWith drained := by
  induction hw with
  | refl => exact h
  | tail hbefore hlast ih =>
    have hevent := hlast.event (fun _ _ => (true, ())) (fun _ => .crash none) ()
    obtain ⟨drained', hbooked, hsame⟩ := bookedWith_event hevent ih
    rwa [hsame (hs.windsDown hbefore).isShutDown] at hbooked

/-- A pool that winds down moves its tickets forward only. -/
theorem WindsDown.closes (hw : WindsDown p q) : p.Closes q := by
  induction hw with
  | refl => exact .of_eq rfl
  | tail _ hlast ih =>
    refine ih.trans ?_
    cases hlast with
    | cancels n => exact closes_cancel n _
    | ends hn how => exact closes_endWork _ how _
    | leaves hn hf => exact closes_leave _ _ _

/-- No work begins in a pool that winds down. -/
theorem WindsDown.begun_eq (hw : WindsDown p q) : q.begun = p.begun := by
  induction hw with
  | refl => rfl
  | tail _ hlast ih =>
    refine Eq.trans ?_ ih
    cases hlast with
    | cancels n => rw [cancel_snd]; rfl
    | ends | leaves => rfl

/-- No work begins by the stop itself. -/
theorem begun_shutDown (p : Pool) : p.shutDown.begun = p.begun := by
  unfold shutDown
  split <;> rfl

/-! ### The end of all work -/

/-- When all work is ended, each worker that has a ticket is freed. -/
theorem busy_endAll {a : Archive} (how : Job → WorkEnd) (h : p.Filed a) :
    (p.endAll how).busy = [] := by
  rw [endAll_eq]
  -- The first of the busy workers is freed, and those that are left have tickets still.
  suffices hl : ∀ (numbers : List Nat) (q : Pool), q.busy = numbers →
      (∀ n ∈ numbers, ∃ t, q.tickets[n]? = some t) →
      (numbers.foldl (endOne how) q).busy = [] from
    hl p.busy p rfl fun n hn => (h.busy n hn).imp fun _ ht => ht.1
  intro numbers
  induction numbers with
  | nil => exact fun q hq _ => hq
  | cons n numbers ih =>
    intro q hq htickets
    obtain ⟨t, ht⟩ := htickets n List.mem_cons_self
    have hone : q.endOne how n = q.endWork n (how t.job) := by
      simp only [endOne]
      rw [ht]
    rw [List.foldl_cons, hone]
    refine ih _ ?_ ?_
    · show q.busy.erase n = numbers
      rw [hq, List.erase_cons_head]
    · intro m hm
      obtain ⟨t', ht'⟩ := htickets m (List.mem_cons_of_mem _ hm)
      obtain ⟨t'', ht'', -⟩ := (closes_endWork n (how t.job) q).ticket ht'
      exact ⟨t'', ht''⟩

/-! ### Outcomes -/

/-- The outcome under a number is that of the ticket there. -/
theorem outcome?_eq {t : Ticket} (ht : p.tickets[n]? = some t) : p.outcome? n = t.outcome? := by
  rw [outcome?, ht]
  rfl

/-- Whether the ticket of a number finished is read off the ticket there. -/
theorem hasFinished_eq {t : Ticket} (ht : p.tickets[n]? = some t) :
    p.hasFinished n = t.isFinished := by
  rw [hasFinished, ht]
  rfl

/-- A ticket that waits when the pool is stopped is interrupted, unless it was cancelled before. It
stays so. -/
theorem outcome?_of_waiting {a : Archive} (h : p.Filed a) (hopen : p.isShutDown = false)
    (hcloses : p.shutDown.Closes q) (hn : n ∈ p.waiting) :
    q.outcome? n = some (if p.hasFinished n = true then .cancelled else .interrupted) := by
  obtain ⟨t, ht, hstays⟩ := h.waiting n hn
  have hstop : p.shutDown.tickets[n]? = some (t.finish .interrupted).2 := by
    rw [getElem?_shutDown hopen, if_pos hn, ht]
    rfl
  -- The stop interrupts the ticket, unless a cancellation came first, and what comes later leaves a
  -- finished ticket alone.
  obtain ⟨t', ht', hc⟩ := hcloses.ticket hstop
  rw [hc.eq_of_isFinished (Ticket.isFinished_finish ..)] at ht'
  rw [outcome?_eq ht', Ticket.outcome?_finish, hasFinished_eq ht]
  cases hf : t.isFinished with
  | true =>
    rw [hstays.outcome? Progress.queued_ne_finished hf]
    rfl
  | false =>
    rw [Ticket.isFinished, Option.isSome_eq_false_iff, Option.isNone_iff_eq_none] at hf
    rw [hf]
    rfl

/-- Only the tickets that were drained can have been interrupted. -/
theorem Counted.outcome?_ne_interrupted {a : Archive} (hcounted : p.Counted a) (h : p.Filed a)
    (hn : n ∉ a.drained) : p.outcome? n ≠ some .interrupted := by
  intro ho
  obtain ⟨t, ht, hto⟩ := Option.bind_eq_some_iff.1 ho
  -- Wherever a ticket waits or is worked on, it can only have finished as cancelled.
  have hstays {started : Bool} {progress : Progress} (hopen : ∀ o, progress ≠ .finished o)
      {l : List Nat} (hl : p.Each (Ticket.Stays started progress) l) : n ∉ l := by
    intro hmem
    obtain ⟨t', ht', hs⟩ := hl n hmem
    cases ht.symm.trans ht'
    have hcancelled := hs.outcome? hopen (Ticket.isFinished_of_outcome? hto)
    cases hto.symm.trans hcancelled
  -- A settled ticket has the outcome that its work ended with, which is no interruption.
  rcases h.mem_place ht with hmem | hmem | hmem | ⟨o, hmem⟩ | hmem
  · exact hstays Progress.queued_ne_finished h.waiting hmem
  · exact hstays Progress.running_ne_finished h.busy hmem
  · exact hstays Progress.running_ne_finished h.stranded hmem
  · obtain ⟨t', ht', ho'⟩ := h.settled n o hmem
    cases ht.symm.trans ht'
    cases hto.symm.trans ho'
    exact hcounted.settled n _ hmem rfl
  · exact hn hmem

/-- When no worker is busy, every ticket of a stopped pool has finished, but for those that were
left behind by workers that broke down. -/
theorem Filed.finished_or_abandoned {a : Archive} (h : p.Filed a) (hs : p.Stopped)
    (hidle : p.busy = []) (hn : n < p.tickets.length) :
    p.hasFinished n = true ∨ n ∈ p.abandoned := by
  have ht : p.tickets[n]? = some p.tickets[n] := List.getElem?_eq_getElem hn
  rw [hasFinished_eq ht]
  -- A stopped pool without work has no ticket that waits, and none that is worked on. The other
  -- three places remain.
  rcases h.mem_place ht with hmem | hmem | hmem | ⟨o, hmem⟩ | hmem
  · rw [Pool.waiting, hs.jobs] at hmem
    cases hmem
  · rw [hidle] at hmem
    cases hmem
  · exact .inr ((h.mem_abandoned n).2 hmem)
  · obtain ⟨t', ht', ho'⟩ := h.settled n o hmem
    cases ht.symm.trans ht'
    exact .inl (Ticket.isFinished_of_outcome? ho')
  · obtain ⟨t', ht', hfinished⟩ := h.drained n hmem
    cases ht.symm.trans ht'
    exact .inl hfinished

/-- How a ticket got its outcome does not depend on what follows. -/
theorem Closing.tail {r : Pool} {o : Outcome} (h : Closing n p q o) (hw : Winds q r) :
    Closing n p r o := by
  cases h with
  | ended hbefore hn hopen how hafter => exact .ended hbefore hn hopen how (hafter.tail hw)
  | cancelled hbefore hopen hafter => exact .cancelled hbefore hopen (hafter.tail hw)

/-- Under one thing that happens an open ticket stays as it is, or it gets an outcome. -/
theorem Winds.closing {r : Pool} (hw : Winds q r) (hbefore : WindsDown p q) (hbooked : q.Booked)
    {t : Ticket} (ht : q.tickets[n]? = some t) (hopen : t.isFinished = false) :
    r.tickets[n]? = some t ∨ ∃ o, r.outcome? n = some o ∧ Closing n p r o := by
  have hopen' : q.hasFinished n = false := (hasFinished_eq ht).trans hopen
  have hnone : t.outcome? = none := by
    rwa [Ticket.isFinished, Option.isSome_eq_false_iff, Option.isNone_iff_eq_none] at hopen
  cases hw with
  | cancels m =>
    by_cases hm : m = n
    · subst hm
      have hafter : (q.cancel m).2.tickets[m]? = some t.cancel.2 := by
        rw [cancel_snd, modifyTicket, getElem?_modify, if_pos rfl, ht]
        rfl
      refine .inr ⟨.cancelled, ?_, .cancelled hbefore hopen' .refl⟩
      rw [outcome?_eq hafter, Ticket.outcome?_cancel, hnone]
      rfl
    · left
      rw [cancel_snd, modifyTicket, getElem?_modify, if_neg hm, ht]
  | @ends m hm how =>
    by_cases hmn : m = n
    · subst hmn
      -- What occupies a worker and has not finished was not cancelled.
      obtain ⟨a, hfiled, -⟩ := hbooked
      obtain ⟨t', ht', hstays⟩ := hfiled.busy m hm
      cases ht.symm.trans ht'
      have hend : q.endOf m how = how.outcome := by
        rw [endOf, ht, Option.any_some, hstays.cancelled_eq_false hopen]
        rfl
      have hafter : (q.endWork m how).tickets[m]? = some (t.finish how.outcome).2 := by
        show (q.tickets.modify m fun t => (t.finish (q.endOf m how)).2)[m]? = _
        rw [getElem?_modify, if_pos rfl, ht, hend]
        rfl
      refine .inr ⟨how.outcome, ?_, .ended hbefore hm hopen' how .refl⟩
      rw [outcome?_eq hafter, Ticket.outcome?_finish, hnone]
      rfl
    · left
      show (q.tickets.modify m _)[n]? = _
      rw [getElem?_modify, if_neg hmn, ht]
  | @leaves m hm hf =>
    left
    have hmn : m ≠ n := by
      rintro rfl
      rw [hopen'] at hf
      cases hf
    show (q.tickets.modify m _)[n]? = _
    rw [getElem?_modify, if_neg hmn, ht]

/-- An outcome that an open ticket has later it got by the end of its work or by a cancellation. -/
theorem WindsDown.closing (hw : WindsDown p q) (hs : p.Stopped) {drained : List Nat}
    (hbooked : p.BookedWith drained) {t : Ticket} (ht : p.tickets[n]? = some t)
    (hopen : t.isFinished = false) :
    q.tickets[n]? = some t ∨ ∃ o, q.outcome? n = some o ∧ Closing n p q o := by
  -- By induction on what happens after the stop: the ticket closes at one step, or it is still as
  -- it was.
  induction hw with
  | refl => exact .inl ht
  | @tail q r hbefore hlast ih =>
    rcases ih with hsame | ⟨o, ho, hclosing⟩
    · exact hlast.closing hbefore (hbooked.windsDown hs hbefore).booked hsame hopen
    · -- The first outcome stays.
      obtain ⟨t', ht', hto⟩ := Option.bind_eq_some_iff.1 ho
      obtain ⟨t'', ht'', hc⟩ := (WindsDown.closes (.single hlast)).ticket ht'
      rw [hc.eq_of_isFinished (Ticket.isFinished_of_outcome? hto)] at ht''
      exact .inr ⟨o, (outcome?_eq ht'').trans hto, hclosing.tail hlast⟩

end

/-- What is left of a pool after its stop: `p` is the pool just before the stop, and `q` the pool
at any time after it. -/
structure Aftermath (lastly : Job → WorkEnd) (p q : Pool) : Prop where
  /-- All that has happened since the stop. -/
  winds : WindsDown p.shutDown q
  begun : q.begun = p.begun
  started : ∀ n, q.hasStarted n = p.hasStarted n
  submit : ∀ job, q.perturb lastly (.submit job) = (.refused .poolShutDown, q)
  schedulePurge : q.perturb lastly .schedulePurge = (.refused .poolShutDown, q)
  shutDown : q.shutDown = q
  tickets : q.tickets.length = p.tickets.length
  /-- A ticket that has finished stays as it is, before the stop and after it. -/
  kept : ∀ {n : Nat} {t : Ticket}, t.isFinished = true →
    (p.tickets[n]? = some t → q.tickets[n]? = some t) ∧
      ∀ r, WindsDown q r → q.tickets[n]? = some t → r.tickets[n]? = some t
  /-- What waited at the stop and was not cancelled by then is interrupted, and nothing else. -/
  interrupted : ∀ n, q.outcome? n = some .interrupted ↔ n ∈ p.waiting ∧ p.hasFinished n = false
  /-- What went on at the stop finishes with the outcome of its work, unless it is cancelled. -/
  held : ∀ {n o}, n ∉ p.waiting → p.hasFinished n = false → q.outcome? n = some o →
    Closing n p.shutDown q o
  /-- Once no worker is busy every ticket has finished, but for the abandoned ones. -/
  finished : q.busy = [] → ∀ n < q.tickets.length, q.hasFinished n = true ∨ n ∈ q.abandoned
  /-- The work that still goes on can be ended, and then no worker is busy. -/
  ends : ∀ how, WindsDown q (q.endAll how) ∧ (q.endAll how).busy = []

/-- The counters of a pool account for every job that was submitted, by how it ended. -/
structure Balanced (p : Pool) : Prop where
  submitted : p.counters.submitted = p.counters.completed + p.counters.failed
    + p.counters.cancelled + (p.numbers fun t => t.outcome?.any (·.isInterrupted)).length
  cancelled : p.counters.cancelled = (p.numbers fun t => t.outcome?.any (·.isCancelled)).length

section
variable {σ : Type} {hook : Hook σ} {lastly : Job → WorkEnd} {p q : Pool}

/-- The aftermath holds in every state that a pool winds down to. -/
theorem aftermath (hbooked : p.Booked) (hopen : p.isShutDown = false)
    (hw : WindsDown p.shutDown q) : Aftermath lastly p q := by
  have hs : p.shutDown.Stopped := stopped_shutDown hopen
  have hq : q.Stopped := hs.windsDown hw
  have hcloses := (closes_shutDown p).trans hw.closes
  have hstopped : p.shutDown.BookedWith p.waiting := hbooked.shutDown hopen
  obtain ⟨a, hfiled, -⟩ := hbooked
  obtain ⟨b, hfiled', hcounted', hdrained⟩ := hstopped.windsDown hs hw
  refine ⟨hw, hw.begun_eq.trans (begun_shutDown p), hcloses.hasStarted, hq.submit_eq lastly,
    hq.schedulePurge_eq lastly, hq.shutDown_eq, hcloses.length_tickets, ?_, ?_, ?_,
    fun hidle n => hfiled'.finished_or_abandoned hq hidle,
    fun how => ⟨windsDown_endAll how q, busy_endAll how hfiled'⟩⟩
  · -- A ticket that had finished before the stop stays as it is.
    intro n t hf
    have hstays {p q : Pool} (hcloses : p.Closes q) (ht : p.tickets[n]? = some t) :
        q.tickets[n]? = some t := by
      obtain ⟨t', ht', hc⟩ := hcloses.ticket ht
      rwa [hc.eq_of_isFinished hf] at ht'
    exact ⟨hstays hcloses, fun r hr => hstays hr.closes⟩
  · -- The tickets that the stop interrupts are those that waited and were not cancelled.
    intro n
    by_cases hn : n ∈ p.waiting
    · rw [outcome?_of_waiting hfiled hopen hw.closes hn]
      cases p.hasFinished n <;> simp [hn]
    · have hne := hcounted'.outcome?_ne_interrupted hfiled' (hdrained ▸ hn)
      simp [hn, hne]
  · -- A ticket that did not wait is open after the stop as well, so its outcome comes later.
    intro n o hn hf ho
    obtain ⟨t', ht', hto⟩ := Option.bind_eq_some_iff.1 ho
    obtain ⟨t, ht, -⟩ := hcloses.ticket_before ht'
    have hstop : p.shutDown.tickets[n]? = some t := by
      rw [getElem?_shutDown hopen, if_neg hn, ht]
    have hft : t.isFinished = false := (hasFinished_eq ht).symm.trans hf
    rcases hw.closing hs hstopped hstop hft with hsame | ⟨o', ho', hclosing⟩
    · cases ht'.symm.trans hsame
      rw [Ticket.isFinished_of_outcome? hto] at hft
      cases hft
    · cases ho.symm.trans ho'
      exact hclosing

/-! ### The counters of a stopped pool -/

/-- The jobs that a purge would drop are those that wait and were cancelled. -/
theorem purgeCount_eq (p : Pool) : p.purgeCount = p.waiting.countP p.hasFinished := by
  rw [waiting, List.countP_map]
  rfl

/-- A pool `q` in which no worker is busy any more, some time after the stop of `p`, and the
archives of both. -/
structure WoundUp (a b : Archive) (p q : Pool) : Prop where
  before : p.Filed a
  isOpen : p.isShutDown = false
  closes : p.shutDown.Closes q
  filed : q.Filed b
  counted : q.Counted b
  stopped : q.Stopped
  idle : q.busy = []
  /-- What waited at the stop was drained by it, and nothing else. -/
  drained : b.drained = p.waiting

section
variable {a b : Archive} (h : WoundUp a b p q)

include h

/-- The tickets with an outcome of some kind are those that were settled with one, those that waited
at the stop, and the abandoned ones that were cancelled. -/
theorem WoundUp.length_kind (kind : Outcome → Bool) :
    (q.numbers fun t => t.outcome?.any kind).length
      = q.abandoned.countP (fun n => q.hasFinished n && kind .cancelled)
        + (b.settled.countP (kind ·.2) + p.waiting.countP fun n =>
            kind (if p.hasFinished n = true then .cancelled else .interrupted)) := by
  have hany (n : Nat) : (q.tickets[n]?.any fun t => t.outcome?.any kind)
      = (q.outcome? n).any kind := by
    rw [Pool.outcome?]
    cases q.tickets[n]? <;> rfl
  have hempty : q.waiting = [] := by
    rw [Pool.waiting, h.stopped.jobs]
    rfl
  -- Neither waiting nor worked on, a ticket is abandoned, settled or drained. Each kind is counted
  -- over the numbers of its place.
  rw [length_numbers, h.filed.countP_range, hempty, h.idle, List.countP_nil, Nat.zero_add,
    Nat.zero_add]
  congr 1
  · rw [h.filed.abandoned_perm.countP_eq]
    refine List.countP_congr fun n hn => ?_
    obtain ⟨t, ht, hstays⟩ := h.filed.stranded n hn
    rw [ht, Option.any_some, hasFinished_eq ht]
    cases hf : t.isFinished with
    | true => rw [hstays.outcome? Progress.running_ne_finished hf]; simp
    | false =>
      rw [Ticket.isFinished, Option.isSome_eq_false_iff, Option.isNone_iff_eq_none] at hf
      rw [hf]
      simp
  · congr 1
    · exact List.countP_congr fun e he => by rw [h.filed.any_settled kind he]
    · rw [h.drained]
      refine List.countP_congr fun n hn => ?_
      rw [hany, outcome?_of_waiting h.before h.isOpen h.closes hn, Option.any_some]

/-- What waited and was not cancelled by then is interrupted. -/
theorem WoundUp.length_interrupted :
    (q.numbers fun t => t.outcome?.any (·.isInterrupted)).length
      = p.waiting.countP fun n => !p.hasFinished n := by
  have hsettled : b.settled.countP (·.2.isInterrupted) = 0 := by
    refine List.countP_eq_zero.2 fun e he => ?_
    have hne := h.counted.settled e.1 e.2 he
    cases ho : e.2 with
    | interrupted => exact absurd ho hne
    | completed | failed | cancelled => exact Bool.false_ne_true
  have hwaits : (p.waiting.countP fun n =>
      (if p.hasFinished n = true then Outcome.cancelled else .interrupted).isInterrupted)
        = p.waiting.countP fun n => !p.hasFinished n :=
    -- Among the drained tickets the interrupted are those that were not cancelled before.
    List.countP_congr fun n _ => by cases p.hasFinished n <;> simp [Outcome.isInterrupted]
  rw [h.length_kind (·.isInterrupted), hsettled, hwaits]
  simp [Outcome.isInterrupted]

/-- The counter of the cancelled jobs misses those that were cancelled and still waited at the stop,
and those that were cancelled after their worker had broken down. -/
theorem WoundUp.length_cancelled :
    (q.numbers fun t => t.outcome?.any (·.isCancelled)).length
      = q.counters.cancelled + p.purgeCount + (q.abandoned.filter q.hasFinished).length := by
  have hwaits : (p.waiting.countP fun n =>
      (if p.hasFinished n = true then Outcome.cancelled else .interrupted).isCancelled)
        = p.purgeCount := by
    rw [purgeCount_eq]
    exact List.countP_congr fun n _ => by cases p.hasFinished n <;> simp [Outcome.isCancelled]
  have habandoned : (q.abandoned.countP fun n =>
      q.hasFinished n && Outcome.isCancelled .cancelled)
        = (q.abandoned.filter q.hasFinished).length := by
    -- The abandoned tickets that finished were all cancelled.
    rw [← List.countP_eq_length_filter]
    exact List.countP_congr fun n _ => by simp [Outcome.isCancelled]
  rw [h.length_kind (·.isCancelled), habandoned, hwaits, ← h.counted.cancelled]
  omega

/-- Every job that was submitted is in one of the counters, interrupted, missed by the stop or
lost with a worker. -/
theorem WoundUp.submitted : q.counters.submitted = q.counters.completed + q.counters.failed
    + q.counters.cancelled + (q.numbers fun t => t.outcome?.any (·.isInterrupted)).length
      + p.purgeCount + q.lost := by
  have hwaiting :
      p.waiting.length = p.purgeCount + p.waiting.countP (fun n => !p.hasFinished n) := by
    rw [purgeCount_eq, List.length_eq_countP_add_countP p.hasFinished]
    simp
  -- All tickets are counted by place, and the waiting ones of the stopped pool are told apart by
  -- whether they were cancelled.
  have hlength := h.filed.length_tickets
  have hsettled := length_eq_countP h.counted.settled
  rw [h.stopped.jobs, h.idle, h.drained, hwaiting, ← h.filed.lost] at hlength
  rw [h.length_interrupted, h.counted.submitted, hlength, hsettled, h.counted.completed,
    h.counted.failed, h.counted.cancelled]
  simp only [List.length_nil]
  omega

end

/-- Callers and workers do what they like until the pool is stopped, and afterwards, until no
worker is busy. Then the counters miss the jobs that were cancelled and still waited at the stop,
which are those that a purge just before the stop would have dropped. They also miss a job for
each worker that broke down. So they account for every job that was submitted exactly if there are
no such jobs. A hook must not crash, and while it does not, no worker breaks down. -/
theorem reaches_balanced_iff {settings : PoolSettings} {work : Job → Work} {priority : Priority}
    {new : Pool} (hnew : Pool.new settings work priority = .ok new) {s₀ s s' : σ}
    (h : Reaches hook lastly (new, s₀) (p, s)) (hopen : p.isShutDown = false)
    (h' : Reaches hook lastly (p.shutDown, s) (q, s')) (hidle : q.busy = []) :
    q.counters.submitted = q.counters.completed + q.counters.failed + q.counters.cancelled
        + (q.numbers fun t => t.outcome?.any (·.isInterrupted)).length + p.purgeCount + q.lost ∧
      (q.numbers fun t => t.outcome?.any (·.isCancelled)).length
        = q.counters.cancelled + p.purgeCount + (q.abandoned.filter q.hasFinished).length ∧
      (q.Balanced ↔ p.purgeCount = 0 ∧ q.lost = 0) ∧
      ((∀ job s, (hook job s).1 = true) → q.lost = 0) := by
  have hs : p.shutDown.Stopped := stopped_shutDown hopen
  have hw : WindsDown p.shutDown q := (hs.windsDown_reaches h').2
  have hbooked : p.Booked := booked_of_reaches hnew h
  have hstopped : p.shutDown.BookedWith p.waiting := hbooked.shutDown hopen
  obtain ⟨a, hfiled, -⟩ := hbooked
  obtain ⟨b, hfiled', hcounted', hdrained⟩ := hstopped.windsDown hs hw
  have hend : WoundUp a b p q :=
    ⟨hfiled, hopen, hw.closes, hfiled', hcounted', hs.windsDown hw, hidle, hdrained⟩
  have hall : Reaches hook lastly (new, s₀) (q, s') := (h.tail (.stops p s)).trans h'
  have hsubmitted := hend.submitted
  refine ⟨hsubmitted, hend.length_cancelled, ⟨?_, ?_⟩, fun hhook => lost_of_reaches hnew hhook hall⟩
  · -- The counters of the finished pool sum up to all submissions but the cancelled ones that the
    -- stop drained and those that were lost.
    intro hbalanced
    have hsum := hbalanced.submitted
    omega
  · rintro ⟨hpurge, hlost⟩
    have habandoned : q.abandoned = [] :=
      List.eq_nil_of_length_eq_zero (hfiled'.length_abandoned.trans hlost)
    refine ⟨by omega, ?_⟩
    rw [hend.length_cancelled, hpurge, habandoned]
    rfl

/-- One job runs, and another was cancelled while it waited. -/
def cancelledWaiting : Pool × List String :=
  let steps : List Step := [.submit { id := "a", submittedAt := 0 },
    .submit { id := "b", submittedAt := 1 }, .cancel 1]
  (run listing .standard steps oneWorker []).2

/-- Both jobs have their outcome after the stop, but only one of them is counted. -/
theorem reaches_balanced_iff_cancelledWaiting :
    let p := cancelledWaiting.1
    let q := p.shutDown.endAll .standard
    p.isShutDown = false ∧ q.busy = [] ∧ p.purgeCount = 1 ∧ q.lost = 0 ∧
      (q.Balanced ↔ p.purgeCount = 0 ∧ q.lost = 0) := by
  have hnew : Pool.new (.ofWorkers 1) oneWorker.work .latest = .ok oneWorker := rfl
  have hreaches : Reaches listing .standard (oneWorker, []) cancelledWaiting :=
    reaches_run listing .standard _ oneWorker []
  have hopen : cancelledWaiting.1.isShutDown = false := by decide +kernel
  have hpurge : cancelledWaiting.1.purgeCount = 1 := by decide +kernel
  have hidle : (cancelledWaiting.1.shutDown.endAll .standard).busy = [] := by decide +kernel
  have hreaches' : Reaches listing .standard (cancelledWaiting.1.shutDown, cancelledWaiting.2)
      (cancelledWaiting.1.shutDown.endAll .standard, cancelledWaiting.2) :=
    (windsDown_endAll .standard _).reaches listing .standard _
  have hstop := reaches_balanced_iff hnew hreaches hopen hreaches' hidle
  exact ⟨hopen, hidle, hpurge, hstop.2.2.2 fun _ _ => rfl, hstop.2.2.1⟩

/-- The counters do not account for the job that was cancelled while it waited. -/
theorem not_balanced_cancelledWaiting :
    let q := cancelledWaiting.1.shutDown.endAll .standard
    ¬ q.Balanced ∧ q.counters.submitted = 2 ∧ q.counters.completed = 1 ∧ q.counters.failed = 0 ∧
      q.counters.cancelled = 0 ∧ q.outcome? 1 = some .cancelled := by
  refine ⟨fun hbalanced => ?_, ?_, ?_, ?_, ?_, ?_⟩
  · have hnumbers : ((cancelledWaiting.1.shutDown.endAll .standard).numbers fun t =>
        t.outcome?.any (·.isCancelled)).length = 1 := by decide +kernel
    have hcounted : (cancelledWaiting.1.shutDown.endAll .standard).counters.cancelled = 0 := by
      decide +kernel
    exact absurd (hcounted.symm.trans (hbalanced.cancelled.trans hnumbers)) Nat.zero_ne_one
  all_goals decide +kernel

end

end Pool

end JobScheduling
