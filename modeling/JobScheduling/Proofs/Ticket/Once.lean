import JobScheduling.Ticket
import Mathlib.Data.List.Induction

/-!
# `JobScheduling.Proofs.Ticket.Once`: a ticket finishes once

Many can hold one ticket, and each of them may begin, cancel or finish it. The calls follow one
another in some order, so whatever the holders do is one list of calls on one ticket.
`Ticket.made` lists the calls with their answers.

* The ticket tells what was made of it (`Told`): whether a beginning was answered with yes, whether
  a cancellation was, and the outcome of the first call that finishes. One call keeps that
  (`Told.call`), so any list of them does (`told_calls`).
* What a call is answered depends on the calls before it only, so the answers in the middle of a
  list follow from what the ticket tells there (`made_split`).
* A ticket can as well be kept in four parts that are written one by one (`Parts`): how far the
  execution is, whether it was taken up, the outcome, and the mark of a cancellation. The parts are
  those of the ticket after every list of calls (`parts_calls`), so they never disagree.

`calls_once` puts this together.
-/

set_option autoImplicit false

namespace JobScheduling

namespace Ticket

/-- The outcome that a call gives the ticket that it finishes. A beginning finishes none. -/
def Call.outcome? : Call → Option Outcome
  | .begin => none
  | .cancel => some .cancelled
  | .finish outcome => some outcome

/-- Whether the call is one that finishes a ticket. -/
def Call.finishes (c : Call) : Bool := c.outcome?.isSome

/-- Calls on a ticket, each with its answer. -/
def made (cs : List Call) (t : Ticket) : List (Call × Bool) := cs.zip (calls cs t).1

/-- Whether a call has finished the ticket. -/
def hasFinished (m : Call × Bool) : Bool := m.1.finishes && m.2

/-! ### Calls one after the other -/

/-- Every call is answered. -/
theorem length_calls (cs : List Call) (t : Ticket) : (calls cs t).1.length = cs.length := by
  induction cs generalizing t with
  | nil => rfl
  | cons c cs ih => exact congrArg Nat.succ (ih (call c t).2)

/-- Calls that come later go on from the ticket that the first ones left. -/
theorem calls_append (cs later : List Call) (t : Ticket) :
    calls (cs ++ later) t
      = ((calls cs t).1 ++ (calls later (calls cs t).2).1, (calls later (calls cs t).2).2) := by
  induction cs generalizing t with
  | nil => rfl
  | cons c cs ih =>
    simp only [List.cons_append, calls]
    rw [ih (call c t).2]

/-- What is made of the calls is made in their order. -/
theorem made_append (cs later : List Call) (t : Ticket) :
    made (cs ++ later) t = made cs t ++ made later (calls cs t).2 := by
  simp only [made, calls_append]
  exact List.zip_append (length_calls cs t).symm

/-- What is made lists the calls themselves. -/
theorem map_fst_made (cs : List Call) (t : Ticket) : (made cs t).map Prod.fst = cs :=
  List.map_fst_zip (Nat.le_of_eq (length_calls cs t).symm)

/-- A call in the middle is answered by the ticket as the calls before it have left it. -/
theorem made_split {cs : List Call} {t : Ticket} {before after : List (Call × Bool)} {c : Call}
    {answer : Bool} (h : made cs t = before ++ (c, answer) :: after) :
    ∃ first, before = made first t ∧ answer = (call c (calls first t).2).1 := by
  have hcs : cs = before.map Prod.fst ++ c :: after.map Prod.fst := by
    rw [← map_fst_made cs t, h, List.map_append, List.map_cons]
  refine ⟨before.map Prod.fst, ?_⟩
  rw [hcs, made_append] at h
  have hlength : (made (before.map Prod.fst) t).length = before.length := by
    rw [← List.length_map Prod.fst, map_fst_made, List.length_map]
  obtain ⟨hbefore, hrest⟩ := List.append_inj h hlength
  exact ⟨hbefore.symm, (congrArg Prod.snd (List.cons.inj hrest).1).symm⟩

/-! ### Single calls -/

/-- A ticket that has finished answers every call with no and stays as it is. -/
theorem call_of_finished (c : Call) {t : Ticket} (h : t.isFinished = true) :
    call c t = (false, t) := by
  cases c with
  | begin =>
    obtain ⟨job, progress, started, cancelled⟩ := t
    cases progress with
    | finished outcome => rfl
    | queued | running => cases h
  | cancel => simp [call, cancel, h]
  | finish outcome => simp [call, finish, h]

/-- A call that finishes a ticket which has not finished. -/
theorem call_of_open {c : Call} {outcome : Outcome} {t : Ticket} (hc : c.outcome? = some outcome)
    (h : t.isFinished = false) :
    call c t = (true, { t with
      progress := .finished outcome
      cancelled := t.cancelled || c == .cancel }) := by
  -- The two calls that finish a ticket, on one that is open.
  cases c with
  | begin => cases hc
  | cancel =>
    cases hc
    simp [call, cancel, h]
  | finish o =>
    cases hc
    simp [call, finish, h]

/-- A call that can finish the ticket answers whether it does so. -/
theorem call_fst {c : Call} (hc : c.finishes = true) (t : Ticket) :
    (call c t).1 = !t.isFinished := by
  cases h : t.isFinished with
  | true => rw [call_of_finished c h]; rfl
  | false =>
    obtain ⟨outcome, houtcome⟩ := Option.isSome_iff_exists.1 hc
    rw [call_of_open houtcome h]
    rfl

/-! ### What the ticket tells -/

/-- The ticket tells what calls were made and how they were answered. -/
structure Told (log : List (Call × Bool)) (t : Ticket) : Prop where
  /-- One beginning at most was answered with yes. -/
  began : log.count (.begin, true) = t.started.toNat
  queued : t.progress = .queued → t.started = false
  finished : t.isFinished = log.any (·.1.finishes)
  outcome : t.outcome? = (log.find? hasFinished).bind (·.1.outcome?)
  cancelled : t.cancelled = true ↔ (.cancel, true) ∈ log
  /-- The mark of a cancellation stands for its outcome. -/
  marked : t.cancelled = true → t.outcome? = some .cancelled

/-- Of a ticket that was just given out there is nothing to tell. -/
theorem told_fresh (job : Job) : Told [] { job } where
  began := rfl
  queued _ := rfl
  finished := rfl
  outcome := rfl
  cancelled := by simp
  marked := nofun

section
variable {log : List (Call × Bool)} {t : Ticket} (h : Told log t)

include h

/-- A call that is answered with no, on a ticket that stays as it is. -/
theorem Told.ignored {c : Call} (hc : c.finishes = true → t.isFinished = true) :
    Told (log ++ [(c, false)]) t where
  began := by simpa [List.count_append] using h.began
  queued := h.queued
  finished := by
    rw [List.any_append, ← h.finished]
    -- A call that finishes was ignored, so the ticket had finished before.
    cases hf : t.isFinished with
    | true => rfl
    | false =>
      have hc' : c.finishes = false := Bool.eq_false_iff.2 fun hc' => by
        rw [hc hc'] at hf
        cases hf
      simp [hc']
  outcome := by
    have hskip : [(c, false)].find? hasFinished = none := by simp [hasFinished]
    rw [List.find?_append, hskip, Option.or_none, h.outcome]
  cancelled := by simpa using h.cancelled
  marked := h.marked

/-- As long as the ticket has not finished, no call has finished it. -/
theorem Told.find?_of_open (hopen : t.isFinished = false) : log.find? hasFinished = none := by
  rw [List.find?_eq_none]
  intro m hm hfinished
  have hany := h.finished.symm.trans hopen
  simp only [hasFinished, Bool.and_eq_true] at hfinished
  exact List.any_eq_false.1 hany m hm hfinished.1

/-- The call that finishes the ticket. -/
theorem Told.finishing {c : Call} {outcome : Outcome} (hc : c.outcome? = some outcome)
    (hopen : t.isFinished = false) :
    Told (log ++ [(c, true)]) { t with
      progress := .finished outcome
      cancelled := t.cancelled || c == .cancel } := by
  have hfinishes : c.finishes = true := by rw [Call.finishes, hc]; rfl
  have hbegin : c ≠ .begin := by rintro rfl; cases hc
  -- An open ticket has no mark, so no cancellation was answered with yes.
  have hmark : t.cancelled = false := Bool.eq_false_iff.2 fun hmark => by
    rw [isFinished, h.marked hmark] at hopen
    cases hopen
  have hnew : (Call.cancel, true) ∉ log := fun hin => by
    rw [h.cancelled.2 hin] at hmark
    cases hmark
  exact
    { began := by
        rw [List.count_append, h.began]
        simp [hbegin]
      queued := nofun
      finished := by simp [hfinishes, isFinished, outcome?]
      outcome := by
        rw [List.find?_append, h.find?_of_open hopen]
        simp [hasFinished, hfinishes, outcome?, hc]
      cancelled := by
        rw [hmark, Bool.false_or, beq_iff_eq, List.mem_append, List.mem_singleton, Prod.mk.injEq]
        exact ⟨fun hcancel => .inr ⟨hcancel.symm, rfl⟩,
          fun hin => (hin.resolve_left hnew).1.symm⟩
      marked := by
        intro hmarked
        have hcancel : c = .cancel := by simpa [hmark] using hmarked
        subst hcancel
        cases hc
        rfl }

/-- The beginning of a job that waits for a worker. -/
theorem Told.beginning (hqueued : t.progress = .queued) :
    Told (log ++ [(.begin, true)]) { t with progress := .running, started := true } where
  began := by
    rw [List.count_append, h.began, h.queued hqueued]
    rfl
  queued := nofun
  finished := by
    rw [List.any_append, ← h.finished, isFinished, isFinished, outcome?, outcome?, hqueued]
    rfl
  outcome := by
    have hskip : [(Call.begin, true)].find? hasFinished = none := rfl
    rw [List.find?_append, hskip, Option.or_none, ← h.outcome, outcome?, outcome?, hqueued]
  cancelled := by simpa using h.cancelled
  marked := by
    intro hmark
    -- A mark on the ticket would be an outcome, and it is queued.
    have houtcome := h.marked hmark
    rw [outcome?, hqueued] at houtcome
    cases houtcome

/-- One call more, with its answer: it is ignored, or finishes the ticket, or begins the job. -/
theorem Told.call (c : Call) : Told (log ++ [(c, (Ticket.call c t).1)]) (Ticket.call c t).2 := by
  -- A ticket that has finished ignores all calls. An open one is finished, or begins, or ignores
  -- another beginning.
  cases hopen : t.isFinished with
  | true =>
    rw [call_of_finished c hopen]
    exact h.ignored fun _ => hopen
  | false =>
    cases hc : c.outcome? with
    | some outcome =>
      rw [call_of_open hc hopen]
      exact h.finishing hc hopen
    | none =>
      have hbegin : c = .begin := by cases c <;> first | rfl | cases hc
      subst hbegin
      simp only [Ticket.call, begin?]
      split
      next hqueued => exact h.beginning hqueued
      next => exact h.ignored nofun

end

/-- After any calls the ticket tells what they were. -/
theorem told_calls (job : Job) (cs : List Call) : Told (made cs { job }) (calls cs { job }).2 := by
  induction cs using List.reverseRecOn with
  | nil => exact told_fresh job
  | append_singleton cs c ih =>
    rw [made_append, calls_append]
    exact ih.call c

/-! ### A ticket in four parts -/

/-- How far an execution is. -/
inductive Phase
  | queued
  | running
  | finished
  deriving DecidableEq, Repr

/-- The parts of a ticket, each of which could be written on its own. -/
structure Parts where
  phase : Phase := .queued
  started : Bool := false
  outcome : Option Outcome := none
  cancelled : Bool := false
  deriving DecidableEq, Repr

namespace Parts

/-- Makes one call, which reads some of the parts and writes some. -/
def call (c : Call) (p : Parts) : Bool × Parts :=
  match c with
  | .begin =>
    if p.phase ≠ .queued ∨ p.cancelled then (false, p)
    else (true, { p with phase := .running, started := true })
  | .cancel =>
    if p.phase = .finished then (false, p)
    else (true, { p with cancelled := true, phase := .finished, outcome := some .cancelled })
  | .finish outcome =>
    if p.phase = .finished then (false, p)
    else (true, { p with phase := .finished, outcome := some outcome })

/-- Makes calls one after the other, and lists what they answered. -/
def calls : List Call → Parts → List Bool × Parts
  | [], p => ([], p)
  | c :: rest, p =>
    let (answer, p) := call c p
    let (answers, p) := calls rest p
    (answer :: answers, p)

end Parts

/-- The phase of a ticket. -/
def phase (t : Ticket) : Phase :=
  match t.progress with
  | .queued => .queued
  | .running => .running
  | .finished _ => .finished

/-- The parts that a ticket has. -/
def parts (t : Ticket) : Parts where
  phase := t.phase
  started := t.started
  outcome := t.outcome?
  cancelled := t.cancelled

/-- The phase tells whether there is an outcome. -/
theorem phase_eq_finished_iff (t : Ticket) : t.phase = .finished ↔ t.isFinished = true := by
  simp only [phase, isFinished, outcome?]
  cases t.progress <;> simp

/-- The phase tells whether the ticket is queued. -/
theorem phase_eq_queued_iff (t : Ticket) : t.phase = .queued ↔ t.progress = .queued := by
  simp only [phase]
  cases t.progress <;> simp

/-- A call writes the parts as it changes the ticket, when the mark of a cancellation is set on
finished tickets only. -/
theorem parts_call (c : Call) {t : Ticket} (h : t.cancelled = true → t.isFinished = true) :
    t.parts.call c = ((call c t).1, (call c t).2.parts) := by
  cases c with
  | begin =>
    -- The mark need not be asked for, since it is not set while the job waits for a worker.
    have hmark : t.progress = .queued → t.cancelled = false := fun hqueued =>
      Bool.eq_false_iff.2 fun hmark => by
        have hfinished := h hmark
        rw [isFinished, outcome?, hqueued] at hfinished
        cases hfinished
    simp only [Parts.call, parts, call, begin?, ne_eq, phase_eq_queued_iff]
    cases hp : t.progress <;> simp_all [phase, outcome?]
  | cancel =>
    simp only [Parts.call, parts, call, cancel, phase_eq_finished_iff]
    cases t.isFinished <;> rfl
  | finish outcome =>
    simp only [Parts.call, parts, call, finish, phase_eq_finished_iff]
    cases t.isFinished <;> rfl

/-- The parts answer all calls as the ticket does, and stay those of the ticket. -/
theorem parts_calls (later : List Call) {log : List (Call × Bool)} {t : Ticket} (h : Told log t) :
    t.parts.calls later = ((calls later t).1, (calls later t).2.parts) := by
  induction later generalizing log t with
  | nil => rfl
  | cons c later ih =>
    have hmark (hcancelled : t.cancelled = true) : t.isFinished = true := by
      rw [isFinished, h.marked hcancelled]
      rfl
    simp only [Parts.calls, parts_call c hmark, ih (h.call c), calls]

/-! ### The result -/

/-- What the calls on a ticket that finishes once were answered, and what the ticket is after
them. -/
structure Once (log : List (Call × Bool)) (t : Ticket) : Prop where
  /-- One beginning at most is answered with yes. -/
  begins : log.count (.begin, true) ≤ 1
  /-- It is so before any call has finished the ticket. -/
  beginsOpen : ∀ before after, log = before ++ (.begin, true) :: after →
    ∀ m ∈ before, hasFinished m = false
  /-- Of the calls that can finish the ticket the first is answered with yes, and no other. -/
  finishes : ∀ before c answer after, log = before ++ (c, answer) :: after → c.finishes = true →
    (answer = true ↔ ∀ m ∈ before, m.1.finishes = false)
  /-- The outcome is there from that call on, and is the one that the call gives. -/
  outcome : t.outcome? = (log.find? hasFinished).bind (·.1.outcome?)
  finished : t.isFinished = true ↔ ∃ m ∈ log, hasFinished m = true
  isFinished_iff : t.isFinished = true ↔ ∃ outcome, t.outcome? = some outcome
  cancelled : t.cancelled = true ↔ (.cancel, true) ∈ log
  outcome_cancelled : t.cancelled = true → t.outcome? = some .cancelled
  started : t.started = true ↔ (.begin, true) ∈ log

section
variable {job : Job} {cs : List Call}

/-- A ticket has started if one beginning was answered with yes. -/
theorem Told.started_iff {log : List (Call × Bool)} {t : Ticket} (h : Told log t) :
    t.started = true ↔ (.begin, true) ∈ log := by
  rw [← List.count_pos_iff, h.began]
  cases t.started <;> simp

/-- The ticket has finished when a call was answered so. -/
theorem Told.finished_iff {log : List (Call × Bool)} {t : Ticket} (h : Told log t) :
    t.isFinished = true ↔ ∃ m ∈ log, hasFinished m = true := by
  rw [← List.find?_isSome]
  cases hf : t.isFinished with
  | false => simp [h.find?_of_open hf]
  | true =>
    rw [isFinished, h.outcome] at hf
    cases hfind : log.find? hasFinished with
    | none => rw [hfind] at hf; cases hf
    | some m => simp

/-- A beginning is answered with yes on a ticket that has not finished. -/
theorem hasFinished_of_begin {before after : List (Call × Bool)}
    (h : made cs { job } = before ++ (.begin, true) :: after) {m : Call × Bool} (hm : m ∈ before) :
    hasFinished m = false := by
  obtain ⟨first, rfl, hanswer⟩ := made_split h
  cases hf : (calls first { job }).2.isFinished with
  | true =>
    rw [call_of_finished _ hf] at hanswer
    cases hanswer
  | false =>
    have hnone := (told_calls job first).find?_of_open hf
    exact Bool.eq_false_iff.2 (List.find?_eq_none.1 hnone m hm)

/-- The first call that can finish the ticket does so. -/
theorem answer_iff_first {before after : List (Call × Bool)} {c : Call} {answer : Bool}
    (h : made cs { job } = before ++ (c, answer) :: after) (hc : c.finishes = true) :
    answer = true ↔ ∀ m ∈ before, m.1.finishes = false := by
  obtain ⟨first, rfl, rfl⟩ := made_split h
  rw [call_fst hc, (told_calls job first).finished, Bool.not_eq_true', List.any_eq_false]
  simp only [Bool.not_eq_true]

end

/-- A ticket finishes once. Take any calls on a new ticket, made by any number of holders in any
order, and any further ones after them. The answers to the first ones, and the ticket after them,
are those of a ticket that finishes once (`Once`). An outcome does not change by the further calls,
and a start stays. A ticket in four parts that are written one by one answers the same and agrees
with the ticket, so there too it has finished exactly when its outcome is written. -/
theorem calls_once (job : Job) (cs later : List Call) :
    let log := made cs { job }
    let t := (calls cs { job }).2
    let t' := (calls (cs ++ later) { job }).2
    log.map Prod.fst = cs ∧ Once log t ∧
      (∀ outcome, t.outcome? = some outcome → t'.outcome? = some outcome) ∧
      (t.started = true → t'.started = true) ∧
      Parts.calls cs {} = (log.map Prod.snd, t.parts) ∧
      (t.parts.phase = .finished ↔ ∃ outcome, t.parts.outcome = some outcome) := by
  intro log t t'
  have h : Told log t := told_calls job cs
  have h' : Told (log ++ made later t) t' := by
    rw [← made_append]
    exact told_calls job (cs ++ later)
  have honce : Once log t :=
    { begins := Nat.le_trans (Nat.le_of_eq h.began) (Bool.toNat_le _)
      beginsOpen := fun _ _ hlog _ hm => hasFinished_of_begin hlog hm
      finishes := fun _ _ _ _ hlog hc => answer_iff_first hlog hc
      outcome := h.outcome
      finished := h.finished_iff
      isFinished_iff := Option.isSome_iff_exists
      cancelled := h.cancelled
      outcome_cancelled := h.marked
      started := h.started_iff }
  -- The first outcome in the log stays the first, however the log goes on.
  refine ⟨map_fst_made cs _, honce, ?_, ?_, ?_, ?_⟩
  · intro outcome houtcome
    rw [h'.outcome, List.find?_append]
    rw [h.outcome] at houtcome
    cases hfind : log.find? hasFinished with
    | none => rw [hfind] at houtcome; cases houtcome
    | some m => rw [hfind] at houtcome; exact houtcome
  · intro hstarted
    exact h'.started_iff.2 (List.mem_append_left _ (h.started_iff.1 hstarted))
  · rw [show log.map Prod.snd = (calls cs { job }).1 from
      List.map_snd_zip (Nat.le_of_eq (length_calls cs _))]
    exact parts_calls cs (told_fresh job)
  · rw [show t.parts.phase = t.phase from rfl, phase_eq_finished_iff]
    exact Option.isSome_iff_exists

/-- A job that is cancelled while it waits never begins, and a late outcome is dropped. -/
example : calls [.cancel, .begin, .finish .interrupted, .cancel] { job := ⟨"a", 0, none, .null⟩ }
    = ([true, false, false, false],
      { job := ⟨"a", 0, none, .null⟩, progress := .finished .cancelled, cancelled := true }) := rfl

end Ticket

end JobScheduling
