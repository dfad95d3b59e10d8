import JobScheduling.Registry.Record
import Mathlib.Data.List.Chain
import Mathlib.Logic.Relation

/-!
# `JobScheduling.Proofs.Registry.Moves`: what a record keeps

Every operation of the registry changes a record by a sequence of moves, and there are
only five of them (`Record.Move`): a status check, the start of the work, a request to
stop, the stop itself, and the end of the work. `Record.Moves` is the reflexive and
transitive closure.

Two things follow from that, each by a case per move:

* `Lawful.move`: a move keeps the fields of a record in step with its stage and its
  history. `Record.Lawful` lists what that means field by field.
* `Move.evolves`: a move of a lawful record keeps its job and its number, extends its
  history, does not touch a reason once it is stored, and leaves the status of a record
  that has ended alone.

The operations enter through `start_moves`, `cancel_moves` and `finish_moves`, which spell
them out as moves. A change to one of them concerns that lemma only.
-/

set_option autoImplicit false

namespace JobScheduling

namespace Record

/-- One change of a record at a time. A stage is left only by a move that the lifecycle
has. -/
inductive Move (now : Nat) (r : Record) : Record → Prop
  /-- The client checks the status. -/
  | check : Move now r (r.checked now)
  /-- The work begins. -/
  | start (h : r.stage = .waiting) : Move now r ((r.enter .running).stampStart now)
  /-- The job is asked to stop. -/
  | ask (reason : String) (h : r.stage = .waiting ∨ r.stage = .running) :
      Move now r ((r.enter .canceling).withError reason)
  /-- A job that was asked to stop has stopped. -/
  | stop (h : r.stage = .canceling) : Move now r ((r.enter .canceled).stampEnd now)
  /-- The work of a running job ends. -/
  | conclude (ending : Ending) (h : r.stage = .running) : Move now r (r.conclude now ending)

/-- Any number of moves at one time. -/
abbrev Moves (now : Nat) : Record → Record → Prop := Relation.ReflTransGen (Move now)

/-- The fields of a record are in step with its stage and its history. -/
structure Lawful (r : Record) : Prop where
  first : r.history.head? = some .waiting
  last : r.history.getLast? = some r.stage
  /-- Each stage of the history follows from the one before it. -/
  lifecycle : r.history.IsChain fun a b => a.canMoveTo b = true
  started : r.status.startedAt.isSome = true ↔ .running ∈ r.history
  completed : r.status.completedAt.isSome = true ↔ r.isFinal = true
  report : r.status.report.isSome = true ↔ r.stage = .done
  error : r.status.error.isSome = true ↔
    r.stage = .canceling ∨ r.stage = .canceled ∨ r.stage = .error

/-- What stays of a record `r` in its later state `r'`. -/
structure Evolves (r r' : Record) : Prop where
  job : r'.status.job = r.status.job
  request : r'.status.request = r.status.request
  history : r.history <+: r'.history
  /-- A reason that was stored is never replaced. -/
  error : ∀ reason, r.status.error = some reason → r'.status.error = some reason
  /-- Nothing but the time of the last check changes once the job has ended. -/
  ended : r.isFinal = true → r'.status = r.status ∧ r'.history = r.history

/-- A record that stays as it is keeps all it must keep. -/
@[refl]
theorem Evolves.refl (r : Record) : r.Evolves r :=
  ⟨rfl, rfl, List.prefix_rfl, fun _ h => h, fun _ => ⟨rfl, rfl⟩⟩

/-- A record that has ended keeps its stage. -/
theorem Evolves.isFinal {r r' : Record} (h : r.Evolves r') (hr : r.isFinal = true) :
    r'.isFinal = true := by
  have hstage : r'.stage = r.stage := congrArg Status.stage (h.ended hr).1
  exact (isFinal_of_stage hstage).trans hr

/-- What is kept twice is kept. -/
theorem Evolves.trans {r r' r'' : Record} (h : r.Evolves r') (h' : r'.Evolves r'') :
    r.Evolves r'' where
  job := h'.job.trans h.job
  request := h'.request.trans h.request
  history := h.history.trans h'.history
  error reason hr := h'.error reason (h.error reason hr)
  ended hr := by
    obtain ⟨hstatus, hhistory⟩ := h.ended hr
    obtain ⟨hstatus', hhistory'⟩ := h'.ended (h.isFinal hr)
    exact ⟨hstatus'.trans hstatus, hhistory'.trans hhistory⟩

/-! ### Moves keep records lawful -/

/-- The record of a job that was just submitted is lawful. -/
theorem lawful_new (now : Nat) (job : Job) (request : Nat) : (new now job request).Lawful := by
  constructor <;> simp [new, Status.waiting, stage, isFinal, Stage.isFinal]

/-- The history after one more stage. The lifecycle must have the move. -/
theorem Lawful.enter_lifecycle {r : Record} (h : r.Lawful) (next : Stage)
    (hmove : r.stage.canMoveTo next = true) :
    (r.history ++ [next]).IsChain fun a b => a.canMoveTo b = true := by
  -- The only new pair is that of the last stage and the next one.
  refine h.lifecycle.append (List.isChain_singleton next) ?_
  intro a ha b hb
  rw [h.last] at ha
  cases ha
  cases hb
  exact hmove

/-- To enter a stage adds to the history, which still begins with waiting. -/
theorem Lawful.enter_first {r : Record} (h : r.Lawful) (next : Stage) :
    (r.history ++ [next]).head? = some .waiting := by
  rw [List.head?_append, h.first]
  rfl

/-- A move keeps a record lawful. -/
theorem Lawful.move {now : Nat} {r r' : Record} (h : r.Lawful) (m : Move now r r') :
    r'.Lawful := by
  have hstarted := h.started
  have hcompleted := h.completed
  have hreport := h.report
  have herror := h.error
  -- The history grows by one stage, and the move fills the fields that belong to that stage.
  cases m with
  | check => exact ⟨h.first, h.last, h.lifecycle, hstarted, hcompleted, hreport, herror⟩
  | start hr =>
    have hchain := h.enter_lifecycle .running (by rw [hr]; rfl)
    have hfirst := h.enter_first .running
    simp only [isFinal, stage] at *
    constructor <;> simp_all [enter, stampStart, isFinal, stage, Stage.isFinal]
  | ask reason hr =>
    have hchain := h.enter_lifecycle .canceling
      (by rcases hr with hr | hr <;> rw [hr] <;> rfl)
    have hfirst := h.enter_first .canceling
    simp only [isFinal, stage] at *
    constructor <;> rcases hr with hr | hr <;>
      simp_all [enter, withError, isFinal, stage, Stage.isFinal]
  | stop hr =>
    have hchain := h.enter_lifecycle .canceled (by rw [hr]; rfl)
    have hfirst := h.enter_first .canceled
    simp only [isFinal, stage] at *
    constructor <;> simp_all [enter, stampEnd, isFinal, stage, Stage.isFinal]
  | conclude ending hr =>
    have hchain := h.enter_lifecycle ending.stage (by rw [hr]; cases ending <;> rfl)
    have hfirst := h.enter_first ending.stage
    simp only [isFinal, stage] at *
    -- Work ends with a report or with an error, and leaves the other field empty.
    cases ending <;> constructor <;>
      simp_all [conclude, enter, stampEnd, withError, isFinal, stage, Stage.isFinal, Ending.stage]

/-- Any number of moves keep a record lawful. -/
theorem Lawful.moves {now : Nat} {r r' : Record} (h : r.Lawful) (m : Moves now r r') :
    r'.Lawful := by
  induction m with
  | refl => exact h
  | tail _ m ih => exact ih.move m

/-- A job that waits has done nothing else. -/
theorem Lawful.history_of_waiting {r : Record} (h : r.Lawful) (hr : r.stage = .waiting) :
    r.history = [.waiting] := by
  have hlast := h.last
  rw [hr] at hlast
  obtain ⟨before, hbefore⟩ := List.getLast?_eq_some_iff.1 hlast
  -- No stage leads to the first one, so there is no other in the history.
  rcases List.eq_nil_or_concat before with rfl | ⟨_, stage, rfl⟩
  · exact hbefore
  · have hchain := h.lifecycle
    rw [hbefore, List.concat_eq_append, List.append_assoc] at hchain
    have hpair := (List.isChain_append.1 hchain).2.1
    rw [List.singleton_append, List.isChain_pair] at hpair
    cases stage <;> cases hpair

/-- The work of a job that waits has not been started. -/
theorem Lawful.startedAt_of_waiting {r : Record} (h : r.Lawful) (hr : r.stage = .waiting) :
    r.status.startedAt = none := by
  rw [← Option.not_isSome_iff_eq_none, h.started, h.history_of_waiting hr]
  decide

/-- The work of a job that runs has been started. -/
theorem Lawful.startedAt_of_running {r : Record} (h : r.Lawful) (hr : r.stage = .running) :
    r.status.startedAt.isSome = true := by
  rw [h.started]
  exact List.mem_of_getLast? (hr ▸ h.last)

/-! ### What moves leave alone -/

/-- No reason is stored yet in a lawful record that waits or runs. -/
theorem Lawful.error_eq_none {r : Record} (h : r.Lawful)
    (hr : r.stage = .waiting ∨ r.stage = .running) : r.status.error = none := by
  have herror := h.error
  rcases hr with hr | hr <;> simpa [hr] using herror

/-- What a move of a lawful record keeps. -/
theorem Move.evolves {now : Nat} {r r' : Record} (m : Move now r r') (h : r.Lawful) :
    r.Evolves r' := by
  -- No move but a status check starts from a stage that is final.
  have open_of {s : Stage} (hs : r.stage = s) (hopen : s.isFinal = false) :
      ¬ r.isFinal = true := by
    rw [isFinal, hs, hopen]
    exact Bool.false_ne_true
  cases m with
  | check => exact ⟨rfl, rfl, List.prefix_rfl, fun _ h => h, fun _ => ⟨rfl, rfl⟩⟩
  | start hr =>
    exact ⟨rfl, rfl, List.prefix_append _ _, fun _ h => h, fun hf => absurd hf (open_of hr rfl)⟩
  | ask reason hr =>
    have hnone := h.error_eq_none hr
    refine ⟨rfl, rfl, List.prefix_append _ _, ?_, ?_⟩
    · intro e he
      -- The reason is stored where none was.
      rw [hnone] at he
      cases he
    · intro hf
      rcases hr with hr | hr <;> exact absurd hf (open_of hr rfl)
  | stop hr =>
    exact ⟨rfl, rfl, List.prefix_append _ _, fun _ h => h, fun hf => absurd hf (open_of hr rfl)⟩
  | conclude ending hr =>
    have hnone := h.error_eq_none (.inr hr)
    have hopen := open_of hr rfl
    cases ending with
    | done => exact ⟨rfl, rfl, List.prefix_append _ _, fun _ h => h, fun hf => absurd hf hopen⟩
    | error cause =>
      refine ⟨rfl, rfl, List.prefix_append _ _, ?_, fun hf => absurd hf hopen⟩
      intro e he
      rw [hnone] at he
      cases he

/-- What any number of moves of a lawful record keep. -/
theorem Moves.evolves {now : Nat} {r r' : Record} (m : Moves now r r') (h : r.Lawful) :
    r.Evolves r' := by
  induction m with
  | refl => rfl
  | tail m last ih => exact ih.trans (last.evolves (h.moves m))

/-- Moves keep what a record tells of a submission, its job and its number. -/
theorem Moves.submission {now : Nat} {r r' : Record} (m : r.Moves now r') :
    r'.status.job = r.status.job ∧ r'.status.request = r.status.request := by
  induction m with
  | refl => exact ⟨rfl, rfl⟩
  | tail _ m ih =>
    cases m with
    | check | start | ask | stop => exact ih
    | conclude ending => cases ending <;> exact ih

/-- Moves keep the job. -/
theorem Moves.job {now : Nat} {r r' : Record} (m : r.Moves now r') :
    r'.status.job = r.status.job := m.submission.1

/-- Moves keep the number. -/
theorem Moves.request {now : Nat} {r r' : Record} (m : r.Moves now r') :
    r'.status.request = r.status.request := m.submission.2

/-- A job that does not wait never waits again. -/
theorem Moves.stage_ne_waiting {now : Nat} {r r' : Record} (m : r.Moves now r')
    (h : r.stage ≠ .waiting) : r'.stage ≠ .waiting := by
  induction m with
  | refl => exact h
  | tail _ m ih =>
    -- No move leads to the first stage.
    cases m with
    | check => exact ih
    | start | ask | stop => nofun
    | conclude ending => cases ending <;> nofun

/-- A record that has ended did so in the past. -/
theorem Moves.past {now : Nat} {r r' : Record} (m : r.Moves now r')
    (h : ∀ e, r.status.completedAt = some e → e ≤ now) :
    ∀ e, r'.status.completedAt = some e → e ≤ now := by
  induction m with
  | refl => exact h
  | tail _ m ih =>
    -- Only two of the moves stamp the end, and they do so now.
    cases m with
    | check | start | ask => exact ih
    | stop => exact fun e he => Nat.le_of_eq (Option.some.inj he).symm
    | conclude ending =>
      refine fun e he => Nat.le_of_eq (Option.some.inj ?_).symm
      cases ending <;> exact he

/-- The last check of a record never lies further back than before. -/
theorem Moves.lastCheck_le {now : Nat} {r r' : Record} (m : r.Moves now r')
    (h : r.lastCheck ≤ now) : r.lastCheck ≤ r'.lastCheck ∧ r'.lastCheck ≤ now := by
  induction m with
  | refl => exact ⟨Nat.le_refl _, h⟩
  | tail _ m ih =>
    cases m with
    | check => exact ⟨h, Nat.le_refl now⟩
    | start | ask | stop => exact ih
    | conclude ending => cases ending <;> exact ih

/-! ### The operations as moves -/

/-- Marking a job as running is one move. -/
theorem start_moves {now : Nat} {r r' : Record} (h : r.start now = .ok r') : Moves now r r' := by
  unfold start at h
  split at h
  next hr =>
    cases h
    exact .single (.start hr)
  next => cases h

/-- A cancellation makes no move, asks, or stops, or both. -/
theorem cancel_moves (now : Nat) (reason : String) (immediate : Bool) (r : Record) :
    Moves now r (r.cancel now reason immediate) := by
  -- A job that goes on is asked first, and stops in the same call if that is immediate.
  have asked (hr : r.stage = .waiting ∨ r.stage = .running) :
      Moves now r (r.cancel now reason immediate) := by
    have hask : Moves now r ((r.enter .canceling).withError reason) := .single (.ask reason hr)
    cases immediate with
    | false => rcases hr with hr | hr <;> simpa [cancel, hr, isFinal, Stage.isFinal] using hask
    | true =>
      have hstop := hask.tail (.stop rfl)
      rcases hr with hr | hr <;> simpa [cancel, hr, isFinal, Stage.isFinal] using hstop
  cases hr : r.stage with
  | waiting => exact asked (.inl hr)
  | running => exact asked (.inr hr)
  | canceling =>
    cases immediate with
    | false =>
      simp only [cancel, hr, Bool.not_false, Bool.or_true, if_true]
      exact .refl
    | true =>
      have hstop : Moves now r ((r.enter .canceled).stampEnd now) := .single (.stop hr)
      simpa [cancel, hr, isFinal, Stage.isFinal] using hstop
  | canceled | done | error =>
    simp only [cancel, hr, isFinal, Stage.isFinal, Bool.true_or, if_true]
    exact .refl

/-- The end of the work makes one move, or starts the job first. -/
theorem finish_moves {now : Nat} {ending : Ending} {r r' : Record}
    (h : r.finish now ending = .ok r') : Moves now r r' := by
  unfold finish at h
  split at h
  next hr =>
    -- The job was asked to stop, so the end of its work is the stop.
    cases h
    exact .single (.stop hr)
  next hr =>
    cases h
    exact (Relation.ReflTransGen.single (.start hr)).tail (.conclude ending rfl)
  next hr =>
    cases h
    exact .single (.conclude ending hr)
  next => cases h

end Record

end JobScheduling
