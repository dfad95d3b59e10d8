import JobScheduling.Proofs.Registry.Claiming
import JobScheduling.Proofs.Registry.Retention
import JobScheduling.Proofs.Registry.Stepwise
import JobScheduling.SharedQueue.Basic

/-!
# `JobScheduling.Proofs.Registry.Refusals`: which requests are refused, and what they leave

`Registry.Refuses` lists every way in which the shared queue refuses a request: there is no record
under the id, the stage of the record does not allow the move, or the id of a new job is taken.
`refused_iff` shows that a request is refused in these ways and in no other. A request that is
refused leaves the queue as it was, and an addition leaves it as the purge does that comes before it
(`snd_of_refused`).

The operations that move a job through several stages are taken apart into their steps
(`JobScheduling.Proofs.Registry.Stepwise`), and so are the two that do this for a row of jobs
(`run_forM`). No row is broken off, since each of its jobs allows the move when its turn comes.
-/

set_option autoImplicit false

namespace JobScheduling

namespace Registry

/-- There is no record under the id. -/
def Missing (q : Registry) (id : String) (e : Error) : Prop :=
  q.records.find? id = none ∧ e = .noSuchReference id

/-- The job has ended, so it cannot move to the stage. -/
def Ended (q : Registry) (id : String) (target : Stage) (e : Error) : Prop :=
  ∃ r, q.records.find? id = some r ∧ r.isFinal = true ∧ e = .invalidTransition id r.stage target

/-- Why the shared queue refuses a request at a time. -/
def Refuses (now : Nat) (q : Registry) : Request → Error → Prop
  | .add job, e =>
    (∃ r, (q.purge now).records.find? job.id = some r) ∧
      e = .backend s!"duplicate reference id {job.id}"
  | .start id, e => q.Missing id e ∨
    ∃ r, q.records.find? id = some r ∧ r.stage ≠ .waiting ∧
      e = .invalidTransition id r.stage .running
  | .done id _, e => q.Missing id e ∨ q.Ended id .done e
  | .fail id _, e => q.Missing id e ∨ q.Ended id .error e
  | .get id _, e | .cancel id _ _, e | .sinceCheck id, e => q.Missing id e
  | .startNext _, _ | .cancelOverdue .., _ | .toCancel, _ | .purge, _ => False

section
variable {now : Nat} {q : Registry} {id : String} {e : Error}

/-- An answer of an operation is a refusal when the operation has failed. -/
theorem Answer.of_eq_refused {α : Type} {f : α → Answer} (hf : ∀ a, f a ≠ .refused e)
    {result : Except Error α} : Answer.of f result = .refused e ↔ result = .error e := by
  cases result with
  | ok a => simp [Answer.of, hf a]
  | error e' => simp [Answer.of]

/-- An update fails where there is no record, or the record does not allow the change. -/
theorem update_error_iff {f : Record → Except Error Record} : (q.update now id f).1 = .error e ↔
    q.Missing id e ∨ ∃ r, q.records.find? id = some r ∧ f r = .error e := by
  cases hr : q.records.find? id with
  | none => simp [update_of_none hr, Missing, hr, eq_comm]
  | some r =>
    cases hf : f r with
    | error e' => simp [update_of_error hr now hf, Missing, hr, hf]
    | ok r' => simp [update_of_ok hr now hf, Missing, hr, hf]

/-- A look is refused where there is no record. -/
theorem get_error_iff {external : Bool} :
    (q.get now id external).1 = .error e ↔ q.Missing id e := by
  cases hr : q.records.find? id <;> simp [get, Missing, hr, eq_comm]

/-- So is the question for the last check. -/
theorem sinceCheck_error_iff : q.sinceCheck now id = .error e ↔ q.Missing id e := by
  cases hr : q.records.find? id <;> simp [sinceCheck, Missing, hr, eq_comm]

/-- A cancellation is refused where there is no record, and in no stage. -/
theorem cancel_error_iff {reason : String} {immediate : Bool} :
    (q.cancel now id reason immediate).1 = .error e ↔ q.Missing id e := by
  rw [cancel, update_error_iff]
  simp

/-- An addition is refused if a record of the id is left after the purge. -/
theorem add_error_iff {job : Job} : (q.add now job).1 = .error e ↔
    (∃ r, (q.purge now).records.find? job.id = some r) ∧
      e = .backend s!"duplicate reference id {job.id}" := by
  cases hr : (q.purge now).records.find? job.id with
  | none =>
    rw [add_eq_ok_iff.2 hr]
    simp
  | some r =>
    have hadd : (q.add now job).1 = .error (.backend s!"duplicate reference id {job.id}") := by
      simp only [add, Table.contains_of_find? hr, if_true]
    rw [hadd]
    simp [eq_comm]

section
variable (hkeyed : q.Keyed)

include hkeyed

/-- A refused move names the id under which the record lies. -/
theorem Keyed.refusal {r : Record} (hr : q.records.find? id = some r) (next : Stage) :
    r.refusal next = .invalidTransition id r.stage next := by
  rw [Record.refusal, (hkeyed id r hr).1]

/-- Only a job that waits can be started. -/
theorem Keyed.start_error_iff : (q.start now id).1 = .error e ↔ q.Missing id e ∨
    ∃ r, q.records.find? id = some r ∧ r.stage ≠ .waiting ∧
      e = .invalidTransition id r.stage .running := by
  rw [start, update_error_iff]
  refine or_congr_right (exists_congr fun r => and_congr_right fun hr => ?_)
  rw [← hkeyed.refusal hr, Record.start]
  cases r.stage <;> simp [eq_comm]

/-- Only a job that has not ended can end. -/
theorem Keyed.finish_error_iff {ending : Ending} : (q.finish now id ending).1 = .error e ↔
    q.Missing id e ∨ q.Ended id ending.stage e := by
  rw [finish, update_error_iff]
  refine or_congr_right (exists_congr fun r => and_congr_right fun hr => ?_)
  rw [← hkeyed.refusal hr, Record.finish, Record.isFinal]
  cases r.stage <;> simp [Stage.isFinal, eq_comm]

/-- A request is refused for one of the reasons listed, and for no other. -/
theorem Keyed.refused_iff (scan : Scan) (request : Request) :
    (q.serve scan now request).1 = .refused e ↔ Refuses now q request e := by
  cases request with
  | add job => exact (Answer.of_eq_refused (by simp)).trans add_error_iff
  | get id external => exact (Answer.of_eq_refused (by simp)).trans get_error_iff
  | start id => exact (Answer.of_eq_refused (by simp)).trans hkeyed.start_error_iff
  | done id report => exact (Answer.of_eq_refused (by simp)).trans hkeyed.finish_error_iff
  | fail id cause => exact (Answer.of_eq_refused (by simp)).trans hkeyed.finish_error_iff
  | cancel id reason immediate => exact (Answer.of_eq_refused (by simp)).trans cancel_error_iff
  | sinceCheck id => exact (Answer.of_eq_refused (by simp)).trans sinceCheck_error_iff
  | startNext | cancelOverdue | toCancel | purge =>
    refine ⟨fun h => ?_, fun h => ?_⟩ <;> cases h

end

/-! ### What a refused request leaves -/

/-- An update that is refused changes nothing. -/
theorem update_snd_of_error {f : Record → Except Error Record}
    (h : (q.update now id f).1 = .error e) : (q.update now id f).2 = q := by
  rcases update_error_iff.1 h with ⟨hr, -⟩ | ⟨r, hr, he⟩
  · rw [update_of_none hr]
  · rw [update_of_error hr now he]

/-- A refused request leaves the registry as it was, or as the purge does with which an addition
begins. -/
theorem snd_of_refused {scan : Scan} {request : Request}
    (h : (q.serve scan now request).1 = .refused e) :
    (q.serve scan now request).2 = q ∨
      (∃ job, request = .add job) ∧ (q.serve scan now request).2 = q.purge now := by
  -- One case for each request that can be refused.
  cases request with
  | add job =>
    obtain ⟨⟨r, hr⟩, -⟩ := add_error_iff.1 ((Answer.of_eq_refused (by simp)).1 h)
    refine .inr ⟨⟨job, rfl⟩, ?_⟩
    show (q.add now job).2 = _
    simp only [add, Table.contains_of_find? hr, if_true]
  | get id external =>
    obtain ⟨hr, -⟩ := get_error_iff.1 ((Answer.of_eq_refused (by simp)).1 h)
    left
    show (q.get now id external).2 = q
    simp only [get, hr]
  | start | done | fail | cancel =>
    exact .inl (update_snd_of_error ((Answer.of_eq_refused (by simp)).1 h))
  | sinceCheck => exact .inl rfl
  | startNext | cancelOverdue | toCancel | purge => cases h

/-! ### Rows of jobs -/

/-- A row of jobs that are changed step by step is one of updates. -/
theorem run_forM {f : Record → Except Error Record} {steps : String → Steps Registry Unit}
    (hsteps : ∀ id q, (steps id).run q = q.update now id f) (ids : List String) (q : Registry) :
    (ids.forM steps).run q
      = ((updateEach now f ids q).1.map fun _ => (), (updateEach now f ids q).2) := by
  -- By induction on the row. The steps of one job are its update, and the row goes on while none is
  -- refused.
  induction ids generalizing q with
  | nil => rfl
  | cons id ids ih =>
    have hid := hsteps id q
    show (steps id >>= fun _ => ids.forM steps).run q = _
    rw [updateEach]
    rcases hupdate : q.update now id f with ⟨result, q'⟩
    rw [hupdate] at hid
    cases result with
    | error e => rw [Steps.run_bind_error hid]; rfl
    | ok u =>
      rw [Steps.run_bind_ok hid, ih]
      dsimp only
      rcases updateEach now f ids q' with ⟨rest, q''⟩
      cases rest <;> rfl

end

/-- The operations that change the stages of jobs do what their steps do, one after the other. -/
structure Stepwise (scan : Scan) (now : Nat) (q : Registry) : Prop where
  start : ∀ id, (startSteps now id).run q = q.start now id
  finish : ∀ id ending, (finishSteps now id ending).run q = q.finish now id ending
  cancel : ∀ id reason immediate,
    (cancelSteps now id reason immediate).run q = q.cancel now id reason immediate
  /-- No job of a claim is refused. -/
  startNext : ∀ n, ((q.claimedIds n).forM (startSteps now)).run q = (.ok (), (q.startNext now n).2)
  /-- No job of an eviction is refused. -/
  cancelOverdue : ∀ timeout abandoned reason,
    (((q.purge now).overdueIds scan now timeout abandoned).forM
        fun id => cancelSteps now id reason true).run (q.purge now)
      = (.ok (), (q.cancelOverdue scan now timeout abandoned reason).2)

/-- Each operation is its steps. -/
theorem stepwise {scan : Scan} (hscan : ∀ ids, (scan ids).Perm ids) (now : Nat) (q : Registry) :
    Stepwise scan now q where
  start id := run_startSteps now id q
  finish id ending := run_finishSteps now id ending q
  cancel id reason immediate := run_cancelSteps now id reason immediate q
  -- The jobs of a row allow the move, so the row goes to its end.
  startNext n := by
    obtain ⟨claimed, hclaimed, -⟩ := updateEach_start now n q
    rw [run_forM (run_startSteps now), hclaimed]
    rfl
  cancelOverdue timeout abandoned reason := by
    obtain ⟨canceled, hcanceled, -⟩ := updateEach_cancel hscan now timeout abandoned reason q
    rw [run_forM fun id q => run_cancelSteps now id reason true q, hcanceled]
    rfl

/-- Which requests are refused, in every registry that any requests at any times have made of an
empty one. A request is refused for the reasons listed and no other, and the counts that the queue
tells are never refused. Whatever is refused leaves all records and counters as they were, except
for expired records that a refused addition has removed. An operation that moves a job through
several stages is refused before its first step or not at all. -/
theorem run_refusals {scan : Scan} (hscan : ∀ ids, (scan ids).Perm ids) (retention : Option Nat)
    (requests : List (Nat × Request)) (now : Nat) :
    let q := run scan requests { retention }
    (∀ request e, (q.serve scan now request).1 = .refused e ↔ Refuses now q request e) ∧
      (∀ request e, (q.serve scan now request).1 = .refused e →
        (q.serve scan now request).2 = q ∨
          (∃ job, request = .add job) ∧ Purges now q (q.serve scan now request).2) ∧
      Stepwise scan now q ∧
      (service scan now).waitingCount q = (.ok q.waitingCount, q) ∧
      (service scan now).completedCount q = (.ok q.completed, q) ∧
      (service scan now).averageDuration q = (.ok q.averageDuration, q) := by
  intro q
  have hkeyed : q.Keyed := keyed_run scan requests (keyed_empty retention)
  -- The refusals, what a refused request leaves, the steps, and three questions that are never
  -- refused.
  refine ⟨fun request e => hkeyed.refused_iff scan request, ?_, stepwise hscan now q, rfl, rfl, rfl⟩
  intro request e h
  rcases snd_of_refused h with hsame | ⟨hadd, hpurge⟩
  · exact .inl hsame
  · exact .inr ⟨hadd, hpurge ▸ purges_purge now q⟩

/-- One of the jobs is done, so its work cannot end again. -/
theorem run_refusals_mixedJobs :
    let q := run List.reverse mixedJobs { retention := some 1000 }
    (∀ ids : List String, ids.reverse.Perm ids) ∧
      (q.serve List.reverse 50 (.fail "c" "late")).1
        = .refused (.invalidTransition "c" .done .error) ∧
      (∀ request e, (q.serve List.reverse 50 request).1 = .refused e ↔ Refuses 50 q request e) ∧
      (∀ request e, (q.serve List.reverse 50 request).1 = .refused e →
        (q.serve List.reverse 50 request).2 = q ∨
          (∃ job, request = .add job) ∧ Purges 50 q (q.serve List.reverse 50 request).2) ∧
      Stepwise List.reverse 50 q ∧
      (service List.reverse 50).waitingCount q = (.ok q.waitingCount, q) ∧
      (service List.reverse 50).completedCount q = (.ok q.completed, q) ∧
      (service List.reverse 50).averageDuration q = (.ok q.averageDuration, q) :=
  ⟨List.reverse_perm, by decide +kernel,
    run_refusals List.reverse_perm (some 1000) mixedJobs 50⟩

end Registry

end JobScheduling
