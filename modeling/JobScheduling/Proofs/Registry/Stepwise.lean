import JobScheduling.Proofs.Registry.Cancellation

/-!
# `JobScheduling.Proofs.Registry.Stepwise`: transitions one at a time

`Registry.start`, `finish` and `cancel` replace a record at once or not at all. The shared queue
works on the record in its place instead: it moves the job one stage further, writes a field, moves
it again, and counts the job at the end. Any of these steps can be refused, and what was written
before stays written. `startSteps`, `finishSteps` and `cancelSteps` are these programs. A `Steps` is
refused where one of its steps is, and is left in the state that this step has found.

The programs do what the operations do, in every registry and also where they are refused
(`run_startSteps`, `run_finishSteps`, `run_cancelSteps`). Only the first transition of a program can
be refused, so none is ever left half done.
-/

set_option autoImplicit false

namespace JobScheduling

/-- A change in several steps. A step that is refused ends it, and what was changed before stays
changed. -/
abbrev Steps (σ α : Type) := ExceptT Error (StateM σ) α

namespace Steps

variable {σ α β : Type}

/-- Takes the steps. -/
def run (steps : Steps σ α) (s : σ) : Except Error α × σ := steps s

/-- A step that is never refused. -/
def change (f : σ → σ) : Steps σ Unit := fun s => (.ok (), f s)

/-- No step at all is never refused. -/
@[simp]
theorem run_pure (a : α) (s : σ) : (pure a : Steps σ α).run s = (.ok a, s) := rfl

/-- A change is taken as it is. -/
@[simp]
theorem run_change (f : σ → σ) (s : σ) : (change f).run s = (.ok (), f s) := rfl

/-- No step is taken after one that was refused. -/
theorem run_bind (steps : Steps σ α) (next : α → Steps σ β) (s : σ) :
    (steps >>= next).run s
      = match steps.run s with
        | (.ok a, s) => (next a).run s
        | (.error e, s) => (.error e, s) := by
  show ExceptT.bindCont next (steps s).1 (steps s).2 = _
  simp only [run]
  rcases steps s with ⟨a | a, s⟩ <;> rfl

/-- After steps that were not refused the others are taken. -/
theorem run_bind_ok {steps : Steps σ α} {next : α → Steps σ β} {s s' : σ} {a : α}
    (h : steps.run s = (.ok a, s')) : (steps >>= next).run s = (next a).run s' := by
  rw [run_bind, h]

/-- After a refusal nothing more is done. -/
theorem run_bind_error {steps : Steps σ α} {next : α → Steps σ β} {s s' : σ} {e : Error}
    (h : steps.run s = (.error e, s')) : (steps >>= next).run s = (.error e, s') := by
  rw [run_bind, h]

end Steps

namespace Record

/-- One move of the lifecycle. -/
def moveTo (next : Stage) : Steps Record Unit := fun r =>
  if r.stage.canMoveTo next then (.ok (), r.enter next) else (.error (r.refusal next), r)

/-- The record with what the work of its job has produced. -/
def withEnding : Ending → Record → Record
  | .done report, r => { r with status := { r.status with report := some report } }
  | .error cause, r => r.withError cause

/-- Marks a waiting job as running. -/
def startSteps (now : Nat) : Steps Record Unit := do
  moveTo .running
  .change (·.stampStart now)

/-- Asks a job to stop. -/
def askSteps (reason : String) : Steps Record Unit := do
  moveTo .canceling
  .change (·.withError reason)

/-- Moves a job that stands at a stage to the end of its work. -/
def endSteps (now : Nat) (target : Stage) : Stage → Steps Record Unit
  | .canceling => moveTo .canceled
  | .waiting => do
    startSteps now
    moveTo target
  | _ => moveTo target

variable {r : Record} {next : Stage}

/-- A transition that the lifecycle has is made. -/
theorem run_moveTo (h : r.stage.canMoveTo next = true) :
    (moveTo next).run r = (.ok (), r.enter next) := if_pos h

/-- A transition that the lifecycle does not have is refused, and the record keeps its stage. -/
theorem run_moveTo_of_not (h : r.stage.canMoveTo next = false) :
    (moveTo next).run r = (.error (r.refusal next), r) := by
  refine if_neg ?_
  rw [h]
  exact Bool.false_ne_true

/-- A job that waits is started in two steps. -/
theorem run_startSteps (now : Nat) (h : r.stage = .waiting) :
    (startSteps now).run r = (.ok (), (r.enter .running).stampStart now) :=
  Steps.run_bind_ok (run_moveTo (by rw [h]; rfl))

/-- No other job is started, and nothing is written for it. -/
theorem run_startSteps_of_ne (now : Nat) (h : r.stage ≠ .waiting) :
    (startSteps now).run r = (.error (r.refusal .running), r) := by
  refine Steps.run_bind_error (run_moveTo_of_not ?_)
  cases hr : r.stage with
  | waiting => exact absurd hr h
  | running | canceling | canceled | done | error => rfl

/-- The transition itself writes no more than the stage. -/
theorem stage_enter (next : Stage) (r : Record) : (r.enter next).stage = next := rfl

/-- The end of the work moves the job, stamps it and files what was produced. -/
theorem conclude_eq (now : Nat) (ending : Ending) (r : Record) :
    r.conclude now ending = withEnding ending ((r.enter ending.stage).stampEnd now) := by
  cases ending <;> rfl

/-- A job that waits or runs is asked to stop in two steps. -/
theorem run_askSteps (reason : String) (h : r.stage = .waiting ∨ r.stage = .running) :
    (askSteps reason).run r = (.ok (), (r.enter .canceling).withError reason) :=
  Steps.run_bind_ok (run_moveTo (by rcases h with h | h <;> rw [h] <;> rfl))

end Record

namespace Registry

/-- The registry with another record under an id. -/
def withRecord (id : String) (r : Record) (q : Registry) : Registry :=
  { q with records := q.records.modify id fun _ => r }

/-- Reads a record. -/
def record (id : String) : Steps Registry Record := fun q =>
  match q.records.find? id with
  | none => (.error (.noSuchReference id), q)
  | some r => (.ok r, q)

/-- Works on a record in its place. -/
def onRecord (id : String) (steps : Steps Record Unit) : Steps Registry Unit := fun q =>
  match q.records.find? id with
  | none => (.error (.noSuchReference id), q)
  | some r => ((steps.run r).1, q.withRecord id (steps.run r).2)

/-- Stamps a record with the time of the end and counts its job. -/
def countEnd (now : Nat) (id : String) : Steps Registry Unit := .change fun q =>
  match q.records.find? id with
  | none => q
  | some r =>
    let q := { q.withRecord id (r.stampEnd now) with completed := q.completed + 1 }
    if r.stage = .done then
      { q with doneCount := q.doneCount + 1, doneTime := capped (q.doneTime + r.duration now) }
    else q

/-- Marks a waiting job as running, step by step. -/
def startSteps (now : Nat) (id : String) : Steps Registry Unit :=
  onRecord id (Record.startSteps now)

/-- Records that a job has stopped that was asked to. -/
def stopSteps (now : Nat) (id : String) : Steps Registry Unit := do
  onRecord id (Record.moveTo .canceled)
  countEnd now id

/-- Asks a job to stop or records that it has stopped, step by step. -/
def cancelSteps (now : Nat) (id reason : String) (immediate : Bool) : Steps Registry Unit := do
  let r ← record id
  if r.isFinal then return
  if r.stage = .waiting ∨ r.stage = .running then
    onRecord id (Record.askSteps reason)
  if immediate then
    stopSteps now id

/-- Records that the work of a job ended, step by step. -/
def finishSteps (now : Nat) (id : String) (ending : Ending) : Steps Registry Unit := do
  let r ← record id
  onRecord id (Record.endSteps now ending.stage r.stage)
  countEnd now id
  let r ← record id
  if r.stage = ending.stage then
    onRecord id (.change (·.withEnding ending))

section
variable {q : Registry} {id : String} {r : Record}

/-- A record that is written is found under its id. -/
theorem find?_withRecord (hr : q.records.find? id = some r) (r' : Record) :
    (q.withRecord id r').records.find? id = some r' := by
  rw [withRecord, Table.find?_modify, if_pos rfl, hr, Option.map_some]

/-- To write the record that is there already changes nothing. -/
theorem withRecord_self (hr : q.records.find? id = some r) : q.withRecord id r = q := by
  rw [withRecord, Table.modify_eq_self hr rfl]

/-- The record under an id is read without a change. -/
theorem run_record (hr : q.records.find? id = some r) : (record id).run q = (.ok r, q) := by
  simp only [record, Steps.run, hr]

/-- Steps on a record are steps on the registry that holds it. What they have written stays there,
whether they are refused or not. -/
theorem run_onRecord (hr : q.records.find? id = some r) {steps : Steps Record Unit} {r' : Record}
    {result : Except Error Unit} (h : steps.run r = (result, r')) :
    (onRecord id steps).run q = (result, q.withRecord id r') := by
  simp only [onRecord, Steps.run, hr]
  rw [show steps r = _ from h]

/-- Work on a record whose first step is refused. -/
theorem run_onRecord_of_refused (hr : q.records.find? id = some r) {steps : Steps Record Unit}
    {e : Error} (h : steps.run r = (.error e, r)) : (onRecord id steps).run q = (.error e, q) := by
  rw [run_onRecord hr h, withRecord_self hr]

/-- Of two records that are written under one id the last one stays. -/
theorem withRecord_withRecord (id : String) (r r' : Record) (q : Registry) :
    (q.withRecord id r).withRecord id r' = q.withRecord id r' := by
  have hrows : (q.records.modify id fun _ => r).modify id (fun _ => r')
      = q.records.modify id fun _ => r' := by
    simp only [Table.modify, Table.mapRows, List.map_map, Table.mk.injEq]
    refine List.map_congr_left fun row _ => ?_
    by_cases h : row.1 = id <;> simp [h]
  simp only [withRecord, hrows]

/-! ### The counters -/

/-- Without a record an update is refused. -/
theorem update_of_none (hr : q.records.find? id = none) (now : Nat)
    (f : Record → Except Error Record) :
    q.update now id f = (.error (.noSuchReference id), q) := by
  simp only [update, hr]

/-- An update whose record refuses it changes nothing. -/
theorem update_of_error (hr : q.records.find? id = some r) (now : Nat)
    {f : Record → Except Error Record} {e : Error} (hf : f r = .error e) :
    q.update now id f = (.error e, q) := by
  simp only [update, hr, hf]

/-- An update replaces the record and then counts its end. -/
theorem update_of_ok (hr : q.records.find? id = some r) (now : Nat)
    {f : Record → Except Error Record} {r' : Record} (hf : f r = .ok r') :
    q.update now id f = (.ok (), (q.withRecord id r').tally now r r') := by
  simp only [update, hr, hf]
  rfl

/-- A job that goes on is not counted. -/
theorem tally_of_open (now : Nat) (old : Record) {new : Record} (h : new.isFinal = false)
    (q : Registry) : q.tally now old new = q := by
  simp [tally, h]

/-- The counters and the records can be written in any order. -/
theorem tally_withRecord (now : Nat) (id : String) (old new r : Record) (q : Registry) :
    (q.tally now old new).withRecord id r = (q.withRecord id r).tally now old new := by
  simp only [tally, withRecord]
  split
  · rfl
  · split <;> rfl

/-- What a job counts depends on its stage and on its times. -/
theorem tally_congr (now : Nat) (old : Record) {new new' : Record} (hstage : new'.stage = new.stage)
    (hduration : new'.duration now = new.duration now) (q : Registry) :
    q.tally now old new' = q.tally now old new := by
  have hfinal : new'.isFinal = new.isFinal := congrArg Stage.isFinal hstage
  simp only [tally, hstage, hduration, hfinal]

/-- The job of a record that has just ended is counted. -/
theorem run_countEnd (now : Nat) {old : Record} (hr : q.records.find? id = some r)
    (hold : old.isFinal = false) (hfinal : r.isFinal = true) : (countEnd now id).run q
      = (.ok (), (q.withRecord id (r.stampEnd now)).tally now old (r.stampEnd now)) := by
  have hended : (r.stampEnd now).isFinal = true := hfinal
  simp only [countEnd, Steps.run_change, hr, tally, hold, hended]
  rfl

/-! ### The programs -/

/-- The start in steps is the start at once. -/
theorem run_startSteps (now : Nat) (id : String) (q : Registry) :
    (startSteps now id).run q = q.start now id := by
  cases hr : q.records.find? id with
  | none =>
    rw [start, update_of_none hr]
    simp only [startSteps, onRecord, Steps.run, hr]
  | some r =>
    by_cases hstage : r.stage = .waiting
    · have hstart : r.start now = .ok ((r.enter .running).stampStart now) := by
        simp only [Record.start, hstage]
      -- The steps and the operation write the same, and nothing is counted, since the job goes on.
      rw [startSteps, run_onRecord hr (Record.run_startSteps now hstage), start,
        update_of_ok hr now hstart, tally_of_open]
      rfl
    · have hstart : r.start now = .error (r.refusal .running) := by
        simp only [Record.start]
      rw [startSteps, run_onRecord_of_refused hr (Record.run_startSteps_of_ne now hstage), start,
        update_of_error hr now hstart]

/-- A job that was asked to stop is recorded as stopped. -/
theorem run_stopSteps (now : Nat) {old : Record} (hold : old.isFinal = false)
    (hr : q.records.find? id = some r) (hstage : r.stage = .canceling) : (stopSteps now id).run q
      = (.ok (), (q.withRecord id ((r.enter .canceled).stampEnd now)).tally now old
          ((r.enter .canceled).stampEnd now)) := by
  have hmove : (Record.moveTo .canceled).run r = (.ok (), r.enter .canceled) :=
    Record.run_moveTo (by rw [hstage]; rfl)
  rw [stopSteps, Steps.run_bind_ok (run_onRecord hr hmove),
    run_countEnd now (find?_withRecord hr _) hold rfl, withRecord_withRecord]

/-- The cancellation in steps is the cancellation at once. -/
theorem run_cancelSteps (now : Nat) (id reason : String) (immediate : Bool) (q : Registry) :
    (cancelSteps now id reason immediate).run q = q.cancel now id reason immediate := by
  cases hr : q.records.find? id with
  | none =>
    rw [cancel, update_of_none hr]
    refine Steps.run_bind_error ?_
    simp only [record, Steps.run, hr]
  | some r =>
    rw [cancelSteps, Steps.run_bind_ok (run_record hr)]
    cases hfinal : r.isFinal with
    | true => exact (cancel_of_ended hr hfinal now reason immediate).symm
    | false =>
      -- What follows once the job was asked to stop.
      have hrest : (if immediate = true then stopSteps now id else pure ()).run
          (q.withRecord id (r.asked reason)) = q.cancel now id reason immediate := by
        cases immediate with
        | true =>
          have hstop := run_stopSteps now hfinal (find?_withRecord hr (r.asked reason))
            (Record.stage_asked reason r)
          rw [withRecord_withRecord] at hstop
          have hcancel := update_of_ok hr now (f := fun r => .ok (r.cancel now reason true)) rfl
          rw [Record.cancel_eq_stopped hfinal] at hcancel
          rw [if_pos rfl, hstop]
          exact hcancel.symm
        | false => exact (cancel_false hr hfinal now reason).symm
      dsimp only
      rw [if_neg Bool.false_ne_true]
      split
      next hstage =>
        have hasked : r.asked reason = (r.enter .canceling).withError reason := by
          rw [Record.asked, if_neg]
          · rfl
          · rcases hstage with hstage | hstage <;> rw [hstage] <;> decide
        rw [Steps.run_bind_ok (run_onRecord hr (Record.run_askSteps reason hstage)), ← hasked]
        exact hrest
      next hstage =>
        have hcanceling : r.stage = .canceling := by
          have hopen := Record.stage_of_open hfinal
          tauto
        rw [Record.asked_of_canceling hcanceling, withRecord_self hr] at hrest
        exact hrest

/-- Moved to its end, a job is in a final stage. It is the stage of the ending, or the job had been
asked to stop. -/
theorem run_endSteps (now : Nat) (ending : Ending) (h : r.isFinal = false) :
    ∃ r', (Record.endSteps now ending.stage r.stage).run r = (.ok (), r') ∧ r'.isFinal = true ∧
      r.finish now ending = .ok (if r'.stage = ending.stage then
        .withEnding ending (r'.stampEnd now) else r'.stampEnd now) := by
  rcases Record.stage_of_open h with hr | hr | hr
  · -- The job waits, so it is moved twice, through the stage of a running one.
    refine ⟨((r.enter .running).stampStart now).enter ending.stage, ?_, ?_, ?_⟩
    · rw [hr]
      refine (Steps.run_bind_ok (Record.run_startSteps now hr)).trans (Record.run_moveTo ?_)
      cases ending <;> rfl
    · cases ending <;> rfl
    · rw [if_pos (Record.stage_enter ..), Record.finish, hr, ← Record.conclude_eq]
  · -- The job runs.
    refine ⟨r.enter ending.stage, ?_, ?_, ?_⟩
    · rw [hr]
      refine Record.run_moveTo ?_
      rw [hr]
      cases ending <;> rfl
    · cases ending <;> rfl
    · rw [if_pos (Record.stage_enter ..), Record.finish, hr, ← Record.conclude_eq]
  · -- The job was asked to stop, and ends as canceled.
    refine ⟨r.enter .canceled, ?_, rfl, ?_⟩
    · rw [hr]
      exact Record.run_moveTo (by rw [hr]; rfl)
    · rw [if_neg, Record.finish, hr]
      cases ending <;> nofun

/-- A job that has ended moves nowhere. -/
theorem run_endSteps_of_final (now : Nat) (ending : Ending) (h : r.isFinal = true) :
    (Record.endSteps now ending.stage r.stage).run r = (.error (r.refusal ending.stage), r) ∧
      r.finish now ending = .error (r.refusal ending.stage) := by
  -- No transition leads out of a stage in which a job has ended.
  have hnot : r.stage.canMoveTo ending.stage = false := by
    revert h
    simp only [Record.isFinal]
    cases r.stage <;> simp [Stage.isFinal, Stage.canMoveTo]
  have hmove := Record.run_moveTo_of_not hnot
  revert h
  simp only [Record.isFinal, Record.finish]
  cases hr : r.stage with
  | waiting | running | canceling =>
    intro hfinal
    cases hfinal
  | canceled | done | error => exact fun _ => ⟨hmove, rfl⟩

/-- The end in steps is the end at once. -/
theorem run_finishSteps (now : Nat) (id : String) (ending : Ending) (q : Registry) :
    (finishSteps now id ending).run q = q.finish now id ending := by
  cases hr : q.records.find? id with
  | none =>
    rw [finish, update_of_none hr]
    refine Steps.run_bind_error ?_
    simp only [record, Steps.run, hr]
  | some r =>
    rw [finishSteps, Steps.run_bind_ok (run_record hr)]
    cases hfinal : r.isFinal with
    | true =>
      obtain ⟨hsteps, hfinish⟩ := run_endSteps_of_final now ending hfinal
      rw [Steps.run_bind_error (run_onRecord_of_refused hr hsteps), finish,
        update_of_error hr now hfinish]
    | false =>
      obtain ⟨r', hsteps, hended, hfinish⟩ := run_endSteps now ending hfinal
      have hrecord : ((q.withRecord id (r'.stampEnd now)).tally now r
          (r'.stampEnd now)).records.find? id = some (r'.stampEnd now) := by
        rw [records_tally]
        exact find?_withRecord hr _
      have hcount := run_countEnd now (find?_withRecord hr r') hfinal hended
      rw [withRecord_withRecord] at hcount
      rw [Steps.run_bind_ok (run_onRecord hr hsteps), Steps.run_bind_ok hcount,
        Steps.run_bind_ok (run_record hrecord), finish, update_of_ok hr now hfinish]
      have hstage : (r'.stampEnd now).stage = r'.stage := rfl
      rw [hstage]
      split
      next hdone =>
        rw [run_onRecord hrecord (Steps.run_change ..), tally_withRecord, withRecord_withRecord]
        -- What the job counts was known before its report was filed.
        refine congrArg (Prod.mk _) (tally_congr now r ?_ ?_ _) <;> cases ending <;> rfl
      next => rfl

end

end Registry

end JobScheduling
