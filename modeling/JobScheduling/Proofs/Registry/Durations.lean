import JobScheduling.Proofs.Registry.Ledger
import JobScheduling.Proofs.Registry.Transcript
import Mathlib.Algebra.GroupWithZero.Nat
import Mathlib.Algebra.Order.BigOperators.Group.List
import Mathlib.Algebra.Order.Group.Nat

/-!
# `JobScheduling.Proofs.Registry.Durations`: the mean duration of the jobs that are done

The registry adds up how long the work of the jobs took that are done. The records can be purged
and the sum stays. The transcript of the run tells the same: a record that is done after a turn and
was not before it carries the times of its start and of its end (`Turn.newlyDone`), and the
difference is how long its work took (`Record.took`).

* Only a report of success for a job that waits or runs makes a record done (`Turn.succeeded?`). It
  adds the duration of that record to the sum (`Turn.Adds`), and any other turn leaves both counters
  as they are (`sameMean_turn`).
* So after each turn the counters are the number of the durations and their sum, as far as the range
  goes (`Timed.serve`, `timed_run`).

`run_average` follows, with the bounds of a mean.
-/

set_option autoImplicit false

namespace JobScheduling

/-- The time from the start of the work to its end, and zero when the end lies before the start. -/
def Record.took (r : Record) : Nat :=
  elapsed (r.status.completedAt.getD 0) (r.status.startedAt.getD 0)

namespace Registry

/-- The records that are done after the turn and were not before it. -/
def Turn.newlyDone (t : Turn) : List Record :=
  t.after.records.values.filter fun r =>
    r.isDone && r.status.request ∉ t.before.numbers Record.isDone

/-- How long the work took of the jobs that were done in the run. -/
def durations (log : List Turn) : List Nat :=
  log.flatMap fun t => t.newlyDone.map Record.took

/-- The numbers of the records that a turn made done. -/
theorem map_request_newlyDone (t : Turn) :
    t.newlyDone.map (·.status.request) = newly Record.isDone t.before t.after := by
  simp only [Turn.newlyDone, newly, numbers, List.filter_map, List.filter_filter, Bool.and_comm,
    Function.comp_def]

/-- The record of the job whose success the turn reports, if the job waits or runs. -/
def Turn.succeeded? (t : Turn) : Option Record :=
  match t.request with
  | .done id _ =>
    (t.before.records.find? id).filter fun r => r.stage == .waiting || r.stage == .running
  | _ => none

/-- A turn of the transcript was made after a part of the run. -/
theorem exists_of_mem_turns {scan : Scan} {requests : List (Nat × Request)} {q : Registry}
    {t : Turn} (h : t ∈ turns scan requests q) :
    ∃ before now request, before <+: requests ∧ t = (q.run scan before).turn scan now request := by
  induction requests generalizing q with
  | nil => cases h
  | cons first rest ih =>
    rcases List.mem_cons.1 h with rfl | hrest
    · exact ⟨[], first.1, first.2, List.nil_prefix, rfl⟩
    · obtain ⟨before, now, request, hbefore, rfl⟩ := ih hrest
      exact ⟨first :: before, now, request, List.cons_prefix_cons.2 ⟨rfl, hbefore⟩, rfl⟩

/-! ### Turns that report no success -/

/-- Both counters as they were. -/
def SameMean (q q' : Registry) : Prop := q'.doneCount = q.doneCount ∧ q'.doneTime = q.doneTime

/-- What leaves the mean alone twice leaves it alone. -/
theorem SameMean.trans {q q' q'' : Registry} (h : q.SameMean q') (h' : q'.SameMean q'') :
    q.SameMean q'' :=
  ⟨h'.1.trans h.1, h'.2.trans h.2⟩

section
variable {now : Nat} {q : Registry}

/-- An update leaves the counters as they are, unless it makes a record done. -/
theorem sameMean_update {id : String} {f : Record → Except Error Record}
    (hf : ∀ old new, q.records.find? id = some old → f old = .ok new → old.isFinal = false →
      new.stage ≠ .done) : q.SameMean (q.update now id f).2 := by
  simp only [update]
  -- The sum moves only with an update by which an open record becomes done.
  split
  · exact ⟨rfl, rfl⟩
  next old hold =>
    split
    · exact ⟨rfl, rfl⟩
    next new hnew =>
      simp only [tally]
      split
      · exact ⟨rfl, rfl⟩
      next hends =>
        simp only [Bool.or_eq_true, Bool.not_eq_true', not_or, Bool.not_eq_true,
          Bool.not_eq_false] at hends
        rw [if_neg (hf old new hold hnew hends.1)]
        exact ⟨rfl, rfl⟩

/-- Updates under the ids of a list that never make a record done. -/
theorem sameMean_foldl_update {f : Record → Except Error Record}
    (hf : ∀ old new, f old = .ok new → old.isFinal = false → new.stage ≠ .done)
    (ids : List String) (q : Registry) :
    q.SameMean (ids.foldl (fun q id => (q.update now id f).2) q) := by
  induction ids generalizing q with
  | nil => exact ⟨rfl, rfl⟩
  | cons id ids ih => exact (sameMean_update fun old new _ => hf old new).trans (ih _)

/-- Purged jobs stay in the mean. -/
theorem sameMean_purge (now : Nat) (q : Registry) : q.SameMean (q.purge now) := by
  simp only [purge]
  split <;> exact ⟨rfl, rfl⟩

end

end Registry

/-- A job that is marked as running is not done. -/
theorem Record.stage_of_start {now : Nat} {old new : Record} (h : old.start now = .ok new) :
    new.stage ≠ .done := by
  simp only [Record.start] at h
  split at h <;> cases h
  intro hdone
  cases hdone

/-- A cancellation of a job that has not ended leaves it canceled, or asked to stop. -/
theorem Record.stage_of_cancel {r : Record} (h : r.isFinal = false) (now : Nat) (reason : String)
    (immediate : Bool) : (r.cancel now reason immediate).stage ≠ .done := by
  obtain ⟨asked, hasked, hstopped, hstage, -⟩ := Registry.cancel_of_open h now reason
  cases immediate with
  | false => rw [hasked, hstage]; nofun
  | true => rw [hstopped]; nofun

/-- Work that ends in an error does not leave its job done. -/
theorem Record.stage_of_finish_error {now : Nat} {cause : String} {old new : Record}
    (h : old.finish now (.error cause) = .ok new) : new.stage ≠ .done := by
  simp only [Record.finish] at h
  split at h <;> cases h <;> intro hdone <;> cases hdone

namespace Registry

/-- A request that reports no success leaves the counters as they are. -/
theorem sameMean_serve (scan : Scan) (now : Nat) {request : Request}
    (h : ∀ id report, request ≠ .done id report) (q : Registry) :
    q.SameMean (q.serve scan now request).2 := by
  have canceled (reason : String) (immediate : Bool) (old new : Record)
      (hnew : Except.ok (old.cancel now reason immediate) = (.ok new : Except Error Record))
      (hopen : old.isFinal = false) : new.stage ≠ .done := by
    cases hnew
    exact Record.stage_of_cancel hopen now reason immediate
  -- One case for each request, of which none but a report of success makes a record done.
  cases request with
  | add job =>
    refine (sameMean_purge now q).trans ?_
    show (q.purge now).SameMean (q.add now job).2
    simp only [add]
    split <;> exact ⟨rfl, rfl⟩
  | get id external =>
    show q.SameMean (q.get now id external).2
    simp only [get]
    split
    · exact ⟨rfl, rfl⟩
    · split <;> exact ⟨rfl, rfl⟩
  | start id => exact sameMean_update fun _ _ _ hnew _ => Record.stage_of_start hnew
  | startNext n => exact sameMean_foldl_update (fun _ _ hnew _ => Record.stage_of_start hnew) _ q
  | done id report => exact absurd rfl (h id report)
  | fail id cause => exact sameMean_update fun _ _ _ hnew _ => Record.stage_of_finish_error hnew
  | cancel id reason immediate =>
    exact sameMean_update fun old new _ => canceled reason immediate old new
  | cancelOverdue timeout abandoned reason =>
    exact (sameMean_purge now q).trans (sameMean_foldl_update (canceled reason true) _ _)
  | toCancel | purge => exact sameMean_purge now q
  | sinceCheck id => exact ⟨rfl, rfl⟩

/-- A report of success for a job that neither waits nor runs changes no counter: the job was asked
to stop and is canceled, or has ended and the report is refused. -/
theorem sameMean_done (scan : Scan) (now : Nat) {q : Registry} {id : String} (report : Report)
    (h : ∀ old, q.records.find? id = some old → ¬ (old.stage = .waiting ∨ old.stage = .running)) :
    q.SameMean (q.serve scan now (.done id report)).2 := by
  refine sameMean_update fun old new hold hnew _ => ?_
  simp only [Record.finish] at hnew
  split at hnew
  · cases hnew
    intro hdone
    cases hdone
  next hwaiting => exact absurd (.inl hwaiting) (h old hold)
  next hrunning => exact absurd (.inr hrunning) (h old hold)
  · cases hnew

/-- A turn that reports no success for a job that waits or runs leaves both counters as they are. -/
theorem sameMean_turn (scan : Scan) (now : Nat) (request : Request) (q : Registry)
    (h : (q.turn scan now request).succeeded? = none) :
    q.SameMean (q.serve scan now request).2 := by
  by_cases hdone : ∃ id report, request = .done id report
  · obtain ⟨id, report, rfl⟩ := hdone
    refine sameMean_done scan now report fun old hold hstage => ?_
    simp only [Turn.succeeded?, turn, hold, Option.filter_eq_none_iff, Option.some.injEq,
      forall_eq', Bool.or_eq_true, beq_iff_eq] at h
    exact h hstage
  · exact sameMean_serve scan now (fun id report heq => hdone ⟨id, report, heq⟩) q

/-- A turn counts the records that it makes done. -/
theorem Ledger.Balanced.length_newlyDone {l : Ledger} (h : l.Balanced) (scan : Scan) (now : Nat)
    (request : Request) :
    (l.registry.serve scan now request).2.doneCount
      = l.registry.doneCount + (l.registry.turn scan now request).newlyDone.length := by
  have hdone := (h.serve scan now request).doneCount
  rw [Ledger.registry_serve, Ledger.done_serve, List.length_append, ← h.doneCount] at hdone
  rw [hdone, ← List.length_map (fun r : Record => r.status.request), map_request_newlyDone]
  rfl

/-! ### Reports of success -/

/-- The record of a job that waits or runs after a report of success, with the times of the start
and of the end. -/
theorem finish_done (now : Nat) {old : Record} (hlawful : old.Lawful)
    (h : old.stage = .waiting ∨ old.stage = .running) (report : Report) :
    ∃ new started, old.finish now (.done report) = .ok new ∧ new.stage = .done ∧
      new.status.startedAt = some started ∧ new.status.completedAt = some now ∧
      (old.stage = .waiting → started = now) := by
  -- A job that waits starts and ends in one call. One that runs keeps its start.
  rcases h with h | h
  · refine ⟨((old.enter .running).stampStart now).conclude now (.done report), now, ?_, rfl, rfl,
      rfl, fun _ => rfl⟩
    simp only [Record.finish, h]
  · obtain ⟨started, hstarted⟩ := Option.isSome_iff_exists.1 (hlawful.startedAt_of_running h)
    refine ⟨old.conclude now (.done report), started, ?_, rfl, hstarted, rfl, fun hwaiting => ?_⟩
    · simp only [Record.finish, h]
    · rw [h] at hwaiting
      cases hwaiting

/-- What a report of success for a job that waits or runs adds. -/
structure Turn.Adds (t : Turn) (old new : Record) (started : Nat) : Prop where
  newlyDone : t.newlyDone = [new]
  startedAt : new.status.startedAt = some started
  completedAt : new.status.completedAt = some t.now
  doneTime : t.after.doneTime = capped (t.before.doneTime + new.took)
  /-- The work of a job that waits starts as it ends. -/
  waiting : old.stage = .waiting → started = t.now

/-- What a turn adds is how long the work took. -/
theorem Turn.Adds.took {t : Turn} {old new : Record} {started : Nat} (h : t.Adds old new started) :
    new.took = elapsed t.now started := by
  rw [Record.took, h.startedAt, h.completedAt]
  rfl

/-- The registry after a report of success that makes a record done. -/
theorem serve_done (scan : Scan) {now : Nat} {q : Registry} {id : String} {report : Report}
    {old new : Record} (hold : q.records.find? id = some old)
    (hnew : old.finish now (.done report) = .ok new) (hopen : old.isFinal = false)
    (hdone : new.stage = .done) :
    (q.serve scan now (.done id report)).2 = { q with
      records := q.records.modify id fun _ => new
      completed := q.completed + 1
      doneCount := q.doneCount + 1
      doneTime := capped (q.doneTime + new.duration now) } := by
  have hfinal : new.isFinal = true := by
    rw [Record.isFinal_of_stage hdone]
    rfl
  -- The record was open and is done now, so the tally counts it.
  show (q.finish now id (.done report)).2 = _
  simp only [finish, update, hold, hnew, tally]
  rw [hopen, hfinal, if_neg (by simp), if_pos hdone]

/-- Where a turn replaces one record, no other is done by it. -/
theorem Turn.eq_of_mem_newlyDone {t : Turn} {id : String} {old new : Record}
    (hold : t.before.records.find? id = some old)
    (hafter : t.after.records = t.before.records.modify id fun _ => new) {r : Record}
    (hr : r ∈ t.newlyDone) : r = new := by
  simp only [newlyDone, List.mem_filter, Bool.and_eq_true, decide_eq_true_eq] at hr
  obtain ⟨hmem, hdone, hfresh⟩ := hr
  -- A record that is newly done changed in this turn, and only that of the id did.
  obtain ⟨row, hrow, hvalue⟩ := List.mem_map.1 hmem
  have hfind := (Table.find?_eq_some_iff ..).2 hrow
  rw [hvalue, hafter, Table.find?_modify] at hfind
  split at hfind
  next hid =>
    rw [hid, hold] at hfind
    exact (Option.some.inj hfind).symm
  next => exact absurd (mem_numbers.2 ⟨row.1, r, hfind, hdone, rfl⟩) hfresh

/-- A report of success adds the duration of one record. -/
theorem Ledger.Balanced.adds {l : Ledger} (h : l.Balanced) (scan : Scan) (now : Nat)
    (request : Request) {old : Record}
    (hold : (l.registry.turn scan now request).succeeded? = some old) :
    ∃ new started, (l.registry.turn scan now request).Adds old new started := by
  have hlength := h.length_newlyDone scan now request
  have hkeyed := h.keyed
  generalize l.registry = q at hold hlength hkeyed ⊢
  cases request with
  | done id report =>
    simp only [Turn.succeeded?, turn, Option.filter_eq_some_iff, Bool.or_eq_true,
      beq_iff_eq] at hold
    obtain ⟨hfind, hstage⟩ := hold
    obtain ⟨new, started, hfinish, hdone, hstartedAt, hcompletedAt, hwaiting⟩ :=
      finish_done now (hkeyed id old hfind).2 hstage report
    have hopen : old.isFinal = false := by
      rcases hstage with hs | hs <;> rw [Record.isFinal_of_stage hs] <;> rfl
    have hserve := serve_done scan hfind hfinish hopen hdone
    rw [hserve] at hlength
    -- One record is done, and it can only be the one that was replaced.
    have hone : (q.turn scan now (.done id report)).newlyDone.length = 1 :=
      (Nat.add_left_cancel hlength).symm
    obtain ⟨r, hr⟩ := List.length_eq_one_iff.1 hone
    have hnew : r = new := Turn.eq_of_mem_newlyDone (t := q.turn scan now (.done id report)) hfind
      (congrArg Registry.records hserve) (hr ▸ List.mem_cons_self)
    have htook : new.took = new.duration now := by
      rw [Record.took, Record.duration, hstartedAt, hcompletedAt]
      rfl
    refine ⟨new, started, ?_⟩
    exact
      { newlyDone := by rw [hr, hnew]
        startedAt := hstartedAt
        completedAt := hcompletedAt
        doneTime := by
          rw [htook]
          exact congrArg Registry.doneTime hserve
        waiting := hwaiting }
  | _ => cases hold

/-! ### The counters of a reachable registry -/

/-- The counters of the registry are the number of the durations in the transcript and their sum. -/
structure Timed (log : List Turn) (q : Registry) : Prop where
  doneCount : q.doneCount = (durations log).length
  doneTime : q.doneTime = capped (durations log).sum

/-- One more turn adds the durations of what is newly done. -/
theorem durations_concat (log : List Turn) (t : Turn) :
    durations (log ++ [t]) = durations log ++ t.newlyDone.map Record.took := by
  simp [durations]

/-- One more turn keeps the counters in agreement with the durations. -/
theorem Timed.serve {log : List Turn} {l : Ledger} (h : Timed log l.registry) (hl : l.Balanced)
    (scan : Scan) (now : Nat) (request : Request) :
    Timed (log ++ [l.registry.turn scan now request]) (l.registry.serve scan now request).2 := by
  have hlength := hl.length_newlyDone scan now request
  have hdoneCount := hlength
  rw [h.doneCount] at hdoneCount
  refine ⟨by rw [durations_concat, List.length_append, List.length_map, hdoneCount], ?_⟩
  rw [durations_concat, List.sum_append]
  -- A turn adds one duration or leaves the mean alone.
  cases hold : (l.registry.turn scan now request).succeeded? with
  | none =>
    obtain ⟨hcount, htime⟩ := sameMean_turn scan now request l.registry hold
    rw [hcount, Nat.left_eq_add, List.length_eq_zero_iff] at hlength
    rw [hlength, htime, h.doneTime]
    rfl
  | some old =>
    obtain ⟨new, started, hadds⟩ := hl.adds scan now request hold
    have htime : (l.registry.serve scan now request).2.doneTime
        = capped (l.registry.doneTime + new.took) := hadds.doneTime
    rw [htime, h.doneTime, capped_add_right, hadds.newlyDone]
    rfl

/-- After a run the counters are those of its transcript. -/
theorem timed_run (scan : Scan) (retention : Option Nat) (requests : List (Nat × Request)) :
    Timed (turns scan requests { retention }) (run scan requests { retention }) := by
  induction requests using List.reverseRecOn with
  | nil => exact ⟨rfl, rfl⟩
  | append_singleton requests last ih =>
    obtain ⟨now, request⟩ := last
    have hl := ((Ledger.balanced_empty retention).run scan requests).1
    have hregistry := Ledger.registry_run scan requests { registry := { retention } }
    rw [turns_append, run_append]
    rw [← hregistry] at ih ⊢
    exact ih.serve hl scan now request

/-! ### The mean -/

section
variable {log : List Turn} {q : Registry}

/-- The average is the capped sum over the number of durations. -/
theorem Timed.averageDuration (h : Timed log q) :
    q.averageDuration = capped (durations log).sum / (durations log).length := by
  rw [Registry.averageDuration, h.doneCount, h.doneTime]

/-- The mean is not above the longest duration. -/
theorem Timed.averageDuration_le (h : Timed log q) {d : Nat} (hd : ∀ d' ∈ durations log, d' ≤ d) :
    q.averageDuration ≤ d := by
  have hsum : (durations log).sum ≤ (durations log).length * d :=
    List.sum_le_card_nsmul (durations log) d hd
  rw [h.averageDuration]
  exact Nat.div_le_of_le_mul ((Nat.min_le_left _ _).trans hsum)

/-- The mean is not below the shortest duration, as long as the sum is in the range. -/
theorem Timed.le_averageDuration (h : Timed log q) (hsome : durations log ≠ [])
    (hrange : (durations log).sum ≤ maxWord) {d : Nat} (hd : ∀ d' ∈ durations log, d ≤ d') :
    d ≤ q.averageDuration := by
  have hsum : (durations log).length * d ≤ (durations log).sum :=
    List.card_nsmul_le_sum (durations log) d hd
  rw [h.averageDuration, capped_of_le hrange, Nat.le_div_iff_mul_le (List.length_pos_iff.2 hsome)]
  rwa [Nat.mul_comm]

end

/-- The mean duration tells of the whole run. Take any requests to an empty registry, at any times,
and list how long the work took of each job that was done, whether its record is still there or was
purged.

The registry counts these jobs, and its mean is their capped sum divided by their number, and zero
while there is none. It is not above the longest duration and, as long as the sum is in the range,
not below the shortest.

A turn adds to the list only as a report of success for a job that waits or runs. It adds the time
since the start of the work, which is zero for a job that waits. Any other turn leaves the mean as
it is: a job that ends in another way, a report of success for a job that was asked to stop, and a
purge. -/
theorem run_average (scan : Scan) (retention : Option Nat) (requests : List (Nat × Request)) :
    let log := turns scan requests { retention }
    let q := run scan requests { retention }
    let ds := durations log
    q.doneCount = ds.length ∧
      q.averageDuration = (if ds.length = 0 then 0 else min maxWord ds.sum / ds.length) ∧
      (∀ d, ds.max? = some d → q.averageDuration ≤ d) ∧
      (∀ d, ds.min? = some d → ds.sum ≤ maxWord → d ≤ q.averageDuration) ∧
      ∀ t ∈ log,
        (t.succeeded? = none →
          t.newlyDone = [] ∧ t.after.averageDuration = t.before.averageDuration) ∧
        ∀ old, t.succeeded? = some old → ∃ new started,
          t.newlyDone = [new] ∧ new.status.startedAt = some started ∧
            new.status.completedAt = some t.now ∧ new.took = elapsed t.now started ∧
            (old.stage = .waiting → new.took = 0) := by
  intro log q ds
  have h : Timed log q := timed_run scan retention requests
  refine ⟨h.doneCount, ?_, fun d hd => ?_, fun d hd hrange => ?_, fun t ht => ?_⟩
  · rw [h.averageDuration]
    split
    next hnone => rw [show (durations log).length = 0 from hnone, Nat.div_zero]
    next => rw [capped, Nat.min_comm]
  · exact h.averageDuration_le (List.max?_eq_some_iff.1 hd).2
  · obtain ⟨hmem, hleast⟩ := List.min?_eq_some_iff.1 hd
    exact h.le_averageDuration (List.ne_nil_of_mem hmem) hrange hleast
  · -- Each turn is one request to the registry that the turns before it left.
    obtain ⟨before, now, request, -, rfl⟩ := exists_of_mem_turns ht
    have hl := ((Ledger.balanced_empty retention).run scan before).1
    have hregistry := Ledger.registry_run scan before { registry := { retention } }
    rw [← hregistry]
    refine ⟨fun hnone => ?_, fun old hold => ?_⟩
    · have hsame := sameMean_turn scan now request _ hnone
      have hlength := hl.length_newlyDone scan now request
      rw [hsame.1, Nat.left_eq_add, List.length_eq_zero_iff] at hlength
      refine ⟨hlength, ?_⟩
      show Registry.averageDuration (Registry.serve ..).2 = _
      rw [Registry.averageDuration, hsame.1, hsame.2]
      rfl
    · obtain ⟨new, started, hadds⟩ := hl.adds scan now request hold
      refine ⟨new, started, hadds.newlyDone, hadds.startedAt, hadds.completedAt, hadds.took,
        fun hwaiting => ?_⟩
      rw [hadds.took, hadds.waiting hwaiting]
      exact Nat.sub_self _

end Registry

end JobScheduling
