import JobScheduling.Proofs.Registry.Lookup

/-!
# `JobScheduling.Proofs.Registry.Cancellation`: what a cancellation leaves

A job that has not ended can be asked to stop, and it can be recorded as stopped.
`Record.asked` and `Record.stopped` are the two records that come of it.

The operation on the registry follows from that. It leaves a record that has ended as it is
(`cancel_of_ended`). Otherwise it replaces the record, and counts the job as completed when it has
stopped (`cancel_false`, `cancel_true`). No job is done by that, so the average duration stays,
also when a whole row of jobs is stopped (`foldl_cancel`).
-/

set_option autoImplicit false

namespace JobScheduling

namespace Record

/-- The record of a job that has not ended, after it was asked to stop. A job that was asked
before keeps the reason given then. -/
def asked (reason : String) (r : Record) : Record :=
  if r.stage = .canceling then r
  else
    { r with
      status := { r.status with stage := .canceling, error := some reason }
      history := r.history ++ [.canceling] }

/-- The record of a job that has not ended, after it has stopped. It is asked to stop first. -/
def stopped (now : Nat) (reason : String) (r : Record) : Record :=
  { r.asked reason with
    status := { (r.asked reason).status with stage := .canceled, completedAt := some now }
    history := (r.asked reason).history ++ [.canceled] }

/-- Who asks again changes nothing. -/
theorem asked_of_canceling {r : Record} (h : r.stage = .canceling) (reason : String) :
    r.asked reason = r := if_pos h

/-- What was asked to stop is canceling. -/
theorem stage_asked (reason : String) (r : Record) : (r.asked reason).stage = .canceling := by
  unfold asked
  split
  next h => exact h
  next => rfl

/-- It has not ended by that. -/
theorem isFinal_asked (reason : String) (r : Record) : (r.asked reason).isFinal = false := by
  rw [isFinal_of_stage (stage_asked reason r)]
  rfl

/-- The job stays what it is. -/
@[simp]
theorem job_asked (reason : String) (r : Record) : (r.asked reason).status.job = r.status.job := by
  unfold asked
  split <;> rfl

/-- A job that is stopped stays what it is. -/
@[simp]
theorem job_stopped (now : Nat) (reason : String) (r : Record) :
    (r.stopped now reason).status.job = r.status.job := job_asked reason r

/-- What was stopped has ended. -/
theorem isFinal_stopped (now : Nat) (reason : String) (r : Record) :
    (r.stopped now reason).isFinal = true := rfl

section
variable {r : Record} (h : r.isFinal = false) (now : Nat) (reason : String)

include h

/-- A job that has not ended waits, runs, or was asked to stop. -/
theorem stage_of_open : r.stage = .waiting ∨ r.stage = .running ∨ r.stage = .canceling := by
  unfold isFinal at h
  cases hr : r.stage with
  | waiting => exact .inl rfl
  | running => exact .inr (.inl rfl)
  | canceling => exact .inr (.inr rfl)
  | canceled | done | error =>
    rw [hr] at h
    cases h

/-- An open job that is to stop later is asked to. -/
theorem cancel_eq_asked : r.cancel now reason false = r.asked reason := by
  rcases stage_of_open h with hr | hr | hr <;> simp [cancel, asked, hr, enter, withError]

/-- The reason is given with the first of the two stages. -/
theorem cancel_eq_stopped : r.cancel now reason true = r.stopped now reason := by
  rcases stage_of_open h with hr | hr | hr <;>
    simp [cancel, stopped, asked, h, hr, enter, withError, stampEnd]

end

/-- A record that has ended stays as it is, whoever asks for a cancellation. -/
theorem cancel_eq (now : Nat) (reason : String) (immediate : Bool) (r : Record) :
    r.cancel now reason immediate = if r.isFinal then r
      else if immediate then r.stopped now reason else r.asked reason := by
  cases h : r.isFinal with
  | true => exact Registry.cancel_of_isFinal h now reason immediate
  | false =>
    cases immediate with
    | true => exact cancel_eq_stopped h now reason
    | false => exact cancel_eq_asked h now reason

end Record

namespace Registry

variable {q : Registry} {id : String} {r : Record}

/-- A job that has ended is not canceled any more. -/
theorem cancel_of_ended (hr : q.records.find? id = some r) (h : r.isFinal = true) (now : Nat)
    (reason : String) (immediate : Bool) : q.cancel now id reason immediate = (.ok (), q) := by
  have hmodify : (q.records.modify id fun _ => r) = q.records := Table.modify_eq_self hr rfl
  have hcancel : r.cancel now reason immediate = r := cancel_of_isFinal h now reason immediate
  simp only [cancel, update, hr, hcancel, hmodify]
  simp [tally, h]

/-- A job that is asked to stop is not counted. -/
theorem cancel_false (hr : q.records.find? id = some r) (h : r.isFinal = false) (now : Nat)
    (reason : String) : q.cancel now id reason false
      = (.ok (), { q with records := q.records.modify id fun _ => r.asked reason }) := by
  have hopen : (r.asked reason).isFinal = false := Record.isFinal_asked reason r
  simp only [cancel, update, hr, Record.cancel_eq_asked h]
  simp [tally, hopen]

/-- A job that has stopped counts as completed, and not as done. -/
theorem cancel_true (hr : q.records.find? id = some r) (h : r.isFinal = false) (now : Nat)
    (reason : String) : q.cancel now id reason true
      = (.ok (), { q with
        records := q.records.modify id fun _ => r.stopped now reason
        completed := q.completed + 1 }) := by
  have hended : (r.stopped now reason).isFinal = true := Record.isFinal_stopped now reason r
  have hstage : (r.stopped now reason).stage ≠ .done := nofun
  simp only [cancel, update, hr, Record.cancel_eq_stopped h]
  simp [tally, h, hended, hstage]

/-- Who asks a job to stop that has ended or was asked before changes nothing. -/
theorem cancel_false_again (hr : q.records.find? id = some r)
    (h : r.isFinal = true ∨ r.stage = .canceling) (now : Nat) (reason : String) :
    q.cancel now id reason false = (.ok (), q) := by
  rcases h with h | h
  · exact cancel_of_ended hr h now reason false
  · have hopen : r.isFinal = false := by
      rw [Record.isFinal_of_stage h]
      rfl
    have hmodify : (q.records.modify id fun _ => r) = q.records := Table.modify_eq_self hr rfl
    rw [cancel_false hr hopen, Record.asked_of_canceling h, hmodify]

/-- A cancellation changes records, and how many jobs count as completed. -/
theorem cancel_snd (now : Nat) (id reason : String) (immediate : Bool) (q : Registry) :
    ∃ records completed, (q.cancel now id reason immediate).2 = { q with records, completed } := by
  -- No record, an ended one, or an open one that is asked or stopped.
  cases hr : q.records.find? id with
  | none =>
    refine ⟨q.records, q.completed, ?_⟩
    simp only [cancel, update, hr]
  | some r =>
    cases h : r.isFinal with
    | true => exact ⟨q.records, q.completed, congrArg Prod.snd (cancel_of_ended hr h ..)⟩
    | false =>
      cases immediate with
      | true => exact ⟨_, _, congrArg Prod.snd (cancel_true hr h now reason)⟩
      | false => exact ⟨_, _, congrArg Prod.snd (cancel_false hr h now reason)⟩

/-- As many jobs count as completed as are stopped, and no other counter changes. -/
theorem foldl_cancel {ids : List String} (hnodup : ids.Nodup) (now : Nat) (reason : String)
    {q : Registry} (hopen : ∀ id ∈ ids, ∃ r, q.records.find? id = some r ∧ r.isFinal = false) :
    let q' := ids.foldl (fun q id => (q.cancel now id reason true).2) q
    q' = { q with records := q'.records, completed := q.completed + ids.length } := by
  induction ids generalizing q with
  | nil => rfl
  | cons id ids ih =>
    obtain ⟨hid, hids⟩ := List.nodup_cons.1 hnodup
    obtain ⟨r, hr, hfinal⟩ := hopen id List.mem_cons_self
    have hfirst := congrArg Prod.snd (cancel_true hr hfinal now reason)
    -- The other jobs still have not ended.
    have hrest : ∀ id' ∈ ids, ∃ r, (q.cancel now id reason true).2.records.find? id' = some r ∧
        r.isFinal = false := by
      intro id' hid'
      have hne : id' ≠ id := fun heq => hid (heq ▸ hid')
      rw [find?_cancel, if_neg hne]
      exact hopen id' (List.mem_cons_of_mem id hid')
    intro q'
    have hlast := ih hids hrest
    rw [hfirst] at hlast
    simp only [q', List.foldl_cons, hfirst, List.length_cons]
    refine hlast.trans ?_
    simp only [Nat.add_assoc, Nat.add_comm 1]

end Registry

end JobScheduling
