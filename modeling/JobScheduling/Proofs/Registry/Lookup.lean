import JobScheduling.Registry.Request
import Mathlib.Data.List.Nodup

/-!
# `JobScheduling.Proofs.Registry.Lookup`: the operations of the registry, id by id

Each operation of the registry has one equation here, `find?_f`, that says which record
lies under an id afterwards. Proofs about the registry go through these equations and
unfold no operation.

`Registry.update` reaches one id, so its equation is an `if`. The operations that visit
several records are folds of updates. What an update does a second time under one id is
nothing (`find?_foldl_update`), so their equations do not depend on the order of the
visit, nor on an id that is visited twice.
-/

set_option autoImplicit false

namespace JobScheduling

/-- Whether a job is overdue next to limits in seconds. No time that can be told exceeds the
largest one. -/
theorem Record.isOverdue_iff {now T A : Nat} (hrange : now ≤ maxWord) (r : Record) :
    r.isOverdue now (capped (T * 1000)) (capped (A * 1000)) = true ↔ r.isFinal = false ∧
      (T * 1000 < r.status.job.age now ∨ A * 1000 < elapsed now r.lastCheck) := by
  have hage : r.status.job.age now ≤ maxWord := Nat.le_trans (Nat.sub_le ..) hrange
  have hcheck : elapsed now r.lastCheck ≤ maxWord := Nat.le_trans (Nat.sub_le ..) hrange
  simp only [isOverdue]
  simp only [Bool.and_eq_true, Bool.not_eq_true', Bool.or_eq_true, decide_eq_true_eq,
    capped_lt_iff hage, capped_lt_iff hcheck]

namespace Registry

/-- Whether a record has outlived the retention of the registry. -/
def expires (now : Nat) (q : Registry) (r : Record) : Bool :=
  q.retention.any fun retention => r.isExpired now retention

/-- A record that has not ended does not expire. -/
theorem expires_eq_false {now : Nat} {q : Registry} {r : Record} (h : r.isFinal = false) :
    q.expires now r = false := by
  simp only [expires]
  cases q.retention <;> simp [Record.isExpired, h]

/-- A record that ends now has not expired. -/
theorem expires_of_ended_now {now : Nat} {q : Registry} {r : Record}
    (h : r.status.completedAt = some now) : q.expires now r = false := by
  -- The last access is the end or a later check, so no time has passed since.
  have hrecent : elapsed now r.lastAccess = 0 := by
    simp only [Record.lastAccess, elapsed]
    rw [h]
    have hle := Nat.le_max_left now r.lastCheck
    show now - max now _ = 0
    omega
  simp only [expires]
  cases q.retention <;> simp [Record.isExpired, hrecent]

/-- A record expires when its last check lies further back than the retention. -/
theorem lt_of_expires {now : Nat} {q : Registry} {r : Record} (h : q.expires now r = true) :
    ∃ retention, q.retention = some retention ∧ retention < elapsed now r.lastCheck := by
  rw [expires, Option.any_eq_true] at h
  obtain ⟨retention, hretention, hexpired⟩ := h
  simp only [Record.isExpired, Bool.and_eq_true, decide_eq_true_eq] at hexpired
  -- The last access is not before the last check.
  have haccess : r.lastCheck ≤ r.lastAccess := by
    simp only [Record.lastAccess]
    split
    · exact Nat.le_refl _
    · exact Nat.le_max_right ..
  have hlong := hexpired.2
  simp only [elapsed] at hlong ⊢
  exact ⟨retention, hretention, by omega⟩

/-! ### Purge -/

/-- A purge drops the records that have outlived the retention. -/
theorem find?_purge (now : Nat) (q : Registry) (id : String) :
    (q.purge now).records.find? id
      = (q.records.find? id).filter fun r => !q.expires now r := by
  simp only [purge, expires]
  cases hretention : q.retention with
  | none => cases q.records.find? id <;> rfl
  | some retention => rw [Table.find?_filter]; rfl

/-- A purge keeps a record, unless its last check lies further back than the retention. -/
theorem find?_purge_cases (now : Nat) {q : Registry} {id : String} {r : Record}
    (hr : q.records.find? id = some r) : (q.purge now).records.find? id = some r ∨
      ∃ retention, q.retention = some retention ∧ retention < elapsed now r.lastCheck := by
  rw [find?_purge, hr]
  cases hexpires : q.expires now r with
  | false => exact .inl (by rw [Option.filter_some, hexpires]; rfl)
  | true => exact .inr (lt_of_expires hexpires)

/-- A purge concerns the records only. -/
theorem purge_eq (now : Nat) (q : Registry) : ∃ records, q.purge now = { q with records } := by
  simp only [purge]
  split
  · exact ⟨q.records, rfl⟩
  · exact ⟨_, rfl⟩

/-- A purge does not change for how long records are kept. -/
@[simp]
theorem retention_purge (now : Nat) (q : Registry) : (q.purge now).retention = q.retention := by
  simp only [purge]
  cases h : q.retention <;> simp [h]

/-- A purge gives out no number and takes none back. -/
@[simp]
theorem requests_purge (now : Nat) (q : Registry) : (q.purge now).requests = q.requests := by
  simp only [purge]
  cases h : q.retention <;> simp

/-- What lies under an id after a purge lay there before. -/
theorem find?_of_find?_purge {now : Nat} {q : Registry} {id : String} {r : Record}
    (h : (q.purge now).records.find? id = some r) : q.records.find? id = some r := by
  rw [find?_purge, Option.filter_eq_some_iff] at h
  exact h.1

/-- What is left by a purge has not expired. -/
theorem expires_of_find?_purge {now : Nat} {q : Registry} {id : String} {r : Record}
    (h : (q.purge now).records.find? id = some r) : q.expires now r = false := by
  rw [find?_purge, Option.filter_eq_some_iff] at h
  simpa using h.2

/-- Whether a record expires depends on the retention only. -/
theorem expires_congr {q q' : Registry} (h : q'.retention = q.retention) (now : Nat) :
    q'.expires now = q.expires now := by
  funext r
  simp only [expires, h]

/-! ### Update -/

/-- The bookkeeping about an end is apart from the records. -/
@[simp]
theorem records_tally (now : Nat) (old new : Record) (q : Registry) :
    (q.tally now old new).records = q.records := by
  simp only [tally]
  split
  · rfl
  · split <;> rfl

/-- The end of a job gives out no number. -/
@[simp]
theorem requests_tally (now : Nat) (old new : Record) (q : Registry) :
    (q.tally now old new).requests = q.requests := by
  simp only [tally]
  split
  · rfl
  · split <;> rfl

/-- The end of a job does not change for how long records are kept. -/
@[simp]
theorem retention_tally (now : Nat) (old new : Record) (q : Registry) :
    (q.tally now old new).retention = q.retention := by
  simp only [tally]
  split
  · rfl
  · split <;> rfl

/-- An update replaces the record under its id, if the change is not refused. -/
theorem find?_update (now : Nat) (id : String) (f : Record → Except Error Record)
    (q : Registry) (k : String) :
    (q.update now id f).2.records.find? k
      = if k = id then (q.records.find? k).map fun r => (f r).toOption.getD r
        else q.records.find? k := by
  simp only [update]
  split
  next hnone =>
    split
    next hk => rw [hk, hnone]; rfl
    next => rfl
  next old hold =>
    split
    next e he =>
      -- A refused change leaves the record as it is.
      split
      next hk => rw [hk, hold, Option.map_some, he]; rfl
      next => rfl
    next new hnew =>
      rw [records_tally, Table.find?_modify]
      split
      next hk => rw [hk, hold, Option.map_some, Option.map_some, hnew]; rfl
      next => rfl

/-- An update gives out no number. -/
@[simp]
theorem requests_update (now : Nat) (id : String) (f : Record → Except Error Record)
    (q : Registry) : (q.update now id f).2.requests = q.requests := by
  simp only [update]
  split
  · rfl
  · split
    · rfl
    · rw [requests_tally]

/-- An update does not change for how long records are kept. -/
@[simp]
theorem retention_update (now : Nat) (id : String) (f : Record → Except Error Record)
    (q : Registry) : (q.update now id f).2.retention = q.retention := by
  simp only [update]
  split
  · rfl
  · split
    · rfl
    · rw [retention_tally]

/-- Updates under the ids of a list, where a second update under an id changes nothing:
each id of the list is updated once. -/
theorem find?_foldl_update (now : Nat) (f : Record → Except Error Record)
    (hf : ∀ r, (f ((f r).toOption.getD r)).toOption.getD ((f r).toOption.getD r)
      = (f r).toOption.getD r)
    (ids : List String) (q : Registry) (k : String) :
    (ids.foldl (fun q id => (q.update now id f).2) q).records.find? k
      = if k ∈ ids then (q.records.find? k).map fun r => (f r).toOption.getD r
        else q.records.find? k := by
  induction ids generalizing q with
  | nil => simp
  | cons id ids ih =>
    rw [List.foldl_cons, ih, find?_update]
    by_cases hk : k = id
    · subst hk
      -- The id is updated by the head, so a further occurrence in the tail adds nothing.
      cases hq : q.records.find? k with
      | none => simp
      | some r => simp [hf r]
    · simp [hk]

/-- Updates of several records give out no number. -/
theorem requests_foldl_update (now : Nat) (f : Record → Except Error Record)
    (ids : List String) (q : Registry) :
    (ids.foldl (fun q id => (q.update now id f).2) q).requests = q.requests := by
  induction ids generalizing q with
  | nil => rfl
  | cons id ids ih => rw [List.foldl_cons, ih, requests_update]

/-- Updates of several records do not change for how long records are kept. -/
theorem retention_foldl_update (now : Nat) (f : Record → Except Error Record)
    (ids : List String) (q : Registry) :
    (ids.foldl (fun q id => (q.update now id f).2) q).retention = q.retention := by
  induction ids generalizing q with
  | nil => rfl
  | cons id ids ih => rw [List.foldl_cons, ih, retention_update]

/-! ### Single records -/

/-- The record after an attempt to mark its job as running. -/
def started (now : Nat) (r : Record) : Record := (r.start now).toOption.getD r

/-- The record after an attempt to record the end of its work. -/
def finished (now : Nat) (ending : Ending) (r : Record) : Record :=
  (r.finish now ending).toOption.getD r

/-- A job that waits is marked as running; any other record stays as it is. -/
theorem started_eq (now : Nat) (r : Record) :
    started now r = if r.stage = .waiting then (r.enter .running).stampStart now else r := by
  simp only [started, Record.start]
  cases hr : r.stage <;> simp [Except.toOption]

/-- A start does not change the job. -/
@[simp]
theorem job_started (now : Nat) (r : Record) : (started now r).status.job = r.status.job := by
  rw [started_eq]
  split <;> rfl

/-- A job that waits runs after its start. -/
theorem stage_started (now : Nat) {r : Record} (h : r.stage = .waiting) :
    (started now r).stage = .running := by
  rw [started_eq, if_pos h]
  rfl

/-- A start is no check by the client. -/
@[simp]
theorem lastCheck_started (now : Nat) (r : Record) : (started now r).lastCheck = r.lastCheck := by
  rw [started_eq]
  split <;> rfl

/-- A start reaches the record of its id. -/
theorem find?_start (now : Nat) (id : String) (q : Registry) (k : String) :
    (q.start now id).2.records.find? k
      = if k = id then (q.records.find? k).map (started now) else q.records.find? k :=
  find?_update now id _ q k

/-- The record of a job that waits can be marked as running. -/
theorem start_eq_ok {now : Nat} {id : String} {q : Registry} {r : Record}
    (hr : q.records.find? id = some r) (hwaiting : r.stage = .waiting) :
    (q.start now id).1 = .ok () := by
  have hstart : r.start now = .ok ((r.enter .running).stampStart now) := by
    simp only [Record.start]
    rw [hwaiting]
  simp only [start, update, hr, hstart]

/-- The end of a job reaches the record of its id. -/
theorem find?_finish (now : Nat) (id : String) (ending : Ending) (q : Registry) (k : String) :
    (q.finish now id ending).2.records.find? k
      = if k = id then (q.records.find? k).map (finished now ending)
        else q.records.find? k :=
  find?_update now id _ q k

/-- A cancellation reaches the record of its id. -/
theorem find?_cancel (now : Nat) (id reason : String) (immediate : Bool) (q : Registry)
    (k : String) :
    (q.cancel now id reason immediate).2.records.find? k
      = if k = id then (q.records.find? k).map (·.cancel now reason immediate)
        else q.records.find? k :=
  find?_update now id _ q k

/-- An external request stamps the time of the check, and any other leaves all as it is. -/
theorem find?_get (now : Nat) (id : String) (external : Bool) (q : Registry) (k : String) :
    (q.get now id external).2.records.find? k
      = if k = id ∧ external = true then (q.records.find? k).map (·.checked now)
        else q.records.find? k := by
  simp only [get]
  split
  next hnone =>
    split
    next hk => rw [hk.1, hnone]; rfl
    next => rfl
  next r hr => cases external <;> simp [Table.find?_modify]

/-- A new job is recorded under its id, unless a record lies there after the purge. -/
theorem find?_add (now : Nat) (job : Job) (q : Registry) (k : String) :
    (q.add now job).2.records.find? k
      = if k = job.id ∧ (q.purge now).records.find? k = none then
          some (.new now job (q.requests + 1))
        else (q.purge now).records.find? k := by
  simp only [add]
  -- The queue refuses an id that is taken after the purge.
  by_cases hin : (q.purge now).records.contains job.id = true
  · have hsome : ((q.purge now).records.find? job.id).isSome = true := hin
    simp only [hin, if_true]
    split
    next hk => rw [hk.1] at hk; rw [hk.2] at hsome; cases hsome
    next => rfl
  · have hnone : (q.purge now).records.find? job.id = none :=
      Option.not_isSome_iff_eq_none.1 hin
    simp only [hin, Bool.false_eq_true, if_false, Table.find?_insert, requests_purge]
    by_cases hk : k = job.id
    · simp [hk, hnone]
    · simp [hk]

/-- A request for a status does not change for how long records are kept. -/
@[simp]
theorem retention_get (now : Nat) (id : String) (external : Bool) (q : Registry) :
    (q.get now id external).2.retention = q.retention := by
  simp only [get]
  split
  · rfl
  · split <;> rfl

/-- An addition does not change for how long records are kept. -/
@[simp]
theorem retention_add (now : Nat) (job : Job) (q : Registry) :
    (q.add now job).2.retention = q.retention := by
  unfold add
  dsimp only
  split <;> exact retention_purge ..

/-- A request for a status gives out no number. -/
@[simp]
theorem requests_get (now : Nat) (id : String) (external : Bool) (q : Registry) :
    (q.get now id external).2.requests = q.requests := by
  simp only [get]
  split
  · rfl
  · split <;> rfl

/-- A job that is recorded gets the next number. -/
theorem requests_add (now : Nat) (job : Job) (q : Registry) :
    (q.add now job).2.requests
      = if (q.purge now).records.find? job.id = none then q.requests + 1 else q.requests := by
  simp only [add]
  cases hr : (q.purge now).records.find? job.id <;> simp [Table.contains, hr]

/-- A job is recorded exactly when no record lies under its id after the purge. -/
theorem add_eq_ok_iff {now : Nat} {job : Job} {q : Registry} :
    (q.add now job).1 = .ok () ↔ (q.purge now).records.find? job.id = none := by
  simp only [add]
  cases hr : (q.purge now).records.find? job.id <;> simp [Table.contains, hr]

/-! ### Several records -/

/-- A second attempt to mark a job as running changes nothing. -/
theorem started_started (now : Nat) (r : Record) :
    started now (started now r) = started now r := by
  rw [started_eq now r]
  split
  next => rfl
  next h => rw [started_eq, if_neg h]

/-- After an immediate cancellation the job has ended. -/
theorem isFinal_cancel (now : Nat) (reason : String) (r : Record) :
    (r.cancel now reason true).isFinal = true := by
  simp only [Record.cancel]
  cases hr : r.stage <;> simp [Record.isFinal, hr, Stage.isFinal] <;> rfl

/-- A cancellation leaves a record that has ended as it is. -/
theorem cancel_of_isFinal {r : Record} (h : r.isFinal = true) (now : Nat) (reason : String)
    (immediate : Bool) : r.cancel now reason immediate = r := by
  unfold Record.isFinal at h
  simp only [Record.cancel]
  cases hr : r.stage <;> simp_all [Record.isFinal, Stage.isFinal]

/-- The cancellation of a record that has not ended passes through the stage at which the job is
asked to stop. -/
theorem cancel_of_open {r : Record} (h : r.isFinal = false) (now : Nat) (reason : String) :
    ∃ asked : Record, r.cancel now reason false = asked ∧
      r.cancel now reason true = (asked.enter .canceled).stampEnd now ∧
      asked.stage = .canceling ∧ asked.status.job = r.status.job ∧
      asked.status.startedAt = r.status.startedAt ∧ asked.lastCheck = r.lastCheck := by
  simp only [Record.cancel]
  rw [h]
  unfold Record.isFinal at h
  -- A job that was asked before keeps its reason, so its record is what was asked.
  cases hr : r.stage with
  | waiting | running => exact ⟨_, rfl, rfl, rfl, rfl, rfl, rfl⟩
  | canceling => exact ⟨r, rfl, rfl, hr, rfl, rfl, rfl⟩
  | canceled | done | error =>
    rw [hr] at h
    cases h

/-- The waiting jobs are claimed by their ids. -/
theorem mem_waitingIds {q : Registry} {id : String} :
    id ∈ q.waitingIds ↔ ∃ r, q.records.find? id = some r ∧ r.stage = .waiting := by
  simp only [waitingIds, List.mem_map, List.mem_mergeSort, List.mem_filter, Prod.exists]
  constructor
  · rintro ⟨_, _, ⟨key, r, ⟨hmem, hr⟩, heq⟩, rfl⟩
    cases heq
    exact ⟨r, (Table.find?_eq_some_iff ..).2 hmem, by simpa using hr⟩
  · rintro ⟨r, hr, hstage⟩
    have hmem := (Table.find?_eq_some_iff ..).1 hr
    exact ⟨_, _, ⟨id, r, ⟨hmem, by simpa using hstage⟩, rfl⟩, rfl⟩

/-- No waiting job is listed twice. -/
theorem nodup_waitingIds (q : Registry) : q.waitingIds.Nodup := by
  simp only [waitingIds]
  -- The sort permutes the ids of some of the rows, and no two rows have the same id.
  have hperm := (List.mergeSort_perm
    ((q.records.rows.filter fun row => row.2.stage == .waiting).map
      fun row => (row.2.status.job.submittedAt, row.1)) claimsBefore).map Prod.snd
  rw [hperm.nodup_iff, List.map_map]
  exact (List.filter_sublist.map Prod.fst).nodup q.records.distinct

/-- The ids that `startNext` claims. -/
def claimedIds (n : Nat) (q : Registry) : List String := q.waitingIds.take n

/-- No job is claimed twice at once. -/
theorem nodup_claimedIds (n : Nat) (q : Registry) : (q.claimedIds n).Nodup :=
  (List.take_sublist _ _).nodup q.nodup_waitingIds

/-- Only jobs that wait are claimed. -/
theorem find?_of_mem_claimedIds {n : Nat} {q : Registry} {id : String}
    (h : id ∈ q.claimedIds n) : ∃ r, q.records.find? id = some r ∧ r.stage = .waiting :=
  mem_waitingIds.1 (List.mem_of_mem_take h)

/-- The claimed jobs are marked as running. -/
theorem find?_startNext (now n : Nat) (q : Registry) (k : String) :
    (q.startNext now n).2.records.find? k
      = if k ∈ q.claimedIds n then (q.records.find? k).map (started now)
        else q.records.find? k :=
  find?_foldl_update now _ (started_started now) _ q k

/-- A claim answers one status for each claimed id, in their order: that of the record
marked as running. -/
theorem startNext_fst (now n : Nat) (q : Registry) :
    (q.startNext now n).1 = (q.claimedIds n).filterMap fun id =>
      (q.records.find? id).map fun r => (started now r).status := by
  refine List.filterMap_congr ?_
  intro id hid
  -- The statuses are read when all the claimed jobs are marked.
  have hfind := find?_startNext now n q id
  rw [if_pos (show id ∈ q.claimedIds n from hid)] at hfind
  show ((q.startNext now n).2.records.find? id).map (·.status) = _
  rw [hfind, Option.map_map]
  rfl

/-- A claim gives out no number. -/
@[simp]
theorem requests_startNext (now n : Nat) (q : Registry) :
    (q.startNext now n).2.requests = q.requests := requests_foldl_update now _ _ q

/-- A claim does not change for how long records are kept. -/
@[simp]
theorem retention_startNext (now n : Nat) (q : Registry) :
    (q.startNext now n).2.retention = q.retention := retention_foldl_update now _ _ q

/-- A record after a visit by `cancelOverdue`. -/
def evicted (now timeout abandoned : Nat) (reason : String) (r : Record) : Record :=
  if r.isOverdue now timeout abandoned then r.cancel now reason true else r

/-- A record that has ended is never canceled. -/
theorem evicted_of_isFinal {r : Record} (h : r.isFinal = true) (now timeout abandoned : Nat)
    (reason : String) : evicted now timeout abandoned reason r = r := by
  unfold evicted Record.isOverdue
  rw [h]
  rfl

/-- A record that has not ended after the visit stayed as it was. -/
theorem evicted_of_open {now timeout abandoned : Nat} {reason : String} {r : Record}
    (h : (evicted now timeout abandoned reason r).isFinal = false) :
    evicted now timeout abandoned reason r = r := by
  simp only [evicted] at h ⊢
  split
  next hdue =>
    rw [if_pos hdue, isFinal_cancel] at h
    cases h
  next => rfl

/-- A record that has not ended after the visit was not overdue. -/
theorem not_isOverdue_of_evicted {now timeout abandoned : Nat} {reason : String} {r : Record}
    (h : (evicted now timeout abandoned reason r).isFinal = false) :
    ¬ (evicted now timeout abandoned reason r).isOverdue now timeout abandoned = true := by
  rw [evicted_of_open h]
  intro hdue
  simp only [evicted] at h
  rw [if_pos hdue, isFinal_cancel] at h
  cases h

/-- Each overdue record that is visited is canceled. Expired records are gone. -/
theorem find?_cancelOverdue (scan : Scan) (now timeout abandoned : Nat) (reason : String)
    (q : Registry) (k : String) :
    (q.cancelOverdue scan now timeout abandoned reason).2.records.find? k
      = if k ∈ scan (q.purge now).records.keys then
          ((q.purge now).records.find? k).map (evicted now timeout abandoned reason)
        else (q.purge now).records.find? k := by
  -- A second cancellation changes nothing, so the visit is one update for each overdue id.
  have hfold := find?_foldl_update now (fun r => .ok (r.cancel now reason true))
    (fun r => cancel_of_isFinal (isFinal_cancel now reason r) ..)
    ((q.purge now).overdueIds scan now timeout abandoned) (q.purge now) k
  refine hfold.trans ?_
  simp only [overdueIds]
  simp only [List.mem_filter]
  cases hk : (q.purge now).records.find? k with
  | none => simp
  | some r =>
    cases hdue : r.isOverdue now timeout abandoned with
    | false => simp [hdue, evicted]
    | true =>
      simp [hdue, evicted]
      rfl

/-- The cancellation of overdue jobs gives out no number. -/
@[simp]
theorem requests_cancelOverdue (scan : Scan) (now timeout abandoned : Nat) (reason : String)
    (q : Registry) : (q.cancelOverdue scan now timeout abandoned reason).2.requests = q.requests :=
  (requests_foldl_update now _ _ _).trans (requests_purge now q)

/-- The cancellation of overdue jobs does not change for how long records are kept. -/
@[simp]
theorem retention_cancelOverdue (scan : Scan) (now timeout abandoned : Nat) (reason : String)
    (q : Registry) :
    (q.cancelOverdue scan now timeout abandoned reason).2.retention = q.retention :=
  (retention_foldl_update now _ _ _).trans (retention_purge now q)

/-- The jobs to stop are the visited ones that were asked to. -/
theorem mem_toCancel {scan : Scan} {now : Nat} {q : Registry} {status : Status} :
    status ∈ (q.toCancel scan now).1 ↔
      ∃ id ∈ scan (q.purge now).records.keys, ∃ r,
        (q.purge now).records.find? id = some r ∧ r.stage = .canceling ∧ r.status = status := by
  simp only [toCancel, List.mem_map, List.mem_filter, List.mem_filterMap, beq_iff_eq]
  constructor
  · rintro ⟨r, ⟨⟨id, hid, hr⟩, hstage⟩, hstatus⟩
    exact ⟨id, hid, r, hr, hstage, hstatus⟩
  · rintro ⟨id, hid, r, hr, hstage, hstatus⟩
    exact ⟨r, ⟨⟨id, hid, hr⟩, hstage⟩, hstatus⟩

/-- No request changes how long ended records are kept. -/
@[simp]
theorem retention_serve (scan : Scan) (now : Nat) (request : Request) (q : Registry) :
    (q.serve scan now request).2.retention = q.retention := by
  cases request with
  | add => exact retention_add ..
  | get => exact retention_get ..
  | start | done | fail | cancel => exact retention_update ..
  | startNext => exact retention_startNext ..
  | cancelOverdue => exact retention_cancelOverdue ..
  | toCancel | purge => exact retention_purge ..
  | sinceCheck => rfl

/-- For how long records are kept is settled when the registry is made. -/
@[simp]
theorem retention_run (scan : Scan) (requests : List (Nat × Request)) (q : Registry) :
    (q.run scan requests).retention = q.retention := by
  induction requests generalizing q with
  | nil => rfl
  | cons first rest ih => exact (ih _).trans (retention_serve ..)

end Registry

end JobScheduling
