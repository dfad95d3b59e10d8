import JobScheduling.Proofs.Registry.Cancellation
import JobScheduling.Proofs.Registry.Entries
import JobScheduling.Proofs.Registry.Order
import JobScheduling.Proofs.Registry.Visits

/-!
# `JobScheduling.Proofs.Registry.Eviction`: what happens to overdue jobs

`Registry.cancelOverdue` cancels the jobs that take too long or were abandoned. `Evicts` says all
that it leaves of a registry: exactly the overdue records (`Record.Overdue`) have stopped, expired
ones are gone, and all others are as they were. `evicts_cancelOverdue` shows it for every registry,
every clock and all limits.

The overdue jobs are chosen before the first of them is canceled. Each of them still has its record
when its turn comes, so the row of cancellations is never broken off (`updateEach_cancel`). Nothing
is left to do for a second eviction at the same time (`cancelOverdue_again`), and smaller limits
make more jobs overdue (`Overdue.mono`).
-/

set_option autoImplicit false

namespace JobScheduling

namespace Record

/-- The job has not ended, and it was submitted or last asked for too long ago. -/
def Overdue (now timeout abandoned : Nat) (r : Record) : Prop :=
  r.isFinal = false ∧
    (timeout < now - r.status.job.submittedAt ∨ abandoned < now - r.lastCheck)

variable {now timeout abandoned : Nat} {r : Record}

instance : Decidable (r.Overdue now timeout abandoned) :=
  inferInstanceAs (Decidable (_ ∧ (_ ∨ _)))

/-- The test of the sweep is what being overdue means. -/
theorem isOverdue_eq (now timeout abandoned : Nat) (r : Record) :
    r.isOverdue now timeout abandoned = decide (r.Overdue now timeout abandoned) := by
  have hopen : (!r.isFinal) = decide (r.isFinal = false) := by cases r.isFinal <;> rfl
  rw [isOverdue, hopen, ← Bool.decide_or, ← Bool.decide_and]
  rfl

/-- What is overdue is so next to smaller limits. -/
theorem Overdue.mono {timeout' abandoned' : Nat} (h : r.Overdue now timeout abandoned)
    (htimeout : timeout' ≤ timeout) (habandoned : abandoned' ≤ abandoned) :
    r.Overdue now timeout' abandoned' :=
  ⟨h.1, h.2.imp (Nat.lt_of_le_of_lt htimeout) (Nat.lt_of_le_of_lt habandoned)⟩

end Record

namespace Table

variable {α : Type}

/-- A filter that every row passes leaves the table as it was. -/
theorem filter_eq_self {t : Table α} {keep : String → α → Bool}
    (h : ∀ key a, t.find? key = some a → keep key a = true) : t.filter keep = t := by
  have hrows : t.rows.filter (fun row => keep row.1 row.2) = t.rows :=
    List.filter_eq_self.2 fun row hrow => h row.1 row.2 ((t.find?_eq_some_iff ..).2 hrow)
  obtain ⟨rows, hdistinct⟩ := t
  simp only [filter, mk.injEq]
  exact hrows

/-- What is counted under the keys are the values. -/
theorem countP_keys (t : Table α) (p : α → Bool) :
    t.keys.countP (fun key => (t.find? key).any p) = t.values.countP p := by
  rw [keys, values, List.countP_map, List.countP_map]
  refine List.countP_congr ?_
  intro row hrow
  have hvalue : t.find? row.1 = some row.2 := (t.find?_eq_some_iff ..).2 hrow
  simp [hvalue]

end Table

namespace Registry

/-- What an eviction leaves of a registry, and how many jobs it says that it has canceled. -/
structure Evicts (now timeout abandoned : Nat) (reason : String) (q : Registry) (count : Nat)
    (q' : Registry) : Prop where
  overdue : ∀ id r, q.records.find? id = some r → r.Overdue now timeout abandoned →
    q'.records.find? id = some (r.stopped now reason)
  spared : ∀ id r, q.records.find? id = some r → ¬ r.Overdue now timeout abandoned →
    q.expires now r = false → q'.records.find? id = some r
  expired : ∀ id r, q.records.find? id = some r → q.expires now r = true →
    q'.records.find? id = none
  missing : ∀ id, q.records.find? id = none → q'.records.find? id = none
  counters : q' = { q with records := q'.records, completed := q.completed + count }
  number : count = q.records.values.countP fun r => r.Overdue now timeout abandoned
  average : q'.averageDuration = q.averageDuration

variable {now timeout abandoned : Nat} {reason : String} {q : Registry}

/-- An overdue record has not ended, so it does not expire. -/
theorem find?_purge_of_overdue {id : String} {r : Record} (hr : q.records.find? id = some r)
    (h : r.Overdue now timeout abandoned) : (q.purge now).records.find? id = some r := by
  rw [find?_purge, hr, Option.filter_some, expires_eq_false h.1]
  rfl

/-- A purge where nothing has expired. -/
theorem purge_eq_self (h : ∀ id r, q.records.find? id = some r → q.expires now r = false) :
    q.purge now = q := by
  simp only [purge]
  split
  next => rfl
  next retention hretention =>
    rw [Table.filter_eq_self]
    intro id r hr
    have hkept := h id r hr
    rw [expires, hretention, Option.any_some] at hkept
    rw [hkept]
    rfl

/-- A purge removes no overdue record. -/
theorem countP_overdue_purge : (q.purge now).records.values.countP
      (fun r => r.Overdue now timeout abandoned)
    = q.records.values.countP fun r => r.Overdue now timeout abandoned := by
  have hkept (r : Record) : (!q.expires now r && decide (r.Overdue now timeout abandoned))
      = decide (r.Overdue now timeout abandoned) := by
    by_cases h : r.Overdue now timeout abandoned
    · simp [h, expires_eq_false h.1]
    · simp [h]
  rw [← length_numbers, numbers_purge, length_numbers]
  simp only [hkept]

section
variable {scan : Scan} (hscan : ∀ ids, (scan ids).Perm ids)

include hscan

/-- The ids that are visited are those of the overdue records. -/
theorem mem_overdueIds {id : String} : id ∈ q.overdueIds scan now timeout abandoned ↔
    ∃ r, q.records.find? id = some r ∧ r.Overdue now timeout abandoned := by
  rw [overdueIds, List.mem_filter, (hscan _).mem_iff, Option.any_eq_true]
  simp only [Record.isOverdue_eq, decide_eq_true_eq]
  exact ⟨fun h => h.2, fun h => ⟨Table.mem_keys_of_find? h.choose_spec.1, h⟩⟩

/-- No id is swept twice. -/
theorem nodup_overdueIds : (q.overdueIds scan now timeout abandoned).Nodup :=
  ((hscan _).nodup_iff.2 q.records.distinct).filter _

/-- As many ids are swept as records are overdue. -/
theorem length_overdueIds : (q.overdueIds scan now timeout abandoned).length
    = q.records.values.countP fun r => r.Overdue now timeout abandoned := by
  rw [overdueIds, ← List.countP_eq_length_filter, (hscan _).countP_eq, Table.countP_keys]
  simp only [Record.isOverdue_eq]

/-! ### One eviction -/

/-- The cancellation of the overdue jobs is not refused for any of them. -/
theorem updateEach_cancel (now timeout abandoned : Nat) (reason : String) (q : Registry) :
    ∃ canceled, updateEach now (fun r => .ok (r.cancel now reason true))
          ((q.purge now).overdueIds scan now timeout abandoned) (q.purge now)
        = (.ok canceled, (q.cancelOverdue scan now timeout abandoned reason).2) ∧
      (q.cancelOverdue scan now timeout abandoned reason).1 = canceled.length := by
  have hfind : ∀ id ∈ (q.purge now).overdueIds scan now timeout abandoned,
      ∃ r, (q.purge now).records.find? id = some r ∧ r.Overdue now timeout abandoned :=
    fun id hid => (mem_overdueIds hscan).1 hid
  have hok := updateEach_eq_ok now (nodup_overdueIds hscan)
    (f := fun r => .ok (r.cancel now reason true)) fun id hid =>
      (hfind id hid).imp fun _ hr => ⟨hr.1, rfl⟩
  refine ⟨_, hok, ?_⟩
  -- There is a record for each of the ids.
  rw [List.length_filterMap_eq_countP, List.countP_eq_length.2]
  · rfl
  · intro id hid
    obtain ⟨r, hr, -⟩ := hfind id hid
    rw [hr]
    rfl

/-- A purge is followed by a visit of every record that is left. -/
theorem find?_cancelOverdue_of_scan (now timeout abandoned : Nat) (reason : String) (q : Registry)
    (id : String) : (q.cancelOverdue scan now timeout abandoned reason).2.records.find? id
      = ((q.purge now).records.find? id).map (evicted now timeout abandoned reason) := by
  rw [find?_cancelOverdue]
  split
  next => rfl
  next hid =>
    cases hr : (q.purge now).records.find? id with
    | none => rfl
    | some r => exact absurd ((hscan _).mem_iff.2 (Table.mem_keys_of_find? hr)) hid

/-- An eviction cancels the overdue jobs, and no other job. -/
theorem evicts_cancelOverdue (now timeout abandoned : Nat) (reason : String) (q : Registry) :
    Evicts now timeout abandoned reason q (q.cancelOverdue scan now timeout abandoned reason).1
      (q.cancelOverdue scan now timeout abandoned reason).2 := by
  have hfind := find?_cancelOverdue_of_scan hscan now timeout abandoned reason q
  have hcounters : (q.cancelOverdue scan now timeout abandoned reason).2
      = { q with
          records := (q.cancelOverdue scan now timeout abandoned reason).2.records
          completed := q.completed + (q.cancelOverdue scan now timeout abandoned reason).1 } := by
    -- What is overdue is open, so the purge before the sweep leaves it there.
    have hopen : ∀ id ∈ (q.purge now).overdueIds scan now timeout abandoned,
        ∃ r, (q.purge now).records.find? id = some r ∧ r.isFinal = false :=
      fun id hid => ((mem_overdueIds hscan).1 hid).imp fun _ hr => ⟨hr.1, hr.2.1⟩
    obtain ⟨records, hpurge⟩ := purge_eq now q
    simp only [cancelOverdue, hpurge] at hopen ⊢
    exact foldl_cancel (nodup_overdueIds hscan) now reason hopen
  refine ⟨?overdue, ?spared, ?expired, ?missing, hcounters, ?number, ?average⟩
  case overdue =>
    intro id r hr hdue
    rw [hfind, find?_purge_of_overdue hr hdue, Option.map_some, evicted, Record.isOverdue_eq,
      if_pos (decide_eq_true hdue), Record.cancel_eq_stopped hdue.1]
  case spared =>
    intro id r hr hdue hexpires
    rw [hfind, find?_purge, hr, Option.filter_some, hexpires]
    simp [evicted, Record.isOverdue_eq, hdue]
  case expired =>
    intro id r hr hexpires
    rw [hfind, find?_purge, hr, Option.filter_some, hexpires]
    rfl
  case missing =>
    intro id hr
    rw [hfind, find?_purge, hr]
    rfl
  case number => exact (length_overdueIds hscan).trans countP_overdue_purge
  case average =>
    rw [hcounters]
    rfl

/-! ### Further evictions -/

omit hscan in
/-- After an eviction no record has expired. -/
theorem purge_cancelOverdue (scan : Scan) (now timeout abandoned : Nat) (reason : String)
    (q : Registry) : (q.cancelOverdue scan now timeout abandoned reason).2.purge now
      = (q.cancelOverdue scan now timeout abandoned reason).2 := by
  refine purge_eq_self ?_
  intro id r' hr'
  rw [expires_congr (retention_cancelOverdue ..)]
  rw [find?_cancelOverdue] at hr'
  split at hr'
  next =>
    obtain ⟨r, hr, rfl⟩ := Option.map_eq_some_iff.1 hr'
    by_cases hdue : r.Overdue now timeout abandoned
    · -- What has stopped has ended now.
      rw [evicted, Record.isOverdue_eq, if_pos (decide_eq_true hdue),
        Record.cancel_eq_stopped hdue.1]
      exact expires_of_ended_now rfl
    · -- What was not due has outlived the purge that the sweep begins with.
      simpa [evicted, Record.isOverdue_eq, hdue] using expires_of_find?_purge hr
  next => exact expires_of_find?_purge hr'

/-- There is nothing left for a second eviction at the same time. -/
theorem cancelOverdue_again {scan' : Scan} (hscan' : ∀ ids, (scan' ids).Perm ids)
    (now timeout abandoned : Nat) (reason : String) (q : Registry) :
    let q' := (q.cancelOverdue scan now timeout abandoned reason).2
    q'.cancelOverdue scan' now timeout abandoned reason = (0, q') := by
  intro q'
  -- Nothing is overdue any more, since what was has stopped.
  have hnone : q'.overdueIds scan' now timeout abandoned = [] := by
    rw [List.eq_nil_iff_forall_not_mem]
    intro id hid
    obtain ⟨r', hr', hdue⟩ := (mem_overdueIds hscan').1 hid
    rw [find?_cancelOverdue_of_scan hscan, Option.map_eq_some_iff] at hr'
    obtain ⟨r, -, rfl⟩ := hr'
    refine not_isOverdue_of_evicted hdue.1 ?_
    rw [Record.isOverdue_eq]
    exact decide_eq_true hdue
  -- The purge has been made already.
  have hpurge : q'.purge now = q' := purge_cancelOverdue scan now timeout abandoned reason q
  rw [cancelOverdue, hpurge, hnone]
  rfl

end

/-! ### Smaller limits -/

/-- The job has not ended before, and it is canceled now. -/
def Canceled (q q' : Registry) (id : String) : Prop :=
  ∃ r r', q.records.find? id = some r ∧ r.isFinal = false ∧
    q'.records.find? id = some r' ∧ r'.stage = .canceled

/-- An eviction cancels the overdue jobs only. -/
theorem Evicts.canceled_iff {count : Nat} {q' : Registry}
    (h : Evicts now timeout abandoned reason q count q') {id : String} : Canceled q q' id ↔
      ∃ r, q.records.find? id = some r ∧ r.Overdue now timeout abandoned := by
  constructor
  · rintro ⟨r, r', hr, hopen, hr', hcanceled⟩
    refine ⟨r, hr, ?_⟩
    by_contra hdue
    -- A job that is not overdue is spared, so it has not ended.
    rw [h.spared id r hr hdue (expires_eq_false hopen), Option.some.injEq] at hr'
    rw [hr', Record.isFinal_of_stage hcanceled] at hopen
    cases hopen
  · rintro ⟨r, hr, hdue⟩
    exact ⟨r, r.stopped now reason, hr, hdue.1, h.overdue id r hr hdue, rfl⟩

/-- With smaller limits at least the same jobs are canceled. -/
theorem Evicts.mono {timeout' abandoned' count count' : Nat} {reason' : String} {q' q'' : Registry}
    (h : Evicts now timeout abandoned reason q count q')
    (h' : Evicts now timeout' abandoned' reason' q count' q'') (htimeout : timeout' ≤ timeout)
    (habandoned : abandoned' ≤ abandoned) :
    count ≤ count' ∧ ∀ id, Canceled q q' id → Canceled q q'' id := by
  constructor
  · rw [h.number, h'.number]
    refine List.countP_mono_left fun r _ hdue => ?_
    rw [decide_eq_true_eq] at hdue ⊢
    exact hdue.mono htimeout habandoned
  · intro id hid
    obtain ⟨r, hr, hdue⟩ := h.canceled_iff.1 hid
    exact h'.canceled_iff.2 ⟨r, hr, hdue.mono htimeout habandoned⟩

/-- What an eviction does, in every registry that any requests at any times have made of an empty
one, at any time and with any limits. It is never refused, it cancels the overdue jobs and says how
many they are, and leaves everything else that has not expired as it was. A second one at the same
time finds nothing to do. With smaller limits at least the same jobs are canceled. -/
theorem run_eviction {scan : Scan} (hscan : ∀ ids, (scan ids).Perm ids) (retention : Option Nat)
    (requests : List (Nat × Request)) (now timeout abandoned : Nat) (reason : String) :
    let q := run scan requests { retention }
    let result := q.cancelOverdue scan now timeout abandoned reason
    (∃ canceled, updateEach now (fun r => .ok (r.cancel now reason true))
          ((q.purge now).overdueIds scan now timeout abandoned) (q.purge now)
        = (.ok canceled, result.2) ∧ result.1 = canceled.length) ∧
      Evicts now timeout abandoned reason q result.1 result.2 ∧
      (∀ scan' : Scan, (∀ ids, (scan' ids).Perm ids) →
        result.2.cancelOverdue scan' now timeout abandoned reason = (0, result.2)) ∧
      ∀ timeout' ≤ timeout, ∀ abandoned' ≤ abandoned,
        let result' := q.cancelOverdue scan now timeout' abandoned' reason
        result.1 ≤ result'.1 ∧ ∀ id, Canceled q result.2 id → Canceled q result'.2 id := by
  intro q result
  have hevicts := evicts_cancelOverdue hscan now timeout abandoned reason q
  refine ⟨updateEach_cancel hscan now timeout abandoned reason q, hevicts, ?_, ?_⟩
  · intro scan' hscan'
    exact cancelOverdue_again hscan hscan' now timeout abandoned reason q
  · intro timeout' htimeout abandoned' habandoned
    exact hevicts.mono (evicts_cancelOverdue hscan now timeout' abandoned' reason q) htimeout
      habandoned

/-- One job waits, one was asked to stop, one is done, and one was submitted later. -/
def mixedJobs : List (Nat × Request) :=
  [(0, .add { id := "a", submittedAt := 0 }), (0, .add { id := "b", submittedAt := 0 }),
    (5, .cancel "b" "stop" false), (6, .add { id := "c", submittedAt := 6 }),
    (7, .done "c" ⟨"u", "f", "m"⟩), (45, .add { id := "d", submittedAt := 45 })]

/-- The first two of them are overdue. -/
theorem run_eviction_mixedJobs :
    let q := run List.reverse mixedJobs { retention := some 1000 }
    let result := q.cancelOverdue List.reverse 50 20 100 "late"
    result.1 = 2 ∧
      (∃ canceled, updateEach 50 (fun r => .ok (r.cancel 50 "late" true))
            ((q.purge 50).overdueIds List.reverse 50 20 100) (q.purge 50)
          = (.ok canceled, result.2) ∧ result.1 = canceled.length) ∧
        Evicts 50 20 100 "late" q result.1 result.2 ∧
        (∀ scan' : Scan, (∀ ids, (scan' ids).Perm ids) →
          result.2.cancelOverdue scan' 50 20 100 "late" = (0, result.2)) ∧
        ∀ timeout' ≤ 20, ∀ abandoned' ≤ 100,
          let result' := q.cancelOverdue List.reverse 50 timeout' abandoned' "late"
          result.1 ≤ result'.1 ∧ ∀ id, Canceled q result.2 id → Canceled q result'.2 id :=
  ⟨by decide +kernel,
    run_eviction List.reverse_perm (some 1000) mixedJobs 50 20 100 "late"⟩

end Registry

end JobScheduling
