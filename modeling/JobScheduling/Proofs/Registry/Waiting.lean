import JobScheduling.Proofs.Registry.Lookup
import Mathlib.Data.String.Basic

/-!
# `JobScheduling.Proofs.Registry.Waiting`: which waiting jobs are claimed

The waiting jobs are claimed in the order of their submission, and those that were submitted
together in the order of their ids. `length_claimedIds` says how many a claim takes, and
`precedes_of_claimed` that it takes none before one that precedes it.
-/

set_option autoImplicit false

namespace JobScheduling

namespace Registry

/-- The order of claims is the lexicographic one. -/
theorem claimsBefore_iff (a b : Nat × String) :
    claimsBefore a b = true ↔ a.1 < b.1 ∨ a.1 = b.1 ∧ a.2 ≤ b.2 := by
  simp [claimsBefore]

/-- The order of the claims is transitive. -/
theorem claimsBefore_trans (a b c : Nat × String) (hab : claimsBefore a b = true)
    (hbc : claimsBefore b c = true) : claimsBefore a c = true := by
  rw [claimsBefore_iff] at *
  rcases hab with hab | ⟨hab, hid⟩ <;> rcases hbc with hbc | ⟨hbc, hid'⟩
  · exact .inl (hab.trans hbc)
  · exact .inl (hbc ▸ hab)
  · exact .inl (hab ▸ hbc)
  · exact .inr ⟨hab.trans hbc, hid.trans hid'⟩

/-- Any two keys are in it one way or the other. -/
theorem claimsBefore_total (a b : Nat × String) :
    (claimsBefore a b || claimsBefore b a) = true := by
  rw [Bool.or_eq_true, claimsBefore_iff, claimsBefore_iff]
  rcases Nat.lt_trichotomy a.1 b.1 with h | h | h
  · exact .inl (.inl h)
  · rcases le_total a.2 b.2 with hid | hid
    · exact .inl (.inr ⟨h, hid⟩)
    · exact .inr (.inr ⟨h.symm, hid⟩)
  · exact .inr (.inl h)

/-- The time of submission and the id of each waiting job, in the order of the table. -/
def waitingKeys (q : Registry) : List (Nat × String) :=
  (q.records.rows.filter fun row => row.2.stage == .waiting).map
    fun row => (row.2.status.job.submittedAt, row.1)

/-- The waiting ids are sorted by time, and by themselves where the times tie. -/
theorem waitingIds_eq (q : Registry) :
    q.waitingIds = (q.waitingKeys.mergeSort claimsBefore).map Prod.snd := rfl

/-- A listed time is that in the record of the job. -/
theorem submittedAt_of_mem_waitingKeys {q : Registry} {key : Nat × String}
    (h : key ∈ q.waitingKeys) {r : Record} (hr : q.records.find? key.2 = some r) :
    key.1 = r.status.job.submittedAt := by
  obtain ⟨row, hrow, rfl⟩ := List.mem_map.1 h
  have hr' := (q.records.find?_eq_some_iff row.1 row.2).2 (List.mem_filter.1 hrow).1
  rw [hr] at hr'
  rw [Option.some.inj hr']

/-- There are as many waiting ids as waiting jobs. -/
theorem length_waitingIds (q : Registry) : q.waitingIds.length = q.waitingCount := by
  rw [waitingIds_eq, List.length_map, List.length_mergeSort, waitingKeys, List.length_map,
    ← List.countP_eq_length_filter, waitingCount, Table.values, List.countP_map]
  rfl

/-- A claim takes as many jobs as it may, or all that wait. -/
theorem length_claimedIds (n : Nat) (q : Registry) :
    (q.claimedIds n).length = min n q.waitingCount := by
  rw [claimedIds, List.length_take, length_waitingIds]

/-- Of two waiting ids the first one is that of the job that was submitted before, or at the same
time with the smaller id. -/
theorem pairwise_waitingIds (q : Registry) : q.waitingIds.Pairwise fun id id' => ∀ r r',
    q.records.find? id = some r → q.records.find? id' = some r' →
      r.status.job.submittedAt < r'.status.job.submittedAt ∨
        r.status.job.submittedAt = r'.status.job.submittedAt ∧ id < id' := by
  have hsorted := List.pairwise_mergeSort claimsBefore_trans claimsBefore_total q.waitingKeys
  have hdistinct := q.nodup_waitingIds
  rw [waitingIds_eq, List.Nodup, List.pairwise_map] at hdistinct
  rw [waitingIds_eq, List.pairwise_map]
  refine (hsorted.and hdistinct).imp_of_mem ?_
  intro key key' hkey hkey' ⟨hle, hne⟩ r r' hr hr'
  rw [claimsBefore_iff, submittedAt_of_mem_waitingKeys (List.mem_mergeSort.1 hkey) hr,
    submittedAt_of_mem_waitingKeys (List.mem_mergeSort.1 hkey') hr'] at hle
  exact hle.imp_right fun ⟨htime, hid⟩ => ⟨htime, lt_of_le_of_ne hid hne⟩

/-- What is claimed precedes every waiting job that is not: it was submitted before, or at the
same time and has the smaller id. -/
theorem precedes_of_claimed {q : Registry} {n : Nat} {id id' : String} {r r' : Record}
    (hid : id ∈ q.claimedIds n) (hid' : id' ∉ q.claimedIds n)
    (hr : q.records.find? id = some r) (hr' : q.records.find? id' = some r')
    (hwaiting : r'.stage = .waiting) :
    r.status.job.submittedAt < r'.status.job.submittedAt ∨
      r.status.job.submittedAt = r'.status.job.submittedAt ∧ id < id' := by
  -- The waiting ids are those that are claimed, followed by those that are not.
  have hsorted := q.pairwise_waitingIds
  have hlisted : id' ∈ q.waitingIds := mem_waitingIds.2 ⟨r', hr', hwaiting⟩
  rw [← List.take_append_drop n q.waitingIds] at hsorted hlisted
  have hdrop : id' ∈ q.waitingIds.drop n := (List.mem_append.1 hlisted).resolve_left hid'
  exact (List.pairwise_append.1 hsorted).2.2 id hid id' hdrop r r' hr hr'

end Registry

end JobScheduling
