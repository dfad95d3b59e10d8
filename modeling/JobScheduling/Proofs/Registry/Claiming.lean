import JobScheduling.Proofs.Registry.Lifecycle
import JobScheduling.Proofs.Registry.Visits
import JobScheduling.Proofs.Registry.Waiting
import JobScheduling.Proofs.Text.Bytes

/-!
# `JobScheduling.Proofs.Registry.Claiming`: what a claim takes

A claim takes the first of the waiting jobs, in the order of their submission and, where that is
the same, of the bytes of their ids (`Job.Precedes`). `ClaimsNext` says all that it answers and
leaves. No job can be missing or run already when it is marked, so the marking never stops half-way
(`updateEach_start`).

The waiting ids after a claim are those that it left over (`waitingIds_startNext`): both lists have
the same elements, and the order leaves one arrangement of them. So two claims at one time do what
one of them does that takes as many jobs as both (`startNext_add`).
-/

set_option autoImplicit false

namespace JobScheduling

/-- A job was submitted before another, or at the same time with the smaller id. -/
def Job.Precedes (a b : Job) : Prop :=
  a.submittedAt < b.submittedAt ∨
    a.submittedAt = b.submittedAt ∧ Text.bytes a.id < Text.bytes b.id

namespace Registry

/-- What a claim of up to `n` jobs answers, and what the registry has become. -/
structure ClaimsNext (now n : Nat) (q : Registry) (claimed : List Status) (q' : Registry) :
    Prop where
  length : claimed.length = min n q.waitingCount
  ordered : claimed.Pairwise fun status status' => status.job.Precedes status'.job
  /-- Every waiting job that is not claimed comes after those that are. -/
  first : ∀ id r, q.records.find? id = some r → r.stage = .waiting →
    (∀ status ∈ claimed, status.job.id ≠ id) →
      ∀ status ∈ claimed, status.job.Precedes r.status.job
  /-- A claimed job has waited and runs now, and the status is that of its record. -/
  started : ∀ status ∈ claimed, ∃ r, q.records.find? status.job.id = some r ∧
    r.stage = .waiting ∧ status = { r.status with stage := .running, startedAt := some now } ∧
    q'.records.find? status.job.id = some { r with status, history := r.history ++ [.running] }
  others : ∀ id, (∀ status ∈ claimed, status.job.id ≠ id) →
    q'.records.find? id = q.records.find? id
  keys : q'.records.keys = q.records.keys
  counters : q' = { q with records := q'.records }

variable {now n : Nat} {q : Registry}

/-! ### One claim -/

/-- A job that waits can be started. -/
theorem start_of_waiting {r : Record} (h : r.stage = .waiting) (now : Nat) :
    r.start now = .ok (started now r) := by
  rw [started_eq, if_pos h, Record.start, h]

/-- The marking of the claimed jobs is not refused for any of them. -/
theorem updateEach_start (now n : Nat) (q : Registry) :
    ∃ claimed, updateEach now (·.start now) (q.claimedIds n) q
        = (.ok claimed, (q.startNext now n).2) ∧
      (q.startNext now n).1 = claimed.map (·.status) := by
  have hok := updateEach_eq_ok (g := started now) now (q.nodup_claimedIds n) fun id hid => by
    obtain ⟨r, hr, hwaiting⟩ := find?_of_mem_claimedIds hid
    exact ⟨r, hr, start_of_waiting hwaiting now⟩
  refine ⟨_, hok, ?_⟩
  rw [startNext_fst, List.map_filterMap]
  simp only [Option.map_map]
  rfl

/-- No counter changes when a job is marked as running. -/
theorem start_snd (now : Nat) (id : String) (q : Registry) :
    ∃ records, (q.start now id).2 = { q with records } ∧ records.keys = q.records.keys := by
  simp only [start, update]
  cases q.records.find? id with
  | none => exact ⟨q.records, rfl, rfl⟩
  | some r =>
    dsimp only
    cases hstart : r.start now with
    | error e => exact ⟨q.records, rfl, rfl⟩
    | ok r' =>
      -- What has started has not ended.
      have hopen : r'.isFinal = false := by
        simp only [Record.start] at hstart
        cases hr : r.stage <;> rw [hr] at hstart <;> cases hstart
        rfl
      refine ⟨q.records.modify id fun _ => r', ?_, Table.keys_modify ..⟩
      simp [tally, hopen]

/-- A claim changes records, and none of them comes or goes. -/
theorem startNext_snd (now n : Nat) (q : Registry) :
    ∃ records, (q.startNext now n).2 = { q with records } ∧ records.keys = q.records.keys := by
  show ∃ records, (q.claimedIds n).foldl (fun q id => (q.start now id).2) q = { q with records } ∧
    records.keys = q.records.keys
  generalize q.claimedIds n = ids
  induction ids generalizing q with
  | nil => exact ⟨q.records, rfl, rfl⟩
  | cons id ids ih =>
    obtain ⟨records, hfirst, hkeys⟩ := start_snd now id q
    obtain ⟨records', hrest, hkeys'⟩ := ih { q with records }
    exact ⟨records', by rw [List.foldl_cons, hfirst, hrest], hkeys'.trans hkeys⟩

/-- A status is answered exactly for each claimed id. -/
theorem mem_startNext {status : Status} : status ∈ (q.startNext now n).1 ↔
    ∃ id ∈ q.claimedIds n, ∃ r, q.records.find? id = some r ∧ (started now r).status = status := by
  rw [startNext_fst]
  simp only [List.mem_filterMap, Option.map_eq_some_iff]

/-- The claimed ids are those of the jobs in the answer. -/
theorem Keyed.mem_claimedIds (h : q.Keyed) (now : Nat) {n : Nat} {id : String} :
    id ∈ q.claimedIds n ↔ ∃ status ∈ (q.startNext now n).1, status.job.id = id := by
  rw [← h.ids_startNext now n, List.mem_map]

/-- The order of the waiting ids, said of the jobs. -/
theorem Keyed.precedes (h : q.Keyed) {id id' : String} {r r' : Record}
    (hr : q.records.find? id = some r) (hr' : q.records.find? id' = some r')
    (hlt : r.status.job.submittedAt < r'.status.job.submittedAt ∨
      r.status.job.submittedAt = r'.status.job.submittedAt ∧ id < id') :
    r.status.job.Precedes r'.status.job := by
  rw [← (h id r hr).1, ← (h id' r' hr').1, Text.lt_iff_bytes_lt] at hlt
  exact hlt

/-- The claimed jobs are the first ones, and nothing happens but that they run. -/
theorem Keyed.claimsNext (h : q.Keyed) (now n : Nat) :
    ClaimsNext now n q (q.startNext now n).1 (q.startNext now n).2 where
  -- A field for each thing that the claim promises. All go back to the ids that are taken from the
  -- waiting ones.
  length := by
    rw [← length_claimedIds, ← h.ids_startNext now n, List.length_map]
  ordered := by
    have hordered := q.pairwise_waitingIds.sublist (List.take_sublist n q.waitingIds)
    rw [startNext_fst, List.pairwise_filterMap]
    refine hordered.imp ?_
    intro id id' hlt status hstatus status' hstatus'
    obtain ⟨r, hr, rfl⟩ := Option.map_eq_some_iff.1 hstatus
    obtain ⟨r', hr', rfl⟩ := Option.map_eq_some_iff.1 hstatus'
    rw [job_started, job_started]
    exact h.precedes hr hr' (hlt r r' hr hr')
  first := by
    intro id r hr hwaiting hnot status hstatus
    have hid : id ∉ q.claimedIds n := by
      rw [h.mem_claimedIds now]
      exact fun ⟨status, hstatus, heq⟩ => hnot status hstatus heq
    obtain ⟨id', hid', r', hr', rfl⟩ := mem_startNext.1 hstatus
    rw [job_started]
    exact h.precedes hr' hr (precedes_of_claimed hid' hid hr' hr hwaiting)
  started := by
    intro status hstatus
    obtain ⟨id, hid, r, hr, rfl⟩ := mem_startNext.1 hstatus
    have hwaiting : r.stage = .waiting := by
      obtain ⟨r', hr', hwaiting⟩ := find?_of_mem_claimedIds hid
      rw [hr] at hr'
      cases hr'
      exact hwaiting
    have hafter := find?_startNext now n q id
    rw [if_pos hid, hr, Option.map_some] at hafter
    rw [job_started, (h id r hr).1, hafter, started_eq, if_pos hwaiting]
    exact ⟨r, hr, hwaiting, rfl, rfl⟩
  others := by
    intro id hnot
    have hid : id ∉ q.claimedIds n := by
      rw [h.mem_claimedIds now]
      exact fun ⟨status, hstatus, heq⟩ => hnot status hstatus heq
    rw [find?_startNext, if_neg hid]
  keys := by
    obtain ⟨records, hafter, hkeys⟩ := startNext_snd now n q
    rw [hafter]
    exact hkeys
  counters := by
    obtain ⟨records, hafter, -⟩ := startNext_snd now n q
    rw [hafter]

/-! ### Two claims -/

/-- A job waits after a claim if it waited before and was not claimed. -/
theorem mem_waitingIds_startNext {id : String} : id ∈ (q.startNext now n).2.waitingIds ↔
    id ∈ q.waitingIds ∧ id ∉ q.claimedIds n := by
  rw [mem_waitingIds, mem_waitingIds, find?_startNext]
  split
  next hid =>
    -- A claimed job runs.
    obtain ⟨r, hr, hwaiting⟩ := find?_of_mem_claimedIds hid
    simp [hr, hid, stage_started now hwaiting]
  next hid => simp [hid]

/-- A claim leaves the waiting ids that come after those it takes. -/
theorem waitingIds_startNext (now n : Nat) (q : Registry) :
    (q.startNext now n).2.waitingIds = q.waitingIds.drop n := by
  have hsplit := q.nodup_waitingIds
  rw [← List.take_append_drop n q.waitingIds, List.nodup_append] at hsplit
  obtain ⟨-, hdrop, hdisjoint⟩ := hsplit
  have hmem (id : String) : id ∈ (q.startNext now n).2.waitingIds ↔ id ∈ q.waitingIds.drop n := by
    rw [mem_waitingIds_startNext]
    constructor
    · rintro ⟨hid, hnot⟩
      rw [← List.take_append_drop n q.waitingIds, List.mem_append] at hid
      exact hid.resolve_left hnot
    · intro hid
      exact ⟨List.mem_of_mem_drop hid, fun hclaimed => hdisjoint id hclaimed id hid rfl⟩
  have hperm : (q.startNext now n).2.waitingIds.Perm (q.waitingIds.drop n) :=
    (List.perm_ext_iff_of_nodup (nodup_waitingIds _) hdrop).2 hmem
  -- Both lists are in the order of claims. No two jobs precede each other in it.
  refine hperm.eq_of_pairwise ?_ ?_ (q.pairwise_waitingIds.sublist (List.drop_sublist n _))
  · intro id id' hid hid' hlt hlt'
    obtain ⟨r, hr, -⟩ := mem_waitingIds.1 (mem_waitingIds_startNext.1 hid).1
    obtain ⟨r', hr', -⟩ := mem_waitingIds.1 (List.mem_of_mem_drop hid')
    rcases hlt r r' hr hr' with h | ⟨h, hlt⟩ <;> rcases hlt' r' r hr' hr with h' | ⟨h', hlt'⟩
    · omega
    · omega
    · omega
    · exact absurd hlt' hlt.asymm
  · refine (pairwise_waitingIds _).imp_of_mem ?_
    intro id id' hid hid' hlt r r' hr hr'
    have hsame {id : String} (hid : id ∈ (q.startNext now n).2.waitingIds) :
        (q.startNext now n).2.records.find? id = q.records.find? id := by
      rw [find?_startNext, if_neg (mem_waitingIds_startNext.1 hid).2]
    exact hlt r r' ((hsame hid).trans hr) ((hsame hid').trans hr')

/-- Two claims take what one claim of as many jobs takes. -/
theorem claimedIds_add (now a b : Nat) (q : Registry) :
    q.claimedIds (a + b) = q.claimedIds a ++ (q.startNext now a).2.claimedIds b := by
  simp only [claimedIds, waitingIds_startNext, List.take_add]

/-- Two claims at one time are one claim. -/
theorem startNext_add (now a b : Nat) (q : Registry) :
    let first := q.startNext now a
    let second := first.2.startNext now b
    q.startNext now (a + b) = (first.1 ++ second.1, second.2) := by
  intro first second
  have hids : q.claimedIds (a + b) = q.claimedIds a ++ first.2.claimedIds b :=
    claimedIds_add now a b q
  refine Prod.ext ?_ ?_
  · rw [startNext_fst, hids, List.filterMap_append]
    rw [show first.1 = _ from startNext_fst now a q, show second.1 = _ from startNext_fst now b _]
    refine congrArg _ (List.filterMap_congr ?_)
    intro id hid
    -- What the second claim takes has its record from before the first.
    have hwaiting : id ∈ first.2.waitingIds := List.mem_of_mem_take hid
    rw [find?_startNext, if_neg (mem_waitingIds_startNext.1 hwaiting).2]
  · show (q.claimedIds (a + b)).foldl (fun q id => (q.start now id).2) q = second.2
    rw [hids, List.foldl_append]
    rfl

/-- What a claim does, in every registry that any requests at any times have made of an empty one.
It is never refused, it answers the statuses of as many of the first waiting jobs as it may claim
and marks these jobs as running, and it leaves everything else as it was. Two claims at one time
are one claim. -/
theorem run_claiming (scan : Scan) (retention : Option Nat) (requests : List (Nat × Request))
    (now : Nat) :
    let q := run scan requests { retention }
    (∀ n,
      (∃ claimed, updateEach now (·.start now) (q.claimedIds n) q
          = (.ok claimed, (q.startNext now n).2) ∧
        (q.startNext now n).1 = claimed.map (·.status)) ∧
      ClaimsNext now n q (q.startNext now n).1 (q.startNext now n).2) ∧
    ∀ a b,
      let first := q.startNext now a
      let second := first.2.startNext now b
      q.startNext now (a + b) = (first.1 ++ second.1, second.2) := by
  intro q
  have hkeyed : q.Keyed := keyed_run scan requests (keyed_empty retention)
  refine ⟨?_, ?_⟩
  · intro n
    exact ⟨updateEach_start now n q, hkeyed.claimsNext now n⟩
  · intro a b
    exact startNext_add now a b q

end Registry

end JobScheduling
