import JobScheduling.Proofs.Node.Calls
import JobScheduling.Proofs.Registry.CalledOff
import Mathlib.Algebra.Order.Ring.Int

/-!
# `JobScheduling.Proofs.Node.Estimate`: the estimated time of a waiting job

The estimate of a node is a number of rounds times the average duration (`Node.rounds`). It is
made of differences that stop at zero and of a product that stays in the range
(`estimateWait_eq`). Over the integers it is one quotient that truncates
(`coe_estimateWait`), whatever the signs are.

Two facts about registries carry over to rounds. The number of a record is not above the jobs that
have ended and those that have not (`Registry.Booked.request_le_add`), so there are no more rounds
than open records fill (`Registry.Booked.rounds_le`). And the jobs that have ended do not become
fewer (`Registry.Booked.completed_le_serve`).

`run_status_of_find?` says what a node answers about a recorded job.
-/

set_option autoImplicit false

namespace JobScheduling

namespace Node

/-- How many rounds of jobs come first, next to a node that runs so many at a time. -/
def rounds (request completed capacity : Nat) : Nat :=
  (request - completed - max capacity 1) / max capacity 1

/-- The estimate is a product that stays within the range. -/
theorem estimateWait_eq (request completed capacity average : Nat) :
    estimateWait request completed capacity average
      = capped (rounds request completed capacity * average) := rfl

/-- The integer quotient, towards zero, is the number of rounds when it is not negative. -/
theorem max_tdiv_mul {capacity : Nat} (h : 1 ≤ capacity) (request completed average : Nat) :
    max 0 (Int.tdiv ((request : Int) - completed - capacity) capacity * average)
      = (rounds request completed capacity * average : Nat) := by
  rw [rounds, Nat.max_eq_left h]
  rcases Nat.le_total (completed + capacity) request with hle | hle
  · have hdiff : (request : Int) - completed - capacity
        = ((request - completed - capacity : Nat) : Int) := by omega
    rw [hdiff, ← Int.ofNat_tdiv, ← Int.natCast_mul]
    exact max_eq_right (Int.natCast_nonneg _)
  · -- The quotient of what is negative is not positive.
    obtain ⟨d, hd⟩ : ∃ d : Nat, (request : Int) - completed - capacity = -(d : Int) :=
      ⟨completed + capacity - request, by omega⟩
    have hzero : request - completed - capacity = 0 := by omega
    rw [hd, Int.neg_tdiv, ← Int.ofNat_tdiv, Int.neg_mul, ← Int.natCast_mul, hzero, Nat.zero_div,
      Nat.zero_mul]
    exact max_eq_left (neg_nonpos.2 (Int.natCast_nonneg _))

/-- The estimate over the integers. -/
theorem coe_estimateWait {capacity : Nat} (h : 1 ≤ capacity) (request completed average : Nat) :
    (estimateWait request completed capacity average : Int)
      = min (maxWord : Int)
          (max 0 (Int.tdiv ((request : Int) - completed - capacity) capacity * average)) := by
  rw [max_tdiv_mul h, estimateWait_eq, capped, Nat.min_comm]
  omega

/-- The more jobs have ended, the fewer rounds come first. -/
theorem rounds_le_rounds {completed completed' : Nat} (h : completed ≤ completed')
    (request capacity : Nat) :
    rounds request completed' capacity ≤ rounds request completed capacity := by
  refine Nat.div_le_div_right ?_
  omega

end Node

namespace Registry

variable {q : Registry} {id : String} {r : Record}

/-- No number is above the jobs that have ended and those that have not. -/
theorem Booked.request_le_add (h : q.Booked) (hr : q.records.find? id = some r) :
    r.status.request ≤ q.completed + q.records.values.countP Record.isOpen := by
  obtain ⟨l, hbalanced, rfl⟩ := h
  have hlength := hbalanced.opened.length_eq
  rw [List.length_range', List.length_append, ← hbalanced.completed, length_numbers,
    ← hbalanced.requests] at hlength
  have hle := hbalanced.request_le hr
  omega

/-- No more rounds come first than the open records fill, apart from those that run. -/
theorem Booked.rounds_le (h : q.Booked) (hr : q.records.find? id = some r) {capacity : Nat}
    (hcapacity : 1 ≤ capacity) :
    Node.rounds r.status.request q.completed capacity
      ≤ (q.records.values.countP Record.isOpen - capacity) / capacity := by
  have hle := h.request_le_add hr
  rw [Node.rounds, Nat.max_eq_left hcapacity]
  refine Nat.div_le_div_right ?_
  omega

/-- A request leaves no fewer jobs that have ended. -/
theorem Booked.completed_le_serve (h : q.Booked) (scan : Scan) (now : Nat) (request : Request) :
    q.completed ≤ (q.serve scan now request).2.completed := by
  obtain ⟨l, hbalanced, rfl⟩ := h
  exact (hbalanced.grows_serve scan now request).completed

end Registry

namespace Node

/-- A status with the estimate of a node, if the job waits. -/
def estimated (q : Registry) (n : Node) (status : Status) : Status :=
  if status.stage = .waiting then
    { status with waitingTime :=
        estimateWait status.request q.completed n.settings.maxRunning q.averageDuration }
  else status

/-- An estimate does not change the stage. -/
theorem stage_estimated (q : Registry) (n : Node) (status : Status) :
    (estimated q n status).stage = status.stage := by
  unfold estimated
  split <;> rfl

/-- What a node answers about a recorded job. -/
theorem run_status_of_find? (scan : Registry.Scan) (now : Nat) {id : String} {r : Record}
    {site : Site Registry} (hr : site.queue.records.find? id = some r)
    (credential : Option String) :
    ((status (Registry.service scan now) id credential).run site).1
      = if r.status.job.admits credential then .ok (estimated site.queue site.node r.status)
        else .error (.refused (.accessDenied r.status.job.id)) := by
  have hget : site.queue.get now id true = (.ok r.status,
      { site.queue with records := site.queue.records.modify id (·.checked now) }) := by
    unfold Registry.get
    rw [hr]
    rfl
  unfold status
  rw [Act.run_bind, Registry.run_get, hget]
  -- The stamp of the check concerns neither the counters nor the node.
  show ((authorize r.status.job credential >>= fun _ => _).run _).1 = _
  cases hadmits : r.status.job.admits credential with
  | false =>
    rw [Act.run_bind, run_authorize_of_denies hadmits]
    rfl
  | true =>
    rw [Act.run_bind_ok (run_authorize_of_admits hadmits _), if_pos rfl, estimated]
    split <;> rfl

/-- An answer about a job is its record, with the estimate. -/
theorem run_status_eq_ok {scan : Registry.Scan} {now : Nat} {id : String}
    {credential : Option String} {site : Site Registry} {s : Status}
    (h : ((status (Registry.service scan now) id credential).run site).1 = .ok s) :
    ∃ r, site.queue.records.find? id = some r ∧ s = estimated site.queue site.node r.status := by
  cases hr : site.queue.records.find? id with
  | none =>
    rw [run_status_of_none scan now hr] at h
    cases h
  | some r =>
    rw [run_status_of_find? scan now hr] at h
    split at h <;> cases h
    exact ⟨r, rfl, rfl⟩

end Node

end JobScheduling
