/-!
# Instants, durations and counters

An instant is a number of milliseconds since the epoch and a duration a number of
milliseconds. Both are natural numbers below `2 ^ 64`, and so are all counters. The
time now is always an argument: nothing in the library reads a clock.

An operation has one time, however long it takes. Where a clock could be read more than
once in its course, this one time stands for all the readings: for the start and the end of
a job that was never marked as running (`Record.finish`), and for all the records that a
visit of the shared queue compares with its limits (`Registry.cancelOverdue`). So a clock
can move between operations, but not while one is under way.

Two rules hold everywhere. A difference of instants is floored at zero (`elapsed`),
so a clock that runs backwards never makes a duration negative. A sum or product that
would leave the range stays at its upper end (`capped`).
-/

set_option autoImplicit false

namespace JobScheduling

/-- The largest value of an instant, a duration or a counter. -/
def maxWord : Nat := Nat.pow 2 64 - 1

/-- A number brought into the range of counters. -/
def capped (n : Nat) : Nat := min n maxWord

/-- The time that has passed since `since`, and zero when `since` lies ahead. -/
def elapsed (now since : Nat) : Nat := now - since

/-- The instant `secs` seconds and `nanos` nanoseconds after the epoch. An instant
before the epoch counts as the epoch, and parts of a millisecond are dropped. -/
def instantOf (secs : Int) (nanos : Nat) : Nat :=
  capped ((secs * 1000000000 + nanos).toNat / 1000000)

/-- A number within the range is not capped. -/
theorem capped_of_le {n : Nat} (h : n ≤ maxWord) : capped n = n := Nat.min_eq_left h

/-- A capped number is within the range. -/
theorem capped_le (n : Nat) : capped n ≤ maxWord := Nat.min_le_right _ _

/-- What is capped is at least as large as what fits below both. -/
theorem le_capped_iff {k n : Nat} : k ≤ capped n ↔ k ≤ n ∧ k ≤ maxWord := Nat.le_min

/-- A word exceeds a capped number exactly when it exceeds the number itself. -/
theorem capped_lt_iff {n k : Nat} (h : k ≤ maxWord) : capped n < k ↔ n < k := by
  unfold capped; omega

/-- A sum can be capped as it grows. -/
theorem capped_add_right (a b : Nat) : capped (capped a + b) = capped (a + b) := by
  unfold capped; omega

end JobScheduling
