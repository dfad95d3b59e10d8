/-!
# Runs of code points

A property of characters is given by the code points at which it changes, in ascending
order: it begins to hold at the first, ends at the second, and so on.
-/

set_option autoImplicit false

namespace JobScheduling

/-- Whether a number lies in one of the runs that begin and end at these bounds. -/
def inRuns (bounds : List Nat) (n : Nat) : Bool := bounds.countP (· ≤ n) % 2 = 1

/-- No number is in no runs. -/
theorem inRuns_nil (n : Nat) : inRuns [] n = false := rfl

/-- One bound in front exchanges inside and outside from there on. -/
theorem inRuns_cons (b : Nat) (bounds : List Nat) (n : Nat) :
    inRuns (b :: bounds) n = (inRuns bounds n ^^ decide (b ≤ n)) := by
  simp only [inRuns]
  by_cases h : b ≤ n
  · simp only [h, List.countP_cons, decide_true, if_true, Bool.xor_true]
    grind
  · simp [h]

end JobScheduling
