/-!
# Blank text

A character is blank when it has the Unicode property `White_Space`. The property holds
of 25 characters. A text is blank when it has no other character, and `trim` removes
blank characters at both ends.
-/

set_option autoImplicit false

namespace JobScheduling

/-- The characters with the property `White_Space`, as ranges of code points. -/
def blankRanges : List (Nat × Nat) :=
  [(0x09, 0x0d), (0x20, 0x20), (0x85, 0x85), (0xa0, 0xa0), (0x1680, 0x1680), (0x2000, 0x200a),
    (0x2028, 0x2029), (0x202f, 0x202f), (0x205f, 0x205f), (0x3000, 0x3000)]

/-- Whether the character has the property `White_Space`. -/
def isBlank (c : Char) : Bool :=
  blankRanges.any fun range => range.1 ≤ c.toNat && c.toNat ≤ range.2

/-- The text without the blank characters at its end. -/
def trimEnd (cs : List Char) : List Char := (cs.reverse.dropWhile isBlank).reverse

/-- The text without the blank characters at both ends. -/
def trim (cs : List Char) : List Char := trimEnd (cs.dropWhile isBlank)

/-- Whether the text has blank characters only. -/
def isBlankText (s : String) : Bool := s.toList.all isBlank

/-- Nothing is left when everything is dropped. -/
theorem dropWhile_eq_nil_iff {α : Type} (p : α → Bool) (l : List α) :
    l.dropWhile p = [] ↔ l.all p = true := by
  induction l with
  | nil => simp
  | cons a l ih => by_cases h : p a = true <;> simp [h, ih]

/-- A text is blank exactly when trimming leaves nothing of it. -/
theorem trim_eq_nil_iff (s : String) : trim s.toList = [] ↔ isBlankText s = true := by
  simp only [trim, trimEnd, isBlankText]
  rw [List.reverse_eq_nil_iff, dropWhile_eq_nil_iff, List.all_reverse,
    ← dropWhile_eq_nil_iff isBlank s.toList]
  constructor
  · intro h
    cases hd : s.toList.dropWhile isBlank with
    | nil => rfl
    | cons c l =>
      -- The first character left is not blank, though all are.
      have hc := List.head?_dropWhile_not isBlank s.toList
      rw [hd] at h hc
      simp_all
  · intro h
    rw [h]
    rfl

end JobScheduling
