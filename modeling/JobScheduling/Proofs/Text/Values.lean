import JobScheduling.Json.Token
import JobScheduling.Text.Blank
import JobScheduling.Text.Plain

/-!
# `JobScheduling.Proofs.Text.Values`: words and truth values in text

A word is written in decimal digits. `IsDecimal` says so without any reading from the left, and
`Plain.word_eq_ok_iff` that the reader accepts exactly these texts, and a plus sign before them, as
long as the value is in the range. A reader that goes from the left stops at the first digit that
makes the number too large. That is right because further digits make no number smaller
(`le_foldl_digits`).

`trim_padded` says that trimming takes away what is put around a text, if the text has no blank
characters.
-/

set_option autoImplicit false

namespace JobScheduling

/-- A text of decimal digits, at least one, with this value. -/
structure IsDecimal (text : List Char) (value : Nat) : Prop where
  nonempty : text ≠ []
  digits : ∀ c ∈ text, c.isDigit = true
  value : Numeral.ofDigits (text.map Token.digit) = value

/-- The text of a truth value. -/
def boolText (b : Bool) : List Char := (if b then "true" else "false").toList

/-! ### Readers -/

namespace Plain

/-- Further digits make no number smaller. -/
theorem le_foldl_digits (digits : List Nat) (n : Nat) :
    n ≤ digits.foldl (fun n d => 10 * n + d) n := by
  induction digits generalizing n with
  | nil => exact Nat.le_refl n
  | cons d digits ih => exact Nat.le_trans (by omega) (ih (10 * n + d))

/-- What the reader of digits accepts. -/
theorem digits_eq_ok_iff {n : Nat} (h : n ≤ maxWord) (text : List Char) (value : Nat) :
    digits n text = .ok value ↔ (∀ c ∈ text, c.isDigit = true) ∧
      (text.map Token.digit).foldl (fun n d => 10 * n + d) n = value ∧ value ≤ maxWord := by
  induction text generalizing n with
  | nil =>
    simp only [digits, Except.ok.injEq, List.not_mem_nil, false_implies, implies_true, List.map_nil,
      List.foldl_nil, true_and]
    exact ⟨fun hn => ⟨hn, hn ▸ h⟩, And.left⟩
  | cons c text ih =>
    simp only [digits, List.mem_cons, forall_eq_or_imp, List.map_cons, List.foldl_cons]
    cases hdigit : c.isDigit with
    | false => simp
    | true =>
      simp only [Bool.not_true, Bool.false_eq_true, if_false, true_and]
      split
      next hlarge =>
        -- The number is too large already.
        have hle := le_foldl_digits (text.map Token.digit) (10 * n + Token.digit c)
        simp only [Token.digit] at hle ⊢
        refine ⟨nofun, fun hread => ?_⟩
        omega
      next hfits => exact ih (Nat.le_of_not_lt hfits)

/-- What the reader of words accepts. -/
theorem word_eq_ok_iff (text : List Char) (value : Nat) :
    word text = .ok value ↔ value ≤ maxWord ∧
      (IsDecimal text value ∨ ∃ rest, text = '+' :: rest ∧ IsDecimal rest value) := by
  have hdigits (rest : List Char) (hrest : rest ≠ []) :
      digits 0 rest = .ok value ↔ value ≤ maxWord ∧ IsDecimal rest value := by
    rw [digits_eq_ok_iff (Nat.zero_le _)]
    constructor
    · rintro ⟨hall, hvalue, hle⟩
      exact ⟨hle, hrest, hall, hvalue⟩
    · rintro ⟨hle, -, hall, hvalue⟩
      exact ⟨hall, hvalue, hle⟩
  -- A plus sign is no digit, so only one of the two ways is left.
  have hplus (rest : List Char) : ¬ IsDecimal ('+' :: rest) value :=
    fun h => absurd (h.digits '+' List.mem_cons_self) (by decide)
  unfold word
  split
  · simp only [reduceCtorEq, false_iff, not_and, not_or, not_exists]
    exact fun _ => ⟨fun h => h.nonempty rfl, nofun⟩
  · simp only [reduceCtorEq, false_iff, not_and, not_or, not_exists]
    refine fun _ => ⟨hplus [], ?_⟩
    rintro rest ⟨⟩ h
    exact h.nonempty rfl
  next rest hne =>
    have hrest : rest ≠ [] := fun h => hne (h ▸ rfl)
    rw [hdigits rest hrest]
    refine and_congr_right fun _ => ⟨fun h => .inr ⟨rest, rfl, h⟩, ?_⟩
    rintro (h | ⟨_, ⟨⟩, h⟩)
    · exact absurd h (hplus rest)
    · exact h
  next hempty _ hnoPlus =>
    rw [hdigits text hempty]
    refine and_congr_right fun _ => ⟨.inl, ?_⟩
    rintro (h | ⟨rest, rfl, -⟩)
    · exact h
    · exact absurd rfl (hnoPlus rest)

/-- What the reader of truth values accepts. -/
theorem bool_eq_ok_iff (text : List Char) (b : Bool) : bool text = .ok b ↔ text = boolText b := by
  have hdiffer : "true".toList ≠ "false".toList := by decide
  unfold bool
  -- The case split is that of the reader: `true` is tried first, then `false`.
  split
  next htrue =>
    rw [htrue]
    cases b
    · exact ⟨nofun, fun h => absurd h hdiffer⟩
    · exact ⟨fun _ => rfl, fun _ => rfl⟩
  next htrue =>
  split
  next hfalse =>
    rw [hfalse]
    cases b
    · exact ⟨fun _ => rfl, fun _ => rfl⟩
    · exact ⟨nofun, fun h => absurd h.symm hdiffer⟩
  next hfalse =>
    refine ⟨nofun, fun h => ?_⟩
    cases b
    · exact absurd h hfalse
    · exact absurd h htrue

end Plain

/-! ### Blank characters -/

/-- Nothing is removed from the front of a text without blank characters. -/
theorem dropWhile_isBlank {text : List Char} (htext : ∀ c ∈ text, isBlank c = false) :
    text.dropWhile isBlank = text := by
  cases text with
  | nil => rfl
  | cons c text => rw [List.dropWhile_cons, htext c List.mem_cons_self, if_neg Bool.false_ne_true]

/-- Trimming takes away the blank characters around a text without any. -/
theorem trim_padded {before text after : List Char} (hbefore : ∀ c ∈ before, isBlank c = true)
    (htext : ∀ c ∈ text, isBlank c = false) (hafter : ∀ c ∈ after, isBlank c = true) :
    trim (before ++ text ++ after) = text := by
  have hend : trimEnd (text ++ after) = text := by
    rw [trimEnd, List.reverse_append, List.dropWhile_append_of_pos, dropWhile_isBlank,
      List.reverse_reverse]
    · exact fun c hc => htext c (List.mem_reverse.1 hc)
    · exact fun c hc => hafter c (List.mem_reverse.1 hc)
  rw [trim, List.append_assoc, List.dropWhile_append_of_pos hbefore]
  cases text with
  | nil =>
    rw [List.nil_append, (dropWhile_eq_nil_iff isBlank after).2 (List.all_eq_true.2 hafter)]
    rfl
  | cons c text =>
    -- The first character of the text is where the removal stops.
    rw [List.cons_append, List.dropWhile_cons, htext c List.mem_cons_self,
      if_neg Bool.false_ne_true]
    exact hend

/-- A text without blank characters stays as it is. -/
theorem trim_eq_self {text : List Char} (htext : ∀ c ∈ text, isBlank c = false) :
    trim text = text := by
  have hnone : ∀ c ∈ ([] : List Char), isBlank c = true := nofun
  simpa using trim_padded hnone htext hnone

/-- Visible ASCII characters are not blank. -/
theorem isBlank_eq_false {c : Char} (hlow : 0x21 ≤ c.toNat) (hhigh : c.toNat ≤ 0x7e) :
    isBlank c = false := by
  simp only [isBlank, blankRanges, List.any_cons, List.any_nil, Bool.or_eq_false_iff,
    Bool.and_eq_false_iff, decide_eq_false_iff_not, and_true]
  omega

/-- Letters and digits are visible. -/
theorem isBlank_of_isAlphanum {c : Char} (h : c.isAlphanum = true) : isBlank c = false := by
  -- Letters and digits lie among the visible characters, and none of those is blank.
  have visible (low high : UInt32) (hlow : 0x21 ≤ low.toNat) (hhigh : high.toNat ≤ 0x7e)
      (hfrom : low ≤ c.val) (hto : c.val ≤ high) : isBlank c = false :=
    isBlank_eq_false (Nat.le_trans hlow (UInt32.le_iff_toNat_le.1 hfrom))
      (Nat.le_trans (UInt32.le_iff_toNat_le.1 hto) hhigh)
  rcases Bool.or_eq_true_iff.1 h with halpha | hdigit
  · rcases Bool.or_eq_true_iff.1 halpha with hupper | hlower
    · obtain ⟨hfrom, hto⟩ := of_decide_eq_true hupper
      exact visible 'A'.val 'Z'.val (by decide) (by decide) hfrom hto
    · obtain ⟨hfrom, hto⟩ := Bool.and_eq_true_iff.1 hlower
      exact visible 'a'.val 'z'.val (by decide) (by decide) (of_decide_eq_true hfrom)
        (of_decide_eq_true hto)
  · obtain ⟨hfrom, hto⟩ := Bool.and_eq_true_iff.1 hdigit
    exact visible '0'.val '9'.val (by decide) (by decide) (of_decide_eq_true hfrom)
      (of_decide_eq_true hto)

end JobScheduling
