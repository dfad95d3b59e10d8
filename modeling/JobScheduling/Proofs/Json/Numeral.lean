import JobScheduling.Json.Token
import Mathlib.Data.List.Basic

/-!
# `JobScheduling.Proofs.Json.Numeral`: numbers as they are written

The numeral that a number is written as is well formed (`Number.isWellFormed_numeral`). The scanner
reads a well-formed numeral back if the text does not go on like a number
(`Token.scanNumber_chars`).

The numeral of an integer stands for that integer again, as long as it fits 64 bits
(`Numeral.integer?_numeral`), and no other integers are read (`Numeral.isWord_of_integer?`).
-/

set_option autoImplicit false

namespace JobScheduling

/-! ### Digits -/

namespace Numeral

/-- Decimal digits, at least one. -/
structure AreDigits (digits : List Nat) : Prop where
  nonempty : digits ≠ []
  lt_ten : ∀ d ∈ digits, d < 10

/-- A numeral that the grammar allows: digits in each of its parts, and no zero in front of other
digits. -/
structure IsWellFormed (n : Numeral) : Prop where
  whole : AreDigits n.whole
  leading : n.whole.head? = some 0 → n.whole = [0]
  fraction : ∀ digits, n.fraction = some digits → AreDigits digits
  exponent : ∀ down digits, n.exponent = some (down, digits) → AreDigits digits

/-- A digit is less than ten. -/
theorem digit_lt_ten {c : Char} (h : c.isDigit = true) : Token.digit c < 10 := by
  obtain ⟨-, hle⟩ := Char.isDigit_iff_toNat.1 h
  simp only [Token.digit, Char.reduceToNat] at hle ⊢
  omega

/-- A number is written in digits, and at least with one. -/
theorem areDigits_digitsOf (n : Nat) : AreDigits (digitsOf n) where
  nonempty := by simp [digitsOf]
  lt_ten := by
    intro d hd
    obtain ⟨c, hc, rfl⟩ := List.mem_map.1 hd
    exact digit_lt_ten (Nat.isDigit_of_mem_toDigits (by decide) (by decide) hc)

/-- The digits of a number stand for it. -/
theorem ofDigits_digitsOf (n : Nat) : ofDigits (digitsOf n) = n := by
  rw [ofDigits, digitsOf, List.foldl_map]
  exact Nat.ofDigitChars_eq_foldl.symm.trans Nat.ofDigitChars_ten_toDigits

/-- Some of the digits, and zeros, are digits. -/
theorem AreDigits.of_mem {digits some : List Nat} (h : AreDigits digits) (hne : some ≠ [])
    (hmem : ∀ d ∈ some, d ∈ digits ∨ d = 0) : AreDigits some where
  nonempty := hne
  lt_ten := by
    intro d hd
    rcases hmem d hd with hd | rfl
    · exact h.lt_ten d hd
    · decide

/-- Only zero has a zero in front. -/
theorem head?_digitsOf {n : Nat} (h : n ≠ 0) : (digitsOf n).head? ≠ some 0 := by
  induction n using Nat.strongRecOn with
  | ind n ih =>
    rw [digitsOf, Nat.toDigits_eq_if (by decide)]
    split
    next hlt => simpa [Token.digit, Nat.toNat_digitChar_of_lt_ten hlt] using h
    next hle =>
      have hrest := ih (n / 10) (by omega) (by omega)
      rw [digitsOf] at hrest
      rwa [List.map_append, List.head?_append_of_ne_nil _ (by simp)]

end Numeral

/-! ### The numeral of a number -/

namespace Number

/-- The numeral of an integer is well formed. -/
theorem isWellFormed_integer (i : Int) : (numeral (.integer i)).IsWellFormed where
  whole := Numeral.areDigits_digitsOf _
  leading := by
    intro hzero
    by_cases h : i = 0
    · rw [h]
      rfl
    · exact absurd hzero (Numeral.head?_digitsOf (Int.natAbs_ne_zero.2 h))
  fraction := nofun
  exponent := nofun

/-- The numeral of a floating point number is well formed. -/
theorem isWellFormed_realNumeral (x : Binary64) : (realNumeral x).IsWellFormed := by
  have hds := Numeral.areDigits_digitsOf x.shortest.digits
  have hlength := List.length_pos_iff.2 hds.nonempty
  have hzero : Numeral.AreDigits [0] := ⟨nofun, by simp⟩
  unfold realNumeral
  dsimp only
  split
  · exact ⟨hzero, fun _ => rfl, by rintro _ ⟨⟩; exact hzero, nofun⟩
  next hne =>
  have hhead := Numeral.head?_digitsOf hne
  generalize Numeral.digitsOf x.shortest.digits = digits at *
  -- The front of the digits has no zero in front either, and what is left after it are digits.
  have htake (k : Nat) : Numeral.AreDigits (digits.take (k + 1)) :=
    hds.of_mem (by simp [hds.nonempty]) fun d hd => .inl (List.mem_of_mem_take hd)
  have hhead_take (k : Nat) : (digits.take (k + 1)).head? ≠ some 0 := by
    rwa [List.head?_take, if_neg (Nat.succ_ne_zero k)]
  have hdrop (k : Nat) (hk : k < digits.length) : Numeral.AreDigits (digits.drop k) :=
    hds.of_mem (by simpa using hk) fun d hd => .inl (List.mem_of_mem_drop hd)
  split
  · refine ⟨htake 0, fun h => absurd h (hhead_take 0), ?_, ?_⟩
    · intro fraction hfraction
      dsimp only at hfraction
      split at hfraction
      · cases hfraction
      next hone =>
        cases hfraction
        exact hdrop 1 (by omega)
    · rintro down ds ⟨⟩
      exact Numeral.areDigits_digitsOf _
  split
  · refine ⟨hds.of_mem (by simp [hds.nonempty]) ?_, ?_, by rintro _ ⟨⟩; exact hzero, nofun⟩
    · intro d hd
      exact (List.mem_append.1 hd).imp_right List.eq_of_mem_replicate
    · intro h
      rw [List.head?_append_of_ne_nil _ hds.nonempty] at h
      exact absurd h hhead
  split
  · refine ⟨htake _, fun h => absurd h (hhead_take _), ?_, nofun⟩
    rintro fraction ⟨⟩
    exact hdrop _ (by omega)
  · refine ⟨hzero, fun _ => rfl, ?_, nofun⟩
    rintro fraction ⟨⟩
    refine hds.of_mem (by simp [hds.nonempty]) fun d hd => ?_
    exact (List.mem_append.1 hd).symm.imp_right List.eq_of_mem_replicate

/-- The numeral of a number is well-formed. -/
theorem isWellFormed_numeral (n : Number) : n.numeral.IsWellFormed := by
  cases n with
  | integer i => exact isWellFormed_integer i
  | real x => exact isWellFormed_realNumeral x

end Number

/-! ### Reading numerals -/

namespace Token

/-- The text does not go on with a number that stands before it. -/
def EndsNumber (rest : List Char) : Prop :=
  ∀ c ∈ rest.head?, c.isDigit = false ∧ c ≠ '.' ∧ c ≠ 'e' ∧ c ≠ 'E'

/-- Digits are read back up to what is no digit. -/
theorem scanDigits_spell {digits : List Nat} (hdigits : ∀ d ∈ digits, d < 10) {rest : List Char}
    (hrest : ∀ c ∈ rest.head?, c.isDigit = false) :
    scanDigits (Numeral.spell digits ++ rest) = (digits, rest) := by
  have hspelled : ∀ c ∈ Numeral.spell digits, c.isDigit = true := by
    intro c hc
    obtain ⟨d, hd, rfl⟩ := List.mem_map.1 hc
    simpa using hdigits d hd
  have hvalue : (Numeral.spell digits).map digit = digits := by
    rw [Numeral.spell, List.map_map]
    conv_rhs => rw [← List.map_id digits]
    refine List.map_congr_left fun d hd => ?_
    exact Nat.toNat_digitChar_sub_48_of_lt_ten (hdigits d hd)
  rw [scanDigits, List.takeWhile_append_of_pos hspelled, List.dropWhile_append_of_pos hspelled]
  -- The scan ends where the digits end.
  cases rest with
  | nil => simp [hvalue]
  | cons c rest => simp [hvalue, hrest c rfl]

/-- The part behind the point is read back, and none if there is none. -/
theorem scanFraction_spell {fraction : Option (List Nat)}
    (hfraction : ∀ digits, fraction = some digits → Numeral.AreDigits digits) {rest : List Char}
    (hrest : ∀ c ∈ rest.head?, c.isDigit = false ∧ c ≠ '.') :
    scanFraction (Numeral.spellFraction fraction ++ rest) = some (fraction, rest) := by
  cases fraction with
  | none =>
    cases rest with
    | nil => rfl
    | cons c rest =>
      obtain ⟨-, hpoint⟩ := hrest c rfl
      rw [Numeral.spellFraction, List.nil_append, scanFraction]
      exact fun _ h => hpoint (List.cons.inj h).1
  -- Behind the point there must be a digit.
  | some digits =>
    obtain ⟨hne, hlt⟩ := hfraction digits rfl
    rw [Numeral.spellFraction, List.cons_append, scanFraction,
      scanDigits_spell hlt fun c hc => (hrest c hc).1]
    cases digits with
    | nil => exact absurd rfl hne
    | cons d digits => rfl

/-- The exponent is read back with its sign. -/
theorem scanExponent_spell {exponent : Option (Bool × List Nat)}
    (hexponent : ∀ down digits, exponent = some (down, digits) → Numeral.AreDigits digits)
    {rest : List Char} (hrest : EndsNumber rest) :
    scanExponent (Numeral.spellExponent exponent ++ rest) = some (exponent, rest) := by
  cases exponent with
  | none =>
    cases rest with
    | nil => rfl
    -- The text does not go on with the letter of an exponent.
    | cons c rest =>
      obtain ⟨-, -, he, hE⟩ := hrest c rfl
      show (if c = 'e' ∨ c = 'E' then _ else some (none, c :: rest)) = _
      exact if_neg (by simp [he, hE])
  | some exponent =>
    obtain ⟨down, digits⟩ := exponent
    obtain ⟨hne, hlt⟩ := hexponent down digits rfl
    have hdigits := scanDigits_spell hlt fun c hc => (hrest c hc).1
    cases digits with
    | nil => exact absurd rfl hne
    | cons d digits => cases down <;> simp [Numeral.spellExponent, scanExponent, hdigits]

/-- After its sign a well-formed numeral is read back where the text does not go on like a
number. -/
theorem scanUnsigned_spell {n : Numeral} (h : n.IsWellFormed) {rest : List Char}
    (hrest : EndsNumber rest) :
    scanUnsigned n.negative (Numeral.spell n.whole
      ++ (Numeral.spellFraction n.fraction ++ (Numeral.spellExponent n.exponent ++ rest)))
        = some (n, rest) := by
  obtain ⟨negative, whole, fraction, exponent⟩ := n
  obtain ⟨⟨hne, hlt⟩, hleading, hfraction, hexponent⟩ := h
  dsimp only at hne hlt hleading hfraction hexponent ⊢
  have hafter : ∀ c ∈ (Numeral.spellExponent exponent ++ rest).head?,
      c.isDigit = false ∧ c ≠ '.' := by
    intro c hc
    cases exponent with
    | none => exact ⟨(hrest c hc).1, (hrest c hc).2.1⟩
    | some exponent =>
      cases hc
      decide
  have hpoint : ∀ c ∈ (Numeral.spellFraction fraction
      ++ (Numeral.spellExponent exponent ++ rest)).head?, c.isDigit = false := by
    intro c hc
    cases fraction with
    | none => exact (hafter c hc).1
    | some fraction =>
      cases hc
      decide
  rw [scanUnsigned, scanDigits_spell hlt hpoint]
  split
  next heq => exact absurd (Prod.mk.inj heq).1 hne
  next heq =>
    -- A zero stands in front of no other digits.
    obtain ⟨rfl, -⟩ := Prod.mk.inj heq
    cases hleading rfl
  next whole' left _ _ heq =>
    obtain ⟨rfl, rfl⟩ := Prod.mk.inj heq
    simp [scanFraction_spell hfraction hafter, scanExponent_spell hexponent hrest]

/-- Digits begin with no sign. -/
theorem scanNumber_spell {digits : List Nat} (h : Numeral.AreDigits digits) (rest : List Char) :
    scanNumber (Numeral.spell digits ++ rest)
      = scanUnsigned false (Numeral.spell digits ++ rest) := by
  cases digits with
  | nil => exact absurd rfl h.nonempty
  | cons d digits =>
    have hdigit : (Nat.digitChar d).isDigit = true := by simpa using h.lt_ten d List.mem_cons_self
    rw [Numeral.spell, List.map_cons, List.cons_append, scanNumber]
    intro _ heq
    rw [(List.cons.inj heq).1] at hdigit
    exact absurd hdigit (by decide)

/-- A well-formed numeral is read back where the text does not go on like a number. -/
theorem scanNumber_chars {n : Numeral} (h : n.IsWellFormed) {rest : List Char}
    (hrest : EndsNumber rest) : scanNumber (n.chars ++ rest) = some (n, rest) := by
  have hunsigned := scanUnsigned_spell h hrest
  cases hnegative : n.negative with
  | true =>
    rw [hnegative] at hunsigned
    simpa [Numeral.chars, hnegative, scanNumber] using hunsigned
  | false =>
    rw [hnegative, ← scanNumber_spell h.whole] at hunsigned
    simpa [Numeral.chars, hnegative] using hunsigned

/-- A well-formed numeral begins with a minus sign or a digit. -/
theorem head_chars {n : Numeral} (h : n.IsWellFormed) :
    ∃ c rest, n.chars = c :: rest ∧ (c = '-' ∨ c.isDigit = true) := by
  cases hnegative : n.negative with
  | true => exact ⟨'-', _, by rw [Numeral.chars, hnegative]; rfl, .inl rfl⟩
  | false =>
    cases hwhole : n.whole with
    | nil => exact absurd hwhole h.whole.nonempty
    | cons d digits =>
      refine ⟨Nat.digitChar d, _, by rw [Numeral.chars, hnegative, hwhole]; rfl, .inr ?_⟩
      simpa using h.whole.lt_ten d (hwhole ▸ List.mem_cons_self)

end Token

/-! ### The value of a numeral -/

/-- The integers that a number can be. All others are read as floating point numbers. -/
def Number.IsWord (i : Int) : Prop := -(Nat.pow 2 63 : Int) ≤ i ∧ i ≤ maxWord

namespace Numeral

/-- The numeral of an integer within the range stands for it. -/
theorem integer?_numeral {i : Int} (h : Number.IsWord i) :
    (Number.numeral (.integer i)).integer? = some i := by
  obtain ⟨hlow, hhigh⟩ := h
  simp only [Number.numeral, integer?, ofDigits_digitsOf]
  by_cases hneg : i < 0
  · have hrange : 0 < i.natAbs ∧ i.natAbs ≤ Nat.pow 2 63 := by omega
    rw [if_pos (decide_eq_true hneg), if_pos hrange, Int.ofNat_natAbs_of_nonpos (by omega),
      Int.neg_neg]
  · have hrange : i.natAbs ≤ maxWord := by omega
    rw [if_neg (by simpa using hneg), if_pos hrange, Int.natAbs_of_nonneg (by omega)]

/-- Every integer that a numeral stands for is within the range. -/
theorem isWord_of_integer? {n : Numeral} {i : Int} (h : n.integer? = some i) :
    Number.IsWord i := by
  unfold integer? at h
  -- Both signs are tested for their range.
  split at h
  · dsimp only at h
    split at h
    · split at h
      next hrange =>
        cases h
        constructor <;> omega
      · cases h
    · split at h
      next hrange =>
        cases h
        constructor <;> omega
      · cases h
  · cases h

end Numeral

end JobScheduling
