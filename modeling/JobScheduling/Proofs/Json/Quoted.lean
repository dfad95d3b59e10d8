import JobScheduling.Json.Value
import Mathlib.Data.List.Basic

/-!
# `JobScheduling.Proofs.Json.Quoted`: texts as they are written

A text is written character by character. Most characters stand for themselves, some are written
with a backslash and a letter, and the other control characters by their number. The scanner keeps
the last ones apart from the others (`Piece.ofChar`), and reads each character up to the closing
quote as it was written (`Token.scanText_escape`). The pieces of a text are that text again,
whatever characters it has (`Piece.text?_ofText`).
-/

set_option autoImplicit false

namespace JobScheduling

/-! ### Pieces -/

namespace Piece

/-- The characters that have a letter or a sign after a backslash. -/
def lettered : List Char := ['"', '\\', '\x08', '\x0c', '\n', '\r', '\t']

/-- Whether a character is written by its number. -/
def isNumbered (c : Char) : Bool := c.toNat < 0x20 && !lettered.contains c

/-- The piece that a written character is read as. -/
def ofChar (c : Char) : Piece := if isNumbered c then .unit c.toNat else .char c

/-- The pieces that a written text is read as. -/
def ofText (s : String) : List Piece := s.toList.map ofChar

/-- A unit that is no half of a surrogate pair is a character, whatever follows. -/
theorem decode_unit {n : Nat} (h : n < 0x20) (rest : List Piece) :
    decode (.unit n :: rest) = (decode rest).map (Char.ofNat n :: ·) := by
  have hhigh : isHigh n = false := by simp [isHigh]; omega
  have hlow : isLow n = false := by simp [isLow]; omega
  cases rest with
  | nil => simp [decode, hhigh, hlow]
  | cons piece rest => cases piece <;> simp [decode, hhigh, hlow]

/-- Characters that stand for themselves are decoded as they are. -/
theorem decode_ofChar (cs : List Char) : decode (cs.map ofChar) = some cs := by
  induction cs with
  | nil => rfl
  | cons c cs ih =>
    rw [List.map_cons, ofChar]
    split
    next h =>
      have hlt : c.toNat < 0x20 := of_decide_eq_true (Bool.and_eq_true_iff.1 h).1
      rw [decode_unit hlt, ih, Option.map_some, Char.ofNat_toNat]
    next => rw [decode, ih, Option.map_some]

/-- The pieces of a text stand for it. -/
theorem text?_ofText (s : String) : text? (ofText s) = some s := by
  rw [text?, ofText, decode_ofChar, Option.map_some, String.ofList_toList]

end Piece

/-! ### Reading texts -/

namespace Token

/-- A hexadecimal digit is read back. -/
theorem hexDigit?_hexChar {n : Nat} (h : n < 16) : hexDigit? (Json.hexChar n) = some n := by
  have hall : ∀ n < 16, hexDigit? (Json.hexChar n) = some n := by decide
  exact hall n h

/-- A character is read as it was written. -/
theorem scanText_escape (c : Char) (rest : List Char) :
    scanText (Json.escape c ++ rest)
      = (scanText rest).map fun (pieces, left) => (Piece.ofChar c :: pieces, left) := by
  by_cases hlettered : c ∈ Piece.lettered
  · have hpiece : Piece.ofChar c = .char c := by simp [Piece.ofChar, Piece.isNumbered, hlettered]
    rw [hpiece]
    simp only [Piece.lettered, List.mem_cons, List.not_mem_nil, or_false] at hlettered
    rcases hlettered with rfl | rfl | rfl | rfl | rfl | rfl | rfl <;>
      simp [Json.escape, scanText, escaped?]
  have hothers := hlettered
  simp only [Piece.lettered, List.mem_cons, List.not_mem_nil, or_false, not_or] at hothers
  obtain ⟨hquote, hslash, hb, hf, hn, hr, ht⟩ := hothers
  simp only [Json.escape, if_neg hquote, if_neg hslash, if_neg hb, if_neg hf, if_neg hn, if_neg hr,
    if_neg ht]
  split
  next hlow =>
    -- Both digits of the number are read, and together they give it again.
    have hhigh := hexDigit?_hexChar (n := c.toNat / 16) (by omega)
    have hlast := hexDigit?_hexChar (n := c.toNat % 16) (by omega)
    have hzero : hexDigit? '0' = some 0 := by decide
    have hpiece : Piece.ofChar c
        = .unit (((0 * 16 + 0) * 16 + c.toNat / 16) * 16 + c.toNat % 16) := by
      rw [Piece.ofChar, Piece.isNumbered, if_pos (by simp [hlow, hlettered])]
      congr 1
      omega
    simp only [List.cons_append, List.nil_append, scanText, hhigh, hlast, hzero, hpiece]
  next hhigh =>
    have hpiece : Piece.ofChar c = .char c := by
      rw [Piece.ofChar, Piece.isNumbered, if_neg (by simp [hhigh])]
    rw [hpiece, List.singleton_append, scanText, if_neg (by simp [hhigh, hslash])]
    all_goals simp [hquote, hslash]

/-- A text is read up to its closing quote. -/
theorem scanText_ofText (s : String) (rest : List Char) :
    scanText (s.toList.flatMap Json.escape ++ '"' :: rest) = some (Piece.ofText s, rest) := by
  rw [Piece.ofText]
  induction s.toList with
  | nil => simp [scanText]
  | cons c cs ih => rw [List.flatMap_cons, List.append_assoc, scanText_escape, ih]; rfl

end Token

end JobScheduling
