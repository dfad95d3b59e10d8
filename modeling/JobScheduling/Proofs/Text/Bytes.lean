import Mathlib.Data.String.Basic

/-!
# `JobScheduling.Proofs.Text.Bytes`: texts in the order of their bytes

Texts are compared character by character. Where they are stored they are compared byte by byte,
in UTF-8. Both orders are the same (`lt_iff_bytes_lt`).

UTF-8 gives a character one byte to four. The first byte tells how many, and more of them mean a
larger character. Among characters with equally many bytes these are the digits of the character
in base 64, each raised by a constant. So of two different characters the first byte in which
they differ decides, whatever follows (`utf8EncodeChar_append_lt`).
-/

set_option autoImplicit false

namespace JobScheduling

namespace Text

/-- The bytes of a text, in UTF-8. -/
def bytes (s : String) : List UInt8 := s.toByteArray.data.toList

/-- The bytes of a text are those of its characters. -/
theorem bytes_eq (s : String) : bytes s = s.toList.flatMap String.utf8EncodeChar := by
  have hencode : s.toByteArray = s.toList.utf8Encode := by
    rw [← String.toByteArray_ofList, String.ofList_toList]
  rw [bytes, hencode, List.utf8Encode]
  simp

/-- Of two lists of bytes the first difference decides. The bytes are given as numbers. -/
theorem ofNat_cons_lt_cons {m n : Nat} (hm : m < 256) (hn : n < 256) (r r' : List UInt8) :
    UInt8.ofNat m :: r < UInt8.ofNat n :: r' ↔ m < n ∨ m = n ∧ r < r' := by
  rw [List.cons_lt_cons_iff, UInt8.lt_iff_toNat_lt, ← UInt8.toNat_inj,
    UInt8.toNat_ofNat_of_lt' hm, UInt8.toNat_ofNat_of_lt' hn]

/-- The bytes of a smaller character come before those of a larger one, whatever follows. -/
theorem utf8EncodeChar_append_lt {c d : Char} (h : c < d) (r r' : List UInt8) :
    String.utf8EncodeChar c ++ r < String.utf8EncodeChar d ++ r' := by
  have hcd : c.val.toNat < d.val.toNat := h
  have hd : d.val.toNat < 0x110000 := by
    rcases d.valid with hlow | ⟨-, hhigh⟩
    · exact Nat.lt_trans hlow (by decide)
    · exact hhigh
  unfold String.utf8EncodeChar
  dsimp only
  generalize c.val.toNat = v at *
  generalize d.val.toNat = w at *
  -- By the numbers of bytes: the larger character does not have fewer.
  split_ifs <;>
    simp (disch := omega) only [List.cons_append, List.nil_append, ofNat_cons_lt_cons,
      Nat.mod_eq_of_lt] <;>
    omega

/-- A common beginning does not decide. -/
theorem append_lt_append_iff (l r r' : List UInt8) : l ++ r < l ++ r' ↔ r < r' := by
  induction l with
  | nil => rfl
  | cons b l ih => simpa using ih

/-- Lists of characters are in the order of their bytes. -/
theorem flatMap_utf8EncodeChar_lt_iff (cs ds : List Char) :
    cs.flatMap String.utf8EncodeChar < ds.flatMap String.utf8EncodeChar ↔ cs < ds := by
  induction cs generalizing ds with
  | nil =>
    cases ds with
    | nil => simp
    | cons d ds =>
      obtain ⟨b, bs, hd⟩ := List.exists_cons_of_ne_nil (String.utf8EncodeChar_ne_nil (c := d))
      simp [hd]
  | cons c cs ih =>
    cases ds with
    | nil => simp
    | cons d ds =>
      rw [List.flatMap_cons, List.flatMap_cons, List.cons_lt_cons_iff]
      rcases lt_trichotomy c d with hcd | rfl | hdc
      · simp [hcd, utf8EncodeChar_append_lt hcd]
      · rw [append_lt_append_iff, ih]
        simp
      · -- Here the bytes are in the other order.
        have hbytes := utf8EncodeChar_append_lt hdc (ds.flatMap String.utf8EncodeChar)
          (cs.flatMap String.utf8EncodeChar)
        simp [List.le_of_lt hbytes, hdc.not_gt, hdc.ne']

/-- Texts are in the order of their bytes. -/
theorem lt_iff_bytes_lt (a b : String) : a < b ↔ bytes a < bytes b := by
  rw [bytes_eq, bytes_eq, flatMap_utf8EncodeChar_lt_iff]
  rfl

end Text

end JobScheduling
