import JobScheduling.Json.Value
import Mathlib.Data.List.Basic
import Mathlib.Data.String.Basic

/-!
# `JobScheduling.Proofs.Json.Fields`: the fields of a record

A record keeps its fields sorted by key, whatever the order in which they come
(`Json.isSorted_sortFields`), and no key twice. Sorted fields are kept as they are
(`Json.sortFields_of_isSorted`).
-/

set_option autoImplicit false

namespace JobScheduling

namespace Json

/-- Fields in the order of their keys, none of which comes twice. -/
def IsSorted (fields : List (String × Json)) : Prop := fields.Pairwise fun f g => f.1 < g.1

/-- A field is put in, and no others come with it. -/
theorem mem_insertField {key : String} {value : Json} {fields : List (String × Json)}
    {field : String × Json} (h : field ∈ insertField key value fields) :
    field = (key, value) ∨ field ∈ fields := by
  induction fields with
  | nil => exact .inl (List.mem_singleton.1 h)
  | cons first rest ih =>
    obtain ⟨k, v⟩ := first
    rw [insertField] at h
    split at h
    · exact List.mem_cons.1 h
    split at h
    · exact (List.mem_cons.1 h).imp_right (List.mem_cons_of_mem _)
    · rcases List.mem_cons.1 h with h | h
      · exact .inr (h ▸ List.mem_cons_self)
      · exact (ih h).imp_right (List.mem_cons_of_mem _)

/-- A field goes where its key belongs, so sorted fields stay sorted. -/
theorem isSorted_insertField (key : String) (value : Json) {fields : List (String × Json)}
    (h : IsSorted fields) : IsSorted (insertField key value fields) := by
  induction fields with
  | nil => exact List.pairwise_singleton _ _
  | cons first rest ih =>
    obtain ⟨k, v⟩ := first
    obtain ⟨hfirst, hrest⟩ := List.pairwise_cons.1 h
    rw [insertField]
    -- Its key comes first, or it is there already, or it goes further back.
    split
    next hlt =>
      refine List.pairwise_cons.2 ⟨fun field hfield => ?_, h⟩
      rcases List.mem_cons.1 hfield with rfl | hfield
      · exact hlt
      · exact hlt.trans (hfirst field hfield)
    next hge =>
    split
    next heq => exact List.pairwise_cons.2 ⟨fun field hfield => heq ▸ hfirst field hfield, hrest⟩
    next hne =>
      refine List.pairwise_cons.2 ⟨fun field hfield => ?_, ih hrest⟩
      rcases mem_insertField hfield with rfl | hfield
      · exact lt_of_le_of_ne (not_lt.1 hge) (Ne.symm hne)
      · exact hfirst field hfield

/-- A key behind all others is inserted at the end. -/
theorem insertField_of_lt {key : String} (value : Json) {fields : List (String × Json)}
    (h : ∀ field ∈ fields, field.1 < key) :
    insertField key value fields = fields ++ [(key, value)] := by
  induction fields with
  | nil => rfl
  | cons first rest ih =>
    obtain ⟨k, v⟩ := first
    have hlt := h (k, v) List.mem_cons_self
    rw [insertField, if_neg (lt_asymm hlt), if_neg hlt.ne',
      ih fun field hfield => h field (List.mem_cons_of_mem _ hfield)]
    rfl

/-- Fields brought into order. -/
def sortFields (done fields : List (String × Json)) : List (String × Json) :=
  fields.foldl (fun done field => insertField field.1 field.2 done) done

/-- The fields of a record are put in one after the other. -/
theorem ofFields_eq_sortFields (fields : List (String × Json)) :
    ofFields fields = .record (sortFields [] fields) := rfl

/-- However the fields come, they are sorted in the end. -/
theorem isSorted_sortFields {done : List (String × Json)} (h : IsSorted done)
    (fields : List (String × Json)) : IsSorted (sortFields done fields) := by
  induction fields generalizing done with
  | nil => exact h
  | cons field rest ih => exact ih (isSorted_insertField _ _ h)

/-- The sorted fields are among those that came. -/
theorem mem_sortFields {done fields : List (String × Json)} {field : String × Json}
    (h : field ∈ sortFields done fields) : field ∈ done ∨ field ∈ fields := by
  induction fields generalizing done with
  | nil => exact .inl h
  | cons first rest ih =>
    rcases ih h with h | h
    · rcases mem_insertField h with rfl | h
      · exact .inr List.mem_cons_self
      · exact .inl h
    · exact .inr (List.mem_cons_of_mem _ h)

/-- Fields that come sorted are kept as they are. -/
theorem sortFields_of_isSorted {done fields : List (String × Json)}
    (h : IsSorted (done ++ fields)) : sortFields done fields = done ++ fields := by
  induction fields generalizing done with
  | nil => exact (List.append_nil done).symm
  | cons field rest ih =>
    -- The next field comes behind all that are already there, so it is put at the end.
    have hlt : ∀ other ∈ done, other.1 < field.1 := fun other hother =>
      (List.pairwise_append.1 h).2.2 other hother field List.mem_cons_self
    rw [List.append_cons] at h ⊢
    rw [← ih h, sortFields, List.foldl_cons, insertField_of_lt _ hlt]
    rfl

end Json

end JobScheduling
