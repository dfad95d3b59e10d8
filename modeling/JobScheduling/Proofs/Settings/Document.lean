import JobScheduling.Proofs.Json.Members
import JobScheduling.Proofs.Settings.Choice
import JobScheduling.Settings.Codec
import Mathlib.Data.List.Basic

/-!
# `JobScheduling.Proofs.Settings.Document`: a choice as the fields of a record

A record holds a choice (`Choice.HeldBy`) when it has one field for each setting that the choice is
about and none for the others. What other fields there are does not matter, nor their order.

The reader keeps the fields with known names (`Tree.known?_of_once`), and from these it makes the
assignments of the choice (`Choice.HeldBy.assignments?`).
-/

set_option autoImplicit false

namespace JobScheduling

/-- A value as it stands in a document. A number is written in digits only. -/
def Assignment.EncodedAs : Assignment → Tree → Prop
  | .number _ value, tree =>
    ∃ digits, tree = .number { whole := digits } ∧ Numeral.ofDigits digits = value
  | .switch _ value, tree => tree = .bool value

namespace Choice

variable {choice : Choice}

/-- A record has one field for each setting that the choice is about, and none for the others. All
its keys are texts. -/
structure HeldBy (choice : Choice) (fields : List (List Piece × Tree)) : Prop where
  text : ∀ field ∈ fields, (Piece.text? field.1).isSome = true
  given : ∀ setting a, choice.value? setting = some a →
    ∃ tree, Tree.valuesOf setting.name fields = [tree] ∧ a.EncodedAs tree
  absent : ∀ setting, choice.value? setting = none → Tree.valuesOf setting.name fields = []

/-- A value is read back from a document. -/
theorem decode?_of_encodedAs {setting : Setting} {a : Assignment}
    (ha : choice.value? setting = some a) {tree : Tree} (htree : a.EncodedAs tree) :
    setting.decode? tree = some a := by
  cases setting with
  | number setting =>
    obtain ⟨value, hvalue, rfl⟩ := Option.map_eq_some_iff.1 ha
    obtain ⟨digits, rfl, rfl⟩ := htree
    have hle := choice.le_maxWord setting _ hvalue
    have hword : Tree.word? (.number { whole := digits }) = some (Numeral.ofDigits digits) := by
      simp [Tree.word?, Numeral.integer?, hle]
    rw [Setting.decode?, hword]
    rfl
  | switch setting =>
    obtain ⟨value, -, rfl⟩ := Option.map_eq_some_iff.1 ha
    obtain rfl : tree = .bool value := htree
    rfl

/-- The fields of a record lead to the values of the choice that it holds. -/
theorem HeldBy.mapM_decode? {fields : List (List Piece × Tree)} (h : choice.HeldBy fields)
    (settings : List Setting) :
    (settings.filterMap fun setting =>
      ((Tree.valuesOf setting.name fields).head?).map fun tree => (setting, tree)).mapM
        (fun (setting, tree) => setting.decode? tree)
      = some (settings.filterMap choice.value?) := by
  induction settings with
  | nil => rfl
  | cons setting settings ih =>
    rw [List.filterMap_cons, List.filterMap_cons]
    cases hvalue : choice.value? setting with
    | none =>
      rw [h.absent setting hvalue]
      exact ih
    | some a =>
      obtain ⟨tree, htree, hencoded⟩ := h.given setting a hvalue
      rw [htree]
      show List.mapM _ ((setting, tree) :: _) = _
      rw [List.mapM_cons, ih]
      dsimp only
      rw [decode?_of_encodedAs hvalue hencoded]
      rfl

/-- A record makes the assignments of the choice that it holds. -/
theorem HeldBy.assignments? {fields : List (List Piece × Tree)} (h : choice.HeldBy fields) :
    Settings.assignments? (.record fields) = some choice.assignments := by
  -- No name occurs twice, so what is found under it is the first value.
  have honce : ∀ name ∈ Setting.names, (Tree.valuesOf name fields).length ≤ 1 := by
    intro name hname
    obtain ⟨setting, -, rfl⟩ := List.mem_map.1 hname
    cases hvalue : choice.value? setting with
    | none => simp [h.absent setting hvalue]
    | some a =>
      obtain ⟨tree, htree, -⟩ := h.given setting a hvalue
      simp [htree]
  obtain ⟨found, hfound, hlookup⟩ := Tree.known?_of_once h.text honce
  have hmembers : (Tree.record fields).members? true Setting.names = some found := hfound
  simp only [Settings.assignments?, hmembers, Option.bind_eq_bind, Option.bind_some]
  have hsame : (Setting.all.filterMap fun setting =>
        (found.lookup setting.name).map fun tree => (setting, tree))
      = Setting.all.filterMap fun setting =>
        ((Tree.valuesOf setting.name fields).head?).map fun tree => (setting, tree) := by
    refine List.filterMap_congr fun setting hsetting => ?_
    rw [hlookup setting.name (List.mem_map_of_mem hsetting)]
  rw [hsame]
  exact h.mapM_decode? Setting.all

end Choice

end JobScheduling
