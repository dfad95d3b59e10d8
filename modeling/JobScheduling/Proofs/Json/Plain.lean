import JobScheduling.Proofs.Json.Fields
import JobScheduling.Proofs.Json.Written

/-!
# `JobScheduling.Proofs.Json.Plain`: values without floating point numbers

A value is plain when its numbers are integers of 64 bits. A plain value is what its tree evaluates
to, if it is not nested too deeply (`Json.IsPlain.value?_tree`). What any tree evaluates to is not
nested more deeply than the reader allows, and is plain when it has no floating point number
(`Tree.of_value?`).
-/

set_option autoImplicit false

namespace JobScheduling

/-! ### Lists of optional values -/

/-- A list is read back when each of its elements is. -/
theorem mapM_map_eq_some {α β : Type} {read : β → Option α} {write : α → β} {as : List α}
    (h : ∀ a ∈ as, read (write a) = some a) : (as.map write).mapM read = some as := by
  induction as with
  | nil => rfl
  | cons a as ih =>
    rw [List.map_cons, List.mapM_cons, h a List.mem_cons_self,
      ih fun b hb => h b (List.mem_cons_of_mem _ hb)]
    rfl

/-- Every result comes from an element. -/
theorem exists_of_mem_mapM {α β : Type} {f : α → Option β} {as : List α} {bs : List β}
    (h : as.mapM f = some bs) {b : β} (hb : b ∈ bs) : ∃ a ∈ as, f a = some b := by
  induction as generalizing bs with
  | nil =>
    cases h
    cases hb
  | cons a as ih =>
    simp only [List.mapM_cons, Option.bind_eq_bind, Option.bind_eq_some_iff, Option.pure_def,
      Option.some.injEq] at h
    obtain ⟨first, hfirst, rest, hrest, rfl⟩ := h
    rcases List.mem_cons.1 hb with rfl | hb
    · exact ⟨a, List.mem_cons_self, hfirst⟩
    · obtain ⟨c, hc, heq⟩ := ih hrest hb
      exact ⟨c, List.mem_cons_of_mem _ hc, heq⟩

namespace Json

/-! ### Values -/

mutual

/-- How many levels of lists and records are nested in a value. -/
def depth : Json → Nat
  | .list items => itemDepth items + 1
  | .record fields => fieldDepth fields + 1
  | _ => 0

/-- The depth of the deepest item. -/
def itemDepth : List Json → Nat
  | [] => 0
  | item :: rest => max (depth item) (itemDepth rest)

/-- The depth of the deepest field. -/
def fieldDepth : List (String × Json) → Nat
  | [] => 0
  | (_, value) :: rest => max (depth value) (fieldDepth rest)

end

/-- The items of a list are as deep as the deepest one. -/
theorem itemDepth_le_iff {items : List Json} {n : Nat} :
    itemDepth items ≤ n ↔ ∀ item ∈ items, item.depth ≤ n := by
  induction items with
  | nil => simp [itemDepth]
  | cons item rest ih => simp [itemDepth, ih]

/-- So are the fields of a record. -/
theorem fieldDepth_le_iff {fields : List (String × Json)} {n : Nat} :
    fieldDepth fields ≤ n ↔ ∀ field ∈ fields, field.2.depth ≤ n := by
  induction fields with
  | nil => simp [fieldDepth]
  | cons field rest ih =>
    obtain ⟨key, value⟩ := field
    simp [fieldDepth, ih]

/-- Somewhere in the value is a floating point number. -/
inductive HasReal : Json → Prop
  | real (x : Binary64) : HasReal (.number (.real x))
  | item {items : List Json} {item : Json} (hmem : item ∈ items) (h : HasReal item) :
    HasReal (.list items)
  | field {fields : List (String × Json)} {field : String × Json} (hmem : field ∈ fields)
    (h : HasReal field.2) : HasReal (.record fields)

/-- A value that is made of integers of 64 bits, texts, truth values and nulls by lists and records.
A record is made of fields in any order. -/
inductive IsPlain : Json → Prop
  | null : IsPlain .null
  | bool (b : Bool) : IsPlain (.bool b)
  | integer {i : Int} (h : Number.IsWord i) : IsPlain (.number (.integer i))
  | text (s : String) : IsPlain (.text s)
  | list {items : List Json} (h : ∀ item ∈ items, IsPlain item) : IsPlain (.list items)
  | record {fields : List (String × Json)} (h : ∀ field ∈ fields, IsPlain field.2) :
    IsPlain (ofFields fields)

/-- A record with sorted fields is plain when what they hold is. -/
theorem isPlain_record {fields : List (String × Json)} (hsorted : IsSorted fields)
    (h : ∀ field ∈ fields, IsPlain field.2) : IsPlain (.record fields) := by
  have hkept : sortFields [] fields = fields := sortFields_of_isSorted hsorted
  have hmade := IsPlain.record h
  rwa [ofFields_eq_sortFields, hkept] at hmade

/-- A plain value is what its tree evaluates to. -/
theorem IsPlain.value?_tree {v : Json} (h : v.IsPlain) {n : Nat} (hdepth : v.depth ≤ n) :
    Tree.value? n v.tree = some v := by
  induction h generalizing n with
  | null | bool b => simp [tree, Tree.value?]
  | integer hword => simp [tree, Tree.value?, Numeral.value?, Numeral.integer?_numeral hword]
  | text s => simp [tree, Tree.value?, Piece.text?_ofText]
  | @list items _ ih =>
    cases n with
    | zero => exact absurd hdepth (Nat.not_succ_le_zero _)
    | succ n =>
      have hitems := itemDepth_le_iff.1 (Nat.le_of_succ_le_succ hdepth)
      rw [tree, itemTrees_eq_map, Tree.value?,
        mapM_map_eq_some fun item hitem => ih item hitem (hitems item hitem), Option.map_some]
  | @record fields _ ih =>
    -- The fields are read in the order in which they are kept, and so they are kept again.
    have hkept : sortFields [] (sortFields [] fields) = sortFields [] fields :=
      sortFields_of_isSorted (isSorted_sortFields List.Pairwise.nil fields)
    have hmem : ∀ field ∈ sortFields [] fields, field ∈ fields := fun field hfield =>
      (mem_sortFields hfield).resolve_left List.not_mem_nil
    rw [ofFields_eq_sortFields] at hdepth ⊢
    cases n with
    | zero => exact absurd hdepth (Nat.not_succ_le_zero _)
    | succ n =>
      have hfields := fieldDepth_le_iff.1 (Nat.le_of_succ_le_succ hdepth)
      rw [tree, fieldTrees_eq_map, Tree.value?, mapM_map_eq_some, Option.map_some,
        ofFields_eq_sortFields, hkept]
      intro field hfield
      simp [Piece.text?_ofText, ih field (hmem field hfield) (hfields field hfield)]

end Json

namespace Tree

/-- Every field that is read comes from a field of the tree. -/
theorem exists_of_mem_fields {n : Nat} {fields : List (List Piece × Tree)}
    {found : List (String × Json)}
    (h : (fields.mapM fun (key, tree) => do
      return (← Piece.text? key, ← tree.value? n)) = some found)
    {field : String × Json} (hfield : field ∈ found) : ∃ t, value? n t = some field.2 := by
  obtain ⟨⟨key, t⟩, -, heq⟩ := exists_of_mem_mapM h hfield
  simp only [Option.bind_eq_bind, Option.bind_eq_some_iff, Option.pure_def,
    Option.some.injEq] at heq
  obtain ⟨name, -, value, hvalue, rfl⟩ := heq
  exact ⟨t, hvalue⟩

/-- What a tree evaluates to is not nested more deeply than allowed, and is plain if it has no
floating point number. -/
theorem of_value? {n : Nat} {t : Tree} {v : Json} (h : t.value? n = some v) :
    v.depth ≤ n ∧ (¬ v.HasReal → v.IsPlain) := by
  match n, t with
  | n, .null =>
    obtain rfl : .null = v := by simpa [value?] using h
    exact ⟨Nat.zero_le n, fun _ => .null⟩
  | n, .bool b =>
    obtain rfl : .bool b = v := by simpa [value?] using h
    exact ⟨Nat.zero_le n, fun _ => .bool b⟩
  | n, .number m =>
    simp only [value?, Option.map_eq_some_iff] at h
    obtain ⟨number, hnumber, rfl⟩ := h
    refine ⟨Nat.zero_le n, fun hreal => ?_⟩
    -- Only a numeral that stands for no integer is a floating point number.
    cases hinteger : m.integer? with
    | some i =>
      obtain rfl : .integer i = number := by simpa [Numeral.value?, hinteger] using hnumber
      exact .integer (Numeral.isWord_of_integer? hinteger)
    | none =>
      simp only [Numeral.value?, hinteger, Option.map_eq_some_iff] at hnumber
      obtain ⟨x, -, rfl⟩ := hnumber
      exact absurd (.real x) hreal
  | n, .text pieces =>
    simp only [value?, Option.map_eq_some_iff] at h
    obtain ⟨s, -, rfl⟩ := h
    exact ⟨Nat.zero_le n, fun _ => .text s⟩
  | 0, .list _ => simp [value?] at h
  | 0, .record _ => simp [value?] at h
  | n + 1, .list items =>
    simp only [value?, Option.map_eq_some_iff] at h
    obtain ⟨found, hfound, rfl⟩ := h
    have hitem (item : Json) (hmem : item ∈ found) :
        item.depth ≤ n ∧ (¬ item.HasReal → item.IsPlain) := by
      obtain ⟨t, -, ht⟩ := exists_of_mem_mapM hfound hmem
      exact of_value? ht
    refine ⟨Nat.succ_le_succ (Json.itemDepth_le_iff.2 fun item hmem => (hitem item hmem).1), ?_⟩
    exact fun hreal => .list fun item hmem =>
      (hitem item hmem).2 fun hitem => hreal (.item hmem hitem)
  | n + 1, .record fields =>
    simp only [value?, Option.map_eq_some_iff] at h
    obtain ⟨found, hfound, rfl⟩ := h
    have hfield (field : String × Json) (hmem : field ∈ Json.sortFields [] found) :
        field.2.depth ≤ n ∧ (¬ field.2.HasReal → field.2.IsPlain) := by
      -- A field that is kept is one of those that were read.
      have hread := (Json.mem_sortFields hmem).resolve_left List.not_mem_nil
      obtain ⟨t, ht⟩ := exists_of_mem_fields hfound hread
      exact of_value? ht
    refine ⟨Nat.succ_le_succ (Json.fieldDepth_le_iff.2 fun field hmem => (hfield field hmem).1),
      fun hreal => ?_⟩
    exact Json.isPlain_record (Json.isSorted_sortFields List.Pairwise.nil found)
      fun field hmem => (hfield field hmem).2 fun hfield => hreal (.field hmem hfield)

end Tree

end JobScheduling
