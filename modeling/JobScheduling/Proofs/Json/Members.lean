import JobScheduling.Json.Members
import JobScheduling.Proofs.Json.Written

/-!
# `JobScheduling.Proofs.Json.Members`: members and the fields they come from

When all keys of a record are texts and no known name comes twice, each known name leads to its
field (`Tree.known?_of_once`). So a member of a written record is the tree of its field
(`Tree.exists_members?`), and is read back if its value is (`Tree.required_of_lookup`,
`Tree.optional_of_lookup`).
-/

set_option autoImplicit false

namespace JobScheduling

namespace Tree

/-! ### Fields of a name -/

/-- What the fields of a name hold, in their order. -/
def valuesOf (name : String) (fields : List (List Piece × Tree)) : List Tree :=
  fields.filterMap fun field => if Piece.text? field.1 = some name then some field.2 else none

/-- When all keys are texts and no known name comes twice, each known name leads to its field. -/
theorem known?_of_once {names : List String} {fields : List (List Piece × Tree)}
    (htext : ∀ field ∈ fields, (Piece.text? field.1).isSome = true)
    (honce : ∀ name ∈ names, (valuesOf name fields).length ≤ 1) :
    ∃ found, known? names fields = some found ∧
      ∀ name ∈ names, found.lookup name = (valuesOf name fields).head? := by
  induction fields with
  | nil => exact ⟨[], rfl, fun _ _ => rfl⟩
  | cons field fields ih =>
    obtain ⟨key, tree⟩ := field
    obtain ⟨known, hknown⟩ := Option.isSome_iff_exists.1 (htext (key, tree) List.mem_cons_self)
    have hvalues (name : String) : valuesOf name ((key, tree) :: fields)
        = if known = name then tree :: valuesOf name fields else valuesOf name fields := by
      simp only [valuesOf, List.filterMap_cons, hknown, Option.some.injEq]
      by_cases hsame : known = name <;> simp [hsame]
    have honce' : ∀ name ∈ names, (valuesOf name fields).length ≤ 1 := by
      intro name hname
      have hle := honce name hname
      rw [hvalues] at hle
      split at hle
      · exact Nat.le_of_succ_le hle
      · exact hle
    obtain ⟨found, hfound, hlookup⟩ :=
      ih (fun f hf => htext f (List.mem_cons_of_mem _ hf)) honce'
    simp only [known?, hknown, hfound, Option.bind_eq_bind, Option.bind_some,
      List.contains_iff_mem]
    split
    next hmem =>
      -- The field is the only one of its name.
      have hnone : valuesOf known fields = [] := by
        have hle := honce known hmem
        rw [hvalues, if_pos rfl, List.length_cons] at hle
        exact List.eq_nil_of_length_eq_zero (by omega)
      have hfree : ¬ (found.lookup known).isSome = true := by
        rw [hlookup known hmem, hnone]
        exact Bool.false_ne_true
      refine ⟨(known, tree) :: found, if_neg hfree, ?_⟩
      intro name hname
      rw [hvalues]
      by_cases hsame : known = name
      · rw [if_pos hsame, ← hsame, List.lookup_cons_self]
        rfl
      · have hdiffer : (name == known) = false := by simpa using Ne.symm hsame
        rw [if_neg hsame, List.lookup_cons, hdiffer]
        exact hlookup name hname
    next hmem =>
      refine ⟨found, rfl, ?_⟩
      intro name hname
      have hother : known ≠ name := by
        rintro rfl
        exact hmem hname
      rw [hvalues, if_neg hother]
      exact hlookup name hname

/-! ### Written fields -/

/-- The first field adds its value if it has the name. -/
theorem valuesOf_fieldTrees_cons (name key : String) (v : Json) (rest : List (String × Json)) :
    valuesOf name (Json.fieldTrees ((key, v) :: rest))
      = (if key = name then [v.tree] else []) ++ valuesOf name (Json.fieldTrees rest) := by
  simp only [valuesOf, Json.fieldTrees, List.filterMap_cons, Piece.text?_ofText, Option.some.injEq]
  by_cases hkey : key = name <;> simp [hkey]

/-- A name that no field has leads nowhere. -/
theorem valuesOf_fieldTrees_eq_nil {name : String} {fields : List (String × Json)}
    (h : name ∉ fields.map Prod.fst) : valuesOf name (Json.fieldTrees fields) = [] := by
  induction fields with
  | nil => rfl
  | cons first rest ih =>
    obtain ⟨hfirst, hrest⟩ := not_or.1 (mt List.mem_cons.2 h)
    rw [valuesOf_fieldTrees_cons, if_neg (Ne.symm hfirst), ih hrest]
    rfl

/-- Of written fields with different names each is the only one of its name. -/
theorem valuesOf_fieldTrees {fields : List (String × Json)} (hnames : (fields.map Prod.fst).Nodup)
    {name : String} {v : Json} (hmem : (name, v) ∈ fields) :
    valuesOf name (Json.fieldTrees fields) = [v.tree] := by
  -- By induction on the fields. The first has the name or it is another field, as no name comes
  -- twice.
  induction fields with
  | nil => cases hmem
  | cons first rest ih =>
    obtain ⟨hfirst, hrest⟩ := List.nodup_cons.1 hnames
    rw [valuesOf_fieldTrees_cons]
    rcases List.mem_cons.1 hmem with rfl | hmem
    · rw [if_pos rfl, valuesOf_fieldTrees_eq_nil hfirst]
      rfl
    · have hother : first.1 ≠ name := fun heq => hfirst (heq ▸ List.mem_map_of_mem hmem)
      rw [if_neg hother, ih hrest hmem]
      rfl

/-- All keys of a written record are texts. -/
theorem isSome_text?_of_mem_fieldTrees {fields : List (String × Json)}
    {field : List Piece × Tree} (h : field ∈ Json.fieldTrees fields) :
    (Piece.text? field.1).isSome = true := by
  rw [Json.fieldTrees_eq_map] at h
  obtain ⟨written, -, rfl⟩ := List.mem_map.1 h
  simp [Piece.text?_ofText]

/-- The members of a written record are found by the names of its fields. -/
theorem exists_members? (partly : Bool) (names : List String) {v : Json}
    {fields : List (String × Json)} (hv : v = .record fields)
    (hnames : fields.map Prod.fst = names) (hnodup : names.Nodup) :
    ∃ found, v.tree.members? partly names = some found ∧
      ∀ name w, (name, w) ∈ fields → found.lookup name = some w.tree := by
  subst hv hnames
  have honce : ∀ name ∈ fields.map Prod.fst,
      (valuesOf name (Json.fieldTrees fields)).length ≤ 1 := by
    intro name hname
    obtain ⟨field, hmem, rfl⟩ := List.mem_map.1 hname
    rw [valuesOf_fieldTrees hnodup hmem, List.length_singleton]
  -- All keys are texts, and no name comes twice.
  obtain ⟨found, hfound, hlookup⟩ := known?_of_once (fun _ => isSome_text?_of_mem_fieldTrees) honce
  refine ⟨found, hfound, fun name w hmem => ?_⟩
  rw [hlookup name (List.mem_map_of_mem hmem), valuesOf_fieldTrees hnodup hmem]
  rfl

/-! ### Members that are read back -/

section

variable {α : Type} {name : String} {read : Tree → Option α} {found : List (String × Tree)}

/-- A member that must be there is read from its field. -/
theorem required_of_lookup {v : Json} {a : α} (hfound : found.lookup name = some v.tree)
    (hread : read v.tree = some a) : required name read found = some a := by
  rw [required, hfound]
  exact hread

/-- An optional member is null in its absence, so its own value may not be written as null. -/
theorem optional_of_lookup {write : α → Json} {a : Option α}
    (hfound : found.lookup name = some (Json.ofOption write a).tree)
    (hread : ∀ b ∈ a, read (write b).tree = some b ∧ (write b).tree ≠ .null) :
    optional name read found = some a := by
  unfold optional
  cases a with
  | none =>
    rw [hfound]
    -- A value that is there is not written as null, so it is not taken for a missing one.
    rfl
  | some b =>
    obtain ⟨hb, hnull⟩ := hread b rfl
    have hsome : found.lookup name = some (write b).tree := hfound
    split
    next hnone => exact absurd (hsome.symm.trans hnone) (Option.some_ne_none _)
    next heq => exact absurd (Option.some.inj (hsome.symm.trans heq)) hnull
    next t _ heq =>
      obtain rfl : (write b).tree = t := Option.some.inj (hsome.symm.trans heq)
      rw [hb, Option.map_some]

/-- A required member was read from some tree. -/
theorem exists_of_required {a : α} (h : required name read found = some a) :
    ∃ t, read t = some a := by
  obtain ⟨t, -, ht⟩ := Option.bind_eq_some_iff.1 h
  exact ⟨t, ht⟩

/-- So was an optional one that is there. -/
theorem exists_of_optional {a : Option α} (h : optional name read found = some a) :
    ∀ b ∈ a, ∃ t, read t = some b := by
  rintro b rfl
  unfold optional at h
  split at h
  · cases h
  · cases h
  · obtain ⟨c, hc, heq⟩ := Option.map_eq_some_iff.1 h
    exact ⟨_, hc.trans heq⟩

end

/-- A text is read back. -/
theorem text?_tree (s : String) : text? (Json.text s).tree = some s := Piece.text?_ofText s

/-- A word is read back as a number. -/
theorem word?_tree {n : Nat} (h : n ≤ maxWord) : word? (Json.ofNat n).tree = some n := by
  have hword : Number.IsWord n := ⟨by omega, by exact_mod_cast h⟩
  simp [word?, Json.ofNat, Json.tree, Numeral.integer?_numeral hword]

/-- No larger number is read. -/
theorem le_of_word? {t : Tree} {n : Nat} (h : word? t = some n) : n ≤ maxWord := by
  unfold word? at h
  split at h
  · obtain ⟨i, hi, hn⟩ := Option.bind_eq_some_iff.1 h
    have hword := (Numeral.isWord_of_integer? hi).2
    split at hn
    · cases hn
      omega
    · cases hn
  · cases h

end Tree

end JobScheduling
