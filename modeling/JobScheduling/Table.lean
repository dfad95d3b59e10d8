/-!
# Tables

A `Table α` holds values under distinct text keys, in the order in which the keys were
first inserted. Replacing a value keeps its place. The order is visible in `keys`, so an
operation that visits the rows one by one can take the order of the visit as an argument.

Each operation has one equation through `find?`, and one through `keys` where the order
matters. Those that are counted over have one through `values`.
-/

set_option autoImplicit false

namespace JobScheduling

/-- Values under distinct keys, oldest key first. -/
structure Table (α : Type) where
  rows : List (String × α) := []
  distinct : (rows.map Prod.fst).Nodup := by simp

namespace Table

variable {α : Type}

instance : Inhabited (Table α) := ⟨{}⟩

/-- The keys, oldest first. -/
def keys (t : Table α) : List String := t.rows.map Prod.fst

/-- The values, in the order of their keys. -/
def values (t : Table α) : List α := t.rows.map Prod.snd

/-- The number of rows. -/
def size (t : Table α) : Nat := t.rows.length

/-- The value under a key. -/
def find? (t : Table α) (key : String) : Option α := t.rows.lookup key

/-- Whether the key has a value. -/
def contains (t : Table α) (key : String) : Bool := (t.find? key).isSome

/-- Every value replaced by its image. The keys and their order stay. -/
def mapRows (t : Table α) (f : String → α → α) : Table α where
  rows := t.rows.map fun row => (row.1, f row.1 row.2)
  distinct := by
    simpa only [List.map_map, Function.comp_def] using t.distinct

/-- The rows that satisfy a test. -/
def filter (t : Table α) (keep : String → α → Bool) : Table α where
  rows := t.rows.filter fun row => keep row.1 row.2
  distinct := t.distinct.sublist (List.filter_sublist.map _)

/-- The table without a key. -/
def erase (t : Table α) (key : String) : Table α := t.filter fun k _ => k != key

/-- The value under one key replaced by its image; nothing when the key has none. -/
def modify (t : Table α) (key : String) (f : α → α) : Table α :=
  t.mapRows fun k a => if k = key then f a else a

/-! ## Rows and keys -/

/-- A key is found if and only if it is in one of the rows. -/
theorem lookup_isSome_iff (rows : List (String × α)) (key : String) :
    (rows.lookup key).isSome ↔ key ∈ rows.map Prod.fst := by
  induction rows with
  | nil => simp
  | cons row rows ih =>
    obtain ⟨k, a⟩ := row
    by_cases h : key = k
    · simp [h]
    · simp [List.lookup_cons, beq_eq_false_iff_ne.2 h, ih, h]

/-- The keys of a table are those it contains. -/
theorem contains_iff (t : Table α) (key : String) : t.contains key = true ↔ key ∈ t.keys :=
  lookup_isSome_iff t.rows key

/-- What is found is found under one of the keys. -/
theorem mem_keys_of_find? {t : Table α} {key : String} {a : α} (h : t.find? key = some a) :
    key ∈ t.keys := by
  rw [← contains_iff, contains, h]
  rfl

/-- A table contains what is found in it. -/
theorem contains_of_find? {t : Table α} {key : String} {a : α} (h : t.find? key = some a) :
    t.contains key = true := by
  rw [contains, h]
  rfl

/-- A table does not contain what is not found in it. -/
theorem contains_eq_false {t : Table α} {key : String} (h : t.find? key = none) :
    t.contains key = false := by
  rw [contains, h]
  rfl

/-- Where keys are distinct, the value under a key is the one in its row. -/
theorem lookup_eq_some_iff {rows : List (String × α)} (h : (rows.map Prod.fst).Nodup)
    (key : String) (a : α) : rows.lookup key = some a ↔ (key, a) ∈ rows := by
  induction rows with
  | nil => simp
  | cons row rows ih =>
    obtain ⟨k, b⟩ := row
    rw [List.map_cons, List.nodup_cons] at h
    by_cases hk : key = k
    · subst hk
      have hno : (key, a) ∉ rows := fun hm => h.1 (List.mem_map.2 ⟨_, hm, rfl⟩)
      simp [hno, eq_comm]
    · simp [List.lookup_cons, beq_eq_false_iff_ne.2 hk, ih h.2, hk]

/-- The rows of a table are what can be found in it, as no key is in two of them. -/
theorem find?_eq_some_iff (t : Table α) (key : String) (a : α) :
    t.find? key = some a ↔ (key, a) ∈ t.rows := lookup_eq_some_iff t.distinct key a

/-- The table with `a` under `key`: in the place of the old value, or last. -/
def insert (t : Table α) (key : String) (a : α) : Table α :=
  if h : t.contains key then t.modify key fun _ => a
  else
    { rows := t.rows ++ [(key, a)]
      distinct := by
        rw [contains_iff] at h
        simp only [List.map_append, List.map_cons, List.map_nil]
        refine List.nodup_append.2 ⟨t.distinct, by simp, ?_⟩
        rintro x hx y hy rfl
        exact h (List.mem_singleton.1 hy ▸ hx) }

/-! ## The operations through `find?` -/

/-- A map over the rows changes what is found and not where. -/
theorem find?_mapRows (t : Table α) (f : String → α → α) (key : String) :
    (t.mapRows f).find? key = (t.find? key).map (f key) := by
  have go (rows : List (String × α)) :
      (rows.map fun row => (row.1, f row.1 row.2)).lookup key = (rows.lookup key).map (f key) := by
    induction rows with
    | nil => rfl
    | cons row rows ih =>
      obtain ⟨k, a⟩ := row
      by_cases h : key = k
      · simp [h]
      · simp [List.lookup_cons, beq_eq_false_iff_ne.2 h, ih]
  exact go t.rows

/-- Only the row of the key changes. -/
theorem find?_modify (t : Table α) (key : String) (f : α → α) (k : String) :
    (t.modify key f).find? k = if k = key then (t.find? k).map f else t.find? k := by
  rw [modify, find?_mapRows]
  by_cases h : k = key <;> cases t.find? k <;> simp [h]

/-- A row that is found is still found if it passes the test. -/
theorem find?_filter (t : Table α) (keep : String → α → Bool) (key : String) :
    (t.filter keep).find? key = (t.find? key).filter (keep key) := by
  refine Option.ext fun a => ?_
  rw [find?_eq_some_iff, Option.filter_eq_some_iff, find?_eq_some_iff]
  simp [filter]

/-- Only the row of the key goes. -/
theorem find?_erase (t : Table α) (key k : String) :
    (t.erase key).find? k = if k = key then none else t.find? k := by
  rw [erase, find?_filter]
  by_cases h : k = key <;> cases t.find? k <;> simp [h]

/-- An insertion replaces the row of the key, or adds one. -/
theorem find?_insert (t : Table α) (key : String) (a : α) (k : String) :
    (t.insert key a).find? k = if k = key then some a else t.find? k := by
  simp only [insert]
  split
  next hin =>
    rw [find?_modify]
    by_cases hk : k = key
    · subst hk
      obtain ⟨b, hb⟩ := Option.isSome_iff_exists.1 hin
      simp [hb]
    · simp [hk]
  next hout =>
    -- The key is new: the row comes last, behind rows of other keys.
    have hnone : t.rows.lookup key = none :=
      Option.not_isSome_iff_eq_none.1 fun hsome => hout hsome
    show (t.rows ++ [(key, a)]).lookup k = _
    rw [List.lookup_append]
    by_cases hk : k = key
    · subst hk
      simp [hnone]
    · simp [List.lookup_cons, beq_eq_false_iff_ne.2 hk, hk, find?]

/-! ## The operations through `keys` -/

/-- A map over the rows keeps the keys and their order. -/
theorem keys_mapRows (t : Table α) (f : String → α → α) : (t.mapRows f).keys = t.keys := by
  simp [keys, mapRows]

/-- A change of one row keeps the keys and their order. -/
theorem keys_modify (t : Table α) (key : String) (f : α → α) : (t.modify key f).keys = t.keys :=
  keys_mapRows t _

/-- A new key comes last, and a known one stays where it is. -/
theorem keys_insert (t : Table α) (key : String) (a : α) :
    (t.insert key a).keys = if key ∈ t.keys then t.keys else t.keys ++ [key] := by
  have hiff := t.contains_iff key
  simp only [insert]
  split
  next hin => rw [keys_modify, if_pos (hiff.1 hin)]
  next hout =>
    rw [if_neg fun hmem => hout (hiff.2 hmem)]
    simp [keys]

/-! ## The operations through `values` -/

/-- The values around the one under a key, and what a change under the key makes of them. -/
theorem exists_perm_modify {t : Table α} {key : String} {a : α}
    (h : t.find? key = some a) (f : α → α) :
    ∃ rest, t.values.Perm (a :: rest) ∧ (t.modify key f).values.Perm (f a :: rest) := by
  obtain ⟨before, after, hrows⟩ := List.append_of_mem ((t.find?_eq_some_iff key a).1 h)
  have hdistinct := t.distinct
  rw [hrows, List.map_append, List.map_cons] at hdistinct
  -- No other row has the key, so the change reaches none of them.
  have hother : ∀ row ∈ before ++ after, row.1 ≠ key := by
    intro row hrow hkey
    have hnodup := List.perm_middle.nodup_iff.1 hdistinct
    rw [List.nodup_cons, ← List.map_append] at hnodup
    exact hnodup.1 (List.mem_map.2 ⟨row, hrow, hkey⟩)
  have hsame (rows : List (String × α)) (hrows : ∀ row ∈ rows, row.1 ≠ key) :
      rows.map (fun row => if row.1 = key then f row.2 else row.2) = rows.map Prod.snd :=
    List.map_congr_left fun row hrow => if_neg (hrows row hrow)
  refine ⟨(before ++ after).map Prod.snd, ?_, ?_⟩
  · rw [values, hrows, List.map_append, List.map_cons, List.map_append]
    exact List.perm_middle
  · have hvalues : (t.modify key f).values
        = t.rows.map fun row => if row.1 = key then f row.2 else row.2 := by
      simp [values, modify, mapRows]
    rw [hvalues, hrows, List.map_append, List.map_cons, if_pos rfl,
      hsame before fun row hrow => hother row (List.mem_append_left _ hrow),
      hsame after fun row hrow => hother row (List.mem_append_right _ hrow), List.map_append]
    exact List.perm_middle

/-- A change of the value under a key depends on that value only. -/
theorem modify_congr {t : Table α} {key : String} {a : α}
    (h : t.find? key = some a) (f : α → α) : t.modify key f = t.modify key fun _ => f a := by
  simp only [modify, mapRows, Table.mk.injEq]
  refine List.map_congr_left fun row hrow => ?_
  by_cases hkey : row.1 = key
  · have hvalue := (t.find?_eq_some_iff row.1 row.2).2 hrow
    rw [hkey, h] at hvalue
    rw [if_pos hkey, if_pos hkey, Option.some.inj hvalue]
  · rw [if_neg hkey, if_neg hkey]

/-- A change that leaves the value under its key as it is. -/
theorem modify_eq_self {t : Table α} {key : String} {a : α} (h : t.find? key = some a)
    {f : α → α} (hf : f a = a) : t.modify key f = t := by
  have hid : t.modify key id = t.modify key fun _ => a := modify_congr h id
  rw [modify_congr h, hf, ← hid]
  simp [modify, mapRows]

/-- A value under a new key comes last. -/
theorem values_insert {t : Table α} {key : String} (h : t.find? key = none)
    (a : α) : (t.insert key a).values = t.values ++ [a] := by
  have hout : ¬ t.contains key = true := by simp [contains, h]
  simp [insert, hout, values]

/-- There are as many values as rows. -/
theorem length_values (t : Table α) : t.values.length = t.size := List.length_map ..

/-- What is found is one of the values. -/
theorem mem_values_of_find? {t : Table α} {key : String} {a : α} (h : t.find? key = some a) :
    a ∈ t.values :=
  List.mem_map.2 ⟨(key, a), (t.find?_eq_some_iff key a).1 h, rfl⟩

/-! ## How many rows the operations leave -/

/-- An erasure adds no row. -/
theorem size_erase_le (t : Table α) (key : String) : (t.erase key).size ≤ t.size :=
  List.length_filter_le ..

/-- At most one row is new. -/
theorem size_insert_le (t : Table α) (key : String) (a : α) :
    (t.insert key a).size ≤ t.size + 1 := by
  simp only [insert]
  split
  · rw [size, modify, mapRows, List.length_map]
    exact Nat.le_succ _
  · rw [size, List.length_append, List.length_singleton]
    exact Nat.le_refl _

end Table

end JobScheduling
