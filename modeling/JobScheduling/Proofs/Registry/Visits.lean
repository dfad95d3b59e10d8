import JobScheduling.Proofs.Registry.Lookup

/-!
# `JobScheduling.Proofs.Registry.Visits`: updates that stop at a refusal

A claim and a sweep choose some of the records and then update them one after the other. An update
can be refused: there can be no record under the id, or its stage does not allow the change.
`Registry.updateEach` is such a row of updates that ends with the first refusal, and otherwise
lists what the records have become.

No refusal comes when the ids are distinct and each of them has a record that allows the change
(`updateEach_eq_ok`). Then the row of updates does what the fold over the ids does that pays no
attention to refusals.
-/

set_option autoImplicit false

namespace JobScheduling

namespace Registry

/-- Updates the records under some ids one after the other. The first refusal ends it. -/
def updateEach (now : Nat) (f : Record → Except Error Record) :
    List String → Registry → Except Error (List Record) × Registry
  | [], q => (.ok [], q)
  | id :: ids, q =>
    match q.update now id f with
    | (.error e, q) => (.error e, q)
    | (.ok (), q) =>
      -- The record is read at once, before the others are updated.
      let updated := (q.records.find? id).toList
      let (rest, q) := updateEach now f ids q
      (rest.map (updated ++ ·), q)

/-- An update that the record allows is not refused. -/
theorem update_eq_ok {now : Nat} {id : String} {f : Record → Except Error Record} {q : Registry}
    {r r' : Record} (hr : q.records.find? id = some r) (hf : f r = .ok r') :
    (q.update now id f).1 = .ok () ∧ (q.update now id f).2.records.find? id = some r' := by
  constructor
  · simp only [update, hr, hf]
  · rw [find?_update, if_pos rfl, hr, Option.map_some, hf]
    rfl

/-- Where every record allows the change, no update is refused. -/
theorem updateEach_eq_ok (now : Nat) {f : Record → Except Error Record} {g : Record → Record}
    {ids : List String} (hnodup : ids.Nodup) {q : Registry}
    (hf : ∀ id ∈ ids, ∃ r, q.records.find? id = some r ∧ f r = .ok (g r)) :
    updateEach now f ids q
      = (.ok (ids.filterMap fun id => (q.records.find? id).map g),
        ids.foldl (fun q id => (q.update now id f).2) q) := by
  induction ids generalizing q with
  | nil => rfl
  | cons id ids ih =>
    obtain ⟨hid, hids⟩ := List.nodup_cons.1 hnodup
    obtain ⟨r, hr, hfr⟩ := hf id List.mem_cons_self
    obtain ⟨hok, hafter⟩ : (q.update now id f).1 = .ok () ∧
        (q.update now id f).2.records.find? id = some (g r) := update_eq_ok hr hfr
    -- The other ids are different from this one, so their records are as before.
    have hother : ∀ id' ∈ ids,
        (q.update now id f).2.records.find? id' = q.records.find? id' := by
      intro id' hid'
      rw [find?_update, if_neg]
      rintro rfl
      exact hid hid'
    have hrest := ih hids (q := (q.update now id f).2) fun id' hid' => by
      rw [hother id' hid']
      exact hf id' (List.mem_cons_of_mem _ hid')
    have hlist : (ids.filterMap fun id' => ((q.update now id f).2.records.find? id').map g)
        = ids.filterMap fun id' => (q.records.find? id').map g :=
      List.filterMap_congr fun id' hid' => by rw [hother id' hid']
    rw [updateEach, show q.update now id f = (.ok (), (q.update now id f).2) from
      Prod.ext hok rfl]
    simp only [hrest, hlist, hafter, List.filterMap_cons, hr, Option.map_some, List.foldl_cons]
    rfl

end Registry

end JobScheduling
