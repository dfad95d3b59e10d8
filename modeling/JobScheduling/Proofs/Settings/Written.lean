import JobScheduling.Proofs.Settings.Loaders

/-!
# `JobScheduling.Proofs.Settings.Written`: settings that are read back

The document of settings holds a choice that is about all of them (`Settings.choice`), so what is
read of it are the settings, whatever the defaults are (`Settings.ofDocument_write`).
-/

set_option autoImplicit false

namespace JobScheduling

namespace Settings

/-- The numbers among the settings are words. -/
def InRange (s : Settings) : Prop :=
  ∀ setting value, s.assignment (.number setting) = .number setting value → value ≤ maxWord

/-- The choice of all the settings. -/
def choice (s : Settings) (h : s.InRange) : Choice where
  number setting :=
    match s.assignment (.number setting) with
    | .number _ value => some value
    | .switch _ _ => none
  switch setting :=
    match s.assignment (.switch setting) with
    | .number _ _ => none
    | .switch _ value => some value
  le_maxWord := by
    intro setting value hvalue
    exact h setting value (congrArg (Assignment.number setting) (Option.some.inj hvalue))

/-- The choice of all settings makes every assignment. -/
theorem value?_choice {s : Settings} (h : s.InRange) (setting : Setting) :
    (s.choice h).value? setting = some (s.assignment setting) := by
  cases setting <;> rfl

/-- Settings with the same values are the same. -/
theorem eq_of_assignment {s t : Settings}
    (h : ∀ setting, s.assignment setting = t.assignment setting) : s = t := by
  -- The values of all settings, in their order, are the fields of the structure.
  have hall : Setting.all.map s.assignment = Setting.all.map t.assignment :=
    List.map_congr_left fun setting _ => h setting
  cases s
  cases t
  simpa [Setting.all, assignment] using hall

/-- A value is written in the way in which it is read. -/
theorem encodedAs_tree (a : Assignment) : a.EncodedAs a.encode.tree := by
  cases a with
  | number setting value =>
    refine ⟨Numeral.digitsOf value, ?_, Numeral.ofDigits_digitsOf value⟩
    have hsign : ¬ (value : Int) < 0 := by omega
    simp [Assignment.encode, Json.ofNat, Json.tree, Number.numeral, hsign]
  | switch setting value => rfl

/-- The document of settings holds all of them. -/
theorem heldBy_choice {s : Settings} (h : s.InRange) :
    (s.choice h).HeldBy (Json.fieldTrees
      (Setting.all.map fun setting => (setting.name, (s.assignment setting).encode))) where
  text := fun _ => Tree.isSome_text?_of_mem_fieldTrees
  given := by
    intro setting a ha
    obtain rfl : s.assignment setting = a :=
      Option.some.inj ((value?_choice h setting).symm.trans ha)
    refine ⟨_, Tree.valuesOf_fieldTrees ?_ (List.mem_map_of_mem (Setting.mem_all setting)),
      encodedAs_tree _⟩
    rw [List.map_map]
    exact Setting.names_nodup
  absent := by
    intro setting hnone
    rw [value?_choice] at hnone
    cases hnone

/-- Settings without a fault are read back from their document. -/
theorem ofDocument_write (cores : Nat) {s : Settings} (hrange : s.InRange)
    (hfault : s.fault? = none) : ofDocument cores s.encode.write = .ok s := by
  have hsame : (standard cores).assignAll (s.choice hrange).assignments = s := by
    refine eq_of_assignment fun setting => ?_
    rw [assignment_assignAll, value?_choice, Option.getD_some]
  rw [ofDocument_of_heldBy (Tree.parse?_write s.encode) (heldBy_choice hrange), hsame, checked,
    hfault]
  rfl

end Settings

end JobScheduling
