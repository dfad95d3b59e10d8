import JobScheduling.Settings.Basic

/-!
# `JobScheduling.Proofs.Settings.Choice`: values for some of the settings

A `Choice` gives values to some of the settings. Where settings are read from, the choice is
written in some form, and what is read is a list of assignments (`Choice.assignments`). Assigned to
any settings, they change those that the choice is about, and leave the others
(`assignment_assignAll`).
-/

set_option autoImplicit false

namespace JobScheduling

/-- Values for some of the settings, within the range. -/
structure Choice where
  number : NumberSetting → Option Nat
  switch : SwitchSetting → Option Bool
  le_maxWord : ∀ setting value, number setting = some value → value ≤ maxWord

namespace Choice

variable (choice : Choice)

/-- The value of a setting, if the choice gives it one. -/
def value? : Setting → Option Assignment
  | .number setting => (choice.number setting).map (.number setting)
  | .switch setting => (choice.switch setting).map (.switch setting)

/-- The values of a choice, in the order of the settings. -/
def assignments : List Assignment := Setting.all.filterMap choice.value?

variable {choice}

/-- A value is for its setting. -/
theorem setting_of_value? {setting : Setting} {a : Assignment}
    (h : choice.value? setting = some a) : a.setting = setting := by
  cases setting with
  | number setting =>
    obtain ⟨value, -, rfl⟩ := Option.map_eq_some_iff.1 h
    rfl
  | switch setting =>
    obtain ⟨value, -, rfl⟩ := Option.map_eq_some_iff.1 h
    rfl

end Choice

namespace Settings

/-- An assignment changes its setting and no other one. -/
theorem assignment_assign (s : Settings) (a : Assignment) (setting : Setting) :
    (s.assign a).assignment setting = if a.setting = setting then a else s.assignment setting := by
  cases a with
  | number changed value => cases changed <;> rcases setting with t | t <;> cases t <;> rfl
  | switch changed value => cases changed <;> rcases setting with t | t <;> cases t <;> rfl

/-- The values of a choice for some of the settings, after they were assigned. -/
theorem assignment_assignAll_filterMap (choice : Choice) (settings : List Setting) (s : Settings)
    (setting : Setting) :
    (s.assignAll (settings.filterMap choice.value?)).assignment setting
      = if setting ∈ settings then (choice.value? setting).getD (s.assignment setting)
        else s.assignment setting := by
  induction settings generalizing s with
  | nil => rfl
  | cons first rest ih =>
    rw [List.filterMap_cons]
    by_cases hsame : setting = first
    · subst hsame
      rw [if_pos List.mem_cons_self]
      cases hvalue : choice.value? setting with
      | none =>
        rw [ih, hvalue]
        -- It is not given here, so it does not matter whether it occurs again in the rest.
        exact ite_self _
      | some a =>
        show ((s.assign a).assignAll (rest.filterMap choice.value?)).assignment setting = a
        -- Later occurrences give the same value once more.
        rw [ih, assignment_assign, if_pos (Choice.setting_of_value? hvalue), hvalue]
        exact ite_self _
    · have hmem : setting ∈ first :: rest ↔ setting ∈ rest := by simp [hsame]
      simp only [hmem]
      cases hvalue : choice.value? first with
      | none => exact ih s
      | some a =>
        have hother : a.setting ≠ setting := by
          rw [Choice.setting_of_value? hvalue]
          exact Ne.symm hsame
        show ((s.assign a).assignAll (rest.filterMap choice.value?)).assignment setting = _
        rw [ih, assignment_assign, if_neg hother]

/-- Settings after a choice was assigned to them: its values, and otherwise the former ones. -/
theorem assignment_assignAll (choice : Choice) (s : Settings) (setting : Setting) :
    (s.assignAll choice.assignments).assignment setting
      = (choice.value? setting).getD (s.assignment setting) := by
  rw [Choice.assignments, assignment_assignAll_filterMap, if_pos (Setting.mem_all setting)]

end Settings

end JobScheduling
