import JobScheduling.Proofs.Pool.Tickets

/-!
# `JobScheduling.Proofs.Pool.Rest`: pools whose workers rest

`Pool.AtRest` says that no action of the workers is left to do. `Pool.settle` gives them as many
actions as `Pool.toDo` counts. Each action makes this count smaller (`toDo_lt_of_action`), so the
workers rest afterwards (`atRest_settle`), and workers that rest do nothing
(`settle_of_atRest`).
-/

set_option autoImplicit false

namespace JobScheduling

/-- What is left is one item less. -/
theorem Backlog.size_of_pop? {χ α : Type} {b rest : Backlog χ α} {item : Backlog.Item χ α}
    (h : b.pop? = some (item, rest)) : rest.size + 1 = b.size := by
  rw [← length_items, ← length_items, items_of_pop? h, List.length_cons]

namespace Pool

variable {σ : Type} {hook : Hook σ}

/-- The workers have nothing left to do: none holds a job that was cancelled, and when one is
free the backlog is empty. -/
def AtRest (p : Pool) : Prop :=
  p.strayWorker? = none ∧ (p.hasFreeWorker = true → p.backlog.pop? = none)

/-- The workers rest when none of them can act. -/
theorem act?_eq_none_iff {p : Pool} {s : σ} : p.act? hook s = none ↔ p.AtRest := by
  simp only [act?, AtRest]
  cases p.strayWorker? with
  | some ticket => simp
  | none => cases p.hasFreeWorker <;> simp

/-- A pool that has just started is at rest. -/
theorem atRest_of_new {settings : PoolSettings} {work : Job → Work} {priority : Priority}
    {p : Pool} (h : Pool.new settings work priority = .ok p) : p.AtRest := by
  unfold Pool.new at h
  split at h <;> cases h
  exact ⟨rfl, fun _ => rfl⟩

/-- An item of the backlog weighs more than the worker that it occupies. -/
theorem toDo_perform_le (slot : Slot) (p : Pool) : (p.perform slot).toDo ≤ p.toDo + 1 := by
  have hoccupied : (p.occupied slot.ticket).toDo = p.toDo + 1 := by
    simp only [toDo, occupied, List.length_append, List.length_singleton]
    omega
  rw [perform_eq]
  split
  · exact Nat.le_of_eq hoccupied
  · refine Nat.le_trans ?_ (Nat.le_of_eq hoccupied)
    exact Nat.add_le_add_left (List.length_erase_le ..) _

/-- Each action of a worker leaves less to do. -/
theorem toDo_lt_of_action {a b : Pool × σ} (h : Action hook a b) : b.1.toDo < a.1.toDo := by
  cases h with
  | @leaves p s n hn hf =>
    have hlength : (p.busy.erase n).length = p.busy.length - 1 := List.length_erase_of_mem hn
    have hpos := List.length_pos_of_mem hn
    simp only [toDo, leave]
    omega
  | @takes p p' s s' item backlog hfree hpop hcarries =>
    have hsize := Backlog.size_of_pop? hpop
    have hpopped : (p.popped backlog).toDo + 2 = p.toDo := by
      simp only [toDo, popped]
      omega
    cases hcarries with
    | purges =>
      -- A purge drops jobs.
      have hpurge : (p.popped backlog).purge.backlog.size ≤ (p.popped backlog).backlog.size :=
        Nat.add_le_add_left (List.length_filter_le ..) _
      have hbusy : (p.popped backlog).purge.busy = (p.popped backlog).busy := rfl
      simp only [toDo] at hpopped hpurge ⊢
      rw [hbusy]
      omega
    | misses | skips | breaks =>
      show (p.popped backlog).toDo < p.toDo
      omega
    | @performs slot =>
      have hperform := toDo_perform_le slot ((p.popped backlog).taken slot.ticket)
      have htaken : ((p.popped backlog).taken slot.ticket).toDo = (p.popped backlog).toDo := rfl
      show (((p.popped backlog).taken slot.ticket).perform slot).toDo < p.toDo
      omega

/-- Every act leaves less to do. -/
theorem toDo_lt_of_act? {p p' : Pool} {s s' : σ} (h : p.act? hook s = some (p', s')) :
    p'.toDo < p.toDo := toDo_lt_of_action (action_of_act? h)

/-- The workers rest when none of them can act. -/
theorem atRest_iff_forall_not_action (hook : Hook σ) {p : Pool} (s : σ) :
    p.AtRest ↔ ∀ b, ¬ Action hook (p, s) b := by
  constructor
  · intro hrest b hact
    cases hact with
    | leaves hn hf => exact List.find?_eq_none.1 hrest.1 _ hn hf
    | takes hfree hpop => exact nomatch (hrest.2 hfree).symm.trans hpop
  · intro hnone
    rw [← @act?_eq_none_iff σ hook p s]
    cases hact : p.act? hook s with
    | none => rfl
    | some next => exact absurd (action_of_act? hact) (hnone next)

/-- After as many actions as there are to do the workers rest. -/
theorem atRest_settle (hook : Hook σ) (p : Pool) (s : σ) : (p.settle hook s).1.AtRest := by
  have hacts (n : Nat) (p : Pool) (s : σ) (h : p.toDo ≤ n) : (acts hook n p s).1.AtRest := by
    induction n generalizing p s with
    | zero =>
      cases hact : p.act? hook s with
      | none => exact act?_eq_none_iff.1 hact
      | some next =>
        have hless := toDo_lt_of_act? hact
        omega
    | succ n ih =>
      simp only [acts]
      cases hact : p.act? hook s with
      | none => exact act?_eq_none_iff.1 hact
      | some next =>
        have hless := toDo_lt_of_act? hact
        exact ih next.1 next.2 (by omega)
  exact hacts p.toDo p s (Nat.le_refl _)

/-- Workers that rest do nothing. -/
theorem settle_of_atRest (hook : Hook σ) {p : Pool} (h : p.AtRest) (s : σ) :
    p.settle hook s = (p, s) := by
  simp only [settle]
  cases p.toDo with
  | zero => rfl
  | succ n =>
    simp only [acts]
    rw [act?_eq_none_iff.2 h]

/-- More actions than there are to do change nothing. -/
theorem acts_congr {n m : Nat} {p : Pool} {s : σ} (hn : p.toDo ≤ n) (hm : p.toDo ≤ m) :
    acts hook n p s = acts hook m p s := by
  induction n generalizing m p s with
  | zero =>
    -- Nothing is left to do, and every act would leave less.
    have hrest : p.AtRest := by
      rw [← @act?_eq_none_iff σ hook p s, Option.eq_none_iff_forall_ne_some]
      rintro next hact
      have hless := toDo_lt_of_act? hact
      omega
    cases m with
    | zero => rfl
    | succ m => simp only [acts, act?_eq_none_iff.2 hrest]
  | succ n ih =>
    cases hact : p.act? hook s with
    | none => cases m <;> simp only [acts, hact]
    | some next =>
      -- Both bounds are positive here, and both act alike.
      have hless := toDo_lt_of_act? hact
      obtain ⟨k, rfl⟩ : ∃ k, m = k + 1 := ⟨m - 1, by omega⟩
      simp only [acts, hact]
      exact ih (by omega) (by omega)

/-- One action more or less before the workers rest. -/
theorem settle_of_act? {p p' : Pool} {s s' : σ} (h : p.act? hook s = some (p', s')) :
    p.settle hook s = p'.settle hook s' := by
  have hless := toDo_lt_of_act? h
  obtain ⟨n, hn⟩ : ∃ n, p.toDo = n + 1 := ⟨p.toDo - 1, by omega⟩
  simp only [settle, hn, acts, h]
  exact acts_congr (by omega) (Nat.le_refl _)

end Pool

end JobScheduling
