import JobScheduling.Proofs.Backlog.Refinement

/-!
# `JobScheduling.Proofs.Backlog.Purge`: what is taken after a purge

A purge drops the jobs that satisfy a test and leaves what is left in its order. So what is taken
after it, when everything is taken, is what would have been taken without it, with the dropped jobs
left out, and the purge counts these (`Omits`). That holds of a backlog, and of a heap of numbered
items after any requests (`omits_purge`).
-/

set_option autoImplicit false

namespace JobScheduling

namespace Backlog

variable {χ α ρ : Type}

/-- Takes up to `n` items. -/
def pops : Nat → Backlog χ α → List (Item χ α)
  | 0, _ => []
  | n + 1, b =>
    match b.pop? with
    | none => []
    | some (item, b) => item :: pops n b

/-- What is taken comes from the front of the list of all items. -/
theorem pops_eq (n : Nat) (b : Backlog χ α) : b.pops n = b.items.take n := by
  induction n generalizing b with
  | zero => rfl
  | succ n ih =>
    simp only [pops]
    cases hpop : b.pop? with
    | none => rw [(pop?_eq_none_iff b).1 hpop, List.take_nil]
    | some taken =>
      rw [items_of_pop? hpop, List.take_succ_cons, ← ih]

/-- With enough pops everything is taken. -/
theorem pops_of_size_le {n : Nat} {b : Backlog χ α} (h : b.size ≤ n) : b.pops n = b.items := by
  rw [pops_eq, List.take_of_length_le (by rwa [length_items])]

/-- A purge leaves no more than there was. -/
theorem size_purge_le (gone : α → Bool) (b : Backlog χ α) : (b.purge gone).size ≤ b.size := by
  rw [← length_items, ← length_items, items_purge]
  exact List.length_filter_le ..

section
variable {order : α → α → Ordering} [Std.TransCmp order] {H : Heap (Entry χ α) ρ (heapOrder order)}
  {r : Reference χ α} {q : Queue ρ}

/-- When everything is taken, it comes in the order of the reference. -/
theorem Holds.pops_of_size_le (h : Holds H r q) (hnumbered : r.Numbered) {n : Nat}
    (hn : q.size H ≤ n) : q.pops H n = (listed order r.pending).map Entry.item := by
  rw [h.size_eq, ← listed_perm.length_eq, ← List.length_map Entry.item] at hn
  rw [h.pops_eq hnumbered, List.take_of_length_le hn]

/-- What is taken after a purge is what is taken without it, the dropped jobs left out. -/
theorem Holds.pops_purge (h : Holds H r q) (hnumbered : r.Numbered) (gone : α → Bool) {n : Nat}
    (hn : q.size H ≤ n) :
    (q.purge H gone).pops H n = (q.pops H n).filter fun item => !item.isGone gone := by
  have hpurge := h.purge gone
  have hless : (q.purge H gone).size H ≤ n := by
    rw [h.size_eq] at hn
    rw [hpurge.size_eq]
    exact (List.length_filter_le ..).trans hn
  rw [h.pops_of_size_le hnumbered hn,
    hpurge.pops_of_size_le (hnumbered.sublist List.filter_sublist) hless,
    listed_filter hnumbered.increasing, List.filter_map]
  rfl

/-- The purge counts the jobs that are left out. -/
theorem Holds.purgeCount_eq_length (h : Holds H r q) (hnumbered : r.Numbered) (gone : α → Bool)
    {n : Nat} (hn : q.size H ≤ n) :
    q.purgeCount H gone = ((q.pops H n).filter (·.isGone gone)).length := by
  rw [h.purgeCount_eq, h.pops_of_size_le hnumbered hn, ← List.countP_eq_length_filter,
    List.countP_map, listed_perm.countP_eq]
  rfl

end

/-- What a purge does to what is taken after it, when everything is taken. -/
structure Omits (order : α → α → Ordering) (H : Heap (Entry χ α) ρ (heapOrder order))
    (requests : List (Request χ α)) (gone : α → Bool) : Prop where
  /-- The jobs that the purge drops are left out. -/
  pops : ∀ n, (after order requests).size ≤ n →
    ((after order requests).purge gone).pops n
      = ((after order requests).pops n).filter fun item => !item.isGone gone
  /-- The purge counts them. -/
  count : ∀ n, (after order requests).size ≤ n →
    (after order requests).purgeCount gone
      = (((after order requests).pops n).filter (·.isGone gone)).length
  popsOfHeap : ∀ n, (Queue.after H requests).size H ≤ n →
    ((Queue.after H requests).purge H gone).pops H n
      = ((Queue.after H requests).pops H n).filter fun item => !item.isGone gone
  countOfHeap : ∀ n, (Queue.after H requests).size H ≤ n →
    (Queue.after H requests).purgeCount H gone
      = (((Queue.after H requests).pops H n).filter (·.isGone gone)).length

/-- Backlog and heap leave out the same after a purge. -/
theorem omits_purge (order : α → α → Ordering) [Std.TransCmp order]
    (H : Heap (Entry χ α) ρ (heapOrder order)) (requests : List (Request χ α)) (gone : α → Bool) :
    Omits order H requests gone := by
  have hnumbered := (represents_after order requests).2.numbered
  have hholds := (holds_after (H := H) requests).2
  exact {
    pops := fun n hn => by
      rw [pops_of_size_le hn, pops_of_size_le ((size_purge_le gone _).trans hn), items_purge]
    count := fun n hn => by
      rw [pops_of_size_le hn, purgeCount_eq, List.countP_eq_length_filter]
    popsOfHeap := fun n hn => hholds.pops_purge hnumbered gone hn
    countOfHeap := fun n hn => hholds.purgeCount_eq_length hnumbered gone hn }

end Backlog

end JobScheduling
