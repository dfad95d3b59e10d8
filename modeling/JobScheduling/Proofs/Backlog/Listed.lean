import JobScheduling.Backlog.Request
import Mathlib.Data.List.Nodup
import Mathlib.Data.List.Perm.Basic

/-!
# `JobScheduling.Proofs.Backlog.Listed`: numbered items in the order in which they are taken

The items that come into a backlog are numbered. Two `Entry`s are told apart by three things in turn
(`Entry.runOrder`): chores come before jobs, jobs are compared by the order that is given, and what
is left is decided by the numbers. For an order that is a total preorder this is a strict total
order, however many jobs it does not tell apart: no two entries of different numbers are equal in
it.

What waits is kept in the order in which it came in, and `listed` is the list in which it is taken:
the chores as they came in, and then the jobs in a stable sort. A list that is sorted by
`Entry.runOrder` is determined by its elements (`eq_listed`). So whatever keeps the same entries in
this order keeps this very list, and each operation on what waits has one equation for `listed`.
-/

set_option autoImplicit false

namespace JobScheduling

namespace Backlog

variable {χ α : Type}

/-- Chores come before jobs. -/
def Item.kind : Item χ α → Nat
  | .chore _ => 0
  | .job _ => 1

/-- The order of two jobs. Nothing else is compared by it. -/
def Item.jobOrder (order : α → α → Ordering) : Item χ α → Item χ α → Ordering
  | .job a, .job b => order a b
  | _, _ => .eq

/-- Which of two items is taken first, if that can be told without their numbers. -/
def Item.order (order : α → α → Ordering) (x y : Item χ α) : Ordering :=
  (compare x.kind y.kind).then (x.jobOrder order y)

/-- An item with its number. -/
structure Entry (χ α : Type) where
  number : Nat
  item : Item χ α

/-- Which of two numbered items is taken first. -/
def Entry.runOrder (order : α → α → Ordering) (x y : Entry χ α) : Ordering :=
  (x.item.order order y.item).then (compare x.number y.number)

/-- One numbered item is taken before another. -/
def Entry.Before (order : α → α → Ordering) (x y : Entry χ α) : Prop := x.runOrder order y = .lt

/-- The entries in the order in which they are taken, given in the order in which they came in. The
sort is stable. -/
def listed (order : α → α → Ordering) (pending : List (Entry χ α)) : List (Entry χ α) :=
  pending.mergeSort fun x y => (x.item.order order y.item).isLE

/-- The chores among some entries. -/
def choresOf (pending : List (Entry χ α)) : List χ :=
  pending.filterMap fun e => match e.item with
    | .chore c => some c
    | .job _ => none

/-- The jobs among some entries. -/
def jobsOf (pending : List (Entry χ α)) : List α :=
  pending.filterMap fun e => match e.item with
    | .chore _ => none
    | .job a => some a

/-! ### The order of the entries -/

/-- Of two elements the one or the other may come first. -/
theorem isLE_total {β : Type} (order : β → β → Ordering) [Std.OrientedCmp order] (x y : β) :
    ((order x y).isLE || (order y x).isLE) = true := by
  rw [show order x y = (order y x).swap from Std.OrientedCmp.eq_swap]
  cases order y x <;> rfl

section
variable {order : α → α → Ordering} [Std.TransCmp order] {x y z : Entry χ α}

omit [Std.TransCmp order] in
/-- Jobs are compared as the given order says. -/
@[simp]
theorem Item.order_job (a b : α) : @Item.order χ α order (.job a) (.job b) = order a b := rfl

omit [Std.TransCmp order] in
/-- Chores are not told apart. -/
theorem Item.order_of_chores {x y : Item χ α} (hx : x.kind = 0) (hy : y.kind = 0) :
    x.order order y = .eq := by
  cases x with
  | job a => cases hx
  | chore c =>
    cases y with
    | job a => cases hy
    | chore c' => rfl

omit [Std.TransCmp order] in
/-- A chore comes before any job. -/
theorem Item.order_of_chore_job {x y : Item χ α} (hx : x.kind = 0) (hy : y.kind ≠ 0) :
    x.order order y = .lt := by
  cases x with
  | job a => cases hx
  | chore c =>
    cases y with
    | job a => rfl
    | chore c' => exact absurd rfl hy

instance : Std.TransCmp (@Item.order χ α order) where
  eq_swap {x y} := by
    cases x <;> cases y <;> try rfl
    simp only [Item.order_job]
    exact Std.OrientedCmp.eq_swap
  isLE_trans {x y z} hxy hyz := by
    cases x <;> cases y <;> cases z <;> first | rfl | cases hxy | cases hyz | skip
    simp only [Item.order_job] at hxy hyz ⊢
    exact Std.TransCmp.isLE_trans hxy hyz

instance : Std.TransCmp (@Entry.runOrder χ α order) :=
  have : Std.TransCmp fun x y : Entry χ α => x.item.order order y.item :=
    { eq_swap := Std.OrientedCmp.eq_swap, isLE_trans := Std.TransCmp.isLE_trans }
  inferInstanceAs (Std.TransCmp (compareLex
    (fun x y : Entry χ α => x.item.order order y.item) (compareOn Entry.number)))

omit [Std.TransCmp order] in
/-- What two numbered items are compared by. -/
theorem Entry.before_iff : x.Before order y ↔ x.item.order order y.item = .lt ∨
    x.item.order order y.item = .eq ∧ x.number < y.number := by
  rw [Before, runOrder, Ordering.then_eq_lt, Nat.compare_eq_lt]

/-- No two entries come before each other. -/
theorem Entry.Before.asymm (h : x.Before order y) : ¬ y.Before order x := by
  have hswap : y.runOrder order x = (x.runOrder order y).swap := Std.OrientedCmp.eq_swap
  intro h'
  rw [Before, hswap, show x.runOrder order y = .lt from h] at h'
  cases h'

/-- The order of the entries is transitive. -/
theorem Entry.Before.trans (hxy : x.Before order y) (hyz : y.Before order z) : x.Before order z :=
  Std.TransCmp.lt_trans hxy hyz

/-- Entries in the same order are equal lists. -/
theorem eq_of_pairwise_before {l l' : List (Entry χ α)} (hl : l.Pairwise (Entry.Before order))
    (hl' : l'.Pairwise (Entry.Before order)) (hperm : l.Perm l') : l = l' :=
  hperm.eq_of_pairwise (fun _ _ _ _ hab hba => absurd hba hab.asymm) hl hl'

end

/-! ### Stable sorts -/

/-- In a list without repetition no two elements come before each other. -/
theorem not_sublist_swap {β : Type} {l : List β} (hl : l.Nodup) {a b : β} (hab : [a, b].Sublist l) :
    ¬ [b, a].Sublist l := by
  -- By induction on the list: where the pair begins with its head, the head would have to occur
  -- again.
  induction l with
  | nil => cases hab
  | cons c l ih =>
    obtain ⟨hc, hrest⟩ := List.nodup_cons.1 hl
    intro hba
    cases hab with
    | cons _ hab =>
      cases hba with
      | cons _ hba => exact ih hrest hab hba
      | cons_cons _ hba => exact hc (hab.subset (by simp))
    | cons_cons _ hb =>
      cases hba with
      | cons _ hba => exact hc (hba.subset (by simp))
      | cons_cons _ hba => exact hc (hba.subset (by simp))

/-- Of two entries that came in by their numbers, the one with the smaller number came first. -/
theorem sublist_of_number_lt {l : List (Entry χ α)} (hl : l.Pairwise fun x y => x.number < y.number)
    {x y : Entry χ α} (hx : x ∈ l) (hy : y ∈ l) (h : x.number < y.number) : [x, y].Sublist l := by
  induction l with
  | nil => cases hx
  | cons c l ih =>
    obtain ⟨hc, hrest⟩ := List.pairwise_cons.1 hl
    -- Which of them is first decides; the numbers increase along the list.
    rcases List.mem_cons.1 hx with rfl | hx' <;> rcases List.mem_cons.1 hy with rfl | hy'
    · exact absurd h (Nat.lt_irrefl _)
    · exact (List.singleton_sublist.2 hy').cons_cons x
    · exact absurd (hc x hx') (Nat.lt_asymm h)
    · exact (ih hrest hx' hy').cons c

/-- The elements of a list that an order does not tell apart from a given one. -/
def classOf (order : α → α → Ordering) (a : α) (l : List α) : List α :=
  l.filter fun x => order a x == .eq

section
variable {order : α → α → Ordering} {a x : α} {l l' : List α}

/-- The elements of a class are those that tie with its representative. -/
theorem mem_classOf : x ∈ classOf order a l ↔ x ∈ l ∧ order a x = .eq := by
  rw [classOf, List.mem_filter, beq_iff_eq]

/-- A head that ties is the head of the class. -/
theorem classOf_cons_of_eq (h : order a x = .eq) :
    classOf order a (x :: l) = x :: classOf order a l :=
  List.filter_cons_of_pos (by rw [h]; rfl)

variable [Std.TransCmp order]

/-- A stable sort leaves the elements that are not told apart in their order. -/
theorem classOf_mergeSort (a : α) (l : List α) :
    classOf order a (l.mergeSort fun x y => (order x y).isLE) = classOf order a l := by
  have hsorted : (classOf order a l).Pairwise fun x y => (order x y).isLE = true := by
    refine List.pairwise_of_forall_mem_list fun x hx y hy => ?_
    have heq : order x y = .eq :=
      Std.TransCmp.eq_trans (Std.OrientedCmp.eq_symm (mem_classOf.1 hx).2) (mem_classOf.1 hy).2
    rw [heq]
    rfl
  -- A sorted part of the list is still there after the stable sort, in its order, and a class is
  -- sorted.
  have hsub : (classOf order a l).Sublist (l.mergeSort fun x y => (order x y).isLE) :=
    List.sublist_mergeSort (fun _ _ _ => Std.TransCmp.isLE_trans) (isLE_total order) hsorted
      List.filter_sublist
  have hclass := hsub.filter fun x => order a x == .eq
  simp only [classOf, List.filter_filter, Bool.and_self] at hclass
  exact (hclass.eq_of_length ((List.mergeSort_perm l _).filter _).length_eq.symm).symm

/-- A list is known from its classes: every element is in its own. -/
theorem mem_of_classOf_eq (h : ∀ a, classOf order a l = classOf order a l') (hx : x ∈ l) :
    x ∈ l' := by
  have hclass : x ∈ classOf order x l := mem_classOf.2 ⟨hx, Std.ReflCmp.compare_self⟩
  rw [h x] at hclass
  exact (mem_classOf.1 hclass).1

/-- A sorted list is determined by its classes of elements that are not told apart. -/
theorem eq_of_classOf_eq (hl : l.Pairwise fun x y => (order x y).isLE = true)
    (hl' : l'.Pairwise fun x y => (order x y).isLE = true)
    (h : ∀ a, classOf order a l = classOf order a l') : l = l' := by
  have hself (a : α) : order a a = .eq := Std.ReflCmp.compare_self
  induction l generalizing l' with
  | nil =>
    refine (List.eq_nil_iff_forall_not_mem.2 fun x hx => ?_).symm
    exact List.not_mem_nil (mem_of_classOf_eq (fun a => (h a).symm) hx)
  | cons a l ih =>
    have ha : a ∈ l' := mem_of_classOf_eq h List.mem_cons_self
    cases l' with
    | nil => cases ha
    | cons b l' =>
      have hb : b ∈ a :: l := mem_of_classOf_eq (fun a => (h a).symm) List.mem_cons_self
      obtain ⟨hmin, hrest⟩ := List.pairwise_cons.1 hl
      obtain ⟨hmin', hrest'⟩ := List.pairwise_cons.1 hl'
      -- Each of the two first elements is in the other list, so they are not told apart.
      have hab : order a b = .eq := by
        have hle : (order a b).isLE = true := by
          rcases List.mem_cons.1 hb with rfl | hb
          · rw [hself]; rfl
          · exact hmin b hb
        have hge : (order b a).isLE = true := by
          rcases List.mem_cons.1 ha with rfl | ha
          · rw [hself]; rfl
          · exact hmin' a ha
        have hswap : order b a = (order a b).swap := Std.OrientedCmp.eq_swap
        rw [hswap] at hge
        cases hcompare : order a b <;> simp_all
      have hfirst := h a
      rw [classOf_cons_of_eq (hself a), classOf_cons_of_eq hab] at hfirst
      obtain ⟨rfl, -⟩ := List.cons.inj hfirst
      refine congrArg _ (ih hrest hrest' fun c => ?_)
      have hc := h c
      simp only [classOf, List.filter_cons] at hc
      split at hc
      · exact (List.cons.inj hc).2
      · exact hc

end

/-! ### The list -/

/-- A job is placed where the jobs before it come before it, and those after it come after it. -/
theorem pairwise_place {order : α → α → Ordering} {R : α → α → Prop} {a : α}
    {l : List α} (htrans : ∀ b c, R a b → R b c → R a c)
    (hlt : ∀ b ∈ l, order a b = .lt → R a b) (hge : ∀ b ∈ l, order a b ≠ .lt → R b a)
    (hl : l.Pairwise R) : (place order a l).Pairwise R := by
  -- By induction on the list, up to the element before which the new one goes.
  induction l with
  | nil => simp [place]
  | cons b l ih =>
    obtain ⟨hb, hrest⟩ := List.pairwise_cons.1 hl
    simp only [place]
    split
    next hlt' =>
      have hab : R a b := hlt b List.mem_cons_self hlt'
      refine List.pairwise_cons.2 ⟨fun c hc => ?_, hl⟩
      rcases List.mem_cons.1 hc with rfl | hc
      · exact hab
      · exact htrans b c hab (hb c hc)
    next hge' =>
      have hplaced := ih (fun c hc => hlt c (List.mem_cons_of_mem _ hc))
        (fun c hc => hge c (List.mem_cons_of_mem _ hc)) hrest
      refine List.pairwise_cons.2 ⟨fun c hc => ?_, hplaced⟩
      rcases List.mem_cons.1 ((place_perm order a l).subset hc) with rfl | hc
      · exact hge b List.mem_cons_self hge'
      · exact hb c hc

section
variable {order : α → α → Ordering} {pending : List (Entry χ α)}

/-- What is listed is what waits. -/
theorem listed_perm : (listed order pending).Perm pending := List.mergeSort_perm ..

/-- No number is listed twice. -/
theorem nodup_numbers (hpending : pending.Pairwise fun x y => x.number < y.number) :
    ((listed order pending).map Entry.number).Nodup := by
  rw [(listed_perm.map _).nodup_iff, List.nodup_iff_pairwise_ne, List.pairwise_map]
  exact hpending.imp Nat.ne_of_lt

variable [Std.TransCmp order]

/-- What is listed is in the strict order of the entries: a stable sort leaves those that are not
told apart in the order in which they came in. -/
theorem pairwise_listed (hpending : pending.Pairwise fun x y => x.number < y.number) :
    (listed order pending).Pairwise (Entry.Before order) := by
  have htrans : ∀ x y z : Entry χ α, (x.item.order order y.item).isLE = true →
      (y.item.order order z.item).isLE = true → (x.item.order order z.item).isLE = true :=
    fun _ _ _ => Std.TransCmp.isLE_trans
  have htotal : ∀ x y : Entry χ α,
      ((x.item.order order y.item).isLE || (y.item.order order x.item).isLE) = true :=
    fun x y => isLE_total (Item.order order) x.item y.item
  have hnumbers : ((listed order pending).map Entry.number).Nodup := nodup_numbers hpending
  have hsorted := List.pairwise_mergeSort htrans htotal pending
  rw [List.pairwise_iff_forall_sublist] at hsorted ⊢
  intro x y hxy
  have hle := hsorted hxy
  -- Two entries that are listed in turn: where their items differ the sort tells them apart, and
  -- where they tie their numbers do.
  rw [Entry.before_iff]
  cases hcompare : x.item.order order y.item with
  | lt => exact .inl rfl
  | gt =>
    rw [hcompare] at hle
    cases hle
  | eq =>
    refine .inr ⟨rfl, ?_⟩
    have hx : x ∈ pending := listed_perm.subset (hxy.subset (by simp))
    have hy : y ∈ pending := listed_perm.subset (hxy.subset (by simp))
    rcases Nat.lt_trichotomy x.number y.number with hlt | heq | hlt
    · exact hlt
    · have hpair := hnumbers.sublist (hxy.map Entry.number)
      simp [heq] at hpair
    · -- The second came in first, so the sort has left it there.
      have hle' : (y.item.order order x.item).isLE = true := by
        rw [Std.OrientedCmp.eq_comm.1 hcompare]
        rfl
      have hyx := List.pair_sublist_mergeSort htrans htotal hle'
        (sublist_of_number_lt hpending hy hx hlt)
      exact absurd hyx (not_sublist_swap (List.Nodup.of_map _ hnumbers) hxy)

/-- Whatever has the same entries in their order is what is listed. -/
theorem eq_listed {l : List (Entry χ α)}
    (hpending : pending.Pairwise fun x y => x.number < y.number) (hperm : l.Perm pending)
    (hl : l.Pairwise (Entry.Before order)) : l = listed order pending :=
  eq_of_pairwise_before hl (pairwise_listed hpending) (hperm.trans listed_perm.symm)

/-- Entries that are left out are left out of the list. -/
theorem listed_filter (hpending : pending.Pairwise fun x y => x.number < y.number)
    (keep : Entry χ α → Bool) :
    listed order (pending.filter keep) = (listed order pending).filter keep :=
  (eq_listed (hpending.sublist List.filter_sublist) (listed_perm.filter keep)
    ((pairwise_listed hpending).sublist List.filter_sublist)).symm

/-- What is left of the list without its first entry. -/
theorem listed_filter_head {e : Entry χ α} {rest : List (Entry χ α)}
    (hpending : pending.Pairwise fun x y => x.number < y.number)
    (hlisted : listed order pending = e :: rest) :
    listed order (pending.filter (·.number != e.number)) = rest := by
  have hnumbers : ((listed order pending).map Entry.number).Nodup := nodup_numbers hpending
  rw [hlisted, List.map_cons, List.nodup_cons, List.mem_map] at hnumbers
  rw [listed_filter hpending, hlisted, List.filter_cons_of_neg (by simp), List.filter_eq_self]
  intro x hx
  simpa using fun heq => hnumbers.1 ⟨x, hx, heq⟩

/-- A new entry is placed before the first one that it precedes. -/
theorem listed_concat {e : Entry χ α}
    (hpending : (pending ++ [e]).Pairwise fun x y => x.number < y.number) :
    listed order (pending ++ [e])
      = place (fun x y => x.item.order order y.item) e (listed order pending) := by
  obtain ⟨hbefore, -, hlast⟩ := List.pairwise_append.1 hpending
  have hnumber : ∀ x ∈ listed order pending, x.number < e.number :=
    fun x hx => hlast x (listed_perm.subset hx) e (List.mem_singleton_self e)
  -- The list with the new entry in its place is sorted, so it is the list of all of them.
  refine (eq_listed hpending ?_ ?_).symm
  · refine (place_perm ..).trans ((listed_perm.cons e).trans ?_)
    exact (List.perm_append_singleton e pending).symm
  · refine pairwise_place (fun _ _ => Entry.Before.trans) ?_ ?_ (pairwise_listed hbefore)
    · exact fun x hx hlt => Entry.before_iff.2 (.inl hlt)
    · intro x hx hge
      -- The new entry has the largest number, so it comes after all that it ties with.
      have hswap : x.item.order order e.item = (e.item.order order x.item).swap :=
        Std.OrientedCmp.eq_swap
      rw [Entry.before_iff, hswap]
      cases hcompare : e.item.order order x.item with
      | lt => exact absurd hcompare hge
      | eq => exact .inr ⟨rfl, hnumber x hx⟩
      | gt => exact .inl rfl

/-- The chores are listed as they came in, and then the jobs. -/
theorem listed_eq (hpending : pending.Pairwise fun x y => x.number < y.number) :
    listed order pending = pending.filter (fun e => e.item.kind == 0) ++
      listed order (pending.filter fun e => !(e.item.kind == 0)) := by
  -- Chores by number and then the sorted jobs: this list is sorted, and it is a rearrangement.
  refine (eq_listed hpending ?_ (List.pairwise_append.2 ⟨?_, ?_, ?_⟩)).symm
  · exact (listed_perm.append_left _).trans (List.filter_append_perm ..)
  · refine (hpending.sublist List.filter_sublist).imp_of_mem fun {x y} hx hy hlt => ?_
    have hkind : x.item.kind = 0 := by simpa using (List.mem_filter.1 hx).2
    have hkind' : y.item.kind = 0 := by simpa using (List.mem_filter.1 hy).2
    exact Entry.before_iff.2 (.inr ⟨Item.order_of_chores hkind hkind', hlt⟩)
  · exact pairwise_listed (hpending.sublist List.filter_sublist)
  · intro x hx y hy
    have hkind : x.item.kind = 0 := by simpa using (List.mem_filter.1 hx).2
    have hkind' : y.item.kind ≠ 0 := by
      simpa using (List.mem_filter.1 (listed_perm.subset hy)).2
    exact Entry.before_iff.2 (.inl (Item.order_of_chore_job hkind hkind'))

omit [Std.TransCmp order] in
/-- The first part are the chores as they came in. -/
theorem map_item_chores :
    (pending.filter fun e => e.item.kind == 0).map Entry.item = (choresOf pending).map .chore := by
  induction pending with
  | nil => rfl
  | cons e pending ih =>
    obtain ⟨number, item⟩ := e
    cases item with
    | chore c => exact congrArg (Item.chore c :: ·) ih
    | job a => exact ih

omit [Std.TransCmp order] in
/-- The second part are the jobs as they came in. -/
theorem map_item_jobs :
    (pending.filter fun e => !(e.item.kind == 0)).map Entry.item = (jobsOf pending).map .job := by
  induction pending with
  | nil => rfl
  | cons e pending ih =>
    obtain ⟨number, item⟩ := e
    cases item with
    | chore c => exact ih
    | job a => exact congrArg (Item.job a :: ·) ih

/-- What is listed are the chores as they came in, and then the jobs in a stable sort. -/
theorem map_item_listed (hpending : pending.Pairwise fun x y => x.number < y.number) :
    (listed order pending).map Entry.item = (choresOf pending).map .chore ++
      ((jobsOf pending).mergeSort fun a b => (order a b).isLE).map .job := by
  have hjobs : ((jobsOf pending).mergeSort fun a b => (order a b).isLE).map Item.job
      = ((jobsOf pending).map .job).mergeSort fun x y => (@Item.order χ α order x y).isLE :=
    List.map_mergeSort fun _ _ _ _ => rfl
  rw [listed_eq hpending, List.map_append, map_item_chores, hjobs, ← map_item_jobs]
  exact congrArg _ (List.map_mergeSort fun _ _ _ _ => rfl)

end

end Backlog

end JobScheduling
