import JobScheduling.Proofs.Backlog.Reference

/-!
# `JobScheduling.Proofs.Backlog.Heap`: a backlog as a heap of numbered items

A worker pool keeps what waits in a heap. Each item carries a number that tells when it came in, and
the heap compares items so that the one to be taken next is the greatest (`heapOrder`). A `Heap` is
anything that keeps elements and hands out a greatest one, provided that it is given a total order.
Which of several greatest elements it hands out, and in which order it lists its elements, is left
open. Neither matters here: no two entries are equal in the order of the heap, so the one that it
hands out is the first one of the list (`Holds.first`).

`Holds.serve` is the step, and `Holds.run` says it of all requests. What waits comes out of the heap
in the order of the list (`Holds.pops_eq`).
-/

set_option autoImplicit false

namespace JobScheduling

namespace Backlog

/-- What is promised of a heap that hands out a greatest element. -/
structure Heap (ε σ : Type) (cmp : ε → ε → Ordering) where
  empty : σ
  push : ε → σ → σ
  pop? : σ → Option (ε × σ)
  /-- Drops the elements that do not pass a test. -/
  retain : (ε → Bool) → σ → σ
  /-- Takes all elements, in no particular order. -/
  drain : σ → List ε × σ
  size : σ → Nat
  /-- The elements, in no particular order. -/
  elements : σ → List ε
  elements_empty : elements empty = []
  elements_push : ∀ e s, (elements (push e s)).Perm (e :: elements s)
  elements_of_pop?_eq_none : ∀ s, pop? s = none → elements s = []
  elements_of_pop? : ∀ s e s', pop? s = some (e, s') → (elements s).Perm (e :: elements s')
  greatest : Std.TransCmp cmp → ∀ s e s', pop? s = some (e, s') →
    ∀ x ∈ elements s, (cmp x e).isLE = true
  elements_retain : ∀ keep s, (elements (retain keep s)).Perm ((elements s).filter keep)
  drain_perm : ∀ s, (drain s).1.Perm (elements s)
  elements_drain : ∀ s, elements (drain s).2 = []
  size_eq : ∀ s, size s = (elements s).length

variable {χ α σ : Type} {order : α → α → Ordering}

/-- The order of a heap of entries. The one that is taken first is the greatest. -/
def heapOrder (order : α → α → Ordering) (x y : Entry χ α) : Ordering := y.runOrder order x

/-- A heap of numbered items, and the number of the next one. -/
structure Queue (σ : Type) where
  heap : σ
  next : Nat

namespace Queue

variable (H : Heap (Entry χ α) σ (heapOrder order))

/-- The queue in which nothing waits. -/
def new : Queue σ := { heap := H.empty, next := 0 }

/-- Adds an item. -/
def push (item : Item χ α) (q : Queue σ) : Queue σ where
  heap := H.push { number := q.next, item } q.heap
  next := q.next + 1

/-- Takes the item that is to be taken first. -/
def pop? (q : Queue σ) : Option (Item χ α × Queue σ) :=
  (H.pop? q.heap).map fun taken => (taken.1.item, { q with heap := taken.2 })

/-- Drops the jobs that satisfy a test. -/
def purge (gone : α → Bool) (q : Queue σ) : Queue σ :=
  { q with heap := H.retain (fun e => !e.item.isGone gone) q.heap }

/-- How many items wait. -/
def size (q : Queue σ) : Nat := H.size q.heap

/-- How many jobs a purge drops. -/
def purgeCount (gone : α → Bool) (q : Queue σ) : Nat := q.size H - (q.purge H gone).size H

/-- Takes everything. -/
def drain (q : Queue σ) : List (Item χ α) × Queue σ :=
  ((H.drain q.heap).1.map Entry.item, { q with heap := (H.drain q.heap).2 })

/-- Serves one request. -/
def serve (q : Queue σ) : Request χ α → List (Item χ α) × Queue σ
  | .pushJob a => ([], q.push H (.job a))
  | .pushChore c => ([], q.push H (.chore c))
  | .pop =>
    match q.pop? H with
    | none => ([], q)
    | some (item, q) => ([item], q)
  | .purge gone => ([], q.purge H gone)
  | .drain => q.drain H

/-- Serves requests one after the other, and lists what each took out. -/
def run : List (Request χ α) → Queue σ → List (List (Item χ α)) × Queue σ
  | [], q => ([], q)
  | request :: rest, q =>
    let (taken, q) := q.serve H request
    let (more, q) := run rest q
    (taken :: more, q)

/-- Takes up to `n` items. -/
def pops : Nat → Queue σ → List (Item χ α)
  | 0, _ => []
  | n + 1, q =>
    match q.pop? H with
    | none => []
    | some (item, q) => item :: pops n q

end Queue

/-- Two answers to a request agree. What a drain takes comes in no particular order. -/
def Agrees : Request χ α → List (Item χ α) → List (Item χ α) → Prop
  | .drain, taken, taken' => taken.Perm taken'
  | _, taken, taken' => taken = taken'

/-- Two answers that agree list the same items. -/
theorem Agrees.perm {request : Request χ α} {taken taken' : List (Item χ α)}
    (h : Agrees request taken taken') : taken.Perm taken' := by
  cases request with
  | drain => exact h
  | pushJob | pushChore | pop | purge => exact .of_eq h

/-- A heap holds what the reference holds, with the same numbers. -/
structure Holds (H : Heap (Entry χ α) σ (heapOrder order)) (r : Reference χ α) (q : Queue σ) :
    Prop where
  elements : (H.elements q.heap).Perm r.pending
  next : q.next = r.next

section
variable [Std.TransCmp order] {H : Heap (Entry χ α) σ (heapOrder order)} {r : Reference χ α}
  {q : Queue σ}

instance : Std.TransCmp (@heapOrder χ α order) :=
  inferInstanceAs (Std.TransCmp fun x y : Entry χ α => y.runOrder order x)

/-- What the heap hands out is the first entry of the list. -/
theorem Holds.first (h : Holds H r q) (hnumbered : r.Numbered) {e : Entry χ α} {s : σ}
    (hpop : H.pop? q.heap = some (e, s)) : ∃ rest, listed order r.pending = e :: rest ∧
      (H.elements s).Perm (r.pending.filter (·.number != e.number)) := by
  have htaken := H.elements_of_pop? _ _ _ hpop
  have hgreatest := H.greatest inferInstance _ _ _ hpop
  have hlisted : (listed order r.pending).Perm (H.elements q.heap) :=
    listed_perm.trans h.elements.symm
  have he : e ∈ listed order r.pending := (hlisted.trans htaken).symm.subset List.mem_cons_self
  have hsorted : (listed order r.pending).Pairwise (Entry.Before order) :=
    pairwise_listed hnumbered.increasing
  -- The entry that comes off the heap is the greatest one, and so is the first of the list.
  cases hlist : listed order r.pending with
  | nil =>
    rw [hlist] at he
    cases he
  | cons first rest =>
    rw [hlist] at he hsorted hlisted
    have hfirst : e = first := by
      rcases List.mem_cons.1 he with rfl | he
      · rfl
      · -- Nothing that is listed later is as great as the first entry.
        have hle : (e.runOrder order first).isLE = true :=
          hgreatest first (hlisted.subset List.mem_cons_self)
        have hlt : first.runOrder order e = .lt := (List.pairwise_cons.1 hsorted).1 e he
        rw [show e.runOrder order first = (first.runOrder order e).swap from
          Std.OrientedCmp.eq_swap, hlt] at hle
        cases hle
    subst hfirst
    refine ⟨rest, rfl, ?_⟩
    rw [← listed_filter_head hnumbered.increasing hlist] at hlisted
    exact ((hlisted.trans htaken).cons_inv).symm.trans listed_perm

omit [Std.TransCmp order] in
/-- A new item is one entry more on both sides. -/
theorem Holds.push (h : Holds H r q) (item : Item χ α) : Holds H (r.push item) (q.push H item) where
  elements := by
    have hnext := h.next
    simp only [Queue.push, Reference.push, hnext]
    exact (H.elements_push _ _).trans
      ((h.elements.cons _).trans (List.perm_append_singleton _ r.pending).symm)
  next := congrArg Nat.succ h.next

omit [Std.TransCmp order] in
/-- A purge keeps the same entries on both sides. -/
theorem Holds.purge (h : Holds H r q) (gone : α → Bool) :
    Holds H { r with pending := r.pending.filter fun e => !e.item.isGone gone } (q.purge H gone) :=
  ⟨(H.elements_retain _ _).trans (h.elements.filter _), h.next⟩

omit [Std.TransCmp order] in
/-- Nothing waits when the heap hands out nothing. -/
theorem Holds.pending_eq_nil (h : Holds H r q) (hpop : H.pop? q.heap = none) : r.pending = [] := by
  rw [← List.nil_perm, ← H.elements_of_pop?_eq_none _ hpop]
  exact h.elements

/-- Each request takes the same items from the heap and from the reference, and leaves the same
entries. -/
theorem Holds.serve (h : Holds H r q) (hnumbered : r.Numbered) (request : Request χ α) :
    Agrees request (q.serve H request).1 (r.serve order request).1 ∧
      Holds H (r.serve order request).2 (q.serve H request).2 := by
  cases request with
  | pushJob a => exact ⟨rfl, h.push (.job a)⟩
  | pushChore c => exact ⟨rfl, h.push (.chore c)⟩
  | pop =>
    simp only [Queue.serve, Reference.serve, Queue.pop?]
    cases hpop : H.pop? q.heap with
    | none =>
      simp only [h.pending_eq_nil hpop, listed, List.mergeSort_nil]
      exact ⟨rfl, h⟩
    | some taken =>
      -- The heap gives its greatest entry, and that is the first of the reference.
      obtain ⟨rest, hlisted, hleft⟩ := h.first hnumbered hpop
      rw [hlisted]
      exact ⟨rfl, hleft, h.next⟩
  | purge gone => exact ⟨rfl, h.purge gone⟩
  | drain =>
    refine ⟨?_, .of_eq (H.elements_drain _), h.next⟩
    exact (((H.drain_perm _).trans h.elements).trans listed_perm.symm).map _

/-- Requests take the same items from the heap and from the reference, and leave the same
entries. -/
theorem Holds.run (requests : List (Request χ α)) (h : Holds H r q) (hnumbered : r.Numbered) :
    ((q.run H requests).1.flatten).Perm (r.run order requests).1.flatten ∧
      Holds H (r.run order requests).2 (q.run H requests).2 := by
  induction requests generalizing r q with
  | nil => exact ⟨.refl _, h⟩
  | cons request requests ih =>
    obtain ⟨hanswer, h'⟩ := h.serve hnumbered request
    obtain ⟨hanswers, hrest⟩ := ih h' (hnumbered.serve request)
    exact ⟨hanswer.perm.append hanswers, hrest⟩

/-! ### What waits in a heap -/

omit [Std.TransCmp order] in
/-- The heap is as large as the reference. -/
theorem Holds.size_eq (h : Holds H r q) : q.size H = r.pending.length := by
  rw [Queue.size, H.size_eq, h.elements.length_eq]

omit [Std.TransCmp order] in
/-- A purge counts what it drops. -/
theorem Holds.purgeCount_eq (h : Holds H r q) (gone : α → Bool) :
    q.purgeCount H gone = r.pending.countP fun e => e.item.isGone gone := by
  have hsplit := r.pending.length_eq_countP_add_countP fun e => e.item.isGone gone
  simp only [Bool.not_eq_true, Bool.decide_eq_false] at hsplit
  rw [Queue.purgeCount, h.size_eq, (h.purge gone).size_eq, ← List.countP_eq_length_filter, hsplit,
    Nat.add_sub_cancel]

/-- The items come out of the heap in the order of the list. -/
theorem Holds.pops_eq (h : Holds H r q) (hnumbered : r.Numbered) (n : Nat) :
    q.pops H n = ((listed order r.pending).map Entry.item).take n := by
  induction n generalizing r q with
  | zero => rfl
  | succ n ih =>
    simp only [Queue.pops, Queue.pop?]
    cases hpop : H.pop? q.heap with
    | none =>
      simp [h.pending_eq_nil hpop, listed]
    | some taken =>
      obtain ⟨e, s⟩ := taken
      obtain ⟨rest, hlisted, hleft⟩ := h.first hnumbered hpop
      -- The rest of the reference is the list without the entry that was taken.
      have hrest := @ih { r with pending := r.pending.filter (·.number != e.number) }
        { q with heap := s } ⟨hleft, h.next⟩ (hnumbered.sublist List.filter_sublist)
      rw [listed_filter_head hnumbered.increasing hlisted] at hrest
      rw [hlisted]
      exact congrArg (e.item :: ·) hrest

end

end Backlog

end JobScheduling
