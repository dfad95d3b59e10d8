import JobScheduling.Proofs.Backlog.Heap
import Mathlib.Algebra.Order.Group.Multiset

/-!
# `JobScheduling.Proofs.Backlog.Refinement`: all requests to a backlog

After any requests a backlog, a heap of numbered items and a list that is sorted anew hold the same
items and hand them out in the same order. Two more things follow for a whole run.

* Whatever came in was taken, was dropped by a purge, or still waits (`run_conserves`). An item
  that came in once is therefore taken once at most.
* What waits is taken in an order that does not depend on the requests before. The list is sorted,
  and a sorted list is determined by its classes of jobs that the order does not tell apart
  (`mergeSort_eq_of_classOf_eq`).

`Refines` lists all of this, and `run_refines` proves it for every total preorder.
-/

set_option autoImplicit false

namespace JobScheduling

namespace Backlog

variable {χ α σ : Type} {order : α → α → Ordering}

/-! ### What came in -/

/-- What a request brings in. -/
def Request.pushed : Request χ α → List (Item χ α)
  | .pushJob a => [.job a]
  | .pushChore c => [.chore c]
  | .pop | .purge _ | .drain => []

/-- The jobs that a request drops. -/
def Request.dropped (b : Backlog χ α) : Request χ α → List α
  | .purge gone => b.jobs.filter gone
  | .pushJob _ | .pushChore _ | .pop | .drain => []

/-- The jobs that some requests drop. -/
def dropped : List (Request χ α) → Backlog χ α → List α
  | [], _ => []
  | request :: rest, b => request.dropped b ++ dropped rest (b.serve request).2

/-- What comes in with a request or waits is taken, dropped or still waits. -/
theorem serve_conserves (b : Backlog χ α) (request : Request χ α) :
    (request.pushed ++ b.items).Perm
      ((b.serve request).1 ++ (request.dropped b).map .job ++ (b.serve request).2.items) := by
  -- For each request, what came in and what was there are what went out, what was dropped and what
  -- is left.
  cases request with
  | pushJob a => exact (items_pushJob_perm a b).symm
  | pushChore c =>
    show (Item.chore c :: b.items).Perm (b.pushChore c).items
    rw [items_pushChore]
    exact List.perm_middle.symm
  | pop =>
    simp only [serve]
    cases hpop : b.pop? with
    | none => exact .refl _
    | some taken => exact .of_eq (items_of_pop? hpop)
  | purge gone =>
    have hsplit := (List.filter_append_perm gone b.jobs).symm.map (Item.job (χ := χ))
    rw [List.map_append] at hsplit
    show b.items.Perm ((b.jobs.filter gone).map .job ++ (b.purge gone).items)
    refine (hsplit.append_left (b.chores.map .chore)).trans ?_
    rw [← List.append_assoc, items, purge, ← List.append_assoc]
    exact List.perm_append_comm.append_right _
  | drain => exact .of_eq (by simp [Request.pushed, Request.dropped, serve, drain, items])

/-- What comes in with some requests or waits is taken, dropped or still waits. -/
theorem run_conserves (requests : List (Request χ α)) (b : Backlog χ α) :
    (requests.flatMap Request.pushed ++ b.items).Perm
      ((run requests b).1.flatten ++ (dropped requests b).map .job ++
        (run requests b).2.items) := by
  induction requests generalizing b with
  | nil => exact .refl _
  | cons request requests ih =>
    have hfirst := serve_conserves b request
    have hrest := ih (b.serve request).2
    -- As multisets both facts are equations, and appending is addition.
    simp only [← Multiset.coe_eq_coe, ← Multiset.coe_add] at hfirst hrest ⊢
    simp only [List.flatMap_cons, run, dropped, List.flatten_cons, List.map_append,
      ← Multiset.coe_add]
    generalize (request.pushed : Multiset (Item χ α)) = pushed,
      (b.items : Multiset (Item χ α)) = held,
      (requests.flatMap Request.pushed : Multiset (Item χ α)) = pushed' at hfirst hrest ⊢
    calc pushed + pushed' + held = pushed' + (pushed + held) := by ac_rfl
      _ = _ := by
        rw [hfirst, add_left_comm, hrest]
        ac_rfl

/-! ### The refinement -/

/-- The backlog after some requests. -/
def after (order : α → α → Ordering) (requests : List (Request χ α)) : Backlog χ α :=
  (run requests { order }).2

/-- Requests do not change the order. -/
theorem order_after (order : α → α → Ordering) (requests : List (Request χ α)) :
    (after order requests).order = order := order_run requests { order }

/-- The reference after some requests. -/
def Reference.after (order : α → α → Ordering) (requests : List (Request χ α)) : Reference χ α :=
  (Reference.run order requests {}).2

/-- The heap after some requests. -/
def Queue.after (H : Heap (Entry χ α) σ (heapOrder order)) (requests : List (Request χ α)) :
    Queue σ :=
  (Queue.run H requests (Queue.new H)).2

/-- A backlog, a heap of numbered items and a list that is sorted anew agree after some requests. -/
structure Refines (order : α → α → Ordering) (H : Heap (Entry χ α) σ (heapOrder order))
    (requests : List (Request χ α)) : Prop where
  /-- The heap holds the entries that the reference holds. -/
  held : (H.elements (Queue.after H requests).heap).Perm (Reference.after order requests).pending
  /-- Any next request takes the same items from the three. -/
  answers : ∀ next : Request χ α,
    ((after order requests).serve next).1
      = ((Reference.after order requests).serve order next).1 ∧
    Agrees next ((Queue.after H requests).serve H next).1
      ((Reference.after order requests).serve order next).1
  /-- The chores wait as they came in, and then the jobs in a stable sort. -/
  items : (after order requests).items
    = (choresOf (Reference.after order requests).pending).map .chore ++
      ((jobsOf (Reference.after order requests).pending).mergeSort
        fun a b => (order a b).isLE).map .job
  /-- They come out of the heap in this order. -/
  pops : ∀ n, (Queue.after H requests).pops H n = (after order requests).items.take n
  /-- All that waits is taken at once. -/
  drain : ((Queue.after H requests).drain H).1.Perm
    ((Reference.after order requests).pending.map Entry.item)
  size : (after order requests).size = (Reference.after order requests).pending.length ∧
    (Queue.after H requests).size H = (Reference.after order requests).pending.length
  /-- A purge counts the jobs that it drops. -/
  purgeCount : ∀ gone, (after order requests).purgeCount gone
      = (Reference.after order requests).pending.countP (fun e => e.item.isGone gone) ∧
    (Queue.after H requests).purgeCount H gone
      = (Reference.after order requests).pending.countP (fun e => e.item.isGone gone)
  /-- Whatever came in was taken, was dropped by a purge, or waits. -/
  conserved : (requests.flatMap Request.pushed).Perm
    ((run requests { order }).1.flatten ++ (dropped requests { order }).map .job ++
      (Reference.after order requests).pending.map Entry.item)
  conservedByHeap : (requests.flatMap Request.pushed).Perm
    ((Queue.run H requests (Queue.new H)).1.flatten ++ (dropped requests { order }).map .job ++
      (Reference.after order requests).pending.map Entry.item)
  /-- Other requests after which the same chores wait in the same order, and the same jobs in the
  same order among those that are not told apart, leave the heap to hand out the same items. -/
  history : ∀ requests' : List (Request χ α),
    choresOf (Reference.after order requests).pending
      = choresOf (Reference.after order requests').pending →
    (∀ a, classOf order a (jobsOf (Reference.after order requests).pending)
      = classOf order a (jobsOf (Reference.after order requests').pending)) →
    (after order requests).items = (after order requests').items ∧
      ∀ n, (Queue.after H requests).pops H n = (Queue.after H requests').pops H n

section
variable [Std.TransCmp order] {H : Heap (Entry χ α) σ (heapOrder order)}

/-- Jobs that come in the same order among those that are not told apart are sorted alike. -/
theorem mergeSort_eq_of_classOf_eq {l l' : List α}
    (h : ∀ a, classOf order a l = classOf order a l') :
    l.mergeSort (fun x y => (order x y).isLE) = l'.mergeSort (fun x y => (order x y).isLE) := by
  have htrans : ∀ x y z : α, (order x y).isLE = true → (order y z).isLE = true →
      (order x z).isLE = true := fun _ _ _ => Std.TransCmp.isLE_trans
  refine eq_of_classOf_eq (List.pairwise_mergeSort htrans (isLE_total order) l)
    (List.pairwise_mergeSort htrans (isLE_total order) l') fun a => ?_
  rw [classOf_mergeSort, classOf_mergeSort, h]

variable (order) in
/-- A backlog and the reference stay together from the start. -/
theorem represents_after (requests : List (Request χ α)) :
    (run requests { order }).1 = (Reference.run order requests {}).1 ∧
      Represents (Reference.after order requests) (after order requests) := by
  have hnew : Represents {} ({ order } : Backlog χ α) :=
    { numbered := { increasing := .nil, below := fun _ he => absurd he List.not_mem_nil }
      items := by simp [listed, items] }
  exact hnew.run requests rfl

/-- So do a heap and the reference. -/
theorem holds_after (requests : List (Request χ α)) :
    ((Queue.run H requests (Queue.new H)).1.flatten).Perm
        (Reference.run order requests {}).1.flatten ∧
      Holds H (Reference.after order requests) (Queue.after H requests) := by
  have hnew : Holds H {} (Queue.new H) := { elements := .of_eq H.elements_empty, next := rfl }
  exact hnew.run requests { increasing := .nil, below := fun _ he => absurd he List.not_mem_nil }

/-- After any requests the chores wait as they came in, and then the jobs in a stable sort. -/
theorem items_after (requests : List (Request χ α)) : (after order requests).items
    = (choresOf (Reference.after order requests).pending).map .chore ++
      ((jobsOf (Reference.after order requests).pending).mergeSort
        fun a b => (order a b).isLE).map .job := by
  have h := (represents_after order requests).2
  rw [h.items, order_after, map_item_listed h.numbered.increasing]

/-- A heap hands out what a backlog does. -/
theorem pops_after (requests : List (Request χ α)) (n : Nat) :
    (Queue.after H requests).pops H n = (after order requests).items.take n := by
  have h := (represents_after order requests).2
  rw [h.items, order_after]
  exact (holds_after requests).2.pops_eq h.numbered n

/-- Whatever requests came before, the backlog holds the same items in the same order as the
reference and as any heap of numbered items. -/
theorem run_refines (order : α → α → Ordering) [Std.TransCmp order]
    (H : Heap (Entry χ α) σ (heapOrder order)) (requests : List (Request χ α)) :
    Refines order H requests := by
  obtain ⟨hanswers, hb⟩ := represents_after order requests
  obtain ⟨htaken, hq⟩ := holds_after (H := H) requests
  -- The backlog and the pending entries hold the same items, so what is conserved for one is for
  -- the other.
  have hperm : (after order requests).items.Perm
      ((Reference.after order requests).pending.map Entry.item) := by
    rw [hb.items]
    exact listed_perm.map _
  have hconserved : (requests.flatMap Request.pushed).Perm
      ((run requests { order }).1.flatten ++ (dropped requests { order }).map .job ++
        (Reference.after order requests).pending.map Entry.item) := by
    have hitems : ({ order } : Backlog χ α).items = [] := rfl
    have hrun := run_conserves requests ({ order } : Backlog χ α)
    rw [hitems, List.append_nil] at hrun
    exact hrun.trans (hperm.append_left _)
  exact {
    held := hq.elements
    answers := fun next => by
      have htrans : Std.TransCmp (after order requests).order := by rwa [order_after]
      have hanswer := (hb.serve next).1
      rw [order_after] at hanswer
      exact ⟨hanswer, (hq.serve hb.numbered next).1⟩
    items := items_after requests
    pops := pops_after requests
    drain := ((H.drain_perm _).trans hq.elements).map _
    size := ⟨by rw [← length_items, hperm.length_eq, List.length_map], hq.size_eq⟩
    purgeCount := fun gone => by
      refine ⟨?_, hq.purgeCount_eq gone⟩
      rw [purgeCount_eq, hperm.countP_eq, List.countP_map]
      rfl
    conserved := hconserved
    conservedByHeap := by
      rw [← hanswers] at htaken
      exact hconserved.trans ((htaken.symm.append_right _).append_right _)
    history := fun requests' hchores hjobs => by
      have hitems : (after order requests).items = (after order requests').items := by
        rw [items_after, items_after, hchores, mergeSort_eq_of_classOf_eq hjobs]
      exact ⟨hitems, fun n => by rw [pops_after, pops_after, hitems]⟩ }

end

/-- The elements of a list, with one that no other exceeds in front. -/
def greatestFirst {ε : Type} (cmp : ε → ε → Ordering) (l : List ε) : List ε :=
  l.mergeSort fun x y => (cmp y x).isLE

/-- What comes first is the greatest. -/
theorem le_of_greatestFirst {ε : Type} {cmp : ε → ε → Ordering} [Std.TransCmp cmp] {l rest : List ε}
    {e x : ε} (h : greatestFirst cmp l = e :: rest) (hx : x ∈ l) : (cmp x e).isLE = true := by
  have htrans : ∀ x y z : ε, (cmp y x).isLE = true → (cmp z y).isLE = true →
      (cmp z x).isLE = true := fun _ _ _ hyx hzy => Std.TransCmp.isLE_trans hzy hyx
  have hsorted : (greatestFirst cmp l).Pairwise fun x y => (cmp y x).isLE = true :=
    List.pairwise_mergeSort htrans (fun x y => isLE_total cmp y x) l
  have hmem : x ∈ greatestFirst cmp l := (List.mergeSort_perm ..).symm.subset hx
  rw [h] at hsorted hmem
  -- It is the first itself, or it comes after the first.
  rcases List.mem_cons.1 hmem with rfl | hmem
  · rw [show cmp x x = .eq from Std.ReflCmp.compare_self]
    rfl
  · exact (List.pairwise_cons.1 hsorted).1 x hmem

/-- A heap that sorts its elements when one is taken. -/
def Heap.ofList {ε : Type} (cmp : ε → ε → Ordering) : Heap ε (List ε) cmp where
  empty := []
  push e l := e :: l
  pop? l := (greatestFirst cmp l).head?.map fun e => (e, (greatestFirst cmp l).tail)
  retain keep l := l.filter keep
  drain l := (l, [])
  size l := l.length
  elements l := l
  elements_empty := rfl
  elements_push _ _ := .refl _
  elements_of_pop?_eq_none l h := by
    rw [Option.map_eq_none_iff, List.head?_eq_none_iff] at h
    rw [← List.perm_nil, ← h]
    exact (List.mergeSort_perm ..).symm
  elements_of_pop? l e rest h := by
    obtain ⟨_, hhead, heq⟩ := Option.map_eq_some_iff.1 h
    cases heq
    rw [List.cons_head?_tail hhead]
    exact (List.mergeSort_perm ..).symm
  greatest _ l e rest h x hx := by
    obtain ⟨_, hhead, heq⟩ := Option.map_eq_some_iff.1 h
    cases heq
    exact le_of_greatestFirst (List.cons_head?_tail hhead).symm hx
  elements_retain _ _ := .refl _
  drain_perm _ := .refl _
  elements_drain _ := rfl
  size_eq _ := rfl

/-- Four jobs in two classes and a chore come in, one job is taken and one is dropped. What is left
comes out of the heap as it would have come out if it had come in alone. -/
theorem run_refines_ties :
    let order : Fin 4 → Fin 4 → Ordering := compareOn fun a => a.val / 2
    let H := Heap.ofList (@heapOrder Unit (Fin 4) order)
    let requests : List (Request Unit (Fin 4)) :=
      [.pushJob 3, .pushJob 0, .pop, .pushJob 2, .pushChore (), .pushJob 1, .purge (· == 2)]
    let q := Queue.after H requests
    q.pops H 4 = [.chore (), .job 1, .job 3] ∧
      q.pops H 4 = (Queue.after H [.pushJob 3, .pushJob 1, .pushChore ()]).pops H 4 := by
  intro order H requests q
  have h : Refines order H requests := run_refines order H requests
  have hsorted : @listed Unit _ order
      [{ number := 0, item := .job 3 }, { number := 1, item := .job 0 }]
        = [{ number := 1, item := .job 0 }, { number := 0, item := .job 3 }] :=
    (eq_listed (by decide) (.swap ..) (by rw [List.pairwise_pair, Entry.Before]; rfl)).symm
  have hleft : (Reference.after order requests).pending
      = [{ number := 0, item := .job 3 }, { number := 3, item := .chore () },
        { number := 4, item := .job 1 }] := by
    simp only [requests, Reference.after, Reference.run, Reference.serve, Reference.push,
      List.nil_append, List.cons_append, hsorted]
    rfl
  refine ⟨(h.pops 4).trans (by decide +kernel), (h.history _ (by rw [hleft]; rfl) ?_).2 4⟩
  rw [hleft]
  decide +kernel

end Backlog

end JobScheduling
