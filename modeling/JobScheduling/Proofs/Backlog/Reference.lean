import JobScheduling.Proofs.Backlog.Listed

/-!
# `JobScheduling.Proofs.Backlog.Reference`: a backlog next to a list that is sorted anew

A `Reference` keeps what waits in the order in which it came in, numbered, and sorts it anew
whenever something is taken. It needs no rule for where a new item goes, and so it says what the
order of a backlog should be: the chores as they came in, and then the jobs, stably sorted
(`map_item_listed`).

A backlog keeps its jobs sorted instead. It holds the same items in the same order as the reference
after any requests (`Represents`): a new job is placed where the sort would put it, and what is
taken or dropped leaves the rest sorted.
-/

set_option autoImplicit false

namespace JobScheduling

namespace Backlog

variable {χ α : Type}

/-- Whether an item is a job that satisfies a test. -/
def Item.isGone (gone : α → Bool) : Item χ α → Bool
  | .chore _ => false
  | .job a => gone a

/-- What waits, in the order in which it came in. -/
structure Reference (χ α : Type) where
  pending : List (Entry χ α) := []
  /-- The number of the next item. -/
  next : Nat := 0

namespace Reference

/-- Adds an item. -/
def push (item : Item χ α) (r : Reference χ α) : Reference χ α where
  pending := r.pending ++ [{ number := r.next, item }]
  next := r.next + 1

/-- Serves one request by sorting what waits. -/
def serve (order : α → α → Ordering) (r : Reference χ α) :
    Request χ α → List (Item χ α) × Reference χ α
  | .pushJob a => ([], r.push (.job a))
  | .pushChore c => ([], r.push (.chore c))
  | .pop =>
    match listed order r.pending with
    | [] => ([], r)
    | e :: _ => ([e.item], { r with pending := r.pending.filter (·.number != e.number) })
  | .purge gone => ([], { r with pending := r.pending.filter fun e => !e.item.isGone gone })
  | .drain => ((listed order r.pending).map Entry.item, { r with pending := [] })

/-- Serves requests one after the other, and lists what each took out. -/
def run (order : α → α → Ordering) :
    List (Request χ α) → Reference χ α → List (List (Item χ α)) × Reference χ α
  | [], r => ([], r)
  | request :: rest, r =>
    let (taken, r) := r.serve order request
    let (more, r) := run order rest r
    (taken :: more, r)

/-- The numbers say in which order the entries came in. -/
structure Numbered (r : Reference χ α) : Prop where
  increasing : r.pending.Pairwise fun x y => x.number < y.number
  below : ∀ e ∈ r.pending, e.number < r.next

/-- A new item gets the next number. -/
theorem Numbered.push {r : Reference χ α} (h : r.Numbered) (item : Item χ α) :
    (r.push item).Numbered where
  increasing := by
    refine List.pairwise_append.2 ⟨h.increasing, List.pairwise_singleton .., fun x hx y hy => ?_⟩
    rw [List.mem_singleton.1 hy]
    exact h.below x hx
  below e he := by
    rcases List.mem_append.1 he with he | he
    · exact Nat.lt_succ_of_lt (h.below e he)
    · rw [List.mem_singleton.1 he]
      exact Nat.lt_succ_self _

/-- Entries that leave do not change the numbers of the others. -/
theorem Numbered.sublist {r : Reference χ α} (h : r.Numbered) {pending : List (Entry χ α)}
    (hsub : pending.Sublist r.pending) : Numbered { r with pending } where
  increasing := h.increasing.sublist hsub
  below e he := h.below e (hsub.subset he)

/-- Every request keeps the numbers increasing. -/
theorem Numbered.serve {order : α → α → Ordering} {r : Reference χ α} (h : r.Numbered)
    (request : Request χ α) : (r.serve order request).2.Numbered := by
  cases request with
  | pushJob a => exact h.push _
  | pushChore c => exact h.push _
  | pop =>
    simp only [Reference.serve]
    cases listed order r.pending with
    | nil => exact h
    | cons e rest => exact h.sublist List.filter_sublist
  | purge gone => exact h.sublist List.filter_sublist
  | drain => exact h.sublist (List.nil_sublist _)

end Reference

/-! ### The operations of a backlog through its items -/

section
variable {β γ : Type}

/-- An element goes behind those that it does not precede. -/
theorem place_append {order : β → β → Ordering} {a : β} {l : List β} (h : ∀ b ∈ l, order a b ≠ .lt)
    (l' : List β) : place order a (l ++ l') = l ++ place order a l' := by
  induction l with
  | nil => rfl
  | cons b l ih =>
    rw [List.cons_append, place, if_neg (h b List.mem_cons_self),
      ih fun c hc => h c (List.mem_cons_of_mem _ hc), List.cons_append]

/-- An element goes before those that it precedes. -/
theorem place_of_forall_lt {order : β → β → Ordering} {a : β} {l : List β}
    (h : ∀ b ∈ l, order a b = .lt) : place order a l = a :: l := by
  cases l with
  | nil => rfl
  | cons b l => rw [place, if_pos (h b List.mem_cons_self)]

/-- Where an element goes depends on the comparisons only. -/
theorem place_map {order : β → β → Ordering} {order' : γ → γ → Ordering} {f : β → γ}
    (h : ∀ a b, order' (f a) (f b) = order a b) (a : β) (l : List β) :
    place order' (f a) (l.map f) = (place order a l).map f := by
  induction l with
  | nil => rfl
  | cons b l ih =>
    simp only [List.map_cons, place, h, ih]
    split <;> rfl

end

/-- A new job goes behind all chores and behind the jobs that it does not precede. -/
theorem items_pushJob (a : α) (b : Backlog χ α) :
    (b.pushJob a).items = place (Item.order b.order) (.job a) b.items := by
  have hjobs : place (Item.order b.order) (Item.job a : Item χ α) (b.jobs.map .job)
      = (place b.order a b.jobs).map .job := place_map (fun _ _ => rfl) a b.jobs
  rw [show b.items = b.chores.map .chore ++ b.jobs.map .job from rfl, place_append, hjobs]
  · rfl
  · intro x hx
    obtain ⟨c, -, rfl⟩ := List.mem_map.1 hx
    intro hlt
    cases hlt

/-- A new chore goes behind the other chores and before all jobs. -/
theorem items_pushChore_eq_place (c : χ) (b : Backlog χ α) :
    (b.pushChore c).items = place (Item.order b.order) (.chore c) b.items := by
  rw [items_pushChore, items, place_append, place_of_forall_lt]
  · intro x hx
    obtain ⟨a, -, rfl⟩ := List.mem_map.1 hx
    rfl
  · intro x hx
    obtain ⟨c, -, rfl⟩ := List.mem_map.1 hx
    intro hlt
    cases hlt

/-- A purge leaves out the jobs that satisfy the test, in the list of all items too. -/
theorem items_purge (gone : α → Bool) (b : Backlog χ α) :
    (b.purge gone).items = b.items.filter fun item => !item.isGone gone := by
  have hchores : (b.chores.map (Item.chore (α := α))).filter (fun item => !item.isGone gone)
      = b.chores.map .chore := by
    rw [List.filter_eq_self]
    intro x hx
    obtain ⟨c, -, rfl⟩ := List.mem_map.1 hx
    rfl
  rw [items, items, List.filter_append, hchores, List.filter_map]
  rfl

/-- A purge counts what it drops. -/
theorem purgeCount_eq (gone : α → Bool) (b : Backlog χ α) :
    b.purgeCount gone = b.items.countP (·.isGone gone) := by
  have hchores : (b.chores.map (Item.chore (α := α))).countP (·.isGone gone) = 0 := by
    rw [List.countP_eq_zero]
    intro x hx
    obtain ⟨c, -, rfl⟩ := List.mem_map.1 hx
    exact Bool.false_ne_true
  rw [items, List.countP_append, hchores, List.countP_map, Nat.zero_add]
  rfl

/-! ### The refinement -/

/-- A backlog holds what the reference holds, in the order in which the reference lists it. -/
structure Represents (r : Reference χ α) (b : Backlog χ α) : Prop where
  numbered : r.Numbered
  items : b.items = (listed b.order r.pending).map Entry.item

/-- What is taken leaves the order alone. -/
theorem order_of_pop? {b rest : Backlog χ α} {item : Item χ α} (h : b.pop? = some (item, rest)) :
    rest.order = b.order := by
  obtain ⟨order, chores, jobs⟩ := b
  cases chores <;> cases jobs <;> cases h <;> rfl

/-- No request changes the order. -/
theorem order_serve (b : Backlog χ α) (request : Request χ α) :
    (b.serve request).2.order = b.order := by
  cases request with
  | pop =>
    simp only [serve]
    cases hpop : b.pop? with
    | none => rfl
    | some taken => exact order_of_pop? hpop
  | pushJob | pushChore | purge | drain => rfl

/-- So it is the same after any requests. -/
theorem order_run (requests : List (Request χ α)) (b : Backlog χ α) :
    (run requests b).2.order = b.order := by
  induction requests generalizing b with
  | nil => rfl
  | cons request requests ih => exact (ih _).trans (order_serve b request)

section
variable {r : Reference χ α} {b : Backlog χ α} [Std.TransCmp b.order]

/-- A new item goes where the sort puts it. -/
theorem Represents.push (h : Represents r b) (item : Item χ α) :
    (listed b.order (r.push item).pending).map Entry.item
      = place (Item.order b.order) item b.items := by
  rw [h.items, Reference.push, listed_concat (h.numbered.push item).increasing]
  exact (place_map (fun _ _ => rfl) _ _).symm

/-- Each request takes the same items from the backlog and from the reference, and leaves the same
items in the same order. -/
theorem Represents.serve (h : Represents r b) (request : Request χ α) :
    (b.serve request).1 = (r.serve b.order request).1 ∧
      Represents (r.serve b.order request).2 (b.serve request).2 := by
  -- One case for each request. What is placed, taken or left out is the same in both lists.
  cases request with
  | pushJob a =>
    exact ⟨rfl, h.numbered.push _, (items_pushJob a b).trans (h.push (.job a)).symm⟩
  | pushChore c =>
    exact ⟨rfl, h.numbered.push _, (items_pushChore_eq_place c b).trans (h.push (.chore c)).symm⟩
  | pop =>
    have hitems := h.items
    simp only [Backlog.serve, Reference.serve]
    cases hpop : b.pop? with
    | none =>
      rw [(pop?_eq_none_iff b).1 hpop, eq_comm, List.map_eq_nil_iff] at hitems
      rw [hitems]
      exact ⟨rfl, h⟩
    | some taken =>
      obtain ⟨item, rest⟩ := taken
      have horder : rest.order = b.order := order_of_pop? hpop
      rw [items_of_pop? hpop, eq_comm, List.map_eq_cons_iff] at hitems
      obtain ⟨e, l, hlisted, rfl, hl⟩ := hitems
      rw [hlisted]
      refine ⟨rfl, h.numbered.sublist List.filter_sublist, ?_⟩
      rw [horder, listed_filter_head h.numbered.increasing hlisted]
      exact hl.symm
  | purge gone =>
    refine ⟨rfl, h.numbered.sublist List.filter_sublist, ?_⟩
    show (b.purge gone).items = _
    rw [items_purge, h.items, List.filter_map]
    exact congrArg _ (listed_filter h.numbered.increasing _).symm
  | drain =>
    refine ⟨h.items, h.numbered.sublist (List.nil_sublist _), ?_⟩
    show [] = (listed b.order []).map Entry.item
    simp [listed]

end

/-- Requests take the same items from the backlog and from the reference, and leave the same items
in the same order. -/
theorem Represents.run {order : α → α → Ordering} [Std.TransCmp order]
    (requests : List (Request χ α)) {r : Reference χ α} {b : Backlog χ α} (horder : b.order = order)
    (h : Represents r b) : (Backlog.run requests b).1 = (r.run order requests).1 ∧
      Represents (r.run order requests).2 (Backlog.run requests b).2 := by
  induction requests generalizing r b with
  | nil => exact ⟨rfl, h⟩
  | cons request requests ih =>
    subst horder
    obtain ⟨hanswer, h'⟩ := h.serve request
    obtain ⟨hanswers, hrest⟩ := ih (order_serve b request) h'
    refine ⟨?_, hrest⟩
    simp only [Backlog.run, Reference.run, hanswer, hanswers]

end Backlog

end JobScheduling
