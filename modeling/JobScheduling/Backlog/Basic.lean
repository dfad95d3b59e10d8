
/-!
# The backlog of a pool

A `Backlog` holds what a pool has yet to do. Chores come before all jobs, in the order in
which they came in. Jobs are ordered by a comparison, and jobs that compare equal by the
order in which they came in.

A new job is put before the first job that it precedes. So the jobs are at all times in
the order in which they will be taken, and taking, listing and dropping jobs do not
compare them.
-/

set_option autoImplicit false

namespace JobScheduling

/-- Chores of type `χ` and jobs of type `α` that wait for a worker. -/
structure Backlog (χ α : Type) where
  order : α → α → Ordering
  chores : List χ := []
  jobs : List α := []

namespace Backlog

variable {χ α : Type}

/-- What a worker can take. -/
inductive Item (χ α : Type)
  | chore (chore : χ)
  | job (job : α)
  deriving DecidableEq, Repr

/-- Puts a job before the first one that it precedes. -/
def place (order : α → α → Ordering) (a : α) : List α → List α
  | [] => [a]
  | b :: rest => if order a b = .lt then a :: b :: rest else b :: place order a rest

/-- Adds a job. -/
def pushJob (a : α) (b : Backlog χ α) : Backlog χ α := { b with jobs := place b.order a b.jobs }

/-- Adds a chore. -/
def pushChore (c : χ) (b : Backlog χ α) : Backlog χ α := { b with chores := b.chores ++ [c] }

/-- How many items wait. -/
def size (b : Backlog χ α) : Nat := b.chores.length + b.jobs.length

/-- Everything that waits, in the order in which it will be taken. -/
def items (b : Backlog χ α) : List (Item χ α) := b.chores.map .chore ++ b.jobs.map .job

/-- Takes the first item. -/
def pop? (b : Backlog χ α) : Option (Item χ α × Backlog χ α) :=
  match b.chores, b.jobs with
  | c :: rest, _ => some (.chore c, { b with chores := rest })
  | [], a :: rest => some (.job a, { b with jobs := rest })
  | [], [] => none

/-- Drops the jobs that satisfy a test. -/
def purge (gone : α → Bool) (b : Backlog χ α) : Backlog χ α :=
  { b with jobs := b.jobs.filter fun a => !gone a }

/-- How many jobs a purge drops. -/
def purgeCount (gone : α → Bool) (b : Backlog χ α) : Nat := b.jobs.countP gone

/-- Takes everything. -/
def drain (b : Backlog χ α) : List (Item χ α) × Backlog χ α :=
  (b.items, { b with chores := [], jobs := [] })

/-! ## The operations through `items` -/

/-- To place an element adds it and nothing else. -/
theorem place_perm (order : α → α → Ordering) (a : α) (l : List α) :
    (place order a l).Perm (a :: l) := by
  induction l with
  | nil => exact .refl _
  | cons b l ih =>
    simp only [place]
    split
    · exact .refl _
    · exact (ih.cons b).trans (.swap a b l)

/-- The items are as many as the size says. -/
theorem length_items (b : Backlog χ α) : b.items.length = b.size := by simp [items, size]

/-- Adding a job adds one item. -/
theorem items_pushJob_perm (a : α) (b : Backlog χ α) :
    (b.pushJob a).items.Perm (.job a :: b.items) := by
  have hjobs := (place_perm b.order a b.jobs).map (Item.job (χ := χ))
  exact (hjobs.append_left _).trans List.perm_middle

/-- Adding a chore adds one item, after the other chores and before all jobs. -/
theorem items_pushChore (c : χ) (b : Backlog χ α) :
    (b.pushChore c).items = b.chores.map .chore ++ .chore c :: b.jobs.map .job := by
  simp [items, pushChore]

/-- Nothing can be taken when there is nothing. -/
theorem pop?_eq_none_iff (b : Backlog χ α) : b.pop? = none ↔ b.items = [] := by
  simp only [pop?, items]
  cases b.chores <;> cases b.jobs <;> simp

/-- Taking an item takes the first one. -/
theorem items_of_pop? {b rest : Backlog χ α} {item : Item χ α} (h : b.pop? = some (item, rest)) :
    b.items = item :: rest.items := by
  obtain ⟨order, chores, jobs⟩ := b
  cases chores with
  | cons c chores =>
    cases h
    rfl
  | nil =>
    cases jobs with
    | cons a jobs =>
      cases h
      rfl
    | nil => cases h

/-- A purge drops as many jobs as it counts. -/
theorem purgeCount_add_length (gone : α → Bool) (b : Backlog χ α) :
    b.purgeCount gone + (b.purge gone).jobs.length = b.jobs.length := by
  have hsplit : b.jobs.length = _ := List.length_eq_countP_add_countP gone
  simpa [purgeCount, purge, ← List.countP_eq_length_filter] using hsplit.symm

end Backlog

end JobScheduling
