import JobScheduling.Backlog.Basic

/-!
# Runs of a backlog

A `Backlog.Request` is one operation on a backlog, and `Backlog.serve` serves it. The
answer lists the items that left the backlog for a worker, and `Backlog.run` collects the
answers of a run.
-/

set_option autoImplicit false

namespace JobScheduling

namespace Backlog

/-- An operation on a backlog. -/
inductive Request (χ α : Type)
  | pushJob (job : α)
  | pushChore (chore : χ)
  | pop
  /-- Drops the jobs that satisfy a test. -/
  | purge (gone : α → Bool)
  | drain

variable {χ α : Type}

/-- Serves one request. -/
def serve (b : Backlog χ α) : Request χ α → List (Item χ α) × Backlog χ α
  | .pushJob a => ([], b.pushJob a)
  | .pushChore c => ([], b.pushChore c)
  | .pop =>
    match b.pop? with
    | none => ([], b)
    | some (item, b) => ([item], b)
  | .purge gone => ([], b.purge gone)
  | .drain => b.drain

/-- Serves requests one after the other, and lists what each took out. -/
def run : List (Request χ α) → Backlog χ α → List (List (Item χ α)) × Backlog χ α
  | [], b => ([], b)
  | request :: rest, b =>
    let (taken, b) := b.serve request
    let (more, b) := run rest b
    (taken :: more, b)

end Backlog

end JobScheduling
