import JobScheduling.Job.Basic

/-!
# Priorities

A `Priority` says which of two waiting jobs a worker takes first. Jobs that it does not
tell apart are taken in the order in which they were accepted.
-/

set_option autoImplicit false

namespace JobScheduling

/-- Which of two jobs a worker takes first: `lt` for the left one. -/
abbrev Priority := Job → Job → Ordering

namespace Priority

/-- The order of submission, which is the rule unless another is given. -/
def submission : Priority := fun a b => compare a.submittedAt b.submittedAt

/-- The latest submission first. -/
def latest : Priority := fun a b => submission b a

/-- The order of the reference ids. -/
def byId : Priority := fun a b => compare a.id b.id

/-- No job before another. -/
def unordered : Priority := fun _ _ => .eq

/-- The rank that a job has by its parameters: an integer of 64 bits under a name, and
otherwise zero. -/
def rank (name : String) (job : Job) : Int :=
  match (job.params.field? name).bind Json.int? with
  | some i => if i < Nat.pow 2 63 then i else 0
  | _ => 0

/-- The highest rank first, and of equal ranks the earlier submission. -/
def byRank (name : String) : Priority := fun a b =>
  (compare (rank name b) (rank name a)).then (submission a b)

end Priority

end JobScheduling
