import JobScheduling.Clock
import JobScheduling.Json.Value
import JobScheduling.Text.Blank

/-!
# Jobs

A `Job` is what a client submits: a reference id, the time of submission, the token of
its owner if it has one, and parameters that only the work itself reads.

A job with an owner answers only to the owner's token. A job without one answers to
everybody.
-/

set_option autoImplicit false

namespace JobScheduling

/-- A submitted job. -/
structure Job where
  id : String
  submittedAt : Nat
  owner : Option String := none
  params : Json := .null
  deriving DecidableEq, Repr

namespace Job

/-- Whether the job names an owner by a blank token, which nobody could present. -/
def hasBlankOwner (job : Job) : Bool := job.owner.any isBlankText

/-- Whether a caller with this credential may see and cancel the job. -/
def admits (job : Job) (credential : Option String) : Bool :=
  match job.owner with
  | none => true
  | some owner => credential == some owner

/-- How long ago the job was submitted. -/
def age (job : Job) (now : Nat) : Nat := elapsed now job.submittedAt

/-- A job without owner admits everybody, and any other one its owner. -/
theorem admits_iff (job : Job) (credential : Option String) :
    job.admits credential = true ↔ ∀ owner, job.owner = some owner → credential = some owner := by
  simp only [admits]
  cases job.owner <;> simp

end Job

/-- What the work of a job produced. -/
structure Report where
  uri : String
  fileName : String
  mimeType : String
  deriving DecidableEq, Repr

/-- Why the work of a job failed: the outermost message and the innermost cause. -/
structure Failure where
  message : String
  rootCause : String
  deriving DecidableEq, Repr

namespace Failure

/-- A failure that is its own cause. -/
def ofMessage (message : String) : Failure := ⟨message, message⟩

/-- A failure with a message of its own that wraps a chain of causes, outermost first. A
chain has at least one cause. -/
def wrapping (message : String) (causes : List String) : Option Failure :=
  causes.getLast?.map fun root => ⟨message, root⟩

/-- The failure that a chain of causes stands for, outermost first. -/
def ofCauses (causes : List String) : Option Failure :=
  causes.head?.bind fun message => wrapping message causes

/-- The text of a failure is its message. -/
def text (failure : Failure) : String := failure.message

end Failure

end JobScheduling
