import JobScheduling.Job.Stage

/-!
# Errors

Every way in which a request to the scheduler can be refused. `Error.message` is the text
a client sees.
-/

set_option autoImplicit false

namespace JobScheduling

/-- Why a request was refused. -/
inductive Error
  /-- So many jobs wait that no more are taken. -/
  | capacityExceeded (waiting limit : Nat)
  | noSuchReference (id : String)
  /-- The caller is not the owner, or the owner's token is blank. -/
  | accessDenied (id : String)
  /-- The lifecycle has no move between these stages. -/
  | invalidTransition (id : String) (source target : Stage)
  | invalidSettings (reason : String)
  | poolShutDown
  /-- The shared queue could not serve the request. -/
  | backend (reason : String)
  deriving DecidableEq, Repr

namespace Error

/-- The text of an error. -/
def message : Error → String
  | capacityExceeded waiting limit =>
    s!"max. number of waiting jobs exceeded: {waiting} waiting, limit {limit}"
  | noSuchReference id => s!"no such reference: {id}"
  | accessDenied id => s!"access denied to job {id}"
  | invalidTransition id source target =>
    "job " ++ id ++ " cannot move from " ++ source.name ++ " to " ++ target.name
  | invalidSettings reason => s!"invalid configuration: {reason}"
  | poolShutDown => "worker pool has been shut down"
  | backend reason => s!"backend error: {reason}"

end Error

end JobScheduling
