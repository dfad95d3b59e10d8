/-!
# Settings of a pool

How many workers a pool has, how large their stacks are, and what their names begin with.
-/

set_option autoImplicit false

namespace JobScheduling

/-- The settings of a pool. -/
structure PoolSettings where
  workers : Nat
  stackSize : Nat
  workerName : String
  deriving DecidableEq, Repr

namespace PoolSettings

/-- The stack of a worker unless said otherwise: two mebibytes. -/
def defaultStackSize : Nat := 2097152

/-- What the names of workers begin with unless said otherwise. -/
def defaultWorkerName : String := "report-worker-"

/-- The smallest stack a worker can have: 64 kibibytes. -/
def minStackSize : Nat := 65536

/-- The settings for so many workers. -/
def ofWorkers (workers : Nat) : PoolSettings := ⟨workers, defaultStackSize, defaultWorkerName⟩

/-- What is wrong with settings of a pool. -/
inductive Fault
  | noWorkers
  | stackTooSmall
  deriving DecidableEq, Repr

/-- The text of a fault. -/
def Fault.message : Fault → String
  | noWorkers => "worker_count must be greater than 0"
  | stackTooSmall => "thread_stack_size must be at least 64 KiB"

/-- The first thing that is wrong with the settings. -/
def fault? (s : PoolSettings) : Option Fault :=
  if s.workers = 0 then some .noWorkers
  else if s.stackSize < minStackSize then some .stackTooSmall
  else none

end PoolSettings

end JobScheduling
