import JobScheduling.Clock
import JobScheduling.Pool.Settings

/-!
# Settings of a node

Every setting has a default except the number of running jobs, whose default is the
number of cores of the host. Settings are checked in a fixed order, and the first fault
counts. Against the retention of the shared queue they are checked separately: a record
must outlive the job's timeouts, or its end would go unseen.

A single setting is named by a `Setting`, and an `Assignment` gives it a value. All that
reads settings from outside works through assignments.
-/

set_option autoImplicit false

namespace JobScheduling

/-- The settings of a node. -/
structure Settings where
  /-- How many jobs run at once, which is the number of workers. -/
  maxRunning : Nat
  /-- So many waiting jobs keep further ones out. -/
  maxWaiting : Nat := 5000
  /-- Kept for information: the number of workers is fixed. -/
  workerIdleSecs : Nat := 60
  timeoutSecs : Nat := 600
  /-- A job is abandoned when nobody asks for its status for so long. -/
  abandonedSecs : Nat := 120
  cleanup : Bool := true
  cleanupIntervalSecs : Nat := 86400
  /-- Whether the node takes its jobs from the shared queue instead of from submissions. -/
  clustered : Bool := false
  reconcileMillis : Nat := 500
  stackSize : Nat := PoolSettings.defaultStackSize
  deriving DecidableEq, Repr

/-- The settings that are numbers. -/
inductive NumberSetting
  | maxRunning
  | maxWaiting
  | workerIdleSecs
  | timeoutSecs
  | abandonedSecs
  | cleanupIntervalSecs
  | reconcileMillis
  | stackSize
  deriving DecidableEq, Repr

/-- The settings that are switches. -/
inductive SwitchSetting
  | cleanup
  | clustered
  deriving DecidableEq, Repr

/-- A setting. -/
inductive Setting
  | number (setting : NumberSetting)
  | switch (setting : SwitchSetting)
  deriving DecidableEq, Repr

/-- A setting with a value for it. -/
inductive Assignment
  | number (setting : NumberSetting) (value : Nat)
  | switch (setting : SwitchSetting) (value : Bool)
  deriving DecidableEq, Repr

/-- The name of a setting that is a number. -/
def NumberSetting.name : NumberSetting → String
  | maxRunning => "max_running_jobs"
  | maxWaiting => "max_waiting_jobs"
  | workerIdleSecs => "worker_idle_timeout_secs"
  | timeoutSecs => "timeout_secs"
  | abandonedSecs => "abandoned_timeout_secs"
  | cleanupIntervalSecs => "old_file_cleanup_interval_secs"
  | reconcileMillis => "reconcile_interval_ms"
  | stackSize => "thread_stack_size"

/-- The name of a setting that is a switch. -/
def SwitchSetting.name : SwitchSetting → String
  | cleanup => "old_file_cleanup"
  | clustered => "clustered"

namespace Setting

/-- The name of a setting. -/
def name : Setting → String
  | number setting => setting.name
  | switch setting => setting.name

/-- All settings, in the order in which they are written and read. -/
def all : List Setting :=
  [.number .maxRunning, .number .maxWaiting, .number .workerIdleSecs, .number .timeoutSecs,
    .number .abandonedSecs, .switch .cleanup, .number .cleanupIntervalSecs, .switch .clustered,
    .number .reconcileMillis, .number .stackSize]

/-- The names of all settings. -/
def names : List String := all.map name

/-- Every setting is on the list. -/
theorem mem_all (setting : Setting) : setting ∈ all := by
  rcases setting with s | s <;> cases s <;> decide

/-- No two settings have the same name. -/
theorem names_nodup : names.Nodup := by decide

end Setting

/-- The setting that an assignment is for. -/
def Assignment.setting : Assignment → Setting
  | number setting _ => .number setting
  | switch setting _ => .switch setting

namespace Settings

/-- The default settings on a host with so many cores. -/
def standard (cores : Nat) : Settings := { maxRunning := cores }

/-- The settings with one number changed. -/
def setNumber (s : Settings) (value : Nat) : NumberSetting → Settings
  | .maxRunning => { s with maxRunning := value }
  | .maxWaiting => { s with maxWaiting := value }
  | .workerIdleSecs => { s with workerIdleSecs := value }
  | .timeoutSecs => { s with timeoutSecs := value }
  | .abandonedSecs => { s with abandonedSecs := value }
  | .cleanupIntervalSecs => { s with cleanupIntervalSecs := value }
  | .reconcileMillis => { s with reconcileMillis := value }
  | .stackSize => { s with stackSize := value }

/-- The settings with one switch changed. -/
def setSwitch (s : Settings) (value : Bool) : SwitchSetting → Settings
  | .cleanup => { s with cleanup := value }
  | .clustered => { s with clustered := value }

/-- The settings after an assignment. -/
def assign (s : Settings) : Assignment → Settings
  | .number setting value => s.setNumber value setting
  | .switch setting value => s.setSwitch value setting

/-- The settings after assignments, one after the other. -/
def assignAll (s : Settings) (assignments : List Assignment) : Settings :=
  assignments.foldl assign s

/-- The value of a setting. -/
def assignment (s : Settings) : Setting → Assignment
  | .number setting => .number setting <| match setting with
    | .maxRunning => s.maxRunning
    | .maxWaiting => s.maxWaiting
    | .workerIdleSecs => s.workerIdleSecs
    | .timeoutSecs => s.timeoutSecs
    | .abandonedSecs => s.abandonedSecs
    | .cleanupIntervalSecs => s.cleanupIntervalSecs
    | .reconcileMillis => s.reconcileMillis
    | .stackSize => s.stackSize
  | .switch setting => .switch setting <| match setting with
    | .cleanup => s.cleanup
    | .clustered => s.clustered

/-- The settings of the node's pool. -/
def pool (s : Settings) : PoolSettings :=
  { PoolSettings.ofWorkers s.maxRunning with stackSize := s.stackSize }

/-- The time limit of a job as a duration, at most the largest one. -/
def timeoutMillis (s : Settings) : Nat := capped (s.timeoutSecs * 1000)

/-- The time after which a job is abandoned, at most the largest duration. -/
def abandonedMillis (s : Settings) : Nat := capped (s.abandonedSecs * 1000)

/-- What is wrong with settings. -/
inductive Fault
  | notPositive (setting : NumberSetting)
  | pool (fault : PoolSettings.Fault)
  /-- A timeout is not shorter than the retention of the shared queue. -/
  | beyondRetention (timeout : String) (millis retention : Nat)
  deriving DecidableEq, Repr

/-- The text of a fault. -/
def Fault.message : Fault → String
  | notPositive setting => setting.name ++ " must be greater than 0"
  | pool fault => fault.message
  | beyondRetention timeout millis retention =>
    s!"{timeout} ({millis} ms) must be smaller than the queue retention ({retention} ms)"

/-- The first thing that is wrong with the settings. -/
def fault? (s : Settings) : Option Fault :=
  if s.maxRunning = 0 then some (.notPositive .maxRunning)
  else if s.maxWaiting = 0 then some (.notPositive .maxWaiting)
  else if s.timeoutSecs = 0 then some (.notPositive .timeoutSecs)
  else if s.abandonedSecs = 0 then some (.notPositive .abandonedSecs)
  else if s.reconcileMillis = 0 then some (.notPositive .reconcileMillis)
  else if s.cleanup ∧ s.cleanupIntervalSecs = 0 then some (.notPositive .cleanupIntervalSecs)
  else s.pool.fault?.map .pool

/-- The first timeout that is not shorter than the retention of the shared queue. A queue
that keeps its records forever outlasts every timeout. -/
def retentionFault? (s : Settings) : Option Nat → Option Fault
  | none => none
  | some retention =>
    if retention ≤ s.abandonedMillis then
      some (.beyondRetention "abandoned_timeout" s.abandonedMillis retention)
    else if retention ≤ s.timeoutMillis then
      some (.beyondRetention "timeout" s.timeoutMillis retention)
    else none

/-- Next to a retention without a fault both limits are shorter than it. -/
theorem lt_of_retentionFault? {s : Settings} {retention : Nat}
    (h : s.retentionFault? (some retention) = none) :
    s.abandonedMillis < retention ∧ s.timeoutMillis < retention := by
  unfold retentionFault? at h
  dsimp only at h
  split at h
  · cases h
  split at h
  · cases h
  next habandoned htimeout => exact ⟨Nat.lt_of_not_le habandoned, Nat.lt_of_not_le htimeout⟩

/-- Settings without a fault, or the text of the first one. -/
def checked (s : Settings) : Except String Settings :=
  match s.fault? with
  | some fault => .error fault.message
  | none => .ok s

end Settings

end JobScheduling
