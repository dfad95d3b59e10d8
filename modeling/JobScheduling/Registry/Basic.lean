import JobScheduling.Registry.Record
import JobScheduling.Table

/-!
# The registry of jobs

The `Registry` is the shared queue in memory: a table of records by reference id, and
counters over all jobs it ever recorded. Every operation takes the time now.

The counters are kept in one place. `Registry.update` replaces a record, and when the
record has ended by it, the job is counted as completed, and its duration as well if it
is done. So a job counts once, in the operation that ends it.

Ended records are dropped once nobody has asked for them for the retention. That happens
in `add`, `cancelOverdue` and `toCancel`, never in between.
-/

set_option autoImplicit false

namespace JobScheduling

/-- The shared queue in memory. -/
structure Registry where
  records : Table Record := {}
  /-- How many jobs were recorded so far. -/
  requests : Nat := 0
  /-- How many jobs have ended. -/
  completed : Nat := 0
  /-- How many jobs are done. -/
  doneCount : Nat := 0
  /-- The durations of the jobs that are done, added up. -/
  doneTime : Nat := 0
  /-- How long an ended record is kept, or forever. -/
  retention : Option Nat
  deriving Inhabited

/-- How long ended records are kept unless said otherwise: half an hour. -/
def defaultRetention : Nat := 1800000

namespace Registry

/-- The registry without the records that have expired. -/
def purge (now : Nat) (q : Registry) : Registry :=
  match q.retention with
  | none => q
  | some retention => { q with records := q.records.filter fun _ r => !r.isExpired now retention }

/-- How many records a purge removes. -/
def expiredCount (now : Nat) (q : Registry) : Nat := q.records.size - (q.purge now).records.size

/-- The counters after a record changed from `old` to `new`. -/
def tally (now : Nat) (old new : Record) (q : Registry) : Registry :=
  -- Only the change that ends a record counts.
  if old.isFinal || !new.isFinal then q
  else if new.stage = .done then
    { q with
      completed := q.completed + 1
      doneCount := q.doneCount + 1
      doneTime := capped (q.doneTime + new.duration now) }
  else { q with completed := q.completed + 1 }

/-- Replaces the record of a job by its image and counts the job if it ends by that. A
failure leaves everything as it was. -/
def update (now : Nat) (id : String) (f : Record → Except Error Record) (q : Registry) :
    Except Error Unit × Registry :=
  match q.records.find? id with
  | none => (.error (.noSuchReference id), q)
  | some old =>
    match f old with
    | .error e => (.error e, q)
    | .ok new =>
      (.ok (), { q with records := q.records.modify id fun _ => new }.tally now old new)

/-- Records a job as waiting. Its id must not be recorded already. -/
def add (now : Nat) (job : Job) (q : Registry) : Except Error Unit × Registry :=
  -- The purge comes first: the id of an expired record is free again.
  let q := q.purge now
  if q.records.contains job.id then
    (.error (.backend s!"duplicate reference id {job.id}"), q)
  else
    let request := q.requests + 1
    (.ok (), { q with
      requests := request
      records := q.records.insert job.id (.new now job request) })

/-- The status of a job. An external request is a status check by the client. -/
def get (now : Nat) (id : String) (external : Bool) (q : Registry) :
    Except Error Status × Registry :=
  match q.records.find? id with
  | none => (.error (.noSuchReference id), q)
  | some r =>
    (.ok r.status,
      if external then { q with records := q.records.modify id (·.checked now) } else q)

/-- Marks a waiting job as running. -/
def start (now : Nat) (id : String) (q : Registry) : Except Error Unit × Registry :=
  q.update now id (·.start now)

/-- Records that the work of a job ended. -/
def finish (now : Nat) (id : String) (ending : Ending) (q : Registry) :
    Except Error Unit × Registry :=
  q.update now id (·.finish now ending)

/-- Asks a job to stop, or records that it has stopped. -/
def cancel (now : Nat) (id : String) (reason : String) (immediate : Bool) (q : Registry) :
    Except Error Unit × Registry :=
  q.update now id fun r => .ok (r.cancel now reason immediate)

/-- Whether one waiting job is claimed before the other: the one submitted earlier, and of
two submitted together the one with the smaller id. -/
def claimsBefore (a b : Nat × String) : Bool :=
  a.1 < b.1 || (a.1 == b.1 && a.2 ≤ b.2)

/-- The ids of the waiting jobs in the order in which they are claimed. -/
def waitingIds (q : Registry) : List String :=
  let waiting := q.records.rows.filter fun row => row.2.stage == .waiting
  let keys := waiting.map fun row => (row.2.status.job.submittedAt, row.1)
  (keys.mergeSort claimsBefore).map Prod.snd

/-- Claims up to `n` waiting jobs and marks them as running. -/
def startNext (now : Nat) (n : Nat) (q : Registry) : List Status × Registry :=
  let ids := q.waitingIds.take n
  let q := ids.foldl (fun q id => (q.start now id).2) q
  (ids.filterMap fun id => (q.records.find? id).map (·.status), q)

/-- An order in which the records are visited, as a function on their ids. -/
abbrev Scan := List String → List String

/-- The ids of the overdue jobs, in the order of the visit. -/
def overdueIds (scan : Scan) (now timeout abandoned : Nat) (q : Registry) : List String :=
  (scan q.records.keys).filter fun id =>
    (q.records.find? id).any (·.isOverdue now timeout abandoned)

/-- Cancels every job that has taken too long or was abandoned, and says how many. -/
def cancelOverdue (scan : Scan) (now timeout abandoned : Nat) (reason : String) (q : Registry) :
    Nat × Registry :=
  let q := q.purge now
  let ids := q.overdueIds scan now timeout abandoned
  (ids.length, ids.foldl (fun q id => (q.cancel now id reason true).2) q)

/-- The jobs that were asked to stop and have not stopped yet, in the order of the visit. -/
def toCancel (scan : Scan) (now : Nat) (q : Registry) : List Status × Registry :=
  let q := q.purge now
  let found := (scan q.records.keys).filterMap q.records.find?
  ((found.filter fun r => r.stage == .canceling).map (·.status), q)

/-- How many jobs wait. -/
def waitingCount (q : Registry) : Nat := q.records.values.countP fun r => r.stage == .waiting

/-- The mean duration of the jobs that are done, and zero while there is none. -/
def averageDuration (q : Registry) : Nat := q.doneTime / q.doneCount

/-- The time since the client last asked for a job. -/
def sinceCheck (now : Nat) (id : String) (q : Registry) : Except Error Nat :=
  match q.records.find? id with
  | none => .error (.noSuchReference id)
  | some r => .ok (elapsed now r.lastCheck)

/-- Every stage a recorded job went through. -/
def history? (id : String) (q : Registry) : Option (List Stage) :=
  (q.records.find? id).map (·.history)

end Registry

end JobScheduling
