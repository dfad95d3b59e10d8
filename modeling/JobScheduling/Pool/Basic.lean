import JobScheduling.Backlog.Basic
import JobScheduling.Error
import JobScheduling.Pool.Settings
import JobScheduling.Priority
import JobScheduling.Ticket

/-!
# Pools

A `Pool` has a fixed number of workers and a backlog. It keeps every ticket it ever gave
out, under the ticket's number. This module holds what callers do to a pool; what its
workers do by themselves is in `JobScheduling.Pool.Workers`.

Work is a function of the job. It either ends at once or holds its worker until somebody
ends it from outside, and it can crash, which counts as a failure.

What a caller does is one step, and so is each action of a worker. The counters are kept
step by step. What could happen on other threads in the middle of a step is not described:
not while a job is submitted or the pool is stopped, and not between two points at which
work awaits something. Work that holds a worker awaits all the time, so it heeds a
cancellation at once.
-/

set_option autoImplicit false

namespace JobScheduling

/-- How work ends: with a report, with a failure, or by a crash that may leave a text. -/
inductive WorkEnd
  | report (report : Report)
  | failure (failure : Failure)
  | crash (text : Option String)
  deriving DecidableEq, Repr

/-- What the work of a job does once it has begun. -/
inductive Work
  /-- It ends without awaiting anything, within the action that begins it. -/
  | ends (how : WorkEnd)
  /-- It awaits something until it is ended from outside, and heeds a cancellation at once. -/
  | holds
  deriving DecidableEq, Repr

/-- The outcome of work that was not cancelled. -/
def WorkEnd.outcome : WorkEnd → Outcome
  | report r => .completed r
  | failure f => .failed f
  | crash text => .failed (.ofMessage ("job panicked: " ++ text.getD "unknown panic"))

/-- What a worker does besides jobs. -/
inductive Chore
  /-- Drops the cancelled jobs from the backlog. -/
  | purge
  deriving DecidableEq, Repr

/-- A job in the backlog, with the number of its ticket. -/
structure Slot where
  ticket : Nat
  job : Job
  deriving DecidableEq, Repr

/-- What a pool counts. -/
structure Counters where
  submitted : Nat := 0
  queued : Nat := 0
  active : Nat := 0
  completed : Nat := 0
  failed : Nat := 0
  cancelled : Nat := 0
  deriving DecidableEq, Repr

/-- The counters after so many items left the backlog. -/
def Counters.dequeued (n : Nat) (c : Counters) : Counters := { c with queued := c.queued - n }

/-- The counters after a job ended with an outcome. -/
def Counters.ended (outcome : Outcome) (c : Counters) : Counters :=
  match outcome with
  | .completed _ => { c with completed := c.completed + 1 }
  | .failed _ => { c with failed := c.failed + 1 }
  | .cancelled | .interrupted => { c with cancelled := c.cancelled + 1 }

/-- A pool of workers. -/
structure Pool where
  settings : PoolSettings
  /-- What the work of a job does. -/
  work : Job → Work
  backlog : Backlog Chore Slot
  /-- Every ticket given out; its place is its number. -/
  tickets : List Ticket := []
  /-- The tickets whose work occupies a worker, oldest first. -/
  busy : List Nat := []
  /-- The tickets whose work has begun, in that order. -/
  begun : List Nat := []
  /-- How many workers have broken down. -/
  lost : Nat := 0
  counters : Counters := {}
  isShutDown : Bool := false

namespace Pool

/-- The comparison of jobs in the backlog of a pool. -/
def slotOrder (priority : Priority) (a b : Slot) : Ordering := priority a.job b.job

/-- A pool at rest. The settings must be valid. -/
def new (settings : PoolSettings) (work : Job → Work) (priority : Priority) :
    Except Error Pool :=
  match settings.fault? with
  | some fault => .error (.invalidSettings fault.message)
  | none => .ok { settings, work, backlog := { order := slotOrder priority } }

/-- Whether the ticket of a number has finished. -/
def hasFinished (p : Pool) (ticket : Nat) : Bool := p.tickets[ticket]?.any (·.isFinished)

/-- Changes the ticket of a number. -/
def modifyTicket (ticket : Nat) (f : Ticket → Ticket) (p : Pool) : Pool :=
  { p with tickets := p.tickets.modify ticket f }

/-- Gives out a ticket for a job and puts the job into the backlog. -/
def submit (job : Job) (p : Pool) : Except Error (Nat × Pool) :=
  if p.isShutDown then .error .poolShutDown
  else
    let ticket := p.tickets.length
    .ok (ticket, { p with
      tickets := p.tickets ++ [{ job }]
      backlog := p.backlog.pushJob ⟨ticket, job⟩
      counters := { p.counters with
        submitted := p.counters.submitted + 1
        queued := p.counters.queued + 1 } })

/-- Cancels a ticket. The answer is `false` when it has finished before. -/
def cancel (ticket : Nat) (p : Pool) : Bool × Pool :=
  match p.tickets[ticket]? with
  | none => (false, p)
  | some t => (t.cancel.1, p.modifyTicket ticket fun t => t.cancel.2)

/-- How many cancelled jobs lie in the backlog. -/
def purgeCount (p : Pool) : Nat := p.backlog.purgeCount fun slot => p.hasFinished slot.ticket

/-- Drops the cancelled jobs from the backlog. -/
def purge (p : Pool) : Pool :=
  let removed := p.purgeCount
  let counters := p.counters.dequeued removed
  { p with
    backlog := p.backlog.purge fun slot => p.hasFinished slot.ticket
    counters := { counters with cancelled := counters.cancelled + removed } }

/-- Leaves the purge to the next free worker. -/
def schedulePurge (p : Pool) : Except Error Pool :=
  if p.isShutDown then .error .poolShutDown
  else .ok { p with
    backlog := p.backlog.pushChore .purge
    counters := { p.counters with queued := p.counters.queued + 1 } }

/-- Frees the worker of a ticket, whose work ended with an outcome. -/
def leave (ticket : Nat) (outcome : Outcome) (p : Pool) : Pool :=
  { p with
    tickets := p.tickets.modify ticket fun t => (t.finish outcome).2
    busy := p.busy.erase ticket
    counters := { p.counters with active := p.counters.active - 1 }.ended outcome }

/-- Ends the work of a ticket that occupies a worker. Work that was cancelled before
counts as cancelled, however it ends: it heeded the cancellation where it awaited
something, and did not get as far as its end. -/
def endWork (ticket : Nat) (how : WorkEnd) (p : Pool) : Pool :=
  p.leave ticket (if p.tickets[ticket]?.any (·.cancelled) then .cancelled else how.outcome)

/-- Whether the ticket is for the job of an id. -/
def isFor (id : String) (p : Pool) (ticket : Nat) : Bool :=
  p.tickets[ticket]?.any fun t => t.job.id == id

/-- The work for the job of an id that goes on: that of the ticket named, or else the
longest running one. -/
def runningFor? (id : String) (named : Option Nat) (p : Pool) : Option Nat :=
  p.busy.find? fun ticket => p.isFor id ticket && named.all (· == ticket)

/-- Ends work for the job of an id, if there is any: that of the ticket named, or else the
longest running one. -/
def release (id : String) (how : WorkEnd) (named : Option Nat) (p : Pool) : Bool × Pool :=
  match p.runningFor? id named with
  | none => (false, p)
  | some ticket => (true, p.endWork ticket how)

/-- When its ticket is named, work can be ended that is not the longest running one for the
job of its id. -/
theorem release_named {p : Pool} {ticket : Nat} {t : Ticket} (how : WorkEnd)
    (hbusy : ticket ∈ p.busy) (ht : p.tickets[ticket]? = some t) :
    p.release t.job.id how (some ticket) = (true, p.endWork ticket how) := by
  have hfor : p.isFor t.job.id ticket = true := by
    rw [isFor, ht, Option.any_some, beq_self_eq_true]
  have hfound : p.runningFor? t.job.id (some ticket) = some ticket := by
    rw [runningFor?, List.find?_eq_some_iff_append]
    refine ⟨by simp [hfor], ?_⟩
    obtain ⟨before, after, hbusy, hfirst⟩ := List.eq_append_cons_of_mem hbusy
    refine ⟨before, after, hbusy, fun m hm => ?_⟩
    have hother : ticket ≠ m := fun h => hfirst (h ▸ hm)
    simp [hother]
  simp only [release, hfound]

/-- Ends all work that occupies a worker, each in its way. -/
def endAll (how : Job → WorkEnd) (p : Pool) : Pool :=
  p.busy.foldl (fun p ticket =>
    match p.tickets[ticket]? with
    | none => p
    | some t => p.endWork ticket (how t.job)) p

/-- The tickets of the jobs among items of the backlog. -/
def ticketsOf (items : List (Backlog.Item Chore Slot)) : List Nat :=
  items.filterMap fun
    | .job slot => some slot.ticket
    | .chore _ => none

/-- Stops the pool. Jobs in the backlog are interrupted, and no worker takes anything
any more. Work that has begun goes on. -/
def shutDown (p : Pool) : Pool :=
  if p.isShutDown then p
  else
    let (items, backlog) := p.backlog.drain
    { p with
      isShutDown := true
      backlog
      counters := p.counters.dequeued items.length
      tickets := (ticketsOf items).foldl
        (fun tickets n => tickets.modify n fun t => (t.finish .interrupted).2) p.tickets }

/-- Stops the pool, and ends the work that is still going on, each in its way. -/
def stop (lastly : Job → WorkEnd) (p : Pool) : Pool := p.shutDown.endAll lastly

end Pool

end JobScheduling
