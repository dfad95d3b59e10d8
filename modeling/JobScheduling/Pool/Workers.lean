import JobScheduling.Pool.Basic

/-!
# What workers do

The workers of a pool act one after the other, each action being one of two. A worker
whose job was cancelled gives the job up and is free. A free worker takes the first item
of the backlog: it does a chore, skips a job that was cancelled, or begins the job.

A hook is told of every job just before its work begins. It is the caller's way to take
part, and threads a state of its own through the actions. A hook that crashes takes the
worker with it: the work never begins, and the pool has one worker less.

`Pool.settle` lets the workers act until none of them can. Every action makes
`Pool.toDo` smaller, so that is soon.
-/

set_option autoImplicit false

namespace JobScheduling

namespace Pool

variable {σ : Type}

/-- What is told of every job just before its work begins. The answer is `false` when it
crashed. -/
abbrev Hook (σ : Type) := Job → σ → Bool × σ

/-- The first worker that holds a job which was cancelled. -/
def strayWorker? (p : Pool) : Option Nat := p.busy.find? p.hasFinished

/-- Whether a worker is free. -/
def hasFreeWorker (p : Pool) : Bool := p.busy.length + p.lost < p.settings.workers

/-- The work of a job begins, and ends if it holds no worker. -/
def perform (slot : Slot) (p : Pool) : Pool :=
  let p := { p with
    busy := p.busy ++ [slot.ticket]
    begun := p.begun ++ [slot.ticket]
    counters := { p.counters with active := p.counters.active + 1 } }
  match p.work slot.job with
  | .holds => p
  | .ends how => p.endWork slot.ticket how

/-- A free worker executes a job: its ticket begins, the hook hears of it, and the work
is performed. A ticket that was cancelled is skipped. -/
def execute (hook : Hook σ) (slot : Slot) (p : Pool) (s : σ) : Pool × σ :=
  match p.tickets[slot.ticket]? with
  | none => (p, s)
  | some t =>
    if t.begin?.1 then
      let p := p.modifyTicket slot.ticket fun t => t.begin?.2
      -- The hook comes before the work is counted as active.
      match hook slot.job s with
      | (true, s) => (p.perform slot, s)
      | (false, s) => ({ p with lost := p.lost + 1 }, s)
    else (({ p with counters := p.counters.ended .cancelled }), s)

/-- A free worker does what it took from the backlog. -/
def carryOut (hook : Hook σ) (item : Backlog.Item Chore Slot) (p : Pool) (s : σ) :
    Pool × σ :=
  match item with
  | .chore .purge => (p.purge, s)
  | .job slot => p.execute hook slot s

/-- One action of the workers, if there is one to do. -/
def act? (hook : Hook σ) (p : Pool) (s : σ) : Option (Pool × σ) :=
  match p.strayWorker? with
  | some ticket => some (p.leave ticket .cancelled, s)
  | none =>
    if p.hasFreeWorker then
      p.backlog.pop?.map fun (item, backlog) =>
        carryOut hook item { p with backlog, counters := p.counters.dequeued 1 } s
    else none

/-- Up to so many actions of the workers. -/
def acts (hook : Hook σ) : Nat → Pool → σ → Pool × σ
  | 0, p, s => (p, s)
  | n + 1, p, s =>
    match p.act? hook s with
    | none => (p, s)
    | some (p, s) => acts hook n p s

/-- A bound on the actions that the workers can still do. -/
def toDo (p : Pool) : Nat := 2 * p.backlog.size + p.busy.length

/-- The pool after the workers have done all they can. -/
def settle (hook : Hook σ) (p : Pool) (s : σ) : Pool × σ := acts hook p.toDo p s

end Pool

end JobScheduling
