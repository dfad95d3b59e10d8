import JobScheduling.Pool.Workers

/-!
# Runs of a pool

A `Pool.Step` is one thing that is done to a pool from outside. A step is over when the
workers have nothing left to do. `Pool.run` takes one step after the other.
-/

set_option autoImplicit false

namespace JobScheduling

namespace Pool

/-- What is done to a pool from outside. -/
inductive Step
  | submit (job : Job)
  | cancel (ticket : Nat)
  | purge
  | schedulePurge
  /-- Ends work for the job of an id: that of the ticket named, or else the longest running
  one. -/
  | release (id : String) (how : WorkEnd) (named : Option Nat := none)
  /-- Stops the pool and ends all work. -/
  | stop
  deriving DecidableEq, Repr

/-- What a step answers. -/
inductive Answer
  | unit
  | ticket (number : Nat)
  | flag (b : Bool)
  | count (n : Nat)
  | refused (error : Error)
  deriving DecidableEq, Repr

variable {σ : Type}

/-- What a step does to a pool before its workers act. -/
def perturb (lastly : Job → WorkEnd) (p : Pool) : Step → Answer × Pool
  | .submit job =>
    match p.submit job with
    | .error e => (.refused e, p)
    | .ok (ticket, p) => (.ticket ticket, p)
  | .cancel ticket =>
    let (answer, p) := p.cancel ticket
    (.flag answer, p)
  | .purge => (.count p.purgeCount, p.purge)
  | .schedulePurge =>
    match p.schedulePurge with
    | .error e => (.refused e, p)
    | .ok p => (.unit, p)
  | .release id how named =>
    let (answer, p) := p.release id how named
    (.flag answer, p)
  | .stop => (.flag true, p.stop lastly)

/-- Takes one step. -/
def step (hook : Hook σ) (lastly : Job → WorkEnd) (p : Pool) (s : σ) (step : Step) :
    Answer × Pool × σ :=
  let (answer, p) := p.perturb lastly step
  (answer, p.settle hook s)

/-- Takes steps one after the other, and lists what they answered. -/
def run (hook : Hook σ) (lastly : Job → WorkEnd) :
    List Step → Pool → σ → List Answer × Pool × σ
  | [], p, s => ([], p, s)
  | step :: rest, p, s =>
    let (answer, p, s) := p.step hook lastly s step
    let (answers, p, s) := run hook lastly rest p s
    (answer :: answers, p, s)

end Pool

end JobScheduling
