import JobScheduling.Pool.Step
import JobScheduling.Proofs.Pool.Rest
import Mathlib.Logic.Relation

/-!
# `JobScheduling.Proofs.Pool.Events`: pools one event at a time

A run of a pool (`Pool.run`) lets the workers rest after each step, and they act in one order. Here
nothing waits for anything: callers and workers take turns as they like. `Pool.Event` is one thing
that happens, a step, the end of some work, a stop that leaves the work going on, or the action of
one worker. `Pool.Reaches` is any number of events.

Runs are a special case (`reaches_run`), so what holds wherever events lead holds after every step
of a run and after every action of its workers. `lasts_of_event` is the induction.
-/

set_option autoImplicit false

namespace JobScheduling

namespace Pool

variable {σ : Type}

/-- One thing that happens to a pool. -/
inductive Event (hook : Hook σ) (lastly : Job → WorkEnd) : Pool × σ → Pool × σ → Prop
  | steps (p : Pool) (s : σ) (step : Step) : Event hook lastly (p, s) ((p.perturb lastly step).2, s)
  /-- The work of a ticket ends that occupies a worker, whichever it is. -/
  | ends {p : Pool} {s : σ} {n : Nat} (hn : n ∈ p.busy) (how : WorkEnd) :
      Event hook lastly (p, s) (p.endWork n how, s)
  /-- The pool is stopped, and the work that is still going on goes on. -/
  | stops (p : Pool) (s : σ) : Event hook lastly (p, s) (p.shutDown, s)
  | acts {a b : Pool × σ} (h : Action hook a b) : Event hook lastly a b

/-- Any number of events. -/
abbrev Reaches (hook : Hook σ) (lastly : Job → WorkEnd) : Pool × σ → Pool × σ → Prop :=
  Relation.ReflTransGen (Event hook lastly)

variable {hook : Hook σ} {lastly : Job → WorkEnd}

/-- What every event keeps holds wherever events lead. -/
theorem lasts_of_event {P : Pool → Prop}
    (hevent : ∀ {a b : Pool × σ}, Event hook lastly a b → P a.1 → P b.1) {a b : Pool × σ}
    (h : Reaches hook lastly a b) (ha : P a.1) : P b.1 := by
  induction h with
  | refl => exact ha
  | tail _ hb ih => exact hevent hb ih

/-- What the workers do until they rest is a number of events. -/
theorem reaches_settle (hook : Hook σ) (lastly : Job → WorkEnd) (p : Pool) (s : σ) :
    Reaches hook lastly (p, s) (p.settle hook s) := by
  have hsettle := settle_induction hook
    (P := fun q t => Reaches hook lastly (p, s) (q, t)) (p := p) (s := s) ?_ .refl
  · exact hsettle
  · intro q t q' t' hq hact
    exact hq.tail (.acts (action_of_act? hact))

/-- A step and what the workers do after it are a number of events. -/
theorem reaches_step (hook : Hook σ) (lastly : Job → WorkEnd) (p : Pool) (s : σ) (step : Step) :
    Reaches hook lastly (p, s) (p.step hook lastly s step).2 :=
  .head (.steps p s step) (reaches_settle hook lastly _ s)

/-- A run is a number of events. -/
theorem reaches_run (hook : Hook σ) (lastly : Job → WorkEnd) (steps : List Step) (p : Pool)
    (s : σ) : Reaches hook lastly (p, s) (run hook lastly steps p s).2 := by
  induction steps generalizing p s with
  | nil => exact .refl
  | cons step steps ih => exact (reaches_step hook lastly p s step).trans (ih _ _)

/-- After every run the workers rest, if they rested before. -/
theorem atRest_run (hook : Hook σ) (lastly : Job → WorkEnd) (steps : List Step) {p : Pool}
    (h : p.AtRest) (s : σ) : (run hook lastly steps p s).2.1.AtRest := by
  induction steps generalizing p s with
  | nil => exact h
  | cons step steps ih => exact ih (atRest_settle hook _ s) _

end Pool

end JobScheduling
