import JobScheduling.Proofs.Backlog.Purge
import JobScheduling.Proofs.Pool.Tidied

/-!
# `JobScheduling.Proofs.Pool.Transparent`: purges that nobody notices

A purge drops the jobs that were cancelled while they waited. What is taken after it is what would
have been taken without it, with these jobs left out (`JobScheduling.Proofs.Backlog.Purge`).

So a run of a pool into which purges are put ends as the run without them. The pools of both are the
same when tidied (`JobScheduling.Proofs.Pool.Tidied`), and they stay so: a step does the same to
both (`perturb_congr`), the workers leave them the same (`settle_congr`), and a purge changes
neither.
Purges come in while the workers act (`Settles`, `Interspersed`). A run of steps among which there
are purges is a special case (`Padded.interspersed`).

`run_transparent` says what callers have of it. The same jobs begin in the same order, every ticket
has the same outcome, and the counters agree but for those of what waits and of what was cancelled.
-/

set_option autoImplicit false

namespace JobScheduling

namespace Pool

variable {σ : Type} {hook : Hook σ} {lastly : Job → WorkEnd}

/-! ### Steps of pools that are the same when tidied -/

/-- The answers to the steps that are no purges. -/
def heard (steps : List Step) (answers : List Answer) : List Answer :=
  (steps.zip answers).filterMap fun answered =>
    if answered.1.isPurge then none else some answered.2

/-- The answers to purges are not heard. -/
theorem heard_cons (step : Step) (steps : List Step) (answer : Answer) (answers : List Answer) :
    heard (step :: steps) (answer :: answers)
      = if step.isPurge then heard steps answers else answer :: heard steps answers := by
  simp only [heard, List.zip_cons_cons, List.filterMap_cons]
  cases step.isPurge <;> rfl

/-- What events keep of a pool that takes its jobs in the order of a priority. -/
def Orderly (priority : Priority) (p : Pool) : Prop := p.Booked ∧ p.Ordered priority

section
variable {priority : Priority} [Std.TransCmp priority] {p q : Pool}

/-- Pools stay orderly. -/
theorem Orderly.of_reaches {a b : Pool × σ} (h : a.1.Orderly priority)
    (hreaches : Reaches hook lastly a b) : b.1.Orderly priority :=
  lasts_of_event (P := Orderly priority)
    (fun hevent h => ⟨booked_event hevent h.1, ordered_event hevent h.1 h.2⟩) hreaches h

/-- A step does the same to pools that are the same when tidied. -/
theorem perturb_congr (lastly : Job → WorkEnd) (hp : p.Ordered priority) (hq : q.Ordered priority)
    (h : p.tidied = q.tidied) (step : Step) :
    (p.perturb lastly step).2.tidied = (q.perturb lastly step).2.tidied ∧
      (step.isPurge = false → (p.perturb lastly step).1 = (q.perturb lastly step).1) := by
  obtain ⟨hsame, hanswer⟩ := perturb_tidied lastly hp step
  obtain ⟨hsame', hanswer'⟩ := perturb_tidied lastly hq step
  rw [h] at hsame hanswer
  exact ⟨hsame.symm.trans hsame', fun hstep => (hanswer hstep).symm.trans (hanswer' hstep)⟩

end

/-! ### Purges while the workers act -/

/-- The workers act until they rest, and at any points in between purges come in. -/
inductive Settles (hook : Hook σ) (lastly : Job → WorkEnd) : Pool × σ → Pool × σ → Prop
  | rests {p : Pool} {s : σ} (h : p.AtRest) : Settles hook lastly (p, s) (p, s)
  | acts {p : Pool} {s : σ} {a b : Pool × σ} (hact : p.act? hook s = some a)
      (h : Settles hook lastly a b) : Settles hook lastly (p, s) b
  | purges {p : Pool} {s : σ} {b : Pool × σ} {step : Step} (hpurge : step.isPurge = true)
      (h : Settles hook lastly ((p.perturb lastly step).2, s) b) : Settles hook lastly (p, s) b

/-- Steps are taken one after the other, and answered. The workers act until they rest before each
of them and after the last, and at any points purges come in. -/
inductive Interspersed (hook : Hook σ) (lastly : Job → WorkEnd) :
    List Step → Pool × σ → List Answer → Pool × σ → Prop
  | nil {a b : Pool × σ} (h : Settles hook lastly a b) : Interspersed hook lastly [] a [] b
  | cons {a b c : Pool × σ} {steps : List Step} {answers : List Answer}
      (h : Settles hook lastly a b) (step : Step)
      (h' : Interspersed hook lastly steps ((b.1.perturb lastly step).2, b.2) answers c) :
      Interspersed hook lastly (step :: steps) a ((b.1.perturb lastly step).1 :: answers) c

/-- The workers act until they rest. -/
theorem Settles.atRest {a b : Pool × σ} (h : Settles hook lastly a b) : b.1.AtRest := by
  induction h with
  | rests h => exact h
  | acts _ _ ih => exact ih
  | purges _ _ ih => exact ih

/-- A run ends with workers at rest. -/
theorem Interspersed.atRest {steps : List Step} {answers : List Answer} {a b : Pool × σ}
    (h : Interspersed hook lastly steps a answers b) : b.1.AtRest := by
  induction h with
  | nil h => exact h.atRest
  | cons _ _ _ ih => exact ih

/-- What the workers do and the purges in between are events of the pool. -/
theorem Settles.reaches {a b : Pool × σ} (h : Settles hook lastly a b) :
    Reaches hook lastly a b := by
  induction h with
  | rests _ => exact .refl
  | acts hact _ ih => exact .head (.acts (action_of_act? hact)) ih
  | @purges p s b step _ _ ih => exact .head (.steps p s step) ih

/-- What the workers do without purges is one way to settle. -/
theorem settles_settle (hook : Hook σ) (lastly : Job → WorkEnd) (p : Pool) (s : σ) :
    Settles hook lastly (p, s) (p.settle hook s) := by
  -- By induction on what is left to do, which every act of a worker makes less.
  induction hn : p.toDo using Nat.strong_induction_on generalizing p s with
  | _ n ih =>
    subst hn
    cases hact : p.act? hook s with
    | none =>
      have hrest : p.AtRest := act?_eq_none_iff.1 hact
      rw [settle_of_atRest hook hrest]
      exact .rests hrest
    | some next =>
      rw [settle_of_act? hact]
      exact .acts hact (ih _ (toDo_lt_of_act? hact) _ _ rfl)

/-- Whenever purges come in, the workers leave the same tidied pool. -/
theorem Settles.tidied {a b : Pool × σ} (h : Settles hook lastly a b) :
    (a.1.settle hook a.2).1.tidied = b.1.tidied ∧ (a.1.settle hook a.2).2 = b.2 := by
  induction h with
  | rests hrest =>
    rw [settle_of_atRest hook hrest]
    exact ⟨rfl, rfl⟩
  | acts hact _ ih =>
    rw [settle_of_act? hact]
    exact ih
  | @purges p s b step hpurge _ ih =>
    -- A purge does not change what is tidied, and the workers act alike on it.
    have hsettle := settle_congr hook (tidied_perturb_of_isPurge lastly p hpurge).symm s
    exact ⟨hsettle.1.trans ih.1, hsettle.2.trans ih.2⟩

section
variable {priority : Priority} [Std.TransCmp priority]

/-- A run leaves the same tidied pool, whenever purges come in, and only purges are answered with
something else. -/
theorem Interspersed.tidied {steps : List Step} {answers : List Answer} {a b : Pool × σ}
    (h : Interspersed hook lastly steps a answers b) {p : Pool} (hp : p.Orderly priority)
    (ha : a.1.Orderly priority) (hsame : p.tidied = a.1.tidied) :
    let plain := run hook lastly steps (p.settle hook a.2).1 (p.settle hook a.2).2
    plain.2.1.tidied = b.1.tidied ∧ plain.2.2 = b.2 ∧
      heard steps plain.1 = heard steps answers := by
  -- By induction on the steps. The workers leave both pools the same when tidied, and then the step
  -- does.
  induction h generalizing p with
  | @nil a b h =>
    have hsettle := settle_congr hook hsame a.2
    exact ⟨hsettle.1.trans h.tidied.1, hsettle.2.trans h.tidied.2, rfl⟩
  | @cons a b c steps answers h step _ ih =>
    have hsettle := settle_congr hook hsame a.2
    have hstate : (p.settle hook a.2).2 = b.2 := hsettle.2.trans h.tidied.2
    have hp' : (p.settle hook a.2).1.Orderly priority :=
      hp.of_reaches (reaches_settle hook lastly p a.2)
    have hb : b.1.Orderly priority := ha.of_reaches h.reaches
    have hsteps (q : Pool) (hq : q.Orderly priority) :
        (q.perturb lastly step).2.Orderly priority :=
      hq.of_reaches (.single (@Event.steps σ hook lastly q b.2 step))
    obtain ⟨hperturb, hanswer⟩ :=
      perturb_congr lastly hp'.2 hb.2 (hsettle.1.trans h.tidied.1) step
    obtain ⟨hrest, hstate', hheard⟩ := ih (hsteps _ hp') (hsteps _ hb) hperturb
    rw [hstate]
    refine ⟨hrest, hstate', ?_⟩
    simp only [run, heard_cons]
    cases hpurge : step.isPurge with
    | true => exact hheard
    | false => exact congrArg₂ List.cons (hanswer hpurge) hheard

end

/-! ### Purges between the steps -/

/-- Steps, and the same steps with purges put in at any points. -/
inductive Padded : List Step → List Step → Prop
  | nil : Padded [] []
  | keeps {steps padded : List Step} (step : Step) (h : Padded steps padded) :
      Padded (step :: steps) (step :: padded)
  | inserts {steps padded : List Step} {step : Step} (hpurge : step.isPurge = true)
      (h : Padded steps padded) : Padded steps (step :: padded)

/-- The workers can be interrupted by purges again after they rested. -/
theorem Settles.trans {a b c : Pool × σ} (h : Settles hook lastly a b)
    (h' : Settles hook lastly b c) : Settles hook lastly a c := by
  induction h with
  | rests _ => exact h'
  | acts hact _ ih => exact .acts hact (ih h')
  | purges hpurge _ ih => exact .purges hpurge (ih h')

/-- What the workers do before the first step belongs to the run. -/
theorem Interspersed.after {steps : List Step} {answers : List Answer} {a b c : Pool × σ}
    (h : Interspersed hook lastly steps b answers c) (hsettles : Settles hook lastly a b) :
    Interspersed hook lastly steps a answers c := by
  cases h with
  | nil h => exact .nil (hsettles.trans h)
  | cons h step h' => exact .cons (hsettles.trans h) step h'

/-- A run of the steps with the purges takes the steps, and purges come in. -/
theorem Padded.interspersed (hook : Hook σ) (lastly : Job → WorkEnd) {steps padded : List Step}
    (h : Padded steps padded) {p : Pool} (hrest : p.AtRest) (s : σ) :
    ∃ answers, Interspersed hook lastly steps (p, s) answers (run hook lastly padded p s).2 ∧
      heard steps answers = heard padded (run hook lastly padded p s).1 := by
  -- By induction on how the purges were put in. A purge in front joins what the workers do before
  -- the next step.
  induction h generalizing p s with
  | nil => exact ⟨[], .nil (.rests hrest), rfl⟩
  | @keeps steps padded step _ ih =>
    have hsettles := settles_settle hook lastly (p.perturb lastly step).2 s
    obtain ⟨answers, hrun, hheard⟩ := ih hsettles.atRest (p.step hook lastly s step).2.2
    refine ⟨_, .cons (.rests hrest) step (hrun.after hsettles), ?_⟩
    simp only [run, heard_cons, hheard]
    rfl
  | @inserts steps padded step hpurge _ ih =>
    have hsettles := settles_settle hook lastly (p.perturb lastly step).2 s
    obtain ⟨answers, hrun, hheard⟩ := ih hsettles.atRest (p.step hook lastly s step).2.2
    refine ⟨answers, hrun.after (.purges hpurge hsettles), ?_⟩
    simp only [run, heard_cons, if_pos hpurge]
    exact hheard

/-! ### What callers have of it -/

/-- Two pools are the same but for what is left of jobs that were cancelled, and for purges. -/
structure Alike (p q : Pool) : Prop where
  /-- The same jobs began, in the same order. -/
  begun : p.begun = q.begun
  /-- Every ticket is the same, and with it the outcome. -/
  tickets : p.tickets = q.tickets
  busy : p.busy = q.busy
  lost : p.lost = q.lost
  /-- The same jobs are still to be done, in the same order. -/
  waiting : p.backlog.jobs.filter p.isOpen = q.backlog.jobs.filter q.isOpen
  submitted : p.counters.submitted = q.counters.submitted
  completed : p.counters.completed = q.counters.completed
  failed : p.counters.failed = q.counters.failed
  active : p.counters.active = q.counters.active

/-- Pools that are the same when tidied are the same to callers. -/
theorem alike_of_tidied {p q : Pool} (h : p.tidied = q.tidied) : Alike p q where
  begun := congrArg (·.begun) h
  tickets := congrArg (·.tickets) h
  busy := congrArg (·.busy) h
  lost := congrArg (·.lost) h
  waiting := congrArg (·.backlog.jobs) h
  submitted := congrArg (·.counters.submitted) h
  completed := congrArg (·.counters.completed) h
  failed := congrArg (·.counters.failed) h
  active := congrArg (·.counters.active) h

/-- Nobody notices a purge. Whatever requests a backlog or a heap of numbered items served, what is
taken after a purge is what would be taken without it, with the jobs left out that it drops and
counts.

Take a pool with any settings and work whose priority is a total preorder, and any steps. Purges are
put in, between the steps or while the workers act. When the workers rest, the same jobs have begun
in the same order as without the purges, every ticket is the same, the counters of what was
submitted, completed, failed and of what is active agree, and the hook was told the same. -/
theorem run_transparent {χ α ρ : Type} (order : α → α → Ordering) [Std.TransCmp order]
    (H : Backlog.Heap (Backlog.Entry χ α) ρ (Backlog.heapOrder order))
    (requests : List (Backlog.Request χ α)) (gone : α → Bool)
    (priority : Priority) [Std.TransCmp priority] (hook : Hook σ) (lastly : Job → WorkEnd)
    {settings : PoolSettings} {work : Job → Work} {new : Pool}
    (hnew : Pool.new settings work priority = .ok new) (steps : List Step) (s : σ) :
    let plain := run hook lastly steps new s
    Backlog.Omits order H requests gone ∧ plain.2.1.AtRest ∧
      (∀ answers purged, Interspersed hook lastly steps (new, s) answers purged →
        purged.1.AtRest ∧ Alike purged.1 plain.2.1 ∧ purged.2 = plain.2.2 ∧
          heard steps answers = heard steps plain.1) ∧
      ∀ padded, Padded steps padded →
        let purged := run hook lastly padded new s
        purged.2.1.AtRest ∧ Alike purged.2.1 plain.2.1 ∧ purged.2.2 = plain.2.2 ∧
          heard padded purged.1 = heard steps plain.1 := by
  intro plain
  have hrest : new.AtRest := atRest_of_new hnew
  have horderly : new.Orderly priority := ⟨booked_of_new hnew, ordered_of_new hnew⟩
  have hinterspersed : ∀ answers purged, Interspersed hook lastly steps (new, s) answers purged →
      purged.1.AtRest ∧ Alike purged.1 plain.2.1 ∧ purged.2 = plain.2.2 ∧
        heard steps answers = heard steps plain.1 := by
    intro answers purged hpurged
    have hsame := hpurged.tidied horderly horderly rfl
    rw [settle_of_atRest hook hrest] at hsame
    obtain ⟨htidied, hstate, hheard⟩ := hsame
    exact ⟨hpurged.atRest, alike_of_tidied htidied.symm, hstate.symm, hheard.symm⟩
  refine ⟨Backlog.omits_purge order H requests gone, atRest_run hook lastly steps hrest s,
    hinterspersed, fun padded hpadded => ?_⟩
  obtain ⟨answers, hpurged, hheard⟩ := hpadded.interspersed hook lastly hrest s
  obtain ⟨hrests, halike, hstate, hheard'⟩ := hinterspersed answers _ hpurged
  exact ⟨hrests, halike, hstate, hheard.symm.trans hheard'⟩

/-- One job runs, one was cancelled while it waited, and one waits. -/
def cancelledWaits : List Step :=
  [.submit { id := "a", submittedAt := 0 }, .submit { id := "b", submittedAt := 1 },
    .submit { id := "c", submittedAt := 2 }, .cancel 1]

/-- The purges that are put in drop the job that was cancelled, and a chore still waits. -/
theorem run_transparent_cancelledWaits :
    let requests : List (Backlog.Request Unit (Fin 3)) := [.pushJob 2, .pushJob 0, .pushJob 1]
    let padded := .schedulePurge :: cancelledWaits ++ [.schedulePurge, .purge]
    let plain := run listing .standard cancelledWaits oneWorker []
    let purged := run listing .standard padded oneWorker []
    ((Backlog.after compare requests).purge (· == 0)).pops 3 = [.job 1, .job 2] ∧
      Alike purged.2.1 plain.2.1 ∧ purged.2.2 = plain.2.2 ∧ plain.2.1.begun = [0] ∧
      plain.2.1.counters.cancelled = 0 ∧ purged.2.1.counters.cancelled = 1 ∧
      plain.2.1.counters.queued = 2 ∧ purged.2.1.counters.queued = 2 := by
  intro requests padded plain purged
  have hnew : Pool.new (.ofWorkers 1) oneWorker.work .latest = .ok oneWorker := rfl
  obtain ⟨homits, -, -, hpadded⟩ := run_transparent compare
    (Backlog.Heap.ofList (@Backlog.heapOrder Unit (Fin 3) compare)) requests (· == 0) .latest
    listing .standard hnew cancelledWaits []
  have hinserted : Padded cancelledWaits padded :=
    .inserts rfl (.keeps _ (.keeps _ (.keeps _ (.keeps _ (.inserts rfl (.inserts rfl .nil))))))
  obtain ⟨-, halike, hstate, -⟩ := hpadded padded hinserted
  refine ⟨(homits.pops 3 (by decide +kernel)).trans (by decide +kernel), halike, hstate, ?_⟩
  decide +kernel

end Pool

end JobScheduling
