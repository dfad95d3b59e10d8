import JobScheduling.Proofs.Backlog.Listed
import JobScheduling.Proofs.Pool.Accounts

/-!
# `JobScheduling.Proofs.Pool.Order`: how many jobs run, and which begins first

A pool takes its jobs in the order of a priority, and jobs that the priority does not tell apart in
the order in which they were accepted (`Pool.Before`). For a priority that is a total preorder
(`Std.TransCmp`, as all priorities of `JobScheduling.Priority` are) the backlog is sorted by
`Pool.Before` at all times. So the job that a worker takes comes before every job that it leaves.

`Pool.Regular` collects what a caller can rely on in every state that events lead to, also in the
middle of what the workers do: they rest soon, no more jobs go on than there are workers, no worker
is idle while something waits, and the jobs begin in order.
-/

set_option autoImplicit false

namespace JobScheduling

namespace Priority

instance : Std.TransCmp submission := inferInstanceAs (Std.TransCmp (compareOn Job.submittedAt))

instance : Std.TransCmp latest := inferInstanceAs (Std.TransCmp fun a b => submission b a)

instance : Std.TransCmp byId := inferInstanceAs (Std.TransCmp (compareOn Job.id))

instance : Std.TransCmp unordered where
  eq_swap := rfl
  isLE_trans _ _ := rfl

instance (name : String) : Std.TransCmp (byRank name) :=
  have : Std.TransCmp fun a b => compareOn (rank name) b a := inferInstance
  inferInstanceAs (Std.TransCmp (compareLex (fun a b => compareOn (rank name) b a) submission))

end Priority

/-- A job is taken when there is no chore, and it is the first one. -/
theorem Backlog.eq_of_pop?_job {χ α : Type} {b rest : Backlog χ α} {a : α}
    (h : b.pop? = some (.job a, rest)) : b.chores = [] ∧ b.jobs = a :: rest.jobs := by
  obtain ⟨order, chores, jobs⟩ := b
  cases chores with
  | cons c chores => cases h
  | nil =>
    cases jobs with
    | nil => cases h
    | cons b jobs =>
      cases h
      exact ⟨rfl, rfl⟩

namespace Pool

/-- A job comes before another: it has the higher priority, or the same and was accepted
earlier. -/
def Before (priority : Priority) (a b : Slot) : Prop :=
  priority a.job b.job = .lt ∨ priority a.job b.job = .eq ∧ a.ticket < b.ticket

section
variable {priority : Priority} [Std.TransCmp priority] {a b c : Slot}

/-- The order of the jobs is transitive, because the priority is. -/
theorem Before.trans (hab : Before priority a b) (hbc : Before priority b c) :
    Before priority a c := by
  -- Where both pairs tie in priority, the numbers decide.
  rcases hab with hab | ⟨hab, habt⟩ <;> rcases hbc with hbc | ⟨hbc, hbct⟩
  · exact .inl (Std.TransCmp.lt_trans hab hbc)
  · exact .inl (Std.TransCmp.lt_of_lt_of_eq hab hbc)
  · exact .inl (Std.TransCmp.lt_of_eq_of_lt hab hbc)
  · exact .inr ⟨Std.TransCmp.eq_trans hab hbc, Nat.lt_trans habt hbct⟩

/-- No job comes before itself. -/
theorem not_before_self (a : Slot) : ¬ Before priority a a := by
  rintro (h | ⟨-, h⟩)
  · have hself : priority a.job a.job = .eq := Std.ReflCmp.compare_self
    rw [hself] at h
    cases h
  · exact Nat.lt_irrefl _ h

/-- No two jobs come before each other. -/
theorem Before.asymm (hab : Before priority a b) : ¬ Before priority b a :=
  fun hba => not_before_self a (hab.trans hba)

/-- Of two jobs the one that was accepted first comes first, unless the other has the higher
priority. -/
theorem before_of_ne_lt (h : priority b.job a.job ≠ .lt) (ht : a.ticket < b.ticket) :
    Before priority a b := by
  cases hab : priority a.job b.job with
  | lt => exact .inl hab
  | eq => exact .inr ⟨hab, ht⟩
  | gt => exact absurd (Std.OrientedCmp.gt_iff_lt.1 hab) h

end

/-- The backlog is in the order in which its jobs are to begin. -/
structure Ordered (priority : Priority) (p : Pool) : Prop where
  order : p.backlog.order = slotOrder priority
  jobs : p.backlog.jobs.Pairwise (Before priority)

/-- The jobs of one backlog are among those of another, in the same order. -/
def Thins (b b' : Backlog Chore Slot) : Prop := b'.order = b.order ∧ b'.jobs.Sublist b.jobs

section
variable {σ : Type} {hook : Hook σ} {lastly : Job → WorkEnd} {priority : Priority} {p : Pool}

/-- A backlog that gets shorter stays sorted. -/
theorem Ordered.thins {p' : Pool} (h : p.Ordered priority) (hthins : Thins p.backlog p'.backlog) :
    p'.Ordered priority :=
  ⟨hthins.1.trans h.order, h.jobs.sublist hthins.2⟩

/-- A backlog that stays as it is does not get longer. -/
theorem Thins.refl (b : Backlog Chore Slot) : Thins b b := ⟨rfl, .refl _⟩

/-- The stop leaves no job in the backlog. -/
theorem thins_shutDown (p : Pool) : Thins p.backlog p.shutDown.backlog := by
  unfold shutDown
  split
  · exact .refl _
  · exact ⟨rfl, List.nil_sublist _⟩

/-- What is popped is gone, and the rest stays in order. -/
theorem thins_of_pop? {item : Backlog.Item Chore Slot} {b backlog : Backlog Chore Slot}
    (h : b.pop? = some (item, backlog)) : Thins b backlog := by
  obtain ⟨order, chores, jobs⟩ := b
  cases chores with
  | cons c chores =>
    cases h
    exact .refl _
  | nil =>
    cases jobs with
    | cons a jobs =>
      cases h
      exact ⟨rfl, List.sublist_cons_self ..⟩
    | nil => cases h

/-- To run a job leaves the backlog alone. -/
theorem backlog_perform (slot : Slot) (p : Pool) : (p.perform slot).backlog = p.backlog := by
  rw [perform_eq]
  split <;> rfl

/-- What workers do puts no job into the backlog. -/
theorem thins_action {b c : Pool × σ} (h : Action hook b c) : Thins b.1.backlog c.1.backlog := by
  cases h with
  | leaves hn hf => exact .refl _
  | @takes p p' s s' item backlog hfree hpop hcarries =>
    have hthins := thins_of_pop? hpop
    cases hcarries with
    | purges => exact ⟨hthins.1, List.filter_sublist.trans hthins.2⟩
    | misses | skips | breaks => exact hthins
    | @performs slot =>
      rw [backlog_perform]
      exact hthins

/-- A new job has the highest number, so it goes behind those of its priority. -/
theorem Ordered.submit [Std.TransCmp priority] (h : p.Ordered priority) (hbooked : p.Booked)
    {job : Job} {n : Nat} {p' : Pool} (hp : p.submit job = .ok (n, p')) : p'.Ordered priority := by
  obtain ⟨-, rfl, -, hbacklog, -⟩ := submit_eq_ok hp
  obtain ⟨a, hfiled, -⟩ := hbooked
  -- The jobs in the backlog have smaller numbers, so the new one comes last among its equals.
  have hnumber (slot : Slot) (hslot : slot ∈ p.backlog.jobs) : slot.ticket < p.tickets.length := by
    obtain ⟨t, ht, -⟩ := hfiled.waiting slot.ticket (List.mem_map_of_mem hslot)
    exact (List.getElem?_eq_some_iff.1 ht).1
  constructor
  · rw [hbacklog]
    exact h.order
  · rw [hbacklog]
    refine Backlog.pairwise_place (fun _ _ => Before.trans) ?_ ?_ h.jobs
    · intro slot _ hlt
      rw [h.order] at hlt
      exact .inl hlt
    · intro slot hslot hge
      rw [h.order] at hge
      exact before_of_ne_lt hge (hnumber slot hslot)

/-- Every event keeps the backlog in order. -/
theorem ordered_event [Std.TransCmp priority] {b c : Pool × σ} (hevent : Event hook lastly b c)
    (hbooked : b.1.Booked) (h : b.1.Ordered priority) : c.1.Ordered priority := by
  -- Only a submission puts a job into the backlog.
  cases hevent with
  | steps p s step =>
    cases step with
    | submit job =>
      simp only [perturb]
      cases hp : p.submit job with
      | error e => exact h
      | ok result => exact h.submit hbooked hp
    | cancel n =>
      refine h.thins ?_
      simp only [perturb, cancel_snd]
      exact .refl _
    | purge => exact h.thins ⟨rfl, List.filter_sublist⟩
    | schedulePurge =>
      refine h.thins ?_
      simp only [perturb, schedulePurge]
      cases p.isShutDown <;> exact .refl _
    | release id how named =>
      refine h.thins ?_
      simp only [perturb, release]
      split <;> exact .refl _
    | stop =>
      refine h.thins ?_
      simp only [perturb, Pool.stop, backlog_endAll]
      exact thins_shutDown p
  | ends hn how => exact h.thins (.refl _)
  | stops p s => exact h.thins (thins_shutDown p)
  | acts hact => exact h.thins (thins_action hact)

/-! ### Which job begins -/

/-- Nothing that waits comes before the job of a ticket. -/
def First (priority : Priority) (n : Nat) (p : Pool) : Prop :=
  p.backlog.chores = [] ∧ ∃ slot ∈ p.backlog.jobs, slot.ticket = n ∧
    ∀ other ∈ p.backlog.jobs, ¬ Before priority other slot

/-- Without chores the first of the jobs is taken. -/
theorem Ordered.first_of_pop? [Std.TransCmp priority] (h : p.Ordered priority) {slot : Slot}
    {backlog : Backlog Chore Slot} (hpop : p.backlog.pop? = some (.job slot, backlog)) :
    p.First priority slot.ticket := by
  have hjobs := h.jobs
  obtain ⟨hchores, hfirst⟩ := Backlog.eq_of_pop?_job hpop
  rw [hfirst, List.pairwise_cons] at hjobs
  refine ⟨hchores, slot, hfirst ▸ List.mem_cons_self, rfl, fun other hother => ?_⟩
  rcases List.mem_cons.1 (hfirst ▸ hother) with rfl | hother
  · exact not_before_self other
  · exact (hjobs.1 other hother).asymm

/-- Nobody but a worker takes a job up. -/
theorem hasStarted_perturb (lastly : Job → WorkEnd) (p : Pool) (step : Step) (n : Nat)
    (hstarted : (p.perturb lastly step).2.hasStarted n = true) : p.hasStarted n = true := by
  -- The operations of a caller begin no work, and the ticket of a new job has not started.
  cases step with
  | submit job =>
    simp only [perturb] at hstarted
    cases hp : p.submit job with
    | error e => rwa [hp] at hstarted
    | ok result =>
      rw [hp] at hstarted
      obtain ⟨t, ht, hs⟩ := (Option.any_eq_true ..).1 hstarted
      rcases ticket_cases_of_submit hp ht with hold | ⟨-, rfl⟩
      · exact (Option.any_eq_true ..).2 ⟨t, hold, hs⟩
      · cases hs
  | cancel m => exact (closes_cancel m p).hasStarted n ▸ hstarted
  | purge => exact hstarted
  | schedulePurge =>
    simp only [perturb, schedulePurge] at hstarted
    cases hdown : p.isShutDown <;> (rw [hdown] at hstarted; exact hstarted)
  | release id how named =>
    simp only [perturb, release] at hstarted
    cases hr : p.runningFor? id named with
    | none => rwa [hr] at hstarted
    | some m =>
      rw [hr] at hstarted
      exact (closes_endWork m how p).hasStarted n ▸ hstarted
  | stop =>
    have hcloses := (closes_shutDown p).trans (closes_endAll lastly p.shutDown)
    exact hcloses.hasStarted n ▸ hstarted

/-- A job begins when nothing that waits comes before it. -/
theorem Ordered.first_of_begins [Std.TransCmp priority] {b c : Pool × σ} (h : b.1.Ordered priority)
    (hevent : Event hook lastly b c) {n : Nat} (hbefore : b.1.hasStarted n = false)
    (hafter : c.1.hasStarted n = true) : b.1.First priority n := by
  have hnever (hsame : b.1.hasStarted n = true) : b.1.First priority n := by
    rw [hbefore] at hsame
    cases hsame
  cases hevent with
  | steps p s step => exact hnever (hasStarted_perturb lastly p step n hafter)
  | ends hn how => exact hnever ((closes_endWork _ how _).hasStarted n ▸ hafter)
  | stops p s => exact hnever ((closes_shutDown p).hasStarted n ▸ hafter)
  | acts hact =>
    cases hact with
    | leaves hn hf => exact hnever ((closes_leave _ _ _).hasStarted n ▸ hafter)
    | @takes p p' s s' item backlog hfree hpop hcarries =>
      -- Taking a job up changes the ticket of that job alone.
      have htaken {slot : Slot} (hitem : p.backlog.pop? = some (.job slot, backlog))
          (hs : ((p.popped backlog).taken slot.ticket).hasStarted n = true) :
          p.First priority n := by
        by_cases hn : slot.ticket = n
        · subst hn
          exact h.first_of_pop? hitem
        · rw [hasStarted, getElem?_taken, if_neg hn] at hs
          exact hnever hs
      cases hcarries with
      | purges | misses | skips => exact hnever hafter
      | @performs slot =>
        exact htaken hpop ((closes_perform slot _).hasStarted n ▸ hafter)
      | breaks => exact htaken hpop hafter

/-! ### How many jobs run -/

/-- The jobs that go on have a worker each. -/
theorem Filed.length_going_le {a : Archive} (h : p.Filed a) :
    p.going.length ≤ p.settings.workers := by
  have hnodup : p.going.Nodup := nodup_numbers _ p
  have hlength := (hnodup.subperm h.going_subset).length_le
  have hlost := h.lost
  have hwithin := h.within
  rw [List.length_append] at hlength
  omega

/-- Where something waits for workers that rest, all of them are busy. -/
theorem Filed.conserving {a : Archive} (h : p.Filed a) (hrest : p.AtRest) :
    p.backlog.items = [] ∨
      (p.going.filter (· ∉ p.abandoned)).length + p.lost = p.settings.workers := by
  rw [h.length_going hrest]
  cases hfree : p.hasFreeWorker with
  | true => exact .inl ((Backlog.pop?_eq_none_iff _).1 (hrest.2 hfree))
  | false =>
    have hfull : ¬ p.busy.length + p.lost < p.settings.workers := by
      simpa [hasFreeWorker] using hfree
    have hwithin := h.within
    exact .inr (by omega)

/-- As many actions as there are to do are the most that workers can take. -/
theorem length_le_toDo {s : σ} {l : List (Pool × σ)}
    (h : List.IsChain (Action hook) ((p, s) :: l)) :
    l.length ≤ p.toDo := by
  induction l generalizing p s with
  | nil => exact Nat.zero_le _
  | cons next l ih =>
    obtain ⟨hact, hrest⟩ := List.isChain_cons_cons.1 h
    have hless : next.1.toDo < p.toDo := toDo_lt_of_action hact
    have hlength : l.length ≤ next.1.toDo := ih hrest
    rw [List.length_cons]
    omega

/-- What a caller can rely on in a state of a pool and its hook. -/
structure Regular (hook : Hook σ) (lastly : Job → WorkEnd) (priority : Priority) (p : Pool)
    (s : σ) : Prop where
  /-- Whatever the workers do, after so many actions they rest. -/
  finishes : ∀ l, List.IsChain (Action hook) ((p, s) :: l) → l.length ≤ p.toDo
  rests : (∀ b, ¬ Action hook (p, s) b) ↔ p.AtRest
  bounded : p.going.length ≤ p.settings.workers
  /-- While jobs or chores wait, all workers that have not broken down are at work. -/
  conserving : p.AtRest → p.backlog.items = [] ∨
    (p.going.filter (· ∉ p.abandoned)).length + p.lost = p.settings.workers
  first : ∀ {b : Pool × σ} {n : Nat}, Event hook lastly (p, s) b → p.hasStarted n = false →
    b.1.hasStarted n = true → p.First priority n

/-- A pool has the settings it was made with. -/
theorem settings_of_new {settings : PoolSettings} {work : Job → Work} {new : Pool}
    (hnew : Pool.new settings work priority = .ok new) : new.settings = settings := by
  unfold Pool.new at hnew
  split at hnew <;> cases hnew
  rfl

/-- A new backlog has no jobs that could be out of order. -/
theorem ordered_of_new {settings : PoolSettings} {work : Job → Work} {new : Pool}
    (hnew : Pool.new settings work priority = .ok new) : new.Ordered priority := by
  unfold Pool.new at hnew
  split at hnew <;> cases hnew
  exact ⟨rfl, .nil⟩

/-- Callers do what they like, and workers act in any order: wherever that leads a pool, its
workers rest soon, never more jobs go on than there are workers, no worker is idle while something
waits, and the jobs begin in the order of priority. A hook must not crash, and while it does not,
no worker breaks down. -/
theorem reaches_regular [Std.TransCmp priority] {settings : PoolSettings} {work : Job → Work}
    {new : Pool} (hnew : Pool.new settings work priority = .ok new) {s₀ s : σ}
    (h : Reaches hook lastly (new, s₀) (p, s)) :
    p.Regular hook lastly priority s ∧ p.settings = settings ∧
      ((∀ job s, (hook job s).1 = true) → p.lost = 0 ∧ p.abandoned = []) := by
  -- The invariant of the events: every ticket has its place, the backlog is sorted, the settings
  -- stay.
  have hinvariant : (p.Booked ∧ p.Ordered priority) ∧ p.settings = settings := by
    refine lasts_of_event (P := fun p => (p.Booked ∧ p.Ordered priority) ∧ p.settings = settings)
      ?_ h ⟨⟨booked_of_new hnew, ordered_of_new hnew⟩, settings_of_new hnew⟩
    rintro b c hevent ⟨⟨hbooked, hordered⟩, hsettings⟩
    exact ⟨⟨booked_event hevent hbooked, ordered_event hevent hbooked hordered⟩,
      (constants_event hevent).2.trans hsettings⟩
  obtain ⟨⟨⟨a, hfiled, -⟩, hordered⟩, hsettings⟩ := hinvariant
  refine ⟨⟨fun _ => length_le_toDo, (atRest_iff_forall_not_action hook s).symm,
    hfiled.length_going_le, hfiled.conserving, fun hevent hbefore hafter =>
      hordered.first_of_begins hevent hbefore hafter⟩, hsettings,
    fun hhook => noneLost_of_reaches hnew hhook h⟩

/-- A pool that has accepted three jobs before its worker acts. It takes the latest first. -/
def threeAccepted : Pool :=
  let steps : List Step := [.submit { id := "b", submittedAt := 0 },
    .submit { id := "a", submittedAt := 2 }, .submit { id := "c", submittedAt := 1 }]
  steps.foldl (fun p step => (p.perturb .standard step).2) oneWorker

/-- Three jobs accepted by a pool of one worker: the one submitted latest begins first. -/
theorem reaches_regular_latestFirst :
    threeAccepted.Regular listing .standard .latest [] ∧ threeAccepted.settings = .ofWorkers 1 ∧
      (threeAccepted.lost = 0 ∧ threeAccepted.abandoned = []) ∧
      (threeAccepted.act? listing []).any (·.1.hasStarted 1) = true ∧
      threeAccepted.First .latest 1 := by
  have hnew : Pool.new (.ofWorkers 1) oneWorker.work .latest = .ok oneWorker := rfl
  have hreaches : Reaches listing .standard (oneWorker, []) (threeAccepted, []) :=
    ((Relation.ReflTransGen.refl.tail (.steps _ [] _)).tail (.steps _ [] _)).tail (.steps _ [] _)
  have hregular := reaches_regular hnew hreaches
  have hbegins : (threeAccepted.act? listing []).any (·.1.hasStarted 1) = true := by decide +kernel
  obtain ⟨next, hact, hafter⟩ := (Option.any_eq_true ..).1 hbegins
  have hevent : Event listing .standard (threeAccepted, []) next := .acts (action_of_act? hact)
  refine ⟨hregular.1, hregular.2.1, hregular.2.2 fun _ _ => rfl, hbegins, ?_⟩
  exact hregular.1.first hevent (by decide +kernel) hafter

end

end Pool

end JobScheduling
