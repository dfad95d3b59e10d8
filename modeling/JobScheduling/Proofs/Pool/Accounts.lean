import JobScheduling.Pool.Script
import JobScheduling.Proofs.Pool.Counted

/-!
# `JobScheduling.Proofs.Pool.Accounts`: the counters of a pool at rest

Every ticket is in one place and is counted there (`Pool.Booked`), so a count of tickets is the sum
of counts over the places (`Filed.countP_range`). In a pool at rest that was not stopped this
makes the counters what they are said to be, `Pool.Accounts`: the jobs that wait and the jobs that
were counted when they began, ended or were cancelled add up to the jobs that were submitted.

A hook that crashes breaks the rule for hooks. It costs a worker, and leaves a job behind that was
taken up and never begun. These jobs are the only ones that the counters miss (`Pool.abandoned`).
-/

set_option autoImplicit false

namespace JobScheduling

namespace Pool

/-- The numbers of the tickets that pass a test. -/
def numbers (test : Ticket → Bool) (p : Pool) : List Nat :=
  (List.range p.tickets.length).filter fun n => p.tickets[n]?.any test

/-- The tickets whose jobs were taken up and have not finished. -/
def going (p : Pool) : List Nat := p.numbers fun t => t.started && !t.isFinished

/-- The tickets of the jobs that were taken up and whose work never began. -/
def abandoned (p : Pool) : List Nat := (p.numbers (·.started)).filter (· ∉ p.begun)

/-- The counters of a pool tell how many jobs wait, go on, and ended in each way. -/
structure Accounts (p : Pool) : Prop where
  submitted : p.counters.submitted = p.backlog.jobs.length + p.counters.active
    + p.counters.completed + p.counters.failed + p.counters.cancelled + p.lost
  queued : p.counters.queued = p.backlog.chores.length + p.backlog.jobs.length
  active : p.counters.active = (p.going.filter (· ∉ p.abandoned)).length
  completed : p.counters.completed = (p.numbers fun t => t.outcome?.any (·.isCompleted)).length
  failed : p.counters.failed = (p.numbers fun t => t.outcome?.any (·.isFailed)).length
  /-- A job that was cancelled counts when it has left the backlog. -/
  cancelled : p.counters.cancelled
    = ((p.numbers fun t => t.outcome?.any (·.isCancelled)).filter
        fun n => n ∉ p.waiting ∧ n ∉ p.abandoned).length
  /-- Each worker that broke down has left one job behind. -/
  abandoned : p.abandoned.length = p.lost

/-- What is subtracted from a counter is there, wherever something is subtracted. -/
structure Exact (p : Pool) : Prop where
  purge : p.purge.counters.queued + p.purgeCount = p.counters.queued
  take : ∀ item backlog, p.backlog.pop? = some (item, backlog) →
    (p.popped backlog).counters.queued + 1 = p.counters.queued
  /-- A purge by a worker comes after the worker has taken it from the backlog. -/
  chore : ∀ backlog, p.backlog.pop? = some (.chore .purge, backlog) →
    (p.popped backlog).purge.counters.queued + (p.popped backlog).purgeCount
      = (p.popped backlog).counters.queued
  leave : ∀ n ∈ p.busy, ∀ o, (p.leave n o).counters.active + 1 = p.counters.active
  /-- Work that ends at once is counted as active before. -/
  once : ∀ n o, ((p.occupied n).leave n o).counters.active + 1 = (p.occupied n).counters.active
  shutDown : p.isShutDown = false →
    p.shutDown.counters.queued + p.backlog.size = p.counters.queued

section
variable {a : Archive} {p : Pool} {n : Nat}

/-- The tickets that pass a test, counted over all numbers. -/
theorem length_numbers (test : Ticket → Bool) (p : Pool) :
    (p.numbers test).length
      = (List.range p.tickets.length).countP fun n => p.tickets[n]?.any test :=
  List.countP_eq_length_filter.symm

/-- A number is listed for a test when it has a ticket that passes it. -/
theorem mem_numbers {test : Ticket → Bool} :
    n ∈ p.numbers test ↔ ∃ t, p.tickets[n]? = some t ∧ test t = true := by
  rw [numbers, List.mem_filter, List.mem_range]
  constructor
  · rintro ⟨-, htest⟩
    exact (Option.any_eq_true ..).1 htest
  · rintro ⟨t, ht, htest⟩
    exact ⟨(List.getElem?_eq_some_iff.1 ht).1, (Option.any_eq_true ..).2 ⟨t, ht, htest⟩⟩

/-- No number is listed twice. -/
theorem nodup_numbers (test : Ticket → Bool) (p : Pool) : (p.numbers test).Nodup :=
  List.nodup_range.filter _

/-! ### The places of tickets -/

/-- Every ticket is in one of the places. -/
theorem Filed.mem_place (h : p.Filed a) {t : Ticket} (ht : p.tickets[n]? = some t) :
    n ∈ p.waiting ∨ n ∈ p.busy ∨ n ∈ a.stranded ∨ (∃ o, (n, o) ∈ a.settled) ∨ n ∈ a.drained := by
  have hn : n ∈ List.range p.tickets.length :=
    List.mem_range.2 (List.getElem?_eq_some_iff.1 ht).1
  -- The places together list every number.
  have hplace := h.places.symm.subset hn
  simp only [Archive.numbers, List.mem_append] at hplace
  rcases hplace with hn | hn | hn | hn | hn
  · exact .inl hn
  · exact .inr (.inl hn)
  · exact .inr (.inr (.inl hn))
  · obtain ⟨e, he, rfl⟩ := List.mem_map.1 hn
    exact .inr (.inr (.inr (.inl ⟨e.2, he⟩)))
  · exact .inr (.inr (.inr (.inr hn)))

/-- A job that was taken up occupies its worker, was left behind by it, or has finished. -/
theorem Filed.place (h : p.Filed a) {t : Ticket} (ht : p.tickets[n]? = some t)
    (hstarted : t.started = true) : n ∈ p.busy ∨ n ∈ a.stranded ∨ t.isFinished = true := by
  -- What waits has not started.
  rcases h.mem_place ht with hn | hn | hn | ⟨o, ho⟩ | hn
  · obtain ⟨t', ht', hstays⟩ := h.waiting n hn
    cases ht.symm.trans ht'
    have hclash := hstarted.symm.trans hstays.started
    cases hclash
  · exact .inl hn
  · exact .inr (.inl hn)
  · obtain ⟨t', ht', ho⟩ := h.settled n o ho
    cases ht.symm.trans ht'
    exact .inr (.inr (Ticket.isFinished_of_outcome? ho))
  · obtain ⟨t', ht', hfinished⟩ := h.drained n hn
    cases ht.symm.trans ht'
    exact .inr (.inr hfinished)

/-- What goes on occupies a worker, or has cost one. -/
theorem Filed.going_subset (h : p.Filed a) : p.going ⊆ p.busy ++ a.stranded := by
  intro n hn
  obtain ⟨t, ht, hgoing⟩ := mem_numbers.1 hn
  simp only [Bool.and_eq_true, Bool.not_eq_true'] at hgoing
  rcases h.place ht hgoing.1 with hbusy | hstranded | hfinished
  · exact List.mem_append_left _ hbusy
  · exact List.mem_append_right _ hstranded
  · rw [hgoing.2] at hfinished
    cases hfinished

/-- The tickets that were abandoned are those that their workers left behind. -/
theorem Filed.mem_abandoned (h : p.Filed a) (n : Nat) : n ∈ p.abandoned ↔ n ∈ a.stranded := by
  have hbegun := h.begun n
  rw [Pool.abandoned, List.mem_filter, decide_eq_true_eq, mem_numbers, ← Option.any_eq_true]
  rw [hasStarted] at hbegun
  -- A ticket that started and did not begin is stranded, and no other.
  constructor
  · rintro ⟨hstarted, hn⟩
    by_contra hstranded
    exact hn (hbegun.2 ⟨hstarted, hstranded⟩)
  · intro hn
    obtain ⟨t, ht, hstays⟩ := h.stranded n hn
    refine ⟨?_, fun hin => (hbegun.1 hin).2 hn⟩
    rw [ht]
    exact hstays.started

/-- The abandoned tickets are those of the archive. -/
theorem Filed.abandoned_perm (h : p.Filed a) : p.abandoned.Perm a.stranded := by
  have hnodup : a.stranded.Nodup := by
    rw [List.nodup_iff_count_le_one]
    intro n
    have hcount := h.count_le n
    omega
  exact (List.perm_ext_iff_of_nodup ((nodup_numbers _ p).filter _) hnodup).2 h.mem_abandoned

/-- There is one abandoned ticket for each lost worker. -/
theorem Filed.length_abandoned (h : p.Filed a) : p.abandoned.length = p.lost := by
  rw [h.abandoned_perm.length_eq, h.lost]

/-- What goes on in a pool at rest occupies a worker, and every busy worker is at work. -/
theorem Filed.length_going (h : p.Filed a) (hrest : p.AtRest) :
    (p.going.filter (· ∉ p.abandoned)).length = p.busy.length := by
  have hnodup : p.going.Nodup := nodup_numbers _ p
  refine List.Perm.length_eq ((List.perm_ext_iff_of_nodup (hnodup.filter _) h.nodup_busy).2 ?_)
  intro n
  rw [List.mem_filter, decide_eq_true_eq, h.mem_abandoned]
  -- A ticket that goes on is busy or stranded. At rest a busy one goes on, as a worker would have
  -- left it otherwise.
  constructor
  · rintro ⟨hgoing, hstranded⟩
    exact (List.mem_append.1 (h.going_subset hgoing)).resolve_right hstranded
  · intro hn
    obtain ⟨t, ht, hstays⟩ := h.busy n hn
    have hstray := List.find?_eq_none.1 hrest.1 n hn
    rw [hasFinished, ht] at hstray
    refine ⟨mem_numbers.2 ⟨t, ht, ?_⟩, (h.only_busy hn).2.2⟩
    simpa [hstays.started] using hstray

/-! ### Counts over the places -/

/-- A count of tickets is the sum of the counts over the places of tickets. -/
theorem Filed.countP_range (h : p.Filed a) (test : Nat → Bool) :
    (List.range p.tickets.length).countP test
      = p.waiting.countP test + (p.busy.countP test + (a.stranded.countP test
        + (a.settled.countP (fun e => test e.1) + a.drained.countP test))) := by
  rw [← h.places.countP_eq test]
  simp only [Archive.numbers, List.countP_append, List.countP_map]
  rfl

/-- The tickets, counted by place. -/
theorem Filed.length_tickets (h : p.Filed a) :
    p.tickets.length = p.backlog.jobs.length + (p.busy.length + (a.stranded.length
      + (a.settled.length + a.drained.length))) := by
  have hlength := h.places.length_eq
  have hwaiting : p.waiting.length = p.backlog.jobs.length := List.length_map Slot.ticket
  simp only [Archive.numbers, List.length_append, List.length_map, List.length_range] at hlength
  omega

/-- A count of tickets that were settled, in a pool that was not stopped, goes by the outcomes that
they were settled with. -/
theorem Filed.countP_settled (h : p.Filed a) (hdrained : a.drained = [])
    (kind : Outcome → Bool) {test : Nat → Bool}
    (hopen : ∀ n, n ∈ p.waiting ∨ n ∈ p.busy ∨ n ∈ a.stranded → test n = false)
    (hsettled : ∀ e ∈ a.settled, test e.1 = kind e.2) :
    (List.range p.tickets.length).countP test = a.settled.countP (kind ·.2) := by
  have hzero {l : List Nat} (hl : ∀ n ∈ l, n ∈ p.waiting ∨ n ∈ p.busy ∨ n ∈ a.stranded) :
      l.countP test = 0 :=
    List.countP_eq_zero.2 fun n hn => by simp [hopen n (hl n hn)]
  rw [h.countP_range, hzero fun _ => .inl, hzero fun _ hn => .inr (.inl hn),
    hzero fun _ hn => .inr (.inr hn), hdrained, List.countP_nil, Nat.add_zero]
  simp only [Nat.zero_add]
  exact List.countP_congr fun e he => by rw [hsettled e he]

/-- The outcome of a ticket that was settled is the one that it was settled with. -/
theorem Filed.any_settled (h : p.Filed a) (kind : Outcome → Bool) {e : Nat × Outcome}
    (he : e ∈ a.settled) : (p.tickets[e.1]?.any fun t => t.outcome?.any kind) = kind e.2 := by
  obtain ⟨t, ht, ho⟩ := h.settled e.1 e.2 he
  rw [ht, Option.any_some, ho, Option.any_some]

/-- As many tickets completed, and as many failed, as were settled so. -/
theorem Filed.length_outcomes (h : p.Filed a) (hdrained : a.drained = []) {kind : Outcome → Bool}
    (hkind : kind .cancelled = false) :
    (p.numbers fun t => t.outcome?.any kind).length = a.settled.countP (kind ·.2) := by
  rw [length_numbers]
  refine h.countP_settled hdrained kind ?_ fun e he => h.any_settled kind he
  -- Outside the settled ones a ticket has no outcome, or was cancelled, which is not of this kind.
  have hstays {started : Bool} {progress : Progress} (hopen : ∀ o, progress ≠ .finished o)
      {l : List Nat} (hl : p.Each (Ticket.Stays started progress) l) (n : Nat) (hn : n ∈ l) :
      (p.tickets[n]?.any fun t => t.outcome?.any kind) = false := by
    obtain ⟨t, ht, hs⟩ := hl n hn
    rw [ht, Option.any_some]
    exact hs.any_outcome hopen hkind
  rintro n (hn | hn | hn)
  · exact hstays Progress.queued_ne_finished h.waiting n hn
  · exact hstays Progress.running_ne_finished h.busy n hn
  · exact hstays Progress.running_ne_finished h.stranded n hn

/-- As many tickets were cancelled and have left the backlog as were settled so. -/
theorem Filed.length_cancelled (h : p.Filed a) (hdrained : a.drained = []) (hrest : p.AtRest) :
    ((p.numbers fun t => t.outcome?.any (·.isCancelled)).filter
      fun n => n ∉ p.waiting ∧ n ∉ p.abandoned).length = a.settled.countP (·.2.isCancelled) := by
  rw [numbers, List.filter_filter, ← List.countP_eq_length_filter]
  refine h.countP_settled hdrained Outcome.isCancelled ?_ ?_
  · rintro n (hn | hn | hn)
    · simp [hn]
    · -- A busy worker at rest holds no job that was cancelled.
      have hstray := List.find?_eq_none.1 hrest.1 n hn
      obtain ⟨t, ht, -⟩ := h.busy n hn
      have hnone : t.outcome? = none := by
        simpa [hasFinished, ht, Ticket.isFinished] using hstray
      simp [ht, hnone]
    · simp [(h.mem_abandoned n).2 hn]
  · intro e he
    -- No number is in two places, so a settled one neither waits nor is abandoned.
    have hcount := h.count_le e.1
    have hpos : 0 < (a.settled.map Prod.fst).count e.1 :=
      List.count_pos_iff.2 (List.mem_map_of_mem he)
    have hwaiting : e.1 ∉ p.waiting := by
      rw [← List.count_eq_zero]
      omega
    have hstranded : e.1 ∉ p.abandoned := by
      rw [h.mem_abandoned, ← List.count_eq_zero]
      omega
    rw [h.any_settled Outcome.isCancelled he]
    simp [hwaiting, hstranded]

/-- Every outcome that is not an interruption is of one of three kinds. -/
theorem length_eq_countP {settled : List (Nat × Outcome)}
    (h : ∀ n o, (n, o) ∈ settled → o ≠ .interrupted) :
    settled.length = settled.countP (·.2.isCompleted) + settled.countP (·.2.isFailed)
      + settled.countP (·.2.isCancelled) := by
  -- Settled one by one: completed, failed or cancelled.
  induction settled with
  | nil => rfl
  | cons e settled ih =>
    have htail := ih fun n o hmem => h n o (List.mem_cons_of_mem _ hmem)
    have hne := h e.1 e.2 List.mem_cons_self
    rw [List.length_cons, List.countP_cons, List.countP_cons, List.countP_cons, htail]
    cases ho : e.2 with
    | interrupted => exact absurd ho hne
    | completed | failed | cancelled =>
      simp only [Outcome.isCompleted, Outcome.isFailed, Outcome.isCancelled, if_true,
        Bool.false_eq_true, if_false]
      omega

/-! ### Pools at rest -/

/-- At rest the counters of an open pool agree with its tickets. -/
theorem Counted.accounts (hcounted : p.Counted a) (h : p.Filed a) (hopen : p.isShutDown = false)
    (hrest : p.AtRest) : p.Accounts := by
  have hdrained := hcounted.drained hopen
  have hqueued := hcounted.queued
  have hactive := hcounted.active
  have hcompleted := hcounted.completed
  have hfailed := hcounted.failed
  have hcancelled := hcounted.cancelled
  refine ⟨?_, hqueued, ?_, ?_, ?_, ?_, h.length_abandoned⟩
  · -- Nothing was drained, so the submissions are the tickets of the other four places.
    have hlength := h.length_tickets
    have hsettled := length_eq_countP hcounted.settled
    have hlost := h.lost
    have hsubmitted := hcounted.submitted
    rw [hdrained, List.length_nil] at hlength
    omega
  · rw [h.length_going hrest, hactive]
  · rw [h.length_outcomes hdrained rfl, hcompleted]
  · rw [h.length_outcomes hdrained rfl, hfailed]
  · rw [h.length_cancelled hdrained hrest, hcancelled]

/-- A purge subtracts no more than is queued. -/
theorem Counted.purge_exact (h : p.Counted a) :
    p.purge.counters.queued + p.purgeCount = p.counters.queued := by
  have hsize := p.purgeCount_add_size
  have hqueued := h.queued
  show p.counters.queued - p.purgeCount + p.purgeCount = _
  omega

/-- No subtraction from a counter reaches below zero. -/
theorem Counted.exact (h : p.Counted a) : p.Exact := by
  have hqueued := h.queued
  have hactive := h.active
  refine ⟨h.purge_exact, ?_, ?_, ?_, ?_, ?_⟩
  · -- What is popped was queued, and who leaves was active.
    intro item backlog hpop
    have hsize := Backlog.size_of_pop? hpop
    show p.counters.queued - 1 + 1 = _
    omega
  · intro backlog hpop
    exact (counted_popped h hpop).purge_exact
  · intro n hn o
    have hpos := List.length_pos_of_mem hn
    rw [leave, Counters.active_ended]
    show p.counters.active - 1 + 1 = _
    omega
  · intro n o
    rw [leave, Counters.active_ended]
    rfl
  · -- The stop drains all that is queued.
    intro hopen
    unfold Pool.shutDown
    rw [hopen, if_neg Bool.false_ne_true]
    show p.counters.queued - p.backlog.items.length + _ = _
    rw [Backlog.length_items]
    omega

end

/-! ### Runs -/

section
variable {σ : Type} {hook : Hook σ} {lastly : Job → WorkEnd} {p : Pool}

/-- No operation of a caller loses a worker or changes a setting. -/
theorem constants_perturb (lastly : Job → WorkEnd) (p : Pool) (step : Step) :
    (p.perturb lastly step).2.lost = p.lost ∧ (p.perturb lastly step).2.settings = p.settings := by
  cases step with
  | submit job =>
    simp only [perturb]
    cases hp : p.submit job with
    | error e => exact ⟨rfl, rfl⟩
    | ok result => exact constants_submit hp
  | cancel n => exact constants_cancel n p
  | purge => exact ⟨rfl, rfl⟩
  | schedulePurge =>
    simp only [perturb]
    cases hp : p.schedulePurge with
    | error e => exact ⟨rfl, rfl⟩
    | ok p' => exact constants_schedulePurge hp
  | release id how named =>
    simp only [perturb, release]
    split <;> exact ⟨rfl, rfl⟩
  -- To stop is to shut the pool down and then to end all work.
  | stop =>
    obtain ⟨hlost, hsettings⟩ := constants_endAll lastly p.shutDown
    obtain ⟨hlost', hsettings'⟩ := constants_shutDown p
    exact ⟨hlost.trans hlost', hsettings.trans hsettings'⟩

/-- The number of workers is fixed, and only a crash of the hook breaks a worker down. -/
theorem constants_event {b c : Pool × σ} (hevent : Event hook lastly b c) :
    ((∀ job s, (hook job s).1 = true) → c.1.lost = b.1.lost) ∧ c.1.settings = b.1.settings := by
  cases hevent with
  | steps p s step => exact (constants_perturb lastly p step).imp_left fun hlost _ => hlost
  | ends hn how => exact ⟨fun _ => rfl, rfl⟩
  | stops p s => exact (constants_shutDown p).imp_left fun hlost _ => hlost
  | acts hact => exact constants_action hact

/-- While the hook does not crash no worker breaks down. -/
theorem lost_of_reaches {settings : PoolSettings} {work : Job → Work} {priority : Priority}
    {new : Pool} (hnew : Pool.new settings work priority = .ok new)
    (hhook : ∀ job s, (hook job s).1 = true) {s₀ s : σ}
    (h : Reaches hook lastly (new, s₀) (p, s)) : p.lost = 0 := by
  have hzero : new.lost = 0 := by
    unfold Pool.new at hnew
    split at hnew <;> cases hnew
    rfl
  exact lasts_of_event (P := fun p => p.lost = 0)
    (fun hevent hp => ((constants_event hevent).1 hhook).trans hp) h hzero

/-- While no hook crashes, no worker is lost and no ticket abandoned. -/
theorem noneLost_of_reaches {settings : PoolSettings} {work : Job → Work} {priority : Priority}
    {new : Pool} (hnew : Pool.new settings work priority = .ok new)
    (hhook : ∀ job s, (hook job s).1 = true) {s₀ s : σ}
    (h : Reaches hook lastly (new, s₀) (p, s)) : p.lost = 0 ∧ p.abandoned = [] := by
  have hlost := lost_of_reaches hnew hhook h
  obtain ⟨a, hfiled, -⟩ := booked_of_reaches hnew h
  exact ⟨hlost, List.eq_nil_of_length_eq_zero (hfiled.length_abandoned.trans hlost)⟩

/-- Callers submit, cancel, purge and end work in any order, and workers act in any order: the
counters of a pool that was not stopped agree with what became of the jobs whenever the workers
rest, and nothing is ever subtracted from a counter that is not there. A hook must not crash, and
while it does not, no worker breaks down and no job is abandoned. -/
theorem reaches_accounts {settings : PoolSettings} {work : Job → Work} {priority : Priority}
    {new : Pool} (hnew : Pool.new settings work priority = .ok new) {s₀ s : σ}
    (h : Reaches hook lastly (new, s₀) (p, s)) :
    p.Exact ∧ (p.isShutDown = false → p.AtRest → p.Accounts) ∧
      ((∀ job s, (hook job s).1 = true) → p.lost = 0 ∧ p.abandoned = []) := by
  obtain ⟨a, hfiled, hcounted⟩ := booked_of_reaches hnew h
  refine ⟨hcounted.exact, ?_, fun hhook => noneLost_of_reaches hnew hhook h⟩
  intro hopen hrest
  exact hcounted.accounts hfiled hopen hrest

/-- A pool with one worker. The work of one job goes on until it is ended, all other work
crashes. -/
def oneWorker : Pool :=
  { settings := .ofWorkers 1
    work := fun job => if job.id = "a" then .holds else .ends (.crash none)
    backlog := { order := slotOrder .latest } }

/-- A hook that lists the jobs that it is told of, the last one first. -/
def listing : Hook (List String) := fun job ids => (true, job.id :: ids)

/-- One job runs, one has crashed, one was cancelled while it waited and one waits. A purge is due
when the worker is free. -/
def purgeDue : List Step :=
  [.submit { id := "b", submittedAt := 0 }, .submit { id := "a", submittedAt := 1 },
    .submit { id := "c", submittedAt := 2 }, .submit { id := "d", submittedAt := 3 }, .cancel 2,
    .schedulePurge]

/-- Two jobs and a chore wait here, and the counters say so. -/
theorem reaches_accounts_purgeDue :
    let result := run listing .standard purgeDue oneWorker []
    result.2.1.Exact ∧ result.2.1.Accounts ∧ (result.2.1.lost = 0 ∧ result.2.1.abandoned = []) ∧
      result.2.1.counters
        = { submitted := 4, queued := 3, active := 1, completed := 0, failed := 1,
            cancelled := 0 } := by
  have hnew : Pool.new (.ofWorkers 1) oneWorker.work .latest = .ok oneWorker := rfl
  have hreaches := reaches_run listing .standard purgeDue oneWorker []
  have hrest := atRest_run listing .standard purgeDue (atRest_of_new hnew) []
  have hopen : (run listing .standard purgeDue oneWorker []).2.1.isShutDown = false := by
    decide +kernel
  have hcounters : (run listing .standard purgeDue oneWorker []).2.1.counters
      = { submitted := 4, queued := 3, active := 1, completed := 0, failed := 1,
          cancelled := 0 } := by
    decide +kernel
  generalize run listing .standard purgeDue oneWorker [] = result at *
  have haccounts := reaches_accounts hnew (p := result.2.1) (s := result.2.2) hreaches
  exact ⟨haccounts.1, haccounts.2.1 hopen hrest, haccounts.2.2 fun _ _ => rfl, hcounters⟩

end

end Pool

end JobScheduling
