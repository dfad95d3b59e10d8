import JobScheduling.Pool.Script
import JobScheduling.Proofs.Cluster.Steps
import JobScheduling.Proofs.Node.InStep

/-!
# `JobScheduling.Proofs.Cluster.Alone`: a node that has the queue to itself

One node that is not clustered, next to a queue that nobody else uses. No job is lost there:
between two steps the jobs that the node holds are the jobs whose records are open, each
record stands where the execution of its job is, and every execution that goes on is that of
a held job (`Site.NoneLost`).

* `inStep_deed`: every deed at the site keeps it in step.
* `inStep_act?`: so does every action of the workers, and the record of a job that they take
  up is waiting.
* `run_noneLost`: the two along a run.
-/

set_option autoImplicit false

namespace JobScheduling

namespace Site

variable {scan heldScan : Registry.Scan} {now : Nat}

/-- Work that occupies a worker is ended from outside. -/
theorem inStep_ended {site : Site Registry} (h : site.InStep) {m : Nat}
    (hm : m ∈ site.node.pool.busy) (how : WorkEnd) :
    let site' : Site Registry := { site with node := Cluster.ended m how site.node }
    site'.InStep ∧ site.Keeps site' := by
  refine ⟨h.of_pool (Pool.sound_endWork h.sound how ?_) rfl (Pool.closes_endWork m how _),
    .of_sub fun _ => .inl rfl⟩
  intro t ht
  obtain ⟨t', ht', hstarted⟩ := h.sound.busy m hm
  rw [ht] at ht'
  cases ht'
  exact hstarted

/-- Every deed at a site keeps it in step, and a held job keeps its ticket as long as it is
held. -/
theorem inStep_deed {lastly : Job → WorkEnd} {c : Cluster Registry} {step : Cluster.Step}
    {k : Nat} {f : Site Registry → Site Registry} {n : Node}
    (hdeed : c.deed? scan heldScan lastly step = some (k, f)) (hn : c.node? k = some n)
    (h : (c.site n).InStep) : (f (c.site n)).InStep ∧ (c.site n).Keeps (f (c.site n)) := by
  cases step with
  | submit j job => cases hdeed; exact inStep_submit h job
  | cancel j id credential => cases hdeed; exact inStep_cancel h id credential
  | status j id credential => cases hdeed; exact inStep_status h id credential
  | reconcile j => cases hdeed; exact inStep_reconcile h
  | release j id how named =>
    obtain ⟨start, hstart, heq⟩ := Option.map_eq_some_iff.1 hdeed
    cases heq
    exact inStep_ended h (Cluster.mem_busy_of_runningFor? hstart hn) how
  | shutDown j => cases hdeed; exact inStep_stop h lastly
  | halt j => cases hdeed; exact inStep_halt h
  | drop j => cases hdeed
  | setClock j => cases hdeed

/-! ### Workers -/

/-- The job of a ticket that is queued is held, and its record waits. -/
theorem InStep.waiting_of_queued {site : Site Registry} (h : site.InStep) {m : Nat} {t : Ticket}
    (ht : site.node.pool.tickets[m]? = some t) (hq : t.progress = .queued) :
    site.node.held.find? t.job.id = some m ∧
      ∃ r, site.queue.records.find? t.job.id = some r ∧ t.job = r.status.job ∧
        r.stage = .waiting := by
  have hm := h.tracked m t ht (Ticket.isFinished_of_queued hq)
  refine ⟨hm, ?_⟩
  have hagrees := h.agrees t.job.id
  rw [Node.ticket?_eq_some_iff.2 ⟨m, hm, ht⟩] at hagrees
  generalize hr? : site.queue.records.find? t.job.id = r? at hagrees
  cases hagrees with
  | going hjob hstage =>
    rw [(h.sound.tickets m t ht).queued hq] at hstage
    exact ⟨_, rfl, hjob, hstage⟩

/-- A worker takes up a job: its ticket begins, and its record runs. The record waited, so
the queue does not refuse. -/
theorem inStep_begun (now : Nat) {site : Site Registry} (h : site.InStep) {m : Nat} {t : Ticket}
    (ht : site.node.pool.tickets[m]? = some t) (hq : t.progress = .queued) :
    (site.queue.start now t.job.id).1 = .ok () ∧
      InStep { node := { site.node with pool := site.node.pool.taken m }
               queue := (site.queue.start now t.job.id).2 } := by
  obtain ⟨hm, r, hr, hjob, hwaiting⟩ := h.waiting_of_queued ht hq
  obtain ⟨hsound, htaken⟩ := Pool.sound_taken h.sound ht hq
  have hother {j : Nat} (hj : m ≠ j) :
      (site.node.pool.taken m).tickets[j]? = site.node.pool.tickets[j]? := by
    rw [Pool.getElem?_taken, if_neg hj]
  refine ⟨Registry.start_eq_ok hr hwaiting, ⟨h.alone, hsound, h.stopped, ?_, ?_, ?_⟩⟩
  · intro k j hj
    obtain ⟨t', ht', hid⟩ := h.named k j hj
    by_cases hmj : m = j
    · subst hmj
      rw [ht] at ht'
      cases ht'
      exact ⟨_, htaken, hid⟩
    · exact ⟨t', (hother hmj).trans ht', hid⟩
  · intro k
    rw [Registry.find?_start]
    show Agrees _ ((site.node.held.find? k).bind fun j => (site.node.pool.taken m).tickets[j]?)
    by_cases hk : k = t.job.id
    · subst hk
      rw [if_pos rfl, hr, Option.map_some, hm, Option.bind_some, htaken]
      refine .going ?_ ?_
      · rw [Registry.started_eq, if_pos hwaiting]
        exact hjob
      · exact Registry.stage_started _ hwaiting
    · rw [if_neg hk]
      have hagrees := h.agrees k
      unfold Node.ticket? at hagrees
      cases hj : site.node.held.find? k with
      | none => rwa [hj] at hagrees
      | some j =>
        -- Two ids are not held under one ticket.
        have hmj : m ≠ j := by
          rintro rfl
          obtain ⟨t', ht', hid⟩ := h.named k m hj
          rw [ht] at ht'
          cases ht'
          exact hk hid.symm
        rw [hj, Option.bind_some] at hagrees
        rwa [Option.bind_some, hother hmj]
  · intro j t' ht' hf
    by_cases hmj : m = j
    · subst hmj
      rw [htaken] at ht'
      cases ht'
      exact hm
    · rw [hother hmj] at ht'
      exact h.tracked j t' ht' hf

/-- The notifications that the workers of a node send when they act, each with the state of
the queue that it reaches. -/
def notified (service : SharedQueue Registry) (site : Site Registry) : List (Job × Registry) :=
  (site.node.pool.settle (Pool.noting (Cluster.hook service site.node)) (site.queue, [])).2.2

/-- The site of a node with another pool, next to another state of the queue. -/
def withPool (n : Node) (p : Pool) (q : Registry) : Site Registry :=
  { node := { n with pool := p }, queue := q }

/-- Each action of the workers keeps a site in step, and the queue refuses no
notification. -/
theorem inStep_act? {n : Node} {p p' : Pool} {s s' : Registry × List (Job × Registry)}
    (halone : n.settings.clustered = false) (h : (withPool n p s.1).InStep)
    (hact : p.act? (Pool.noting (Cluster.hook (Registry.service scan now) n)) s = some (p', s')) :
    (withPool n p' s'.1).InStep ∧ ∀ told ∈ s'.2, told ∈ s.2 ∨
      (told.2.start now told.1.id).1 = .ok () := by
  have hsame (hs : s' = s) : ∀ told ∈ s'.2, told ∈ s.2 ∨ (told.2.start now told.1.id).1 = .ok () :=
    fun _ ht => .inl (hs ▸ ht)
  rcases Pool.act?_cases hact with ⟨m, -, -, rfl, rfl⟩ | ⟨item, backlog, hpop, hitem⟩
  · exact ⟨h.of_pool (Pool.sound_leave h.sound nofun nofun) rfl (Pool.closes_leave m _ p),
      hsame rfl⟩
  · have hpopped : (withPool n (p.popped backlog) s.1).InStep :=
      h.of_pool (h.sound.of_eq rfl (fun _ hslot => Pool.mem_jobs_of_pop? hpop hslot)
        (fun _ h => h) rfl) rfl (.of_eq rfl)
    -- A purge and a job that is skipped change no ticket. A job that is taken up begins.
    rcases hitem with ⟨-, rfl, rfl⟩ |
      ⟨slot, hslot, ⟨-, ht, hb, hl, hd, -, rfl⟩ | ⟨t, ht, hq, hs', hp'⟩⟩
    · exact ⟨hpopped.of_pool (Pool.sound_purge hpopped.sound) rfl (Pool.closes_purge _), hsame rfl⟩
    · refine ⟨h.of_pool ?_ hd (.of_eq ht), hsame rfl⟩
      refine h.sound.of_eq ht ?_ (fun _ hn => hb ▸ hn) hd
      intro _ hmem
      rw [hl] at hmem
      exact Pool.mem_jobs_of_pop? hpop hmem
    · subst hslot
      obtain ⟨t', ht', hjob⟩ := h.sound.slots slot (Pool.mem_jobs_of_pop?_job hpop)
      obtain rfl : t' = t := Option.some.inj (ht'.symm.trans ht)
      have hs : s' = ((s.1.start now slot.job.id).2, s.2 ++ [(slot.job, s.1)]) := by
        rw [← hs']
        simp only [Pool.noting, Cluster.hook_eq halone]
      subst hs
      obtain ⟨hok, hbegun⟩ := inStep_begun now hpopped ht hq
      rw [hjob] at hok hbegun
      obtain ⟨hsound, htaken⟩ := Pool.sound_taken hpopped.sound ht hq
      constructor
      · rcases hp' with rfl | rfl
        · exact hbegun.of_pool (Pool.sound_perform hsound htaken rfl)
            (Pool.isShutDown_perform ..) (Pool.closes_perform slot _)
        · exact hbegun.of_pool (hsound.of_eq rfl (fun _ h => h) (fun _ h => h) rfl) rfl (.of_eq rfl)
      · intro told htold
        rcases List.mem_append.1 htold with hold | hnew
        · exact .inl hold
        · rw [List.mem_singleton.1 hnew]
          exact .inr hok

/-- The workers keep a site in step until they have nothing left to do, and the queue refuses
none of their notifications. -/
theorem inStep_settle (scan : Registry.Scan) (now : Nat) {site : Site Registry} (h : site.InStep) :
    (Cluster.settle (Registry.service scan now) site).InStep ∧
      ∀ told ∈ notified (Registry.service scan now) site,
        (told.2.start now told.1.id).1 = .ok () := by
  -- The notes are made by the hook, so they are part of what the induction is about.
  have hkeep := Pool.settle_induction
    (Pool.noting (Cluster.hook (Registry.service scan now) site.node))
    (P := fun p s => (withPool site.node p s.1).InStep ∧
      ∀ told ∈ s.2, (told.2.start now told.1.id).1 = .ok ())
    (fun p s p' s' hp hact => by
      obtain ⟨hin, htold⟩ := inStep_act? h.alone hp.1 hact
      exact ⟨hin, fun told hmem => (htold told hmem).elim (hp.2 told) fun hok => hok⟩)
    (p := site.node.pool) (s := (site.queue, [])) ⟨h, nofun⟩
  refine ⟨?_, hkeep.2⟩
  have hsettle := Pool.settle_noting (Cluster.hook (Registry.service scan now) site.node)
    site.node.pool (site.queue, [])
  show (withPool site.node (site.node.pool.settle _ site.queue).1
    (site.node.pool.settle _ site.queue).2).InStep
  rw [← hsettle]
  exact hkeep.1

/-! ### Runs -/

/-- No job is lost. -/
structure NoneLost (site : Site Registry) : Prop where
  /-- The held jobs are those whose records are open. -/
  held_iff : ∀ id, id ∈ site.node.held.keys ↔
    ∃ r, site.queue.records.find? id = some r ∧ r.isFinal = false
  /-- An open record and the ticket of its job are about the same job, which waits until it
  has begun and runs from then on. -/
  going : ∀ id r, site.queue.records.find? id = some r → r.isFinal = false →
    ∃ t, site.node.ticket? id = some t ∧ t.job = r.status.job ∧ r.status.job.id = id ∧
      (r.stage = .waiting ↔ t.started = false) ∧ (r.stage = .running ↔ t.started = true)
  not_canceling : ∀ id r, site.queue.records.find? id = some r → r.stage ≠ .canceling
  /-- An execution that has not finished is that of a held job. -/
  tracked : ∀ (m : Nat) t, site.node.pool.tickets[m]? = some t → t.isFinished = false →
    site.node.held.find? t.job.id = some m

/-- Where node and queue are in step no job is lost. -/
theorem InStep.noneLost {site : Site Registry} (h : site.InStep) : site.NoneLost where
  -- A held id has a ticket, and a ticket goes with an open record only.
  held_iff id := by
    have hagrees := h.agrees id
    rw [← Table.contains_iff, Table.contains, Option.isSome_iff_exists]
    constructor
    · rintro ⟨m, hm⟩
      obtain ⟨t, ht, -⟩ := h.named id m hm
      rw [Node.ticket?_eq_some_iff.2 ⟨m, hm, ht⟩] at hagrees
      obtain ⟨r, hr, hagrees⟩ := hagrees.exists_record
      exact ⟨r, hr, hagrees.isFinal_eq_false⟩
    · rintro ⟨r, hr, hopen⟩
      rw [hr] at hagrees
      obtain ⟨t, ht⟩ := hagrees.exists_ticket hopen
      obtain ⟨m, hm, -⟩ := Node.ticket?_eq_some_iff.1 ht
      exact ⟨m, hm⟩
  going id r hr hopen := by
    have hagrees := h.agrees id
    rw [hr] at hagrees
    obtain ⟨t, ht⟩ := hagrees.exists_ticket hopen
    obtain ⟨m, hm, htm⟩ := Node.ticket?_eq_some_iff.1 ht
    obtain ⟨t', ht', hid⟩ := h.named id m hm
    obtain rfl : t' = t := Option.some.inj (ht'.symm.trans htm)
    rw [ht] at hagrees
    cases hagrees with
    | going hjob hstage =>
      refine ⟨t', ht, hjob, hjob ▸ hid, ?_⟩
      rw [hstage]
      cases t'.started <;> simp
  -- An open record stands where its ticket is, which is waiting or running.
  not_canceling id r hr hcanceling := by
    have hagrees := h.agrees id
    rw [hr] at hagrees
    generalize site.node.ticket? id = t? at hagrees
    cases hagrees with
    | ended hfinal =>
      rw [Record.isFinal_of_stage hcanceling] at hfinal
      cases hfinal
    | going _ hstage =>
      rw [hcanceling] at hstage
      split at hstage <;> cases hstage
  tracked := h.tracked

/-- A node that has just started next to an empty queue. -/
theorem inStep_of_new {settings : Settings} {retention : Option Nat} {priority : Priority}
    {work : Option (Job → Work)} {n : Node} (halone : settings.clustered = false)
    (h : Node.new settings retention priority work = .ok n) (retention' : Option Nat) :
    InStep { node := n, queue := { retention := retention' } } := by
  obtain ⟨-, hsettings, hheld, hgoesOn, htickets, hpoolGoesOn, hsound⟩ := Node.new_eq_ok h
  refine ⟨hsettings ▸ halone, hsound, hgoesOn.trans hpoolGoesOn.symm, ?_, ?_, ?_⟩
  -- A new node holds nothing, has no tickets, and no record is there.
  · intro id m hm
    rw [hheld] at hm
    cases hm
  · intro id
    have hnone : n.ticket? id = none := by
      simp only [Node.ticket?]
      rw [hheld]
      rfl
    rw [hnone]
    exact .absent
  · intro m t ht
    rw [htickets] at ht
    cases ht

end Site

namespace Cluster

variable {scan heldScan : Registry.Scan} {lastly : Job → WorkEnd}

/-- The only node of a cluster of one. -/
theorem eq_of_node? {c : Cluster Registry} {n n' : Node} {k : Nat} (hnodes : c.nodes = [some n])
    (h : c.node? k = some n') : k = 0 ∧ n' = n := by
  unfold node? at h
  rw [hnodes] at h
  cases k with
  | zero => exact ⟨rfl, (Option.some.inj h).symm⟩
  | succ k => cases h

/-- A step of one node alone keeps it in step with the queue. -/
theorem inStep_step (scan heldScan : Registry.Scan) (lastly : Job → WorkEnd)
    {c : Cluster Registry} {n : Node} (hnodes : c.nodes = [some n]) (h : (c.site n).InStep)
    {s : Step} (hs : ∀ k, s ≠ .drop k) :
    let c' := (c.step (shared scan heldScan lastly) s).2
    ∃ n', c'.nodes = [some n'] ∧ (c'.site n').InStep := by
  intro c'
  rcases step_cases scan heldScan lastly c s with
    hc' | ⟨now, -, hc'⟩ | ⟨k, hk, -⟩ | ⟨k, f, n', hdeed, hn', hc', -⟩
  -- A step changes nothing, or the clock, or loses the node, or is a deed of the node.
  · rw [show c' = c from hc']
    exact ⟨n, hnodes, h⟩
  · rw [show c' = _ from hc']
    exact ⟨n, hnodes, h⟩
  · exact absurd hk (hs k)
  · -- The only node is the one that acts.
    obtain ⟨rfl, rfl⟩ := eq_of_node? hnodes hn'
    refine ⟨_, hc'.nodes.trans (by rw [hnodes]; rfl), ?_⟩
    have hsettle := (Site.inStep_settle scan c.now (Site.inStep_deed hdeed hn' h).1).1
    simp only [site]
    rw [hc'.queue]
    exact hsettle

/-- A run of one node alone keeps it in step with the queue. -/
theorem inStep_run (scan heldScan : Registry.Scan) (lastly : Job → WorkEnd) {steps : List Step}
    (hsteps : ∀ k, .drop k ∉ steps) {c : Cluster Registry} {n : Node}
    (hnodes : c.nodes = [some n]) (h : (c.site n).InStep) :
    let c' := (run (shared scan heldScan lastly) steps c).2
    ∃ n', c'.nodes = [some n'] ∧ (c'.site n').InStep := by
  induction steps generalizing c n with
  | nil => exact ⟨n, hnodes, h⟩
  | cons s rest ih =>
    have hs (k : Nat) (hk : s = .drop k) : False := hsteps k (hk ▸ List.mem_cons_self)
    obtain ⟨n', hnodes', h'⟩ := inStep_step scan heldScan lastly hnodes h hs
    exact ih (fun k hk => hsteps k (List.mem_cons_of_mem _ hk)) hnodes' h'

/-- No job is lost on a node alone. Take any run of a node that is not clustered and has the
queue to itself, with any settings, priority and work, at any times, and any point of it where
the workers rest. The records and the held jobs are in step there (`Site.NoneLost`). And for
every step that can follow: a job that is held before and after its deed is held under the
same ticket, so none is replaced; and when the workers act after it, the queue refuses none of
their notifications that a job begins. -/
theorem run_noneLost (scan heldScan : Registry.Scan) (lastly : Job → WorkEnd)
    {settings : Settings} (halone : settings.clustered = false) {retention : Option Nat}
    {priority : Priority} {work : Job → Work} {node : Node}
    (hnew : Node.new settings retention priority (some work) = .ok node) (now : Nat)
    {steps : List Step} (hsteps : ∀ k, .drop k ∉ steps) :
    let c := (run (shared scan heldScan lastly) steps
      { now, queue := { retention }, nodes := [some node] }).2
    ∃ n, c.nodes = [some n] ∧ (c.site n).NoneLost ∧
      ∀ s k f, c.deed? scan heldScan lastly s = some (k, f) → c.node? k = some n →
        (c.site n).Keeps (f (c.site n)) ∧
          ∀ told ∈ Site.notified (Registry.service scan c.now) (f (c.site n)),
            (told.2.start c.now told.1.id).1 = .ok () := by
  intro c
  obtain ⟨n, hnodes, h⟩ := inStep_run scan heldScan lastly
    hsteps (c := { now, queue := { retention }, nodes := [some node] }) rfl
    (Site.inStep_of_new halone hnew retention)
  refine ⟨n, hnodes, h.noneLost, ?_⟩
  intro s k f hdeed hn
  obtain ⟨hin, hkeeps⟩ := Site.inStep_deed hdeed hn h
  exact ⟨hkeeps, (Site.inStep_settle scan c.now hin).2⟩

/-- Two jobs on one worker. The first is held up, times out, and is submitted again after its
record was purged; the node is stopped while it runs for the second time. -/
theorem run_noneLost_twice :
    let settings : Settings := { maxRunning := 1 }
    let work : Job → Work := fun job => if job.id = "a" then .holds else .ends (.standard job)
    let node : Node :=
      { settings
        pool :=
          { settings := settings.pool, work
            backlog := { order := Pool.slotOrder .submission } } }
    let steps : List Step :=
      [.submit 0 { id := "a", submittedAt := 0 }, .submit 0 { id := "b", submittedAt := 0 },
        .setClock 600001, .reconcile 0, .setClock 9000000,
        .submit 0 { id := "a", submittedAt := 9000000 }, .halt 0]
    let c := (run (shared id id .standard) steps
      { now := 0, queue := { retention := some 1800000 }, nodes := [some node] }).2
    ∃ n, c.nodes = [some n] ∧ (c.site n).NoneLost ∧
      ∀ s k f, c.deed? id id .standard s = some (k, f) → c.node? k = some n →
        (c.site n).Keeps (f (c.site n)) ∧
          ∀ told ∈ Site.notified (Registry.service id c.now) (f (c.site n)),
            (told.2.start c.now told.1.id).1 = .ok () :=
  @run_noneLost id id .standard { maxRunning := 1 } rfl (some 1800000) .submission _ _ (by rfl) 0
    _ (by simp)

end Cluster

end JobScheduling
