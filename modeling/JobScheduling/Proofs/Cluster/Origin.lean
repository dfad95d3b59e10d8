import JobScheduling.Proofs.Cluster.Pass

/-!
# `JobScheduling.Proofs.Cluster.Origin`: where the jobs of a cluster come from

A job enters a cluster with a submission, or when somebody else adds it to the queue. From there it
is copied, into a record, into a ticket, and from a record into the ticket of the node that claims
it, but it is never changed. So every job in a cluster is one that was submitted (`StemsFrom`).

The argument goes up from the parts of a site. `Site.preserves_stemsFrom` covers all that neither
adds nor takes on a job, `Site.StemsFrom.submit` and `Site.StemsFrom.claim` the rest. A step does
one of these, and its workers copy jobs only (`StemsFrom.step`). A request of somebody else reaches
the queue only (`StemsFrom.happen`).

If no id is submitted twice, two submitted jobs with one id are the same. Then a node that holds a
job holds the one that is recorded under its id (`job_eq_of_later`).
-/

set_option autoImplicit false

namespace JobScheduling

variable {jobs : List Job}

/-- Every recorded job is one of these. -/
def Registry.StemsFrom (jobs : List Job) (q : Registry) : Prop :=
  ∀ id r, q.records.find? id = some r → r.status.job ∈ jobs

/-- Every job with a ticket is one of these. -/
def Pool.StemsFrom (jobs : List Job) (p : Pool) : Prop := ∀ t ∈ p.tickets, t.job ∈ jobs

/-- Every job of a site, recorded or with a ticket, is one of these. -/
structure Site.StemsFrom (jobs : List Job) (s : Site Registry) : Prop where
  recorded : s.queue.StemsFrom jobs
  taken : s.node.pool.StemsFrom jobs

/-- Only an addition brings a new job. -/
theorem Registry.StemsFrom.serve {q : Registry} (h : q.StemsFrom jobs) (scan : Scan) (now : Nat)
    {request : Request} (hadd : ∀ job, request = .add job → job ∈ jobs) :
    (q.serve scan now request).2.StemsFrom jobs := by
  intro id r' hr'
  have hfate := serve_fate scan now request q id
  rw [hr'] at hfate
  generalize hr : q.records.find? id = before at hfate
  -- A move keeps the job, and an added record has the submitted one.
  cases hfate with
  | moved m =>
    rw [m.job]
    exact h id _ hr
  | added ha => exact hadd _ ha
  | replaced _ ha => exact hadd _ ha

namespace Pool

variable {p p' : Pool}

/-- Tickets keep their jobs. -/
theorem StemsFrom.follows (h : p.StemsFrom jobs) (hfollows : p.Follows p') :
    p'.StemsFrom jobs := by
  intro t' ht'
  obtain ⟨m, hm⟩ := List.mem_iff_getElem?.1 ht'
  obtain ⟨t, ht, hf⟩ := hfollows.ticket_before hm
  rw [hf.job]
  exact h t (List.mem_of_getElem? ht)

/-- A submission brings its job and no other. -/
theorem StemsFrom.submit (h : p.StemsFrom jobs) {job : Job} (hjob : job ∈ jobs) {m : Nat}
    (hsubmit : p.submit job = .ok (m, p')) : p'.StemsFrom jobs := by
  obtain ⟨-, -, htickets, -⟩ := submit_eq_ok hsubmit
  intro t ht
  rw [htickets, List.mem_append, List.mem_singleton] at ht
  rcases ht with ht | rfl
  · exact h t ht
  · exact hjob

end Pool

namespace Site

open Act Node

variable {scan : Registry.Scan} {now : Nat} {s : Site Registry}

/-- What neither adds nor takes on a job brings none. -/
theorem preserves_stemsFrom (scan : Registry.Scan) (now : Nat) (jobs : List Job) :
    Preserves scan now (StemsFrom jobs) where
  serve _ _ hadd h := ⟨h.recorded.serve scan now fun job ha => absurd ha (hadd job), h.taken⟩
  cancelTicket id s h := by
    unfold Node.cancelTicket
    split
    · exact h
    next m _ => exact ⟨h.recorded, h.taken.follows (Pool.closes_cancel m _).follows⟩
  drop _ _ h := ⟨h.recorded, h.taken⟩
  schedulePurge s h := by
    have htickets := (tidied_schedulePurge s.node).tickets
    exact ⟨h.recorded, h.taken.follows (Pool.Closes.of_eq htickets).follows⟩

/-- A node takes on a job. -/
theorem matches_hold_of_mem {job : Job} (hjob : job ∈ jobs) :
    Matches (fun s s' => s = s' ∧ StemsFrom jobs s) (hold (σ := Registry) job) (hold job) := by
  rintro s _ ⟨rfl, h⟩
  refine ⟨rfl, rfl, ?_⟩
  rw [run_hold]
  cases htake : s.node.take job with
  | error e => exact h
  | ok n =>
    obtain ⟨_, _, hsubmit, rfl⟩ := take_eq_ok htake
    exact ⟨h.recorded, h.taken.submit hjob hsubmit⟩

/-- A request to submit puts its job into the queue, into the pool, or nowhere. -/
theorem StemsFrom.submit (h : s.StemsFrom jobs) {job : Job} (hjob : job ∈ jobs) :
    ((Node.submit (Registry.service scan now) job).run s).2.StemsFrom jobs := by
  have hrespects := (preserves_stemsFrom scan now jobs).respects
  refine keeps_of_matches (hrespects.matches_submit job ?_ (matches_hold_of_mem hjob)) h
  rintro s _ ⟨rfl, h⟩
  have hadd : ∀ job', Registry.Request.add job = .add job' → job' ∈ jobs := by
    rintro _ ⟨⟩
    exact hjob
  exact ⟨rfl, rfl, h.recorded.serve scan now hadd, h.taken⟩

/-- The jobs that a node claims are recorded ones. -/
theorem StemsFrom.claim (h : s.StemsFrom jobs) :
    ((Node.claim (Registry.service scan now)).run s).2.StemsFrom jobs := by
  simp only [Node.claim]
  rw [run_bind_ok (run_node s)]
  split
  · generalize s.node.settings.maxRunning - s.node.held.size = free
    have hadd (job : Job) : Registry.Request.startNext free ≠ .add job := by rintro ⟨⟩
    rw [run_bind_ok (Registry.run_startNext scan now s free)]
    refine keeps_of_matches (matches_forEach_of_mem fun status hstatus => matches_hold_of_mem ?_) ?_
    · -- What is claimed was recorded, and the claim does not change the job.
      rw [Registry.startNext_fst] at hstatus
      obtain ⟨id, -, hid⟩ := List.mem_filterMap.1 hstatus
      obtain ⟨r, hr, rfl⟩ := Option.map_eq_some_iff.1 hid
      rw [Registry.job_started]
      exact h.recorded id r hr
    · exact (preserves_stemsFrom scan now jobs).serve (.startNext free) s hadd h
  · exact h

end Site

namespace Cluster

variable {scan heldScan : Registry.Scan} {lastly : Job → WorkEnd} {c : Cluster Registry}

/-- Every job in the cluster, recorded or with a ticket, is one of these. -/
structure StemsFrom (jobs : List Job) (c : Cluster Registry) : Prop where
  recorded : c.queue.StemsFrom jobs
  taken : ∀ k n, c.node? k = some n → n.pool.StemsFrom jobs

/-- The job that a step submits. -/
def Step.job? : Step → Option Job
  | .submit _ job => some job
  | _ => none

/-- Only a submission brings a job to the site of a node. -/
theorem stemsFrom_deed {s : Step} {k : Nat} {f : Site Registry → Site Registry} {n : Node}
    (hdeed : c.deed? scan heldScan lastly s = some (k, f)) (h : (c.site n).StemsFrom jobs)
    (hs : ∀ job, s.job? = some job → job ∈ jobs) : (f (c.site n)).StemsFrom jobs := by
  have hpreserves := Site.preserves_stemsFrom scan c.now jobs
  cases s with
  | submit _ job =>
    cases hdeed
    exact h.submit (hs job rfl)
  | cancel _ id credential =>
    cases hdeed
    exact hpreserves.cancel id credential h
  | status _ id credential =>
    cases hdeed
    exact hpreserves.status id credential h
  | reconcile _ =>
    cases hdeed
    exact hpreserves.reconcile heldScan (fun _ h => h.claim) h
  | release _ _ how _ =>
    -- The last three only close tickets; the jobs of these stay where they were.
    obtain ⟨start, -, hstart⟩ := Option.map_eq_some_iff.1 hdeed
    cases hstart
    exact ⟨h.recorded, h.taken.follows (Pool.closes_endWork start.ticket how _).follows⟩
  | shutDown _ =>
    cases hdeed
    exact ⟨h.recorded, h.taken.follows (n.halted_stop lastly).closes.follows⟩
  | halt _ =>
    cases hdeed
    exact ⟨h.recorded, h.taken.follows n.halted_shutDown.closes.follows⟩
  | drop _ | setClock _ => cases hdeed

/-- The workers copy no job that was not there. -/
theorem stemsFrom_settle {now : Nat} {s : Site Registry} (h : s.StemsFrom jobs) :
    (settle (Registry.service scan now) s).StemsFrom jobs := by
  refine ⟨settle_queue (P := Registry.StemsFrom jobs) ?_ h.recorded,
    h.taken.follows (Pool.follows_settle _ _ _)⟩
  intro q id hq
  have hadd : ∀ job, Registry.Request.start id = .add job → job ∈ jobs := nofun
  exact hq.serve scan now hadd

/-- Nodes that have just started next to an empty queue have no job. -/
theorem stemsFrom_of_new {now : Nat} {retention : Option Nat} {nodes : List (Option Node)}
    (hnodes : ∀ n, some n ∈ nodes → ∃ clustered, n.Started clustered) (jobs : List Job) :
    StemsFrom jobs { now, queue := { retention }, nodes } := by
  constructor
  · intro id r hr
    cases hr
  · intro k n hn t ht
    obtain ⟨_, _, _, _, _, -, hnew⟩ := hnodes n (mem_of_node? hn)
    obtain ⟨-, -, -, -, htickets, -⟩ := Node.new_eq_ok hnew
    rw [htickets] at ht
    cases ht

/-- Only a submission brings a job. -/
theorem StemsFrom.step (h : c.StemsFrom jobs) (scan heldScan : Registry.Scan)
    (lastly : Job → WorkEnd) {s : Step} (hs : ∀ job, s.job? = some job → job ∈ jobs) :
    (c.step (shared scan heldScan lastly) s).2.StemsFrom jobs := by
  -- The step changes one site, and then its workers act.
  have hsite : ∀ k f n, c.deed? scan heldScan lastly s = some (k, f) → c.node? k = some n →
      let site' := settle (Registry.service scan c.now) (f (c.site n))
      site'.node.pool.StemsFrom jobs ∧ site'.queue.StemsFrom jobs := by
    intro k f n hdeed hn
    have hbefore : (c.site n).StemsFrom jobs := ⟨h.recorded, h.taken k n hn⟩
    have hafter := @stemsFrom_settle jobs scan c.now _ (stemsFrom_deed hdeed hbefore hs)
    exact ⟨hafter.taken, hafter.recorded⟩
  obtain ⟨hnodes, hqueue⟩ := step_sites (P := fun n => n.pool.StemsFrom jobs)
    (Q := Registry.StemsFrom jobs) scan heldScan lastly hsite h.taken h.recorded
  exact ⟨hqueue, hnodes⟩

/-- The job that is submitted when this happens, to a node or to the queue. -/
def Happening.job? : Happening → Option Job
  | .step s => s.job?
  | .request (.add job) => some job
  | .request _ => none

/-- The id of the job that is submitted when this happens. -/
def Happening.submitted? (s : Happening) : Option String := s.job?.map (·.id)

/-- A job that somebody else adds to the queue is submitted as well. -/
theorem StemsFrom.happen (h : c.StemsFrom jobs) (scan heldScan : Registry.Scan)
    (lastly : Job → WorkEnd) {s : Happening} (hs : ∀ job, s.job? = some job → job ∈ jobs) :
    (Cluster.happen scan heldScan lastly c s).StemsFrom jobs := by
  cases s with
  | step s => exact h.step scan heldScan lastly hs
  | request request =>
    have hadd : ∀ job, request = .add job → job ∈ jobs := by
      rintro job rfl
      exact hs job rfl
    exact ⟨h.recorded.serve scan c.now hadd, h.taken⟩

/-- Every job in a cluster was submitted in the past that led there. -/
theorem stemsFrom_later (scan heldScan : Registry.Scan) (lastly : Job → WorkEnd)
    (past : List Happening) (h : c.StemsFrom (past.filterMap Happening.job?)) :
    (later scan heldScan lastly past c).StemsFrom (past.filterMap Happening.job?) :=
  later_induction_of_mem past (P := StemsFrom (past.filterMap Happening.job?))
    (fun _ s hs h => h.happen scan heldScan lastly fun _ hjob =>
      List.mem_filterMap.2 ⟨s, hs, hjob⟩) h

/-- If no id is submitted twice, a submitted job is told by its id. -/
theorem eq_of_submitted {past : List Happening}
    (honce : (past.filterMap Happening.submitted?).Nodup) {a b : Job}
    (ha : a ∈ past.filterMap Happening.job?) (hb : b ∈ past.filterMap Happening.job?)
    (hid : a.id = b.id) : a = b := by
  have hids : (past.filterMap Happening.job?).map (·.id) = past.filterMap Happening.submitted? :=
    List.map_filterMap ..
  exact List.inj_on_of_nodup_map (hids ▸ honce) ha hb hid

/-- If no id is submitted twice, every node holds the jobs that are recorded. -/
theorem job_eq_of_later (hscan : ∀ ids, (scan ids).Perm ids) (heldScan : Registry.Scan)
    (lastly : Job → WorkEnd) {now : Nat} {retention : Option Nat} {nodes : List (Option Node)}
    (hnodes : ∀ n, some n ∈ nodes → ∃ clustered, n.Started clustered) {past : List Happening}
    (honce : (past.filterMap Happening.submitted?).Nodup) :
    let c := later scan heldScan lastly past { now, queue := { retention }, nodes }
    ∀ {k n id t r}, c.node? k = some n → n.ticket? id = some t →
      c.queue.records.find? id = some r → t.job = r.status.job := by
  intro c k n id t r hn ht hr
  -- The held job and the recorded one were both submitted under the id, and so in one submission.
  have hstems : c.StemsFrom (past.filterMap Happening.job?) :=
    stemsFrom_later scan heldScan lastly past (stemsFrom_of_new hnodes _)
  have hsized : c.Sized := sized_later hscan heldScan lastly past (sized_of_new hnodes)
  obtain ⟨m, hm, hmt⟩ := Node.ticket?_eq_some_iff.1 ht
  obtain ⟨t', ht', hid⟩ := (hsized.nodes k n hn).named id m hm
  cases hmt.symm.trans ht'
  refine eq_of_submitted honce (hstems.taken k n hn t (List.mem_of_getElem? hmt))
    (hstems.recorded id r hr) ?_
  rw [hid, (hsized.keyed id r hr).1]

end Cluster

end JobScheduling
