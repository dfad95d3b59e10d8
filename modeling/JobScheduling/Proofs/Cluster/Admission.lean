import JobScheduling.Proofs.Cluster.Denied
import JobScheduling.Proofs.Cluster.Executions
import JobScheduling.Proofs.Registry.Waiting
import Mathlib.Data.List.Perm.Subperm

/-!
# `JobScheduling.Proofs.Cluster.Admission`: how many jobs wait

A submission is refused when as many jobs wait as its node lets wait. Nothing else looks at that
number, so the ceiling of a cluster rests on two facts.

* No request but an addition makes a job wait (`waitingCount_serve_le`), and an addition makes one
  job wait (`waitingCount_add`). A node adds jobs for submissions only, and only below its limit
  (`waitingCount_deed`). So a step never leads above the largest limit of all nodes
  (`capped_step`).
* A clustered node that goes on (`Receives`) refuses a new job exactly at its limit. The refusal
  tells how many jobs wait and leaves the cluster as it was (`Receives.submit`), and a row of
  submissions fills the queue up to the limit of the node (`Receives.run`).

`run_admission` puts both together, for clusters whose nodes differ in everything.
-/

set_option autoImplicit false

namespace JobScheduling

namespace Registry

variable {now : Nat} {q q' : Registry}

/-! ### The number of waiting jobs -/

/-- The waiting ids are those of the records that wait. -/
theorem mem_waitingIds_iff_waits {id : String} : id ∈ q.waitingIds ↔ q.waits id = true := by
  rw [mem_waitingIds, waits_iff]

/-- No more jobs wait than before when each of them has waited before. -/
theorem waitingCount_le (h : ∀ id, q'.waits id = true → q.waits id = true) :
    q'.waitingCount ≤ q.waitingCount := by
  rw [← length_waitingIds, ← length_waitingIds]
  have hsub : q'.waitingIds ⊆ q.waitingIds := by
    intro id hid
    rw [mem_waitingIds_iff_waits] at hid ⊢
    exact h id hid
  exact (q'.nodup_waitingIds.subperm hsub).length_le

/-- Only an addition makes more jobs wait. -/
theorem waitingCount_serve_le (scan : Scan) (now : Nat) {request : Request}
    (hadd : ∀ job, request ≠ .add job) (q : Registry) :
    (q.serve scan now request).2.waitingCount ≤ q.waitingCount :=
  waitingCount_le fun _ => waits_of_serve scan hadd

/-- A job that waits does not expire. -/
theorem waits_purge (now : Nat) (q : Registry) (id : String) :
    (q.purge now).waits id = q.waits id := by
  simp only [waits, find?_purge]
  cases hr : q.records.find? id with
  | none => rfl
  | some r =>
    -- A waiting record does not expire; of another it does not matter whether it does.
    by_cases hwaiting : r.stage = .waiting
    · have hexpires : q.expires now r = false := by
        rw [expires_eq_false]
        rw [Record.isFinal_of_stage hwaiting]
        rfl
      simp [hexpires]
    · cases hexpires : q.expires now r <;> simp [hexpires, hwaiting]

/-- A job whose id has no record is recorded. -/
theorem add_eq_ok (now : Nat) {job : Job} (h : q.records.find? job.id = none) :
    (q.add now job).1 = .ok () := by
  rw [add_eq_ok_iff, find?_purge, h]
  rfl

/-- After an addition that is not refused the new job waits, and those that waited before. -/
theorem waits_add {job : Job} (h : (q.add now job).1 = .ok ()) (id : String) :
    (q.add now job).2.waits id = true ↔ id = job.id ∨ q.waits id = true := by
  have hfree := add_eq_ok_iff.1 h
  rw [← waits_purge now q, waits, find?_add]
  by_cases hid : id = job.id
  · rw [if_pos ⟨hid, hid ▸ hfree⟩]
    simp [hid, Record.new, Status.waiting, Record.stage]
  · rw [if_neg fun h => hid h.1]
    simp [hid, waits]

/-- An addition that is not refused makes one more job wait. -/
theorem waitingCount_add {job : Job} (h : (q.add now job).1 = .ok ()) :
    (q.add now job).2.waitingCount = q.waitingCount + 1 := by
  have hnew : job.id ∉ q.waitingIds := by
    rw [mem_waitingIds_iff_waits, ← waits_purge now, waits, add_eq_ok_iff.1 h]
    exact Bool.false_ne_true
  have hmem (id : String) : id ∈ (q.add now job).2.waitingIds ↔ id ∈ job.id :: q.waitingIds := by
    rw [List.mem_cons, mem_waitingIds_iff_waits, mem_waitingIds_iff_waits, waits_add h]
  have hperm : (q.add now job).2.waitingIds.Perm (job.id :: q.waitingIds) :=
    (List.perm_ext_iff_of_nodup (nodup_waitingIds _)
      (List.nodup_cons.2 ⟨hnew, q.nodup_waitingIds⟩)).2 hmem
  rw [← length_waitingIds, hperm.length_eq, List.length_cons, length_waitingIds]

/-- An addition makes one more job wait at most. -/
theorem waitingCount_add_le (now : Nat) (job : Job) (q : Registry) :
    (q.add now job).2.waitingCount ≤ q.waitingCount + 1 := by
  by_cases h : (q.add now job).1 = .ok ()
  · rw [waitingCount_add h]
  · have hle : (q.add now job).2.waitingCount ≤ q.waitingCount :=
      waitingCount_le fun id hid => (waits_of_add hid).resolve_right fun hnew => h hnew.2
    omega

end Registry

namespace Node

variable (scan : Registry.Scan) (now : Nat)

/-! ### Submissions and the limit -/

/-- At its limit a node refuses every job, and nothing changes. -/
theorem run_submit_of_full (job : Job) (site : Site Registry)
    (hfull : site.node.settings.maxWaiting ≤ site.queue.waitingCount) :
    (submit (Registry.service scan now) job).run site
      = (.error (.refused
          (if site.node.isShutDown = true then .poolShutDown
          else if job.hasBlankOwner = true then .accessDenied job.id
          else .capacityExceeded site.queue.waitingCount site.node.settings.maxWaiting)),
        site) := by
  rw [run_submit_eq, if_pos hfull]
  split
  · rfl
  · split <;> rfl

/-- Below its limit a clustered node that goes on records every job, unless the queue refuses. -/
theorem run_submit_of_room {job : Job} (site : Site Registry)
    (hclustered : site.node.settings.clustered = true) (hgoesOn : site.node.isShutDown = false)
    (howner : job.hasBlankOwner = false)
    (hroom : site.queue.waitingCount < site.node.settings.maxWaiting) :
    (submit (Registry.service scan now) job).run site
      = ((site.queue.add now job).1.mapError .refused,
        { site with queue := (site.queue.add now job).2 }) := by
  rw [run_submit_eq, hgoesOn, if_neg Bool.false_ne_true, howner, if_neg Bool.false_ne_true,
    if_neg (Nat.not_le.2 hroom)]
  simp only [recorded, hclustered, if_true]
  cases (site.queue.add now job).1 <;> rfl

/-- What every request but an addition keeps of the queue, a node keeps that adds no job. It keeps
its settings as well. -/
theorem preserves_of_serve {P : Registry → Prop} (settings : Settings)
    (h : ∀ request q, (∀ job, request ≠ .add job) → P q → P (q.serve scan now request).2) :
    Preserves scan now fun s => s.node.settings = settings ∧ P s.queue where
  serve request s hadd hs := ⟨hs.1, h request s.queue hadd hs.2⟩
  cancelTicket id s hs := ⟨(Site.eases_cancelTicket id s).settings.trans hs.1, hs.2⟩
  drop _ _ hs := hs
  schedulePurge s hs := ⟨(Site.eases_schedulePurge s).settings.trans hs.1, hs.2⟩

/-- The same for a pass, with its claim. -/
theorem keeps_reconcile {P : Registry → Prop} (heldScan : Registry.Scan) (site : Site Registry)
    (h : ∀ request q, (∀ job, request ≠ .add job) → P q → P (q.serve scan now request).2)
    (hP : P site.queue) :
    let site' := ((reconcile (Registry.service scan now) heldScan now).run site).2
    site'.node.settings = site.node.settings ∧ P site'.queue := by
  have hpreserves := preserves_of_serve scan now site.node.settings h
  have hhold (job : Job) :
      Act.Matches (fun s s' => s = s' ∧ s.node.settings = site.node.settings ∧ P s.queue)
        (hold (σ := Registry) job) (hold job) := by
    -- To hold a claimed job adds a ticket and leaves settings and queue alone.
    rintro s _ ⟨rfl, hsettings, hs⟩
    refine ⟨rfl, rfl, ?_⟩
    rw [run_hold]
    cases htake : s.node.take job with
    | error e => exact ⟨hsettings, hs⟩
    | ok n =>
      obtain ⟨_, _, _, rfl⟩ := take_eq_ok htake
      exact ⟨hsettings, hs⟩
  refine hpreserves.reconcile heldScan (fun s hs => ?_) ⟨rfl, hP⟩
  exact Act.keeps_of_matches (hpreserves.respects.matches_claim
    (fun n => hpreserves.ask (.startNext n) nofun fun _ => rfl) hhold) hs

end Node

namespace Cluster

variable {scan heldScan : Registry.Scan} {lastly : Job → WorkEnd} {c : Cluster Registry}

/-! ### The ceiling -/

/-- What a deed does to the number of waiting jobs: it makes it no larger, or leaves it within the
limit of the node. -/
theorem waitingCount_deed {s : Step} {k : Nat} {f : Site Registry → Site Registry} {n : Node}
    (hdeed : c.deed? scan heldScan lastly s = some (k, f)) :
    (f (c.site n)).node.settings = n.settings ∧
      ((f (c.site n)).queue.waitingCount ≤ c.queue.waitingCount ∨
        (f (c.site n)).queue.waitingCount ≤ n.settings.maxWaiting) := by
  have hserve (request : Registry.Request) (q : Registry) (hadd : ∀ job, request ≠ .add job)
      (hq : q.waitingCount ≤ c.queue.waitingCount) :
      (q.serve scan c.now request).2.waitingCount ≤ c.queue.waitingCount :=
    (Registry.waitingCount_serve_le scan c.now hadd q).trans hq
  have hpreserves := Node.preserves_of_serve scan c.now n.settings hserve
  -- Only a submission adds a waiting record, and it looks at the limit before.
  cases s with
  | submit j job =>
    cases hdeed
    refine ⟨(Site.outlay_submit scan c.now job (c.site n)).1, ?_⟩
    by_cases hfull : n.settings.maxWaiting ≤ c.queue.waitingCount
    · left
      dsimp only
      rw [Node.run_submit_of_full scan c.now job (c.site n) hfull]
      exact Nat.le_refl _
    · -- Below the limit there is room for the one job that is added.
      right
      have hadd : ((c.site n).queue.add c.now job).2.waitingCount ≤ c.queue.waitingCount + 1 :=
        Registry.waitingCount_add_le c.now job c.queue
      have hnoAdd : ∀ j, Registry.Request.cancel job.id Node.cancelReason true ≠ .add j := nofun
      have hcancel := Registry.waitingCount_serve_le scan c.now hnoAdd
        ((c.site n).queue.add c.now job).2
      rcases Node.site_submit scan c.now job (c.site n) with
        hsite | ⟨-, hsite⟩ | ⟨-, -, ⟨n', -, hsite⟩ | ⟨-, hsite⟩⟩ <;> dsimp only <;> rw [hsite]
      · show c.queue.waitingCount ≤ _
        omega
      · show ((c.site n).queue.add c.now job).2.waitingCount ≤ _
        omega
      · show ((c.site n).queue.add c.now job).2.waitingCount ≤ _
        omega
      · show Registry.waitingCount (Registry.cancel ..).2 ≤ _
        exact hcancel.trans (by omega)
  | cancel j id credential =>
    cases hdeed
    exact (@Node.Preserves.cancel scan c.now _ (c.site n) hpreserves id credential
      ⟨rfl, Nat.le_refl _⟩).imp_right .inl
  | status j id credential =>
    cases hdeed
    exact (@Node.Preserves.status scan c.now _ (c.site n) hpreserves id credential
      ⟨rfl, Nat.le_refl _⟩).imp_right .inl
  | reconcile j =>
    cases hdeed
    exact (Node.keeps_reconcile scan c.now heldScan (c.site n) hserve
      (Nat.le_refl _)).imp_right .inl
  | release node id how named =>
    obtain ⟨start, -, hstart⟩ := Option.map_eq_some_iff.1 hdeed
    cases hstart
    exact ⟨rfl, .inl (Nat.le_refl _)⟩
  | shutDown j =>
    cases hdeed
    exact ⟨(Site.eases_stop lastly (c.site n)).settings, .inl (Nat.le_refl _)⟩
  | halt j =>
    cases hdeed
    exact ⟨(Site.eases_shutDown (c.site n)).settings, .inl (Nat.le_refl _)⟩
  | drop j | setClock now => cases hdeed

/-- The workers of a node make no job wait. -/
theorem waitingCount_settle_le (scan : Registry.Scan) (now : Nat) (site : Site Registry) :
    (settle (Registry.service scan now) site).queue.waitingCount ≤ site.queue.waitingCount :=
  settle_queue (P := fun q => q.waitingCount ≤ site.queue.waitingCount)
    (fun q id hq =>
      have hadd : ∀ job, Registry.Request.start id ≠ .add job := nofun
      (Registry.waitingCount_serve_le scan now hadd q).trans hq)
    (Nat.le_refl _)

/-- The largest number of waiting jobs that a node lets wait. -/
def ceiling (nodes : List (Option Node)) : Nat :=
  (nodes.map fun n => n.elim 0 (·.settings.maxWaiting)).foldr max 0

/-- The limit of a node is not above that of all nodes. -/
theorem maxWaiting_le_ceiling {nodes : List (Option Node)} {n : Node} (hn : some n ∈ nodes) :
    n.settings.maxWaiting ≤ ceiling nodes := by
  induction nodes with
  | nil => cases hn
  | cons m nodes ih =>
    simp only [ceiling, List.map_cons, List.foldr_cons]
    rcases List.mem_cons.1 hn with rfl | hn
    · exact Nat.le_max_left ..
    · exact (ih hn).trans (Nat.le_max_right ..)

/-- No more jobs wait than `limit`, and no node lets more wait. -/
structure Capped (limit : Nat) (c : Cluster Registry) : Prop where
  waiting : c.queue.waitingCount ≤ limit
  nodes : ∀ k n, c.node? k = some n → n.settings.maxWaiting ≤ limit

/-- A step leads to no more waiting jobs than some node lets wait. -/
theorem capped_step (scan heldScan : Registry.Scan) (lastly : Job → WorkEnd) {limit : Nat}
    (h : c.Capped limit) (s : Step) : (c.step (shared scan heldScan lastly) s).2.Capped limit := by
  have hsite : ∀ k f n, c.deed? scan heldScan lastly s = some (k, f) → c.node? k = some n →
      let site' := settle (Registry.service scan c.now) (f (c.site n))
      site'.node.settings.maxWaiting ≤ limit ∧ site'.queue.waitingCount ≤ limit := by
    intro k f n hdeed hn
    -- No deed changes the settings, and only a submission below the limit adds to the count.
    obtain ⟨hsettings, hwaiting⟩ := waitingCount_deed (n := n) hdeed
    have hsettle := waitingCount_settle_le scan c.now (f (c.site n))
    have hlimit := h.nodes k n hn
    have hbefore := h.waiting
    refine ⟨?_, by omega⟩
    show (f (c.site n)).node.settings.maxWaiting ≤ limit
    rw [hsettings]
    exact hlimit
  obtain ⟨hnodes, hqueue⟩ := step_sites (P := fun n => n.settings.maxWaiting ≤ limit)
    (Q := fun q => q.waitingCount ≤ limit) scan heldScan lastly hsite h.nodes h.waiting
  exact ⟨hqueue, hnodes⟩

/-! ### Submissions one after the other -/

/-- A clustered node that goes on, and whose workers rest. -/
structure Receives (k : Nat) (n : Node) (c : Cluster Registry) : Prop where
  node : c.node? k = some n
  clustered : n.settings.clustered = true
  goesOn : n.isShutDown = false
  rest : n.pool.AtRest

section
variable (scan heldScan lastly) {k : Nat} {n : Node} {job : Job}

/-- A new job is recorded below the limit of the node. At the limit it is refused with the number
of jobs that wait, and nothing changes. -/
theorem Receives.submit (h : c.Receives k n) (howner : job.hasBlankOwner = false)
    (hnew : c.queue.records.find? job.id = none) :
    c.step (shared scan heldScan lastly) (.submit k job)
      = if c.queue.waitingCount < n.settings.maxWaiting then
          (.unit, { c with queue := (c.queue.add c.now job).2 })
        else (.refused (.capacityExceeded c.queue.waitingCount n.settings.maxWaiting), c) := by
  show c.request (shared scan heldScan lastly) k (fun _ => .unit)
    (Node.submit (Registry.service scan c.now) job) = _
  -- Below the limit the job is recorded; otherwise the registry stays as it was.
  split
  next hroom =>
    have hadded := Registry.add_eq_ok c.now hnew
    have hrun := Node.run_submit_of_room scan c.now (c.site n) h.clustered h.goesOn howner hroom
    rw [show (c.site n).queue = c.queue from rfl, hadded] at hrun
    exact request_of_node_same h.node h.rest _ hrun
  next hfull =>
    have hrun := Node.run_submit_of_full scan c.now job (c.site n) (Nat.not_lt.1 hfull)
    rw [show (c.site n).node = n from rfl, h.goesOn, howner] at hrun
    exact request_of_node_same h.node h.rest _ hrun

/-- A job that was not recorded is not recorded by the submission of another one. -/
theorem Receives.find?_submit (h : c.Receives k n) (howner : job.hasBlankOwner = false)
    (hnew : c.queue.records.find? job.id = none) {id : String} (hid : id ≠ job.id)
    (hnone : c.queue.records.find? id = none) :
    (c.step (shared scan heldScan lastly) (.submit k job)).2.queue.records.find? id = none := by
  rw [h.submit scan heldScan lastly howner hnew]
  split
  · show (c.queue.add c.now job).2.records.find? id = none
    rw [Registry.find?_add, if_neg fun h => hid h.1, Registry.find?_purge, hnone]
    rfl
  · exact hnone

/-- The node goes on as it was. -/
theorem Receives.step (h : c.Receives k n) (howner : job.hasBlankOwner = false)
    (hnew : c.queue.records.find? job.id = none) :
    Receives k n (c.step (shared scan heldScan lastly) (.submit k job)).2 := by
  rw [h.submit scan heldScan lastly howner hnew]
  split
  · exact ⟨h.node, h.clustered, h.goesOn, h.rest⟩
  · exact h

/-- The number of jobs that wait after the submission of a new one. -/
theorem Receives.waitingCount_submit (h : c.Receives k n) (howner : job.hasBlankOwner = false)
    (hnew : c.queue.records.find? job.id = none) :
    (c.step (shared scan heldScan lastly) (.submit k job)).2.queue.waitingCount
      = if c.queue.waitingCount < n.settings.maxWaiting then c.queue.waitingCount + 1
        else c.queue.waitingCount := by
  rw [h.submit scan heldScan lastly howner hnew]
  split
  · exact Registry.waitingCount_add (Registry.add_eq_ok c.now hnew)
  · rfl

/-- New jobs with ids of their own. -/
structure NewJobs (jobs : List Job) (c : Cluster Registry) : Prop where
  distinct : (jobs.map (·.id)).Nodup
  owners : ∀ job ∈ jobs, job.hasBlankOwner = false
  unrecorded : ∀ job ∈ jobs, c.queue.records.find? job.id = none

/-- After the submission of the first of several new jobs the others are still new. -/
theorem NewJobs.tail {jobs : List Job} (hjobs : c.NewJobs (job :: jobs)) (h : c.Receives k n) :
    NewJobs jobs (c.step (shared scan heldScan lastly) (.submit k job)).2 := by
  have hdistinct := List.nodup_cons.1 hjobs.distinct
  refine ⟨hdistinct.2, fun j hj => hjobs.owners j (List.mem_cons_of_mem _ hj), ?_⟩
  intro j hj
  have hne : j.id ≠ job.id := by
    intro heq
    exact hdistinct.1 (List.mem_map.2 ⟨j, hj, heq⟩)
  exact h.find?_submit scan heldScan lastly (hjobs.owners job List.mem_cons_self)
    (hjobs.unrecorded job List.mem_cons_self) hne
    (hjobs.unrecorded j (List.mem_cons_of_mem _ hj))

/-- New jobs fill the queue up to the limit of the node. -/
theorem Receives.run (h : c.Receives k n) {jobs rest : List Job}
    (hjobs : c.NewJobs (jobs ++ rest)) :
    let c' := (Cluster.run (shared scan heldScan lastly) (jobs.map (.submit k)) c).2
    c'.Receives k n ∧ c'.NewJobs rest ∧
      c'.queue.waitingCount = c.queue.waitingCount
        + min jobs.length (n.settings.maxWaiting - c.queue.waitingCount) := by
  induction jobs generalizing c with
  | nil => simpa [Cluster.run] using And.intro h hjobs
  | cons job jobs ih =>
    have howner := hjobs.owners job List.mem_cons_self
    have hnew := hjobs.unrecorded job List.mem_cons_self
    obtain ⟨hreceives, hnewJobs, hcount⟩ :=
      ih (h.step scan heldScan lastly howner hnew) (hjobs.tail scan heldScan lastly h)
    rw [h.waitingCount_submit scan heldScan lastly howner hnew] at hcount
    refine ⟨hreceives, hnewJobs, hcount.trans ?_⟩
    rw [List.length_cons]
    split <;> omega

end

/-! ### Runs -/

/-- How many jobs wait along a run. Take nodes that have just started, clustered or not, with any
settings, priorities and work, next to an empty queue, and any run of them, so any point of it.

No more jobs wait than the largest limit of all nodes. From there on let new jobs be submitted one
after the other to a clustered node that goes on: jobs with ids of their own that are not recorded,
and with an owner that is not blank, or with none. As long as fewer jobs wait than the node lets
wait, the next one is recorded, and one more job waits. After that each is refused with the number
of jobs that wait, and the whole cluster stays as it was. -/
theorem run_admission (scan heldScan : Registry.Scan) (lastly : Job → WorkEnd) {now : Nat}
    {retention : Option Nat} {nodes : List (Option Node)}
    (hnodes : ∀ n, some n ∈ nodes → ∃ settings priority work,
      Node.new settings retention priority work = .ok n) (steps : List Step) :
    let world := shared scan heldScan lastly
    let c := (run world steps { now, queue := { retention }, nodes }).2
    c.queue.waitingCount ≤ ceiling nodes ∧
      ∀ k n before job, c.node? k = some n → n.settings.clustered = true →
        n.isShutDown = false → c.NewJobs (before ++ [job]) →
          let c₁ := (run world (before.map (.submit k)) c).2
          let result := c₁.step world (.submit k job)
          c₁.queue.waitingCount = c.queue.waitingCount
              + min before.length (n.settings.maxWaiting - c.queue.waitingCount) ∧
            if c₁.queue.waitingCount < n.settings.maxWaiting then
              result.1 = .unit ∧ result.2.queue.waits job.id = true ∧
                result.2.queue.waitingCount = c₁.queue.waitingCount + 1
            else
              result.1 = .refused
                  (.capacityExceeded c₁.queue.waitingCount n.settings.maxWaiting) ∧
                result.2 = c₁ := by
  intro world c
  -- The ceiling is an invariant of all steps. The rest is about the submissions that follow.
  have hcapped : c.Capped (ceiling nodes) := by
    refine run_induction (P := Capped (ceiling nodes))
      (fun _ s h => capped_step scan heldScan lastly h s) steps ?_
    exact ⟨Nat.zero_le _, fun k n hn => maxWaiting_le_ceiling (mem_of_node? hn)⟩
  have hresting : c.Resting :=
    run_induction (P := Resting) (fun _ s h => h.step scan heldScan lastly s) steps
      (resting_of_new hnodes)
  refine ⟨hcapped.waiting, ?_⟩
  intro k n before job hn hclustered hgoesOn hjobs c₁
  obtain ⟨hreceives, hlast, hcount⟩ :=
    Receives.run scan heldScan lastly ⟨hn, hclustered, hgoesOn, hresting k n hn⟩ hjobs
  have howner := hlast.owners job List.mem_cons_self
  have hnew := hlast.unrecorded job List.mem_cons_self
  have hwaiting := hreceives.waitingCount_submit scan heldScan lastly howner hnew
  have hstep := hreceives.submit scan heldScan lastly howner hnew
  refine ⟨hcount, ?_⟩
  show if c₁.queue.waitingCount < n.settings.maxWaiting then _ else _
  split
  next hroom =>
    rw [if_pos hroom] at hstep hwaiting
    have hwaits : (c₁.queue.add c₁.now job).2.waits job.id = true :=
      (Registry.waits_add (Registry.add_eq_ok c₁.now hnew) job.id).2 (.inl rfl)
    have hqueue := congrArg (fun result => result.2.queue) hstep
    exact ⟨congrArg Prod.fst hstep, hqueue ▸ hwaits, hwaiting⟩
  next hfull =>
    rw [if_neg hfull] at hstep
    exact ⟨congrArg Prod.fst hstep, congrArg Prod.snd hstep⟩

/-- A clustered node that lets two jobs wait, and one that runs its own jobs and lets three wait. -/
def mixedPair : List (Option Node) :=
  let start (settings : Settings) : Except Error Node :=
    Node.new settings (some defaultRetention) .submission (some fun _ => .holds)
  [(start { maxRunning := 1, maxWaiting := 2, clustered := true }).toOption,
    (start { maxRunning := 1, maxWaiting := 3 }).toOption]

/-- Both nodes of the pair can be made. -/
theorem started_mixedPair (n : Node) (hn : some n ∈ mixedPair) :
    ∃ settings priority work,
      Node.new settings (some defaultRetention) priority work = .ok n := by
  have of_toOption {result : Except Error Node} (h : some n = result.toOption) :
      result = .ok n := by
    cases result <;> cases h
    rfl
  simp only [mixedPair, List.mem_cons, List.not_mem_nil, or_false] at hn
  rcases hn with hn | hn
  · exact ⟨_, _, _, of_toOption hn⟩
  · exact ⟨_, _, _, of_toOption hn⟩

/-- One is clustered, the other is not. -/
theorem exists_started_mixedPair (n : Node) (hn : some n ∈ mixedPair) :
    ∃ clustered, n.Started clustered := by
  obtain ⟨settings, priority, work, hnew⟩ := started_mixedPair n hn
  exact Node.started_of_new hnew

/-- The first node claims a job. The other one runs a job, and then lets one wait. -/
def halfFull : List Step :=
  [.submit 0 { id := "a", submittedAt := 5 }, .reconcile 0,
    .submit 1 { id := "b", submittedAt := 5 }, .submit 1 { id := "c", submittedAt := 6 }]

/-- One more job is recorded, and the next one is refused. -/
theorem run_admission_halfFull :
    let before : List Job := [{ id := "d", submittedAt := 5 }]
    let job : Job := { id := "e", owner := some "alice", submittedAt := 5 }
    let start : Cluster Registry :=
      { now := 5, queue := { retention := some defaultRetention }, nodes := mixedPair }
    let c := (run (shared id id .standard) halfFull start).2
    c.queue.waitingCount ≤ ceiling mixedPair ∧
      ∃ n, c.node? 0 = some n ∧ n.settings.clustered = true ∧ n.isShutDown = false ∧
        c.NewJobs (before ++ [job]) ∧
          let c₁ := (run (shared id id .standard) (before.map (.submit 0)) c).2
          let result := c₁.step (shared id id .standard) (.submit 0 job)
          c₁.queue.waitingCount = c.queue.waitingCount
              + min before.length (n.settings.maxWaiting - c.queue.waitingCount) ∧
            if c₁.queue.waitingCount < n.settings.maxWaiting then
              result.1 = .unit ∧ result.2.queue.waits job.id = true ∧
                result.2.queue.waitingCount = c₁.queue.waitingCount + 1
            else
              result.1 = .refused
                  (.capacityExceeded c₁.queue.waitingCount n.settings.maxWaiting) ∧
                result.2 = c₁ := by
  intro before job start c
  have hthere : (c.node? 0).any (fun n => n.settings.clustered && !n.isShutDown) = true := by
    decide +kernel
  obtain ⟨n, hn, hlive⟩ := (Option.any_eq_true ..).1 hthere
  rw [Bool.and_eq_true, Bool.not_eq_true'] at hlive
  have hnew : c.NewJobs (before ++ [job]) := ⟨by decide, by decide +kernel, by decide +kernel⟩
  unfold c start at hn hnew ⊢
  obtain ⟨hceiling, hadmits⟩ := @run_admission id id .standard 5 (some defaultRetention) mixedPair
    started_mixedPair halfFull
  exact ⟨hceiling, n, hn, hlive.1, hlive.2, hnew, hadmits 0 n before job hn hlive.1 hlive.2 hnew⟩

end Cluster

end JobScheduling
