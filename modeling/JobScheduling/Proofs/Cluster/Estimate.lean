import JobScheduling.Proofs.Cluster.Advance
import JobScheduling.Proofs.Cluster.Reached
import JobScheduling.Proofs.Node.Estimate

/-!
# `JobScheduling.Proofs.Cluster.Estimate`: what nodes answer about waiting jobs

A node answers a status request of a client with the record of the job, and with its estimate if
the job waits (`TellsWaiting.exists_record`). So what is known of the registry at that time bounds
the estimate (`TellsWaiting.waitingTime`).

Between two answers anything can happen to the nodes and to the queue. What every request to the
queue keeps is kept (`queue_later`), and `Registry.Succeeds` is kept by every request: the counters
go up, and a record is what an earlier one has become or has a number that was not given before.

`later_estimates` puts this together.
-/

set_option autoImplicit false

namespace JobScheduling

namespace Registry

/-- The later registry is that of a balanced ledger as well, with as many ended jobs or more, and
the earlier one leads to it. -/
structure Succeeds (q q' : Registry) : Prop where
  booked : q'.Booked
  completed : q.completed ≤ q'.completed
  leadsTo : q.LeadsTo q'

/-- A registry succeeds itself. -/
theorem Booked.succeeds {q : Registry} (h : q.Booked) : q.Succeeds q :=
  ⟨h, Nat.le_refl _, .refl q⟩

/-- A registry that served one request more succeeds it, too. -/
theorem Succeeds.serve {q q' : Registry} (h : q.Succeeds q') (scan : Scan) (now : Nat)
    (request : Request) : q.Succeeds (q'.serve scan now request).2 :=
  ⟨h.booked.serve scan now request,
    h.completed.trans (h.booked.completed_le_serve scan now request),
    h.leadsTo.serve scan now request⟩

/-- A later record under the same id has a number that was not given before, or is that of the same
job, which has no more rounds before it. -/
theorem Succeeds.rounds_le {q q' : Registry} (h : q.Succeeds q') {id : String}
    {r r' : Record} (hr : q.records.find? id = some r) (hr' : q'.records.find? id = some r')
    (capacity : Nat) :
    q.requests < r'.status.request ∨
      r'.status.request = r.status.request ∧ r'.status.job = r.status.job ∧
        Node.rounds r'.status.request q'.completed capacity
          ≤ Node.rounds r.status.request q.completed capacity := by
  rcases h.leadsTo.records id r' hr' with hnew | ⟨r₀, hr₀, hbecomes⟩
  · exact .inl hnew
  · rw [hr] at hr₀
    cases hr₀
    refine .inr ⟨hbecomes.request, hbecomes.job, ?_⟩
    rw [hbecomes.request]
    exact Node.rounds_le_rounds h.completed _ _

end Registry

namespace Cluster

variable {scan heldScan : Registry.Scan} {lastly : Job → WorkEnd}

/-- What all requests to the queue keep is kept, whatever happens. -/
theorem queue_later {P : Registry → Prop}
    (h : ∀ now request q, P q → P (q.serve scan now request).2) (heldScan : Registry.Scan)
    (lastly : Job → WorkEnd) (past : List Happening) {c : Cluster Registry} (hc : P c.queue) :
    P (later scan heldScan lastly past c).queue := by
  refine later_induction (P := fun c => P c.queue) ?_ past hc
  intro c s hc
  cases s with
  | step s => exact queue_step h heldScan lastly hc s
  | request request => exact h c.now request c.queue hc

/-- A node that runs so many jobs at a time tells of a job that it waits. -/
structure TellsWaiting (world : World Registry) (capacity k : Nat) (id : String)
    (credential : Option String) (c : Cluster Registry) (s : Status) : Prop where
  node : ∃ n, c.node? k = some n ∧ n.settings.maxRunning = capacity
  answer : (c.step world (.status k id credential)).1 = .status s
  waiting : s.stage = .waiting

section
variable {capacity k : Nat} {id : String} {credential : Option String} {c : Cluster Registry}
  {s : Status}

/-- The answer is the record of the job, with the estimate. -/
theorem TellsWaiting.exists_record
    (h : TellsWaiting (shared scan heldScan lastly) capacity k id credential c s) :
    ∃ r, c.queue.records.find? id = some r ∧
      s = { r.status with
        waitingTime := Node.estimateWait r.status.request c.queue.completed capacity
          c.queue.averageDuration } := by
  obtain ⟨⟨n, hn, rfl⟩, hanswer, hwaiting⟩ := h
  have hrun : Answer.of Answer.status
      ((Node.status (Registry.service scan c.now) id credential).run (c.site n)).1 = .status s :=
    (request_fst hn .status _).symm.trans hanswer
  have hok : ((Node.status (Registry.service scan c.now) id credential).run (c.site n)).1
      = .ok s := by
    rcases hresult : ((Node.status (Registry.service scan c.now) id credential).run (c.site n)).1
      with (e | text) | s' <;> rw [hresult] at hrun <;> cases hrun
    rfl
  obtain ⟨r, hr, rfl⟩ := Node.run_status_eq_ok hok
  rw [Node.stage_estimated] at hwaiting
  exact ⟨r, hr, if_pos hwaiting⟩

/-- The estimate is made of rounds, and there are no more than the open records fill. -/
theorem TellsWaiting.waitingTime
    (h : TellsWaiting (shared scan heldScan lastly) capacity k id credential c s)
    (hbooked : c.queue.Booked) (hcapacity : 1 ≤ capacity) :
    s.waitingTime
        = capped (Node.rounds s.request c.queue.completed capacity * c.queue.averageDuration) ∧
      s.waitingTime ≤ capped ((c.queue.records.values.countP Record.isOpen - capacity) / capacity
        * c.queue.averageDuration) := by
  obtain ⟨r, hr, rfl⟩ := h.exists_record
  refine ⟨rfl, ?_⟩
  have hrounds := Nat.mul_le_mul_right c.queue.averageDuration (hbooked.rounds_le hr hcapacity)
  exact le_capped_iff.2 ⟨(Nat.min_le_left _ _).trans hrounds, capped_le _⟩

end

/-- What nodes that run `capacity` jobs at a time answer about jobs that wait. The estimate of such
a node is one integer quotient towards zero, times the average duration, within the range.

Take any nodes next to an empty queue, whatever has happened to them and to the queue, and the
answer of such a node that a job waits. Its estimate is no longer than it takes to run the jobs
that have not ended, but for those that run. Whatever happens from then on, a later answer of such
a node is about the same job and counts no more rounds, unless the job was recorded in the
meantime: its number was not given before. -/
theorem later_estimates (scan heldScan : Registry.Scan) (lastly : Job → WorkEnd) {capacity : Nat}
    (hcapacity : 1 ≤ capacity) (now : Nat) (retention : Option Nat) (nodes : List (Option Node)) :
    (∀ request completed average : Nat,
      (Node.estimateWait request completed capacity average : Int)
        = min (maxWord : Int)
            (max 0 (Int.tdiv ((request : Int) - completed - capacity) capacity * average))) ∧
    ∀ before : List Happening,
      let c := later scan heldScan lastly before { now, queue := { retention }, nodes }
      ∀ k id credential s,
        TellsWaiting (shared scan heldScan lastly) capacity k id credential c s →
        let unfinished := c.queue.records.values.countP Record.isOpen
        let rounds := Node.rounds s.request c.queue.completed capacity
        s.waitingTime = capped (rounds * c.queue.averageDuration) ∧
          s.waitingTime
            ≤ capped ((unfinished - capacity) / capacity * c.queue.averageDuration) ∧
          ∀ between : List Happening,
            let asked := (c.step (shared scan heldScan lastly) (.status k id credential)).2
            let c' := later scan heldScan lastly between asked
            ∀ k' credential' s',
              TellsWaiting (shared scan heldScan lastly) capacity k' id credential' c' s' →
              let rounds' := Node.rounds s'.request c'.queue.completed capacity
              s'.waitingTime = capped (rounds' * c'.queue.averageDuration) ∧
                (c.queue.requests < s'.request ∨
                  s'.request = s.request ∧ s'.job = s.job ∧ rounds' ≤ rounds) := by
  refine ⟨Node.coe_estimateWait hcapacity, ?_⟩
  intro before c k id credential s htells unfinished rounds
  -- The ledger of the registry bounds the first estimate. What follows in the queue is a successor,
  -- which bounds the second.
  have hbooked : c.queue.Booked :=
    queue_later (fun now request _ h => h.serve scan now request) heldScan lastly before
      (Registry.booked_empty retention)
  obtain ⟨hestimate, hbound⟩ := htells.waitingTime hbooked hcapacity
  refine ⟨hestimate, hbound, ?_⟩
  intro between asked c' k' credential' s' htells' rounds'
  have hserve (now : Nat) (request : Registry.Request) (q : Registry)
      (h : c.queue.Succeeds q) : c.queue.Succeeds (q.serve scan now request).2 :=
    h.serve scan now request
  have hasked : c.queue.Succeeds asked.queue :=
    queue_step hserve heldScan lastly hbooked.succeeds (.status k id credential)
  have hsucceeds : c.queue.Succeeds c'.queue :=
    queue_later hserve heldScan lastly between hasked
  refine ⟨(htells'.waitingTime hsucceeds.booked hcapacity).1, ?_⟩
  -- Each answer tells the number of a record, and a number below the later ones stays with its
  -- submission.
  obtain ⟨r, hr, rfl⟩ := htells.exists_record
  obtain ⟨r', hr', rfl⟩ := htells'.exists_record
  exact hsucceeds.rounds_le hr hr' capacity

/-- A clustered node that runs two jobs at a time. -/
def twoAtATime : List (Option Node) :=
  [(Node.new { maxRunning := 2, clustered := true } (some defaultRetention) .submission
    (some fun _ => .holds)).toOption]

/-- Eight jobs are recorded, and the first one is done after 40 milliseconds. -/
def firstOfEight : List Happening :=
  (["a", "b", "c", "d", "e", "f", "g", "h"].map fun id =>
    .step (.submit 0 { id, submittedAt := 5 })) ++
  [.request (.start "a"), .step (.setClock 45), .request (.done "a" ⟨"u", "f", "m"⟩)]

/-- Two more jobs are done, each after 60 milliseconds. -/
def twoMore : List Happening :=
  [.request (.start "b"), .request (.start "c"), .step (.setClock 105),
    .request (.done "b" ⟨"u", "f", "m"⟩), .request (.done "c" ⟨"u", "f", "m"⟩)]

/-- The last job waits for two rounds at first, and then for one. -/
theorem later_estimates_firstOfEight :
    let world := shared id id .standard
    let c := later id id .standard firstOfEight
      { now := 5, queue := { retention := some defaultRetention }, nodes := twoAtATime }
    let asked := (c.step world (.status 0 "h" none)).2
    let c' := later id id .standard twoMore asked
    let job : Job := { id := "h", submittedAt := 5 }
    let s : Status := { job, stage := .waiting, request := 8, waitingTime := 80 }
    let s' : Status := { job, stage := .waiting, request := 8, waitingTime := 53 }
    let unfinished := c.queue.records.values.countP Record.isOpen
    1 ≤ 2 ∧ TellsWaiting world 2 0 "h" none c s ∧ TellsWaiting world 2 0 "h" none c' s' ∧
      s.waitingTime = capped (Node.rounds s.request c.queue.completed 2 * c.queue.averageDuration) ∧
      s.waitingTime ≤ capped ((unfinished - 2) / 2 * c.queue.averageDuration) ∧
      (c.queue.requests < s'.request ∨ s'.request = s.request ∧ s'.job = s.job ∧
        Node.rounds s'.request c'.queue.completed 2
          ≤ Node.rounds s.request c.queue.completed 2) := by
  intro world c asked c' job s s' unfinished
  have tells (c : Cluster Registry) (s : Status)
      (hthere : (c.node? 0).any (·.settings.maxRunning = 2) = true)
      (hanswer : (c.step world (.status 0 "h" none)).1 = .status s)
      (hwaiting : s.stage = .waiting) : TellsWaiting world 2 0 "h" none c s := by
    obtain ⟨n, hn, hcapacity⟩ := (Option.any_eq_true ..).1 hthere
    exact ⟨⟨n, hn, of_decide_eq_true hcapacity⟩, hanswer, hwaiting⟩
  have htells : TellsWaiting world 2 0 "h" none c s :=
    tells c s (by decide +kernel) (by decide +kernel) rfl
  have htells' : TellsWaiting world 2 0 "h" none c' s' :=
    tells c' s' (by decide +kernel) (by decide +kernel) rfl
  have hcapacity : 1 ≤ 2 := by decide
  obtain ⟨-, hestimates⟩ := later_estimates id id .standard hcapacity 5 (some defaultRetention)
    twoAtATime
  obtain ⟨hestimate, hbound, hlater⟩ := hestimates firstOfEight 0 "h" none s htells
  obtain ⟨-, hrounds⟩ := hlater twoMore 0 none s' htells'
  exact ⟨hcapacity, htells, htells', hestimate, hbound, hrounds⟩

end Cluster

end JobScheduling
