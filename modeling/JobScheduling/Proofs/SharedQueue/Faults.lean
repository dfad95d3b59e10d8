import JobScheduling.Proofs.Node.Order
import JobScheduling.Proofs.SharedQueue.Disturbed

/-!
# `JobScheduling.Proofs.SharedQueue.Faults`: what a node does when calls fail

A node that shares its queue through a connection that misbehaves can find any of its calls failing.
This module says how far the damage goes.

* A submission that cannot count the waiting jobs, or cannot record its own, leaves the node and the
  registry as they were (`run_submit_of_fault`). When the node is stopped while the job is recorded,
  the job is refused after all, and its record is canceled (`run_submit_of_stopped`).
* A fault while a job is reported concerns that job. The node has let go of it by then, and its
  record stays as it is. A refusal ends there, and a crash ends the pass (`run_settleHeld_of_fault`,
  `run_forEach_settleHeld_of_crash`). Refused reports never show on the node: it holds the same jobs
  as next to the registry, and its tickets and its pool are the same
  (`node_reviewHeld_of_refusals`).
* When the overdue jobs of all nodes cannot be cancelled, the pass is over, and the part that
  concerns the held jobs stays done (`run_reconcile_of_fault`). When no jobs can be claimed, none is
  taken on (`run_claim_of_fault`).

The node itself can be stopped by a disturbance. Most statements here are about a node that was not.
-/

set_option autoImplicit false

namespace JobScheduling

namespace Disturbed

variable {scan : Registry.Scan} {lastly : Job → WorkEnd} {now k : Nat}

/-! ### Calls of a node -/

section
variable {q : Disturbed} {site : Site Disturbed} {method : Method} {id : Option String} {α : Type}
  {call : Call Registry α} {fault : Fault}

/-- A node that no disturbance stopped is left alone by a call. -/
theorem meanwhile_of_notMem (h : k ∉ q.stopped) (n : Node) :
    (service scan lastly now k).meanwhile q n = n :=
  if_neg (by simpa using h)

/-- A node that a disturbance stopped finds itself stopped after a call. -/
theorem meanwhile_of_mem (h : k ∈ q.stopped) (n : Node) :
    (service scan lastly now k).meanwhile q n = n.stop lastly :=
  if_pos (by simpa using h)

/-- A fault is not turned into an answer where answers are forced. -/
theorem forcing_of_fault (h : q.fault? method id = some fault) (force : Forced → α → α) :
    forcing force (through method id call) q = (.error fault, q.struck method id) := by
  simp only [forcing]
  rw [through_of_fault h]
  rfl

/-- What a call leaves is seen by the node before it goes on. -/
theorem run_ask (call : Call Disturbed α) (site : Site Disturbed) :
    (Act.ask (service scan lastly now k) call).run site = ((call site.queue).1,
      { node := (service scan lastly now k).meanwhile (call site.queue).2 site.node
        queue := (call site.queue).2 }) := rfl

/-- A call that fails leaves the node and the registry as they were. -/
theorem run_ask_of_fault {call : Call Disturbed α} (hthere : k ∉ q.stopped)
    (h : q.fault? method id = some fault) (hcall : call q = (.error fault, q.struck method id))
    (n : Node) :
    (Act.ask (service scan lastly now k) call).run { node := n, queue := q }
      = (.error fault, { node := n, queue := q.struck method id }) := by
  rw [← stopped_struck_of_fault h] at hthere
  rw [run_ask, hcall, meanwhile_of_notMem hthere]

/-- A call that is passed on leaves the node as it was, if it does not stop it. -/
theorem run_ask_of_none (hthere : k ∉ (q.struck method id).stopped)
    (h : q.fault? method id = none) (call : Call Registry α) (n : Node) :
    (Act.ask (service scan lastly now k) (through method id call)).run { node := n, queue := q }
      = ((call q.registry).1, { node := n, queue :=
          { q.struck method id with registry := (call q.registry).2 } }) := by
  have hlater : k ∉ ({ q.struck method id with registry := (call q.registry).2 } :
    Disturbed).stopped := hthere
  rw [run_ask, through_of_none h, meanwhile_of_notMem hlater]

end

/-! ### Submissions -/

/-- How many jobs wait, as the connection tells. -/
def counted (q : Disturbed) : Nat := q.forced.waiting.getD q.registry.waitingCount

section
variable {q : Disturbed} {site : Site Disturbed} {job : Job}

/-- The count of the waiting jobs, when it does not fail. -/
theorem waitingCount_of_none (h : q.fault? .waitingCount none = none) :
    (service scan lastly now k).waitingCount q = (.ok q.counted, q.struck .waitingCount none) := by
  show forcing (fun f n => f.waiting.getD n) (through .waitingCount none _) q = _
  simp only [forcing]
  rw [through_of_none h]
  rfl

/-- A submission that cannot count the waiting jobs, or cannot record its own, ends with the fault.
The node does not hold the job, and the registry is as it was. -/
theorem run_submit_of_fault {fault : Fault} (hopen : site.node.isShutDown = false)
    (howner : job.hasBlankOwner = false)
    (hthere : k ∉ (site.queue.struck .waitingCount none).stopped)
    (h : site.queue.fault? .waitingCount none = some fault ∨
      site.queue.fault? .waitingCount none = none ∧
        site.queue.counted < site.node.settings.maxWaiting ∧
        (site.queue.struck .waitingCount none).fault? .add (some job.id) = some fault) :
    ∃ q, (Node.submit (service scan lastly now k) job).run site
        = (.error fault, { site with queue := q }) ∧ q.registry = site.queue.registry := by
  unfold Node.submit
  rw [Act.run_bind_ok (Act.run_node site), hopen, if_neg Bool.false_ne_true, howner,
    if_neg Bool.false_ne_true]
  rcases h with h | ⟨hcount, hfree, h⟩
  · -- The count fails: nothing was written yet.
    rw [stopped_struck_of_fault h] at hthere
    have hcall : (service scan lastly now k).waitingCount site.queue = _ :=
      forcing_of_fault h fun f n => f.waiting.getD n
    rw [Act.run_bind, run_ask_of_fault hthere h hcall site.node]
    exact ⟨_, rfl, rfl⟩
  · -- The count answers below the limit, and adding the job fails.
    rw [Act.run_bind, run_ask, waitingCount_of_none hcount, meanwhile_of_notMem hthere]
    dsimp only
    rw [Act.run_bind_ok (Act.run_node _), if_neg (Nat.not_le.2 hfree)]
    have hcall : (service scan lastly now k).add job (site.queue.struck .waitingCount none) = _ :=
      through_of_fault h
    rw [Act.run_bind, run_ask_of_fault hthere h hcall site.node]
    exact ⟨_, rfl, rfl⟩

/-- A node that is stopped takes on no job. -/
theorem take_stop {n : Node} (hopen : n.isShutDown = false) (lastly : Job → WorkEnd) (job : Job) :
    (n.stop lastly).take job = .error .poolShutDown := by
  have hdown : (n.stop lastly).pool.isShutDown = true := by
    refine (Pool.isShutDown_endAll ..).trans ?_
    rw [Node.shutDown, if_neg (by rw [hopen]; exact Bool.false_ne_true)]
    exact Pool.isShutDown_shutDown n.pool
  rw [Node.take, Pool.submit, if_pos hdown]

/-- A node runs its jobs itself, and is stopped while a job is recorded. Then it refuses the job
after all, and does not hold it. The record stays, as that of a canceled job. -/
theorem run_submit_of_stopped (hopen : site.node.isShutDown = false)
    (howner : job.hasBlankOwner = false) (halone : site.node.settings.clustered = false)
    (hcount : site.queue.fault? .waitingCount none = none)
    (hfree : site.queue.counted < site.node.settings.maxWaiting) :
    let q := site.queue.struck .waitingCount none
    k ∉ q.stopped → q.fault? .add (some job.id) = none →
      k ∈ (q.struck .add (some job.id)).stopped → (site.queue.registry.add now job).1 = .ok () →
      (q.struck .add (some job.id)).fault? .cancelImmediate (some job.id) = none →
      let run := (Node.submit (service scan lastly now k) job).run site
      run.1 = .error (.refused .poolShutDown) ∧ run.2.node.held = site.node.held ∧
        ∃ r, run.2.queue.registry.records.find? job.id = some r ∧ r.status.job = job ∧
          r.stage = .canceled := by
  intro q hthere hadd hstopped hrecorded hcancel run
  have hrecord : (site.queue.registry.add now job).2.records.find? job.id
      = some (.new now job (site.queue.registry.requests + 1)) := by
    rw [Registry.find?_add, if_pos ⟨rfl, Registry.add_eq_ok_iff.1 hrecorded⟩]
  -- The queue is asked to record the job, and later to cancel it.
  let q₁ : Disturbed := { q.struck .add (some job.id) with
    registry := (site.queue.registry.add now job).2 }
  let q₂ : Disturbed := { q₁.struck .cancelImmediate (some job.id) with
    registry := (q₁.registry.cancel now job.id Node.cancelReason true).2 }
  let stopped := site.node.stop lastly
  have hcounted : (Act.ask (service scan lastly now k)
      (service scan lastly now k).waitingCount).run site
        = (.ok site.queue.counted, { node := site.node, queue := q }) := by
    rw [run_ask, waitingCount_of_none hcount, meanwhile_of_notMem hthere]
  have hadded : (Act.ask (service scan lastly now k) ((service scan lastly now k).add job)).run
      { node := site.node, queue := q } = (.ok (), { node := stopped, queue := q₁ }) := by
    have hcall : (service scan lastly now k).add job q = (.ok (), q₁) := by
      show through .add (some job.id) _ q = _
      rw [through_of_none hadd]
      show ((site.queue.registry.add now job).1.mapError _, _) = _
      rw [hrecorded]
      rfl
    have hstops : k ∈ q₁.stopped := hstopped
    rw [run_ask, hcall, meanwhile_of_mem hstops]
  -- The job is recorded, and the node that would run it is stopped.
  have hhold : (Node.hold job).run { node := stopped, queue := q₁ }
      = ((Except.error .poolShutDown : Except Error Unit).mapError .refused,
        { node := stopped, queue := q₁ }) := by
    rw [Node.run_hold, take_stop hopen]
    rfl
  have hcanceled : (Act.ask (service scan lastly now k)
      ((service scan lastly now k).cancel job.id Node.cancelReason true)).run
        { node := stopped, queue := q₁ }
      = ((q₁.registry.cancel now job.id Node.cancelReason true).1.mapError .refused,
        { node := (service scan lastly now k).meanwhile q₂ stopped, queue := q₂ }) := by
    have hcall : (service scan lastly now k).cancel job.id Node.cancelReason true q₁
        = ((q₁.registry.cancel now job.id Node.cancelReason true).1.mapError .refused, q₂) :=
      through_of_none hcancel
    rw [run_ask, hcall]
  have hrun : run = (.error (.refused .poolShutDown),
      { node := (service scan lastly now k).meanwhile q₂ stopped, queue := q₂ }) := by
    have halone' : ¬ stopped.settings.clustered = true := by
      rw [(Node.halted_stop lastly site.node).settings, halone]
      exact Bool.false_ne_true
    show (Node.submit _ job).run site = _
    unfold Node.submit
    rw [Act.run_bind_ok (Act.run_node site), hopen, if_neg Bool.false_ne_true, howner,
      if_neg Bool.false_ne_true, Act.run_bind_ok hcounted, Act.run_bind_ok (Act.run_node _),
      if_neg (Nat.not_le.2 hfree), Act.run_bind_ok hadded, Act.run_bind_ok (Act.run_node _),
      if_neg halone', Act.run_bind_ok (Act.run_attempt hhold)]
    exact Act.run_bind_ok (Act.run_attempt hcanceled)
  rw [hrun]
  refine ⟨rfl, ?_, (Record.new now job (site.queue.registry.requests + 1)).cancel now
    Node.cancelReason true, ?_, rfl, rfl⟩
  · have hstays : k ∈ q₂.stopped := List.mem_append_right _ hstopped
    show ((service scan lastly now k).meanwhile q₂ stopped).held = _
    rw [meanwhile_of_mem hstays, (Node.halted_stop lastly stopped).held,
      (Node.halted_stop lastly site.node).held]
  · show (q₁.registry.cancel now job.id Node.cancelReason true).2.records.find? job.id = _
    rw [Registry.find?_cancel, if_pos rfl, hrecord]
    rfl

/-- The only node is stopped while it records a job. -/
example :
    let queue : Disturbed :=
      { registry := { retention := none }
        disturbances := [{ method := .add, effect := .stopNode 0 }] }
    let started := Node.new { maxRunning := 1 } none .submission (some fun _ => .holds)
    let run := Cluster.run (world id id fun _ => .crash none)
      [.submit 0 { id := "a", submittedAt := 5 }] { now := 5, queue, nodes := [started.toOption] }
    run.1 = [.refused .poolShutDown] ∧
      (run.2.queue.registry.records.find? "a").map (·.stage) = some .canceled := by
  decide +kernel

end

/-! ### Reports of the held jobs -/

/-- The method that reports an outcome. Nothing is reported of a job that was interrupted. -/
def reportMethod? : Outcome → Option Method
  | .completed _ => some .done
  | .failed _ => some .fail
  | .cancelled => some .cancelImmediate
  | .interrupted => none

/-- How work goes on whose refusal does not matter. -/
def endingOf : Fault → Except Fault Unit
  | .refused _ => .ok ()
  | .crashed text => .error (.crashed text)

section
variable {n : Node} {q : Disturbed} {id : String} {outcome : Outcome} {method : Method}
  {fault : Fault}

/-- A report is one call, which the registry may refuse. -/
theorem exists_report_eq (h : reportMethod? outcome = some method) (id : String) :
    ∃ f : Registry → Except Error Unit × Registry,
      Node.report (service scan lastly now k) id outcome
        = Act.ask (service scan lastly now k) (through method (some id) (.ofExcept f)) := by
  cases outcome <;> cases h <;> exact ⟨_, rfl⟩

/-- When a report fails, its job has been let go, and its record stays as it is. The pass does not
mind a refusal. -/
theorem run_settleHeld_of_fault (hthere : k ∉ q.stopped) (houtcome : n.outcome? id = some outcome)
    (hmethod : reportMethod? outcome = some method)
    (h : q.fault? method (some id) = some fault) :
    (Node.settleHeld (service scan lastly now k) id).run { node := n, queue := q }
      = (endingOf fault, { node := n.drop id, queue := q.struck method (some id) }) := by
  obtain ⟨f, hreport⟩ := @exists_report_eq scan lastly now k outcome method hmethod id
  -- Only the report is asked of the queue; the job was let go before.
  have hask : (Node.report (service scan lastly now k) id outcome).run
      { node := n.drop id, queue := q }
        = (.error fault, { node := n.drop id, queue := q.struck method (some id) }) := by
    rw [hreport]
    exact run_ask_of_fault hthere h (through_of_fault h) (n.drop id)
  have houtcome' : (n.ticket? id).bind (·.outcome?) = some outcome := houtcome
  simp only [Node.settleHeld]
  rw [Act.run_bind_ok (Act.run_node _), Act.run_bind_ok (Act.run_change _ _), houtcome']
  cases fault with
  | refused e =>
    have hcaught : (Act.attempt (Node.report (service scan lastly now k) id outcome)).run
        { node := n.drop id, queue := q }
          = (.ok (.error e), { node := n.drop id, queue := q.struck method (some id) }) :=
      Act.run_attempt hask
    exact Act.run_bind_ok hcaught
  | crashed text =>
    dsimp only
    rw [Act.run_bind, Act.run_attempt_of_crash hask]
    rfl

/-- A crash ends the loop over the jobs that are reported. The jobs before it are settled, its own
is let go, and the others are not looked at. -/
theorem run_forEach_settleHeld_of_crash {before : List String} (after : List String)
    {site : Site Disturbed} {text : String}
    (hbefore : (Act.forEach (Node.settleHeld (service scan lastly now k)) before).run site
      = (.ok (), { node := n, queue := q }))
    (hthere : k ∉ q.stopped) (houtcome : n.outcome? id = some outcome)
    (hmethod : reportMethod? outcome = some method)
    (h : q.fault? method (some id) = some (.crashed text)) :
    (Act.forEach (Node.settleHeld (service scan lastly now k)) (before ++ id :: after)).run site
      = (.error (.crashed text),
        { node := n.drop id, queue := q.struck method (some id) }) := by
  rw [Act.run_forEach_append (id :: after) hbefore]
  simp only [Act.forEach]
  rw [Act.run_bind, run_settleHeld_of_fault hthere houtcome hmethod h]
  rfl

end

/-- All that is wrong with the connection is that reports are refused, as the calls of this node see
it. -/
structure RefusesReports (k : Nat) (q : Disturbed) : Prop where
  reports : ∀ d ∈ q.disturbances,
    d.method = .done ∨ d.method = .fail ∨ d.method = .cancelImmediate
  refuses : ∀ d ∈ q.disturbances,
    (∃ reason, d.effect = .backend reason) ∨ d.effect = .noSuchReference
  unforced : q.forced.sinceCheck = none
  undisturbed : k ∉ q.stopped

namespace RefusesReports

variable {q : Disturbed} {method : Method} {id : Option String}

/-- A call that fails is refused. -/
theorem eq_refused (h : q.RefusesReports k) {fault : Fault}
    (hfault : q.fault? method id = some fault) : ∃ e, fault = .refused e := by
  obtain ⟨effect, hstruck, heffect⟩ := Option.bind_eq_some_iff.1 hfault
  obtain ⟨d, hd, -, rfl⟩ := (Disturbance.strike_of method id q.disturbances).1 effect hstruck
  rcases h.refuses d hd with ⟨reason, hreason⟩ | hreference
  · rw [hreason] at heffect
    cases heffect
    exact ⟨_, rfl⟩
  · rw [hreference] at heffect
    cases heffect
    exact ⟨_, rfl⟩

/-- The check of a job does not fail. -/
theorem fault?_sinceCheck (h : q.RefusesReports k) : q.fault? .sinceCheck id = none := by
  rw [fault?]
  cases hstruck : (Disturbance.strike .sinceCheck id q.disturbances).1 with
  | none => rfl
  | some effect =>
    obtain ⟨d, hd, hmethod, -⟩ :=
      (Disturbance.strike_of .sinceCheck id q.disturbances).1 effect hstruck
    have hreports := h.reports d hd
    rw [hmethod] at hreports
    rcases hreports with hne | hne | hne <;> cases hne

/-- A refused report leaves it at that. -/
theorem struck (h : q.RefusesReports k) (method : Method) (id : Option String) :
    (q.struck method id).RefusesReports k := by
  obtain ⟨hstruck, hleft⟩ := Disturbance.strike_of method id q.disturbances
  refine ⟨?_, ?_, h.unforced, ?_⟩
  · intro d' hd'
    obtain ⟨d, hd, hmethod, -⟩ := hleft d' hd'
    rw [hmethod]
    exact h.reports d hd
  · intro d' hd'
    obtain ⟨d, hd, -, heffect⟩ := hleft d' hd'
    rw [heffect]
    exact h.refuses d hd
  · cases heffect : (Disturbance.strike method id q.disturbances).1 with
    | none =>
      simp only [Disturbed.struck, heffect]
      exact h.undisturbed
    | some effect =>
      obtain ⟨d, hd, -, rfl⟩ := hstruck effect heffect
      -- A refusal stops no node.
      have hstops : d.effect.stopped = [] := by
        rcases h.refuses d hd with ⟨reason, hreason⟩ | hreference
        · rw [hreason]
          rfl
        · rw [hreference]
          rfl
      simp only [Disturbed.struck, heffect, Option.elim_some, hstops]
      exact h.undisturbed

end RefusesReports

/-- The same node next to a connection that refuses its reports, and next to a registry. -/
def SameNode (k : Nat) (s : Site Disturbed) (s' : Site Registry) : Prop :=
  s.node = s'.node ∧ s.queue.RefusesReports k

/-- The registry is moreover the one behind the connection. -/
def SameSite (k : Nat) (s : Site Disturbed) (s' : Site Registry) : Prop :=
  SameNode k s s' ∧ s.queue.registry = s'.queue

/-- The answers about the last checks are those of the registry. -/
theorem matches_sinceCheck (id : String) :
    Act.Matches (SameSite k)
      (Act.ask (service scan lastly now k) ((service scan lastly now k).sinceCheck id))
      (Act.ask (Registry.service scan now) ((Registry.service scan now).sinceCheck id)) := by
  rintro ⟨n, q⟩ ⟨n', r⟩ ⟨⟨hnode, hq⟩, hregistry⟩
  cases hnode
  cases hregistry
  have hcall : (service scan lastly now k).sinceCheck id q
      = ((q.registry.sinceCheck now id).mapError .refused, q.struck .sinceCheck (some id)) := by
    show forcing (fun f m => f.sinceCheck.getD m) (through .sinceCheck (some id) _) q = _
    simp only [forcing]
    -- Only reports are disturbed, and no answer is forced.
    rw [through_of_none hq.fault?_sinceCheck]
    show (Except.map (fun m => q.forced.sinceCheck.getD m) _, _) = _
    rw [hq.unforced]
    show (Except.map (fun m => m) ((q.registry.sinceCheck now id).mapError _), _) = _
    cases q.registry.sinceCheck now id <;> rfl
  have hstays := hq.struck .sinceCheck (some id)
  rw [run_ask, hcall, meanwhile_of_notMem hstays.undisturbed]
  exact ⟨rfl, ⟨rfl, hstays⟩, rfl⟩

/-- A job is let go, whatever becomes of its report. -/
theorem matches_settleHeld (id : String) :
    Act.Matches (SameNode k) (Node.settleHeld (service scan lastly now k) id)
      (Node.settleHeld (Registry.service scan now) id) := by
  rintro ⟨n, q⟩ ⟨n', r⟩ ⟨hnode, hq⟩
  cases hnode
  rw [Node.run_settleHeld]
  -- With either queue the node lets the job go. What is left to show is where the queue
  -- stands, and that a failed report was caught.
  suffices ∃ q', (Node.settleHeld (service scan lastly now k) id).run { node := n, queue := q }
      = (.ok (), { node := n.drop id, queue := q' }) ∧ q'.RefusesReports k by
    obtain ⟨q', hrun, hq'⟩ := this
    rw [hrun]
    exact ⟨rfl, rfl, hq'⟩
  simp only [Node.settleHeld]
  rw [Act.run_bind_ok (Act.run_node _), Act.run_bind_ok (Act.run_change _ _)]
  dsimp only
  cases houtcome : (n.ticket? id).bind (·.outcome?) with
  | none => exact ⟨q, rfl, hq⟩
  | some outcome =>
    cases hmethod : reportMethod? outcome with
    | none =>
      cases outcome <;> cases hmethod
      exact ⟨q, rfl, hq⟩
    | some method =>
      obtain ⟨f, hreport⟩ := @exists_report_eq scan lastly now k outcome method hmethod id
      dsimp only
      rw [hreport]
      have hstays := hq.struck method (some id)
      cases hfault : q.fault? method (some id) with
      | none =>
        have hask := @run_ask_of_none scan lastly now k q method (some id) Unit
          hstays.undisturbed hfault (Call.ofExcept f) (n.drop id)
        exact ⟨_, Act.run_bind_ok (Act.run_attempt hask),
          ⟨hstays.reports, hstays.refuses, hstays.unforced, hstays.undisturbed⟩⟩
      | some fault =>
        -- A report that is hit is refused: this disturbance does not make the node crash.
        obtain ⟨e, rfl⟩ := hq.eq_refused hfault
        have hask :
            (Act.ask (service scan lastly now k) (through method (some id) (.ofExcept f))).run
                { node := n.drop id, queue := q }
              = ((Except.error e : Except Error Unit).mapError .refused,
                { node := n.drop id, queue := q.struck method (some id) }) :=
          run_ask_of_fault hq.undisturbed hfault (through_of_fault hfault) (n.drop id)
        exact ⟨_, Act.run_bind_ok (Act.run_attempt hask), hstays⟩

/-- Refused reports do not show on the node. Whatever is refused, the part of a pass that concerns
the held jobs ends in the same way, lets go of the same jobs, cancels the same tickets, and leaves
a purge to the workers in the same cases, as next to the registry behind the connection. -/
theorem node_reviewHeld_of_refusals {site : Site Disturbed} (h : site.queue.RefusesReports k)
    (heldScan : Registry.Scan) :
    let run := (Node.reviewHeld (service scan lastly now k) heldScan now).run site
    let plain := (Node.reviewHeld (Registry.service scan now) heldScan now).run
      { node := site.node, queue := site.queue.registry }
    run.1 = plain.1 ∧ run.2.node = plain.2.node := by
  have hweaker : ∀ s s', SameSite k s s' → SameNode k s s' := fun _ _ hs => hs.1
  have hnode : Act.Matches (SameSite k) Act.node Act.node :=
    Act.matches_node fun _ _ hs => hs.1.1
  have hexamine (id : String) : Act.Matches (SameSite k)
      (Node.examine (service scan lastly now k) now id)
      (Node.examine (Registry.service scan now) now id) :=
    Node.matches_examine (fun _ _ hs => hs.1.1) (matches_sinceCheck id)
      (fun _ _ hs => ⟨⟨congrArg (Node.cancelTicket id) hs.1.1, hs.1.2⟩, hs.2⟩) now
  -- The examinations read the registry. From there on only the node is the same.
  have hreview : Act.Agree (SameNode k)
      ((Node.reviewHeld (service scan lastly now k) heldScan now).run site)
      ((Node.reviewHeld (Registry.service scan now) heldScan now).run
        { node := site.node, queue := site.queue.registry }) := by
    refine Act.agree_bind (hnode _ _ ⟨⟨rfl, h⟩, rfl⟩) hweaker fun n s s' hs => ?_
    refine Act.agree_bind (Act.matches_mapEach hexamine _ s s' hs) hweaker
      fun findings s s' hs => ?_
    have hsettle := Act.matches_forEach (@matches_settleHeld scan lastly now k)
      ((findings.filter fun finding => finding.2 ≠ .active).map Prod.fst)
    refine Act.matches_ite (fun _ => ?_) (fun _ => hsettle) s s' (hweaker s s' hs)
    have hpurge := Act.matches_change (R := SameNode k) (f := Node.schedulePurge)
      fun _ _ hs => ⟨congrArg Node.schedulePurge hs.1, hs.2⟩
    exact Act.matches_bind hpurge fun _ => hsettle
  exact ⟨hreview.1, hreview.2.1⟩

/-! ### The jobs of all nodes -/

section
variable {fault : Fault}

/-- A node that cannot claim takes on nothing, and no record changes. -/
theorem run_claim_of_fault {n : Node} {q : Disturbed}
    (hfree : n.held.size < n.settings.maxRunning) (hthere : k ∉ q.stopped)
    (h : q.fault? .startNext none = some fault) :
    (Node.claim (service scan lastly now k)).run { node := n, queue := q }
      = (.error fault, { node := n, queue := q.struck .startNext none }) := by
  have hcall : (service scan lastly now k).startNext (n.settings.maxRunning - n.held.size) q
      = (.error fault, q.struck .startNext none) :=
    forcing_of_fault h fun f => List.map (forceStatus f)
  simp only [Node.claim]
  rw [Act.run_bind_ok (Act.run_node _), if_pos hfree, Act.run_bind,
    run_ask_of_fault hthere h hcall n]

/-- A pass of a clustered node that cannot cancel the overdue jobs of all nodes is over. What it did
to the held jobs before stays done. -/
theorem run_reconcile_of_fault {site reviewed : Site Disturbed} {heldScan : Registry.Scan}
    (hreview : (Node.reviewHeld (service scan lastly now k) heldScan now).run site
      = (.ok (), reviewed))
    (hopen : site.node.isShutDown = false) (hclustered : reviewed.node.settings.clustered = true)
    (hthere : k ∉ reviewed.queue.stopped)
    (h : reviewed.queue.fault? .cancelOverdue none = some fault) :
    (Node.reconcile (service scan lastly now k) heldScan now).run site
      = (.ok (), { reviewed with queue := reviewed.queue.struck .cancelOverdue none }) := by
  -- The answer of a pass does not tell the fault, so only the site is compared.
  refine Prod.ext rfl ?_
  rw [Node.site_reconcile heldScan hreview, hopen, if_neg Bool.false_ne_true, if_pos hclustered]
  have hcall : (service scan lastly now k).cancelOverdue reviewed.node.settings.timeoutMillis
      reviewed.node.settings.abandonedMillis Node.timeoutReason reviewed.queue
        = (.error fault, reviewed.queue.struck .cancelOverdue none) :=
    through_of_fault h
  simp only [Node.reviewShared]
  rw [Act.run_bind_ok (Act.run_node _), Act.run_bind,
    run_ask_of_fault hthere h hcall reviewed.node]

end

end Disturbed

end JobScheduling
