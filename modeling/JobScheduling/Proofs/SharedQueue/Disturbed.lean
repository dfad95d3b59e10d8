import JobScheduling.Proofs.Cluster.Matches
import JobScheduling.Proofs.Cluster.Steps
import JobScheduling.Proofs.Registry.Transcript
import JobScheduling.SharedQueue.Disturbed

/-!
# `JobScheduling.Proofs.SharedQueue.Disturbed`: runs behind a connection that misbehaves

A call through a connection that misbehaves does one of two things. It fails, and then nothing is
done behind the connection (`through_of_fault`), or it is the call on the registry
(`through_of_none`). In both cases the disturbance that acted is spent by one (`struck`). From this
two facts follow for whole runs of a cluster:

* `run_of_quiet`: when no disturbance is left and no answer is forced, the connection does not show.
  The run has the same answers, nodes and records as one next to the registry.
* `exists_requests_of_run`: whatever the disturbances are, the registry at the end of a run is the
  one that some requests made of the registry at its beginning. So what is shown of all requests to
  the registry is not broken by calls that fail.

Both are simulations (`SharedQueue.Matches`). For the first the other side is the registry, for the
second it is the same connection, and the relation between the two sides is a property of its state.
-/

set_option autoImplicit false

namespace JobScheduling

/-- How a call about this job fails that an effect strikes, if it does. -/
def Effect.fault? (id : Option String) : Effect → Option Fault
  | .backend reason => some (.refused (.backend reason))
  | .noSuchReference => some (.refused (.noSuchReference (id.getD "")))
  | .crash text => some (.crashed text)
  | .stopNode _ => none

/-- The nodes that an effect stops. -/
def Effect.stopped : Effect → List Nat
  | .stopNode node => [node]
  | _ => []

/-- Disturbances that have acted for the last time do not strike any more. -/
theorem Disturbance.strike_of_spent {disturbances : List Disturbance}
    (h : ∀ d ∈ disturbances, d.times = some 0) (method : Method) (id : Option String) :
    strike method id disturbances = (none, disturbances) := by
  induction disturbances with
  | nil => rfl
  | cons d rest ih =>
    have hd : ¬ d.acts method id = true := by
      simp [acts, h d List.mem_cons_self]
    rw [strike, if_neg hd, ih fun d hd => h d (List.mem_cons_of_mem _ hd)]

/-- What strikes a call is the effect of a disturbance of its method, and what is left of the
disturbances are the same ones, for fewer times. -/
theorem Disturbance.strike_of (method : Method) (id : Option String)
    (disturbances : List Disturbance) :
    (∀ e, (strike method id disturbances).1 = some e →
        ∃ d ∈ disturbances, d.method = method ∧ d.effect = e) ∧
      ∀ d' ∈ (strike method id disturbances).2,
        ∃ d ∈ disturbances, d'.method = d.method ∧ d'.effect = d.effect := by
  induction disturbances with
  | nil => exact ⟨nofun, nofun⟩
  | cons d rest ih =>
    obtain ⟨hstruck, hleft⟩ := ih
    rw [strike]
    split
    next hacts =>
      -- It strikes, and keeps its method and its effect when it is spent.
      refine ⟨?_, ?_⟩
      · rintro e ⟨⟩
        simp only [acts, Bool.and_eq_true, beq_iff_eq] at hacts
        exact ⟨d, List.mem_cons_self, hacts.1.1, rfl⟩
      · intro d' hd'
        rcases List.mem_cons.1 hd' with rfl | hd'
        · exact ⟨d, List.mem_cons_self, rfl, rfl⟩
        · exact ⟨d', List.mem_cons_of_mem _ hd', rfl, rfl⟩
    next =>
      -- It lets the call pass, so that a later one may strike.
      refine ⟨?_, ?_⟩
      · intro e he
        obtain ⟨d', hd', h⟩ := hstruck e he
        exact ⟨d', List.mem_cons_of_mem _ hd', h⟩
      · intro d' hd'
        rcases List.mem_cons.1 hd' with rfl | hd'
        · exact ⟨d', List.mem_cons_self, rfl, rfl⟩
        · obtain ⟨d'', hd'', h⟩ := hleft d' hd'
          exact ⟨d'', List.mem_cons_of_mem _ hd'', h⟩

namespace Disturbed

/-! ### One call -/

/-- How a call fails at the connection, if it does. -/
def fault? (method : Method) (id : Option String) (q : Disturbed) : Option Fault :=
  (Disturbance.strike method id q.disturbances).1.bind (Effect.fault? id)

/-- The connection after a call, apart from what the call does to the registry. -/
def struck (method : Method) (id : Option String) (q : Disturbed) : Disturbed :=
  let strike := Disturbance.strike method id q.disturbances
  { q with disturbances := strike.2, stopped := strike.1.elim [] Effect.stopped ++ q.stopped }

section
variable {method : Method} {id : Option String} {q : Disturbed} {α : Type} {call : Call Registry α}

/-- A call that fails does not reach the registry. -/
theorem through_of_fault {fault : Fault} (h : q.fault? method id = some fault) :
    through method id call q = (.error fault, q.struck method id) := by
  simp only [fault?] at h
  simp only [through, struck]
  rcases hstrike : Disturbance.strike method id q.disturbances with ⟨_ | effect, rest⟩
  · rw [hstrike] at h
    cases h
  · rw [hstrike] at h
    cases effect <;> cases h <;> rfl

/-- A call that does not fail is the one on the registry. -/
theorem through_of_none (h : q.fault? method id = none) :
    through method id call q
      = ((call q.registry).1, { q.struck method id with registry := (call q.registry).2 }) := by
  simp only [fault?] at h
  simp only [through, struck]
  rcases hstrike : Disturbance.strike method id q.disturbances with ⟨_ | effect, rest⟩
  · rfl
  · rw [hstrike] at h
    cases effect <;> cases h
    rfl

/-- A failing call stops no node. -/
theorem stopped_struck_of_fault {fault : Fault} (h : q.fault? method id = some fault) :
    (q.struck method id).stopped = q.stopped := by
  simp only [fault?] at h
  simp only [struck]
  rcases hstrike : Disturbance.strike method id q.disturbances with ⟨_ | effect, rest⟩
  · rfl
  · rw [hstrike] at h
    cases effect <;> cases h <;> rfl

end

/-! ### Without disturbances -/

/-- No disturbance is left that could act, no answer is forced, and no node was stopped. -/
structure Quiet (q : Disturbed) : Prop where
  spent : ∀ d ∈ q.disturbances, d.times = some 0
  unforced : q.forced = {}
  undisturbed : q.stopped = []

/-- A quiet connection to this registry. -/
def Mirrors (q : Disturbed) (r : Registry) : Prop := q.registry = r ∧ q.Quiet

section
variable {scan : Registry.Scan} {lastly : Job → WorkEnd} {now node : Nat}

/-- A quiet connection passes a call on and stays quiet. -/
theorem matches_through (method : Method) (id : Option String) {α : Type} (call : Call Registry α) :
    Call.Matches Mirrors (through method id call) call := by
  rintro q _ ⟨rfl, h⟩
  have hstrike := Disturbance.strike_of_spent h.spent method id
  have hfault : q.fault? method id = none := by
    rw [fault?, hstrike]
    rfl
  have hstruck : q.struck method id = q := by
    rw [struck, hstrike]
    rfl
  rw [through_of_none hfault, hstruck]
  exact ⟨rfl, rfl, h.spent, h.unforced, h.undisturbed⟩

/-- A quiet connection forces no answer. -/
theorem matches_forcing {α : Type} {force : Forced → α → α} (hforce : ∀ a, force {} a = a)
    (method : Method) (id : Option String) (call : Call Registry α) :
    Call.Matches Mirrors (forcing force (through method id call)) call := by
  intro q r hq
  obtain ⟨hanswer, hlater⟩ := matches_through method id call q r hq
  refine ⟨?_, hlater⟩
  simp only [forcing]
  rw [hlater.2.unforced, hanswer]
  cases (call r).1 with
  | error e => rfl
  | ok a => exact congrArg Except.ok (hforce a)

/-- Without a forced number a status is told as it is. -/
theorem map_forceStatus_unforced (statuses : List Status) :
    statuses.map (forceStatus {}) = statuses := List.map_id statuses

/-- All calls of a quiet connection are those of the registry. -/
theorem matches_service :
    (service scan lastly now node).Matches Mirrors (Registry.service scan now) where
  add job := matches_through _ _ _
  get id external := matches_forcing (fun _ => rfl) _ _ _
  start id := matches_through _ _ _
  startNext n := matches_forcing map_forceStatus_unforced _ _ _
  finish id ending := matches_through _ _ _
  cancel id reason immediate := matches_through _ _ _
  cancelOverdue timeout abandoned reason := matches_through _ _ _
  toCancel := matches_forcing map_forceStatus_unforced _ _ _
  waitingCount := matches_forcing (fun _ => rfl) _ _ _
  completedCount := matches_forcing (fun _ => rfl) _ _ _
  averageDuration := matches_forcing (fun _ => rfl) _ _ _
  sinceCheck id := matches_forcing (fun _ => rfl) _ _ _
  meanwhile := by
    -- No node is stopped from outside, since nothing disturbs.
    rintro q _ ⟨rfl, h⟩
    funext n
    show (if q.stopped.contains node then n.stop lastly else n) = n
    rw [h.undisturbed]
    rfl

end

/-- The world of nodes that share the queue in memory through a connection that misbehaves. -/
def world (scan heldScan : Registry.Scan) (lastly : Job → WorkEnd) : World Disturbed where
  service now node := service scan lastly now node
  lastly
  scan := heldScan

variable (scan heldScan : Registry.Scan) (lastly : Job → WorkEnd) (steps : List Cluster.Step)

/-- Next to a quiet connection a run is the one next to the registry behind it: every step is
answered the same, and the nodes, the records and the log of executions are the same at the end. -/
theorem run_of_quiet {c : Cluster Disturbed} (h : c.queue.Quiet) :
    let behind : Cluster Registry :=
      { now := c.now, queue := c.queue.registry, nodes := c.nodes, starts := c.starts }
    let run := Cluster.run (world scan heldScan lastly) steps c
    let plain := Cluster.run (Cluster.shared scan heldScan lastly) steps behind
    run.1 = plain.1 ∧ run.2.queue.registry = plain.2.queue ∧ run.2.nodes = plain.2.nodes ∧
      run.2.starts = plain.2.starts ∧ run.2.queue.Quiet := by
  intro behind run plain
  -- A connection that lets every call pass is the plain queue, as the cluster sees it.
  have hworld : (world scan heldScan lastly).Matches Mirrors
      (Cluster.shared scan heldScan lastly) :=
    ⟨fun _ _ => matches_service, rfl, rfl⟩
  have halike : c.Alike Mirrors behind := ⟨rfl, ⟨rfl, h⟩, rfl, rfl⟩
  obtain ⟨hanswers, hlast⟩ := halike.run hworld steps
  exact ⟨hanswers, hlast.queue.1, hlast.nodes, hlast.starts, hlast.queue.2⟩

/-! ### With any disturbances -/

/-- Two states of the connection that are one, with this property of the registry behind it. -/
def Keeps (P : Registry → Prop) (q q' : Disturbed) : Prop := q = q' ∧ P q.registry

section
variable {scan lastly} {P : Registry → Prop} {now node : Nat}

/-- A call that keeps a property keeps it through the connection, whether it fails or not. -/
theorem keeps_through {α : Type} {call : Call Registry α} (h : ∀ r, P r → P (call r).2)
    (method : Method) (id : Option String) :
    Call.Matches (Keeps P) (through method id call) (through method id call) := by
  rintro q _ ⟨rfl, hq⟩
  refine ⟨rfl, rfl, ?_⟩
  cases hfault : q.fault? method id with
  | some fault =>
    rw [through_of_fault hfault]
    exact hq
  | none =>
    rw [through_of_none hfault]
    exact h q.registry hq

/-- An answer can be forced without harm to the registry. -/
theorem keeps_forcing {α : Type} {call : Call Registry α} (h : ∀ r, P r → P (call r).2)
    (force : Forced → α → α) (method : Method) (id : Option String) :
    Call.Matches (Keeps P) (forcing force (through method id call))
      (forcing force (through method id call)) := by
  rintro q _ ⟨rfl, hq⟩
  exact ⟨rfl, rfl, (keeps_through h method id q q ⟨rfl, hq⟩).2.2⟩

/-- What all requests to the registry keep, all calls through the connection keep. -/
theorem keeps_service (h : ∀ now request r, P r → P (r.serve scan now request).2) :
    (service scan lastly now node).Matches (Keeps P) (service scan lastly now node) where
  add job := keeps_through (h now (.add job)) _ _
  get id external := keeps_forcing (h now (.get id external)) _ _ _
  start id := keeps_through (h now (.start id)) _ _
  startNext n := keeps_forcing (h now (.startNext n)) _ _ _
  finish id ending := by
    -- How the work ended decides which request it is.
    cases ending with
    | done report => exact keeps_through (h now (.done id report)) _ _
    | error cause => exact keeps_through (h now (.fail id cause)) _ _
  cancel id reason immediate := keeps_through (h now (.cancel id reason immediate)) _ _
  cancelOverdue timeout abandoned reason :=
    keeps_through (h now (.cancelOverdue timeout abandoned reason)) _ _
  toCancel := keeps_forcing (h now .toCancel) _ _ _
  waitingCount := keeps_forcing (fun _ hr => hr) _ _ _
  completedCount := keeps_forcing (fun _ hr => hr) _ _ _
  averageDuration := keeps_forcing (fun _ hr => hr) _ _ _
  sinceCheck id := keeps_forcing (fun _ hr => hr) _ _ _
  meanwhile := by
    rintro q _ ⟨rfl, -⟩
    rfl

end

/-- What all requests to the registry keep, a run keeps, whichever calls of the nodes and of their
workers fail, whichever answers are forced and whichever nodes are stopped by disturbances. -/
theorem registry_run {P : Registry → Prop}
    (hserve : ∀ now request r, P r → P (r.serve scan now request).2) {c : Cluster Disturbed}
    (h : P c.queue.registry) :
    P (Cluster.run (world scan heldScan lastly) steps c).2.queue.registry := by
  have hworld : (world scan heldScan lastly).Matches (Keeps P) (world scan heldScan lastly) :=
    ⟨fun _ _ => keeps_service hserve, rfl, rfl⟩
  have halike : c.Alike (Keeps P) c := ⟨rfl, ⟨rfl, h⟩, rfl, rfl⟩
  exact (halike.run hworld steps).2.queue.2

/-- Behind the connection nothing happens but requests. The registry at the end of a run is the one
that some of them made of the registry at its beginning. So each theorem about all runs of requests
is one about the records next to any disturbances. -/
theorem exists_requests_of_run (c : Cluster Disturbed) :
    ∃ requests, (Cluster.run (world scan heldScan lastly) steps c).2.queue.registry
      = c.queue.registry.run scan requests := by
  refine registry_run scan heldScan lastly steps
    (P := fun r => ∃ requests, r = c.queue.registry.run scan requests) ?_ ⟨[], rfl⟩
  rintro now request _ ⟨requests, rfl⟩
  exact ⟨requests ++ [(now, request)],
    (Registry.run_append scan c.queue.registry requests [(now, request)]).symm⟩

end Disturbed

end JobScheduling
