import JobScheduling.Pool.Script
import JobScheduling.Proofs.Cluster.Steps
import JobScheduling.Proofs.Pool.Rest

/-!
# `JobScheduling.Proofs.Cluster.Denied`: requests that are denied

A request to cancel a job or to tell its status is denied when the caller does not show the
credential of the owner. Between two steps the workers of all nodes rest (`Resting`), so all that
a denied request can leave is what the request itself has done.

* A request to cancel that is refused leaves the cluster as it was (`step_cancel_of_refused`).
* A request for the status that is denied has stamped the time of the check before
  (`step_status_of_denied`). It leaves everything else as it was, and the cluster as a whole
  exactly when the record was checked at this very time (`stamp_eq_iff`).

`run_denied_iff` takes requests that are denied into a run, at any points. They do not interfere
with it exactly if each of them that asks for a status meets a record of the second kind. In
`keptAlive` the check that is stamped keeps a job from being canceled as abandoned.
-/

set_option autoImplicit false

namespace JobScheduling

namespace Registry

variable {now : Nat} {q : Registry} {id : String} {r : Record}

/-- A status check changes nothing but the time of the last check. -/
theorem get_snd (hr : q.records.find? id = some r) :
    (q.get now id true).2 = { q with records := q.records.modify id (·.checked now) } := by
  simp only [get]
  rw [hr]
  rfl

/-- A status check leaves the registry as it was when the record was checked at this time. -/
theorem stamp_eq_iff (hr : q.records.find? id = some r) :
    (q.get now id true).2 = q ↔ r.lastCheck = now := by
  constructor
  · intro hsame
    have hfind := find?_get now id true q id
    rw [hsame, if_pos ⟨rfl, rfl⟩, hr] at hfind
    exact congrArg Record.lastCheck (Option.some.inj hfind)
  · rintro rfl
    rw [get_snd hr, Table.modify_eq_self hr rfl]

end Registry

namespace Cluster

variable {scan heldScan : Registry.Scan} {lastly : Job → WorkEnd}

/-! ### Clusters at rest -/

/-- The workers of all nodes rest. -/
def Resting (c : Cluster Registry) : Prop := ∀ k n, c.node? k = some n → n.pool.AtRest

/-- Nodes that have just started rest. -/
theorem resting_of_new {now : Nat} {retention : Option Nat} {nodes : List (Option Node)}
    (hnodes : ∀ n, some n ∈ nodes → ∃ settings priority work,
      Node.new settings retention priority work = .ok n) :
    Resting { now, queue := { retention }, nodes } := by
  intro k n hn
  obtain ⟨settings, priority, work, hnew⟩ := hnodes n (mem_of_node? hn)
  obtain ⟨-, work, pool, hpool, rfl⟩ := Node.exists_of_new hnew
  exact Pool.atRest_of_new hpool

/-- After each step the workers rest again. -/
theorem Resting.step {c : Cluster Registry} (h : c.Resting) (scan heldScan : Registry.Scan)
    (lastly : Job → WorkEnd) (s : Step) :
    (c.step (shared scan heldScan lastly) s).2.Resting :=
  (step_sites (Q := fun _ => True) scan heldScan lastly
    (fun _ _ _ _ _ => ⟨Pool.atRest_settle _ _ _, trivial⟩) h trivial).1

/-- A request that changes the queue only, to a node whose workers rest. -/
theorem request_of_node_same {α : Type} {k : Nat} {n : Node} {c : Cluster Registry}
    (hn : c.node? k = some n) (hrest : n.pool.AtRest) (answer : α → Answer)
    {work : Act Registry α} {result : Except Fault α} {q : Registry}
    (hwork : work.run (c.site n) = (result, { node := n, queue := q })) :
    c.request (shared scan heldScan lastly) k answer work
      = (.of answer result, { c with queue := q }) := by
  -- The pool is at rest, so its workers find nothing to do and no execution begins.
  rw [request_eq hn, hwork]
  have hsettle : settle (Registry.service scan c.now) { node := n, queue := q }
      = { node := n, queue := q } := by
    simp only [settle]
    rw [Pool.settle_of_atRest _ hrest]
  have hbegins : begins scan c.now k { node := n, queue := q } = [] := by
    simp only [begins, newStarts]
    rw [hsettle, List.drop_length]
    rfl
  have hnodes : c.nodes.set k (some n) = c.nodes := by
    obtain ⟨hk, hget⟩ := List.getElem?_eq_some_iff.1 (getElem?_of_node? hn)
    rw [← hget, List.set_getElem_self]
  simp only [hsettle, hbegins, hnodes, List.append_nil]

/-! ### Requests that are denied -/

/-- A request to stop a job that is refused leaves the cluster as it was. -/
theorem step_cancel_of_refused {c : Cluster Registry} (h : c.Resting) {k : Nat} {id : String}
    {credential : Option String} {e : Error}
    (hrefused : (c.step (shared scan heldScan lastly) (.cancel k id credential)).1 = .refused e) :
    (c.step (shared scan heldScan lastly) (.cancel k id credential)).2 = c := by
  have hstep : c.step (shared scan heldScan lastly) (.cancel k id credential)
      = c.request (shared scan heldScan lastly) k (fun _ => .unit)
        (Node.cancel (Registry.service scan c.now) id credential) := rfl
  rw [hstep] at hrefused ⊢
  cases hn : c.node? k with
  | none => rw [request_of_none hn]
  | some n =>
    rcases Node.run_cancel scan c.now id credential (c.site n) with ⟨e', hrun⟩ | hrun
    · rw [request_of_node_same hn (h k n hn) _ hrun]
    · -- What is not refused is answered.
      rw [request_eq hn, hrun] at hrefused
      cases hrefused

/-- A request for the status of a job that is denied has stamped the time of the check, and leaves
everything else as it was. -/
theorem step_status_of_denied {c : Cluster Registry} (h : c.Resting) {k : Nat} {id id' : String}
    {credential : Option String}
    (hdenied : (c.step (shared scan heldScan lastly) (.status k id credential)).1
      = .refused (.accessDenied id')) :
    (∃ r, c.queue.records.find? id = some r) ∧
      (c.step (shared scan heldScan lastly) (.status k id credential)).2
        = { c with queue := (c.queue.get c.now id true).2 } := by
  have hstep : c.step (shared scan heldScan lastly) (.status k id credential)
      = c.request (shared scan heldScan lastly) k .status
        (Node.status (Registry.service scan c.now) id credential) := rfl
  rw [hstep] at hdenied ⊢
  cases hn : c.node? k with
  | none =>
    rw [request_of_none hn] at hdenied
    cases hdenied
  | some n =>
    have hsite := Node.site_status scan c.now id credential (c.site n)
    rcases hrun : (Node.status (Registry.service scan c.now) id credential).run (c.site n) with
      ⟨result, site⟩
    rw [hrun] at hsite
    obtain rfl : site = { c.site n with queue := (c.queue.get c.now id true).2 } := hsite
    rw [request_of_node_same hn (h k n hn) _ hrun] at hdenied ⊢
    refine ⟨?_, rfl⟩
    cases hr : c.queue.records.find? id with
    | some r => exact ⟨r, rfl⟩
    | none =>
      -- Without a record there is no owner.
      have hnone : (c.site n).queue.records.find? id = none := hr
      rw [Node.run_status_of_none scan c.now hnone] at hrun
      have hresult : .error (.refused (.noSuchReference id)) = result := congrArg Prod.fst hrun
      rw [← hresult] at hdenied
      cases hdenied

/-! ### Requests put into a run -/

/-- A step of a run, or one that is put in between. -/
inductive Padded
  | own (s : Step)
  | extra (s : Step)

namespace Padded

def step : Padded → Step
  | own s | extra s => s

def own? : Padded → Option Step
  | own s => some s
  | extra _ => none

/-- What a run answered to its own steps, of all that it answered. -/
def ownAnswers (steps : List Padded) (answers : List Answer) : List Answer :=
  (steps.zip answers).filterMap fun answered => answered.1.own?.map fun _ => answered.2

/-- Each step that was put in satisfies this, in the cluster in which it is taken. -/
def EachExtra (world : World Registry) (P : Cluster Registry → Step → Prop) :
    List Padded → Cluster Registry → Prop
  | [], _ => True
  | .own s :: rest, c => EachExtra world P rest (c.step world s).2
  | .extra s :: rest, c => P c s ∧ EachExtra world P rest (c.step world s).2

end Padded

/-- A request to cancel a job or to tell its status that is answered with a denial. -/
def Denied (world : World Registry) (c : Cluster Registry) (s : Step) : Prop :=
  ((∃ k id credential, s = .cancel k id credential) ∨
      ∃ k id credential, s = .status k id credential) ∧
    ∃ id, (c.step world s).1 = .refused (.accessDenied id)

/-- The cluster after a denied request: a request for the status has stamped the check. -/
def stamped (c : Cluster Registry) : Step → Cluster Registry
  | .status _ id _ => { c with queue := (c.queue.get c.now id true).2 }
  | _ => c

/-- A request for the status of a job whose record was checked at this very time. -/
def ChecksAgain (c : Cluster Registry) (s : Step) : Prop :=
  ∀ k id credential, s = .status k id credential →
    ∃ r, c.queue.records.find? id = some r ∧ r.lastCheck = c.now

/-- What a denied request leaves, and when that is the cluster as it was. -/
theorem step_of_denied {c : Cluster Registry} (h : c.Resting) {s : Step}
    (hdenied : Denied (shared scan heldScan lastly) c s) :
    (c.step (shared scan heldScan lastly) s).2 = c.stamped s ∧
      ((c.step (shared scan heldScan lastly) s).2 = c ↔ c.ChecksAgain s) := by
  obtain ⟨⟨k, id, credential, rfl⟩ | ⟨k, id, credential, rfl⟩, id', hdenied⟩ := hdenied
  · have hsame := step_cancel_of_refused h hdenied
    exact ⟨hsame, fun _ => nofun, fun _ => hsame⟩
  · obtain ⟨⟨r, hr⟩, hstamped⟩ := step_status_of_denied h hdenied
    refine ⟨hstamped, ?_⟩
    -- A check leaves everything in place exactly when it is dated like the one before.
    rw [hstamped]
    constructor
    · intro hsame _ _ _ hs
      cases hs
      exact ⟨r, hr, (Registry.stamp_eq_iff hr).1 (congrArg Cluster.queue hsame)⟩
    · intro hagain
      obtain ⟨r', hr', hlast⟩ := hagain k id credential rfl
      rw [(Registry.stamp_eq_iff hr').2 hlast]

/-- What holds of one denied request after the other holds of each that was put in. -/
theorem eachExtra_of_denied {P Q : Cluster Registry → Step → Prop}
    (hPQ : ∀ {c s}, c.Resting → Denied (shared scan heldScan lastly) c s → P c s → Q c s)
    {steps : List Padded} {c : Cluster Registry} (h : c.Resting)
    (hdenied : Padded.EachExtra (shared scan heldScan lastly)
      (Denied (shared scan heldScan lastly)) steps c)
    (hP : Padded.EachExtra (shared scan heldScan lastly) P steps c) :
    Padded.EachExtra (shared scan heldScan lastly) Q steps c := by
  induction steps generalizing c with
  | nil => trivial
  | cons part rest ih =>
    cases part with
    | own s => exact ih (h.step scan heldScan lastly s) hdenied hP
    | extra s =>
      exact ⟨hPQ h hdenied.1 hP.1, ih (h.step scan heldScan lastly s) hdenied.2 hP.2⟩

/-- Steps that leave the cluster as it was may be left out. -/
theorem ownAnswers_of_same {world : World Registry} {steps : List Padded} {c : Cluster Registry}
    (h : Padded.EachExtra world (fun c s => (c.step world s).2 = c) steps c) :
    Padded.ownAnswers steps (run world (steps.map Padded.step) c).1
      = (run world (steps.filterMap Padded.own?) c).1 := by
  induction steps generalizing c with
  | nil => rfl
  | cons part rest ih =>
    -- An answer of the run itself stays, and one of an extra step is left out.
    cases part with
    | own s => exact congrArg _ (ih h)
    | extra s =>
      obtain ⟨hsame, hrest⟩ := h
      have hanswers := ih hrest
      rw [hsame] at hanswers
      show Padded.ownAnswers rest (run world (rest.map Padded.step) (c.step world s).2).1 = _
      rw [hsame]
      exact hanswers

/-- When denied requests do not interfere. Take nodes that have just started, clustered or not,
with any settings, priorities and work, next to an empty queue, and any run of them. Into it any
number of requests to cancel jobs or to tell their status are put, at any points, and all of them
are denied.

Each leaves the cluster as it was, but for the time of the check that a request for the status has
stamped. So all of them leave the cluster as it was, and the answers to the steps of the run are
those of the run without them, exactly if each request for a status meets a record that was
checked at this very time. -/
theorem run_denied_iff (scan heldScan : Registry.Scan) (lastly : Job → WorkEnd) {now : Nat}
    {retention : Option Nat} {nodes : List (Option Node)}
    (hnodes : ∀ n, some n ∈ nodes → ∃ settings priority work,
      Node.new settings retention priority work = .ok n) {steps : List Padded} :
    let world := shared scan heldScan lastly
    let start : Cluster Registry := { now, queue := { retention }, nodes }
    Padded.EachExtra world (Denied world) steps start →
      Padded.EachExtra world (fun c s => (c.step world s).2 = c.stamped s) steps start ∧
        (Padded.EachExtra world (fun c s => (c.step world s).2 = c) steps start ∧
            Padded.ownAnswers steps (run world (steps.map Padded.step) start).1
              = (run world (steps.filterMap Padded.own?) start).1 ↔
          Padded.EachExtra world ChecksAgain steps start) := by
  intro world start hdenied
  -- A denied request stamps the record at most, and it leaves everything as it was just when the
  -- stamp is the one it finds.
  have hrest : start.Resting := resting_of_new hnodes
  have hstamped : Padded.EachExtra world (fun c s => (c.step world s).2 = c.stamped s) steps
      start :=
    eachExtra_of_denied (fun hc hs _ => (step_of_denied hc hs).1) hrest hdenied hdenied
  refine ⟨hstamped, ?_, fun hagain => ?_⟩
  · rintro ⟨hsame, -⟩
    exact eachExtra_of_denied (fun hc hs => (step_of_denied hc hs).2.1) hrest hdenied hsame
  · have hsame : Padded.EachExtra world (fun c s => (c.step world s).2 = c) steps start :=
      eachExtra_of_denied (fun hc hs => (step_of_denied hc hs).2.2) hrest hdenied hagain
    exact ⟨hsame, ownAnswers_of_same hsame⟩

/-- A node with one worker that has just started. Its work goes on until it is ended from
outside. -/
def freshNode : List (Option Node) :=
  let started :=
    Node.new { maxRunning := 1 } (some defaultRetention) .submission (some fun _ => .holds)
  [started.toOption]

/-- The node can be made. -/
theorem started_freshNode (n : Node) (hn : some n ∈ freshNode) :
    ∃ settings priority work, Node.new settings (some defaultRetention) priority work = .ok n := by
  refine ⟨{ maxRunning := 1 }, .submission, some fun _ => .holds, ?_⟩
  unfold freshNode at hn
  generalize Node.new _ _ _ _ = started at hn ⊢
  cases started with
  | error e => simp [Except.toOption] at hn
  | ok n' => simpa [Except.toOption, eq_comm] using hn

/-- A stranger asks for the status of a job when it was just submitted, and to cancel it later. -/
def unnoticed : List Padded :=
  [.own (.submit 0 { id := "a", owner := some "alice", submittedAt := 0 }),
    .extra (.status 0 "a" (some "eve")), .own (.setClock 100000),
    .extra (.cancel 0 "a" none), .own (.reconcile 0)]

/-- Both requests are denied. The first one repeats the check that the submission counts as, and the
second one is none. -/
theorem run_denied_iff_unnoticed :
    let world := shared id id .standard
    let start : Cluster Registry :=
      { now := 0, queue := { retention := some defaultRetention }, nodes := freshNode }
    Padded.EachExtra world (Denied world) unnoticed start ∧
      Padded.EachExtra world (fun c s => (c.step world s).2 = c.stamped s) unnoticed start ∧
        (Padded.EachExtra world (fun c s => (c.step world s).2 = c) unnoticed start ∧
            Padded.ownAnswers unnoticed (run world (unnoticed.map Padded.step) start).1
              = (run world (unnoticed.filterMap Padded.own?) start).1 ↔
          Padded.EachExtra world ChecksAgain unnoticed start) := by
  intro world start
  have hdenied : Padded.EachExtra world (Denied world) unnoticed start :=
    ⟨⟨.inr ⟨0, "a", some "eve", rfl⟩, "a", by decide +kernel⟩,
      ⟨.inl ⟨0, "a", none, rfl⟩, "a", by decide +kernel⟩, trivial⟩
  exact ⟨hdenied, @run_denied_iff id id .standard 0 (some defaultRetention) freshNode
    started_freshNode unnoticed hdenied⟩

/-- A stranger asks for the status of a job whose owner does not ask. -/
def keptAlive : List Padded :=
  [.own (.submit 0 { id := "a", owner := some "alice", submittedAt := 0 }),
    .own (.setClock 100000), .extra (.status 0 "a" (some "eve")), .own (.setClock 200000),
    .own (.reconcile 0), .own (.status 0 "a" (some "alice"))]

/-- The request is denied, but it keeps the job from being canceled as abandoned, and its owner
is told so. -/
theorem keptAlive_interferes :
    let world := shared id id .standard
    let start : Cluster Registry :=
      { now := 0, queue := { retention := some defaultRetention }, nodes := freshNode }
    let padded := run world (keptAlive.map Padded.step) start
    let plain := run world (keptAlive.filterMap Padded.own?) start
    Padded.EachExtra world (Denied world) keptAlive start ∧
      Padded.ownAnswers keptAlive padded.1 ≠ plain.1 ∧
      (padded.2.queue.records.find? "a").map (·.stage) = some .running ∧
      (plain.2.queue.records.find? "a").map (·.stage) = some .canceled := by
  intro world start padded plain
  exact ⟨⟨⟨.inr ⟨0, "a", some "eve", rfl⟩, "a", by decide +kernel⟩, trivial⟩,
    by decide +kernel, by decide +kernel, by decide +kernel⟩

end Cluster

end JobScheduling
