import JobScheduling.Proofs.Cluster.Admission
import JobScheduling.Proofs.Cluster.Reached
import JobScheduling.Proofs.Registry.Retention

/-!
# `JobScheduling.Proofs.Cluster.Submission`: submissions are all or nothing

A submission passes four stages: the checks of the node, the record in the shared queue, the pool
and the table of held jobs. `Node.refusal?` is the one reason for which it is refused. Whatever is
refused leaves the cluster as it was, but for records that have expired (`RefusesJob`). Whatever
is not refused is recorded (`Registry.Adds`), and a node that runs its jobs itself has taken the
job on (`Node.Takes`).

The pool could refuse a job that was recorded already. It does so only when it was stopped, and a
node is stopped together with its pool (`Node.Whole.stopped`). So a node that passes its own first
check takes every job on (`Whole.exists_take`).
-/

set_option autoImplicit false

namespace JobScheduling

namespace Registry

/-- What the addition of a job makes of a registry, once the expired records are gone. -/
structure Adds (now : Nat) (job : Job) (q q' : Registry) : Prop where
  record : q'.records.find? job.id = some
    { status := { job, stage := .waiting, request := q.requests + 1 }
      lastCheck := now
      history := [.waiting] }
  others : ∀ id, id ≠ job.id → q'.records.find? id = q.records.find? id
  keys : q'.records.keys = q.records.keys ++ [job.id]
  counters : q' = { q with records := q'.records, requests := q.requests + 1 }

variable {now : Nat} {job : Job} {q : Registry}

/-- An id that is still recorded after the purge is refused. -/
theorem add_of_some {r : Record} (hr : (q.purge now).records.find? job.id = some r) :
    q.add now job = (.error (.backend s!"duplicate reference id {job.id}"), q.purge now) := by
  simp only [add, Table.contains_of_find? hr, if_true]

/-- An addition succeeds if the purge leaves no record of the id. -/
theorem add_of_none (hr : (q.purge now).records.find? job.id = none) :
    (q.add now job).1 = .ok () ∧ Adds now job (q.purge now) (q.add now job).2 := by
  have hadd : q.add now job = (.ok (), { q.purge now with
      requests := q.requests + 1
      records := (q.purge now).records.insert job.id (.new now job (q.requests + 1)) }) := by
    simp [add, Table.contains_eq_false hr]
  -- The id is free after the purge, so the record is put in and replaces none.
  have hnew : job.id ∉ (q.purge now).records.keys := by
    rw [← Table.contains_iff, Table.contains_eq_false hr]
    exact Bool.false_ne_true
  rw [hadd]
  refine ⟨rfl, ?record, ?others, ?keys, ?counters⟩
  case record =>
    rw [requests_purge]
    exact (Table.find?_insert ..).trans (if_pos rfl)
  case others =>
    intro id hid
    exact (Table.find?_insert ..).trans (if_neg hid)
  case keys => exact (Table.keys_insert ..).trans (if_neg hnew)
  case counters => simp

end Registry

namespace Node

/-- Why a node refuses a job next to a queue, if it does. -/
def refusal? (now : Nat) (job : Job) (q : Registry) (n : Node) : Option Error :=
  if n.isShutDown then some .poolShutDown
  else if job.hasBlankOwner then some (.accessDenied job.id)
  else if n.settings.maxWaiting ≤ q.waitingCount then
    some (.capacityExceeded q.waitingCount n.settings.maxWaiting)
  else if (q.purge now).records.contains job.id then
    some (.backend s!"duplicate reference id {job.id}")
  else none

/-- What a node has become that has taken a job on, under a new ticket. -/
structure Takes (job : Job) (n n' : Node) : Prop where
  held : ∀ id, n'.held.find? id
    = if id = job.id then some n.pool.tickets.length else n.held.find? id
  tickets : n'.pool.tickets = n.pool.tickets ++ [{ job := job, progress := .queued }]
  backlog : n'.pool.backlog.items.Perm
    (.job { ticket := n.pool.tickets.length, job } :: n.pool.backlog.items)
  counters : n'.pool.counters = { n.pool.counters with
    submitted := n.pool.counters.submitted + 1, queued := n.pool.counters.queued + 1 }
  rest : n' = { n with
    held := n'.held
    pool := { n.pool with
      tickets := n'.pool.tickets, backlog := n'.pool.backlog, counters := n'.pool.counters } }

/-- A node that goes on takes every job on. -/
theorem Whole.exists_take {n : Node} (h : n.Whole) (hgoesOn : n.isShutDown = false) (job : Job) :
    ∃ n', n.take job = .ok n' ∧ Takes job n n' := by
  have hopen : n.pool.isShutDown = false := h.stopped ▸ hgoesOn
  obtain ⟨pool, hsubmit⟩ := Pool.exists_submit_eq_ok hopen job
  refine ⟨_, exists_take_eq_ok hsubmit, ?_⟩
  have hrunning : ¬ n.pool.isShutDown = true := by
    rw [hopen]
    exact Bool.false_ne_true
  rw [Pool.submit, if_neg hrunning] at hsubmit
  cases hsubmit
  refine ⟨?_, rfl, Backlog.items_pushJob_perm .., rfl, rfl⟩
  intro id
  exact Table.find?_insert ..

variable (scan : Registry.Scan) (now : Nat) {job : Job} {site : Site Registry}

/-- A job that is refused leaves the node as it was, and the queue but for a purge. -/
theorem run_submit_of_refusal {e : Error}
    (h : refusal? now job site.queue site.node = some e) :
    ∃ q, (submit (Registry.service scan now) job).run site
        = (.error (.refused e), { site with queue := q }) ∧
      (q = site.queue ∨ (∃ reason, e = .backend reason) ∧ Registry.Purges now site.queue q) := by
  -- The refusals come in the order of the checks. Only the last one purges.
  rw [run_submit_eq]
  unfold refusal? at h
  split at h
  next hdown =>
    cases h
    exact ⟨site.queue, if_pos hdown, .inl rfl⟩
  next hdown =>
  rw [if_neg hdown]
  split at h
  next hblank =>
    cases h
    exact ⟨site.queue, if_pos hblank, .inl rfl⟩
  next hblank =>
  rw [if_neg hblank]
  split at h
  next hfull =>
    cases h
    exact ⟨site.queue, if_pos hfull, .inl rfl⟩
  next hfull =>
  rw [if_neg hfull]
  split at h
  next htaken =>
    cases h
    obtain ⟨r, hr⟩ := Option.isSome_iff_exists.1 htaken
    refine ⟨site.queue.purge now, ?_, .inr ⟨⟨_, rfl⟩, Registry.purges_purge now site.queue⟩⟩
    simp only [recorded, Registry.add_of_some hr]
  next => cases h

/-- A job that is not refused is recorded. A clustered node leaves it to others, and any other has
taken it on. -/
theorem run_submit_of_none (hwhole : site.node.Whole)
    (h : refusal? now job site.queue site.node = none) :
    ∃ n q, (submit (Registry.service scan now) job).run site = (.ok (), { node := n, queue := q }) ∧
      Registry.Adds now job (site.queue.purge now) q ∧
      if site.node.settings.clustered then n = site.node else Takes job site.node n := by
  -- Past all checks the id is free, and an open pool takes the job.
  rw [run_submit_eq]
  unfold refusal? at h
  split at h
  · cases h
  next hdown =>
  split at h
  · cases h
  next hblank =>
  split at h
  · cases h
  next hfull =>
  split at h
  · cases h
  next htaken =>
  have hfree : (site.queue.purge now).records.find? job.id = none :=
    Option.not_isSome_iff_eq_none.1 htaken
  obtain ⟨hok, hadds⟩ := Registry.add_of_none hfree
  rw [if_neg hdown, if_neg hblank, if_neg hfull]
  simp only [recorded, hok]
  cases hclustered : site.node.settings.clustered with
  | true => exact ⟨site.node, _, rfl, hadds, rfl⟩
  | false =>
    obtain ⟨n, htake, htakes⟩ := hwhole.exists_take (by simpa using hdown) job
    simp only [htake]
    exact ⟨n, _, rfl, hadds, htakes⟩

end Node

namespace Cluster

variable {scan heldScan : Registry.Scan} {lastly : Job → WorkEnd}

/-- What a submission that is refused leaves of a cluster. -/
structure RefusesJob (e : Error) (c c' : Cluster Registry) : Prop where
  queue : c'.queue = c.queue ∨
    (∃ reason, e = .backend reason) ∧ Registry.Purges c.now c.queue c'.queue
  rest : c' = { c with queue := c'.queue }

/-- What a submission that is not refused leaves of a cluster, before the workers of the node act
(`site`) and after. -/
structure AcceptsJob (scan : Registry.Scan) (k : Nat) (n : Node) (job : Job)
    (c c' : Cluster Registry) (site : Site Registry) : Prop where
  purged : Registry.Purges c.now c.queue (c.queue.purge c.now)
  recorded : Registry.Adds c.now job (c.queue.purge c.now) site.queue
  clustered : n.settings.clustered = true → site.node = n ∧ c' = { c with queue := site.queue }
  taken : n.settings.clustered = false → Node.Takes job n site.node
  replaces : Replaces k (settle (Registry.service scan c.now) site) c c'

/-- What a submission does, in every cluster between two steps. -/
theorem Composed.submit (heldScan : Registry.Scan) (lastly : Job → WorkEnd) {c : Cluster Registry}
    (h : c.Composed) {k : Nat} {n : Node} (hn : c.node? k = some n) (job : Job) :
    let result := c.step (shared scan heldScan lastly) (.submit k job)
    let site := ((Node.submit (Registry.service scan c.now) job).run (c.site n)).2
    let refusal := n.refusal? c.now job c.queue
    result.1 = refusal.elim .unit .refused ∧ (∀ e, refusal = some e → RefusesJob e c result.2) ∧
      (refusal = none → AcceptsJob scan k n job c result.2 site) := by
  intro result site refusal
  have hrest : n.pool.AtRest := h.resting k n hn
  -- Refused, when only the queue can have been purged, or accepted, by the queue alone or by the
  -- node as well.
  cases hrefusal : Node.refusal? c.now job (c.site n).queue (c.site n).node with
  | some e =>
    obtain ⟨q, hrun, hq⟩ := Node.run_submit_of_refusal scan c.now hrefusal
    have hresult : result = (.refused e, { c with queue := q }) :=
      request_of_node_same hn hrest (fun _ => .unit) hrun
    rw [hresult, show refusal = some e from hrefusal]
    refine ⟨rfl, ?_, nofun⟩
    rintro _ ⟨⟩
    exact ⟨hq, rfl⟩
  | none =>
    obtain ⟨n', q, hrun, hadds, hnode⟩ :=
      Node.run_submit_of_none scan c.now (h.sized.nodes k n hn).toWhole hrefusal
    have hanswer : result.1 = .unit := by
      refine (request_fst hn (fun _ => .unit)
        (Node.submit (Registry.service scan c.now) job)).trans ?_
      rw [hrun]
      rfl
    have hreplaces : Replaces k (settle (Registry.service scan c.now) site) c result.2 :=
      request_replaces hn (fun _ => .unit) _
    have hsite : site = { node := n', queue := q } := congrArg Prod.snd hrun
    rw [show refusal = none from hrefusal]
    refine ⟨hanswer, nofun, fun _ => ⟨Registry.purges_purge c.now c.queue, ?_, ?_, ?_, hreplaces⟩⟩
    · rw [hsite]
      exact hadds
    · intro hclustered
      rw [show (c.site n).node.settings.clustered = true from hclustered] at hnode
      obtain rfl : n' = n := hnode
      refine ⟨by rw [hsite], ?_⟩
      rw [hsite]
      exact congrArg Prod.snd (request_of_node_same hn hrest (fun _ => .unit) hrun)
    · intro halone
      rw [show (c.site n).node.settings.clustered = false from halone] at hnode
      rw [hsite]
      exact hnode

/-- What a submission does. Take nodes that have just started, clustered or not, next to an empty
queue, and whatever has happened to them and to the queue since, at any times. A node that is still
there refuses a job exactly for the first reason that there is, and nothing changes by that, but
for records that have expired. Otherwise the job is recorded, and a node that runs its jobs itself
has queued it under one new ticket. -/
theorem later_submit (hscan : ∀ ids, (scan ids).Perm ids) (heldScan : Registry.Scan)
    (lastly : Job → WorkEnd) {now : Nat} {retention : Option Nat} {nodes : List (Option Node)}
    (hnodes : ∀ n, some n ∈ nodes → ∃ settings priority work,
      Node.new settings retention priority work = .ok n) (past : List Happening) :
    let c := later scan heldScan lastly past { now, queue := { retention }, nodes }
    ∀ k n, c.node? k = some n → ∀ job,
      let result := c.step (shared scan heldScan lastly) (.submit k job)
      let site := ((Node.submit (Registry.service scan c.now) job).run (c.site n)).2
      let refusal := n.refusal? c.now job c.queue
      result.1 = refusal.elim .unit .refused ∧
        (∀ e, refusal = some e → RefusesJob e c result.2) ∧
        (refusal = none → AcceptsJob scan k n job c result.2 site) := by
  intro c k n hn job
  have h : c.Composed := composed_reached heldScan lastly hscan past hnodes
  exact h.submit heldScan lastly hn job

/-- The second node runs a job of this id. Its record has ended since, and nobody has asked for it
for more than half an hour. -/
def longEnded : List Happening :=
  [.step (.submit 1 { id := "a", submittedAt := 5 }), .request (.done "a" ⟨"u", "f", "m"⟩),
    .step (.setClock 2000000)]

/-- The id is free again, and the node takes on another job of it. -/
theorem later_submit_longEnded :
    let c := later id id .standard longEnded
      { now := 5, queue := { retention := some defaultRetention }, nodes := mixedPair }
    let job : Job := { id := "a", submittedAt := 2000000 }
    ∃ n, c.node? 1 = some n ∧
      let result := c.step (shared id id .standard) (.submit 1 job)
      let site := ((Node.submit (Registry.service id c.now) job).run (c.site n)).2
      let refusal := n.refusal? c.now job c.queue
      result.1 = .unit ∧ result.1 = refusal.elim .unit .refused ∧
        (∀ e, refusal = some e → RefusesJob e c result.2) ∧
        (refusal = none → AcceptsJob id 1 n job c result.2 site) := by
  intro c job
  have hthere : (c.node? 1).isSome = true := by decide +kernel
  obtain ⟨n, hn⟩ := Option.isSome_iff_exists.1 hthere
  have hanswer : (c.step (shared id id .standard) (.submit 1 job)).1 = .unit := by decide +kernel
  exact ⟨n, hn, hanswer, later_submit (fun _ => .rfl) id .standard started_mixedPair longEnded 1 n
    hn job⟩

end Cluster

end JobScheduling
