import JobScheduling.Proofs.Cluster.Steps
import JobScheduling.Proofs.Node.Pass

/-!
# `JobScheduling.Proofs.Cluster.Members`: clustered nodes on one queue

Clustered nodes, stopped or not, next to a queue that is changed only through them.

* `Node.Member` and `Cluster.OfMembers`: what such a node, and a cluster of them, always has.
* `Cluster.Does`: all that a routine step can do to the site of the node that it concerns,
  before the workers act. A routine step neither stops nor loses a node.
* `Cluster.Deed`: the same for every step that does not lose the node. A stop closes tickets
  and leaves all else.
* `Shift`: a deed, after which the workers of the node do no more than `Node.Worked` allows.
* `shift_cases`: a step is the shift of a node, or it loses one, changes the clock, or nothing.
* `Shift.held_cases`, `Shift.ticket_cases`: what is held after a shift and was not before has
  been claimed in it, and so has the job of a new ticket.

Proofs about such clusters are a case for each constructor of `Does`, and one for the stop.
-/

set_option autoImplicit false

namespace JobScheduling

/-- A clustered node, whether it goes on or was stopped. -/
structure Node.Member (n : Node) : Prop extends n.Whole where
  clustered : n.settings.clustered = true

/-- A node that started clustered, with these settings and next to a queue with this
retention. -/
def Node.StartedClustered (settings : Settings) (retention : Option Nat) (n : Node) : Prop :=
  settings.clustered = true ∧
    ∃ priority work, Node.new settings retention priority (some work) = .ok n

/-- A node that has just started clustered holds no job, and goes on. -/
theorem Node.StartedClustered.member {settings : Settings} {retention : Option Nat} {n : Node}
    (h : n.StartedClustered settings retention) :
    n.Member ∧ n.isShutDown = false ∧ n.settings = settings ∧ n.held = {} ∧
      n.pool.tickets = [] := by
  obtain ⟨hclustered, priority, work, hnew⟩ := h
  obtain ⟨-, hsettings, hheld, hgoesOn, htickets, -⟩ := Node.new_eq_ok hnew
  exact ⟨⟨Node.whole_of_new hnew, hsettings ▸ hclustered⟩, hgoesOn, hsettings, hheld, htickets⟩

/-- What the workers of a node leave of it. -/
structure Node.Worked (n n' : Node) : Prop where
  settings : n'.settings = n.settings
  held : n'.held = n.held
  isShutDown : n'.isShutDown = n.isShutDown
  poolIsShutDown : n'.pool.isShutDown = n.pool.isShutDown
  sound : n'.pool.Sound
  follows : n.pool.Follows n'.pool

/-- The workers leave a clustered node one. -/
theorem Node.Worked.member {n n' : Node} (h : n.Worked n') (hn : n.Member) : n'.Member where
  toWhole := hn.of_follows h.held
    (h.isShutDown.trans (hn.stopped.trans h.poolIsShutDown.symm)) h.sound h.follows
  clustered := h.settings ▸ hn.clustered

/-- A clustered node that is stopped stays one. -/
theorem Node.Halted.member {n n' : Node} (h : n.Halted n') (hn : n.Member) : n'.Member :=
  ⟨h.whole hn.toWhole, h.settings ▸ hn.clustered⟩

namespace Cluster

variable {scan heldScan : Registry.Scan} {lastly : Job → WorkEnd}

/-- Whether a step neither stops nor loses a node. -/
def Step.isRoutine : Step → Bool
  | .shutDown _ | .halt _ | .drop _ => false
  | _ => true

/-- Every node is clustered, and the records lie in their places. -/
structure OfMembers (c : Cluster Registry) : Prop where
  nodes : ∀ k n, c.node? k = some n → n.Member
  keyed : c.queue.Keyed

/-- All that a routine step can do to the site of a clustered node, the `k`-th one, before the
workers act. -/
inductive Does (heldScan : Registry.Scan) (now k : Nat) (site : Site Registry) :
    Step → Site Registry → Prop
  | nothing (s : Step) : Does heldScan now k site s site
  | records (job : Job) :
    Does heldScan now k site (.submit k job) { site with queue := (site.queue.add now job).2 }
  | checks (id : String) (credential : Option String) :
    Does heldScan now k site (.status k id credential)
      { site with queue := (site.queue.get now id true).2 }
  /-- A job that the node does not hold is asked to stop. -/
  | asks (id : String) (credential : Option String)
      (hfree : site.node.held.find? id = none) :
    Does heldScan now k site (.cancel k id credential)
      { site with queue := (site.queue.cancel now id Node.cancelReason false).2 }
  /-- A job that the node holds is stopped. -/
  | stops (id : String) (credential : Option String) (m : Nat)
      (hheld : site.node.held.find? id = some m) :
    Does heldScan now k site (.cancel k id credential)
      { node := { site.node with
          pool := (site.node.pool.cancel m).2, held := site.node.held.erase id }
        queue := ((site.queue.cancel now id Node.cancelReason false).2.cancel now id
          Node.cancelReason true).2 }
  /-- Work is ended from outside. -/
  | ends (only : Option Nat) (id : String) (how : WorkEnd) (named : Option Nat) (m : Nat)
      (hm : m ∈ site.node.pool.busy) :
    Does heldScan now k site (.release only id how named)
      { site with node := ended m how site.node }
  | passes {reviewed site' : Site Registry}
      (hreview : Node.Reviewed now (heldScan site.node.held.keys) site reviewed)
      (hshare : Node.Shared now reviewed site') :
    Does heldScan now k site (.reconcile k) site'

/-- A pass on a clustered node that goes on. -/
theorem site_pass (hscan : ∀ ids, (scan ids).Perm ids) (heldScan : Registry.Scan) (now : Nat)
    (site : Site Registry) (h : site.node.Member) (hgoesOn : site.node.isShutDown = false)
    (hkeyed : site.queue.Keyed) :
    ∃ reviewed, Node.Reviewed now (heldScan site.node.held.keys) site reviewed ∧
      Node.Shared now reviewed
        ((Node.reconcile (Registry.service scan now) heldScan now).run site).2 := by
  -- The review of what is held, and then the part for all nodes, since the node is clustered and
  -- goes on.
  obtain ⟨reviewed, hrun, hr⟩ := Node.run_reviewHeld scan now heldScan site h.named
  have hkeyed' : reviewed.queue.Keyed := hkeyed.of_moves fun id r' => hr.moves
  obtain ⟨site', hshared, hs⟩ := Node.run_reviewShared hscan now hkeyed'
    (hr.poolIsShutDown.trans (h.stopped.symm.trans hgoesOn))
  refine ⟨reviewed, hr, ?_⟩
  rw [Node.site_reconcile heldScan hrun, hgoesOn, if_neg Bool.false_ne_true, hr.settings,
    h.clustered, if_pos rfl, hshared]
  exact hs

/-- A deed of a routine step at a clustered node. -/
theorem does_of_deed (hscan : ∀ ids, (scan ids).Perm ids) {c : Cluster Registry} {s : Step}
    {k : Nat} {f : Site Registry → Site Registry} {n : Node}
    (hdeed : c.deed? scan heldScan lastly s = some (k, f)) (hn : c.node? k = some n)
    (hs : s.isRoutine = true) (h : n.Member) (hkeyed : c.queue.Keyed) :
    Does heldScan c.now k (c.site n) s (f (c.site n)) := by
  cases s with
  | submit _ job =>
    cases hdeed
    dsimp only
    rcases Node.site_submit scan c.now job (c.site n) with
      hsite | ⟨-, hsite⟩ | ⟨halone, -⟩
    · rw [hsite]
      exact .nothing _
    · rw [hsite]
      exact .records job
    · -- The job would have been taken on at its submission.
      have hclustered := h.clustered
      rw [show n.settings.clustered = false from halone] at hclustered
      cases hclustered
  | cancel _ id credential =>
    cases hdeed
    dsimp only
    rcases Node.site_cancel scan c.now id credential (c.site n) with hsite | hsite
    · rw [hsite]
      exact .nothing _
    · rw [hsite]
      split
      next hheld =>
        obtain ⟨m, hm⟩ := Option.isSome_iff_exists.1 hheld
        rw [Node.letGo_eq hm]
        exact .stops id credential m hm
      next hfree => exact .asks id credential (Option.not_isSome_iff_eq_none.1 hfree)
  | status _ id credential =>
    cases hdeed
    dsimp only
    rw [Node.site_status]
    exact .checks id credential
  | reconcile _ =>
    cases hdeed
    cases hgoesOn : n.isShutDown with
    | false =>
      obtain ⟨reviewed, hreview, hshare⟩ :=
        site_pass hscan heldScan c.now (c.site n) h hgoesOn hkeyed
      exact .passes hreview hshare
    | true =>
      -- A node that was stopped does nothing.
      obtain ⟨reviewed, hrun, -⟩ := Node.run_reviewHeld scan c.now heldScan (c.site n) h.named
      dsimp only
      rw [Node.site_reconcile heldScan hrun, show (c.site n).node.isShutDown = true from hgoesOn,
        if_pos rfl]
      exact .nothing _
  | release _ id how named =>
    obtain ⟨start, hstart, heq⟩ := Option.map_eq_some_iff.1 hdeed
    cases heq
    exact .ends _ id how named start.ticket (mem_busy_of_runningFor? hstart hn)
  | shutDown | halt | drop => cases hs
  | setClock => cases hdeed

/-- What a routine step leaves of a clustered node. -/
theorem Does.member {now k : Nat} {site site' : Site Registry} {s : Step}
    (h : Does heldScan now k site s site') (hn : site.node.Member)
    (hkeyed : site.queue.Keyed) :
    site'.node.Member ∧ site'.node.isShutDown = site.node.isShutDown := by
  -- A case for each thing that can be done to a site.
  cases h with
  | nothing | records | checks | asks => exact ⟨hn, rfl⟩
  | stops id _ m => exact ⟨⟨(hn.cancel m).drop id, hn.clustered⟩, rfl⟩
  | ends _ _ how _ m hm => exact ⟨⟨hn.endWork hm how, hn.clustered⟩, rfl⟩
  | passes hreview hshare =>
    have hframe := hreview.toFrame.trans hshare.toFrame
    refine ⟨⟨⟨?_, hframe.sound hn.sound,
      hshare.named (hreview.named hn.named) (hkeyed.of_moves fun _ _ => hreview.moves)⟩,
      hframe.settings ▸ hn.clustered⟩, hframe.isShutDown⟩
    rw [hframe.isShutDown, hframe.poolIsShutDown, hn.stopped]

/-- A routine step keeps the records in their places. -/
theorem Does.keyed {now k : Nat} {site site' : Site Registry} {s : Step}
    (h : Does heldScan now k site s site') (hkeyed : site.queue.Keyed) :
    site'.queue.Keyed := by
  -- Each is a request to the registry, or a chain of moves.
  cases h with
  | nothing | ends => exact hkeyed
  | records job => exact Registry.keyed_serve id now (.add job) hkeyed
  | checks id => exact Registry.keyed_serve (fun ids => ids) now (.get id true) hkeyed
  | asks id =>
    exact Registry.keyed_serve (fun ids => ids) now (.cancel id Node.cancelReason false) hkeyed
  | stops id =>
    have hasked :=
      Registry.keyed_serve (fun ids => ids) now (.cancel id Node.cancelReason false) hkeyed
    exact Registry.keyed_serve (fun ids => ids) now (.cancel id Node.cancelReason true) hasked
  | passes hreview hshare =>
    have hreviewed := hkeyed.of_moves fun _ _ => hreview.moves
    have hpurged := Registry.keyed_serve id now .purge hreviewed
    exact Registry.Keyed.of_moves hpurged fun _ _ => hshare.moves

section
variable {now k : Nat} {site site' : Site Registry} {s : Step}

/-- A record after a routine step: that of a job that was just submitted, or one that was
there before and has moved. -/
theorem Does.record_cases (h : Does heldScan now k site s site') {id : String} {r' : Record}
    (hr' : site'.queue.records.find? id = some r') :
    (∃ job, s = .submit k job ∧ job.id = id ∧ r' = .new now job (site.queue.requests + 1) ∧
      site'.queue.requests = site.queue.requests + 1) ∨
    ∃ r, site.queue.records.find? id = some r ∧ r.Moves now r' := by
  -- Most operations map the record of one id and leave the others alone.
  have hmap {f : Record → Record} (hf : ∀ r : Record, r.Moves now (f r)) {p : Prop} [Decidable p]
      {r? : Option Record} {r' : Record} (hr' : (if p then r?.map f else r?) = some r') :
      ∃ r, r? = some r ∧ r.Moves now r' := by
    split at hr'
    · obtain ⟨r, hr, rfl⟩ := Option.map_eq_some_iff.1 hr'
      exact ⟨r, hr, hf r⟩
    · exact ⟨r', hr', .refl⟩
  cases h with
  | nothing | ends => exact .inr ⟨r', hr', .refl⟩
  | records job =>
    rw [show _ = _ from Registry.find?_add ..] at hr'
    split at hr'
    next hnew =>
      cases hr'
      obtain ⟨rfl, hfree⟩ := hnew
      exact .inl ⟨job, rfl, rfl, rfl, (Registry.requests_add ..).trans (if_pos hfree)⟩
    next => exact .inr ⟨r', Registry.find?_of_find?_purge hr', .refl⟩
  | checks id =>
    rw [show _ = _ from Registry.find?_get ..] at hr'
    exact .inr (hmap (fun _ => .single .check) hr')
  | asks id =>
    rw [show _ = _ from Registry.find?_cancel ..] at hr'
    exact .inr (hmap (Record.cancel_moves now _ _) hr')
  | stops id =>
    rw [show _ = _ from Registry.find?_cancel ..] at hr'
    obtain ⟨r₁, hr₁, m₁⟩ := hmap (Record.cancel_moves now _ _) hr'
    rw [Registry.find?_cancel] at hr₁
    obtain ⟨r, hr, m⟩ := hmap (Record.cancel_moves now _ _) hr₁
    exact .inr ⟨r, hr, m.trans m₁⟩
  | passes hreview hshare =>
    obtain ⟨r₁, hr₁, m₁⟩ := hshare.moves hr'
    obtain ⟨r, hr, m⟩ := hreview.moves (Registry.find?_of_find?_purge hr₁)
    exact .inr ⟨r, hr, m.trans m₁⟩

/-- A held id after a routine step: it was held before, or its job was claimed just now. -/
theorem Does.held_cases (h : Does heldScan now k site s site') {id : String} {m : Nat}
    (hm : site'.node.held.find? id = some m) :
    site.node.held.find? id = some m ∨
    s = .reconcile k ∧ site.node.pool.tickets[m]? = none ∧
      ∃ r, site.queue.records.find? id = some r ∧ r.stage = .waiting ∧
        site'.queue.records.find? id = some (Registry.started now r) ∧
        site'.node.pool.tickets[m]? = some { job := r.status.job } := by
  cases h with
  | nothing | records | checks | asks | ends => exact .inl hm
  | stops =>
    rw [show _ = _ from Table.find?_erase ..] at hm
    split at hm
    · cases hm
    · exact .inl hm
  | @passes reviewed _ hreview hshare =>
    cases hshare.each id with
    | kept _ hheld =>
      rw [hheld, hreview.held] at hm
      split at hm
      · cases hm
      · exact .inl hm
    | stopped _ _ _ _ hheld =>
      rw [hheld] at hm
      cases hm
    | claimed r₁ m' hr₁ hstage hrecord hheld hnew hticket =>
      rw [hheld] at hm
      cases hm
      have hr := Registry.find?_of_find?_purge hr₁
      rw [hreview.records, Option.map_eq_some_iff] at hr
      obtain ⟨r, hr, rfl⟩ := hr
      -- It waits after the review of the held jobs, which has done nothing to it.
      have hsame := Record.settled_of_waiting hstage
      rw [hsame] at hstage hrecord hticket
      exact .inr ⟨rfl, (hreview.closes.eq_none_iff m).2 hnew, r, hr, hstage, hrecord, hticket⟩

/-- The tickets of the node stay, or close. -/
theorem Does.old (h : Does heldScan now k site s site') {m : Nat} {t : Ticket}
    (ht : site.node.pool.tickets[m]? = some t) :
    ∃ t', site'.node.pool.tickets[m]? = some t' ∧ t.Closes t' := by
  cases h with
  | nothing | records | checks | asks => exact ⟨t, ht, .refl t⟩
  | stops _ _ m' => exact (Pool.closes_cancel m' _).ticket ht
  | ends _ _ how _ m' => exact (Pool.closes_endWork m' how _).ticket ht
  | passes hreview hshare =>
    obtain ⟨t₁, ht₁, h₁⟩ := hreview.closes.ticket ht
    obtain ⟨t', ht', h'⟩ := hshare.old m t₁ ht₁
    exact ⟨t', ht', h₁.trans h'⟩

/-- A new ticket is that of a held job. -/
theorem Does.new (h : Does heldScan now k site s site') {m : Nat}
    (hm : site.node.pool.tickets[m]? = none) (hm' : site'.node.pool.tickets[m]? ≠ none) :
    ∃ id, site'.node.held.find? id = some m := by
  cases h with
  | nothing | records | checks | asks => exact absurd hm hm'
  | stops _ _ m' => exact absurd (((Pool.closes_cancel m' _).eq_none_iff m).1 hm) hm'
  | ends _ _ how _ m' => exact absurd (((Pool.closes_endWork m' how _).eq_none_iff m).1 hm) hm'
  | passes hreview hshare => exact hshare.new m ((hreview.closes.eq_none_iff m).1 hm) hm'

/-- No step changes the settings of a node. -/
theorem Does.settings (h : Does heldScan now k site s site') :
    site'.node.settings = site.node.settings := by
  cases h with
  | passes hreview hshare => exact hshare.settings.trans hreview.settings
  | _ => rfl

/-- No step changes how long the queue keeps its records. -/
theorem Does.retention (h : Does heldScan now k site s site') :
    site'.queue.retention = site.queue.retention := by
  cases h with
  | nothing | ends => rfl
  | records => exact Registry.retention_add ..
  | checks => exact Registry.retention_get ..
  | asks => exact Registry.retention_update ..
  | stops => exact (Registry.retention_update ..).trans (Registry.retention_update ..)
  | passes hreview hshare => exact hshare.retention.trans hreview.retention

end

/-! ### Deeds -/

/-- All that a step can do to the site of a clustered node, the `k`-th one, before the workers
act, unless it loses the node. -/
inductive Deed (heldScan : Registry.Scan) (now k : Nat) (site : Site Registry) (s : Step) :
    Site Registry → Prop
  | does {site' : Site Registry} (h : Does heldScan now k site s site') :
    Deed heldScan now k site s site'
  | halts {n : Node} (h : site.node.Halted n) : Deed heldScan now k site s { site with node := n }

/-- The deed of a step at a clustered node. -/
theorem deed_of_deed? (hscan : ∀ ids, (scan ids).Perm ids) {c : Cluster Registry} {s : Step}
    {k : Nat} {f : Site Registry → Site Registry} {n : Node}
    (hdeed : c.deed? scan heldScan lastly s = some (k, f)) (hn : c.node? k = some n)
    (h : n.Member) (hkeyed : c.queue.Keyed) :
    Deed heldScan c.now k (c.site n) s (f (c.site n)) := by
  -- A routine step, or one of the two that stop the node.
  cases hs : s.isRoutine with
  | true => exact .does (does_of_deed hscan hdeed hn hs h hkeyed)
  | false =>
    cases s with
    | shutDown => cases hdeed; exact .halts (n.halted_stop lastly)
    | halt => cases hdeed; exact .halts n.halted_shutDown
    | drop => cases hdeed
    | _ => cases hs

section
variable {now k : Nat} {site site' : Site Registry} {s : Step}

/-- A deed leaves a clustered node one. -/
theorem Deed.member (h : Deed heldScan now k site s site') (hn : site.node.Member)
    (hkeyed : site.queue.Keyed) : site'.node.Member := by
  cases h with
  | does h => exact (h.member hn hkeyed).1
  | halts h => exact h.member hn

/-- A deed leaves the records in their places. -/
theorem Deed.keyed (h : Deed heldScan now k site s site') (hkeyed : site.queue.Keyed) :
    site'.queue.Keyed := by
  cases h with
  | does h => exact h.keyed hkeyed
  | halts => exact hkeyed

/-- A record after a deed: that of a job that was just submitted, or one that was there before
and has moved. -/
theorem Deed.record_cases (h : Deed heldScan now k site s site') {id : String} {r' : Record}
    (hr' : site'.queue.records.find? id = some r') :
    (∃ job, s = .submit k job ∧ job.id = id ∧ r' = .new now job (site.queue.requests + 1) ∧
      site'.queue.requests = site.queue.requests + 1) ∨
    ∃ r, site.queue.records.find? id = some r ∧ r.Moves now r' := by
  cases h with
  | does h => exact h.record_cases hr'
  | halts => exact .inr ⟨r', hr', .refl⟩

/-- A held id after a deed: it was held before, or its job was claimed just now. -/
theorem Deed.held_cases (h : Deed heldScan now k site s site') {id : String} {m : Nat}
    (hm : site'.node.held.find? id = some m) :
    site.node.held.find? id = some m ∨
    s = .reconcile k ∧ site.node.pool.tickets[m]? = none ∧
      ∃ r, site.queue.records.find? id = some r ∧ r.stage = .waiting ∧
        site'.queue.records.find? id = some (Registry.started now r) ∧
        site'.node.pool.tickets[m]? = some { job := r.status.job } := by
  cases h with
  | does h => exact h.held_cases hm
  | halts h =>
    left
    rw [← h.held]
    exact hm

/-- The tickets of the node stay, or close. -/
theorem Deed.old (h : Deed heldScan now k site s site') {m : Nat} {t : Ticket}
    (ht : site.node.pool.tickets[m]? = some t) :
    ∃ t', site'.node.pool.tickets[m]? = some t' ∧ t.Closes t' := by
  cases h with
  | does h => exact h.old ht
  | halts h => exact h.closes.ticket ht

/-- A new ticket is that of a held job. -/
theorem Deed.new (h : Deed heldScan now k site s site') {m : Nat}
    (hm : site.node.pool.tickets[m]? = none) (hm' : site'.node.pool.tickets[m]? ≠ none) :
    ∃ id, site'.node.held.find? id = some m := by
  cases h with
  | does h => exact h.new hm hm'
  | halts h => exact absurd ((h.closes.eq_none_iff m).1 hm) hm'

/-- The settings stay, also when the node stops. -/
theorem Deed.settings (h : Deed heldScan now k site s site') :
    site'.node.settings = site.node.settings := by
  cases h with
  | does h => exact h.settings
  | halts h => exact h.settings

/-- The retention stays, also when a node stops. -/
theorem Deed.retention (h : Deed heldScan now k site s site') :
    site'.queue.retention = site.queue.retention := by
  cases h with
  | does h => exact h.retention
  | halts => rfl

end

/-- The workers of a clustered node leave the shared queue alone. -/
theorem settle_clustered (scan : Registry.Scan) (now : Nat) {site : Site Registry}
    (hn : site.node.Member) :
    ∃ n, settle (Registry.service scan now) site = { node := n, queue := site.queue } ∧
      site.node.Worked n := by
  -- A clustered node does not tell the queue that a job begins: it was claimed as running.
  have hhook (job : Job) (q : Registry) :
      (hook (Registry.service scan now) site.node job q).2 = q := by
    rw [hook_clustered hn.clustered]
  obtain ⟨hsound, hdown⟩ :=
    Pool.sound_settle (hook (Registry.service scan now) site.node) hn.sound site.queue
  refine ⟨(settle (Registry.service scan now) site).node, ?_,
    ⟨rfl, rfl, rfl, hdown, hsound, Pool.follows_settle _ _ _⟩⟩
  have hqueue := Pool.settle_snd _ hhook site.node.pool site.queue
  unfold settle
  dsimp only
  rw [hqueue]

/-! ### Shifts -/

/-- The shift of a node, the `k`-th one: a step makes `site` of its site, and then its workers
act. -/
structure Shift (heldScan : Registry.Scan) (s : Step) (k : Nat) (n : Node) (site : Site Registry)
    (n' : Node) (c c' : Cluster Registry) : Prop where
  node : c.node? k = some n
  deed : Deed heldScan c.now k (c.site n) s site
  worked : site.node.Worked n'
  replaces : Replaces k { node := n', queue := site.queue } c c'

/-- All that a step does to clustered nodes: the deed of the step, after which the workers of the
node act. What begins in it is logged. -/
theorem shift_cases (hscan : ∀ ids, (scan ids).Perm ids) (heldScan : Registry.Scan)
    (lastly : Job → WorkEnd) {c : Cluster Registry} (h : c.OfMembers) (s : Step) :
    let c' := (c.step (shared scan heldScan lastly) s).2
    c' = c ∨ (∃ now, s = .setClock now ∧ c' = { c with now }) ∨
      (∃ k, s = .drop k ∧ c' = { c with nodes := c.nodes.set k none }) ∨
      ∃ k f n, c.deed? scan heldScan lastly s = some (k, f) ∧
        Shift heldScan s k n (f (c.site n))
          (settle (Registry.service scan c.now) (f (c.site n))).node c c' ∧
        c'.starts = c.starts ++ begins scan c.now k (f (c.site n)) := by
  intro c'
  -- Of what a step can be, only a deed is refined here, by what the workers do after it.
  rcases step_cases scan heldScan lastly c s with
    hc' | hclock | hdrop | ⟨k, f, n, hdeed, hn, hc', hstarts⟩
  · exact .inl hc'
  · exact .inr (.inl hclock)
  · exact .inr (.inr (.inl hdrop))
  · have hd := deed_of_deed? hscan hdeed hn (h.nodes k n hn) h.keyed
    obtain ⟨n', hsettle, hworked⟩ :=
      settle_clustered scan c.now (hd.member (h.nodes k n hn) h.keyed)
    refine .inr (.inr (.inr ⟨k, f, n, hdeed, ⟨hn, hd, ?_, ?_⟩, hstarts⟩))
    · rw [hsettle]
      exact hworked
    · rw [hsettle] at hc' ⊢
      exact hc'

/-- Nothing is recorded or held under an id. -/
structure Fresh (id : String) (c : Cluster Registry) : Prop where
  record : c.queue.records.find? id = none
  held : ∀ k n, c.node? k = some n → n.held.find? id = none

/-- The id of the job that a step submits. -/
def Step.submitted? : Step → Option String
  | .submit _ job => some job.id
  | _ => none

/-- Nothing is recorded or held next to an empty queue. -/
theorem fresh_of_new {now : Nat} {retention : Option Nat} {nodes : List (Option Node)}
    (hnodes : ∀ n, some n ∈ nodes → ∃ settings, n.StartedClustered settings retention)
    (id : String) : Fresh id { now, queue := { retention }, nodes } := by
  refine ⟨rfl, ?_⟩
  intro k n hn
  obtain ⟨settings, hstarted⟩ := hnodes n (mem_of_node? hn)
  rw [hstarted.member.2.2.2.1]
  rfl

/-- Clustered nodes that have just started next to an empty queue. -/
theorem ofMembers_of_new {now : Nat} {retention : Option Nat} {nodes : List (Option Node)}
    (hnodes : ∀ n, some n ∈ nodes → ∃ settings, n.StartedClustered settings retention) :
    OfMembers { now, queue := { retention }, nodes } := by
  refine ⟨?_, Registry.keyed_empty retention⟩
  intro k n hn
  obtain ⟨settings, hstarted⟩ := hnodes n (mem_of_node? hn)
  exact hstarted.member.1

/-- What a node claims: the job of a waiting record, which runs from then on. -/
structure Claims (id : String) (m : Nat) (r : Record) (n n' : Node) (c c' : Cluster Registry) :
    Prop where
  before : c.queue.records.find? id = some r
  waiting : r.stage = .waiting
  after : c'.queue.records.find? id = some (Registry.started c.now r)
  held : n'.held.find? id = some m
  /-- The ticket is a new one. -/
  new : n.pool.tickets[m]? = none
  ticket : ∃ t, n'.pool.tickets[m]? = some t ∧ t.job = r.status.job

section
variable {s : Step} {k : Nat} {n n' : Node} {site : Site Registry} {c c' : Cluster Registry}

/-- A shift replaces the node that it concerns. -/
theorem Shift.node? (h : Shift heldScan s k n site n' c c') (j : Nat) :
    c'.node? j = if j = k then some n' else c.node? j :=
  h.replaces.node? (lt_length_of_node? h.node) j

/-- A shift leaves the nodes clustered and the records in their places. -/
theorem Shift.ofMembers (h : Shift heldScan s k n site n' c c') (hc : c.OfMembers) :
    c'.OfMembers := by
  constructor
  · intro j m hm
    rw [h.node?] at hm
    -- The node that acted; the others stay as they were.
    split at hm
    · cases hm
      exact h.worked.member (h.deed.member (hc.nodes k n h.node) hc.keyed)
    · exact hc.nodes j m hm
  · rw [h.replaces.queue]
    exact h.deed.keyed hc.keyed

/-- A ticket is followed by one of the same number. -/
theorem Shift.follows (h : Shift heldScan s k n site n' c c') {j m : Nat} {l : Node} {t : Ticket}
    (hl : c.node? j = some l) (ht : l.pool.tickets[m]? = some t) :
    ∃ l' t', c'.node? j = some l' ∧ l'.pool.tickets[m]? = some t' ∧ t.Follows t' := by
  by_cases hj : j = k
  · subst hj
    rw [h.node] at hl
    cases hl
    obtain ⟨t₁, ht₁, hcloses⟩ := h.deed.old ht
    obtain ⟨t', ht', hfollows⟩ := h.worked.follows.ticket ht₁
    exact ⟨n', t', (h.node? j).trans (if_pos rfl), ht', .trans (.of_closes hcloses) hfollows⟩
  · exact ⟨l, t, (h.node? j).trans ((if_neg hj).trans hl), ht, .refl t⟩

/-- An id that is held after a shift was held before, or its job was claimed in the shift. -/
theorem Shift.held_cases (h : Shift heldScan s k n site n' c c') {j m : Nat} {l' : Node}
    {id : String} (hl' : c'.node? j = some l') (hm : l'.held.find? id = some m) :
    (∃ l, c.node? j = some l ∧ l.held.find? id = some m) ∨
      j = k ∧ l' = n' ∧ s = .reconcile k ∧ ∃ r, Claims id m r n n' c c' := by
  rw [h.node?] at hl'
  split at hl'
  next hj =>
    subst hj
    cases hl'
    -- The workers let go of nothing, so this is about the deed.
    have hm' := hm
    rw [h.worked.held] at hm'
    rcases h.deed.held_cases hm' with hbefore | ⟨hs, hnew, r, hr, hwaiting, hr', hticket⟩
    · exact .inl ⟨n, h.node, hbefore⟩
    · obtain ⟨t', ht', hfollows⟩ := h.worked.follows.ticket hticket
      exact .inr ⟨rfl, rfl, hs, r, hr, hwaiting, h.replaces.queue ▸ hr', hm, hnew,
        t', ht', hfollows.job⟩
  next => exact .inl ⟨l', hl', hm⟩

/-- A ticket after a shift follows one from before, or its job was claimed in the shift. -/
theorem Shift.ticket_cases (h : Shift heldScan s k n site n' c c') (hnamed : n.Named) {j m : Nat}
    {l' : Node} {t' : Ticket} (hl' : c'.node? j = some l') (ht' : l'.pool.tickets[m]? = some t') :
    (∃ l t, c.node? j = some l ∧ l.pool.tickets[m]? = some t ∧ t.Follows t') ∨
      j = k ∧ l' = n' ∧ s = .reconcile k ∧ ∃ id r, Claims id m r n n' c c' := by
  have hl := hl'
  rw [h.node?] at hl'
  split at hl'
  next hj =>
    subst hj
    cases hl'
    -- The workers give out no ticket, so it was there before the deed, or the deed has claimed it.
    obtain ⟨t₁, ht₁, hfollows⟩ := h.worked.follows.ticket_before ht'
    cases ht : n.pool.tickets[m]? with
    | some t =>
      obtain ⟨t₁', ht₁', hcloses⟩ := h.deed.old ht
      rw [ht₁] at ht₁'
      cases ht₁'
      exact .inl ⟨n, t, h.node, ht, .trans (.of_closes hcloses) hfollows⟩
    | none =>
      obtain ⟨id, hm⟩ := h.deed.new ht (ht₁ ▸ nofun)
      rcases h.held_cases hl (h.worked.held ▸ hm) with ⟨l, hn, hbefore⟩ | ⟨hj, hl', hs, r, hr⟩
      · -- Under what is held before lies a ticket.
        rw [h.node] at hn
        cases hn
        obtain ⟨t, ht', -⟩ := hnamed id m hbefore
        rw [ht] at ht'
        cases ht'
      · exact .inr ⟨hj, hl', hs, id, r, hr⟩
  next => exact .inl ⟨l', t', hl', ht', .refl t'⟩

/-- An id stays fresh until it is submitted. -/
theorem Fresh.shift {id : String} (h : c.Fresh id) (hshift : Shift heldScan s k n site n' c c')
    (hs : s.submitted? ≠ some id) : c'.Fresh id := by
  constructor
  · cases hr' : c'.queue.records.find? id with
    | none => rfl
    | some r' =>
      rw [hshift.replaces.queue] at hr'
      -- A record of the id would have been added, which only its submission does, or moved from one
      -- before.
      rcases hshift.deed.record_cases hr' with ⟨job, rfl, rfl, -⟩ | ⟨r, hr, -⟩
      · exact absurd rfl hs
      · rw [show (c.site n).queue = c.queue from rfl, h.record] at hr
        cases hr
  · intro j l' hl'
    cases hm : l'.held.find? id with
    | none => rfl
    | some m =>
      rcases hshift.held_cases hl' hm with ⟨l, hl, hm₁⟩ | ⟨-, -, -, r, hclaims⟩
      · rw [h.held j l hl] at hm₁
        cases hm₁
      · have hr := hclaims.before
        rw [h.record] at hr
        cases hr

end

/-- What a step keeps that submits no id for the second time, a run keeps that submits no id
twice. -/
theorem once_induction {world : World Registry} {P : Cluster Registry → Prop} (steps : List Step)
    (hstep : ∀ c, ∀ s ∈ steps, P c → (∀ id, s.submitted? = some id → c.Fresh id) →
      P (c.step world s).2 ∧
        ∀ id, c.Fresh id → s.submitted? ≠ some id → (c.step world s).2.Fresh id)
    (honce : (steps.filterMap Step.submitted?).Nodup) {c : Cluster Registry} (h : P c)
    (hfresh : ∀ id ∈ steps.filterMap Step.submitted?, c.Fresh id) : P (run world steps c).2 := by
  induction steps generalizing c with
  | nil => exact h
  | cons s rest ih =>
    have hrest := (List.sublist_cons_self s rest).filterMap Step.submitted?
    obtain ⟨h', hfresh'⟩ := hstep c s List.mem_cons_self h
      fun id hid => hfresh id (by rw [List.filterMap_cons_some hid]; exact List.mem_cons_self)
    rw [run_cons]
    refine ih (fun c s hs => hstep c s (List.mem_cons_of_mem _ hs)) (honce.sublist hrest) h'
      fun id hid => hfresh' id (hfresh id (hrest.subset hid)) ?_
    -- The id is submitted later, so it is not submitted now.
    intro hsubmitted
    rw [List.filterMap_cons_some hsubmitted, List.nodup_cons] at honce
    exact honce.1 hid

/-! ### Two nodes to start with -/

/-- The settings of a clustered node with one worker. -/
def oneWorker : Settings := { maxRunning := 1, clustered := true }

/-- Two nodes that have just started. Their work goes on until it is ended from outside. -/
def freshPair : List (Option Node) :=
  let started := Node.new oneWorker (some defaultRetention) .submission (some fun _ => .holds)
  [started.toOption, started.toOption]

/-- Both nodes of the pair start clustered. -/
theorem startedClustered_freshPair {n : Node} (hn : some n ∈ freshPair) :
    n.StartedClustered oneWorker (some defaultRetention) := by
  refine ⟨rfl, .submission, fun _ => .holds, ?_⟩
  unfold freshPair at hn
  generalize Node.new oneWorker _ _ _ = started at hn ⊢
  cases started with
  | error e => simp [Except.toOption] at hn
  | ok n' => simpa [Except.toOption, eq_comm] using hn

end Cluster

end JobScheduling
