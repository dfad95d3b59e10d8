import JobScheduling.Proofs.Node.Matches
import JobScheduling.Proofs.Node.Share
import JobScheduling.Proofs.Pool.Executions
import Mathlib.Data.Bool.Basic

/-!
# `JobScheduling.Proofs.Node.Outlay`: the executions that a site can still begin

A site can begin an execution of the job of an id for each queued ticket, and on a clustered
node one more when a record waits in the shared queue for a node to claim it. `Site.outlay`
counts both.

Only a submission that succeeds adds to it, and it adds one (`outlay_submit`). Everything else
keeps it or spends it: `Site.Eases` holds after every other request and after a pass, since a
claim turns waiting records into tickets (`eases_claim`).
-/

set_option autoImplicit false

namespace JobScheduling

/-- Whether the job of an id waits in the shared queue. -/
def Registry.waits (id : String) (q : Registry) : Bool :=
  (q.records.find? id).any (·.stage == .waiting)

/-- How many executions of the job of an id can begin without another submission. -/
def Site.outlay (id : String) (site : Site Registry) : Nat :=
  site.node.pool.queuedFor id + (site.node.settings.clustered && site.queue.waits id).toNat

namespace Registry

variable {now : Nat} {q : Registry} {id : String}

/-- A job waits if its record says so. -/
theorem waits_iff : q.waits id = true ↔ ∃ r, q.records.find? id = some r ∧ r.stage = .waiting := by
  simp only [waits, Option.any_eq_true, beq_iff_eq]

/-- Only an addition makes a job wait. -/
theorem waits_of_serve (scan : Scan) {request : Request} (hadd : ∀ job, request ≠ .add job)
    (h : (q.serve scan now request).2.waits id = true) : q.waits id = true := by
  obtain ⟨r', hr', hwaiting⟩ := waits_iff.1 h
  have hfate := serve_fate scan now request q id
  rw [hr'] at hfate
  -- A request that adds nothing moves the record at most, and no move makes it wait.
  generalize hr : q.records.find? id = before at hfate
  cases hfate with
  | @moved r _ m =>
    refine waits_iff.2 ⟨r, hr, ?_⟩
    by_contra hstage
    exact m.stage_ne_waiting hstage hwaiting
  | added ha => exact absurd ha (hadd _)
  | replaced _ ha => exact absurd ha (hadd _)

/-- After an addition a job waits that waited before, or the job that was added. -/
theorem waits_of_add {job : Job} (h : (q.add now job).2.waits id = true) :
    q.waits id = true ∨ job.id = id ∧ (q.add now job).1 = .ok () := by
  obtain ⟨r', hr', hwaiting⟩ := waits_iff.1 h
  rw [find?_add] at hr'
  split at hr'
  next hnew => exact .inr ⟨hnew.1.symm, add_eq_ok_iff.2 (hnew.1 ▸ hnew.2)⟩
  next => exact .inl (waits_iff.2 ⟨r', find?_of_find?_purge hr', hwaiting⟩)

end Registry

/-- What work that adds no job leaves of a site. -/
structure Site.Eases (s s' : Site Registry) : Prop where
  settings : s'.node.settings = s.node.settings
  begun : s'.node.pool.begun = s.node.pool.begun
  keyed : s.queue.Keyed → s'.queue.Keyed
  outlay : ∀ id, s'.outlay id ≤ s.outlay id

namespace Site

variable {s s' s'' : Site Registry}

/-- A site that stays as it is spends nothing. -/
theorem Eases.refl (s : Site Registry) : s.Eases s := ⟨rfl, rfl, id, fun _ => Nat.le_refl _⟩

/-- What is spent in two parts is spent. -/
theorem Eases.trans (h : s.Eases s') (h' : s'.Eases s'') : s.Eases s'' :=
  ⟨h'.settings.trans h.settings, h'.begun.trans h.begun, h'.keyed ∘ h.keyed,
    fun id => Nat.le_trans (h'.outlay id) (h.outlay id)⟩

/-- A request to the queue that adds no job. -/
theorem eases_serve (scan : Registry.Scan) (now : Nat) {request : Registry.Request}
    (hadd : ∀ job, request ≠ .add job) (s : Site Registry) :
    s.Eases { s with queue := (s.queue.serve scan now request).2 } := by
  refine ⟨rfl, rfl, Registry.keyed_serve scan now request, fun id => ?_⟩
  refine Nat.add_le_add_left (Bool.toNat_le_toNat (Bool.le_iff_imp.2 ?_)) _
  rw [Bool.and_eq_true, Bool.and_eq_true]
  exact And.imp_right (Registry.waits_of_serve scan hadd)

/-- A change of the node that closes tickets at most. -/
theorem Eases.of_closes {n : Node} (hsettings : n.settings = s.node.settings)
    (hbegun : n.pool.begun = s.node.pool.begun) (hcloses : s.node.pool.Closes n.pool) :
    s.Eases { s with node := n } := by
  refine ⟨hsettings, hbegun, id, fun id => ?_⟩
  have hqueued := hcloses.queuedFor_le id
  simp only [Site.outlay, hsettings]
  omega

/-! ### What a node does -/

/-- To cancel a ticket can only spend a queued one. -/
theorem eases_cancelTicket (id : String) (s : Site Registry) :
    s.Eases { s with node := s.node.cancelTicket id } := by
  simp only [Node.cancelTicket]
  split
  · exact .refl s
  next m hm =>
    refine .of_closes rfl ?_ (Pool.closes_cancel m _)
    simp only [Pool.cancel]
    split <;> rfl

/-- To let go of a job leaves its ticket in the pool. -/
theorem eases_drop (id : String) (s : Site Registry) :
    s.Eases { s with node := s.node.drop id } := .of_closes rfl rfl (.of_eq rfl)

/-- To schedule a purge spends nothing. -/
theorem eases_schedulePurge (s : Site Registry) :
    s.Eases { s with node := s.node.schedulePurge } := by
  simp only [Node.schedulePurge]
  split
  next pool hpool =>
    simp only [Pool.schedulePurge] at hpool
    split at hpool <;> cases hpool
    exact .of_closes rfl rfl (.of_eq rfl)
  next => exact .refl s

/-- The stop interrupts queued tickets. -/
theorem eases_shutDown (s : Site Registry) : s.Eases { s with node := s.node.shutDown } := by
  simp only [Node.shutDown]
  split
  · exact .refl s
  · refine .of_closes rfl ?_ (Pool.closes_shutDown _)
    simp only [Pool.shutDown]
    split <;> rfl

/-- A stop that ends the work as well begins none. -/
theorem eases_stop (lastly : Job → WorkEnd) (s : Site Registry) :
    s.Eases { s with node := s.node.stop lastly } := by
  have hends := Pool.closes_endAll lastly s.node.shutDown.pool
  exact (eases_shutDown s).trans (.of_closes rfl (Pool.begun_endAll ..) hends)

/-- The end of work spends no queued ticket. -/
theorem eases_ended (ticket : Nat) (how : WorkEnd) (s : Site Registry) :
    s.Eases { s with node := { s.node with pool := s.node.pool.endWork ticket how } } :=
  .of_closes rfl rfl (Pool.closes_endWork ticket how _)

/-- A node that neither adds nor claims jobs eases its site. -/
theorem preserves_eases (scan : Registry.Scan) (now : Nat) (s : Site Registry) :
    Node.Preserves scan now s.Eases where
  serve _ t hadd ht := ht.trans (eases_serve scan now hadd t)
  cancelTicket id t ht := ht.trans (eases_cancelTicket id t)
  drop id t ht := ht.trans (eases_drop id t)
  schedulePurge t ht := ht.trans (eases_schedulePurge t)

/-! ### Claims -/

/-- Jobs that are taken on get a ticket each, at most: a pool that was stopped takes on
none. -/
theorem outlay_forEach_hold (jobs : List Job) (s : Site Registry) :
    let s' := ((Act.forEach Node.hold jobs).run s).2
    s'.queue = s.queue ∧ s'.node.settings = s.node.settings ∧
      s'.node.pool.begun = s.node.pool.begun ∧
      ∀ id, s'.node.pool.queuedFor id
        ≤ s.node.pool.queuedFor id + (jobs.map (·.id)).count id := by
  induction jobs generalizing s with
  | nil => exact ⟨rfl, rfl, rfl, fun id => Nat.le_refl _⟩
  | cons job jobs ih =>
    intro s'
    have hs' : s' = ((Node.hold job >>= fun _ => Act.forEach Node.hold jobs).run s).2 := rfl
    rw [Act.run_bind, Node.run_hold] at hs'
    cases htake : s.node.take job with
    | error e =>
      -- The first refusal ends it.
      rw [htake] at hs'
      rw [hs']
      exact ⟨rfl, rfl, rfl, fun id => Nat.le_add_right ..⟩
    | ok n =>
      rw [htake] at hs'
      obtain ⟨ticket, pool, hsubmit, rfl⟩ := Node.take_eq_ok htake
      obtain ⟨hqueue, hsettings, hbegun, hqueued⟩ := ih { s with node := { s.node with
        pool, held := s.node.held.insert job.id ticket } }
      rw [hs']
      refine ⟨hqueue, hsettings, hbegun.trans (Pool.begun_submit hsubmit), fun id => ?_⟩
      refine Nat.le_trans (hqueued id) ?_
      rw [List.map_cons, List.count_cons]
      show pool.queuedFor id + _ ≤ _
      rw [Pool.queuedFor_submit hsubmit]
      omega

/-- A claim eases the site of a clustered node: each claimed job does not wait any more and
gets one ticket, at most. -/
theorem eases_claim (scan : Registry.Scan) (now : Nat) {s : Site Registry} (hkeyed : s.queue.Keyed)
    (hclustered : s.node.settings.clustered = true) :
    s.Eases ((Node.claim (Registry.service scan now)).run s).2 := by
  simp only [Node.claim]
  rw [Act.run_bind_ok (Act.run_node s)]
  split
  case isFalse => exact .refl s
  case isTrue =>
    generalize s.node.settings.maxRunning - s.node.held.size = free
    generalize hjobs : (s.queue.startNext now free).1.map (·.job) = jobs
    -- What is claimed here is a list of waiting records, each id at most once.
    have hids : jobs.map (·.id) = s.queue.claimedIds free :=
      hjobs ▸ Node.ids_startNext hkeyed now free
    rw [Act.run_bind_ok (Registry.run_startNext scan now s free), Node.forEach_map, hjobs]
    obtain ⟨hqueue, hsettings, hbegun, hqueued⟩ := outlay_forEach_hold jobs
      { s with queue := (s.queue.startNext now free).2 }
    refine ⟨hsettings, hbegun, ?_, fun id => ?_⟩
    · intro _
      rw [hqueue]
      exact Registry.keyed_serve scan now (.startNext free) hkeyed
    · have hqueued : _ ≤ s.node.pool.queuedFor id + _ := hqueued id
      rw [hids] at hqueued
      simp only [outlay]
      rw [hsettings, hqueue, hclustered, Bool.true_and, Bool.true_and]
      simp only [Registry.waits, Registry.find?_startNext]
      -- Each id that is claimed gets one ticket more, and its record waits no longer.
      by_cases hid : id ∈ s.queue.claimedIds free
      · obtain ⟨r, hr, hwaiting⟩ := Registry.find?_of_mem_claimedIds hid
        have hone := List.nodup_iff_count_le_one.1 (s.queue.nodup_claimedIds free) id
        have hleaves : ((Registry.started now r).stage == .waiting) = false := by
          rw [Registry.stage_started now hwaiting]
          rfl
        simp only [if_pos hid, hr, Option.map_some, Option.any_some, hleaves,
          beq_iff_eq.2 hwaiting, Bool.toNat_false, Bool.toNat_true]
        omega
      · rw [List.count_eq_zero.2 hid] at hqueued
        rw [if_neg hid]
        exact Nat.add_le_add_right hqueued _

/-- A request to cancel eases the site. -/
theorem eases_cancel (scan : Registry.Scan) (now : Nat) (id : String) (credential : Option String)
    (s : Site Registry) :
    s.Eases ((Node.cancel (Registry.service scan now) id credential).run s).2 :=
  (preserves_eases scan now s).cancel id credential (.refl s)

/-- A request for the status begins nothing. -/
theorem eases_status (scan : Registry.Scan) (now : Nat) (id : String) (credential : Option String)
    (s : Site Registry) :
    s.Eases ((Node.status (Registry.service scan now) id credential).run s).2 :=
  (preserves_eases scan now s).status id credential (.refl s)

/-- A pass eases the site, whether the node is clustered or not. -/
theorem eases_reconcile (scan heldScan : Registry.Scan) (now : Nat) {s : Site Registry}
    (hkeyed : s.queue.Keyed) :
    s.Eases ((Node.reconcile (Registry.service scan now) heldScan now).run s).2 := by
  have hrespects := (preserves_eases scan now s).respects
  refine Act.keeps_of_matches (hrespects.matches_reconcile heldScan now ?_) (.refl s)
  rintro t t' ⟨rfl, ht⟩ hclustered
  -- The site stays one of a clustered node until the claim is made.
  have hclaim : Act.Matches (fun t t' => t = t' ∧ s.Eases t)
      (Node.claim (Registry.service scan now)) (Node.claim (Registry.service scan now)) := by
    rintro u _ ⟨rfl, hu⟩
    have hclustered' : u.node.settings.clustered = true := by
      rw [hu.settings, ← ht.settings, hclustered]
    exact ⟨rfl, rfl, hu.trans (eases_claim scan now (hu.keyed hkeyed) hclustered')⟩
  exact hrespects.matches_reviewShared hclaim t t ⟨rfl, ht⟩

/-- A new record adds one execution on a clustered node, and none on any other. -/
theorem outlay_add (now : Nat) (job : Job) (s : Site Registry) (id : String) :
    outlay id { s with queue := (s.queue.add now job).2 }
      ≤ s.outlay id + if s.node.settings.clustered = true ∧ (s.queue.add now job).1 = .ok () ∧
        job.id = id then 1 else 0 := by
  simp only [outlay]
  cases hclustered : s.node.settings.clustered with
  | false => simp
  -- On a clustered node a record that waits afterwards waited before or is the new one.
  | true =>
    have hwaits : (s.queue.add now job).2.waits id = true →
        s.queue.waits id = true ∨ job.id = id ∧ (s.queue.add now job).1 = .ok () :=
      Registry.waits_of_add
    rw [Bool.true_and, Bool.true_and]
    cases hafter : (s.queue.add now job).2.waits id with
    | false => exact Nat.le_trans (Nat.le_add_right _ _) (Nat.le_add_right _ _)
    | true =>
      rcases hwaits hafter with hbefore | ⟨hid, hok⟩
      · rw [hbefore]
        exact Nat.le_add_right _ _
      · rw [if_pos ⟨rfl, hok, hid⟩, Bool.toNat_true]
        omega

/-- A submission adds one execution when it succeeds, and none when it is refused. -/
theorem outlay_submit (scan : Registry.Scan) (now : Nat) (job : Job) (s : Site Registry) :
    let result := (Node.submit (Registry.service scan now) job).run s
    result.2.node.settings = s.node.settings ∧
      result.2.node.pool.begun = s.node.pool.begun ∧
      (s.queue.Keyed → result.2.queue.Keyed) ∧
      ∀ id, result.2.outlay id
        ≤ s.outlay id + if result.1 = .ok () ∧ job.id = id then 1 else 0 := by
  intro result
  have hkeyed : s.queue.Keyed → (s.queue.add now job).2.Keyed :=
    Registry.keyed_serve scan now (.add job)
  have hadded := outlay_add now job s
  have hresult : result = (Node.submit (Registry.service scan now) job).run s := rfl
  -- How a submission ends, case by case. On a node that is not clustered its record does not count.
  rcases Node.run_submit scan now job s with ⟨e, hrun⟩ | ⟨e, hadd, hrun⟩ |
    ⟨hclustered, hadd, hrun⟩ | ⟨hclustered, hadd, ⟨n, htake, hrun⟩ | ⟨e, htake, hrun⟩⟩ <;>
    rw [hresult, hrun]
  · exact ⟨rfl, rfl, fun h => h, fun id => Nat.le_add_right _ _⟩
  · refine ⟨rfl, rfl, hkeyed, fun id => ?_⟩
    have hid := hadded id
    rw [hadd] at hid
    simpa using hid
  · refine ⟨rfl, rfl, hkeyed, fun id => ?_⟩
    have hid := hadded id
    simp only [hadd, hclustered, true_and] at hid
    simpa using hid
  · -- The job that is taken on here gets a ticket, and nobody else claims it.
    obtain ⟨ticket, pool, hsubmit, rfl⟩ := Node.take_eq_ok htake
    refine ⟨rfl, Pool.begun_submit hsubmit, hkeyed, fun id => ?_⟩
    simp only [outlay, hclustered, Bool.false_and, Bool.toNat_false, true_and]
    rw [Pool.queuedFor_submit hsubmit]
    simp
  · refine ⟨rfl, rfl, fun h => ?_, fun id => ?_⟩
    · exact Registry.keyed_serve scan now (.cancel job.id Node.cancelReason true) (hkeyed h)
    · simp [outlay, hclustered]

end Site

end JobScheduling
