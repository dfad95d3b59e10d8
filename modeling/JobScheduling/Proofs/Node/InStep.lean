import JobScheduling.Proofs.Node.Review

/-!
# `JobScheduling.Proofs.Node.InStep`: a node and its queue in step

A node that is not clustered runs what is submitted to it. If nobody else uses its queue,
the records of the queue and the jobs that the node holds stay in step.

`Site.InStep` is the invariant. At each id it demands that record and ticket agree
(`Agrees`): there is neither, or the record has ended and the job is not held, or the record
is open and stands where its ticket is. And an unfinished ticket is always a held one, so
that no execution goes on behind the back of the node.

`InStep.of_change` says what has to be checked of a change, id by id. From it there is one
lemma `inStep_f` for each piece `f` of the node's work. Each also says that a job that is
held before and after is held under the same ticket (`Site.Keeps`).
-/

set_option autoImplicit false

namespace JobScheduling

/-- What the record and the ticket under one id have to do with each other. -/
inductive Agrees : Option Record → Option Ticket → Prop
  | absent : Agrees none none
  | ended {r : Record} (h : r.isFinal = true) : Agrees (some r) none
  | going {r : Record} {t : Ticket} (hjob : t.job = r.status.job)
      (hstage : r.stage = if t.started then .running else .waiting) :
      Agrees (some r) (some t)

namespace Agrees

variable {r? : Option Record} {t? : Option Ticket}

/-- The ticket of a job can finish without the record being told. -/
theorem closes {t t' : Ticket} (h : Agrees r? (some t)) (hc : t.Closes t') :
    Agrees r? (some t') := by
  cases h with
  | going hjob hstage => exact .going (hc.job.trans hjob) (by rw [hc.started]; exact hstage)

/-- A change of a record that leaves its job and its stage alone. -/
theorem map (h : Agrees r? t?) {f : Record → Record}
    (hf : ∀ r : Record, (f r).status.job = r.status.job ∧ (f r).stage = r.stage) :
    Agrees (r?.map f) t? := by
  cases h with
  | absent => exact .absent
  | @ended r h => exact .ended ((Record.isFinal_of_stage (hf r).2).trans h)
  | @going r t hjob hstage =>
    exact .going (hjob.trans (hf r).1.symm) ((hf r).2.trans hstage)

/-- A purge only drops records that have ended. -/
theorem purge (now : Nat) {q : Registry} {id : String} (h : Agrees (q.records.find? id) t?) :
    Agrees ((q.purge now).records.find? id) t? := by
  rw [Registry.find?_purge]
  -- Only ended records are purged, and no ticket goes with them.
  generalize q.records.find? id = r? at h
  cases h with
  | absent => exact .absent
  | @ended r h =>
    rw [Option.filter_some]
    split
    · exact .ended h
    · exact .absent
  | @going r t hjob hstage =>
    have hopen : r.isFinal = false := by
      rw [Record.isFinal_of_stage hstage]
      split <;> rfl
    rw [Option.filter_some, Registry.expires_eq_false hopen]
    exact .going hjob hstage

/-- Where no record is, no job is held. -/
theorem eq_none (h : Agrees none t?) : t? = none := by
  cases h
  rfl

/-- A job that is not held and whose record ends, or stays as it was. -/
theorem ends (h : Agrees r? t?) {f : Record → Record}
    (hf : ∀ r : Record, r? = some r → (f r).isFinal = true) : Agrees (r?.map f) none := by
  cases h with
  | absent => exact .absent
  | ended => exact .ended (hf _ rfl)
  | going => exact .ended (hf _ rfl)

/-- Where no job is held, the record has ended. -/
theorem isFinal {r : Record} (h : Agrees (some r) none) : r.isFinal = true := by
  cases h with
  | ended h => exact h

/-- Where a job is held, its record waits or runs. -/
theorem stage {r : Record} {t : Ticket} (h : Agrees (some r) (some t)) :
    r.stage = .waiting ∨ r.stage = .running := by
  cases h with
  | going _ hstage =>
    rw [hstage]
    split
    · exact .inr rfl
    · exact .inl rfl

/-- A record that goes on has not ended. -/
theorem isFinal_eq_false {r : Record} {t : Ticket} (h : Agrees (some r) (some t)) :
    r.isFinal = false := by
  rcases h.stage with hr | hr
  · exact Record.isFinal_of_stage hr
  · exact Record.isFinal_of_stage hr

/-- Where a job is held, there is a record. -/
theorem exists_record {t : Ticket} (h : Agrees r? (some t)) :
    ∃ r, r? = some r ∧ Agrees (some r) (some t) := by
  cases h with
  | going hjob hstage => exact ⟨_, rfl, .going hjob hstage⟩

/-- Where a record is open, its job is held. -/
theorem exists_ticket {r : Record} (h : Agrees (some r) t?) (hr : r.isFinal = false) :
    ∃ t, t? = some t := by
  cases h with
  | ended h => rw [h] at hr; cases hr
  | going => exact ⟨_, rfl⟩

end Agrees

namespace Site

/-- The node runs its jobs itself, and its records and its jobs are in step. -/
structure InStep (site : Site Registry) : Prop where
  alone : site.node.settings.clustered = false
  sound : site.node.pool.Sound
  stopped : site.node.isShutDown = site.node.pool.isShutDown
  named : site.node.Named
  agrees : ∀ id, Agrees (site.queue.records.find? id) (site.node.ticket? id)
  /-- An execution that has not finished is that of a held job. -/
  tracked : ∀ (m : Nat) t, site.node.pool.tickets[m]? = some t → t.isFinished = false →
    site.node.held.find? t.job.id = some m

/-- A change that gives out no ticket keeps a site in step if at each id one of two things
is true. The job is held as before and its record still agrees with its ticket; or the job
is not held any more, its ticket has finished, and its record has ended. -/
theorem InStep.of_change {site site' : Site Registry} (h : site.InStep)
    (hsettings : site'.node.settings = site.node.settings) (hsound : site'.node.pool.Sound)
    (hstopped : site'.node.isShutDown = site'.node.pool.isShutDown)
    (hcloses : site.node.pool.Closes site'.node.pool)
    (hid : ∀ id,
      (site'.node.held.find? id = site.node.held.find? id ∧
        Agrees (site'.queue.records.find? id) (site.node.ticket? id)) ∨
      (site'.node.held.find? id = none ∧ Agrees (site'.queue.records.find? id) none ∧
        ∀ (m : Nat) t', site.node.held.find? id = some m →
          site'.node.pool.tickets[m]? = some t' → t'.isFinished = true)) :
    site'.InStep where
  alone := by rw [hsettings]; exact h.alone
  sound := hsound
  stopped := hstopped
  named id m hm := by
    rcases hid id with ⟨hheld, -⟩ | ⟨hheld, -⟩
    · rw [hheld] at hm
      obtain ⟨t, ht, htid⟩ := h.named id m hm
      obtain ⟨t', ht', hc⟩ := hcloses.ticket ht
      exact ⟨t', ht', hc.job ▸ htid⟩
    · rw [hheld] at hm
      cases hm
  agrees id := by
    rcases hid id with ⟨hheld, hagrees⟩ | ⟨hheld, hagrees, -⟩
    · simp only [Node.ticket?] at hagrees ⊢
      rw [hheld]
      cases hm : site.node.held.find? id with
      | none => rwa [hm] at hagrees
      | some m =>
        obtain ⟨t, ht, -⟩ := h.named id m hm
        obtain ⟨t', ht', hc⟩ := hcloses.ticket ht
        rw [hm, Option.bind_some, ht] at hagrees
        rw [Option.bind_some, ht']
        exact hagrees.closes hc
    · simp only [Node.ticket?]
      rw [hheld]
      exact hagrees
  tracked m t' ht' hopen := by
    -- What has not finished had not before, so its job was held, and is not let go.
    obtain ⟨t, ht, hc⟩ := hcloses.ticket_before ht'
    have hm := h.tracked m t ht (hc.isFinished_eq_false hopen)
    rw [← hc.job] at hm
    rcases hid t'.job.id with ⟨hheld, -⟩ | ⟨-, -, hfinished⟩
    · rw [hheld]
      exact hm
    · rw [hfinished m t' hm ht'] at hopen
      cases hopen

/-- A change of the queue alone. -/
theorem InStep.of_queue {site : Site Registry} (h : site.InStep) {q : Registry}
    (hid : ∀ id, Agrees (q.records.find? id) (site.node.ticket? id)) :
    InStep { site with queue := q } :=
  h.of_change rfl h.sound h.stopped (.of_eq rfl) fun id => .inl ⟨rfl, hid id⟩

/-- A change of the pool alone. -/
theorem InStep.of_pool {site : Site Registry} (h : site.InStep) {p : Pool} (hsound : p.Sound)
    (hdown : p.isShutDown = site.node.pool.isShutDown) (hcloses : site.node.pool.Closes p) :
    InStep { site with node := { site.node with pool := p } } :=
  h.of_change rfl hsound (h.stopped.trans hdown.symm) hcloses fun id => .inl ⟨rfl, h.agrees id⟩

/-! ### Deeds -/

variable {scan heldScan : Registry.Scan} {now : Nat}

/-- A job that is held before and after is held under the same ticket. -/
def Keeps (site site' : Site Registry) : Prop :=
  ∀ id (m m' : Nat), site.node.held.find? id = some m → site'.node.held.find? id = some m' →
    m' = m

/-- Held jobs that are only let go keep their tickets until then. -/
theorem Keeps.of_sub {site site' : Site Registry}
    (h : ∀ id, site'.node.held.find? id = site.node.held.find? id ∨
      site'.node.held.find? id = none) : site.Keeps site' := by
  intro id m m' hm hm'
  rcases h id with heq | hnone
  · rw [heq, hm] at hm'
    exact (Option.some.inj hm').symm
  · rw [hnone] at hm'
    cases hm'

/-- A request for the status notes a check in the record, and the stage stays. -/
theorem inStep_status {site : Site Registry} (h : site.InStep) (id : String)
    (credential : Option String) :
    let site' := ((Node.status (Registry.service scan now) id credential).run site).2
    site'.InStep ∧ site.Keeps site' := by
  intro site'
  have hsite : site' = { site with queue := (site.queue.get now id true).2 } :=
    Node.site_status scan now id credential site
  rw [hsite]
  refine ⟨h.of_queue ?_, .of_sub fun _ => .inl rfl⟩
  intro k
  rw [Registry.find?_get]
  split
  · exact (h.agrees k).map fun _ => ⟨rfl, rfl⟩
  · exact h.agrees k

/-- A held job that is asked to stop and let go, and whose record is canceled. -/
theorem inStep_letGo {site : Site Registry} (h : site.InStep) {id : String} {m : Nat}
    (hm : site.node.held.find? id = some m) (reason reason' : String) :
    let site' : Site Registry :=
      { node := site.node.letGo id
        queue := ((site.queue.cancel now id reason false).2.cancel now id reason' true).2 }
    site'.InStep ∧ site.Keeps site' := by
  intro site'
  have hnode : site'.node
      = { site.node with pool := (site.node.pool.cancel m).2, held := site.node.held.erase id } :=
    Node.letGo_eq hm
  have hheld (k : String) :
      site'.node.held.find? k = if k = id then none else site.node.held.find? k := by
    rw [hnode]
    exact Table.find?_erase ..
  have hcloses : site.node.pool.Closes site'.node.pool := by
    rw [hnode]
    exact Pool.closes_cancel m _
  refine ⟨h.of_change (by rw [hnode]) ?_ ?_ hcloses ?_, .of_sub ?_⟩
  · rw [hnode]
    exact Pool.sound_cancel h.sound m
  · rw [hnode]
    exact h.stopped.trans (Pool.isShutDown_cancel m _).symm
  · intro k
    -- The record of the id has ended and nothing is held under it. No other id is concerned.
    by_cases hk : k = id
    · subst hk
      refine .inr ⟨(hheld k).trans (if_pos rfl), ?_, ?_⟩
      · rw [Registry.find?_cancel, if_pos rfl, Registry.find?_cancel, if_pos rfl, Option.map_map]
        exact (h.agrees k).ends fun r _ => Registry.isFinal_cancel ..
      · intro m' t' hm' ht'
        rw [hm] at hm'
        cases hm'
        rw [hnode, Node.getElem?_cancel, if_pos rfl, Option.map_eq_some_iff] at ht'
        obtain ⟨t, -, rfl⟩ := ht'
        exact Ticket.isFinished_cancel t
    · refine .inl ⟨(hheld k).trans (if_neg hk), ?_⟩
      rw [Registry.find?_cancel, if_neg hk, Registry.find?_cancel, if_neg hk]
      exact h.agrees k
  · intro k
    rw [hheld]
    split
    · exact .inr rfl
    · exact .inl rfl

/-- A request to cancel a held job ends its record and its ticket together. -/
theorem inStep_cancel {site : Site Registry} (h : site.InStep) (id : String)
    (credential : Option String) :
    let site' := ((Node.cancel (Registry.service scan now) id credential).run site).2
    site'.InStep ∧ site.Keeps site' := by
  intro site'
  rcases Node.site_cancel scan now id credential site with hsite | hsite
  · rw [show site' = site from hsite]
    exact ⟨h, .of_sub fun _ => .inl rfl⟩
  rw [show site' = _ from hsite]
  split
  next hheld =>
    obtain ⟨m, hm⟩ := Option.isSome_iff_exists.1 hheld
    exact inStep_letGo h hm Node.cancelReason Node.cancelReason
  next hheld =>
    -- The job is not held, so its record has ended, and nothing is asked of it.
    refine ⟨h.of_queue ?_, .of_sub fun _ => .inl rfl⟩
    intro k
    rw [Registry.find?_cancel]
    split
    next hk =>
      subst hk
      have hnone : site.node.ticket? k = none := by
        simp only [Node.ticket?]
        rw [Option.not_isSome_iff_eq_none.1 hheld]
        rfl
      have hagrees := h.agrees k
      rw [hnone] at hagrees ⊢
      refine hagrees.ends ?_
      intro r hr
      rw [hr] at hagrees
      rw [Registry.cancel_of_isFinal hagrees.isFinal]
      exact hagrees.isFinal
    next => exact h.agrees k

/-- A job that the queue accepts is not held. -/
theorem InStep.not_held {site : Site Registry} (h : site.InStep) {job : Job}
    (hadd : (site.queue.add now job).1 = .ok ()) :
    ((site.queue.purge now).records.find? job.id = none) ∧
      site.node.held.find? job.id = none := by
  have hfree := Registry.add_eq_ok_iff.1 hadd
  refine ⟨hfree, ?_⟩
  have hticket : site.node.ticket? job.id = none := by
    have hagrees := (h.agrees job.id).purge now
    rw [hfree] at hagrees
    exact hagrees.eq_none
  -- A held job has a ticket, and its record would have been in the way.
  by_contra hne
  obtain ⟨m, hm⟩ := Option.ne_none_iff_exists'.1 hne
  obtain ⟨t, ht, -⟩ := h.named job.id m hm
  rw [Node.ticket?_eq_some_iff.2 ⟨m, hm, ht⟩] at hticket
  cases hticket

/-- A job that is recorded and taken on at once. -/
theorem inStep_taken {site : Site Registry} (h : site.InStep) {job : Job} {n : Node}
    (hadd : (site.queue.add now job).1 = .ok ()) (htake : site.node.take job = .ok n) :
    let site' : Site Registry := { node := n, queue := (site.queue.add now job).2 }
    site'.InStep ∧ site.Keeps site' := by
  obtain ⟨hfree, hnew⟩ := h.not_held hadd
  obtain ⟨m, pool, hsubmit, rfl⟩ := Node.take_eq_ok htake
  obtain ⟨hopen, -, -, -, -, hopen'⟩ := Pool.submit_eq_ok hsubmit
  have hheld (k : String) : (site.node.held.insert job.id m).find? k
      = if k = job.id then some m else site.node.held.find? k := Table.find?_insert ..
  refine ⟨⟨h.alone, Pool.sound_submit h.sound hsubmit, ?_, ?_, ?_, ?_⟩, ?_⟩
  · exact (h.stopped.trans hopen).trans hopen'.symm
  · intro k l hl
    rw [hheld] at hl
    split at hl
    next hk =>
      cases hl
      exact ⟨_, Pool.newTicket_of_submit hsubmit, hk.symm⟩
    next =>
      obtain ⟨t, ht, hid⟩ := h.named k l hl
      exact ⟨t, Pool.ticket_of_submit hsubmit ht, hid⟩
  -- The id of the job, under which there was nothing, and the other ids.
  · intro k
    show Agrees ((site.queue.add now job).2.records.find? k)
      (((site.node.held.insert job.id m).find? k).bind fun l => pool.tickets[l]?)
    rw [Registry.find?_add, hheld]
    by_cases hk : k = job.id
    · -- The new record waits, and the new ticket has not begun.
      subst hk
      rw [if_pos ⟨rfl, hfree⟩, if_pos rfl, Option.bind_some, Pool.newTicket_of_submit hsubmit]
      exact .going rfl rfl
    · rw [if_neg fun hc => hk hc.1, if_neg hk]
      have hagrees := (h.agrees k).purge now
      unfold Node.ticket? at hagrees
      cases hl : site.node.held.find? k with
      | none => rwa [hl] at hagrees
      | some l =>
        obtain ⟨t, ht, -⟩ := h.named k l hl
        rw [hl, Option.bind_some, ht] at hagrees
        rw [Option.bind_some, Pool.ticket_of_submit hsubmit ht]
        exact hagrees
  · intro l t ht hf
    show (site.node.held.insert job.id m).find? t.job.id = some l
    rw [hheld]
    rcases Pool.ticket_cases_of_submit hsubmit ht with hbefore | ⟨rfl, rfl⟩
    · -- The job of an old ticket is held, and that of the new one was not.
      have hl := h.tracked l t hbefore hf
      rw [if_neg fun hid => by rw [hid, hnew] at hl; cases hl]
      exact hl
    · exact if_pos rfl
  · intro k m m' hm hm'
    rw [show (site.node.held.insert job.id _).find? k = _ from hheld k] at hm'
    split at hm'
    next hk =>
      rw [hk, hnew] at hm
      cases hm
    next =>
      rw [hm] at hm'
      exact (Option.some.inj hm').symm

/-- A submission adds record and ticket, or neither. -/
theorem inStep_submit {site : Site Registry} (h : site.InStep) (job : Job) :
    let site' := ((Node.submit (Registry.service scan now) job).run site).2
    site'.InStep ∧ site.Keeps site' := by
  intro site'
  have hpurged (k : String) : Agrees ((site.queue.purge now).records.find? k)
      (site.node.ticket? k) := (h.agrees k).purge now
  rcases Node.site_submit scan now job site with
    hsite | ⟨hrefused, hsite⟩ | ⟨-, hadd, ⟨n, htake, hsite⟩ | ⟨-, hsite⟩⟩
  · rw [show site' = site from hsite]
    exact ⟨h, .of_sub fun _ => .inl rfl⟩
  · rw [show site' = _ from hsite]
    refine ⟨h.of_queue ?_, .of_sub fun _ => .inl rfl⟩
    intro k
    -- The queue has refused the job, after a purge.
    have hadd : (site.queue.add now job).1 ≠ .ok () := by
      rcases hrefused with hclustered | hne
      · rw [h.alone] at hclustered
        cases hclustered
      · exact hne
    rw [Registry.find?_add]
    split
    next hk => exact absurd (Registry.add_eq_ok_iff.2 (hk.1 ▸ hk.2)) hadd
    next => exact hpurged k
  · rw [show site' = _ from hsite]
    exact inStep_taken h hadd htake
  · -- The pool has refused the job, so its record was canceled.
    rw [show site' = _ from hsite]
    refine ⟨h.of_queue ?_, .of_sub fun _ => .inl rfl⟩
    intro k
    rw [Registry.find?_cancel, Registry.find?_add]
    obtain ⟨hfree, hnew⟩ := h.not_held hadd
    by_cases hk : k = job.id
    · subst hk
      rw [if_pos rfl, if_pos ⟨rfl, hfree⟩]
      have hnone : site.node.ticket? job.id = none := by
        simp only [Node.ticket?]
        rw [hnew]
        rfl
      rw [hnone]
      exact .ended (Registry.isFinal_cancel ..)
    · rw [if_neg hk, if_neg fun hc => hk hc.1]
      exact hpurged k

/-- A review of the held jobs lets go of those that have finished and ends their records. -/
theorem InStep.of_reviewed {site site' : Site Registry} (h : site.InStep) {ids : List String}
    (hopen : site.node.isShutDown = false) (hr : Node.Reviewed now ids site site') :
    site'.InStep := by
  have hsound := hr.sound h.sound
  have hstopped : site'.node.isShutDown = site'.node.pool.isShutDown := by
    rw [hr.isShutDown, hr.poolIsShutDown, h.stopped]
  refine h.of_change hr.settings hsound hstopped hr.closes ?_
  -- What stays is as it was. What leaves has finished, and its record ends with the report.
  intro id
  cases hleaving : site.node.leaving now site.queue ids id with
  | none =>
    left
    rw [hr.held id, hr.records id, hleaving]
    exact ⟨rfl, (h.agrees id).map fun _ => ⟨rfl, rfl⟩⟩
  | some outcome =>
    right
    obtain ⟨hid, t, ht, hout⟩ := Node.leaving_eq_some hleaving
    obtain ⟨m, hm, htm⟩ := Node.ticket?_eq_some_iff.1 ht
    obtain ⟨t₀, ht₀, hjob⟩ := h.named id m hm
    rw [htm] at ht₀
    cases ht₀
    have htm' : site'.node.pool.tickets[m]? = some (site.node.judged now site.queue id t) := by
      rw [hr.tickets, htm, Option.map_some, hjob, if_pos ⟨hid, hm⟩]
    have hne : outcome ≠ .interrupted :=
      hr.leaving_ne_interrupted h.named h.sound (h.stopped ▸ hopen) hleaving
    refine ⟨?_, ?_, ?_⟩
    · rw [hr.held id, hleaving]
      rfl
    · rw [hr.records id, hleaving]
      have hagrees := h.agrees id
      rw [ht] at hagrees
      refine hagrees.ends ?_
      intro r hrec
      rw [hrec] at hagrees
      exact Record.isFinal_reported now r hne
    · intro m' t' hm' ht'
      rw [hm] at hm'
      cases hm'
      rw [htm'] at ht'
      cases ht'
      exact Ticket.isFinished_of_outcome? hout

/-- A pass of a node on its own is the review of what it holds. -/
theorem inStep_reconcile {site : Site Registry} (h : site.InStep) :
    let site' := ((Node.reconcile (Registry.service scan now) heldScan now).run site).2
    site'.InStep ∧ site.Keeps site' := by
  intro site'
  obtain ⟨reviewed, hrun, hr⟩ :=
    Node.run_reviewHeld scan now heldScan site h.named
  have hsite : site' = _ := Node.site_reconcile heldScan hrun
  rw [hsite]
  split
  · exact ⟨h, .of_sub fun _ => .inl rfl⟩
  next hopen =>
    -- A node that is not clustered ends its pass after the review.
    rw [hr.settings, h.alone, if_neg Bool.false_ne_true]
    refine ⟨h.of_reviewed (by simpa using hopen) hr, .of_sub ?_⟩
    intro id
    rw [hr.held id]
    split
    · exact .inr rfl
    · exact .inl rfl

/-- The stop interrupts tickets, and the node still holds them. -/
theorem inStep_halt {site : Site Registry} (h : site.InStep) :
    let site' : Site Registry := { site with node := site.node.shutDown }
    site'.InStep ∧ site.Keeps site' := by
  simp only [Node.shutDown]
  split
  · exact ⟨h, .of_sub fun _ => .inl rfl⟩
  · exact ⟨h.of_change rfl (Pool.sound_shutDown h.sound) (Pool.isShutDown_shutDown _).symm
      (Pool.closes_shutDown _) fun id => .inl ⟨rfl, h.agrees id⟩, .of_sub fun _ => .inl rfl⟩

/-- A stop that ends the work as well closes tickets only. -/
theorem inStep_stop {site : Site Registry} (h : site.InStep) (lastly : Job → WorkEnd) :
    let site' : Site Registry := { site with node := site.node.stop lastly }
    site'.InStep ∧ site.Keeps site' := by
  obtain ⟨hhalt, hkeeps⟩ := inStep_halt h
  exact ⟨hhalt.of_pool (Pool.sound_endAll hhalt.sound lastly) (Pool.isShutDown_endAll ..)
    (Pool.closes_endAll lastly _), hkeeps⟩

end Site

end JobScheduling
