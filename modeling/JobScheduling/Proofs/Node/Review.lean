import JobScheduling.Proofs.Node.Calls
import JobScheduling.Proofs.Pool.Sound

/-!
# `JobScheduling.Proofs.Node.Review`: what a pass does to the held jobs

`Node.reviewHeld` examines the held jobs one after the other, and settles those that have
finished by then. Here it is described id by id. `Node.judged` is the ticket of a job after
its examination, and `Node.leaving` the outcome with which a job is let go, if it is.

The description needs that no two held jobs share a ticket. `Node.Named` says more: each
held id leads to a ticket for a job of that id.

* `getElem?_examineAll`: the tickets after the examinations.
* `run_mapEach_examine`: which jobs the examinations find to be finished or expired.
* `run_forEach_settleHeld`: what is left of the held jobs and of the records after that.
* `run_reviewHeld`: the three together, as `Node.Reviewed`.

Examining a job twice, or settling it twice, changes nothing more, so none of this depends
on the order in which the held jobs are visited.
-/

set_option autoImplicit false

namespace JobScheduling

/-- The record of a job whose execution is reported with an outcome. -/
def Record.reported (now : Nat) (outcome : Outcome) (r : Record) : Record :=
  match outcome with
  | .completed report => Registry.finished now (.done report) r
  | .failed failure => Registry.finished now (.error failure.rootCause) r
  | .cancelled => r.cancel now Node.timeoutReason true
  | .interrupted => r

/-- After the report of a job that was not interrupted its record has ended. -/
theorem Record.isFinal_reported (now : Nat) {outcome : Outcome} (r : Record)
    (ho : outcome ≠ .interrupted) : (r.reported now outcome).isFinal = true := by
  -- The end of the work ends every record that has not ended before.
  have hfinish (ending : Ending) : (Registry.finished now ending r).isFinal = true := by
    simp only [Registry.finished, finish]
    cases hr : r.stage with
    | canceling | waiting | running => cases ending <;> rfl
    | canceled | done | error => exact isFinal_of_stage hr
  cases outcome with
  | completed report => exact hfinish _
  | failed failure => exact hfinish _
  | cancelled => exact Registry.isFinal_cancel now _ r
  | interrupted => exact absurd rfl ho

/-- The registry after the outcome of a job was reported. -/
def Registry.report (now : Nat) (id : String) (outcome : Outcome) (q : Registry) : Registry :=
  match outcome with
  | .completed report => (q.finish now id (.done report)).2
  | .failed failure => (q.finish now id (.error failure.rootCause)).2
  | .cancelled => (q.cancel now id Node.timeoutReason true).2
  | .interrupted => q

/-- A report changes the record of its job only. -/
theorem Registry.find?_report (now : Nat) (id : String) (outcome : Outcome) (q : Registry)
    (k : String) :
    (q.report now id outcome).records.find? k
      = if k = id then (q.records.find? k).map (·.reported now outcome)
        else q.records.find? k := by
  cases outcome with
  | completed report => exact find?_finish ..
  | failed failure => exact find?_finish ..
  | cancelled => exact find?_cancel ..
  | interrupted =>
    show q.records.find? k = if k = id then (q.records.find? k).map (fun r => r) else _
    rw [Option.map_id', ite_self]

/-- No report is a submission. -/
@[simp]
theorem Registry.requests_report (now : Nat) (id : String) (outcome : Outcome) (q : Registry) :
    (q.report now id outcome).requests = q.requests := by
  cases outcome <;> first | rfl | exact requests_update ..

/-- No report changes how long records are kept. -/
@[simp]
theorem Registry.retention_report (now : Nat) (id : String) (outcome : Outcome) (q : Registry) :
    (q.report now id outcome).retention = q.retention := by
  cases outcome <;> first | rfl | exact retention_update ..

/-- The record of a job that is let go with an outcome, or not at all. -/
def Record.settled (now : Nat) (outcome : Option Outcome) (r : Record) : Record :=
  outcome.elim r (r.reported now)

namespace Node

variable {scan : Registry.Scan} {now : Nat} {q : Registry}

/-- Each held id leads to a ticket for a job of that id. -/
def Named (n : Node) : Prop :=
  ∀ id (m : Nat), n.held.find? id = some m → ∃ t, n.pool.tickets[m]? = some t ∧ t.job.id = id

/-- The ticket under which a job is held. -/
theorem ticket?_eq_some_iff {n : Node} {id : String} {t : Ticket} :
    n.ticket? id = some t ↔ ∃ m : Nat, n.held.find? id = some m ∧ n.pool.tickets[m]? = some t :=
  Option.bind_eq_some_iff

/-- A node that starts has a new pool. -/
theorem exists_of_new {settings : Settings} {retention : Option Nat} {priority : Priority}
    {work : Option (Job → Work)} {n : Node}
    (h : Node.new settings retention priority work = .ok n) :
    settings.retentionFault? retention = none ∧
      ∃ work pool, Pool.new settings.pool work priority = .ok pool ∧ n = { settings, pool } := by
  -- A node starts if it has work, if its settings allow the retention, and if its pool starts.
  cases work with
  | none => cases h
  | some work =>
    simp only [Node.new] at h
    split at h
    · cases h
    split at h
    · cases h
    next hfault =>
      cases hpool : Pool.new settings.pool work priority with
      | error e =>
        rw [hpool] at h
        cases h
      | ok pool =>
        rw [hpool] at h
        cases h
        exact ⟨hfault, work, pool, hpool, rfl⟩

/-- A node that has just started: it goes on, and has not used its pool. -/
theorem new_eq_ok {settings : Settings} {retention : Option Nat} {priority : Priority}
    {work : Option (Job → Work)} {n : Node}
    (h : Node.new settings retention priority work = .ok n) :
    settings.retentionFault? retention = none ∧ n.settings = settings ∧ n.held = {} ∧
      n.isShutDown = false ∧ n.pool.tickets = [] ∧ n.pool.isShutDown = false ∧ n.pool.Sound := by
  obtain ⟨hfault, work, pool, hpool, rfl⟩ := exists_of_new h
  have hsound := Pool.sound_of_new hpool
  unfold Pool.new at hpool
  split at hpool <;> cases hpool
  exact ⟨hfault, rfl, rfl, rfl, rfl, rfl, hsound⟩

/-! ### One examination -/

/-- Whether an examination finds a held job overdue. A job without a record is not
abandoned. -/
def isDue (now : Nat) (q : Registry) (id : String) (t : Ticket) (n : Node) : Bool :=
  n.isTimedOut now t.job ||
    (q.records.find? id).any fun r => n.settings.abandonedSecs * 1000 < elapsed now r.lastCheck

/-- The ticket of a held job after its examination. -/
def judged (now : Nat) (q : Registry) (id : String) (n : Node) (t : Ticket) : Ticket :=
  if t.isFinished = false ∧ n.isDue now q id t = true then t.cancel.2 else t

/-- What an examination finds. -/
def finding (now : Nat) (q : Registry) (id : String) (n : Node) : Finding :=
  match n.ticket? id with
  | none => .active
  | some t =>
    if t.isFinished then .finished else if n.isDue now q id t then .expired else .active

/-- The node after an examination. -/
def examined (now : Nat) (q : Registry) (n : Node) (id : String) : Node :=
  if n.finding now q id = .expired then n.cancelTicket id else n

/-- The judgement over a ticket at most cancels it. -/
theorem closes_judged (now : Nat) (q : Registry) (id : String) (n : Node) (t : Ticket) :
    t.Closes (n.judged now q id t) := by
  simp only [judged]
  split
  · exact Ticket.closes_cancel t
  · exact .refl t

/-- A second examination changes nothing. -/
theorem judged_judged (id : String) (n : Node) (t : Ticket) :
    n.judged now q id (n.judged now q id t) = n.judged now q id t := by
  by_cases h : t.isFinished = false ∧ n.isDue now q id t = true
  · rw [show n.judged now q id t = t.cancel.2 from if_pos h]
    exact (closes_judged now q id n t.cancel.2).eq_of_isFinished (Ticket.isFinished_cancel t)
  · rw [show n.judged now q id t = t from if_neg h, show n.judged now q id t = t from if_neg h]

/-- An examination depends on the settings of the node only. -/
theorem judged_congr {n n' : Node} (h : n'.settings = n.settings) (id : String) (t : Ticket) :
    n'.judged now q id t = n.judged now q id t := by
  unfold judged isDue isTimedOut
  rw [h]

/-- A job is found active exactly when its ticket has not finished after the examination. -/
theorem finding_ne_active_iff (now : Nat) (q : Registry) (id : String) (n : Node) :
    n.finding now q id ≠ .active ↔
      (n.ticket? id).any (fun t => (n.judged now q id t).isFinished) = true := by
  simp only [finding, judged]
  cases n.ticket? id with
  | none => simp
  | some t =>
    cases hf : t.isFinished with
    | true => simp [hf]
    | false => cases hd : n.isDue now q id t <;> simp [hf, hd]

/-- Whether a held job is abandoned; the call for it changes nothing. -/
theorem run_isAbandoned (id : String) (site : Site Registry) :
    (isAbandoned (Registry.service scan now) id).run site
      = (.ok ((site.queue.records.find? id).any fun r =>
          site.node.settings.abandonedSecs * 1000 < elapsed now r.lastCheck), site) := by
  simp only [isAbandoned]
  rw [Act.run_bind_ok (Act.run_node site),
    Act.run_bind_ok (Act.run_attempt (Registry.run_sinceCheck scan now site id))]
  simp only [Registry.sinceCheck]
  cases site.queue.records.find? id <;> rfl

/-- Whether a held job is overdue; the queue is asked only if the job has not timed out. -/
theorem run_isOverdue (id : String) (t : Ticket) (site : Site Registry) :
    (isOverdue (Registry.service scan now) now id t).run site
      = (.ok (site.node.isDue now site.queue id t), site) := by
  simp only [isOverdue, isDue]
  rw [Act.run_bind_ok (Act.run_node site)]
  cases site.node.isTimedOut now t.job with
  | true => rfl
  | false =>
    rw [if_neg Bool.false_ne_true, Bool.false_or]
    exact run_isAbandoned id site

/-- An examination answers what it finds and cancels the ticket of an expired job. -/
theorem run_examine (id : String) (site : Site Registry) :
    (examine (Registry.service scan now) now id).run site
      = (.ok (id, site.node.finding now site.queue id),
          { site with node := site.node.examined now site.queue id }) := by
  unfold examine examined finding
  rw [Act.run_bind_ok (Act.run_node site)]
  -- No ticket, a ticket that has finished, or one that is judged by the clock and the last look at
  -- its record.
  cases ht : site.node.ticket? id with
  | none => rfl
  | some t =>
    cases hf : t.isFinished with
    | true => simp [hf]
    | false =>
      simp only [hf, Bool.false_eq_true, if_false]
      rw [Act.run_bind_ok (run_isOverdue id t site), Act.run_bind_ok (Act.run_node site)]
      simp only [ht, Option.any_some, hf, Bool.false_eq_true, if_false]
      cases site.node.isDue now site.queue id t <;> rfl

/-! ### All examinations -/

/-- The node after the examinations of some jobs. -/
def examineAll (now : Nat) (q : Registry) (ids : List String) (n : Node) : Node :=
  ids.foldl (examined now q) n

/-- What the cancellation of a ticket keeps, all examinations keep. -/
theorem examineAll_induction {P : Node → Prop}
    (hcancel : ∀ n (m : Nat), P n → P { n with pool := (n.pool.cancel m).2 })
    (ids : List String) {n : Node} (h : P n) : P (n.examineAll now q ids) := by
  simp only [examineAll]
  -- By induction on the jobs that are examined. Each examination is a cancellation or nothing.
  induction ids generalizing n with
  | nil => exact h
  | cons id ids ih =>
    refine ih ?_
    simp only [examined]
    split
    · simp only [cancelTicket]
      split
      · exact h
      · exact hcancel n _ h
    · exact h

/-- The examination lets go of no job. -/
@[simp]
theorem held_examineAll (ids : List String) (n : Node) :
    (n.examineAll now q ids).held = n.held :=
  examineAll_induction (P := fun n' => n'.held = n.held) (fun _ _ h => h) ids rfl

/-- The examination leaves the settings alone. -/
@[simp]
theorem settings_examineAll (ids : List String) (n : Node) :
    (n.examineAll now q ids).settings = n.settings :=
  examineAll_induction (P := fun n' => n'.settings = n.settings) (fun _ _ h => h) ids rfl

/-- The tickets after one was cancelled. -/
theorem getElem?_cancel (p : Pool) (k m : Nat) :
    (p.cancel k).2.tickets[m]?
      = if k = m then p.tickets[m]?.map fun t => t.cancel.2 else p.tickets[m]? := by
  simp only [Pool.cancel]
  split
  next hnone =>
    split
    next hk => rw [← hk, hnone]; rfl
    next => rfl
  next => exact Pool.getElem?_modify ..

/-- A change that leaves the held jobs alone, and each ticket to its job. -/
theorem Named.of_follows {n n' : Node} (h : n.Named) (hheld : n'.held = n.held)
    (hfollows : n.pool.Follows n'.pool) : n'.Named := by
  intro id m hm
  rw [hheld] at hm
  obtain ⟨t, ht, hid⟩ := h id m hm
  obtain ⟨t', ht', hf⟩ := hfollows.ticket ht
  exact ⟨t', ht', hf.job ▸ hid⟩

/-- A change that closes tickets and leaves the held jobs alone. -/
theorem Named.of_closes {n n' : Node} (h : n.Named) (hheld : n'.held = n.held)
    (hcloses : n.pool.Closes n'.pool) : n'.Named :=
  h.of_follows hheld hcloses.follows

/-- The examination only cancels. -/
theorem closes_examineAll (ids : List String) (n : Node) :
    n.pool.Closes (n.examineAll now q ids).pool :=
  examineAll_induction (P := fun n' => n.pool.Closes n'.pool)
    (fun n' m h => h.trans (Pool.closes_cancel m n'.pool)) ids (.of_eq rfl)

/-- The tickets after one examination. -/
theorem getElem?_examined {n : Node} (h : n.Named) (id : String) (m : Nat) :
    (n.examined now q id).pool.tickets[m]?
      = n.pool.tickets[m]?.map fun t =>
          if t.job.id = id ∧ n.held.find? id = some m then n.judged now q id t else t := by
  unfold examined finding
  cases hk : n.held.find? id with
  | none =>
    rw [show n.ticket? id = none by unfold ticket?; rw [hk]; rfl]
    simp
  | some k =>
    obtain ⟨t, ht, hid⟩ := h id k hk
    rw [ticket?_eq_some_iff.2 ⟨k, hk, ht⟩]
    -- The ticket is cancelled exactly when it has not finished and is overdue.
    by_cases hdue : t.isFinished = false ∧ n.isDue now q id t = true
    · have hcancel : n.cancelTicket id = { n with pool := (n.pool.cancel k).2 } := by
        simp only [cancelTicket]
        rw [hk]
      simp only [hdue.1, hdue.2, Bool.false_eq_true, if_false, if_true, hcancel]
      rw [getElem?_cancel]
      split
      next hm =>
        subst hm
        rw [ht]
        simp [hid, judged, hdue]
      next hm => simp [hm]
    · have hsame : n.judged now q id t = t := if_neg hdue
      have hactive : (if t.isFinished = true then Finding.finished
          else if n.isDue now q id t = true then .expired else .active) ≠ .expired := by
        cases hf : t.isFinished <;> simp_all
      rw [if_neg hactive]
      by_cases hm : k = m
      · subst hm
        rw [ht]
        simp [hsame]
      · simp [hm]

/-- The examinations change the ticket under which an examined job is held, and no other. -/
theorem getElem?_examineAll (ids : List String) {n : Node} (h : n.Named) (m : Nat) :
    (n.examineAll now q ids).pool.tickets[m]?
      = n.pool.tickets[m]?.map fun t =>
          if t.job.id ∈ ids ∧ n.held.find? t.job.id = some m then n.judged now q t.job.id t
          else t := by
  induction ids generalizing n with
  | nil => simp [examineAll]
  | cons id ids ih =>
    have hsettings : (n.examined now q id).settings = n.settings := settings_examineAll [id] n
    have hheld : (n.examined now q id).held = n.held := held_examineAll [id] n
    have hnamed : (n.examined now q id).Named := h.of_closes hheld (closes_examineAll [id] n)
    refine (ih hnamed).trans ?_
    -- Under the ticket of a job that is in the head and in the tail, two examinations are one.
    rw [getElem?_examined h, Option.map_map, hheld]
    congr 1
    funext t
    simp only [Function.comp_apply, judged_congr hsettings]
    by_cases hid : t.job.id = id ∧ n.held.find? id = some m
    · obtain ⟨rfl, hm⟩ := hid
      -- The job is examined once, or it is examined again in the tail.
      have hjob := (closes_judged now q t.job.id n t).job
      simp only [hm, and_self, if_true, hjob, List.mem_cons, true_or, and_true, judged_judged,
        ite_self]
    · rw [if_neg hid]
      by_cases hne : t.job.id = id
      · have hm : n.held.find? t.job.id ≠ some m := fun hm => hid ⟨hne, hne ▸ hm⟩
        simp [hm]
      · simp [hne]

/-- A held job after the examinations. -/
theorem ticket?_examineAll (now : Nat) (q : Registry) (ids : List String) {n : Node}
    (h : n.Named) (id : String) :
    (n.examineAll now q ids).ticket? id
      = (n.ticket? id).map fun t => if id ∈ ids then n.judged now q id t else t := by
  simp only [ticket?]
  rw [held_examineAll]
  cases hm : n.held.find? id with
  | none => rfl
  | some m =>
    obtain ⟨t, ht, rfl⟩ := h id m hm
    simp [getElem?_examineAll ids h, ht, hm]

/-- Whether the ticket of a held job has finished. -/
def hasFinished (n : Node) (id : String) : Bool := (n.ticket? id).any (·.isFinished)

/-- The examinations of a list of jobs: which of them are not found active. -/
theorem run_mapEach_examine (scan : Registry.Scan) (now : Nat) (ids : List String)
    (site : Site Registry) (h : site.node.Named) :
    ∃ findings, (Act.mapEach (examine (Registry.service scan now) now) ids).run site
        = (.ok findings,
            { site with node := site.node.examineAll now site.queue ids }) ∧
      (findings.filter fun finding => finding.2 ≠ .active).map Prod.fst
        = ids.filter (site.node.examineAll now site.queue ids).hasFinished := by
  -- By induction on the jobs. What is found for one of them stays true to the end, since no ticket
  -- opens again.
  induction ids generalizing site with
  | nil => exact ⟨[], rfl, rfl⟩
  | cons id ids ih =>
    have hnamed : (site.node.examined now site.queue id).Named :=
      h.of_closes (held_examineAll [id] _) (closes_examineAll [id] _)
    obtain ⟨findings, hrun, hfindings⟩ :=
      ih { site with node := site.node.examined now site.queue id } hnamed
    refine ⟨(id, site.node.finding now site.queue id) :: findings, ?_, ?_⟩
    · simp only [Act.mapEach]
      rw [Act.run_bind_ok (run_examine id site), Act.run_bind_ok hrun]
      rfl
    · -- The head is listed as finished if it has finished after all the examinations.
      have hhead := finding_ne_active_iff now site.queue id site.node
      have hlast := ticket?_examineAll now site.queue (id :: ids) h id
      simp only [List.mem_cons_self, if_true] at hlast
      have hfound : (site.node.finding now site.queue id ≠ .active) ↔
          (site.node.examineAll now site.queue (id :: ids)).hasFinished id = true := by
        rw [hhead, hasFinished, hlast, Option.any_map]
      by_cases hf : site.node.finding now site.queue id ≠ .active
      · rw [List.filter_cons_of_pos (by simpa using hf), List.map_cons, hfindings,
          List.filter_cons_of_pos (p := hasFinished _) (hfound.1 hf)]
        rfl
      · rw [List.filter_cons_of_neg (by simpa using hf), hfindings,
          List.filter_cons_of_neg (p := hasFinished _) (fun h => hf (hfound.2 h))]
        rfl

/-! ### Settling the finished jobs -/

/-- The outcome of a held job, once it has finished. -/
def outcome? (id : String) (n : Node) : Option Outcome := (n.ticket? id).bind (·.outcome?)

/-- The site after a job was let go and its outcome was reported. -/
def settledSite (now : Nat) (id : String) (site : Site Registry) : Site Registry where
  node := site.node.drop id
  queue := (site.node.outcome? id).elim site.queue fun outcome => site.queue.report now id outcome

/-- A finished job is let go, and its outcome is reported. -/
theorem run_settleHeld (id : String) (site : Site Registry) :
    (settleHeld (Registry.service scan now) id).run site = (.ok (), settledSite now id site) := by
  simp only [settleHeld, settledSite, outcome?]
  rw [Act.run_bind_ok (Act.run_node site), Act.run_bind_ok (Act.run_change _ site)]
  -- One request at most, and a refusal of it is caught.
  cases (site.node.ticket? id).bind (·.outcome?) with
  | none => rfl
  | some outcome =>
    cases outcome with
    | completed report =>
      exact Act.run_bind_ok (Act.run_attempt (Registry.run_finish ..))
    | failed failure => exact Act.run_bind_ok (Act.run_attempt (Registry.run_finish ..))
    | cancelled => exact Act.run_bind_ok (Act.run_attempt (Registry.run_cancel ..))
    | interrupted => rfl

/-- A settled job changes the record of its id and no other. -/
theorem find?_settledSite (id : String) (site : Site Registry) (k : String) :
    (settledSite now id site).queue.records.find? k
      = (site.queue.records.find? k).map
          (·.settled now (if k = id then site.node.outcome? id else none)) := by
  simp only [settledSite]
  cases ho : site.node.outcome? id with
  | none =>
    rw [ite_self]
    exact Option.map_id'.symm
  | some outcome =>
    refine (Registry.find?_report ..).trans ?_
    split
    · rfl
    · exact Option.map_id'.symm

/-- Once a job was let go, it has no outcome on the node. -/
theorem outcome?_drop (id : String) (n : Node) (k : String) :
    (n.drop id).outcome? k = if k = id then none else n.outcome? k := by
  simp only [outcome?, ticket?, drop]
  rw [Table.find?_erase]
  split <;> rfl

/-- The finished jobs are let go one after the other. The pool is not concerned. -/
theorem run_forEach_settleHeld (scan : Registry.Scan) (now : Nat) (ids : List String)
    (site : Site Registry) :
    ∃ held queue, (Act.forEach (settleHeld (Registry.service scan now)) ids).run site
        = (.ok (), { node := { site.node with held }, queue }) ∧
      (∀ id, held.find? id = if id ∈ ids then none else site.node.held.find? id) ∧
      (∀ id, queue.records.find? id = (site.queue.records.find? id).map
        (·.settled now (if id ∈ ids then site.node.outcome? id else none))) ∧
      queue.requests = site.queue.requests ∧ queue.retention = site.queue.retention := by
  induction ids generalizing site with
  | nil =>
    refine ⟨site.node.held, site.queue, rfl, ?_, ?_, rfl, rfl⟩
    · intro id
      simp
    · intro id
      simp only [List.not_mem_nil, if_false]
      exact Option.map_id'.symm
  | cons id ids ih =>
    obtain ⟨held, queue, hrun, hheld, hrecords, hrequests, hretention⟩ :=
      ih (settledSite now id site)
    refine ⟨held, queue, (Act.run_forEach_cons (run_settleHeld id site)).trans hrun, ?_, ?_, ?_, ?_⟩
    · intro k
      rw [hheld, show (settledSite now id site).node.held = site.node.held.erase id from rfl,
        Table.find?_erase]
      by_cases hk : k = id <;> simp [hk]
    · intro k
      rw [hrecords, find?_settledSite, Option.map_map,
        show (settledSite now id site).node = site.node.drop id from rfl, outcome?_drop]
      by_cases hk : k = id
      · subst hk
        -- A second visit finds the job gone.
        simp only [if_true, ite_self, List.mem_cons, true_or]
        rfl
      · simp only [hk, if_false, List.mem_cons, false_or]
        rfl
    · rw [hrequests]
      simp only [settledSite]
      cases site.node.outcome? id <;> simp
    · rw [hretention]
      simp only [settledSite]
      cases site.node.outcome? id <;> simp

/-! ### The whole review -/

/-- The outcome with which a review that visits some jobs lets go of a held job, if it
does. -/
def leaving (now : Nat) (q : Registry) (ids : List String) (n : Node) (id : String) :
    Option Outcome :=
  if id ∈ ids then (n.ticket? id).bind fun t => (n.judged now q id t).outcome? else none

/-- A review that visits a held job does not let go of it exactly when its ticket has not
finished and the job is not overdue. -/
theorem leaving_eq_none_iff {n : Node} {ids : List String} {id : String} {t : Ticket}
    (hid : id ∈ ids) (ht : n.ticket? id = some t) :
    n.leaving now q ids id = none ↔ t.isFinished = false ∧ n.isDue now q id t = false := by
  -- Only jobs that are visited can leave, and this one has the ticket that was judged.
  have hleaving : n.leaving now q ids id = (n.judged now q id t).outcome? := by
    simp only [leaving]
    rw [if_pos hid, ht]
    rfl
  have hjudged : n.leaving now q ids id = none ↔ (n.judged now q id t).isFinished = false := by
    rw [hleaving, Ticket.isFinished, Option.isSome_eq_false_iff, Option.isNone_iff_eq_none]
  rw [hjudged]
  simp only [judged]
  cases hf : t.isFinished with
  | true => simp [hf]
  | false => cases hd : n.isDue now q id t <;> simp [hf]

/-- A job that is not held is not let go. -/
theorem leaving_of_free {n : Node} {ids : List String} {id : String}
    (h : n.held.find? id = none) : n.leaving now q ids id = none := by
  simp only [leaving, ticket?]
  rw [h]
  exact ite_self _

/-- A job that is let go was visited, and its ticket has finished after the examination. -/
theorem leaving_eq_some {n : Node} {ids : List String} {id : String} {outcome : Outcome}
    (h : n.leaving now q ids id = some outcome) :
    id ∈ ids ∧ ∃ t, n.ticket? id = some t ∧ (n.judged now q id t).outcome? = some outcome := by
  unfold leaving at h
  split at h
  next hid => exact ⟨hid, Option.bind_eq_some_iff.1 h⟩
  next => cases h

/-- A visited job whose ticket has finished before is let go with the outcome of the ticket. -/
theorem leaving_of_outcome? {n : Node} {ids : List String} {id : String} {t : Ticket}
    {outcome : Outcome} (hid : id ∈ ids) (ht : n.ticket? id = some t)
    (ho : t.outcome? = some outcome) : n.leaving now q ids id = some outcome := by
  have hjudged : n.judged now q id t = t :=
    (closes_judged now q id n t).eq_of_isFinished (Ticket.isFinished_of_outcome? ho)
  simp only [leaving]
  rw [if_pos hid, ht, Option.bind_some, hjudged, ho]

/-- What no part of a pass changes. -/
structure Frame (site site' : Site Registry) : Prop where
  settings : site'.node.settings = site.node.settings
  isShutDown : site'.node.isShutDown = site.node.isShutDown
  poolIsShutDown : site'.node.pool.isShutDown = site.node.pool.isShutDown
  sound : site.node.pool.Sound → site'.node.pool.Sound
  requests : site'.queue.requests = site.queue.requests
  retention : site'.queue.retention = site.queue.retention

/-- A site that stays as it is changes no part. -/
theorem Frame.refl (site : Site Registry) : Frame site site :=
  ⟨rfl, rfl, rfl, fun h => h, rfl, rfl⟩

/-- What stays the same twice stays the same. -/
theorem Frame.trans {site site' site'' : Site Registry} (h : Frame site site')
    (h' : Frame site' site'') : Frame site site'' where
  settings := h'.settings.trans h.settings
  isShutDown := h'.isShutDown.trans h.isShutDown
  poolIsShutDown := h'.poolIsShutDown.trans h.poolIsShutDown
  sound := h'.sound ∘ h.sound
  requests := h'.requests.trans h.requests
  retention := h'.retention.trans h.retention

/-- What a review that visits some of the held jobs makes of a site. -/
structure Reviewed (now : Nat) (ids : List String) (site site' : Site Registry) : Prop extends
    Frame site site' where
  tickets : ∀ m : Nat, site'.node.pool.tickets[m]? = site.node.pool.tickets[m]?.map fun t =>
    if t.job.id ∈ ids ∧ site.node.held.find? t.job.id = some m then
      site.node.judged now site.queue t.job.id t
    else t
  closes : site.node.pool.Closes site'.node.pool
  held : ∀ id, site'.node.held.find? id
    = if (site.node.leaving now site.queue ids id).isSome then none
      else site.node.held.find? id
  records : ∀ id, site'.queue.records.find? id
    = (site.queue.records.find? id).map (·.settled now (site.node.leaving now site.queue ids id))

/-- A job that is not let go stays held, and its record as it is. -/
theorem Reviewed.of_stays {ids : List String} {site site' : Site Registry}
    (h : Reviewed now ids site site') {id : String}
    (hstays : site.node.leaving now site.queue ids id = none) :
    site'.node.held.find? id = site.node.held.find? id ∧
      site'.queue.records.find? id = site.queue.records.find? id := by
  rw [h.held, h.records, hstays]
  exact ⟨rfl, Option.map_id'⟩

/-- No job is let go as interrupted while the pool goes on. -/
theorem Reviewed.leaving_ne_interrupted {ids : List String} {site site' : Site Registry}
    (h : Reviewed now ids site site') (hnamed : site.node.Named)
    (hsound : site.node.pool.Sound) (hgoesOn : site.node.pool.isShutDown = false) {id : String}
    {outcome : Outcome} (hleaving : site.node.leaving now site.queue ids id = some outcome) :
    outcome ≠ .interrupted := by
  obtain ⟨hid, t, ht, hout⟩ := leaving_eq_some hleaving
  obtain ⟨m, hm, htm⟩ := ticket?_eq_some_iff.1 ht
  obtain ⟨t', ht', hjob⟩ := hnamed id m hm
  rw [htm] at ht'
  cases ht'
  have hjudged : site'.node.pool.tickets[m]? = some (site.node.judged now site.queue id t) := by
    rw [h.tickets, htm, Option.map_some, hjob, if_pos ⟨hid, hm⟩]
  -- Only the stop of the pool interrupts a ticket.
  rintro rfl
  have hdown := (h.sound hsound).interrupted m _ hjudged hout
  rw [h.poolIsShutDown, hgoesOn] at hdown
  cases hdown

/-- What changes of a node when no more is done than to leave chores to its workers. -/
structure Tidied (n n' : Node) : Prop where
  settings : n'.settings = n.settings
  isShutDown : n'.isShutDown = n.isShutDown
  held : n'.held = n.held
  tickets : n'.pool.tickets = n.pool.tickets
  poolIsShutDown : n'.pool.isShutDown = n.pool.isShutDown
  sound : n.pool.Sound → n'.pool.Sound

/-- To do nothing is to do no more than schedule a purge. -/
theorem Tidied.refl (n : Node) : n.Tidied n := ⟨rfl, rfl, rfl, rfl, rfl, fun h => h⟩

/-- Leaving a purge to the workers does not concern the tickets. -/
theorem tidied_schedulePurge (n : Node) : n.Tidied n.schedulePurge := by
  simp only [schedulePurge]
  split
  next pool hpool =>
    refine ⟨rfl, rfl, rfl, ?_, ?_, fun h => Pool.sound_schedulePurge h hpool⟩ <;>
      (unfold Pool.schedulePurge at hpool; split at hpool <;> cases hpool; rfl)
  next => exact .refl n

/-- The jobs that are let go are the visited ones that have finished after the examinations,
and their outcomes are those of their tickets. -/
theorem leaving_eq {n : Node} (h : n.Named) (ids : List String) (id : String) :
    n.leaving now q ids id
      = if id ∈ ids.filter (n.examineAll now q ids).hasFinished then
          (n.examineAll now q ids).outcome? id
        else none := by
  unfold leaving hasFinished outcome?
  -- A ticket leaves with the outcome it has at the end of the examination, if it has one.
  by_cases hid : id ∈ ids
  · simp only [List.mem_filter, hid, true_and, if_true, ticket?_examineAll now q ids h]
    cases n.ticket? id with
    | none => rfl
    | some t =>
      simp only [Option.bind_some, Option.map_some, Option.any_some, Ticket.isFinished]
      by_cases ho : (n.judged now q id t).outcome?.isSome = true
      · exact (if_pos ho).symm
      · exact (Option.not_isSome_iff_eq_none.1 ho).trans (if_neg ho).symm
  · simp [hid]

/-- The jobs that leave are those that are listed as finished. -/
theorem isSome_leaving_iff {n : Node} (h : n.Named) (ids : List String) (id : String) :
    (n.leaving now q ids id).isSome = true
      ↔ id ∈ ids.filter (n.examineAll now q ids).hasFinished := by
  rw [leaving_eq h]
  -- What leaves is among the visited ones that have finished, and these have an outcome.
  split
  next hid =>
    have hfinished := (List.mem_filter.1 hid).2
    unfold hasFinished at hfinished
    simp only [hid, iff_true]
    simp only [outcome?]
    cases ht : (n.examineAll now q ids).ticket? id with
    | none => rw [ht] at hfinished; cases hfinished
    | some t => rw [ht] at hfinished; exact hfinished
  next hid => simp [hid]

/-- After the examinations no more has happened than that tickets were cancelled. -/
theorem frame_examineAll (ids : List String) (site : Site Registry) :
    Frame site { site with node := site.node.examineAll now q ids } where
  settings := settings_examineAll ids site.node
  isShutDown :=
    examineAll_induction (P := fun n => n.isShutDown = site.node.isShutDown) (fun _ _ h => h) ids
      rfl
  poolIsShutDown :=
    examineAll_induction (P := fun n => n.pool.isShutDown = site.node.pool.isShutDown)
      (fun n m h => (Pool.isShutDown_cancel m n.pool).trans h) ids rfl
  sound :=
    examineAll_induction (P := fun n => n.pool.Sound) (fun _ m h => Pool.sound_cancel h m) ids
  requests := rfl
  retention := rfl

/-- After the examinations those that have finished are settled, whether a purge was left to the
workers in between or not. -/
theorem run_settle_examined (scan : Registry.Scan) (now : Nat) (ids : List String)
    {site : Site Registry} (h : site.node.Named) {n : Node}
    (hn : (site.node.examineAll now site.queue ids).Tidied n) :
    ∃ site', (Act.forEach (settleHeld (Registry.service scan now))
        (ids.filter (site.node.examineAll now site.queue ids).hasFinished)).run
          { site with node := n } = (.ok (), site') ∧ Reviewed now ids site site' := by
  -- First the examination, which cancels, then the reports, which change the records.
  obtain ⟨held, queue, hrun, hheld, hrecords, hrequests, hretention⟩ :=
    run_forEach_settleHeld scan now
      (ids.filter (site.node.examineAll now site.queue ids).hasFinished) { site with node := n }
  have hexamined : Frame site { site with node := site.node.examineAll now site.queue ids } :=
    frame_examineAll ids site
  have hsettled : Frame { site with node := site.node.examineAll now site.queue ids }
      { node := { n with held }, queue } :=
    ⟨hn.settings, hn.isShutDown, hn.poolIsShutDown, hn.sound, hrequests, hretention⟩
  have houtcome (id : String) :
      n.outcome? id = (site.node.examineAll now site.queue ids).outcome? id := by
    simp only [outcome?, ticket?]
    rw [hn.held, hn.tickets]
  refine ⟨_, hrun, ⟨hexamined.trans hsettled, ?_, ?_, ?_, ?_⟩⟩
  · intro m
    rw [← getElem?_examineAll ids h m, ← hn.tickets]
  · exact (closes_examineAll ids site.node).trans (.of_eq hn.tickets)
  · intro id
    show held.find? id = _
    rw [hheld id, hn.held, held_examineAll]
    simp only [isSome_leaving_iff h]
  · intro id
    show queue.records.find? id = _
    rw [hrecords id, leaving_eq h, houtcome]

/-- A review answers, and leaves the site as `Reviewed` says. -/
theorem run_reviewHeld (scan : Registry.Scan) (now : Nat) (heldScan : Registry.Scan)
    (site : Site Registry) (h : site.node.Named) :
    ∃ site', (reviewHeld (Registry.service scan now) heldScan now).run site = (.ok (), site') ∧
      Reviewed now (heldScan site.node.held.keys) site site' := by
  generalize hids : heldScan site.node.held.keys = ids
  obtain ⟨findings, hexamine, hfindings⟩ := run_mapEach_examine scan now ids site h
  unfold reviewHeld
  rw [Act.run_bind_ok (Act.run_node site), hids, Act.run_bind_ok hexamine]
  dsimp only
  rw [hfindings]
  -- A purge is left to the workers if some job has expired.
  split
  · rw [Act.run_bind_ok (Act.run_change _ _)]
    exact run_settle_examined scan now ids h (tidied_schedulePurge _)
  · exact run_settle_examined scan now ids h (.refl _)

/-- The site after a pass: a review of the held jobs, and on a clustered node a review of the
jobs of all nodes. A node that was shut down does nothing. -/
theorem site_reconcile {σ : Type} {service : SharedQueue σ} (heldScan : Registry.Scan)
    {site reviewed : Site σ}
    (hrun : (reviewHeld service heldScan now).run site = (.ok (), reviewed)) :
    ((reconcile service heldScan now).run site).2
      = if site.node.isShutDown = true then site
        else if reviewed.node.settings.clustered = true then
          ((reviewShared service).run reviewed).2
        else reviewed := by
  -- A node that was stopped skips both parts, one that is not clustered the second.
  simp only [reconcile, pass]
  rw [Act.run_swallow, Act.run_bind_ok (Act.run_node site)]
  split
  · rfl
  · rw [Act.run_bind_ok hrun, Act.run_bind_ok (Act.run_node reviewed)]
    split <;> rfl

end Node

end JobScheduling
