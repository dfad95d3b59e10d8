import JobScheduling.Node.Pass
import JobScheduling.Proofs.Registry.Lookup

/-!
# `JobScheduling.Proofs.Node.Calls`: what the requests to a node do

Each piece of a node's work is run here next to the shared queue in memory
(`Registry.service`). The equations `run_f` say what the constructions of `Act` do when
they are run, and simplification uses them. The calls of the service never crash and leave
the calling node alone, so an equation for a call is one about the queue only.

The main facts are about what a request leaves behind, whatever it answers:

* `run_submit`, `site_submit`, `run_cancel`, `site_cancel`, `run_status_of_none`, `site_status`:
  how a request ends, and the site after it, case by case.
* `run_cancelHeld`: how an attempt to stop a held job ends, and the site after it.
* `run_hold`: what it means to take on a job.
-/

set_option autoImplicit false

namespace JobScheduling

namespace Act

variable {σ α β : Type}

/-- A value is given without a look at the site. -/
@[simp]
theorem run_pure (a : α) (site : Site σ) : (pure a : Act σ α).run site = (.ok a, site) := rfl

/-- A sequence stops where its first part does not end with a value. -/
theorem run_bind (act : Act σ α) (next : α → Act σ β) (site : Site σ) :
    (act >>= next).run site
      = match act.run site with
        | (.ok a, site) => (next a).run site
        | (.error e, site) => (.error e, site) := by
  show ExceptT.bindCont next (act site).1 (act site).2 = _
  simp only [run]
  rcases act site with ⟨a | a, site⟩ <;> rfl

/-- A sequence whose first part ends with a value. -/
theorem run_bind_ok {act : Act σ α} {next : α → Act σ β} {site site' : Site σ} {a : α}
    (h : act.run site = (.ok a, site')) : (act >>= next).run site = (next a).run site' := by
  rw [run_bind, h]

/-- To look at the node changes nothing. -/
@[simp]
theorem run_node (site : Site σ) : (node : Act σ Node).run site = (.ok site.node, site) := rfl

/-- A change of the node leaves the queue alone. -/
@[simp]
theorem run_change (f : Node → Node) (site : Site σ) :
    (change f : Act σ Unit).run site = (.ok (), { site with node := f site.node }) := rfl

/-- An attempt at work that does not crash ends with a value. -/
theorem run_attempt {act : Act σ α} {site site' : Site σ} {result : Except Error α}
    (h : act.run site = (result.mapError .refused, site')) :
    (attempt act).run site = (.ok result, site') := by
  have hrun : act site = (result.mapError .refused, site') := h
  simp only [attempt, run]
  simp only [hrun]
  cases result <;> rfl

/-- A crash is not caught by an attempt. -/
theorem run_attempt_of_crash {act : Act σ α} {site site' : Site σ} {text : String}
    (h : act.run site = (.error (.crashed text), site')) :
    (attempt act).run site = (.error (.crashed text), site') := by
  have hrun : act site = (.error (.crashed text), site') := h
  simp only [attempt, run]
  simp only [hrun]

/-- Work that is swallowed ends well, with what it left. -/
@[simp]
theorem run_swallow (act : Act σ Unit) (site : Site σ) :
    (swallow act).run site = (.ok (), (act.run site).2) := rfl

/-- A loop goes on after an element whose work ends with a value. -/
theorem run_forEach_cons {work : β → Act σ Unit} {b : β} {rest : List β} {site site' : Site σ}
    (h : (work b).run site = (.ok (), site')) :
    (forEach work (b :: rest)).run site = (forEach work rest).run site' := run_bind_ok h

/-- A loop goes on after a part of it that ends with a value. -/
theorem run_forEach_append {work : β → Act σ Unit} {before : List β} (after : List β)
    {site site' : Site σ} (h : (forEach work before).run site = (.ok (), site')) :
    (forEach work (before ++ after)).run site = (forEach work after).run site' := by
  -- By induction on the items that come first, each of which leaves a site for the next.
  induction before generalizing site with
  | nil =>
    cases h
    rfl
  | cons b before ih =>
    simp only [forEach] at h
    rw [run_bind] at h
    rcases hwork : (work b).run site with ⟨e | u, middle⟩
    · rw [hwork] at h
      cases h
    · rw [hwork] at h
      exact (run_forEach_cons hwork).trans (ih h)

end Act

namespace Registry

/-! ### The calls on the shared queue -/

section
variable (scan : Scan) (now : Nat) (site : Site Registry)

/-- A submission to the registry. -/
theorem run_add (job : Job) :
    (Act.ask (service scan now) ((service scan now).add job)).run site
      = ((site.queue.add now job).1.mapError .refused,
        { site with queue := (site.queue.add now job).2 }) := rfl

/-- A look at a record. A look from outside is noted in it. -/
theorem run_get (id : String) (external : Bool) :
    (Act.ask (service scan now) ((service scan now).get id external)).run site
      = ((site.queue.get now id external).1.mapError .refused,
        { site with queue := (site.queue.get now id external).2 }) := rfl

/-- The claim of jobs, which is not refused. -/
theorem run_startNext (n : Nat) :
    (Act.ask (service scan now) ((service scan now).startNext n)).run site
      = (.ok (site.queue.startNext now n).1,
        { site with queue := (site.queue.startNext now n).2 }) := rfl

/-- The report of an end. -/
theorem run_finish (id : String) (ending : Ending) :
    (Act.ask (service scan now) ((service scan now).finish id ending)).run site
      = ((site.queue.finish now id ending).1.mapError .refused,
        { site with queue := (site.queue.finish now id ending).2 }) := rfl

/-- A cancellation, asked for or done. -/
theorem run_cancel (id reason : String) (immediate : Bool) :
    (Act.ask (service scan now) ((service scan now).cancel id reason immediate)).run site
      = ((site.queue.cancel now id reason immediate).1.mapError .refused,
        { site with queue := (site.queue.cancel now id reason immediate).2 }) := rfl

/-- The sweep over the overdue jobs, which is not refused. -/
theorem run_cancelOverdue (timeout abandoned : Nat) (reason : String) :
    (Act.ask (service scan now) ((service scan now).cancelOverdue timeout abandoned reason)).run
        site
      = (.ok (site.queue.cancelOverdue scan now timeout abandoned reason).1,
        { site with
          queue := (site.queue.cancelOverdue scan now timeout abandoned reason).2 }) := rfl

/-- The list of the jobs that were asked to stop. -/
theorem run_toCancel :
    (Act.ask (service scan now) (service scan now).toCancel).run site
      = (.ok (site.queue.toCancel scan now).1,
        { site with queue := (site.queue.toCancel scan now).2 }) := rfl

/-- The number of the waiting records. -/
theorem run_waitingCount :
    (Act.ask (service scan now) (service scan now).waitingCount).run site
      = (.ok site.queue.waitingCount, site) := rfl

/-- A request that is not external leaves everything as it was. -/
theorem get_of_find? {id : String} {q : Registry} {r : Record}
    (hr : q.records.find? id = some r) : q.get now id false = (.ok r.status, q) := by
  unfold Registry.get
  rw [hr]
  rfl

/-- The time since the last look from outside. -/
theorem run_sinceCheck (id : String) :
    (Act.ask (service scan now) ((service scan now).sinceCheck id)).run site
      = ((site.queue.sinceCheck now id).mapError .refused, site) := rfl

end

end Registry

namespace Node

variable (scan : Registry.Scan) (now : Nat)

/-! ### Taking on jobs and letting go of them -/

/-- What a node has become when it has taken on a job: its pool has given out one more
ticket, and the job is held under it. -/
theorem take_eq_ok {job : Job} {n n' : Node} (h : n.take job = .ok n') :
    ∃ ticket pool, n.pool.submit job = .ok (ticket, pool) ∧
      n' = { n with pool, held := n.held.insert job.id ticket } := by
  unfold take at h
  split at h
  · cases h
  next ticket pool hsubmit =>
    cases h
    exact ⟨ticket, pool, hsubmit, rfl⟩

/-- A node takes on every job until its pool is stopped. -/
theorem exists_take_eq_ok {n : Node} {job : Job} {ticket : Nat} {pool : Pool}
    (h : n.pool.submit job = .ok (ticket, pool)) :
    n.take job = .ok { n with pool, held := n.held.insert job.id ticket } := by
  simp only [take]
  rw [h]

/-- A job is taken on, or the node refuses it and stays as it is. -/
theorem run_hold {σ : Type} (job : Job) (site : Site σ) :
    (hold job).run site
      = match site.node.take job with
        | .error e => (.error (.refused e), site)
        | .ok n => (.ok (), { site with node := n }) := by
  simp only [hold]
  rw [Act.run_bind_ok (Act.run_node site)]
  cases site.node.take job <;> rfl

/-- The job of an id is let go, whether its ticket has finished or not. -/
def letGo (id : String) (n : Node) : Node := (n.cancelTicket id).drop id

/-- A held job that is let go has its ticket cancelled. -/
theorem letGo_eq {id : String} {n : Node} {m : Nat} (h : n.held.find? id = some m) :
    n.letGo id = { n with pool := (n.pool.cancel m).2, held := n.held.erase id } := by
  simp only [letGo, cancelTicket]
  rw [h]
  rfl

/-- A held job is stopped; that it was held is the answer, unless the queue refuses. -/
theorem run_cancelHeld (id reason : String) (site : Site Registry) :
    (cancelHeld (Registry.service scan now) id reason).run site
      = if site.node.held.contains id = true then
          (((site.queue.cancel now id reason true).1.map fun _ => true).mapError .refused,
            { node := site.node.letGo id, queue := (site.queue.cancel now id reason true).2 })
        else (.ok false, site) := by
  simp only [cancelHeld]
  rw [Act.run_bind_ok (Act.run_node site)]
  split
  · -- The node has let go by the time the queue answers, so a refusal does not bring the job back.
    rw [Act.run_bind_ok (Act.run_change _ site), Act.run_bind, Registry.run_cancel]
    dsimp only
    cases (site.queue.cancel now id reason true).1 <;> rfl
  · rfl

/-! ### Requests -/

/-- How a submission goes on once the node has no reason to refuse the job. It is recorded. When
the node runs its jobs itself it also takes the job on, and if it cannot, the record is
canceled. -/
def recorded (job : Job) (site : Site Registry) : Except Fault Unit × Site Registry :=
  let q := (site.queue.add now job).2
  match (site.queue.add now job).1 with
  | .error e => (.error (.refused e), { site with queue := q })
  | .ok () =>
    if site.node.settings.clustered then (.ok (), { site with queue := q })
    else
      match site.node.take job with
      | .ok n => (.ok (), { node := n, queue := q })
      | .error e => (.error (.refused e),
          { site with queue := (q.cancel now job.id cancelReason true).2 })

/-- Three checks come before a job is recorded, and a job that fails one leaves no trace. -/
theorem run_submit_eq (job : Job) (site : Site Registry) :
    (submit (Registry.service scan now) job).run site
      = if site.node.isShutDown then (.error (.refused .poolShutDown), site)
        else if job.hasBlankOwner then (.error (.refused (.accessDenied job.id)), site)
        else if site.node.settings.maxWaiting ≤ site.queue.waitingCount then
          (.error (.refused (.capacityExceeded site.queue.waitingCount
            site.node.settings.maxWaiting)), site)
        else recorded now job site := by
  unfold submit
  rw [Act.run_bind_ok (Act.run_node site)]
  split
  · rfl
  split
  · rfl
  rw [Act.run_bind_ok (Registry.run_waitingCount scan now site),
    Act.run_bind_ok (Act.run_node site)]
  dsimp only
  split
  · rfl
  rw [Act.run_bind, Registry.run_add]
  simp only [recorded]
  cases hadd : (site.queue.add now job).1 with
  | error e => rfl
  | ok u =>
    show (Act.node >>= fun _ => _ : Act Registry Unit).run
      { site with queue := (site.queue.add now job).2 } = _
    rw [Act.run_bind_ok (Act.run_node _)]
    split
    · rfl
    -- The node runs the job itself, if its pool accepts it.
    have hhold := run_hold job { site with queue := (site.queue.add now job).2 }
    cases htake : site.node.take job with
    | ok n =>
      have hok : (hold job).run { site with queue := (site.queue.add now job).2 }
          = ((Except.ok () : Except Error Unit).mapError .refused,
            { node := n, queue := (site.queue.add now job).2 }) := by
        rw [hhold, htake]
        rfl
      exact Act.run_bind_ok (Act.run_attempt hok)
    | error e =>
      have herror : (hold job).run { site with queue := (site.queue.add now job).2 }
          = ((Except.error e : Except Error Unit).mapError .refused,
            { site with queue := (site.queue.add now job).2 }) := by
        rw [hhold, htake]
        rfl
      rw [Act.run_bind_ok (Act.run_attempt herror),
        Act.run_bind_ok (Act.run_attempt (Registry.run_cancel ..))]
      rfl

/-- How a submission ends, and the site after it. Before the job is recorded nothing has
changed. When the node runs its jobs itself it also takes the job on, and if it cannot, the
record is canceled. -/
theorem run_submit (job : Job) (site : Site Registry) :
    let run := (submit (Registry.service scan now) job).run site
    let q := (site.queue.add now job).2
    (∃ e, run = (.error (.refused e), site)) ∨
      (∃ e, (site.queue.add now job).1 = .error e ∧
        run = (.error (.refused e), { site with queue := q })) ∨
      (site.node.settings.clustered = true ∧ (site.queue.add now job).1 = .ok () ∧
        run = (.ok (), { site with queue := q })) ∨
      (site.node.settings.clustered = false ∧ (site.queue.add now job).1 = .ok () ∧
        ((∃ n, site.node.take job = .ok n ∧ run = (.ok (), { node := n, queue := q })) ∨
          ∃ e, site.node.take job = .error e ∧ run = (.error (.refused e),
            { site with queue := (q.cancel now job.id cancelReason true).2 }))) := by
  intro run q
  have hrun : run = _ := run_submit_eq scan now job site
  split at hrun
  · exact .inl ⟨_, hrun⟩
  split at hrun
  · exact .inl ⟨_, hrun⟩
  split at hrun
  · exact .inl ⟨_, hrun⟩
  -- Past its three checks, the submission depends on the answer of the queue.
  right
  simp only [recorded] at hrun
  cases hadd : (site.queue.add now job).1 with
  | error e =>
    rw [hadd] at hrun
    exact .inl ⟨e, rfl, hrun⟩
  | ok u =>
    rw [hadd] at hrun
    dsimp only at hrun
    split at hrun
    next hclustered => exact .inr (.inl ⟨hclustered, rfl, hrun⟩)
    next hclustered =>
      refine .inr (.inr ⟨by simpa using hclustered, rfl, ?_⟩)
      cases htake : site.node.take job with
      | ok n =>
        rw [htake] at hrun
        exact .inl ⟨n, rfl, hrun⟩
      | error e =>
        rw [htake] at hrun
        exact .inr ⟨e, rfl, hrun⟩

/-- A submission changes nothing, or it records the job. When the node runs its jobs itself
it also takes the job on, and if it cannot, the record is canceled. -/
theorem site_submit (job : Job) (site : Site Registry) :
    let site' := ((submit (Registry.service scan now) job).run site).2
    let q := (site.queue.add now job).2
    site' = site ∨
      ((site.node.settings.clustered = true ∨ (site.queue.add now job).1 ≠ .ok ()) ∧
        site' = { site with queue := q }) ∨
      (site.node.settings.clustered = false ∧ (site.queue.add now job).1 = .ok () ∧
        ((∃ n, site.node.take job = .ok n ∧ site' = { node := n, queue := q }) ∨
          (∃ e, site.node.take job = .error e) ∧
            site' = { site with queue := (q.cancel now job.id cancelReason true).2 })) := by
  intro site' q
  -- The same cases without the answers.
  rcases run_submit scan now job site with ⟨e, hrun⟩ | ⟨e, hadd, hrun⟩ |
    ⟨hclustered, -, hrun⟩ | ⟨hclustered, hadd, ⟨n, htake, hrun⟩ | ⟨e, htake, hrun⟩⟩
  · exact .inl (congrArg Prod.snd hrun)
  · exact .inr (.inl ⟨.inr (by rw [hadd]; nofun), congrArg Prod.snd hrun⟩)
  · exact .inr (.inl ⟨.inl hclustered, congrArg Prod.snd hrun⟩)
  · exact .inr (.inr ⟨hclustered, hadd, .inl ⟨n, htake, congrArg Prod.snd hrun⟩⟩)
  · exact .inr (.inr ⟨hclustered, hadd, .inr ⟨⟨e, htake⟩, congrArg Prod.snd hrun⟩⟩)

/-- A caller to whom a job does not answer is refused, and nothing changes. -/
theorem run_authorize_of_denies {job : Job} {credential : Option String}
    (h : job.admits credential = false) (site : Site Registry) :
    (authorize job credential).run site
      = (.error (.refused (.accessDenied job.id)), site) := by
  simp only [authorize]
  rw [h]
  rfl

/-- A caller to whom the job answers passes. -/
theorem run_authorize_of_admits {job : Job} {credential : Option String}
    (h : job.admits credential = true) (site : Site Registry) :
    (authorize job credential).run site = (.ok (), site) := by
  simp only [authorize]
  rw [if_pos h]
  rfl

/-- A job with a record is asked to stop. If the node holds it, it lets go of it at once. -/
theorem run_stop {id : String} {site : Site Registry} {r : Record}
    (hr : site.queue.records.find? id = some r) :
    let q := (site.queue.cancel now id cancelReason false).2
    (Act.ask (Registry.service scan now)
        ((Registry.service scan now).cancel id cancelReason false) >>= fun _ =>
      cancelHeld (Registry.service scan now) id cancelReason >>= fun _ => pure ()).run site
      = (.ok (), if site.node.held.contains id = true then
          { node := site.node.letGo id, queue := (q.cancel now id cancelReason true).2 }
        else { site with queue := q }) := by
  intro q
  -- The record was found, and it is still there for the second request.
  have hasked {q : Registry} {r : Record} (hr : q.records.find? id = some r)
      (immediate : Bool) : (q.cancel now id cancelReason immediate).1 = .ok () := by
    simp only [Registry.cancel, Registry.update]
    rw [hr]
  have hcancel := Registry.run_cancel scan now site id cancelReason false
  rw [hasked hr] at hcancel
  have hafter : q.records.find? id = some (r.cancel now cancelReason false) := by
    rw [Registry.find?_cancel, if_pos rfl, hr]
    rfl
  have hlast := run_cancelHeld scan now id cancelReason { site with queue := q }
  rw [hasked hafter] at hlast
  rw [Act.run_bind_ok hcancel]
  by_cases hheld : site.node.held.contains id = true
  · rw [if_pos hheld] at hlast ⊢
    exact Act.run_bind_ok hlast
  · rw [if_neg hheld] at hlast ⊢
    exact Act.run_bind_ok hlast

section
variable {id : String} {credential : Option String} {site : Site Registry} {r : Record}

/-- Without a record a request to stop a job is refused, and leaves everything as it was. -/
theorem run_cancel_of_none (h : site.queue.records.find? id = none) (credential : Option String) :
    (cancel (Registry.service scan now) id credential).run site
      = (.error (.refused (.noSuchReference id)), site) := by
  have hget : site.queue.get now id false = (.error (.noSuchReference id), site.queue) := by
    unfold Registry.get
    rw [h]
  unfold cancel
  rw [Act.run_bind, Registry.run_get, hget]
  rfl

/-- A caller whom the recorded job denies is refused. -/
theorem run_cancel_of_denies (hr : site.queue.records.find? id = some r)
    (h : r.status.job.admits credential = false) :
    (cancel (Registry.service scan now) id credential).run site
      = (.error (.refused (.accessDenied r.status.job.id)), site) := by
  unfold cancel
  rw [Act.run_bind, Registry.run_get, Registry.get_of_find? now hr]
  show (authorize r.status.job credential >>= fun _ => _).run site = _
  rw [Act.run_bind, run_authorize_of_denies h]

/-- The job that the node holds is checked after the recorded one, with the credential of its own
job. -/
theorem run_cancel_of_held_denies (hr : site.queue.records.find? id = some r)
    (hrecord : r.status.job.admits credential = true) {t : Ticket}
    (ht : site.node.ticket? id = some t) (h : t.job.admits credential = false) :
    (cancel (Registry.service scan now) id credential).run site
      = (.error (.refused (.accessDenied t.job.id)), site) := by
  unfold cancel
  rw [Act.run_bind, Registry.run_get, Registry.get_of_find? now hr]
  show (authorize r.status.job credential >>= fun _ => _).run site = _
  rw [Act.run_bind_ok (run_authorize_of_admits hrecord site), Act.run_bind_ok (Act.run_node site),
    ht]
  show (authorize t.job credential >>= fun _ => _).run site = _
  rw [Act.run_bind, run_authorize_of_denies h]

/-- A request to stop a job is not refused when there is a record of the job, and the caller may
stop that job and the one that the node holds. -/
theorem run_cancel_of_admits (hr : site.queue.records.find? id = some r)
    (hrecord : r.status.job.admits credential = true)
    (hheld : ∀ t, site.node.ticket? id = some t → t.job.admits credential = true) :
    let q := (site.queue.cancel now id cancelReason false).2
    (cancel (Registry.service scan now) id credential).run site
      = (.ok (), if site.node.held.contains id = true then
          { node := site.node.letGo id, queue := (q.cancel now id cancelReason true).2 }
        else { site with queue := q }) := by
  intro q
  -- The record is there and admits the caller. Then it is for the ticket of this node, if there is
  -- one, to do so.
  unfold cancel
  rw [Act.run_bind, Registry.run_get, Registry.get_of_find? now hr]
  show (authorize r.status.job credential >>= fun _ => _).run site = _
  rw [Act.run_bind_ok (run_authorize_of_admits hrecord site), Act.run_bind_ok (Act.run_node site)]
  split
  next => exact run_stop scan now hr
  next t ht =>
    rw [Act.run_bind_ok (run_authorize_of_admits (hheld t ht) site)]
    exact run_stop scan now hr

end

/-- How a request to stop a job ends, and the site after it. It is refused, and nothing has
changed, or it asks the job to stop. If the node holds the job, it lets go of it at once. -/
theorem run_cancel (id : String) (credential : Option String) (site : Site Registry) :
    let run := (cancel (Registry.service scan now) id credential).run site
    let q := (site.queue.cancel now id cancelReason false).2
    (∃ e, run = (.error (.refused e), site)) ∨
      run = (.ok (), if site.node.held.contains id = true then
          { node := site.node.letGo id, queue := (q.cancel now id cancelReason true).2 }
        else { site with queue := q }) := by
  intro run q
  -- Unknown id, a record that denies the caller, a ticket that denies the caller, and no refusal.
  cases hr : site.queue.records.find? id with
  | none => exact .inl ⟨_, run_cancel_of_none scan now hr credential⟩
  | some r =>
    cases hrecord : r.status.job.admits credential with
    | false => exact .inl ⟨_, run_cancel_of_denies scan now hr hrecord⟩
    | true =>
      by_cases hheld : ∀ t, site.node.ticket? id = some t → t.job.admits credential = true
      · exact .inr (run_cancel_of_admits scan now hr hrecord hheld)
      · simp only [not_forall, Bool.not_eq_true] at hheld
        obtain ⟨t, ht, hdenies⟩ := hheld
        exact .inl ⟨_, run_cancel_of_held_denies scan now hr hrecord ht hdenies⟩

/-- A request to stop a job changes nothing, or asks the job to stop. If the node holds it, it
lets go of it at once. -/
theorem site_cancel (id : String) (credential : Option String) (site : Site Registry) :
    let site' := ((cancel (Registry.service scan now) id credential).run site).2
    let q := (site.queue.cancel now id cancelReason false).2
    site' = site ∨
      site' = if site.node.held.contains id = true then
          { node := site.node.letGo id, queue := (q.cancel now id cancelReason true).2 }
        else { site with queue := q } := by
  intro site' q
  rcases run_cancel scan now id credential site with ⟨e, hrun⟩ | hrun
  · exact .inl (congrArg Prod.snd hrun)
  · exact .inr (congrArg Prod.snd hrun)

/-- Without a record a status request is refused, and leaves everything as it was. -/
theorem run_status_of_none {id : String} {site : Site Registry}
    (h : site.queue.records.find? id = none) (credential : Option String) :
    (status (Registry.service scan now) id credential).run site
      = (.error (.refused (.noSuchReference id)), site) := by
  have hget : site.queue.get now id true = (.error (.noSuchReference id), site.queue) := by
    unfold Registry.get
    rw [h]
  simp only [status]
  rw [Act.run_bind, Registry.run_get, hget]
  rfl

/-- A status request stamps the time of the check, and nothing else. -/
theorem site_status (id : String) (credential : Option String) (site : Site Registry) :
    ((status (Registry.service scan now) id credential).run site).2
      = { site with queue := (site.queue.get now id true).2 } := by
  simp only [status]
  rw [Act.run_bind, Registry.run_get]
  cases (site.queue.get now id true).1 with
  | error e => rfl
  | ok status =>
    -- The check was stamped before the caller is authorized.
    change ((authorize status.job credential >>= fun _ => _).run
      { site with queue := (site.queue.get now id true).2 }).2 = _
    cases hadmits : status.job.admits credential with
    | false => rw [Act.run_bind, run_authorize_of_denies hadmits]
    | true =>
      rw [Act.run_bind_ok (run_authorize_of_admits hadmits _)]
      split <;> rfl

end Node

end JobScheduling
