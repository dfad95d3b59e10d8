import JobScheduling.Pool.Script
import JobScheduling.Proofs.Cluster.Joined

/-!
# `JobScheduling.Proofs.Cluster.Outcomes`: whose outcome a record tells

A node reports the outcome of a held job to the record under the id of the job. The record can
be that of a later submission of the same id, if that of the earlier one was canceled by another
node and has expired. `Chronicle` is a cluster with notes: for which submission each ticket was
given out, and which ticket's outcome each record tells. Nothing in the cluster depends on the
notes (`cluster_run`).

* `Course`: what a routine step does, as the notes see it.
* `Chronicle.Consistent`: the invariant of the notes, which every routine step keeps
  (`Consistent.step`).
* `Chronicle.Faithful`: every such record tells the outcome of its own submission.
  `Consistent.faithful_step` says that a step keeps this unless it is a pass that meets a stale
  outcome (`Chronicle.Stale`), and `Stale.not_faithful` that such a pass never does.
* `run_faithful_iff`: the two along a run.
-/

set_option autoImplicit false

namespace JobScheduling

namespace Record

variable {now : Nat}

/-- Whether a record tells what the work of its job came to. -/
def isConcluded (r : Record) : Bool :=
  match r.stage with
  | .done | .error => true
  | _ => false

/-- A record tells what the work came to when it says done or error. -/
theorem isConcluded_iff {r : Record} :
    r.isConcluded = true ↔ r.stage = .done ∨ r.stage = .error := by
  simp only [isConcluded]
  cases r.stage <;> simp

/-- A record tells no outcome while its job goes on. -/
theorem isConcluded_of_going {r : Record} (h : r.stage = .waiting ∨ r.stage = .running) :
    r.isConcluded = false := by
  rw [Bool.eq_false_iff, Ne, isConcluded_iff]
  rcases h with hr | hr <;> rw [hr] <;> nofun

/-- The record tells this outcome. -/
def Tells (r : Record) : Outcome → Prop
  | .completed report => r.stage = .done ∧ r.status.report = some report
  | .failed failure => r.stage = .error ∧ r.status.error = some failure.rootCause
  | .cancelled | .interrupted => False

/-- Only the outcomes of work are told. -/
theorem Tells.isOfWork {r : Record} {o : Outcome} (h : r.Tells o) : o.isOfWork = true := by
  cases o with
  | completed | failed => rfl
  | cancelled | interrupted => cases h

/-- A record that tells an outcome is concluded. -/
theorem Tells.isConcluded {r : Record} {o : Outcome} (h : r.Tells o) : r.isConcluded = true := by
  cases o with
  | completed report => exact isConcluded_iff.2 (.inl h.1)
  | failed failure => exact isConcluded_iff.2 (.inr h.1)
  | cancelled | interrupted => cases h

/-- What a record tells is in its status. -/
theorem Tells.congr {r r' : Record} {o : Outcome} (h : r.Tells o) (hr : r'.status = r.status) :
    r'.Tells o := by
  simp only [Tells, stage] at *
  rw [hr]
  exact h

/-- A record that tells an outcome has ended. -/
theorem isFinal_of_isConcluded {r : Record} (h : r.isConcluded = true) : r.isFinal = true := by
  rcases isConcluded_iff.1 h with hr | hr
  · exact isFinal_of_stage hr
  · exact isFinal_of_stage hr

/-- A cancellation never makes a record tell an outcome. -/
theorem isConcluded_cancel (now : Nat) (reason : String) (immediate : Bool) (r : Record) :
    (r.cancel now reason immediate).isConcluded = r.isConcluded := by
  by_cases hfinal : r.isFinal = true
  · rw [Registry.cancel_of_isFinal hfinal]
  · -- The record stands at one of the two stages of a cancellation afterwards.
    have hr : r.isConcluded = false :=
      Bool.eq_false_iff.2 fun hr => hfinal (isFinal_of_isConcluded hr)
    obtain ⟨asked, hasked, hcancel, hstage, -⟩ :=
      Registry.cancel_of_open (Bool.eq_false_iff.2 hfinal) now reason
    cases immediate with
    | false => rw [hr, hasked, isConcluded, hstage]
    | true => rw [hr, hcancel]; rfl

/-- A record that waits or runs tells an outcome of work from its report on. -/
theorem settled_tells {r : Record} {o : Outcome} (hgoing : r.stage = .waiting ∨ r.stage = .running)
    (ho : o.isOfWork = true) :
    (r.settled now (some o)).Tells o ∧
      (r.settled now (some o)).status.completedAt = some now := by
  simp only [settled, Option.elim, reported, Registry.finished, finish]
  cases o with
  | completed report => rcases hgoing with hr | hr <;> simp only [hr] <;> exact ⟨⟨rfl, rfl⟩, rfl⟩
  | failed failure => rcases hgoing with hr | hr <;> simp only [hr] <;> exact ⟨⟨rfl, rfl⟩, rfl⟩
  | cancelled | interrupted => cases ho

/-- No other record comes to tell an outcome by a report. -/
theorem going_of_settled {r : Record} {o : Option Outcome} (hr : r.isConcluded = false)
    (h : (r.settled now o).isConcluded = true) :
    (r.stage = .waiting ∨ r.stage = .running) ∧ ∃ outcome, o = some outcome ∧
      (r.settled now o).Tells outcome := by
  -- The end of the work of a record at any other stage is its stop, or it is refused.
  have hfinish {ending : Ending} (h : (Registry.finished now ending r).isConcluded = true) :
      r.stage = .waiting ∨ r.stage = .running := by
    unfold Registry.finished finish at h
    cases hstage : r.stage with
    | waiting => exact .inl rfl
    | running => exact .inr rfl
    | canceling => rw [hstage] at h; cases h
    | canceled | done | error =>
      rw [hstage] at h
      rw [show (Except.error _ : Except Error Record).toOption.getD r = r from rfl, hr] at h
      cases h
  cases o with
  | none =>
    rw [show r.settled now none = r from rfl, hr] at h
    cases h
  | some outcome =>
    cases outcome with
    | completed report =>
      exact ⟨hfinish h, _, rfl, (settled_tells (hfinish h) rfl).1⟩
    | failed failure =>
      exact ⟨hfinish h, _, rfl, (settled_tells (hfinish h) rfl).1⟩
    | cancelled =>
      rw [show r.settled now (some .cancelled) = r.cancel now _ true from rfl,
        isConcluded_cancel, hr] at h
      cases h
    | interrupted =>
      rw [show r.settled now (some .interrupted) = r from rfl, hr] at h
      cases h

end Record

/-- A job that is let go with an outcome of work had come to it before the review. -/
theorem Node.outcome?_of_leaving {now : Nat} {q : Registry} {ids : List String} {n : Node}
    {id : String} {o : Outcome} (h : n.leaving now q ids id = some o) (ho : o.isOfWork = true) :
    ∃ t, n.ticket? id = some t ∧ t.outcome? = some o := by
  obtain ⟨-, t, ht, hjudged⟩ := leaving_eq_some h
  refine ⟨t, ht, ?_⟩
  unfold judged at hjudged
  split at hjudged
  next hopen =>
    -- The examination would have cancelled the ticket.
    rw [Ticket.outcome?_cancel, Option.not_isSome_iff_eq_none.1 (Bool.eq_false_iff.1 hopen.1)]
      at hjudged
    cases hjudged
    cases ho
  next => exact hjudged

namespace Cluster

variable {scan heldScan : Registry.Scan} {lastly : Job → WorkEnd}

/-- The ticket of a number on a node of a number. -/
def ticket? (k m : Nat) (c : Cluster Registry) : Option Ticket :=
  (c.node? k).bind fun n => n.pool.tickets[m]?

/-- The record under an id. -/
def record? (id : String) (c : Cluster Registry) : Option Record := c.queue.records.find? id

/-- The tickets of a cluster are those of its nodes. -/
theorem ticket?_eq_some_iff {c : Cluster Registry} {k m : Nat} {t : Ticket} :
    c.ticket? k m = some t ↔ ∃ n, c.node? k = some n ∧ n.pool.tickets[m]? = some t :=
  Option.bind_eq_some_iff

/-! ### What a step does -/

section
variable {now : Nat} {site site' : Site Registry} {id : String} {r r' : Record}
  (hr : site.queue.records.find? id = some r) (hr' : site'.queue.records.find? id = some r')
  (hopen : r.isConcluded = false) (hconcluded : r'.isConcluded = true)

include hr hr' hopen hconcluded

/-- A record that comes to tell an outcome in a pass is that of a job which the node holds. Only
the review of the held jobs does that. -/
theorem concludes_of_pass {ids : List String} {reviewed : Site Registry}
    (hreview : Node.Reviewed now ids site reviewed) (hshare : Node.Shared now reviewed site') :
    (r.stage = .waiting ∨ r.stage = .running) ∧
      ∃ t o, site.node.ticket? id = some t ∧ t.outcome? = some o ∧ r'.Tells o := by
  have hreviewed := hreview.records id
  rw [hr, Option.map_some] at hreviewed
  cases hshare.each id with
  | kept hrecord =>
    rw [hrecord, Option.map_eq_some_iff] at hr'
    obtain ⟨r₁, hr₁, rfl⟩ := hr'
    have hr₁ := Registry.find?_of_find?_purge hr₁
    rw [hreviewed] at hr₁
    cases hr₁
    -- Only a report makes a record tell an outcome, and an overdue one is canceled instead.
    generalize hleaving : site.node.leaving now site.queue ids id = outcome at hconcluded ⊢
    have hconcluded' : (r.settled now outcome).isConcluded = true := by
      unfold Registry.evicted at hconcluded
      split at hconcluded
      · rwa [Record.isConcluded_cancel] at hconcluded
      · exact hconcluded
    obtain ⟨hgoing, o, rfl, htells⟩ := Record.going_of_settled hopen hconcluded'
    obtain ⟨t, ht, ho⟩ := Node.outcome?_of_leaving hleaving htells.isOfWork
    refine ⟨hgoing, t, o, ht, ho, ?_⟩
    rw [Registry.evicted_of_isFinal (Record.isFinal_of_isConcluded hconcluded')]
    exact htells
  | stopped r₁ hr₁ hcanceling hrecord =>
    rw [hrecord] at hr'
    have hopen₁ : r₁.isConcluded = false := by
      simp only [Record.isConcluded]
      rw [hcanceling]
    split at hr' <;> cases hr'
    · rw [Record.isConcluded_cancel, hopen₁] at hconcluded
      cases hconcluded
    · rw [hopen₁] at hconcluded
      cases hconcluded
  | claimed r₁ m hr₁ hwaiting hrecord =>
    rw [hrecord, Registry.started_eq, if_pos hwaiting] at hr'
    cases hr'
    cases hconcluded

end

/-- A record comes to tell an outcome in a pass only: that of a job which the node holds under
the id. -/
theorem Does.concludes {now k : Nat} {site site' : Site Registry} {s : Step}
    (h : Does heldScan now k site s site') {id : String} {r r' : Record}
    (hr : site.queue.records.find? id = some r) (hr' : site'.queue.records.find? id = some r')
    (hopen : r.isConcluded = false) (hconcluded : r'.isConcluded = true) :
    s = .reconcile k ∧ (r.stage = .waiting ∨ r.stage = .running) ∧
      ∃ t o, site.node.ticket? id = some t ∧ t.outcome? = some o ∧ r'.Tells o := by
  have hsame (hr' : site.queue.records.find? id = some r') : False := by
    rw [hr] at hr'
    cases hr'
    rw [hopen] at hconcluded
    cases hconcluded
  have hnot {f : Record → Record} (hf : ∀ r : Record, (f r).isConcluded = r.isConcluded)
      {p : Prop} [Decidable p] (hr' : (if p then (some r).map f else some r) = some r') :
      False := by
    split at hr' <;> cases hr'
    · rw [hf, hopen] at hconcluded
      cases hconcluded
    · exact hsame hr
  cases h with
  | nothing | ends => exact (hsame hr').elim
  | records job =>
    rw [show _ = _ from Registry.find?_add ..] at hr'
    split at hr'
    · cases hr'
      cases hconcluded
    · exact (hsame (Registry.find?_of_find?_purge hr')).elim
  | checks =>
    rw [show _ = _ from Registry.find?_get .., hr] at hr'
    exact (hnot (f := (·.checked now)) (fun _ => rfl) hr').elim
  | asks =>
    rw [show _ = _ from Registry.find?_cancel .., hr] at hr'
    exact (hnot (Record.isConcluded_cancel now _ _) hr').elim
  | stops id' =>
    -- A job that the node holds is canceled twice.
    rw [show _ = _ from Registry.find?_cancel .., Registry.find?_cancel, hr] at hr'
    by_cases hid : id = id'
    · rw [if_pos hid, if_pos hid] at hr'
      cases hr'
      rw [Record.isConcluded_cancel, Record.isConcluded_cancel, hopen] at hconcluded
      cases hconcluded
    · rw [if_neg hid, if_neg hid] at hr'
      exact (hsame (hr.trans hr')).elim
  | passes hreview hshare =>
    exact ⟨rfl, concludes_of_pass hr hr' hopen hconcluded hreview hshare⟩

/-- What a routine step does to the tickets and the records. -/
structure Course (s : Step) (c c' : Cluster Registry) : Prop where
  atWork : c'.AtWork
  follows : ∀ {k m t}, c.ticket? k m = some t → ∃ t', c'.ticket? k m = some t' ∧ t.Follows t'
  /-- A new ticket is that of a claimed job. -/
  claims : ∀ {k m t'}, c.ticket? k m = none → c'.ticket? k m = some t' →
    ∃ id r, c.record? id = some r ∧ r.stage = .waiting ∧
      c'.record? id = some (Registry.started c.now r) ∧ t'.job = r.status.job
  records : ∀ {id r'}, c'.record? id = some r' →
    (∃ k job, s = .submit k job ∧ job.id = id ∧ r' = .new c.now job (c.queue.requests + 1) ∧
      c'.queue.requests = c.queue.requests + 1) ∨
    ∃ r, c.record? id = some r ∧ r.Moves c.now r'
  requests : c.queue.requests ≤ c'.queue.requests
  concludes : ∀ {id r r'}, c.record? id = some r → c'.record? id = some r' →
    r.isConcluded = false → r'.isConcluded = true →
    ∃ k n m t o, s = .reconcile k ∧ (r.stage = .waiting ∨ r.stage = .running) ∧
      c.node? k = some n ∧ n.held.find? id = some m ∧ c.ticket? k m = some t ∧
      t.outcome? = some o ∧ r'.Tells o

section
variable {s : Step} {c c' : Cluster Registry}

/-- A step that leaves the nodes and the queue alone. -/
theorem course_of_same (h : c.AtWork) (hnodes : c'.nodes = c.nodes) (hqueue : c'.queue = c.queue) :
    Course s c c' := by
  -- The nodes and the queue are the same, so each ticket and each record is what it was.
  have hnode (k : Nat) : c'.node? k = c.node? k := by
    simp only [node?]
    rw [hnodes]
  have hticket (k m : Nat) : c'.ticket? k m = c.ticket? k m := by
    simp only [ticket?]
    rw [hnode]
  have hrecord (id : String) : c'.record? id = c.record? id := by
    simp only [record?]
    rw [hqueue]
  have hatWork : c'.AtWork := ⟨fun k n hn => h.nodes k n (hnode k ▸ hn), hqueue ▸ h.keyed⟩
  refine ⟨hatWork, fun {k m t} ht => ⟨t, (hticket k m).trans ht, .refl t⟩, ?_,
    fun {id r'} hr' => .inr ⟨r', hrecord id ▸ hr', .refl⟩, hqueue ▸ Nat.le_refl _, ?_⟩
  · intro k m t' hnone ht'
    rw [hticket, hnone] at ht'
    cases ht'
  · intro id r r' hr hr' hopen hconcluded
    rw [hrecord, hr] at hr'
    cases hr'
    rw [hopen] at hconcluded
    cases hconcluded

/-- The number of recorded jobs after a routine step. -/
theorem Does.requests_le {now k : Nat} {site site' : Site Registry}
    (h : Does heldScan now k site s site') : site.queue.requests ≤ site'.queue.requests := by
  -- Only a submission gives out a number.
  cases h with
  | nothing | ends => exact Nat.le_refl _
  | records job =>
    show _ ≤ (site.queue.add now job).2.requests
    rw [Registry.requests_add]
    split <;> omega
  | checks => exact Nat.le_of_eq (Registry.requests_get ..).symm
  | asks => exact Nat.le_of_eq (Registry.requests_update ..).symm
  | stops =>
    exact Nat.le_of_eq ((Registry.requests_update ..).trans (Registry.requests_update ..)).symm
  | passes hreview hshare =>
    exact Nat.le_of_eq (hshare.requests.trans hreview.requests).symm

/-- The turn of a node. -/
theorem course_of_turn (h : c.AtWork) {k : Nat} {n n' : Node} {site : Site Registry}
    (hturn : Turn heldScan s k n site n' c c') : Course s c c' := by
  have hqueue : c'.queue = site.queue := hturn.replaces.queue
  have hnamed := (h.nodes k n hturn.node).named
  -- One goal for each field of a course: the node and its tickets, the new tickets, the records,
  -- their numbers, and the records that are concluded.
  refine ⟨hturn.atWork h, ?_, ?_, ?_, hqueue ▸ hturn.does.requests_le, ?_⟩
  · intro j m t ht
    obtain ⟨l, hl, ht⟩ := ticket?_eq_some_iff.1 ht
    obtain ⟨l', t', hl', ht', hfollows⟩ := hturn.follows hl ht
    exact ⟨t', ticket?_eq_some_iff.2 ⟨l', hl', ht'⟩, hfollows⟩
  · intro j m t' hnone ht'
    obtain ⟨l', hl', ht'⟩ := ticket?_eq_some_iff.1 ht'
    rcases hturn.ticket_cases hnamed hl' ht' with ⟨l, t, hl, ht, -⟩ | ⟨-, rfl, -, id, r, hclaims⟩
    · rw [ticket?_eq_some_iff.2 ⟨l, hl, ht⟩] at hnone
      cases hnone
    · obtain ⟨t, ht, hjob⟩ := hclaims.ticket
      rw [ht'] at ht
      cases ht
      exact ⟨id, r, hclaims.before, hclaims.waiting, hclaims.after, hjob⟩
  · intro id r' hr'
    unfold record? at hr'
    rw [hqueue] at hr'
    rcases hturn.does.record_cases hr' with ⟨job, hs, hid, hnew, hrequests⟩ | hmoved
    · exact .inl ⟨k, job, hs, hid, hnew, hqueue ▸ hrequests⟩
    · exact .inr hmoved
  · intro id r r' hr hr' hopen hconcluded
    unfold record? at hr'
    rw [hqueue] at hr'
    obtain ⟨rfl, hgoing, t, o, ht, ho, htells⟩ :=
      hturn.does.concludes hr hr' hopen hconcluded
    obtain ⟨m, hm, htm⟩ := Node.ticket?_eq_some_iff.1 ht
    exact ⟨k, n, m, t, o, rfl, hgoing, hturn.node, hm,
      ticket?_eq_some_iff.2 ⟨n, hturn.node, htm⟩, ho, htells⟩

/-- Every routine step takes its course. -/
theorem course_step (hscan : ∀ ids, (scan ids).Perm ids) (heldScan : Registry.Scan)
    (lastly : Job → WorkEnd) (h : c.AtWork) (hs : s.isRoutine = true) :
    Course s c (c.step (shared scan heldScan lastly) s).2 := by
  rcases routine_cases hscan heldScan lastly h hs with
    hc' | ⟨now, -, hc'⟩ | ⟨k, n, site, n', hturn⟩
  · rw [hc']
    exact course_of_same h rfl rfl
  · rw [hc']
    exact course_of_same h rfl rfl
  · exact course_of_turn h hturn

end

/-! ### Notes -/

/-- A cluster with notes. -/
structure Chronicle where
  cluster : Cluster Registry
  /-- The number of the submission for which a node gave out a ticket. -/
  claimed : (node ticket : Nat) → Option Nat := fun _ _ => none
  /-- The node and the ticket whose outcome the record of an id tells, once it tells one. -/
  reporter : (id : String) → Option (Nat × Nat) := fun _ => none

/-- The node and the ticket that report to the record of an id in a step: those under which a
job is held when the step is a pass. -/
def Step.reporter? (s : Step) (c : Cluster Registry) (id : String) : Option (Nat × Nat) :=
  match s with
  | .reconcile k => (c.node? k).bind fun n => (n.held.find? id).map fun m => (k, m)
  | _ => none

namespace Chronicle

/-- Takes one step and makes the notes. A new ticket is one for the submission that stands
under its id. A record that told no outcome before is reported to in this step, or never. -/
def step (world : World Registry) (a : Chronicle) (s : Step) : Chronicle :=
  let c := (a.cluster.step world s).2
  { cluster := c
    claimed := fun k m =>
      if (a.cluster.ticket? k m).isSome then a.claimed k m
      else ((c.ticket? k m).bind fun t => c.record? t.job.id).map (·.status.request)
    reporter := fun id =>
      if (a.cluster.record? id).any (·.isConcluded) then a.reporter id
      else s.reporter? a.cluster id }

/-- Takes steps one after the other. -/
def run (world : World Registry) (steps : List Step) (a : Chronicle) : Chronicle :=
  steps.foldl (step world) a

/-- The notes do not change the run. -/
theorem cluster_run (world : World Registry) (steps : List Step) (a : Chronicle) :
    (a.run world steps).cluster = (Cluster.run world steps a.cluster).2 := by
  induction steps generalizing a with
  | nil => rfl
  | cons s rest ih => exact ih (a.step world s)

/-- Every record that tells an outcome tells that of an execution of its own submission. -/
def Faithful (a : Chronicle) : Prop :=
  ∀ id r, a.cluster.record? id = some r → r.isConcluded = true →
    ∃ k m t o, a.reporter id = some (k, m) ∧ a.claimed k m = some r.status.request ∧
      a.cluster.ticket? k m = some t ∧ t.job = r.status.job ∧ t.started = true ∧
      t.outcome? = some o ∧ r.Tells o

/-- A node holds a job whose work has come to an outcome, while the record under its id is that
of another submission, which waits or runs. -/
def Stale (k : Nat) (a : Chronicle) : Prop :=
  ∃ n id m t o r, a.cluster.node? k = some n ∧ n.held.find? id = some m ∧
    a.cluster.ticket? k m = some t ∧ t.outcome? = some o ∧ o.isOfWork = true ∧
    a.cluster.record? id = some r ∧ (r.stage = .waiting ∨ r.stage = .running) ∧
    a.claimed k m ≠ some r.status.request

/-- The notes agree with the cluster. -/
structure Consistent (a : Chronicle) : Prop where
  atWork : a.cluster.AtWork
  claimed : ∀ {k m t}, a.cluster.ticket? k m = some t →
    ∃ q, a.claimed k m = some q ∧ q ≤ a.cluster.queue.requests
  numbered : ∀ {id r}, a.cluster.record? id = some r →
    r.status.request ≤ a.cluster.queue.requests
  distinct : ∀ {id id' r r'}, a.cluster.record? id = some r → a.cluster.record? id' = some r' →
    r.status.request = r'.status.request → id = id'
  /-- A ticket that was given out for a submission is for its job, which does not wait. -/
  own : ∀ {k m t id r}, a.cluster.ticket? k m = some t → a.cluster.record? id = some r →
    a.claimed k m = some r.status.request → t.job = r.status.job ∧ r.stage ≠ .waiting

section
variable {world : World Registry} {a : Chronicle} {s : Step}

/-- A ticket stays one for the same submission. -/
theorem claimed_of_ticket {k m : Nat} {t : Ticket} (ht : a.cluster.ticket? k m = some t) :
    (a.step world s).claimed k m = a.claimed k m := by
  unfold step
  dsimp only
  rw [ht]
  rfl

/-- A new ticket is one for the submission that stands under its id. -/
theorem claimed_of_none {k m : Nat} {t' : Ticket} (hnone : a.cluster.ticket? k m = none)
    (ht' : (a.step world s).cluster.ticket? k m = some t') :
    (a.step world s).claimed k m
      = ((a.step world s).cluster.record? t'.job.id).map (·.status.request) := by
  unfold step
  dsimp only
  rw [hnone, show (a.cluster.step world s).2.ticket? k m = some t' from ht', Option.bind_some]
  rfl

/-- A ticket with an outcome stays as it is. -/
theorem ticket_of_outcome {c' : Cluster Registry} (hcourse : Course s a.cluster c') {k m : Nat}
    {t : Ticket} {o : Outcome} (ht : a.cluster.ticket? k m = some t) (ho : t.outcome? = some o) :
    c'.ticket? k m = some t := by
  obtain ⟨t', ht', hfollows⟩ := hcourse.follows ht
  rw [ht', hfollows.finished (Ticket.isFinished_of_outcome? ho)]

/-- Before the first step there is nothing to note. -/
theorem consistent_of_new {c : Cluster Registry} (h : c.AtWork)
    (htickets : ∀ k m, c.ticket? k m = none) (hrecords : ∀ id, c.record? id = none) :
    Consistent { cluster := c } := by
  refine ⟨h, fun ht => ?_, fun hr => ?_, fun hr => ?_, fun ht => ?_⟩
  · rw [htickets] at ht
    cases ht
  · rw [hrecords] at hr
    cases hr
  · rw [hrecords] at hr
    cases hr
  · rw [htickets] at ht
    cases ht

section
variable (h : a.Consistent) (hcourse : Course s a.cluster (a.cluster.step world s).2)

include h hcourse

/-- A new ticket is one for the submission whose record began to run. -/
theorem Consistent.claimed_of_new {k m : Nat} {t' : Ticket}
    (hnone : a.cluster.ticket? k m = none)
    (ht' : (a.step world s).cluster.ticket? k m = some t') :
    ∃ id r, a.cluster.record? id = some r ∧ r.stage = .waiting ∧
      (a.step world s).cluster.record? id = some (Registry.started a.cluster.now r) ∧
      t'.job = r.status.job ∧ (a.step world s).claimed k m = some r.status.request := by
  -- The pass that gives the ticket claims the record, so the note is the number of that record.
  obtain ⟨id, r, hr, hwaiting, hr', hjob⟩ := hcourse.claims hnone ht'
  refine ⟨id, r, hr, hwaiting, hr', hjob, ?_⟩
  have hid : t'.job.id = id := hjob ▸ (h.atWork.keyed id r hr).1
  rw [claimed_of_none hnone ht', hid,
    show (a.step world s).cluster.record? id = some (Registry.started a.cluster.now r) from hr',
    Registry.started_eq, if_pos hwaiting]
  rfl

/-- A record after a step: that of a new submission, or a later state of one before. -/
theorem Consistent.record_cases {id : String} {r' : Record}
    (hr' : (a.step world s).cluster.record? id = some r') :
    (r'.stage = .waiting ∧ r'.status.request = a.cluster.queue.requests + 1 ∧
      (a.step world s).cluster.queue.requests = a.cluster.queue.requests + 1 ∧
      ∃ k job, s = .submit k job ∧ job.id = id) ∨
    ∃ r, a.cluster.record? id = some r ∧ r.Moves a.cluster.now r' ∧ r.Evolves r' := by
  rcases hcourse.records hr' with ⟨k, job, hs, hid, rfl, hrequests⟩ | ⟨r, hr, m⟩
  · exact .inl ⟨rfl, rfl, hrequests, k, job, hs, hid⟩
  · exact .inr ⟨r, hr, m, m.evolves (h.atWork.keyed id r hr).2⟩

/-- After a step no two records have the same number. A new one has the next number. -/
theorem Consistent.distinct_step {id id' : String} {r r' : Record}
    (hr : (a.step world s).cluster.record? id = some r)
    (hr' : (a.step world s).cluster.record? id' = some r')
    (hrequest : r.status.request = r'.status.request) : id = id' := by
  rcases h.record_cases hcourse hr with ⟨-, hnew, -, k, job, hs, hid⟩ | ⟨r₁, hr₁, -, hevolves⟩ <;>
    rcases h.record_cases hcourse hr' with
      ⟨-, hnew', -, k', job', hs', hid'⟩ | ⟨r₁', hr₁', -, hevolves'⟩
  · -- A step submits one job.
    rw [hs] at hs'
    cases hs'
    exact hid.symm.trans hid'
  · -- A new record has a number that no record had before.
    have hold := h.numbered hr₁'
    rw [hnew, hevolves'.request] at hrequest
    omega
  · have hold := h.numbered hr₁
    rw [hnew', hevolves.request] at hrequest
    omega
  · exact h.distinct hr₁ hr₁' (hevolves.request.symm.trans (hrequest.trans hevolves'.request))

/-- After a step a ticket that was given out for a submission is for its job, which does not
wait. -/
theorem Consistent.own_step {k m : Nat} {t' : Ticket} {id : String} {r' : Record}
    (ht' : (a.step world s).cluster.ticket? k m = some t')
    (hr' : (a.step world s).cluster.record? id = some r')
    (hclaimed : (a.step world s).claimed k m = some r'.status.request) :
    t'.job = r'.status.job ∧ r'.stage ≠ .waiting := by
  cases ht : a.cluster.ticket? k m with
  | some t =>
    obtain ⟨q, hq, hqle⟩ := h.claimed ht
    obtain ⟨t'', ht'', hfollows⟩ := hcourse.follows ht
    rw [show (a.cluster.step world s).2.ticket? k m = some t' from ht'] at ht''
    cases ht''
    rw [claimed_of_ticket ht] at hclaimed
    rcases h.record_cases hcourse hr' with ⟨-, hnew, -⟩ | ⟨r, hr, m', hevolves⟩
    · -- No ticket was given out for a submission that did not exist yet.
      rw [hnew, hq] at hclaimed
      cases hclaimed
      omega
    · rw [hevolves.request] at hclaimed
      obtain ⟨hjob, hwaiting⟩ := h.own ht hr hclaimed
      exact ⟨hfollows.job.trans (hjob.trans hevolves.job.symm), m'.stage_ne_waiting hwaiting⟩
  | none =>
    -- The record of the claimed job is the only one of its number.
    obtain ⟨id', r, hr, hwaiting, hr'', hjob, hnew⟩ := h.claimed_of_new hcourse ht ht'
    rw [hnew] at hclaimed
    have hstarted : Registry.started a.cluster.now r
        = (r.enter .running).stampStart a.cluster.now := by
      rw [Registry.started_eq, if_pos hwaiting]
    rw [hstarted] at hr''
    obtain rfl : id = id' := h.distinct_step hcourse hr' hr'' (Option.some.inj hclaimed).symm
    rw [hr'] at hr''
    cases hr''
    exact ⟨hjob, nofun⟩

/-- A step keeps the notes consistent. -/
theorem Consistent.step : (a.step world s).Consistent where
  atWork := hcourse.atWork
  claimed := by
    intro k m t' ht'
    -- A ticket keeps its note. A new one is noted with the record it was claimed for.
    cases ht : a.cluster.ticket? k m with
    | some t =>
      obtain ⟨q, hq, hle⟩ := h.claimed ht
      exact ⟨q, (claimed_of_ticket ht).trans hq, Nat.le_trans hle hcourse.requests⟩
    | none =>
      obtain ⟨id, r, hr, -, -, -, hclaimed⟩ := h.claimed_of_new hcourse ht ht'
      exact ⟨_, hclaimed, Nat.le_trans (h.numbered hr) hcourse.requests⟩
  numbered := by
    intro id r' hr'
    rcases h.record_cases hcourse hr' with
      ⟨-, hnew, hrequests, -⟩ | ⟨r, hr, -, hevolves⟩
    · rw [hnew, hrequests]
    · rw [hevolves.request]
      exact Nat.le_trans (h.numbered hr) hcourse.requests
  distinct := h.distinct_step hcourse
  own := h.own_step hcourse

/-- A step that meets no stale outcome keeps the notes faithful. -/
theorem Consistent.faithful_step (hfaithful : a.Faithful)
    (hfresh : ∀ k, s = .reconcile k → ¬ a.Stale k) : (a.step world s).Faithful := by
  intro id r' hr' hconcluded
  rcases h.record_cases hcourse hr' with ⟨hwaiting, -⟩ | ⟨r, hr, -, hevolves⟩
  · rw [Record.isConcluded_of_going (.inl hwaiting)] at hconcluded
    cases hconcluded
  rw [hevolves.request, hevolves.job]
  have hreporter : (a.step world s).reporter id
      = if r.isConcluded = true then a.reporter id else s.reporter? a.cluster id := by
    unfold Chronicle.step
    dsimp only
    rw [hr]
    rfl
  by_cases hbefore : r.isConcluded = true
  · -- The record told its outcome before, and neither it nor the ticket has changed.
    obtain ⟨k, m, t, o, hk, hclaimed, ht, hjob, hstarted, ho, htells⟩ :=
      hfaithful id r hr hbefore
    have hstatus := (hevolves.ended (Record.isFinal_of_isConcluded hbefore)).1
    exact ⟨k, m, t, o, hreporter.trans ((if_pos hbefore).trans hk),
      (claimed_of_ticket ht).trans hclaimed, ticket_of_outcome hcourse ht ho, hjob, hstarted, ho,
      htells.congr hstatus⟩
  · obtain ⟨k, n, m, t, o, rfl, hgoing, hn, hm, ht, ho, htells⟩ :=
      hcourse.concludes hr hr' (Bool.eq_false_iff.2 hbefore) hconcluded
    -- If the ticket were one for another submission, the pass would have met a stale outcome.
    have hclaimed : a.claimed k m = some r.status.request := by
      by_contra hother
      exact hfresh k rfl ⟨n, id, m, t, o, r, hn, hm, ht, ho, htells.isOfWork, hr, hgoing, hother⟩
    have hreports : Step.reporter? (.reconcile k) a.cluster id = some (k, m) := by
      unfold Step.reporter?
      dsimp only
      rw [hn, Option.bind_some, hm]
      rfl
    obtain ⟨n', hn', htm⟩ := ticket?_eq_some_iff.1 ht
    have hstarted := ((h.atWork.nodes k n' hn').sound.tickets m t htm).ofWork o ho htells.isOfWork
    exact ⟨k, m, t, o, hreporter.trans ((if_neg hbefore).trans hreports),
      (claimed_of_ticket ht).trans hclaimed, ticket_of_outcome hcourse ht ho,
      (h.own ht hr hclaimed).1, hstarted, ho, htells⟩

end

end

end Chronicle

/-! ### Stale outcomes -/

/-- A pass of a clustered node. -/
theorem pass_replaces (hscan : ∀ ids, (scan ids).Perm ids) (heldScan : Registry.Scan)
    (lastly : Job → WorkEnd) {c : Cluster Registry} (h : c.AtWork) {k : Nat} {n : Node}
    (hn : c.node? k = some n) :
    ∃ reviewed site, Node.Reviewed c.now (heldScan n.held.keys) (c.site n) reviewed ∧
      Node.Shared c.now reviewed site ∧
      (c.step (shared scan heldScan lastly) (.reconcile k)).2.queue = site.queue := by
  -- The queue after a pass is what the pass left, since the workers of a clustered node tell it
  -- nothing.
  obtain ⟨reviewed, hreview, hshare⟩ :=
    site_pass hscan heldScan c.now (c.site n) (h.nodes k n hn).member (h.nodes k n hn).goesOn
      h.keyed
  have hjoined := (Does.passes (k := k) hreview hshare).joined (h.nodes k n hn) h.keyed
  obtain ⟨n', hsettle, -⟩ := settle_clustered scan c.now hjoined.member
  refine ⟨reviewed, _, hreview, hshare, ?_⟩
  have hreplaces := @request_replaces scan heldScan lastly Unit k n c hn (fun _ => .unit)
    (Node.reconcile (Registry.service scan c.now) heldScan c.now)
  rw [hsettle] at hreplaces
  exact hreplaces.queue

/-- A pass on a node that holds a job with an outcome reports it to the record under the id of
the job, if that waits or runs. -/
theorem concluded_of_pass (hscan : ∀ ids, (scan ids).Perm ids)
    (hheldScan : ∀ ids, (heldScan ids).Perm ids) (lastly : Job → WorkEnd) {c : Cluster Registry}
    (h : c.AtWork) {k m : Nat} {n : Node} {id : String} {t : Ticket} {o : Outcome} {r : Record}
    (hn : c.node? k = some n) (hm : n.held.find? id = some m) (ht : c.ticket? k m = some t)
    (ho : t.outcome? = some o) (hwork : o.isOfWork = true) (hr : c.record? id = some r)
    (hgoing : r.stage = .waiting ∨ r.stage = .running) :
    ∃ r', (c.step (shared scan heldScan lastly) (.reconcile k)).2.record? id = some r' ∧
      r'.isConcluded = true ∧ r'.status.request = r.status.request := by
  obtain ⟨reviewed, site, hreview, hshare, hqueue⟩ := pass_replaces hscan heldScan lastly h hn
  have htold : (r.settled c.now (some o)).Tells o ∧
      (r.settled c.now (some o)).status.completedAt = some c.now :=
    Record.settled_tells hgoing hwork
  obtain ⟨htells, hended⟩ := htold
  have hconcluded := htells.isConcluded
  have hfinal := Record.isFinal_of_isConcluded hconcluded
  have hleaving : n.leaving c.now c.queue (heldScan n.held.keys) id = some o := by
    have hvisited : id ∈ heldScan n.held.keys :=
      (hheldScan _).mem_iff.2 (Table.mem_keys_of_find? hm)
    obtain ⟨n', hn', htm⟩ := ticket?_eq_some_iff.1 ht
    rw [hn] at hn'
    cases hn'
    exact Node.leaving_of_outcome? hvisited (Node.ticket?_eq_some_iff.2 ⟨m, hm, htm⟩) ho
  have hreviewed : reviewed.queue.records.find? id = some (r.settled c.now (some o)) := by
    rw [hreview.records, show (c.site n).queue.records.find? id = some r from hr]
    show some (r.settled c.now (n.leaving c.now c.queue _ id)) = _
    rw [hleaving]
  -- The record has just ended, so the rest of the pass leaves it alone.
  have hpurged : (reviewed.queue.purge c.now).records.find? id
      = some (r.settled c.now (some o)) := by
    rw [Registry.find?_purge, hreviewed, Option.filter_some, Registry.expires_of_ended_now hended]
    rfl
  refine ⟨r.settled c.now (some o), ?_, hconcluded,
    ((Record.settled_moves ..).evolves (h.keyed id r hr).2).request⟩
  simp only [record?]
  rw [hqueue]
  cases hshare.each id with
  | kept hrecord =>
    rw [hrecord, hpurged, Option.map_some, Registry.evicted_of_isFinal hfinal]
  | stopped r₁ hr₁ hstage =>
    rw [hpurged] at hr₁
    cases hr₁
    rw [Record.isFinal_of_stage hstage] at hfinal
    cases hfinal
  | claimed r₁ _ hr₁ hstage =>
    rw [hpurged] at hr₁
    cases hr₁
    rw [Record.isFinal_of_stage hstage] at hfinal
    cases hfinal

namespace Chronicle

/-- A pass that meets a stale outcome reports it to the wrong submission. -/
theorem Stale.not_faithful (hscan : ∀ ids, (scan ids).Perm ids)
    (hheldScan : ∀ ids, (heldScan ids).Perm ids) (lastly : Job → WorkEnd) {a : Chronicle}
    (h : a.Consistent) {k : Nat} (hstale : a.Stale k) :
    ¬ (a.step (shared scan heldScan lastly) (.reconcile k)).Faithful := by
  -- The pass reports the stale outcome, and the record is concluded by it.
  obtain ⟨n, id, m, t, o, r, hn, hm, ht, ho, hwork, hr, hgoing, hother⟩ := hstale
  obtain ⟨r', hr', hconcluded, hrequest⟩ :=
    concluded_of_pass hscan hheldScan lastly h.atWork hn hm ht ho hwork hr hgoing
  intro hfaithful
  obtain ⟨k', m', t', o', hreporter, hclaimed, -⟩ := hfaithful id r' hr' hconcluded
  have hopen : ¬ r.isConcluded = true :=
    Bool.eq_false_iff.1 (Record.isConcluded_of_going hgoing)
  have hreports : (a.step (shared scan heldScan lastly) (.reconcile k)).reporter id
      = some (k, m) := by
    unfold step
    dsimp only
    rw [hr, Option.any_some, if_neg hopen]
    unfold Step.reporter?
    dsimp only
    rw [hn, Option.bind_some, hm]
    rfl
  rw [hreports] at hreporter
  cases hreporter
  rw [claimed_of_ticket ht, hrequest] at hclaimed
  exact hother hclaimed

/-- A run of routine steps keeps the notes consistent. -/
theorem consistent_run (hscan : ∀ ids, (scan ids).Perm ids) (heldScan : Registry.Scan)
    (lastly : Job → WorkEnd) {steps : List Step} (hsteps : ∀ s ∈ steps, s.isRoutine = true)
    {a : Chronicle} (h : a.Consistent) :
    (a.run (shared scan heldScan lastly) steps).Consistent := by
  induction steps generalizing a with
  | nil => exact h
  | cons s rest ih =>
    have hcourse := course_step hscan heldScan lastly h.atWork (hsteps s List.mem_cons_self)
    exact ih (fun s' hs' => hsteps s' (List.mem_cons_of_mem s hs')) (h.step hcourse)

/-- A longer run ends with its last step. -/
theorem run_append_singleton (world : World Registry) (before : List Step) (s : Step)
    (a : Chronicle) : a.run world (before ++ [s]) = (a.run world before).step world s :=
  List.foldl_concat ..

/-- Whose outcomes the records tell. Take any run of clustered nodes, with any settings, next to
one queue that is changed only through them; ids may be submitted again once their records have
expired, and the clock may be set to any time. Then at every point of the run every record that
is done or failed tells the outcome of an execution of its own submission, which was claimed,
exactly when no pass of the run meets a stale outcome: that of a job which the node goes on
holding, while the record under its id is that of another submission and waits or runs. -/
theorem run_faithful_iff (hscan : ∀ ids, (scan ids).Perm ids)
    (hheldScan : ∀ ids, (heldScan ids).Perm ids) (lastly : Job → WorkEnd) (now : Nat)
    {retention : Option Nat} {nodes : List (Option Node)}
    (hnodes : ∀ n, some n ∈ nodes → ∃ settings, n.StartedClustered settings retention)
    {steps : List Step} (hsteps : ∀ s ∈ steps, s.isRoutine = true) :
    let after := fun before => run (shared scan heldScan lastly) before
      { cluster := { now, queue := { retention }, nodes } }
    (∀ before, before <+: steps → (after before).Faithful) ↔
      ∀ before k, before ++ [.reconcile k] <+: steps → ¬ (after before).Stale k := by
  intro after
  have hnew : Consistent { cluster := { now, queue := { retention }, nodes } } := by
    refine consistent_of_new (atWork_of_new hnodes) ?_ fun id => rfl
    intro k m
    cases ht : ticket? k m _ with
    | none => rfl
    | some t =>
      obtain ⟨n, hn, ht⟩ := ticket?_eq_some_iff.1 ht
      obtain ⟨settings, hstarted⟩ := hnodes n (mem_of_node? hn)
      rw [hstarted.joined.2.2.2] at ht
      cases ht
  have hconsistent {before : List Step} (hbefore : before <+: steps) :
      (after before).Consistent :=
    consistent_run hscan heldScan lastly (fun s hs => hsteps s (hbefore.subset hs)) hnew
  constructor
  · intro hfaithful before k hpass hstale
    have hafter := hfaithful _ hpass
    have hbefore : before <+: steps := (List.prefix_append ..).trans hpass
    rw [show after (before ++ [.reconcile k]) = _ from run_append_singleton ..] at hafter
    exact hstale.not_faithful hscan hheldScan lastly (hconsistent hbefore) hafter
  · intro hfresh before
    -- The notes are faithful at the start and each step keeps them so.
    induction before using List.reverseRecOn with
    | nil =>
      intro _ id r hr
      cases hr
    | append_singleton before s ih =>
      intro hstep
      have hbefore : before <+: steps := (List.prefix_append ..).trans hstep
      have hs := hsteps s (hstep.subset (List.mem_append_right before (List.mem_singleton_self s)))
      have h := hconsistent hbefore
      rw [show after (before ++ [s]) = _ from run_append_singleton ..]
      refine h.faithful_step (course_step hscan heldScan lastly h.atWork hs) (ih hbefore) ?_
      rintro k rfl
      exact hfresh before k hstep

/-- The first of two nodes claims a job and the second one finds it abandoned. Its id is
submitted again after the record has expired. Then the work of the first job ends, before the
node has made another pass. -/
def resubmitted : List Step :=
  [.submit 0 { id := "a", submittedAt := 0 }, .reconcile 0, .setClock 120001, .reconcile 1,
    .setClock 1920002, .submit 1 { id := "a", submittedAt := 1920002 },
    .release (some 0) "a" (.report ⟨"u1", "f1", "m1"⟩), .reconcile 0]

/-- Two nodes with the default settings. The last pass of the run meets a stale outcome. -/
theorem run_faithful_iff_resubmitted :
    let after := fun before => run (shared id id .standard) before
      { cluster := { now := 0, queue := { retention := some defaultRetention },
                     nodes := freshPair } }
    (∀ before, before <+: resubmitted → (after before).Faithful) ↔
      ∀ before k, before ++ [.reconcile k] <+: resubmitted → ¬ (after before).Stale k := by
  have hnodes (n : Node) (hn : some n ∈ freshPair) :
      ∃ settings, n.StartedClustered settings (some defaultRetention) :=
    ⟨oneWorker, startedClustered_freshPair hn⟩
  exact @run_faithful_iff id id (fun _ => .rfl) (fun _ => .rfl) .standard 0
    (some defaultRetention) _ hnodes resubmitted (by decide)

/-- The notes after this run. -/
def misreported : Chronicle :=
  run (shared id id .standard) resubmitted
    { cluster := { now := 0, queue := { retention := some defaultRetention },
                   nodes := freshPair } }

/-- The record of the second submission, which no node has claimed, is done. It tells the outcome
of the only ticket of the first node, and that was given out for the first submission. -/
theorem not_faithful_misreported :
    (misreported.cluster.record? "a").map (fun r => (r.status.request, r.stage, r.status.report))
        = some (2, .done, some ⟨"u1", "f1", "m1"⟩) ∧
      misreported.reporter "a" = some (0, 0) ∧ misreported.claimed 0 0 = some 1 ∧
      ¬ misreported.Faithful := by
  have hrecord : (misreported.cluster.record? "a").map
      (fun r => (r.status.request, r.stage, r.status.report))
        = some (2, .done, some ⟨"u1", "f1", "m1"⟩) := by decide +kernel
  have hreporter : misreported.reporter "a" = some (0, 0) := by decide +kernel
  -- The ticket was given out for the first submission and the record is that of the second.
  have hclaimed : misreported.claimed 0 0 = some 1 := by decide +kernel
  refine ⟨hrecord, hreporter, hclaimed, ?_⟩
  intro hfaithful
  obtain ⟨r, hr, hfields⟩ := Option.map_eq_some_iff.1 hrecord
  obtain ⟨hrequest, hfields⟩ := Prod.mk.inj hfields
  obtain ⟨hstage, -⟩ := Prod.mk.inj hfields
  have hconcluded : r.isConcluded = true := Record.isConcluded_iff.2 (.inl hstage)
  obtain ⟨k, m, t, o, hk, hown, -⟩ := hfaithful "a" r hr hconcluded
  rw [hreporter] at hk
  cases hk
  rw [hclaimed, hrequest] at hown
  cases hown

end Chronicle

end Cluster

end JobScheduling
