import JobScheduling.Proofs.Cluster.Admission
import JobScheduling.Proofs.Cluster.Pass
import JobScheduling.Proofs.Node.Order

/-!
# `JobScheduling.Proofs.Cluster.HeldJobs`: the part of a pass that concerns the held jobs

A pass starts with the jobs that its node holds. Some of them have finished
(`Node.HoldsFinished`), and some of the others are overdue (`Node.HoldsOverdue`). The node lets go
of both, and cancels the tickets of the second kind. Each job that it lets go is reported, and
`Record.Ended` says what becomes of its record. `Node.ReviewsHeld` puts this together, with what
stays as it was.

`Node.Reviewed` describes the same by functions. `reviewsHeld` is the way from there, and
`later_reviewsHeld` says it of every cluster, whatever has happened.
-/

set_option autoImplicit false

namespace JobScheduling

namespace Record

/-- What the record of a job shows that was reported with an outcome while it waited or ran. -/
def Shows (r : Record) : Outcome → Prop
  | .completed report =>
    r.stage = .done ∧ r.status.report = some report ∧ r.status.error = none
  | .failed failure =>
    r.stage = .error ∧ r.status.error = some failure.rootCause ∧ r.status.report = none
  | .cancelled =>
    r.stage = .canceled ∧ r.status.error = some Node.timeoutReason ∧ r.status.report = none
  | .interrupted => False

/-- What becomes of the record `r` of a job that is let go, by how the job ended. -/
structure Ended (now : Nat) (outcome : Outcome) (r r' : Record) : Prop where
  going : r.stage = .waiting ∨ r.stage = .running →
    r'.Shows outcome ∧ r'.status.completedAt = some now
  /-- A job that was asked to stop ends as canceled, whatever its work came to. -/
  asked : r.stage = .canceling →
    r'.stage = .canceled ∧ r'.status.error = r.status.error ∧ r'.status.report = none ∧
      r'.status.completedAt = some now
  /-- A record that has ended before stays as it is. -/
  final : r.isFinal = true → r' = r
  kept : r'.status.job = r.status.job ∧ r'.status.request = r.status.request ∧
    r'.lastCheck = r.lastCheck

section
variable {now : Nat} {outcome : Outcome} {r : Record}

/-- A report of a job that has ended changes nothing. -/
theorem reported_of_isFinal (h : r.isFinal = true) : r.reported now outcome = r := by
  have hfinish (ending : Ending) : Registry.finished now ending r = r := by
    simp only [Registry.finished, finish]
    -- An ended record stays, whichever report comes.
    cases hr : r.stage with
    | waiting | running | canceling =>
      rw [isFinal_of_stage hr] at h
      cases h
    | canceled | done | error => rfl
  cases outcome with
  | completed report => exact hfinish _
  | failed failure => exact hfinish _
  | cancelled => exact Registry.cancel_of_isFinal h ..
  | interrupted => rfl

/-- A job that was asked to stop has stopped, whatever is reported of it. -/
theorem reported_of_canceling (h : r.stage = .canceling) (ho : outcome ≠ .interrupted) :
    r.reported now outcome = (r.enter .canceled).stampEnd now := by
  cases outcome with
  | completed | failed => simp [reported, Registry.finished, finish, h, Except.toOption]
  | cancelled => simp [reported, cancel, h, isFinal, Stage.isFinal]
  | interrupted => exact absurd rfl ho

/-- A record that has not ended tells no result. -/
theorem Lawful.report_eq_none (h : r.Lawful) (hopen : r.isFinal = false) :
    r.status.report = none := by
  refine Option.not_isSome_iff_eq_none.1 fun hsome => ?_
  rw [isFinal_of_stage (h.report.1 hsome)] at hopen
  cases hopen

/-- A job that waits or runs ends by the report, and its record shows the outcome and the time. -/
theorem shows_reported (ho : outcome ≠ .interrupted) (h : r.Lawful)
    (hgoing : r.stage = .waiting ∨ r.stage = .running) :
    (r.reported now outcome).Shows outcome ∧
      (r.reported now outcome).status.completedAt = some now := by
  -- Only ended records have a report or a reason to begin with.
  have hreport : r.status.report = none := by
    refine h.report_eq_none ?_
    rcases hgoing with hr | hr <;> exact isFinal_of_stage hr
  have herror : r.status.error = none := by
    refine Option.not_isSome_iff_eq_none.1 fun hsome => ?_
    have hstage := h.error.1 hsome
    rcases hgoing with hr | hr <;> simp [hr] at hstage
  cases outcome with
  | completed report =>
    simp only [reported, Registry.finished, finish]
    rcases hgoing with hr | hr <;> simp only [hr] <;> exact ⟨⟨rfl, rfl, herror⟩, rfl⟩
  | failed failure =>
    simp only [reported, Registry.finished, finish]
    rcases hgoing with hr | hr <;> simp only [hr] <;> exact ⟨⟨rfl, rfl, hreport⟩, rfl⟩
  | cancelled =>
    simp only [reported, cancel, isFinal]
    rcases hgoing with hr | hr <;> simp only [hr] <;> exact ⟨⟨rfl, rfl, hreport⟩, rfl⟩
  | interrupted => exact absurd rfl ho

/-- A report says nothing of the submission, and is not a check. -/
theorem kept_reported (now : Nat) (outcome : Outcome) (r : Record) :
    (r.reported now outcome).status.job = r.status.job ∧
      (r.reported now outcome).status.request = r.status.request ∧
      (r.reported now outcome).lastCheck = r.lastCheck := by
  cases outcome with
  | completed | failed =>
    simp only [reported, Registry.finished, finish]
    cases r.stage <;> exact ⟨rfl, rfl, rfl⟩
  | cancelled =>
    simp only [reported, cancel]
    cases hr : r.stage <;> simp only [isFinal, hr] <;> exact ⟨rfl, rfl, rfl⟩
  | interrupted => exact ⟨rfl, rfl, rfl⟩

/-- A report ends the record of its job. -/
theorem ended_reported (now : Nat) (ho : outcome ≠ .interrupted) (h : r.Lawful) :
    r.Ended now outcome (r.reported now outcome) where
  going := shows_reported ho h
  asked hr := by
    rw [reported_of_canceling hr ho]
    exact ⟨rfl, rfl, h.report_eq_none (isFinal_of_stage hr), rfl⟩
  final := reported_of_isFinal
  kept := kept_reported now outcome r

end

end Record

namespace Node

/-- The node holds the job, and its ticket has finished. -/
def HoldsFinished (n : Node) (id : String) : Prop :=
  ∃ t, n.ticket? id = some t ∧ t.isFinished = true

/-- The node holds the job, and its ticket has not finished, although the job has taken longer
than the node allows, or nobody has asked for it for longer than that. -/
def HoldsOverdue (now : Nat) (q : Registry) (n : Node) (id : String) : Prop :=
  ∃ t, n.ticket? id = some t ∧ t.isFinished = false ∧
    (n.settings.timeoutSecs * 1000 < now - t.job.submittedAt ∨
      ∃ r, q.records.find? id = some r ∧ n.settings.abandonedSecs * 1000 < now - r.lastCheck)

/-- What the part of a pass that concerns the held jobs makes of a site. -/
structure ReviewsHeld (now : Nat) (site site' : Site Registry) : Prop where
  /-- The node lets go of the jobs that have finished and of those that are overdue. -/
  letGo : ∀ {id}, site.node.HoldsFinished id ∨ site.node.HoldsOverdue now site.queue id →
    site'.node.held.find? id = none
  /-- It holds all others as before, and their records stay as they are. -/
  kept : ∀ {id}, ¬ site.node.HoldsFinished id → ¬ site.node.HoldsOverdue now site.queue id →
    site'.node.held.find? id = site.node.held.find? id ∧
      site'.queue.records.find? id = site.queue.records.find? id
  /-- The tickets of the overdue jobs are cancelled. -/
  cancels : ∀ {id m t}, site.node.HoldsOverdue now site.queue id →
    site.node.held.find? id = some m → site.node.pool.tickets[m]? = some t →
      t.outcome? = none ∧ t.cancel.2.outcome? = some .cancelled ∧
        site'.node.pool.tickets[m]? = some t.cancel.2
  /-- All other tickets stay as they are. -/
  spares : ∀ m : Nat, (∀ id, site.node.HoldsOverdue now site.queue id →
    site.node.held.find? id ≠ some m) →
      site'.node.pool.tickets[m]? = site.node.pool.tickets[m]?
  /-- A job that has finished is reported with its outcome, which is not an interruption. -/
  reports : ∀ {id t outcome}, site.node.ticket? id = some t → t.outcome? = some outcome →
    outcome ≠ .interrupted ∧ ∀ r, site.queue.records.find? id = some r →
      ∃ r', site'.queue.records.find? id = some r' ∧ r.Ended now outcome r'
  /-- An overdue job is reported as cancelled. -/
  expires : ∀ {id}, site.node.HoldsOverdue now site.queue id →
    ∀ r, site.queue.records.find? id = some r →
      ∃ r', site'.queue.records.find? id = some r' ∧ r.Ended now .cancelled r'
  /-- No record is made. -/
  missing : ∀ id, site.queue.records.find? id = none → site'.queue.records.find? id = none
  /-- A purge is left to the workers exactly if some job was overdue. -/
  purges : (∃ id, site.node.HoldsOverdue now site.queue id) →
    site'.node.pool.backlog = site.node.pool.backlog.pushChore .purge ∧
      site'.node.pool.counters
        = { site.node.pool.counters with queued := site.node.pool.counters.queued + 1 }
  quiet : (¬ ∃ id, site.node.HoldsOverdue now site.queue id) →
    site'.node.pool.backlog = site.node.pool.backlog ∧
      site'.node.pool.counters = site.node.pool.counters
  /-- Nothing else of the node changes. -/
  rest : ∃ held tickets backlog counters, site'.node = { site.node with
    held, pool := { site.node.pool with tickets, backlog, counters } }

variable {now : Nat} {q : Registry} {site site' : Site Registry} {ids : List String}

/-- A job is due when it is late, or when its client has not asked for too long. -/
theorem isDue_iff {n : Node} {id : String} {t : Ticket} :
    n.isDue now q id t = true ↔ n.settings.timeoutSecs * 1000 < now - t.job.submittedAt ∨
      ∃ r, q.records.find? id = some r ∧ n.settings.abandonedSecs * 1000 < now - r.lastCheck := by
  unfold isDue isTimedOut
  rw [Bool.or_eq_true, decide_eq_true_iff, Option.any_eq_true]
  simp only [decide_eq_true_iff]
  rfl

/-- What the pass finds expired is what is overdue. -/
theorem finding_eq_expired_iff {n : Node} {id : String} :
    n.finding now q id = .expired ↔ n.HoldsOverdue now q id := by
  simp only [finding, HoldsOverdue, ← isDue_iff]
  cases n.ticket? id with
  | none => simp
  | some t => cases hf : t.isFinished <;> cases hd : n.isDue now q id t <;> simp [hf, hd]

/-- A held job is visited. -/
theorem mem_of_ticket? {n : Node} {heldScan : Registry.Scan}
    (hheldScan : ∀ ids, (heldScan ids).Perm ids) {id : String} {t : Ticket}
    (ht : n.ticket? id = some t) : id ∈ heldScan n.held.keys := by
  obtain ⟨m, hm, -⟩ := ticket?_eq_some_iff.1 ht
  exact (hheldScan _).mem_iff.2 (Table.mem_keys_of_find? hm)

/-! ### The pool after a review -/

/-- The reports leave the node alone but for what it holds. -/
theorem node_foldl_settledSite (now : Nat) (ids : List String) (site : Site Registry) :
    ∃ held, (ids.foldl (fun site id => settledSite now id site) site).node
      = { site.node with held } := by
  induction ids generalizing site with
  | nil => exact ⟨_, rfl⟩
  | cons id ids ih =>
    obtain ⟨held, hnode⟩ := ih (settledSite now id site)
    exact ⟨held, hnode⟩

/-- Of the pool of a node that goes on a review changes tickets, and it leaves a purge to the
workers if some job has expired. -/
theorem node_reviewedSite (now : Nat) (ids : List String)
    (hopen : site.node.pool.isShutDown = false) :
    ∃ held tickets, (reviewedSite now ids site).node = { site.node with
      held
      pool :=
        if ids.any fun id => site.node.finding now site.queue id = .expired then
          { site.node.pool with
            tickets
            backlog := site.node.pool.backlog.pushChore .purge
            counters := { site.node.pool.counters with
              queued := site.node.pool.counters.queued + 1 } }
        else { site.node.pool with tickets } } := by
  -- The examinations change tickets, the purge is one chore more, and the reports let go of jobs.
  obtain ⟨tickets, hexamined⟩ := examineAll_eq now site.queue ids site.node
  unfold reviewedSite
  rw [hexamined]
  dsimp only
  obtain ⟨held, hnode⟩ := node_foldl_settledSite now _ _
  refine ⟨held, tickets, hnode.trans ?_⟩
  split
  · simp only [schedulePurge, Pool.schedulePurge]
    rw [hopen, if_neg Bool.false_ne_true]
  · rfl

/-! ### From one description to the other -/

/-- An overdue ticket is open, and its judgement is to cancel it. -/
theorem judged_of_holdsOverdue {n : Node} {id : String} (h : n.HoldsOverdue now q id) {t : Ticket}
    (ht : n.ticket? id = some t) : t.outcome? = none ∧ n.judged now q id t = t.cancel.2 := by
  obtain ⟨t', ht', hopen, hdue⟩ := h
  cases ht.symm.trans ht'
  refine ⟨?_, if_pos ⟨hopen, isDue_iff.2 hdue⟩⟩
  rwa [Ticket.isFinished, Option.isSome_eq_false_iff, Option.isNone_iff_eq_none] at hopen

/-- An overdue job leaves as cancelled. -/
theorem leaving_of_holdsOverdue {n : Node} {id : String} (hid : id ∈ ids)
    (h : n.HoldsOverdue now q id) : n.leaving now q ids id = some .cancelled := by
  obtain ⟨t, ht⟩ : ∃ t, n.ticket? id = some t := h.imp fun _ h => h.1
  obtain ⟨hopen, hjudged⟩ := judged_of_holdsOverdue h ht
  simp only [leaving]
  rw [if_pos hid, ht, Option.bind_some, hjudged, Ticket.outcome?_cancel, hopen]
  rfl

/-- A job that has not finished and is not overdue stays with the node. -/
theorem leaving_of_stays {n : Node} {id : String} (hfinished : ¬ n.HoldsFinished id)
    (hoverdue : ¬ n.HoldsOverdue now q id) : n.leaving now q ids id = none := by
  by_cases hid : id ∈ ids
  · cases ht : n.ticket? id with
    | none => simp [leaving, ht]
    | some t =>
      have hopen : t.isFinished = false := Bool.eq_false_iff.2 fun hf => hfinished ⟨t, ht, hf⟩
      refine (leaving_eq_none_iff hid ht).2 ⟨hopen, ?_⟩
      exact Bool.eq_false_iff.2 fun hdue => hoverdue ⟨t, ht, hopen, isDue_iff.1 hdue⟩
  · exact if_neg hid

/-- What a review makes of a site, in both descriptions. -/
theorem Reviewed.reviewsHeld {heldScan : Registry.Scan} (hheldScan : ∀ ids, (heldScan ids).Perm ids)
    (h : Reviewed now (heldScan site.node.held.keys) site site')
    (hsame : site' = reviewedSite now (heldScan site.node.held.keys) site)
    (hwhole : site.node.Whole) (hgoesOn : site.node.isShutDown = false)
    (hkeyed : site.queue.Keyed) : ReviewsHeld now site site' := by
  have hopen : site.node.pool.isShutDown = false := hwhole.stopped.symm.trans hgoesOn
  have hvisits {id : String} {t : Ticket} (ht : site.node.ticket? id = some t) :=
    mem_of_ticket? hheldScan ht
  generalize heldScan site.node.held.keys = ids at h hsame hvisits
  have hexpires {id : String} (hid : site.node.HoldsOverdue now site.queue id) :
      site.node.leaving now site.queue ids id = some .cancelled := by
    obtain ⟨t, ht⟩ : ∃ t, site.node.ticket? id = some t := hid.imp fun _ h => h.1
    exact leaving_of_holdsOverdue (hvisits ht) hid
  have hends {id : String} {outcome : Outcome}
      (hleaving : site.node.leaving now site.queue ids id = some outcome) (r : Record)
      (hr : site.queue.records.find? id = some r) :
      ∃ r', site'.queue.records.find? id = some r' ∧ r.Ended now outcome r' := by
    refine ⟨r.reported now outcome, ?_, ?_⟩
    · rw [h.records, hr, hleaving]
      rfl
    · exact r.ended_reported now
        (h.leaving_ne_interrupted hwhole.named hwhole.sound hopen hleaving) (hkeyed id r hr).2
  have hany : (ids.any fun id => site.node.finding now site.queue id = .expired) = true
      ↔ ∃ id, site.node.HoldsOverdue now site.queue id := by
    rw [List.any_eq_true]
    simp only [decide_eq_true_iff, finding_eq_expired_iff]
    exact ⟨fun ⟨id, _, hid⟩ => ⟨id, hid⟩, fun ⟨id, hid⟩ => ⟨id, hvisits hid.choose_spec.1, hid⟩⟩
  obtain ⟨held, tickets, hnode⟩ := node_reviewedSite now ids hopen
  rw [← hsame] at hnode
  exact
    { letGo := by
        rintro id (⟨t, ht, hf⟩ | hid)
        · obtain ⟨outcome, ho⟩ := Option.isSome_iff_exists.1 hf
          rw [h.held, leaving_of_outcome? (hvisits ht) ht ho]
          rfl
        · rw [h.held, hexpires hid]
          rfl
      kept := fun hfinished hoverdue => h.of_stays (leaving_of_stays hfinished hoverdue)
      cancels := by
        intro id m t hid hm ht
        have hticket : site.node.ticket? id = some t := ticket?_eq_some_iff.2 ⟨m, hm, ht⟩
        obtain ⟨hnone, hjudged⟩ := judged_of_holdsOverdue hid hticket
        obtain ⟨t', ht', hjob⟩ := hwhole.named id m hm
        cases ht.symm.trans ht'
        refine ⟨hnone, ?_, ?_⟩
        · rw [Ticket.outcome?_cancel, hnone]
          rfl
        · rw [h.tickets, ht, Option.map_some, hjob, if_pos ⟨hvisits hticket, hm⟩, hjudged]
      spares := by
        intro m hspared
        rw [h.tickets]
        cases ht : site.node.pool.tickets[m]? with
        | none => rfl
        | some t =>
          rw [Option.map_some]
          split
          next hheld =>
            -- What is held and not overdue is left as it is.
            have hticket : site.node.ticket? t.job.id = some t :=
              ticket?_eq_some_iff.2 ⟨m, hheld.2, ht⟩
            refine congrArg some (if_neg fun hdue => ?_)
            exact hspared t.job.id ⟨t, hticket, hdue.1, isDue_iff.1 hdue.2⟩ hheld.2
          next => rfl
      reports := by
        intro id t outcome ht ho
        have hleaving : site.node.leaving now site.queue ids id = some outcome :=
          leaving_of_outcome? (hvisits ht) ht ho
        exact ⟨h.leaving_ne_interrupted hwhole.named hwhole.sound hopen hleaving, hends hleaving⟩
      expires := fun hid => hends (hexpires hid)
      missing := by
        intro id hnone
        rw [h.records, hnone]
        rfl
      purges := by
        intro hsome
        rw [hnode, if_pos (hany.2 hsome)]
        exact ⟨rfl, rfl⟩
      quiet := by
        intro hnone
        rw [hnode, if_neg fun h => hnone (hany.1 h)]
        exact ⟨rfl, rfl⟩
      rest := by
        rw [hnode]
        split
        · exact ⟨held, tickets, _, _, rfl⟩
        · exact ⟨held, tickets, site.node.pool.backlog, site.node.pool.counters, rfl⟩ }

end Node

namespace Cluster

variable {scan heldScan : Registry.Scan}

/-- What a pass does to the held jobs. Take nodes that have just started, clustered or not, with
any settings, priorities and work, next to an empty queue, whatever has happened since to them and
to the queue. Then take a node that goes on. The part of its pass that concerns the held jobs ends
with an answer, and leaves what `Node.ReviewsHeld` says, in whichever order the held jobs are
visited. On a node that is not clustered the pass is over by that. On a clustered one the part that
concerns the jobs of all nodes follows. -/
theorem later_reviewsHeld (hscan : ∀ ids, (scan ids).Perm ids)
    (hheldScan : ∀ ids, (heldScan ids).Perm ids) (lastly : Job → WorkEnd) {now : Nat}
    {retention : Option Nat} {nodes : List (Option Node)}
    (hnodes : ∀ n, some n ∈ nodes → ∃ clustered, n.Started clustered) (past : List Happening) :
    let c := later scan heldScan lastly past { now, queue := { retention }, nodes }
    ∀ k n, c.node? k = some n → n.isShutDown = false →
      ∃ after, (Node.reviewHeld (Registry.service scan c.now) heldScan c.now).run (c.site n)
          = (.ok (), after) ∧
        Node.ReviewsHeld c.now (c.site n) after ∧
        ((Node.reconcile (Registry.service scan c.now) heldScan c.now).run (c.site n)).2
          = if n.settings.clustered then
              ((Node.reviewShared (Registry.service scan c.now)).run after).2
            else after := by
  intro c k n hn hgoesOn
  have h : c.Sized := sized_later hscan heldScan lastly past (sized_of_new hnodes)
  have hfit := h.nodes k n hn
  obtain ⟨after, hrun, hr⟩ := Node.run_reviewHeld scan c.now heldScan (c.site n) hfit.named
  have hnodup : (heldScan n.held.keys).Nodup := (hheldScan _).nodup_iff.2 n.held.distinct
  -- The same pass, described once by what it is related to and once by functions.
  have hsame : after = Node.reviewedSite c.now (heldScan n.held.keys) (c.site n) := by
    have heq : (Node.reviewHeld (Registry.service scan c.now) heldScan c.now).run (c.site n)
        = (.ok (), Node.reviewedSite c.now (heldScan n.held.keys) (c.site n)) :=
      Node.run_reviewHeld_eq scan c.now hnodup hfit.named
    exact congrArg Prod.snd (hrun.symm.trans heq)
  refine ⟨after, hrun, hr.reviewsHeld hheldScan hsame hfit.toWhole hgoesOn h.keyed, ?_⟩
  rw [Node.site_reconcile heldScan hrun, hr.settings]
  show (if n.isShutDown = true then _ else _) = _
  rw [hgoesOn, if_neg Bool.false_ne_true]
  rfl

/-- A job has finished that somebody else has asked to stop, and another one runs that takes too
long. -/
def overdueNext : List Happening :=
  [.step (.submit 1 { id := "a", submittedAt := 5 }),
    .step (.submit 1 { id := "b", submittedAt := 5 }), .request (.cancel "a" "enough" false),
    .step (.release (some 1) "a" (.failure (.ofMessage "no paper"))), .step (.setClock 700000)]

/-- The pass of the node that runs both jobs. -/
theorem later_reviewsHeld_overdueNext :
    let c := later id id .standard overdueNext
      { now := 5, queue := { retention := some defaultRetention }, nodes := mixedPair }
    ∃ n, c.node? 1 = some n ∧ n.isShutDown = false ∧ n.HoldsFinished "a" ∧
      n.HoldsOverdue c.now c.queue "b" ∧
      ∃ after, (Node.reviewHeld (Registry.service id c.now) id c.now).run (c.site n)
          = (.ok (), after) ∧
        Node.ReviewsHeld c.now (c.site n) after ∧
        ((Node.reconcile (Registry.service id c.now) id c.now).run (c.site n)).2
          = if n.settings.clustered then
              ((Node.reviewShared (Registry.service id c.now)).run after).2
            else after := by
  intro c
  have hthere : (c.node? 1).any (fun n => !n.isShutDown && ((n.ticket? "a").any (·.isFinished) &&
      (n.ticket? "b").any fun t => !t.isFinished &&
        decide (n.settings.timeoutSecs * 1000 < c.now - t.job.submittedAt))) = true := by
    decide +kernel
  obtain ⟨n, hn, hjobs⟩ := (Option.any_eq_true ..).1 hthere
  obtain ⟨hgoesOn, hjobs⟩ := (Bool.and_eq_true ..).mp hjobs
  obtain ⟨hfinished, hoverdue⟩ := (Bool.and_eq_true ..).mp hjobs
  obtain ⟨t, ht, hlate⟩ := (Option.any_eq_true ..).1 hoverdue
  obtain ⟨hopen, hlate⟩ := (Bool.and_eq_true ..).mp hlate
  rw [Bool.not_eq_true'] at hgoesOn hopen
  exact ⟨n, hn, hgoesOn, (Option.any_eq_true ..).1 hfinished,
    ⟨t, ht, hopen, .inl (of_decide_eq_true hlate)⟩,
    @later_reviewsHeld id id (fun _ => .rfl) (fun _ => .rfl) .standard 5 (some defaultRetention) _
      exists_started_mixedPair overdueNext 1 n hn hgoesOn⟩

end Cluster

end JobScheduling
