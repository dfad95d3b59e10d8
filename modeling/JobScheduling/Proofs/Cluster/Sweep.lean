import JobScheduling.Proofs.Cluster.HeldJobs
import JobScheduling.Proofs.Cluster.Origin

/-!
# `JobScheduling.Proofs.Cluster.Sweep`: the limits of a node

The limits of a node are in seconds, and three places compare times with them. The node multiplies
them by a thousand when it examines a held job. The shared queue is given the products, which stop
at the largest number there is. The check of the settings compares the same products with the
retention. `Node.LimitsAgree` and `Settings.retentionFault?_some` say that all three come to the
comparison with the exact products, since no time and no retention lies beyond the largest number.

On a clustered node both tests are made in one pass. The node examines the jobs that it holds, and
then `Node.swept` cancels the overdue jobs of all nodes. The first test reads the submission of the
job in the ticket, the second one in the record. If no id is submitted twice this is the same job
(`Cluster.job_eq_of_later`). So what the node still holds by then is not overdue, and the sweep
spares it (`limits_agree`).
-/

set_option autoImplicit false

namespace JobScheduling

namespace Settings

variable (s : Settings)

/-- What the check against a retention comes to. The first limit that it looks at is that of jobs
which are abandoned. -/
theorem retentionFault?_some {retention : Nat} (h : retention ≤ maxWord) :
    s.retentionFault? (some retention)
      = if retention ≤ s.abandonedSecs * 1000 then
          some (.beyondRetention "abandoned_timeout" s.abandonedMillis retention)
        else if retention ≤ s.timeoutSecs * 1000 then
          some (.beyondRetention "timeout" s.timeoutMillis retention)
        else none := by
  have hle (secs : Nat) : retention ≤ capped (secs * 1000) ↔ retention ≤ secs * 1000 := by
    rw [le_capped_iff, and_iff_left h]
  simp only [retentionFault?, abandonedMillis, timeoutMillis, hle]

/-- The settings pass exactly if the retention, when there is one, is longer than both limits. -/
theorem retentionFault?_eq_none_iff {retention : Option Nat} (h : ∀ r ∈ retention, r ≤ maxWord) :
    s.retentionFault? retention = none
      ↔ ∀ r ∈ retention, s.abandonedSecs * 1000 < r ∧ s.timeoutSecs * 1000 < r := by
  cases retention with
  | none => exact iff_of_true rfl nofun
  | some r =>
    rw [s.retentionFault?_some (h r rfl)]
    simp only [Option.mem_some_iff, forall_eq']
    split
    · simp; omega
    split
    · simp; omega
    · simp; omega

end Settings

/-- A visit by `cancelOverdue` does to a record that is not overdue what a purge does. -/
theorem Registry.find?_cancelOverdue_of_inTime {scan : Scan} {now timeout abandoned : Nat}
    {reason : String} {q : Registry} {id : String}
    (h : ∀ r, q.records.find? id = some r → r.isOverdue now timeout abandoned = false) :
    (q.cancelOverdue scan now timeout abandoned reason).2.records.find? id
      = (q.purge now).records.find? id := by
  rw [find?_cancelOverdue]
  split
  · cases hr : (q.purge now).records.find? id with
    | none => rfl
    | some r =>
      rw [Option.map_some, evicted, h r (find?_of_find?_purge hr), if_neg Bool.false_ne_true]
  · rfl

namespace Node

/-- The tests for an overdue job, at a time. -/
structure LimitsAgree (now : Nat) (n : Node) : Prop where
  /-- The node tests whether a job takes too long. -/
  timedOut : ∀ job, n.isTimedOut now job = true ↔
    n.settings.timeoutSecs * 1000 < now - job.submittedAt
  /-- It asks the queue for the last check to test whether a job is abandoned. -/
  abandoned : ∀ scan q id, ∃ answer,
    (isAbandoned (Registry.service scan now) id).run { node := n, queue := q }
        = (.ok answer, { node := n, queue := q }) ∧
      (answer = true ↔ ∃ r, q.records.find? id = some r ∧
        n.settings.abandonedSecs * 1000 < now - r.lastCheck)
  /-- The queue tests both, of a record that has not ended. -/
  overdue : ∀ r : Record,
    r.isOverdue now n.settings.timeoutMillis n.settings.abandonedMillis = true ↔
      r.isFinal = false ∧ (n.settings.timeoutSecs * 1000 < now - r.status.job.submittedAt ∨
        n.settings.abandonedSecs * 1000 < now - r.lastCheck)

/-- The limits of a node agree with those of the sweep at every time within the range. -/
theorem limitsAgree {now : Nat} (hrange : now ≤ maxWord) (n : Node) : n.LimitsAgree now where
  timedOut _ := decide_eq_true_iff
  abandoned scan q id := by
    refine ⟨_, run_isAbandoned id _, ?_⟩
    rw [Option.any_eq_true]
    simp only [decide_eq_true_iff]
    rfl
  overdue := Record.isOverdue_iff hrange

/-! ### The sweep -/

/-- A site after the overdue jobs of all nodes were cancelled, with the limits of this node. -/
def swept (scan : Registry.Scan) (now : Nat) (site : Site Registry) : Site Registry :=
  { site with queue := (site.queue.cancelOverdue scan now site.node.settings.timeoutMillis
      site.node.settings.abandonedMillis timeoutReason).2 }

/-- What a review of the shared queue does after the sweep. -/
def stopAndClaim {σ : Type} (service : SharedQueue σ) : Act σ Unit := do
  let requested ← Act.ask service service.toCancel
  Act.forEach (stopRequested service) requested
  claim service

variable {scan : Registry.Scan} {now : Nat} {site reviewed : Site Registry}

/-- A review of the shared queue begins with the sweep. -/
theorem run_reviewShared_swept (scan : Registry.Scan) (now : Nat) (site : Site Registry) :
    (reviewShared (Registry.service scan now)).run site
      = (stopAndClaim (Registry.service scan now)).run (swept scan now site) := by
  simp only [reviewShared]
  rw [Act.run_bind_ok (Act.run_node site), Act.run_bind_ok (Registry.run_cancelOverdue ..)]
  rfl

/-- What the sweep does next to the jobs that the node holds. -/
structure Sweeps (scan : Registry.Scan) (now : Nat) (site : Site Registry) : Prop where
  /-- Each job whose record is overdue is cancelled. -/
  cancels : ∀ {id r}, site.queue.records.find? id = some r →
    r.isOverdue now site.node.settings.timeoutMillis site.node.settings.abandonedMillis = true →
      (swept scan now site).queue.records.find? id = some (r.cancel now timeoutReason true)
  /-- The record of a job that the node holds stays as it is, unless it has ended. -/
  spares : ∀ {id r}, site.node.held.contains id = true → site.queue.records.find? id = some r →
    r.isFinal = false → (swept scan now site).queue.records.find? id = some r
  /-- No more than a purge is done to any record of such a job. -/
  purges : ∀ {id}, site.node.held.contains id = true →
    (swept scan now site).queue.records.find? id = (site.queue.purge now).records.find? id

/-- The sweep spares what the node holds, if none of it is overdue. -/
theorem sweeps_of_inTime (hscan : ∀ ids, (scan ids).Perm ids)
    (h : ∀ {id r}, site.node.held.contains id = true → site.queue.records.find? id = some r →
      r.isOverdue now site.node.settings.timeoutMillis site.node.settings.abandonedMillis
        = false) :
    Sweeps scan now site := by
  have hopen {id : String} {r : Record} (hr : site.queue.records.find? id = some r)
      (hr' : r.isFinal = false) : (site.queue.purge now).records.find? id = some r := by
    rw [Registry.find?_purge, hr, Option.filter_some, Registry.expires_eq_false hr']
    rfl
  have hpurges {id : String} (hid : site.node.held.contains id = true) :
      (swept scan now site).queue.records.find? id = (site.queue.purge now).records.find? id :=
    Registry.find?_cancelOverdue_of_inTime fun _ hr => h hid hr
  refine ⟨?_, fun hid hr hr' => (hpurges hid).trans (hopen hr hr'), hpurges⟩
  -- A record that is overdue is open, so the purge in the sweep leaves it there.
  intro id r hr hdue
  have hr' : r.isFinal = false := by
    rw [Record.isOverdue, Bool.and_eq_true, Bool.not_eq_true'] at hdue
    exact hdue.1
  obtain ⟨hfind, -⟩ := Registry.find?_swept hscan now site.node.settings.timeoutMillis
    site.node.settings.abandonedMillis timeoutReason site.queue id
  refine hfind.trans ?_
  rw [hopen hr hr', Option.map_some, Registry.evicted, if_pos hdue]

/-- What a node holds after the examination of all held jobs is not overdue next to the same limits,
if it holds the jobs that are recorded. -/
theorem Reviewed.inTime {ids : List String} (h : Reviewed now ids site reviewed)
    (hrange : now ≤ maxWord) (hvisits : ∀ {id t}, site.node.ticket? id = some t → id ∈ ids)
    (hnamed : site.node.Named)
    (hsame : ∀ {id t r}, site.node.ticket? id = some t → site.queue.records.find? id = some r →
      t.job = r.status.job) {id : String} {r : Record}
    (hheld : reviewed.node.held.contains id = true)
    (hr : reviewed.queue.records.find? id = some r) :
    r.isOverdue now reviewed.node.settings.timeoutMillis reviewed.node.settings.abandonedMillis
      = false := by
  obtain ⟨m, hm⟩ := Option.isSome_iff_exists.1 hheld
  rw [h.held] at hm
  split at hm
  · cases hm
  next hstays =>
    have hleaving := Option.not_isSome_iff_eq_none.1 hstays
    obtain ⟨t, ht, -⟩ := hnamed id m hm
    have hticket := ticket?_eq_some_iff.2 ⟨m, hm, ht⟩
    obtain ⟨-, hdue⟩ := (leaving_eq_none_iff (hvisits hticket) hticket).1 hleaving
    rw [(h.of_stays hleaving).2] at hr
    rw [h.settings, Bool.eq_false_iff]
    intro hoverdue
    -- Both tests read the same submission and the same last check.
    obtain ⟨-, hlimits⟩ := ((site.node.limitsAgree hrange).overdue r).1 hoverdue
    rw [← hsame hticket hr] at hlimits
    rw [isDue_iff.2 (hlimits.imp_right fun habandoned => ⟨r, hr, habandoned⟩)] at hdue
    cases hdue

end Node

namespace Cluster

/-- What the limits of a node come to.

At any time that can be told, the tests of a node and of the shared queue for an overdue job are
those with the exact products (`Node.LimitsAgree`), for any limits, node, job and record. And so is
the check of the settings, next to any retention that can be told: it passes exactly if the queue
keeps its records forever or both products are smaller, and otherwise it names the limit for jobs
which are abandoned, unless only the other one is to blame.

Take nodes that have just started, clustered or not, with any settings, priorities and work, next
to an empty queue, and whatever has happened since, if no id was submitted twice, be it to a node or
to the queue: nodes may have been stopped and lost, others may have called the queue, and the clock
may have gone either way. Then take a clustered node that goes on. Its pass examines
the jobs that it holds, in whichever order. The sweep that follows cancels what is overdue, and
spares the jobs that the node holds by then. -/
theorem limits_agree :
    (∀ (n : Node) {now : Nat}, now ≤ maxWord → n.LimitsAgree now) ∧
    (∀ (s : Settings) {retention : Option Nat}, (∀ r ∈ retention, r ≤ maxWord) →
      (s.retentionFault? retention = none
        ↔ ∀ r ∈ retention, s.abandonedSecs * 1000 < r ∧ s.timeoutSecs * 1000 < r) ∧
      ∀ r ∈ retention,
        (r ≤ s.abandonedSecs * 1000 → s.retentionFault? retention
          = some (.beyondRetention "abandoned_timeout" s.abandonedMillis r)) ∧
        (s.abandonedSecs * 1000 < r → r ≤ s.timeoutSecs * 1000 → s.retentionFault? retention
          = some (.beyondRetention "timeout" s.timeoutMillis r))) ∧
    ∀ {scan heldScan : Registry.Scan}, (∀ ids, (scan ids).Perm ids) →
      (∀ ids, (heldScan ids).Perm ids) → ∀ (lastly : Job → WorkEnd) {now : Nat}
        {retention : Option Nat} {nodes : List (Option Node)},
      (∀ n, some n ∈ nodes → ∃ clustered, n.Started clustered) →
      ∀ {past : List Happening}, (past.filterMap Happening.submitted?).Nodup →
        let c := later scan heldScan lastly past { now, queue := { retention }, nodes }
        c.now ≤ maxWord → ∀ k n, c.node? k = some n → n.isShutDown = false →
          n.settings.clustered = true →
          ∃ reviewed,
            (Node.reviewHeld (Registry.service scan c.now) heldScan c.now).run (c.site n)
              = (.ok (), reviewed) ∧
            ((Node.reconcile (Registry.service scan c.now) heldScan c.now).run (c.site n)).2
              = ((Node.stopAndClaim (Registry.service scan c.now)).run
                  (Node.swept scan c.now reviewed)).2 ∧
            Node.Sweeps scan c.now reviewed := by
  -- The conversions, the check of the settings, and the pass.
  refine ⟨fun n _ => n.limitsAgree, ?_, ?_⟩
  · intro s retention h
    refine ⟨s.retentionFault?_eq_none_iff h, ?_⟩
    rintro r rfl
    rw [s.retentionFault?_some (h r rfl)]
    constructor
    · intro habandoned
      rw [if_pos habandoned]
    · intro habandoned htimeout
      rw [if_neg (Nat.not_le.2 habandoned), if_pos htimeout]
  · intro scan heldScan hscan hheldScan lastly now retention nodes hnodes past honce c hrange k n
      hn hgoesOn hclustered
    have h : c.Sized := sized_later hscan heldScan lastly past (sized_of_new hnodes)
    have hnamed := (h.nodes k n hn).named
    obtain ⟨reviewed, hrun, hr⟩ := Node.run_reviewHeld scan c.now heldScan (c.site n) hnamed
    refine ⟨reviewed, hrun, ?_, ?_⟩
    · rw [Node.site_reconcile heldScan hrun, hr.settings,
        show (c.site n).node.isShutDown = false from hgoesOn, if_neg Bool.false_ne_true,
        show (c.site n).node.settings.clustered = true from hclustered, if_pos rfl,
        Node.run_reviewShared_swept]
    · -- No id was submitted twice, so the ticket and the record under it are for one job.
      have hsame {id : String} {t : Ticket} {r : Record} (ht : n.ticket? id = some t)
          (hr : c.queue.records.find? id = some r) : t.job = r.status.job :=
        job_eq_of_later hscan heldScan lastly hnodes honce hn ht hr
      exact Node.sweeps_of_inTime hscan
        (hr.inTime hrange (Node.mem_of_ticket? hheldScan) hnamed hsame)

/-- A clustered node holds a job. Another job waits that was submitted long ago, and that somebody
else has recorded. -/
def lateWaiting : List Happening :=
  [.step (.submit 0 { id := "a", submittedAt := 700000 }), .step (.reconcile 0),
    .request (.add { id := "b", submittedAt := 5 })]

/-- The limit of the settings is the first one whose product lies beyond the largest number. -/
theorem limits_agree_lateWaiting :
    (let s : Settings := { maxRunning := 1, timeoutSecs := 18446744073709552 }
     maxWord < s.timeoutSecs * 1000 ∧ s.retentionFault? (some maxWord)
       = some (.beyondRetention "timeout" s.timeoutMillis maxWord)) ∧
    let c := later id id .standard lateWaiting
      { now := 700000, queue := { retention := some defaultRetention }, nodes := mixedPair }
    c.now ≤ maxWord ∧ ∃ n, c.node? 0 = some n ∧ n.LimitsAgree c.now ∧ n.isShutDown = false ∧
      n.settings.clustered = true ∧ n.held.contains "a" = true ∧
      ∃ reviewed, (Node.reviewHeld (Registry.service id c.now) id c.now).run (c.site n)
          = (.ok (), reviewed) ∧
        ((Node.reconcile (Registry.service id c.now) id c.now).run (c.site n)).2
          = ((Node.stopAndClaim (Registry.service id c.now)).run
              (Node.swept id c.now reviewed)).2 ∧
        Node.Sweeps id c.now reviewed := by
  constructor
  · intro s
    have hbeyond : maxWord < s.timeoutSecs * 1000 := by decide +kernel
    have habandoned : s.abandonedSecs * 1000 < maxWord := by decide +kernel
    have hrange : ∀ r ∈ some maxWord, r ≤ maxWord := by
      rintro r ⟨⟩
      exact Nat.le_refl _
    obtain ⟨-, hchecks, -⟩ := limits_agree
    obtain ⟨-, hfaults⟩ := hchecks s hrange
    obtain ⟨-, htimeout⟩ := hfaults maxWord rfl
    exact ⟨hbeyond, htimeout habandoned hbeyond.le⟩
  · intro c
    have hrange : c.now ≤ maxWord := by decide +kernel
    have hthere : (c.node? 0).any (fun n => !n.isShutDown && (n.settings.clustered
        && n.held.contains "a")) = true := by decide +kernel
    obtain ⟨n, hn, hstate⟩ := (Option.any_eq_true ..).1 hthere
    obtain ⟨hgoesOn, hstate⟩ := (Bool.and_eq_true ..).mp hstate
    obtain ⟨hclustered, hheld⟩ := (Bool.and_eq_true ..).mp hstate
    rw [Bool.not_eq_true'] at hgoesOn
    have honce : (lateWaiting.filterMap Happening.submitted?).Nodup := by decide +kernel
    obtain ⟨hlimits, -, hsweep⟩ := limits_agree
    exact ⟨hrange, n, hn, hlimits n hrange, hgoesOn, hclustered, hheld, hsweep (fun _ => .rfl)
      (fun _ => .rfl) .standard exists_started_mixedPair honce hrange 0 n hn hgoesOn hclustered⟩

end Cluster

end JobScheduling
