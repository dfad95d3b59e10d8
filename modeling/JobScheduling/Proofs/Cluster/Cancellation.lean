import JobScheduling.Proofs.Cluster.Admission
import JobScheduling.Proofs.Cluster.Reached
import JobScheduling.Proofs.Registry.Cancellation

/-!
# `JobScheduling.Proofs.Cluster.Cancellation`: requests to stop a job

A request to stop a job reads its record, checks the caller against the record and against the job
that the node holds, asks the job to stop, and lets go of it if the node holds it. `Answers` says
how the request is answered, and `Node.Stops` what it leaves before the workers act.

The two phases fit together because a job that was just asked to stop is stopped as if it had not
been asked. So the record says the reason once, whether or not the node holds the job
(`stops_letGo`, `stops_asked`). A second request finds a record that has ended or was asked, and no
held job, so it changes nothing (`Stops.again`).
-/

set_option autoImplicit false

namespace JobScheduling

/-- The job has an owner, and the credential is not the owner's. -/
def Job.Denies (credential : Option String) (job : Job) : Prop :=
  ∃ owner, job.owner = some owner ∧ credential ≠ some owner

/-- A job does not answer to whom it denies. -/
theorem Job.admits_eq_false_iff {credential : Option String} {job : Job} :
    job.admits credential = false ↔ job.Denies credential := by
  rw [← Bool.not_eq_true, Job.admits_iff]
  simp [Denies]

/-- It answers to everybody else. -/
theorem Job.admits_of_not_denies {credential : Option String} {job : Job}
    (h : ¬ job.Denies credential) : job.admits credential = true := by
  rw [← Job.admits_eq_false_iff, Bool.not_eq_false] at h
  exact h

namespace Node

/-- What an accepted request to stop the job of an id makes of a site, before the workers act. -/
structure Stops (now : Nat) (id : String) (site site' : Site Registry) : Prop where
  /-- A record that has ended stays. Otherwise a held job has stopped, and any other was asked. -/
  record : ∀ r, site.queue.records.find? id = some r → site'.queue.records.find? id
    = some (if r.isFinal then r
        else if site.node.held.contains id then r.stopped now cancelReason
        else r.asked cancelReason)
  records : ∀ id', id' ≠ id → site'.queue.records.find? id' = site.queue.records.find? id'
  queue : ∃ records completed, site'.queue = { site.queue with records, completed }
  free : site'.node.held.find? id = none
  held : ∀ id', id' ≠ id → site'.node.held.find? id' = site.node.held.find? id'
  /-- The ticket of a held job is one for its id. It is cancelled, unless it had finished. -/
  ticket : ∀ m : Nat, site.node.held.find? id = some m → ∃ t,
    site.node.pool.tickets[m]? = some t ∧ t.job.id = id ∧
      site'.node.pool.tickets[m]? = some (if t.isFinished then t
        else { t with progress := .finished .cancelled, cancelled := true })
  tickets : ∀ m : Nat, site.node.held.find? id ≠ some m →
    site'.node.pool.tickets[m]? = site.node.pool.tickets[m]?
  node : ∃ held tickets, site'.node = { site.node with
    held, pool := { site.node.pool with tickets } }

variable (scan : Registry.Scan) (now : Nat) {id : String} {credential : Option String}
  {site site' : Site Registry} {r : Record}

/-! ### Requests that are refused -/

/-- A caller whom the recorded job or the held one denies is refused. Both have the requested
id. -/
theorem run_cancel_of_stranger (hr : site.queue.records.find? id = some r)
    (hid : r.status.job.id = id) (hnamed : site.node.Named)
    (h : r.status.job.Denies credential ∨
      ∃ t, site.node.ticket? id = some t ∧ t.job.Denies credential) :
    (cancel (Registry.service scan now) id credential).run site
      = (.error (.refused (.accessDenied id)), site) := by
  -- The record is asked first, then the ticket. Both refusals name the id of the request.
  by_cases hrecord : r.status.job.Denies credential
  · rw [run_cancel_of_denies scan now hr (Job.admits_eq_false_iff.2 hrecord), hid]
  · obtain ⟨t, ht, hticket⟩ := h.resolve_left hrecord
    obtain ⟨m, hm, hmt⟩ := ticket?_eq_some_iff.1 ht
    obtain ⟨t', ht', htid⟩ := hnamed id m hm
    rw [hmt] at ht'
    cases ht'
    rw [run_cancel_of_held_denies scan now hr (Job.admits_of_not_denies hrecord) ht
      (Job.admits_eq_false_iff.2 hticket), htid]

/-! ### Requests that are accepted -/

/-- A ticket is cancelled unless it has finished. -/
theorem cancel_ticket (t : Ticket) : t.cancel.2 = if t.isFinished then t
    else { t with progress := .finished .cancelled, cancelled := true } := by
  unfold Ticket.cancel
  split <;> rfl

/-- A job that the node holds is let go, and has stopped. -/
theorem stops_letGo (hnamed : site.node.Named) {m : Nat} (hm : site.node.held.find? id = some m) :
    Stops now id site
      { node := site.node.letGo id
        queue := ((site.queue.cancel now id cancelReason false).2.cancel now id cancelReason
          true).2 } := by
  have hheld := Table.contains_of_find? hm
  rw [letGo_eq hm]
  refine ⟨?record, ?records, ?queue, ?free, ?held, ?ticket, ?tickets, ?node⟩
  case record =>
    intro r hr
    dsimp only
    -- The record is asked first and stopped then, as if it had been stopped at once.
    rw [Registry.find?_cancel, if_pos rfl, Registry.find?_cancel, if_pos rfl, hr, Option.map_some,
      Option.map_some, Record.cancel_cancel, Record.cancel_eq, hheld]
  case records =>
    intro id' hid
    dsimp only
    rw [Registry.find?_cancel, if_neg hid, Registry.find?_cancel, if_neg hid]
  case queue =>
    obtain ⟨records, completed, hasked⟩ :=
      Registry.cancel_snd now id cancelReason false site.queue
    dsimp only
    rw [hasked]
    exact Registry.cancel_snd now id cancelReason true _
  case free => exact (Table.find?_erase ..).trans (if_pos rfl)
  case held =>
    intro id' hid
    exact (Table.find?_erase ..).trans (if_neg hid)
  case ticket =>
    intro m' hm'
    cases hm.symm.trans hm'
    obtain ⟨t, ht, hid⟩ := hnamed id m hm
    refine ⟨t, ht, hid, ?_⟩
    dsimp only
    rw [getElem?_cancel, if_pos rfl, ht, Option.map_some, cancel_ticket]
  case tickets =>
    intro m' hm'
    dsimp only
    rw [getElem?_cancel, if_neg]
    rintro rfl
    exact hm' hm
  case node =>
    refine ⟨site.node.held.erase id, (site.node.pool.cancel m).2.tickets, ?_⟩
    dsimp only
    rw [Pool.cancel_snd]
    rfl

/-- A job that the node does not hold is asked to stop. -/
theorem stops_asked (hfree : site.node.held.find? id = none) :
    Stops now id site
      { site with queue := (site.queue.cancel now id cancelReason false).2 } := by
  have hheld := Table.contains_eq_false hfree
  -- Nothing of the node changes.
  refine ⟨?record, ?records, ?queue, hfree, fun _ _ => rfl, ?ticket, fun _ _ => rfl,
    ⟨site.node.held, site.node.pool.tickets, rfl⟩⟩
  case record =>
    intro r hr
    dsimp only
    rw [Registry.find?_cancel, if_pos rfl, hr, Option.map_some, Record.cancel_eq, hheld]
  case records =>
    intro id' hid
    dsimp only
    rw [Registry.find?_cancel, if_neg hid]
  case queue => exact Registry.cancel_snd now id cancelReason false site.queue
  case ticket =>
    intro m hm
    rw [hfree] at hm
    cases hm

/-- A caller whom neither the recorded job nor the held one denies stops the job. -/
theorem exists_run_cancel (hr : site.queue.records.find? id = some r) (hnamed : site.node.Named)
    (hrecord : ¬ r.status.job.Denies credential)
    (hheld : ∀ t, site.node.ticket? id = some t → ¬ t.job.Denies credential) :
    ∃ site', (cancel (Registry.service scan now) id credential).run site = (.ok (), site') ∧
      Stops now id site site' := by
  have hrun := run_cancel_of_admits scan now hr (Job.admits_of_not_denies hrecord)
    fun t ht => Job.admits_of_not_denies (hheld t ht)
  refine ⟨_, hrun, ?_⟩
  -- The node holds the job and stops it at once, or it only asks for the stop.
  cases hm : site.node.held.find? id with
  | none =>
    rw [Table.contains_eq_false hm]
    exact stops_asked now hm
  | some m =>
    rw [Table.contains_of_find? hm]
    exact stops_letGo now hnamed hm

/-- A second request of a caller who may stop the job changes nothing: the job has ended or was
asked to stop, and the node does not hold it. -/
theorem run_cancel_again (hr : site.queue.records.find? id = some r)
    (hstage : r.isFinal = true ∨ r.stage = .canceling) (hrecord : ¬ r.status.job.Denies credential)
    (hfree : site.node.held.find? id = none) :
    (cancel (Registry.service scan now) id credential).run site = (.ok (), site) := by
  have hnone : site.node.ticket? id = none := by
    rw [ticket?, hfree]
    rfl
  have hrun := run_cancel_of_admits scan now hr (Job.admits_of_not_denies hrecord) fun t ht => by
    rw [hnone] at ht
    cases ht
  rw [hrun, Table.contains_eq_false hfree, Registry.cancel_false_again hr hstage]
  rfl

/-- The record of a job that was stopped. -/
theorem Stops.exists_record (h : Stops now id site site')
    (hr : site.queue.records.find? id = some r) :
    ∃ r', site'.queue.records.find? id = some r' ∧ (r'.isFinal = true ∨ r'.stage = .canceling) ∧
      r'.status.job = r.status.job := by
  refine ⟨_, h.record r hr, ?_⟩
  split
  next hfinal => exact ⟨.inl hfinal, rfl⟩
  next =>
    split
    · exact ⟨.inl rfl, Record.job_stopped ..⟩
    · exact ⟨.inr (Record.stage_asked ..), Record.job_asked ..⟩

/-- A second request at once is accepted, and changes nothing. -/
theorem Stops.again (h : Stops now id site site') (hr : site.queue.records.find? id = some r)
    (hrecord : ¬ r.status.job.Denies credential) :
    (cancel (Registry.service scan now) id credential).run site' = (.ok (), site') := by
  obtain ⟨r', hr', hstage, hjob⟩ := h.exists_record now hr
  exact run_cancel_again scan now hr' hstage (hjob ▸ hrecord) h.free

end Node

namespace Cluster

variable {scan heldScan : Registry.Scan} {lastly : Job → WorkEnd}

/-- How a request to stop the job of an id is answered by a node. -/
structure Answers (id : String) (credential : Option String) (q : Registry) (n : Node)
    (answer : Answer) : Prop where
  missing : answer = .refused (.noSuchReference id) ↔ q.records.find? id = none
  denied : answer = .refused (.accessDenied id) ↔ ∃ r, q.records.find? id = some r ∧
    (r.status.job.Denies credential ∨ ∃ t, n.ticket? id = some t ∧ t.job.Denies credential)
  accepted : answer = .unit ↔ ∃ r, q.records.find? id = some r ∧
    ¬ r.status.job.Denies credential ∧ ∀ t, n.ticket? id = some t → ¬ t.job.Denies credential

section
variable {id : String} {credential : Option String} {q : Registry} {n : Node} {r : Record}

/-- Without a record the request has nobody to ask. -/
theorem Answers.of_missing (hr : q.records.find? id = none) :
    Answers id credential q n (.refused (.noSuchReference id)) where
  missing := iff_of_true rfl hr
  denied := by simp [hr]
  accepted := by simp [hr]

/-- One of the two jobs denies the caller. -/
theorem Answers.of_denied (hr : q.records.find? id = some r)
    (h : r.status.job.Denies credential ∨ ∃ t, n.ticket? id = some t ∧ t.job.Denies credential) :
    Answers id credential q n (.refused (.accessDenied id)) where
  missing := by simp [hr]
  denied := iff_of_true rfl ⟨r, hr, h⟩
  accepted := by
    refine iff_of_false nofun ?_
    -- The record denies it, or the ticket does.
    rintro ⟨r', hr', hrecord, hheld⟩
    cases hr.symm.trans hr'
    rcases h with h | ⟨t, ht, h⟩
    · exact hrecord h
    · exact hheld t ht h

/-- Both answer to the caller. -/
theorem Answers.of_accepted (hr : q.records.find? id = some r)
    (hrecord : ¬ r.status.job.Denies credential)
    (hheld : ∀ t, n.ticket? id = some t → ¬ t.job.Denies credential) :
    Answers id credential q n .unit where
  missing := by simp [hr]
  denied := by
    refine iff_of_false nofun ?_
    rintro ⟨r', hr', h⟩
    cases hr.symm.trans hr'
    rcases h with h | ⟨t, ht, h⟩
    · exact hrecord h
    · exact hheld t ht h
  accepted := iff_of_true rfl ⟨r, hr, hrecord, hheld⟩

end

/-- The workers leave a record alone that does not wait. -/
theorem find?_settle {now : Nat} {site : Site Registry} {id : String} {r : Record}
    (hr : site.queue.records.find? id = some r) (hstage : r.stage ≠ .waiting) :
    (settle (Registry.service scan now) site).queue.records.find? id = some r := by
  refine settle_queue (P := fun q => q.records.find? id = some r) ?_ hr
  intro q id' hq
  rw [Registry.find?_start, hq]
  split
  · rw [Option.map_some, Registry.started_eq, if_neg hstage]
  · rfl

/-- After an accepted request, when the workers have acted, a second one changes nothing. -/
theorem step_cancel_again {c c' : Cluster Registry} (hrest : c'.Resting) {k : Nat} {n : Node}
    (hn : c.node? k = some n) {id : String} {credential : Option String} {r : Record}
    (hr : c.queue.records.find? id = some r) (hrecord : ¬ r.status.job.Denies credential)
    {site : Site Registry} (hstops : Node.Stops c.now id (c.site n) site)
    (hreplaces : Replaces k (settle (Registry.service scan c.now) site) c c') :
    c'.step (shared scan heldScan lastly) (.cancel k id credential) = (.unit, c') := by
  -- After the first request the record has ended or was asked to stop, and no ticket is held under
  -- the id.
  obtain ⟨r', hr', hstage, hjob⟩ := hstops.exists_record c.now hr
  have hwaits : r'.stage ≠ .waiting := by
    intro hwaiting
    rw [Record.isFinal_of_stage hwaiting, hwaiting] at hstage
    rcases hstage with h | h <;> cases h
  let n' := (settle (Registry.service scan c.now) site).node
  have hn' : c'.node? k = some n' := by
    rw [hreplaces.node? (lt_length_of_node? hn), if_pos rfl]
  have hr'' : (c'.site n').queue.records.find? id = some r' := by
    show c'.queue.records.find? id = some r'
    rw [hreplaces.queue]
    exact find?_settle hr' hwaits
  have hfree : (c'.site n').node.held.find? id = none := hstops.free
  have hrun := Node.run_cancel_again scan c'.now hr'' hstage (hjob ▸ hrecord) hfree
  exact request_of_node_same hn' (hrest k n' hn') (fun _ => .unit) hrun

/-- What an accepted request leaves, before the workers act and after. -/
structure Accepts (scan heldScan : Registry.Scan) (lastly : Job → WorkEnd) (k : Nat) (n : Node)
    (id : String) (credential : Option String) (c c' : Cluster Registry) (site : Site Registry) :
    Prop where
  stops : Node.Stops c.now id (c.site n) site
  replaces : Replaces k (settle (Registry.service scan c.now) site) c c'
  /-- A second request at once is accepted, and changes nothing. -/
  again : (Node.cancel (Registry.service scan c.now) id credential).run site = (.ok (), site)
  /-- The same when the workers have acted. -/
  stepAgain : c'.step (shared scan heldScan lastly) (.cancel k id credential) = (.unit, c')

/-- What a request to stop a job does, in every cluster between two steps. -/
theorem Composed.cancel (heldScan : Registry.Scan) (lastly : Job → WorkEnd) {c : Cluster Registry}
    (h : c.Composed) {k : Nat} {n : Node} (hn : c.node? k = some n) (id : String)
    (credential : Option String) :
    let result := c.step (shared scan heldScan lastly) (.cancel k id credential)
    let site := ((Node.cancel (Registry.service scan c.now) id credential).run (c.site n)).2
    Answers id credential c.queue n result.1 ∧ (result.1 ≠ .unit → result.2 = c) ∧
      (result.1 = .unit →
        Accepts scan heldScan lastly k n id credential c result.2 site) := by
  intro result site
  have hnamed : (c.site n).node.Named := (h.sized.nodes k n hn).named
  -- A refusal leaves the node and the queue as they were, and the workers rest.
  have hrefused {e : Error} (hrun : (Node.cancel (Registry.service scan c.now) id credential).run
      (c.site n) = (.error (.refused e), c.site n)) : result = (.refused e, c) :=
    request_of_node_same hn (h.resting k n hn) (fun _ => .unit) hrun
  cases hr : (c.site n).queue.records.find? id with
  | none =>
    rw [hrefused (Node.run_cancel_of_none scan c.now hr credential)]
    exact ⟨.of_missing hr, fun _ => rfl, nofun⟩
  | some r =>
    have hid : r.status.job.id = id := (h.sized.keyed id r hr).1
    by_cases hdenies : r.status.job.Denies credential ∨
        ∃ t, n.ticket? id = some t ∧ t.job.Denies credential
    · rw [hrefused (Node.run_cancel_of_stranger scan c.now hr hid hnamed hdenies)]
      exact ⟨.of_denied hr hdenies, fun _ => rfl, nofun⟩
    · obtain ⟨hrecord, hheld⟩ := not_or.1 hdenies
      have hheld' : ∀ t, (c.site n).node.ticket? id = some t → ¬ t.job.Denies credential :=
        fun t ht hdenied => hheld ⟨t, ht, hdenied⟩
      obtain ⟨site', hrun, hstops⟩ :=
        Node.exists_run_cancel scan c.now hr hnamed hrecord hheld'
      rw [← show site = site' from congrArg Prod.snd hrun] at hstops
      have hanswer : result.1 = .unit := by
        refine (request_fst hn (fun _ => .unit)
          (Node.cancel (Registry.service scan c.now) id credential)).trans ?_
        rw [hrun]
        rfl
      have hreplaces : Replaces k (settle (Registry.service scan c.now) site) c result.2 :=
        request_replaces hn (fun _ => .unit) _
      have hrests : result.2.Resting := h.resting.step scan heldScan lastly _
      rw [hanswer]
      exact ⟨.of_accepted hr hrecord hheld', fun h => absurd rfl h, fun _ =>
        ⟨hstops, hreplaces, hstops.again scan c.now hr hrecord,
          step_cancel_again hrests hn hr hrecord hstops hreplaces⟩⟩

/-- What a request to stop a job does. Take nodes that have just started, clustered or not, next to
an empty queue, and whatever has happened to them and to the queue since, at any times. A request
to a node that is still there fails exactly for want of a record, or else because the recorded job
or the held one denies the caller, and then nothing changes. Otherwise it does what `Accepts`
lists, whatever the stage of the record and however far the held job has come. -/
theorem later_cancel (hscan : ∀ ids, (scan ids).Perm ids) (heldScan : Registry.Scan)
    (lastly : Job → WorkEnd) {now : Nat} {retention : Option Nat} {nodes : List (Option Node)}
    (hnodes : ∀ n, some n ∈ nodes → ∃ settings priority work,
      Node.new settings retention priority work = .ok n) (past : List Happening) :
    let c := later scan heldScan lastly past { now, queue := { retention }, nodes }
    ∀ k n, c.node? k = some n → ∀ id credential,
      let result := c.step (shared scan heldScan lastly) (.cancel k id credential)
      let site := ((Node.cancel (Registry.service scan c.now) id credential).run (c.site n)).2
      Answers id credential c.queue n result.1 ∧ (result.1 ≠ .unit → result.2 = c) ∧
        (result.1 = .unit →
          Accepts scan heldScan lastly k n id credential c result.2 site) := by
  intro c k n hn id credential
  have h : c.Composed := composed_reached heldScan lastly hscan past hnodes
  exact h.cancel heldScan lastly hn id credential

/-- A node runs the job of an owner, whose record somebody else has asked to stop before. -/
def askedBefore : List Happening :=
  [.step (.submit 1 { id := "a", submittedAt := 5, owner := some "alice" }),
    .request (.cancel "a" "enough" false)]

/-- The owner stops the job. -/
theorem later_cancel_askedBefore :
    let c := later id id .standard askedBefore
      { now := 5, queue := { retention := some defaultRetention }, nodes := mixedPair }
    ∃ n, c.node? 1 = some n ∧
      let result := c.step (shared id id .standard) (.cancel 1 "a" (some "alice"))
      let site :=
        ((Node.cancel (Registry.service id c.now) "a" (some "alice")).run (c.site n)).2
      result.1 = .unit ∧
        Answers "a" (some "alice") c.queue n result.1 ∧ (result.1 ≠ .unit → result.2 = c) ∧
          (result.1 = .unit →
            Accepts id id .standard 1 n "a" (some "alice") c result.2 site) := by
  intro c
  have hthere : (c.node? 1).isSome = true := by decide +kernel
  obtain ⟨n, hn⟩ := Option.isSome_iff_exists.1 hthere
  have hanswer : (c.step (shared id id .standard) (.cancel 1 "a" (some "alice"))).1 = .unit := by
    decide +kernel
  exact ⟨n, hn, hanswer, later_cancel (fun _ => .rfl) id .standard started_mixedPair askedBefore 1 n
    hn "a" (some "alice")⟩

end Cluster

end JobScheduling
