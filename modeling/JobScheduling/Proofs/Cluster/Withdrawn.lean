import JobScheduling.Pool.Script
import JobScheduling.Proofs.Cluster.Advance

/-!
# `JobScheduling.Proofs.Cluster.Withdrawn`: a waiting job that is canceled never runs

A client cancels a job that waits. It can wait in the backlog of a node alone, or in the shared
queue of clustered nodes, and a later submission of its id can get tickets and run. So this is not
about an id but about the number of a submission. A chronicle notes for which submission each
ticket was given out, and `Chronicle.begun` lists the numbers of the submissions whose work begins.

* `Chronicle.Numbered`: what the notes have to do with the records, at any point of a run. A ticket
  that was given out for a job which waits is one of a node alone, and has the id of the job.
* `withdrawn_cancel`: a request to stop that is accepted calls off the number of the waiting job,
  and leaves no open ticket for it (`Chronicle.Withdrawn`).
* `Withdrawn.step`: every step keeps it so, and begins no work for the number. A new ticket would
  be one for a record that goes on, and a ticket that begins would be open.

`run_withdrawn` is the induction over the rest of the run.
-/

set_option autoImplicit false

namespace JobScheduling

/-- A node alone that accepts a request to stop a job has no open ticket for its id. -/
theorem Site.finished_of_cancel {scan : Registry.Scan} {now : Nat} {site site' : Site Registry}
    (h : site.InStep) {id : String} {credential : Option String}
    (hrun : (Node.cancel (Registry.service scan now) id credential).run site = (.ok (), site'))
    {m : Nat} {t : Ticket} (ht : site'.node.pool.tickets[m]? = some t) (hid : t.job.id = id) :
    t.isFinished = true := by
  have hafter : ((Node.cancel (Registry.service scan now) id credential).run site).2.InStep :=
    (inStep_cancel h id credential).1
  rw [hrun] at hafter
  by_contra hopen
  -- It would be the ticket under which the job is held, and the node has let go of that.
  have hheld := hafter.tracked m t ht (Bool.eq_false_iff.2 hopen)
  rw [hid] at hheld
  rcases Node.run_cancel scan now id credential site with ⟨e, hrefused⟩ | haccepted
  · rw [hrun] at hrefused
    cases hrefused
  · rw [hrun] at haccepted
    obtain rfl := (Prod.mk.inj haccepted).2
    split at hheld
    next hcontains =>
      obtain ⟨m', hm'⟩ := Option.isSome_iff_exists.1 hcontains
      rw [Node.letGo_eq hm', show (site.node.held.erase id).find? id = _ from Table.find?_erase ..,
        if_pos rfl] at hheld
      cases hheld
    next hfree =>
      rw [show site.node.held.find? id = none from Option.not_isSome_iff_eq_none.1 hfree] at hheld
      cases hheld

namespace Cluster

variable {scan heldScan : Registry.Scan} {lastly : Job → WorkEnd}

namespace Chronicle

/-- For each execution that begins in a step, the number of the submission for which its ticket was
given out. -/
def begunIn (world : World Registry) (a : Chronicle) (s : Step) : List (Option Nat) :=
  let a' := a.step world s
  (a'.cluster.starts.drop a.cluster.starts.length).map fun start =>
    a'.claimed start.node start.ticket

/-- For each execution that begins in a run, the number of the submission for which its ticket was
given out. -/
def begun (world : World Registry) : List Step → Chronicle → List (Option Nat)
  | [], _ => []
  | s :: rest, a => a.begunIn world s ++ begun world rest (a.step world s)

/-- In the rest of a run each execution that begins is one for another submission than that of the
number, and as long as there is a record of this number, it says that the job was asked to stop or
has stopped, and never that it ran. -/
def NeverRuns (world : World Registry) (rest : List Step) (n : Nat) (a : Chronicle) : Prop :=
  (∀ p ∈ a.begun world rest, ∃ other, p = some other ∧ other ≠ n) ∧
    ∀ id r, (a.run world rest).cluster.record? id = some r → r.status.request = n →
      (r.stage = .canceling ∨ r.stage = .canceled) ∧ .running ∉ r.history

/-- Each ticket was given out for a submission, and none for a job that waits to be claimed. -/
structure Numbered (clustered : Bool) (a : Chronicle) : Prop where
  proper : a.cluster.Proper clustered
  booked : a.cluster.queue.Booked
  claimed : ∀ {k m t}, a.cluster.ticket? k m = some t →
    ∃ n, a.claimed k m = some n ∧ n ≤ a.cluster.queue.requests
  /-- A ticket that was given out for a submission has the id of its record. -/
  own : ∀ {k m t id r}, a.cluster.ticket? k m = some t → a.cluster.record? id = some r →
    a.claimed k m = some r.status.request →
      t.job.id = id ∧ (r.stage = .waiting → clustered = false)

/-- A submission was withdrawn: its number was called off, and no ticket that was given out for it
is open. -/
structure Withdrawn (clustered : Bool) (n : Nat) (a : Chronicle) : Prop extends
    Numbered clustered a where
  calledOff : a.cluster.queue.CalledOff n
  closed : ∀ {k m t}, a.cluster.ticket? k m = some t → a.claimed k m = some n →
    t.isFinished = true

/-- Before the first step there is nothing to note. -/
theorem numbered_of_new {clustered : Bool} {nodes : List (Option Node)}
    (hnodes : ∀ n, some n ∈ nodes → n.Started clustered)
    (halone : clustered = false → nodes.length ≤ 1) (now : Nat) (retention : Option Nat) :
    Numbered clustered { cluster := { now, queue := { retention }, nodes } } := by
  have hnone {k m : Nat} {t : Ticket}
      (ht : ticket? k m { now, queue := { retention }, nodes } = some t) : False := by
    obtain ⟨n, hn, ht⟩ := ticket?_eq_some_iff.1 ht
    obtain ⟨_, _, _, _, -, hnew⟩ := hnodes n (mem_of_node? hn)
    rw [(Node.new_eq_ok hnew).2.2.2.2.1] at ht
    cases ht
  exact ⟨proper_of_new hnodes halone now retention, Registry.booked_empty retention,
    fun ht => (hnone ht).elim, fun ht => (hnone ht).elim⟩

section
variable {world : World Registry} {clustered : Bool} {n : Nat} {a : Chronicle} {s : Step}
  (hadvance : Advance clustered a.cluster (a.cluster.step world s).2)

include hadvance

/-- A new ticket is one for the submission of a record that waits or runs. -/
theorem exists_record_of_none {k m : Nat} {t' : Ticket} (hnone : a.cluster.ticket? k m = none)
    (ht' : (a.step world s).cluster.ticket? k m = some t') :
    ∃ r', (a.step world s).cluster.record? t'.job.id = some r' ∧
      (a.step world s).claimed k m = some r'.status.request ∧
      (r'.stage = .running ∨ clustered = false ∧ r'.stage = .waiting) := by
  rcases hadvance.tickets ht' with ⟨t, ht, -⟩ | ⟨-, r', hr', hstage⟩
  · rw [hnone] at ht
    cases ht
  · refine ⟨r', hr', ?_, hstage⟩
    rw [claimed_of_none hnone ht']
    exact congrArg (Option.map (·.status.request)) hr'

/-- A ticket for a submission that was called off is not new. -/
theorem exists_ticket_of_calledOff (hcalled : (a.step world s).cluster.queue.CalledOff n)
    {k m : Nat} {t' : Ticket} (ht' : (a.step world s).cluster.ticket? k m = some t')
    (hclaimed : (a.step world s).claimed k m = some n) :
    ∃ t, a.cluster.ticket? k m = some t ∧ t.Follows t' ∧ a.claimed k m = some n := by
  rcases hadvance.tickets ht' with ⟨t, ht, hfollows⟩ | ⟨hnone, -⟩
  · exact ⟨t, ht, hfollows, (claimed_of_ticket ht).symm.trans hclaimed⟩
  · obtain ⟨r', hr', hnumber, hstage⟩ := exists_record_of_none hadvance hnone ht'
    rw [hnumber] at hclaimed
    obtain ⟨hstopped, -⟩ := hcalled.records _ r' hr' (Option.some.inj hclaimed)
    rcases hstage with hrunning | ⟨-, hwaiting⟩
    · rw [hrunning] at hstopped
      rcases hstopped with hr | hr <;> cases hr
    · rw [hwaiting] at hstopped
      rcases hstopped with hr | hr <;> cases hr

/-- A step keeps the notes in step with the records. -/
theorem Numbered.step (h : a.Numbered clustered)
    (hleads : a.cluster.queue.LeadsTo (a.step world s).cluster.queue)
    (hbooked : (a.step world s).cluster.queue.Booked) : (a.step world s).Numbered clustered where
  proper := hadvance.proper
  booked := hbooked
  claimed := by
    intro k m t' ht'
    cases ht : a.cluster.ticket? k m with
    | some t =>
      obtain ⟨p, hp, hle⟩ := h.claimed ht
      exact ⟨p, (claimed_of_ticket ht).trans hp, hle.trans hleads.requests⟩
    | none =>
      obtain ⟨r', hr', hnumber, -⟩ := exists_record_of_none hadvance ht ht'
      exact ⟨_, hnumber, hbooked.request_le hr'⟩
  own := by
    intro k m t' id r' ht' hr' hclaimed
    cases ht : a.cluster.ticket? k m with
    | some t =>
      obtain ⟨p, hp, hle⟩ := h.claimed ht
      rw [claimed_of_ticket ht] at hclaimed
      rcases hleads.records id r' hr' with hlater | ⟨r, hr, hbecomes⟩
      · -- No ticket was given out for a submission that did not exist yet.
        rw [hp] at hclaimed
        cases hclaimed
        omega
      · rw [hbecomes.request] at hclaimed
        obtain ⟨hid, hwaiting⟩ := h.own ht hr hclaimed
        rcases hadvance.tickets ht' with ⟨t₁, ht₁, hfollows⟩ | ⟨hnone, -⟩
        · rw [ht] at ht₁
          cases ht₁
          exact ⟨hfollows.job ▸ hid, fun hr' => hwaiting (hbecomes.waiting hr')⟩
        · rw [ht] at hnone
          cases hnone
    | none =>
      obtain ⟨r₁, hr₁, hnumber, hstage⟩ := exists_record_of_none hadvance ht ht'
      rw [hnumber] at hclaimed
      -- The record of the job is the only one of its number.
      have hid := hbooked.id_eq hr₁ hr' (Option.some.inj hclaimed)
      refine ⟨hid, fun hwaiting => ?_⟩
      rw [hid, hr'] at hr₁
      cases hr₁
      rcases hstage with hrunning | ⟨halone, -⟩
      · rw [hwaiting] at hrunning
        cases hrunning
      · exact halone

/-- A step keeps a submission withdrawn, and begins no work for it. -/
theorem Withdrawn.step (h : a.Withdrawn clustered n)
    (hleads : a.cluster.queue.LeadsTo (a.step world s).cluster.queue)
    (hbooked : (a.step world s).cluster.queue.Booked) :
    (a.step world s).Withdrawn clustered n ∧
      ∀ p ∈ a.begunIn world s, ∃ other, p = some other ∧ other ≠ n := by
  have hcalled := h.calledOff.leadsTo hleads
  have hnumbered := h.toNumbered.step hadvance hleads hbooked
  refine ⟨⟨hnumbered, hcalled, ?_⟩, ?_⟩
  · intro k m t' ht' hclaimed
    obtain ⟨t, ht, hfollows, hclaimed⟩ := exists_ticket_of_calledOff hadvance hcalled ht' hclaimed
    have hclosed := h.closed ht hclaimed
    rw [hfollows.finished hclosed]
    exact hclosed
  · intro p hp
    obtain ⟨start, hstart, rfl⟩ := List.mem_map.1 hp
    obtain ⟨t', ht', hopen⟩ := hadvance.starts start hstart
    obtain ⟨other, hother, -⟩ := hnumbered.claimed ht'
    refine ⟨other, hother, ?_⟩
    rintro rfl
    -- A ticket that begins is open, and one for the withdrawn submission was closed.
    obtain ⟨t, ht, -, hclaimed⟩ := exists_ticket_of_calledOff hadvance hcalled ht' hother
    have hclosed := h.closed ht hclaimed
    rw [hopen t ht] at hclosed
    cases hclosed

end

/-- Every step keeps the notes in step with the records. -/
theorem numbered_step (hscan : ∀ ids, (scan ids).Perm ids) (heldScan : Registry.Scan)
    (lastly : Job → WorkEnd) {clustered : Bool} {a : Chronicle} (h : a.Numbered clustered)
    (s : Step) : (a.step (shared scan heldScan lastly) s).Numbered clustered :=
  h.step (advance_step hscan heldScan lastly h.proper s) (leadsTo_step scan heldScan lastly _ s)
    (queue_step (fun now request _ hq => hq.serve scan now request) heldScan lastly h.booked s)

/-! ### The request to cancel -/

/-- What a request to stop a job does that is answered with success. -/
theorem accepted_cancel {a : Chronicle} {k : Nat} {id : String} {credential : Option String}
    (hok : (a.cluster.step (shared scan heldScan lastly) (.cancel k id credential)).1 = .unit) :
    ∃ n site, a.cluster.node? k = some n ∧
      (Node.cancel (Registry.service scan a.cluster.now) id credential).run (a.cluster.site n)
        = (.ok (), site) ∧
      Replaces k (settle (Registry.service scan a.cluster.now) site) a.cluster
        (a.step (shared scan heldScan lastly) (.cancel k id credential)).cluster ∧
      (a.step (shared scan heldScan lastly) (.cancel k id credential)).cluster.starts
        = a.cluster.starts ++ begins scan a.cluster.now k site := by
  have hstep : a.cluster.step (shared scan heldScan lastly) (.cancel k id credential)
      = a.cluster.request (shared scan heldScan lastly) k (fun _ => .unit)
          (Node.cancel (Registry.service scan a.cluster.now) id credential) := rfl
  simp only [step]
  rw [hstep] at hok ⊢
  cases hn : a.cluster.node? k with
  | none =>
    -- There is no such node, so the answer is not the one of success.
    rw [request_of_none hn] at hok
    cases hok
  | some n =>
    rw [request_eq hn] at hok ⊢
    cases hrun : (Node.cancel (Registry.service scan a.cluster.now) id credential).run
        (a.cluster.site n) with
    | mk result site =>
      rw [hrun] at hok
      cases result with
      | ok _ => exact ⟨n, site, rfl, hrun, ⟨rfl, rfl, rfl⟩, rfl⟩
      | error e => cases e <;> cases hok

section
variable {clustered : Bool} {a a' : Chronicle} {k : Nat} {id : String}
  {credential : Option String} (h : a.Numbered clustered) {r : Record}
  (hr : a.cluster.record? id = some r) (hwaiting : r.stage = .waiting)
  {n : Node} {site : Site Registry} (hn : a.cluster.node? k = some n)
  (hrun : (Node.cancel (Registry.service scan a.cluster.now) id credential).run (a.cluster.site n)
    = (.ok (), site))

include h hr hwaiting hrun

/-- The number of the waiting job is called off. -/
theorem calledOff_of_cancel :
    (settle (Registry.service scan a.cluster.now) site).queue.CalledOff r.status.request := by
  have hserve {q : Registry} (hq : q.CalledOff r.status.request) (request : Registry.Request) :
      (q.serve scan a.cluster.now request).2.CalledOff r.status.request :=
    hq.leadsTo ((Registry.LeadsTo.refl q).serve scan a.cluster.now request)
  refine settle_queue (P := Registry.CalledOff r.status.request)
    (fun q started hq => hserve hq (.start started)) ?_
  have hasked := Registry.calledOff_cancel a.cluster.now Node.cancelReason h.booked hr hwaiting
  rcases Node.run_cancel scan a.cluster.now id credential (a.cluster.site n) with
    ⟨e, hrefused⟩ | haccepted
  · rw [hrun] at hrefused
    cases hrefused
  · rw [hrun] at haccepted
    obtain rfl := (Prod.mk.inj haccepted).2
    split
    · -- The node holds the job, and says that it has stopped.
      exact hserve hasked (.cancel id Node.cancelReason true)
    · exact hasked

include hn in
/-- A ticket that was given out for the waiting job is one of a node alone, which closes it. -/
theorem finished_of_claimed {j m : Nat} {t₀ : Ticket} (ht₀ : a.cluster.ticket? j m = some t₀)
    (hclaimed : a.claimed j m = some r.status.request) :
    j = k ∧ ∀ t, site.node.pool.tickets[m]? = some t → t.job = t₀.job → t.isFinished = true := by
  obtain ⟨hid, halone⟩ := h.own ht₀ hr hclaimed
  cases halone hwaiting
  -- A waiting job has a ticket only where no node is clustered, so there is one node.
  cases h.proper with
  | alone hsole =>
    obtain ⟨l, hl, -⟩ := ticket?_eq_some_iff.1 ht₀
    have hj := lt_length_of_node? hl
    have hk := lt_length_of_node? hn
    have hsingle := hsole.single
    refine ⟨by omega, fun t ht hjob => ?_⟩
    exact Site.finished_of_cancel (hsole.inStep k n hn) hrun ht (hjob ▸ hid)

end

/-- A request to cancel a job that waits, when it is accepted, withdraws its submission. -/
theorem withdrawn_cancel (hscan : ∀ ids, (scan ids).Perm ids) (heldScan : Registry.Scan)
    (lastly : Job → WorkEnd) {clustered : Bool} {a : Chronicle} (h : a.Numbered clustered)
    {k : Nat} {id : String} {credential : Option String} {r : Record}
    (hr : a.cluster.record? id = some r) (hwaiting : r.stage = .waiting)
    (hok : (a.cluster.step (shared scan heldScan lastly) (.cancel k id credential)).1 = .unit) :
    (a.step (shared scan heldScan lastly) (.cancel k id credential)).Withdrawn clustered
        r.status.request ∧
      ∀ p ∈ a.begunIn (shared scan heldScan lastly) (.cancel k id credential),
        ∃ other, p = some other ∧ other ≠ r.status.request := by
  obtain ⟨n, site, hn, hrun, hreplaces, hstarts⟩ := accepted_cancel hok
  have hadvance := advance_step hscan heldScan lastly h.proper (.cancel k id credential)
  have hnumbered := numbered_step hscan heldScan lastly h (.cancel k id credential)
  have hcalled := calledOff_of_cancel h hr hwaiting hrun
  rw [← hreplaces.queue] at hcalled
  have hfollows : site.node.pool.Follows
      (settle (Registry.service scan a.cluster.now) site).node.pool := Pool.follows_settle _ _ _
  -- A ticket for the submission is closed when the workers start to act.
  have hfinished {j m : Nat} {t' : Ticket}
      (ht' : (a.step (shared scan heldScan lastly) (.cancel k id credential)).cluster.ticket? j m
        = some t')
      (hclaimed : (a.step (shared scan heldScan lastly) (.cancel k id credential)).claimed j m
        = some r.status.request) :
      j = k ∧ ∃ t, site.node.pool.tickets[m]? = some t ∧ t.Follows t' ∧ t.isFinished = true := by
    obtain ⟨t₀, ht₀, hfrom, hbefore⟩ := exists_ticket_of_calledOff hadvance hcalled ht' hclaimed
    obtain ⟨rfl, hclosed⟩ := finished_of_claimed h hr hwaiting hn hrun ht₀ hbefore
    obtain ⟨l, hl, ht'⟩ := ticket?_eq_some_iff.1 ht'
    rw [hreplaces.node? (lt_length_of_node? hn), if_pos rfl] at hl
    cases hl
    obtain ⟨t, ht, hto⟩ := hfollows.ticket_before ht'
    exact ⟨rfl, t, ht, hto, hclosed t ht (hto.job.symm.trans hfrom.job)⟩
  refine ⟨⟨hnumbered, hcalled, ?_⟩, ?_⟩
  · intro j m t' ht' hclaimed
    obtain ⟨-, t, -, hto, hclosed⟩ := hfinished ht' hclaimed
    rw [hto.finished hclosed]
    exact hclosed
  · intro p hp
    obtain ⟨start, hstart, rfl⟩ := List.mem_map.1 hp
    obtain ⟨t', ht', -⟩ := hadvance.starts start hstart
    obtain ⟨other, hother, -⟩ := hnumbered.claimed ht'
    refine ⟨other, hother, ?_⟩
    rintro rfl
    obtain ⟨-, t, ht, -, hclosed⟩ := hfinished ht' hother
    -- The work of an open ticket begins.
    rw [hstarts, List.drop_left] at hstart
    obtain ⟨-, ⟨t₁, ht₁, hopen⟩, -⟩ := mem_begins hstart
    rw [ht] at ht₁
    cases ht₁
    rw [hclosed] at hopen
    cases hopen

/-! ### Runs -/

/-- A run keeps the notes in step with the records. -/
theorem numbered_run (hscan : ∀ ids, (scan ids).Perm ids) (heldScan : Registry.Scan)
    (lastly : Job → WorkEnd) {clustered : Bool} (steps : List Step) {a : Chronicle}
    (h : a.Numbered clustered) :
    (a.run (shared scan heldScan lastly) steps).Numbered clustered := by
  induction steps generalizing a with
  | nil => exact h
  | cons s rest ih => exact ih (numbered_step hscan heldScan lastly h s)

/-- A submission that was withdrawn stays so in the rest of the run, and its work never begins. -/
theorem withdrawn_run (hscan : ∀ ids, (scan ids).Perm ids) (heldScan : Registry.Scan)
    (lastly : Job → WorkEnd) {clustered : Bool} {n : Nat} (rest : List Step) {a : Chronicle}
    (h : a.Withdrawn clustered n) :
    (a.run (shared scan heldScan lastly) rest).Withdrawn clustered n ∧
      ∀ p ∈ a.begun (shared scan heldScan lastly) rest, ∃ other, p = some other ∧ other ≠ n := by
  induction rest generalizing a with
  | nil => exact ⟨h, fun p hp => absurd hp List.not_mem_nil⟩
  | cons s rest ih =>
    have hnumbered := numbered_step hscan heldScan lastly h.toNumbered s
    obtain ⟨hafter, hbegun⟩ := h.step (advance_step hscan heldScan lastly h.proper s)
      (leadsTo_step scan heldScan lastly a.cluster s) hnumbered.booked
    obtain ⟨hend, hrest⟩ := ih hafter
    refine ⟨hend, fun p hp => ?_⟩
    rcases List.mem_append.1 hp with hp | hp
    · exact hbegun p hp
    · exact hrest p hp

/-- A waiting job that is canceled never runs. Take any run of one node alone that is not clustered,
or of any number of clustered nodes, each with its own settings, next to one queue that is changed
only through them. At any point of the run let a client cancel a job whose record says that it
waits, and let the node answer with success. Then in the whole rest of the run, whatever its steps
are, the work of this submission never begins on any node, and as long as there is a record of it,
that says that the job was asked to stop or has stopped, and never that it ran. Later submissions of
the same id are other ones. -/
theorem run_withdrawn (hscan : ∀ ids, (scan ids).Perm ids) (heldScan : Registry.Scan)
    (lastly : Job → WorkEnd) (now : Nat) (retention : Option Nat) {clustered : Bool}
    {nodes : List (Option Node)} (hnodes : ∀ n, some n ∈ nodes → n.Started clustered)
    (halone : clustered = false → nodes.length ≤ 1) (before after : List Step) :
    let world := shared scan heldScan lastly
    let a := run world before { cluster := { now, queue := { retention }, nodes } }
    ∀ k id credential r, a.cluster.record? id = some r → r.stage = .waiting →
      (a.cluster.step world (.cancel k id credential)).1 = .unit →
        a.NeverRuns world (.cancel k id credential :: after) r.status.request := by
  intro world a k id credential r hr hwaiting hok
  have h : a.Numbered clustered :=
    numbered_run hscan heldScan lastly before (numbered_of_new hnodes halone now retention)
  obtain ⟨hwithdrawn, hcancel⟩ := withdrawn_cancel hscan heldScan lastly h hr hwaiting hok
  obtain ⟨hend, hafter⟩ := withdrawn_run hscan heldScan lastly after hwithdrawn
  refine ⟨?_, fun id' r' hr' => hend.calledOff.records id' r' hr'⟩
  intro p hp
  rcases List.mem_append.1 hp with hp | hp
  · exact hcancel p hp
  · exact hafter p hp

/-- A node alone with one worker that has just started. Its work goes on until it is ended from
outside. -/
def freshAlone : List (Option Node) :=
  [(Node.new { maxRunning := 1 } (some defaultRetention) .submission
    (some fun _ => .holds)).toOption]

/-- Two jobs are submitted to the first node, whose only worker is busy with the first of them. -/
def queuedBehind : List Step :=
  [.submit 0 { id := "a", submittedAt := 0 }, .reconcile 0,
    .submit 0 { id := "b", submittedAt := 0 }]

/-- The second job is canceled. Then the worker is free, and the id is submitted again once the
record has expired. -/
def withdrawal : List Step :=
  [.cancel 0 "b" none, .release none "a" (.report ⟨"u1", "f1", "m1"⟩), .reconcile 0,
    .setClock 2000000, .reconcile 0, .submit 0 { id := "b", submittedAt := 2000000 },
    .reconcile 0]

/-- The second submission waits in the backlog of a node alone, and in the queue of two nodes. In
both runs it is the third one whose work begins. -/
theorem run_withdrawn_resubmitted :
    let world := shared id id .standard
    let waiting := fun nodes => run world queuedBehind
      { cluster := { now := 0, queue := { retention := some defaultRetention }, nodes } }
    ((waiting freshAlone).begun world withdrawal = [some 3] ∧
        (waiting freshAlone).NeverRuns world withdrawal 2) ∧
      (waiting freshPair).begun world withdrawal = [some 3] ∧
        (waiting freshPair).NeverRuns world withdrawal 2 := by
  intro world waiting
  have hrecord {nodes : List (Option Node)}
      (h : ((waiting nodes).cluster.record? "b").map (fun r => (r.status.request, r.stage))
        = some (2, .waiting)) :
      ∃ r, (waiting nodes).cluster.record? "b" = some r ∧ r.stage = .waiting ∧
        r.status.request = 2 := by
    obtain ⟨r, hr, hfields⟩ := Option.map_eq_some_iff.1 h
    exact ⟨r, hr, congrArg Prod.snd hfields, congrArg Prod.fst hfields⟩
  have hstarted (n : Node) (hn : some n ∈ freshAlone) : n.Started false := by
    refine ⟨{ maxRunning := 1 }, some defaultRetention, .submission, some fun _ => .holds, rfl, ?_⟩
    unfold freshAlone at hn
    generalize Node.new { maxRunning := 1 } _ _ _ = started at hn ⊢
    cases started with
    | error e => simp [Except.toOption] at hn
    | ok n' => simpa [Except.toOption, eq_comm] using hn
  obtain ⟨r, hr, hwaiting, hnumber⟩ := @hrecord freshAlone (by decide +kernel)
  obtain ⟨r', hr', hwaiting', hnumber'⟩ := @hrecord freshPair (by decide +kernel)
  refine ⟨⟨by decide +kernel, ?_⟩, by decide +kernel, ?_⟩
  · rw [← hnumber]
    exact run_withdrawn (fun _ => .rfl) id .standard 0 (some defaultRetention) hstarted
      (fun _ => Nat.le_refl 1) _ _ 0 "b" none r hr hwaiting (by decide +kernel)
  · rw [← hnumber']
    exact run_withdrawn (fun _ => .rfl) id .standard 0 (some defaultRetention)
      (fun _ => started_freshPair) (fun h => Bool.noConfusion h) _ _ 0 "b" none r' hr' hwaiting'
      (by decide +kernel)

end Chronicle

end Cluster

end JobScheduling
