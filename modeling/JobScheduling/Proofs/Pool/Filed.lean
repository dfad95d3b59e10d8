import JobScheduling.Proofs.Pool.Events
import JobScheduling.Proofs.Pool.Executions
import JobScheduling.Proofs.Pool.Placed
import Mathlib.Data.List.Nodup
import Mathlib.Data.List.Range

/-!
# `JobScheduling.Proofs.Pool.Filed`: every ticket in one place

A ticket waits in the backlog, occupies a worker, or is in the `Archive` of the pool: it was left
behind by a worker that broke down, it was settled with an outcome, or it was drained from the
backlog when the pool was stopped. `Pool.Filed` says that each ticket is in one of these places
and what that says about it.

A cancelled ticket stays where it is until a worker finds it or a purge drops it
(`Ticket.Stays`). That is why the backlog lists tickets that have finished, and why a worker can
be occupied by one.

`filed_f` says where the operation `f` moves tickets. They do so whatever the hook answers.
-/

set_option autoImplicit false

namespace JobScheduling

/-- What is queued has no outcome. -/
theorem Progress.queued_ne_finished (o : Outcome) : queued ≠ finished o := by simp

/-- What runs has no outcome. -/
theorem Progress.running_ne_finished (o : Outcome) : running ≠ finished o := by simp

/-- A ticket that has not left its place: it is as far as it was, or it was cancelled there. -/
structure Ticket.Stays (started : Bool) (progress : Progress) (t : Ticket) : Prop where
  started : t.started = started
  progress : t.progress = progress ∧ t.cancelled = false ∨
    t.progress = .finished .cancelled ∧ t.cancelled = true

namespace Ticket

variable {started : Bool} {progress : Progress} {t : Ticket}

/-- A new ticket waits. -/
theorem stays_new (job : Job) : Stays false .queued { job } := ⟨rfl, .inl ⟨rfl, rfl⟩⟩

/-- A cancelled ticket stays in its place. -/
theorem Stays.cancel (h : t.Stays started progress) : t.cancel.2.Stays started progress := by
  unfold Ticket.cancel
  split
  · exact h
  · exact ⟨h.started, .inr ⟨rfl, rfl⟩⟩

/-- A job is taken up that was not cancelled. -/
theorem Stays.taken (h : t.Stays false .queued) (hq : t.progress = .queued) :
    t.taken.Stays true .running := by
  refine ⟨rfl, .inl ⟨rfl, ?_⟩⟩
  rcases h.progress with ⟨-, hcancelled⟩ | ⟨hfinished, -⟩
  · exact hcancelled
  · rw [hq] at hfinished
    cases hfinished

/-- A ticket that has finished in its place was cancelled there. -/
theorem Stays.outcome? (h : t.Stays started progress) (hopen : ∀ o, progress ≠ .finished o)
    (hf : t.isFinished = true) : t.outcome? = some .cancelled := by
  rcases h.progress with ⟨hp, -⟩ | ⟨hp, -⟩
  · unfold isFinished Ticket.outcome? at hf
    rw [hp] at hf
    cases progress with
    | finished o => exact absurd rfl (hopen o)
    | queued | running => cases hf
  · rw [Ticket.outcome?, hp]

/-- An outcome that a ticket has in its place is that it was cancelled there. -/
theorem Stays.any_outcome (h : t.Stays started progress) (hopen : ∀ o, progress ≠ .finished o)
    {kind : Outcome → Bool} (hkind : kind .cancelled = false) : t.outcome?.any kind = false := by
  cases ho : t.outcome? with
  | none => rfl
  | some o =>
    have hcancelled := h.outcome? hopen (isFinished_of_outcome? ho)
    cases ho.symm.trans hcancelled
    exact hkind

/-- The mark `cancelled` tells the outcome with which a running ticket leaves its worker. -/
theorem Stays.outcome?_finish (h : t.Stays started .running) (o : Outcome) :
    (t.finish (if t.cancelled = true then .cancelled else o)).2.outcome?
      = some (if t.cancelled = true then .cancelled else o) := by
  rw [Ticket.outcome?_finish]
  rcases h.progress with ⟨hp, hc⟩ | ⟨hp, hc⟩ <;> simp [Ticket.outcome?, hp, hc]

end Ticket

namespace Pool

/-- The tickets that wait no longer and occupy no worker. -/
structure Archive where
  /-- Taken up by a worker that broke down before the work began. -/
  stranded : List Nat := []
  /-- Left the backlog or a worker with an outcome. -/
  settled : List (Nat × Outcome) := []
  /-- Left the backlog when the pool was stopped. -/
  drained : List Nat := []

namespace Archive

/-- A ticket was settled. -/
def settle (n : Nat) (o : Outcome) (a : Archive) : Archive :=
  { a with settled := (n, o) :: a.settled }

/-- Cancelled tickets were dropped from the backlog. -/
def drop (numbers : List Nat) (a : Archive) : Archive :=
  { a with settled := numbers.map (·, .cancelled) ++ a.settled }

/-- A ticket was left behind by its worker. -/
def strand (n : Nat) (a : Archive) : Archive := { a with stranded := n :: a.stranded }

/-- The backlog was drained. -/
def drain (numbers : List Nat) (a : Archive) : Archive := { a with drained := numbers ++ a.drained }

/-- All tickets in the archive. -/
def numbers (a : Archive) : List Nat := a.stranded ++ (a.settled.map Prod.fst ++ a.drained)

end Archive

/-- Whether a worker took up the job of a ticket. -/
def hasStarted (p : Pool) (n : Nat) : Bool := p.tickets[n]?.any (·.started)

/-- All tickets of some numbers have a property. -/
def Each (P : Ticket → Prop) (numbers : List Nat) (p : Pool) : Prop :=
  ∀ n ∈ numbers, ∃ t, p.tickets[n]? = some t ∧ P t

/-- Every ticket is in one place. -/
structure Filed (a : Archive) (p : Pool) : Prop where
  places : (p.waiting ++ (p.busy ++ a.numbers)).Perm (List.range p.tickets.length)
  waiting : p.Each (Ticket.Stays false .queued) p.waiting
  busy : p.Each (Ticket.Stays true .running) p.busy
  stranded : p.Each (Ticket.Stays true .running) a.stranded
  settled : ∀ n o, (n, o) ∈ a.settled → ∃ t, p.tickets[n]? = some t ∧ t.outcome? = some o
  drained : p.Each (fun t => t.isFinished = true) a.drained
  /-- The work of every job that was taken up has begun, unless its worker broke down before. -/
  begun : ∀ n, n ∈ p.begun ↔ p.hasStarted n = true ∧ n ∉ a.stranded
  lost : p.lost = a.stranded.length
  within : p.busy.length + p.lost ≤ p.settings.workers

/-- A pool that has not been used has no tickets. -/
theorem filed_of_new {settings : PoolSettings} {work : Job → Work} {priority : Priority} {p : Pool}
    (h : Pool.new settings work priority = .ok p) : p.Filed {} := by
  unfold Pool.new at h
  split at h <;> cases h
  exact ⟨.refl _, nofun, nofun, nofun, nofun, nofun, by simp [hasStarted], rfl, Nat.zero_le _⟩

section
variable {a : Archive} {p p' : Pool} {n : Nat} {numbers : List Nat} {P : Ticket → Prop}

/-! ### Single tickets -/

/-- A change of one ticket that keeps a property. -/
theorem Each.of_modify {f : Ticket → Ticket} (h : p.Each P numbers)
    (htickets : p'.tickets = p.tickets.modify n f) (hf : ∀ t, P t → P (f t)) :
    p'.Each P numbers := by
  intro m hm
  obtain ⟨t, ht, hP⟩ := h m hm
  rw [htickets, getElem?_modify, ht]
  split
  · exact ⟨f t, rfl, hf t hP⟩
  · exact ⟨t, rfl, hP⟩

/-- A change of another ticket. -/
theorem Each.of_modify_of_notMem {f : Ticket → Ticket} (h : p.Each P numbers)
    (htickets : p'.tickets = p.tickets.modify n f) (hn : n ∉ numbers) : p'.Each P numbers := by
  intro m hm
  have hne : n ≠ m := fun heq => hn (heq ▸ hm)
  rw [htickets, getElem?_modify, if_neg hne]
  exact h m hm

/-- A new ticket. -/
theorem Each.of_append {t : Ticket} (h : p.Each P numbers)
    (htickets : p'.tickets = p.tickets ++ [t]) : p'.Each P numbers := by
  intro m hm
  obtain ⟨t, ht, hP⟩ := h m hm
  have hlt := (List.getElem?_eq_some_iff.1 ht).1
  exact ⟨t, by rw [htickets, List.getElem?_append_left hlt, ht], hP⟩

/-- What has finished stays as it is. -/
theorem Filed.settled_of_follows (h : p.Filed a) (hfollows : p.Follows p') :
    ∀ n o, (n, o) ∈ a.settled → ∃ t, p'.tickets[n]? = some t ∧ t.outcome? = some o := by
  intro n o hmem
  obtain ⟨t, ht, ho⟩ := h.settled n o hmem
  obtain ⟨t', ht', hf⟩ := hfollows.ticket ht
  rw [hf.finished (Ticket.isFinished_of_outcome? ho)] at ht'
  exact ⟨t, ht', ho⟩

/-- What was drained stays finished. -/
theorem Filed.drained_of_follows (h : p.Filed a) (hfollows : p.Follows p') :
    p'.Each (fun t => t.isFinished = true) a.drained := by
  intro n hn
  obtain ⟨t, ht, hfinished⟩ := h.drained n hn
  obtain ⟨t', ht', hf⟩ := hfollows.ticket ht
  rw [hf.finished hfinished] at ht'
  exact ⟨t, ht', hfinished⟩

/-- Closing tickets makes none of them started. -/
theorem Closes.hasStarted (h : p.Closes p') (n : Nat) : p'.hasStarted n = p.hasStarted n := by
  have hn := h n
  simp only [Pool.hasStarted]
  generalize p.tickets[n]? = x at hn ⊢
  generalize p'.tickets[n]? = y at hn ⊢
  cases hn with
  | none => rfl
  | some hc => simp [hc.started]

/-- To close tickets gives out none. -/
theorem Closes.length_tickets (h : p.Closes p') : p'.tickets.length = p.tickets.length := by
  refine Nat.le_antisymm ?_ ?_ <;> rw [← List.getElem?_eq_none_iff]
  · rw [← h.eq_none_iff, List.getElem?_eq_none_iff]
  · rw [h.eq_none_iff, List.getElem?_eq_none_iff]

/-! ### One place for each ticket -/

/-- No ticket is in two places. -/
theorem Filed.count_le (h : p.Filed a) (n : Nat) :
    p.waiting.count n + (p.busy.count n + (a.stranded.count n
      + ((a.settled.map Prod.fst).count n + a.drained.count n))) ≤ 1 := by
  have hcount := h.places.count_eq n
  have hrange := List.nodup_iff_count_le_one.1 (List.nodup_range (n := p.tickets.length)) n
  simp only [Archive.numbers, List.count_append] at hcount
  omega

/-- A ticket that occupies a worker is nowhere else. -/
theorem Filed.only_busy (h : p.Filed a) (hn : n ∈ p.busy) :
    n ∉ p.waiting ∧ n ∉ p.busy.erase n ∧ n ∉ a.stranded := by
  have hcount := h.count_le n
  have hpos := List.count_pos_iff.2 hn
  have herase := List.count_erase_self (a := n) (l := p.busy)
  simp only [← List.count_eq_zero]
  omega

/-- A ticket that waits is nowhere else. -/
theorem Filed.only_waiting (h : p.Filed a) {rest : List Nat} (hn : p.waiting = n :: rest) :
    n ∉ rest ∧ n ∉ p.busy ∧ n ∉ a.stranded := by
  have hcount := h.count_le n
  rw [hn, List.count_cons_self] at hcount
  simp only [← List.count_eq_zero]
  omega

/-! ### What is done from outside -/

/-- A ticket that is cancelled stays in its place. -/
theorem filed_cancel (h : p.Filed a) (n : Nat) : (p.cancel n).2.Filed a := by
  have hcloses := closes_cancel n p
  rw [cancel_snd] at hcloses ⊢
  -- A ticket that is cancelled stays in its place, whichever it is.
  have hstays {started : Bool} {progress : Progress} {numbers : List Nat}
      (hl : p.Each (Ticket.Stays started progress) numbers) :
      Each (Ticket.Stays started progress) numbers (p.modifyTicket n fun t => t.cancel.2) :=
    hl.of_modify rfl fun _ => Ticket.Stays.cancel
  refine ⟨?_, hstays h.waiting, hstays h.busy, hstays h.stranded,
    h.settled_of_follows hcloses.follows, h.drained_of_follows hcloses.follows, ?_, h.lost,
    h.within⟩
  · show List.Perm _ (List.range (p.tickets.modify n _).length)
    rw [List.length_modify]
    exact h.places
  · intro m
    rw [hcloses.hasStarted]
    exact h.begun m

/-- A job that is accepted waits under a new ticket. -/
theorem filed_submit (h : p.Filed a) {job : Job} (hp : p.submit job = .ok (n, p')) :
    p'.Filed a := by
  obtain ⟨-, rfl, htickets, hbacklog, hbusy, -⟩ := submit_eq_ok hp
  have hwaiting : p'.waiting.Perm (p.tickets.length :: p.waiting) := by
    rw [waiting, hbacklog]
    exact (Backlog.place_perm _ _ p.backlog.jobs).map Slot.ticket
  obtain ⟨hlost, hsettings⟩ := constants_submit hp
  have hbegun : p'.begun = p.begun := begun_submit hp
  refine ⟨?_, ?_, ?_, h.stranded.of_append htickets, ?_, h.drained.of_append htickets, ?_, ?_, ?_⟩
  · -- The new number is the next one, and it is put with those that wait.
    rw [htickets, List.length_append, List.length_singleton, List.range_succ, hbusy]
    refine (hwaiting.append_right _).trans ?_
    exact (h.places.cons _).trans (List.perm_append_singleton _ _).symm
  · intro m hm
    rcases List.mem_cons.1 (hwaiting.mem_iff.1 hm) with rfl | hm
    · exact ⟨{ job }, newTicket_of_submit hp, Ticket.stays_new job⟩
    · exact h.waiting.of_append htickets m hm
  · rw [hbusy]
    exact h.busy.of_append htickets
  · intro m o hm
    obtain ⟨t, ht, ho⟩ := h.settled m o hm
    exact ⟨t, ticket_of_submit hp ht, ho⟩
  · -- A submission begins no work.
    intro m
    rw [hbegun, h.begun m]
    have hsame : p'.hasStarted m = p.hasStarted m := by
      simp only [hasStarted, htickets]
      by_cases hm : m < p.tickets.length
      · rw [List.getElem?_append_left hm]
      · -- The new ticket is not started, and there are no others.
        rw [List.getElem?_eq_none (Nat.not_lt.1 hm), List.getElem?_append_right (Nat.not_lt.1 hm)]
        cases m - p.tickets.length <;> rfl
    rw [hsame]
  · rw [hlost]
    exact h.lost
  · rw [hbusy, hlost, hsettings]
    exact h.within

/-- A chore has no ticket, so every ticket keeps its place. -/
theorem filed_schedulePurge (h : p.Filed a) (hp : p.schedulePurge = .ok p') : p'.Filed a := by
  unfold schedulePurge at hp
  split at hp <;> cases hp
  exact ⟨h.places, h.waiting, h.busy, h.stranded, h.settled, h.drained, h.begun, h.lost, h.within⟩

/-- The cancelled tickets that a purge drops. -/
def purged (p : Pool) : List Nat :=
  (p.backlog.jobs.filter fun slot => p.hasFinished slot.ticket).map (·.ticket)

/-- As many tickets are purged as the purge counts. -/
theorem length_purged (p : Pool) : p.purged.length = p.purgeCount := by
  rw [purged, List.length_map, purgeCount, Backlog.purgeCount, List.countP_eq_length_filter]

/-- A purge settles the tickets that were cancelled while they waited. -/
theorem filed_purge (h : p.Filed a) : p.purge.Filed (a.drop p.purged) := by
  have hsplit : (p.purged ++ p.purge.waiting).Perm p.waiting := by
    rw [purged, waiting, ← List.map_append]
    exact (List.filter_append_perm _ p.backlog.jobs).map Slot.ticket
  refine ⟨?_, ?_, h.busy, h.stranded, ?_, h.drained, h.begun, h.lost, h.within⟩
  · -- The purged tickets go from the backlog to the settled ones, and no number is lost or doubled.
    refine List.Perm.trans ?_ h.places
    rw [List.perm_iff_count]
    intro n
    have hcount := hsplit.count_eq n
    simp only [Archive.numbers, Archive.drop, List.map_append, List.map_map, Function.comp_def,
      List.map_id', List.count_append] at hcount ⊢
    show _ + (p.busy.count n + _) = _
    omega
  · intro n hn
    exact h.waiting n (hsplit.subset (List.mem_append_right _ hn))
  · intro n o hmem
    rcases List.mem_append.1 hmem with hmem | hmem
    · obtain ⟨m, hm, heq⟩ := List.mem_map.1 hmem
      cases heq
      obtain ⟨t, ht, hstays⟩ := h.waiting n (hsplit.subset (List.mem_append_left _ hm))
      refine ⟨t, ht, hstays.outcome? Progress.queued_ne_finished ?_⟩
      obtain ⟨slot, hslot, rfl⟩ := List.mem_map.1 hm
      have hfinished := (List.mem_filter.1 hslot).2
      rwa [hasFinished, ht] at hfinished
    · exact h.settled n o hmem

/-- The outcome with which a worker leaves a ticket is that of the ticket. -/
def Leaves (n : Nat) (o : Outcome) (p : Pool) : Prop :=
  ∀ t, p.tickets[n]? = some t → (t.finish o).2.outcome? = some o

/-- A worker leaves its ticket. -/
theorem filed_leave (h : p.Filed a) (hn : n ∈ p.busy) {o : Outcome} (ho : p.Leaves n o) :
    (p.leave n o).Filed (a.settle n o) := by
  -- The number is in no other place, so the outcome changes this ticket alone.
  obtain ⟨hwaiting, hbusy, hstranded⟩ := h.only_busy hn
  have hcloses := closes_leave n o p
  have hpos := List.count_pos_iff.2 hn
  refine ⟨?_, h.waiting.of_modify_of_notMem rfl hwaiting, ?_,
    h.stranded.of_modify_of_notMem rfl hstranded, ?_, h.drained_of_follows hcloses.follows, ?_,
    h.lost, ?_⟩
  · show List.Perm _ (List.range (p.tickets.modify n _).length)
    rw [List.length_modify]
    refine List.Perm.trans ?_ h.places
    rw [List.perm_iff_count]
    -- The number goes from the busy ones to the settled ones.
    intro m
    rw [show (p.leave n o).waiting = p.waiting from rfl,
      show (p.leave n o).busy = p.busy.erase n from rfl]
    simp only [Archive.numbers, Archive.settle, List.map_cons, List.count_append, List.count_cons,
      List.count_erase]
    by_cases hm : n = m
    · subst hm
      simp only [beq_self_eq_true, if_true]
      omega
    · simp only [beq_iff_eq, hm, if_false]
      omega
  · have hrest : p.Each (Ticket.Stays true .running) (p.busy.erase n) :=
      fun m hm => h.busy m (List.mem_of_mem_erase hm)
    exact hrest.of_modify_of_notMem rfl hbusy
  · intro m o' hmem
    rcases List.mem_cons.1 hmem with heq | hmem
    · cases heq
      obtain ⟨t, ht, -⟩ := h.busy n hn
      refine ⟨(t.finish o).2, ?_, ho t ht⟩
      rw [show (p.leave n o).tickets = p.tickets.modify n _ from rfl, getElem?_modify, if_pos rfl,
        ht]
      rfl
    · exact h.settled_of_follows hcloses.follows m o' hmem
  · intro m
    rw [hcloses.hasStarted]
    exact h.begun m
  · have hlength := List.length_erase_le (a := n) (l := p.busy)
    have hwithin := h.within
    show (p.busy.erase n).length + p.lost ≤ p.settings.workers
    omega

/-- A worker whose job was cancelled leaves it as such. -/
theorem leaves_cancelled (h : p.Filed a) (hn : n ∈ p.busy) (hf : p.hasFinished n = true) :
    p.Leaves n .cancelled := by
  intro t ht
  obtain ⟨t', ht', hstays⟩ := h.busy n hn
  rw [hasFinished, ht] at hf
  cases ht.symm.trans ht'
  rw [Ticket.outcome?_finish, hstays.outcome? Progress.running_ne_finished hf]
  rfl

/-- The outcome that the end of some work is recorded with. -/
def endOf (n : Nat) (how : WorkEnd) (p : Pool) : Outcome :=
  if p.tickets[n]?.any (·.cancelled) then .cancelled else how.outcome

/-- Work that ends leaves its ticket with an outcome. -/
theorem leaves_endOf (h : p.Filed a) (hn : n ∈ p.busy) (how : WorkEnd) :
    p.Leaves n (p.endOf n how) := by
  intro t ht
  obtain ⟨t', ht', hstays⟩ := h.busy n hn
  cases ht.symm.trans ht'
  have hout := hstays.outcome?_finish how.outcome
  rw [endOf, ht]
  exact hout

/-- The ticket of work that ends is settled. -/
theorem filed_endWork (h : p.Filed a) (hn : n ∈ p.busy) (how : WorkEnd) :
    (p.endWork n how).Filed (a.settle n (p.endOf n how)) := filed_leave h hn (leaves_endOf h hn how)

/-- No two workers have the same ticket. -/
theorem Filed.nodup_busy (h : p.Filed a) : p.busy.Nodup := by
  rw [List.nodup_iff_count_le_one]
  intro n
  have hcount := h.count_le n
  omega

/-- The tickets of the items of the backlog are those that wait. -/
theorem ticketsOf_items (p : Pool) : ticketsOf p.backlog.items = p.waiting := by
  simp only [ticketsOf, Backlog.items, waiting, List.filterMap_append, List.filterMap_map]
  simp

/-- The tickets after the stop of a pool: those that wait are interrupted. -/
theorem getElem?_shutDown (hopen : p.isShutDown = false) (n : Nat) :
    p.shutDown.tickets[n]?
      = if n ∈ p.waiting then p.tickets[n]?.map fun t => (t.finish .interrupted).2
        else p.tickets[n]? := by
  unfold shutDown
  rw [hopen, if_neg Bool.false_ne_true]
  show (List.foldl _ p.tickets (ticketsOf p.backlog.items))[n]? = _
  rw [getElem?_interrupt, ticketsOf_items]

/-- The stop of a pool drains its backlog. -/
theorem filed_shutDown (h : p.Filed a) (hopen : p.isShutDown = false) :
    p.shutDown.Filed (a.drain p.waiting) := by
  have hcloses := closes_shutDown p
  have hsame : p.shutDown.busy = p.busy ∧ p.shutDown.begun = p.begun ∧ p.shutDown.waiting = [] := by
    unfold shutDown
    rw [hopen, if_neg Bool.false_ne_true]
    exact ⟨rfl, rfl, rfl⟩
  obtain ⟨hbusy, hbegun, hwaiting⟩ := hsame
  obtain ⟨hlost, hsettings⟩ := constants_shutDown p
  -- Where no ticket waits, none is interrupted.
  have hkept {P : Ticket → Prop} {numbers : List Nat} (hl : p.Each P numbers)
      (hnone : ∀ n ∈ numbers, n ∉ p.waiting) : p.shutDown.Each P numbers := by
    intro n hn
    rw [getElem?_shutDown hopen, if_neg (hnone n hn)]
    exact hl n hn
  refine ⟨?_, ?_, ?_, ?_, h.settled_of_follows hcloses.follows, ?_, ?_, ?_, ?_⟩
  · rw [hwaiting, hbusy, hcloses.length_tickets]
    refine List.Perm.trans ?_ h.places
    rw [List.perm_iff_count]
    intro n
    simp only [Archive.numbers, Archive.drain, List.count_append, List.count_nil]
    omega
  · rw [hwaiting]
    nofun
  · rw [hbusy]
    exact hkept h.busy fun n hn => (h.only_busy hn).1
  · refine hkept h.stranded fun n hn hw => ?_
    have hcount := h.count_le n
    have hpos : 0 < a.stranded.count n := List.count_pos_iff.2 hn
    have hpos' := List.count_pos_iff.2 hw
    omega
  · intro n hn
    rcases List.mem_append.1 hn with hn | hn
    · obtain ⟨t, ht, -⟩ := h.waiting n hn
      refine ⟨(t.finish .interrupted).2, ?_, Ticket.isFinished_finish ..⟩
      rw [getElem?_shutDown hopen, if_pos hn, ht]
      rfl
    · exact h.drained_of_follows hcloses.follows n hn
  · intro n
    rw [hbegun, hcloses.hasStarted]
    exact h.begun n
  · rw [hlost]
    exact h.lost
  · rw [hbusy, hlost, hsettings]
    exact h.within

/-! ### What workers do -/

variable {backlog : Backlog Chore Slot} {slot : Slot}

/-- A worker that takes a chore takes no ticket. -/
theorem filed_popped {c : Chore} (h : p.Filed a)
    (hpop : p.backlog.pop? = some (.chore c, backlog)) : (p.popped backlog).Filed a := by
  have hwaiting : (p.popped backlog).waiting = p.waiting := (waiting_of_pop? hpop).symm
  refine ⟨?_, ?_, h.busy, h.stranded, h.settled, h.drained, h.begun, h.lost, h.within⟩
  · rw [hwaiting]
    exact h.places
  · rw [hwaiting]
    exact h.waiting

/-- The first of the tickets that wait is that of the job that is taken from the backlog. -/
theorem waiting_eq_cons (hpop : p.backlog.pop? = some (.job slot, backlog)) :
    p.waiting = slot.ticket :: (p.popped backlog).waiting := waiting_of_pop? hpop

/-- A job that was cancelled while it waited is settled when it is taken. -/
theorem filed_skipped (h : p.Filed a) (hpop : p.backlog.pop? = some (.job slot, backlog))
    {t : Ticket} (ht : p.tickets[slot.ticket]? = some t) (hq : t.progress ≠ .queued)
    (counters : Counters) :
    Filed (a.settle slot.ticket .cancelled) { p.popped backlog with counters } := by
  have hwaiting := waiting_eq_cons hpop
  refine ⟨?_, ?_, h.busy, h.stranded, ?_, h.drained, h.begun, h.lost, h.within⟩
  · -- The number goes from the head of the backlog to the settled ones.
    refine List.Perm.trans ?_ h.places
    rw [hwaiting, List.perm_iff_count]
    intro n
    show List.count n ((p.popped backlog).waiting ++ (p.busy ++ _)) = _
    simp only [Archive.numbers, Archive.settle, List.map_cons, List.count_append, List.count_cons]
    omega
  · intro n hn
    exact h.waiting n (hwaiting ▸ List.mem_cons_of_mem _ hn)
  · intro n o hmem
    rcases List.mem_cons.1 hmem with heq | hmem
    · cases heq
      obtain ⟨t', ht', hstays⟩ := h.waiting slot.ticket (hwaiting ▸ List.mem_cons_self)
      cases ht.symm.trans ht'
      refine ⟨t, ht, hstays.outcome? Progress.queued_ne_finished ?_⟩
      -- It is not queued, so it was cancelled.
      rcases hstays.progress with ⟨hp, -⟩ | ⟨hp, -⟩
      · exact absurd hp hq
      · rw [Ticket.isFinished, Ticket.outcome?, hp]
        rfl
    · exact h.settled n o hmem

/-- A free worker has taken up the job of a ticket, and its work has not begun yet. All other
tickets are filed. -/
structure InHand (n : Nat) (a : Archive) (p : Pool) : Prop where
  places : (n :: (p.waiting ++ (p.busy ++ a.numbers))).Perm (List.range p.tickets.length)
  ticket : ∃ t, p.tickets[n]? = some t ∧ t.Stays true .running
  waiting : p.Each (Ticket.Stays false .queued) p.waiting
  busy : p.Each (Ticket.Stays true .running) p.busy
  stranded : p.Each (Ticket.Stays true .running) a.stranded
  settled : ∀ n o, (n, o) ∈ a.settled → ∃ t, p.tickets[n]? = some t ∧ t.outcome? = some o
  drained : p.Each (fun t => t.isFinished = true) a.drained
  begun : ∀ m, m ∈ p.begun ↔ m ≠ n ∧ p.hasStarted m = true ∧ m ∉ a.stranded
  apart : n ∉ a.stranded
  lost : p.lost = a.stranded.length
  free : p.busy.length + p.lost < p.settings.workers

/-- A free worker takes up a job that was not cancelled. -/
theorem inHand_taken (h : p.Filed a) (hfree : p.hasFreeWorker = true)
    (hpop : p.backlog.pop? = some (.job slot, backlog)) {t : Ticket}
    (ht : p.tickets[slot.ticket]? = some t) (hq : t.progress = .queued) :
    InHand slot.ticket a ((p.popped backlog).taken slot.ticket) := by
  have hwaiting := waiting_eq_cons hpop
  obtain ⟨hrest, hbusy, hstranded⟩ := h.only_waiting hwaiting
  obtain ⟨t', ht', hstays⟩ := h.waiting slot.ticket (hwaiting ▸ List.mem_cons_self)
  cases ht.symm.trans ht'
  have hfollows : p.Follows ((p.popped backlog).taken slot.ticket) :=
    follows_taken slot.ticket (p.popped backlog)
  have htaken : ((p.popped backlog).taken slot.ticket).tickets[slot.ticket]? = some t.taken := by
    rw [getElem?_taken, if_pos rfl, show (p.popped backlog).tickets = p.tickets from rfl, ht,
      Option.map_some, t.begin?_eq, if_pos hq]
  have hother {n : Nat} (hn : slot.ticket ≠ n) :
      ((p.popped backlog).taken slot.ticket).tickets[n]? = p.tickets[n]? := by
    rw [getElem?_taken, if_neg hn]
    rfl
  -- The first ticket is taken out of the backlog and is in no place until the worker is occupied
  -- with it.
  have hwaiting' : p.Each (Ticket.Stays false .queued) (p.popped backlog).waiting :=
    fun n hn => h.waiting n (hwaiting ▸ List.mem_cons_of_mem _ hn)
  refine ⟨?_, ⟨t.taken, htaken, hstays.taken hq⟩, hwaiting'.of_modify_of_notMem rfl hrest,
    h.busy.of_modify_of_notMem rfl hbusy, h.stranded.of_modify_of_notMem rfl hstranded,
    h.settled_of_follows hfollows, h.drained_of_follows hfollows, ?_, hstranded, h.lost, ?_⟩
  · show List.Perm _ (List.range (p.tickets.modify slot.ticket _).length)
    rw [List.length_modify]
    have hplaces := h.places
    rw [hwaiting] at hplaces
    exact hplaces
  · intro m
    show m ∈ p.begun ↔ _
    rw [h.begun m]
    by_cases hm : slot.ticket = m
    · -- What waits has not begun.
      subst hm
      simp [hasStarted, ht, hstays.started]
    · rw [show ((p.popped backlog).taken slot.ticket).hasStarted m = p.hasStarted m by
        simp only [hasStarted, hother hm]]
      simp [Ne.symm hm]
  · show p.busy.length + p.lost < p.settings.workers
    simpa [hasFreeWorker] using hfree

/-- The work of the job begins. -/
theorem InHand.occupied (h : p.InHand n a) : (p.occupied n).Filed a := by
  obtain ⟨t, ht, hstays⟩ := h.ticket
  refine ⟨?_, h.waiting, ?_, h.stranded, h.settled, h.drained, ?_, h.lost, ?_⟩
  · -- The ticket in hand goes to the busy ones.
    refine List.Perm.trans ?_ h.places
    rw [List.perm_iff_count]
    intro m
    show List.count m (p.waiting ++ ((p.busy ++ [n]) ++ a.numbers)) = _
    simp only [List.count_append, List.count_cons, List.count_nil]
    omega
  · intro m hm
    rcases List.mem_append.1 hm with hm | hm
    · exact h.busy m hm
    · rw [List.mem_singleton.1 hm]
      exact ⟨t, ht, hstays⟩
  · intro m
    show m ∈ p.begun ++ [n] ↔ p.hasStarted m = true ∧ m ∉ a.stranded
    rw [List.mem_append, List.mem_singleton, h.begun m]
    -- It was not stranded, so it counts as begun.
    by_cases hm : m = n
    · subst hm
      simp [hasStarted, ht, hstays.started, h.apart]
    · simp [hm]
  · show (p.busy ++ [n]).length + p.lost ≤ p.settings.workers
    rw [List.length_append, List.length_singleton]
    have hfree := h.free
    omega

/-- The worker breaks down before the work begins. -/
theorem InHand.breaks (h : p.InHand n a) : Filed (a.strand n) { p with lost := p.lost + 1 } := by
  obtain ⟨t, ht, hstays⟩ := h.ticket
  refine ⟨?_, h.waiting, h.busy, ?_, h.settled, h.drained, ?_, ?_, ?_⟩
  · -- The ticket in hand is stranded, and a worker is lost with it.
    refine List.Perm.trans ?_ h.places
    rw [List.perm_iff_count]
    intro m
    show List.count m (p.waiting ++ (p.busy ++ _)) = _
    simp only [Archive.numbers, Archive.strand, List.count_append, List.count_cons]
    omega
  · intro m hm
    rcases List.mem_cons.1 hm with rfl | hm
    · exact ⟨t, ht, hstays⟩
    · exact h.stranded m hm
  · intro m
    show m ∈ p.begun ↔ p.hasStarted m = true ∧ m ∉ n :: a.stranded
    rw [h.begun m, List.mem_cons, not_or]
    exact and_left_comm
  · show p.lost + 1 = (n :: a.stranded).length
    rw [List.length_cons, h.lost]
  · exact h.free

end

end Pool

end JobScheduling
