import JobScheduling.Proofs.Pool.Rest
import JobScheduling.Proofs.Pool.Sound
import Mathlib.Data.List.Perm.Subperm

/-!
# `JobScheduling.Proofs.Pool.Placed`: where the open tickets of a pool are

A ticket that has not finished waits in the backlog or occupies a worker. `Pool.Placed` says that
the backlog lists the queued tickets and no others, that the running ones have a worker each, and
that no ticket is in two places.

A cancellation leaves its job in the backlog, where it is skipped later, so `Pool.Placed` is not
kept by it in general. It is kept while the backlog has no jobs (`Placed.of_closes`). The workers
keep it always, if no hook crashes (`placed_settle`).

`Placed.jobs_eq_nil` is what this is for: a pool at rest whose open tickets are no more than its
workers has no job in its backlog.
-/

set_option autoImplicit false

namespace JobScheduling

/-- A ticket that has not finished later is the same. -/
theorem Ticket.Closes.eq_of_open {t t' : Ticket} (h : t.Closes t') (ht : t'.isFinished = false) :
    t' = t := by
  rcases h with h | ⟨-, hfinished, -⟩
  · exact h
  · rw [ht] at hfinished
    cases hfinished

/-- What runs has not finished. -/
theorem Ticket.isFinished_of_running {t : Ticket} (h : t.progress = .running) :
    t.isFinished = false := by
  rw [isFinished, outcome?, h]
  rfl

/-- A ticket that has not finished is queued or runs. -/
theorem Ticket.queued_or_running {t : Ticket} (h : t.isFinished = false) :
    t.progress = .queued ∨ t.progress = .running := by
  unfold isFinished outcome? at h
  cases hp : t.progress with
  | queued => exact .inl rfl
  | running => exact .inr rfl
  | finished o =>
    rw [hp] at h
    cases h

namespace Pool

/-- The tickets of the jobs in the backlog, in the order in which they will be taken. -/
def waiting (p : Pool) : List Nat := p.backlog.jobs.map (·.ticket)

/-- Every ticket that has not finished is in one place. -/
structure Placed (p : Pool) : Prop where
  nodup : (p.busy ++ p.waiting).Nodup
  queued_iff : ∀ (n : Nat) t, p.tickets[n]? = some t → (t.progress = .queued ↔ n ∈ p.waiting)
  running : ∀ (n : Nat) t, p.tickets[n]? = some t → t.progress = .running → n ∈ p.busy

/-- A pool that has not been used has no tickets. -/
theorem placed_of_new {settings : PoolSettings} {work : Job → Work} {priority : Priority}
    {p : Pool} (h : Pool.new settings work priority = .ok p) :
    p.Placed ∧ p.backlog.jobs = [] ∧ p.lost = 0 ∧ p.settings = settings := by
  unfold Pool.new at h
  split at h <;> cases h
  exact ⟨⟨.nil, nofun, nofun⟩, rfl, rfl, rfl⟩

/-! ### What is done from outside -/

section
variable {p p' : Pool}

/-- A cancellation loses no worker and changes no setting. The same holds for the operations below.
-/
theorem constants_cancel (n : Nat) (p : Pool) :
    (p.cancel n).2.lost = p.lost ∧ (p.cancel n).2.settings = p.settings := by
  simp only [cancel]
  split <;> exact ⟨rfl, rfl⟩

/-- The stop loses no worker. -/
theorem constants_shutDown (p : Pool) :
    p.shutDown.lost = p.lost ∧ p.shutDown.settings = p.settings := by
  unfold shutDown
  split <;> exact ⟨rfl, rfl⟩

/-- The end of the work loses no worker. -/
theorem constants_endAll (how : Job → WorkEnd) (p : Pool) :
    (p.endAll how).lost = p.lost ∧ (p.endAll how).settings = p.settings :=
  endAll_induction (P := fun q => q.lost = p.lost ∧ q.settings = p.settings) how
    (fun _ _ _ hq _ => hq) ⟨rfl, rfl⟩

/-- A submission loses no worker. -/
theorem constants_submit {job : Job} {n : Nat} (h : p.submit job = .ok (n, p')) :
    p'.lost = p.lost ∧ p'.settings = p.settings := by
  unfold submit at h
  split at h <;> cases h
  exact ⟨rfl, rfl⟩

/-- The request of a purge loses no worker. -/
theorem constants_schedulePurge (h : p.schedulePurge = .ok p') :
    p'.lost = p.lost ∧ p'.settings = p.settings := by
  unfold schedulePurge at h
  split at h <;> cases h
  exact ⟨rfl, rfl⟩

/-- A change that leaves the tickets, the jobs of the backlog and the busy workers alone. -/
theorem Placed.of_eq (h : p.Placed) (htickets : p'.tickets = p.tickets)
    (hjobs : p'.backlog.jobs = p.backlog.jobs) (hbusy : p'.busy = p.busy) : p'.Placed := by
  have hwaiting : p'.waiting = p.waiting := congrArg (List.map Slot.ticket) hjobs
  refine ⟨?_, ?_, ?_⟩
  · rw [hbusy, hwaiting]
    exact h.nodup
  · rw [hwaiting, htickets]
    exact h.queued_iff
  · rw [hbusy, htickets]
    exact h.running

/-- Tickets are closed while the backlog has no jobs. A worker is freed by the end of its
ticket only. -/
theorem Placed.of_closes (h : p.Placed) (hidle : p.backlog.jobs = []) (hcloses : p.Closes p')
    (hjobs : p'.backlog.jobs = []) (hbusy : p'.busy = p.busy) : p'.Placed := by
  have hnone : p.waiting = [] := by rw [waiting, hidle]; rfl
  have hnone' : p'.waiting = [] := by rw [waiting, hjobs]; rfl
  -- There is nothing in the backlog, so no ticket is queued, and none gets queued.
  refine ⟨?_, ?_, ?_⟩
  · rw [hbusy, hnone', ← hnone]
    exact h.nodup
  · intro n t' ht'
    rw [hnone']
    refine ⟨fun hq => ?_, nofun⟩
    obtain ⟨t, ht, hc⟩ := hcloses.ticket_before ht'
    rw [hc.eq_of_open (Ticket.isFinished_of_queued hq)] at hq
    exact hnone ▸ (h.queued_iff n t ht).1 hq
  · intro n t' ht' hr
    obtain ⟨t, ht, hc⟩ := hcloses.ticket_before ht'
    rw [hc.eq_of_open (Ticket.isFinished_of_running hr)] at hr
    rw [hbusy]
    exact h.running n t ht hr

/-- While no job waits, a cancellation finds the ticket with a worker or finished. -/
theorem placed_cancel (h : p.Placed) (hidle : p.backlog.jobs = []) (n : Nat) :
    (p.cancel n).2.Placed ∧ (p.cancel n).2.backlog.jobs = [] := by
  have hsame : (p.cancel n).2.backlog = p.backlog ∧ (p.cancel n).2.busy = p.busy := by
    simp only [cancel]
    split <;> exact ⟨rfl, rfl⟩
  have hjobs : (p.cancel n).2.backlog.jobs = [] := by rw [hsame.1, hidle]
  exact ⟨h.of_closes hidle (closes_cancel n p) hjobs hsame.2, hjobs⟩

/-- While no job waits, the stop drains nothing. -/
theorem placed_shutDown (h : p.Placed) (hidle : p.backlog.jobs = []) :
    p.shutDown.Placed ∧ p.shutDown.backlog.jobs = [] := by
  have hsame : p.shutDown.backlog.jobs = [] ∧ p.shutDown.busy = p.busy := by
    unfold shutDown
    split
    · exact ⟨hidle, rfl⟩
    · exact ⟨rfl, rfl⟩
  exact ⟨h.of_closes hidle (closes_shutDown p) hsame.1 hsame.2, hsame.1⟩

/-- Leaving a purge to the workers adds no job. -/
theorem placed_schedulePurge (h : p.Placed) (hp : p.schedulePurge = .ok p') :
    p'.Placed ∧ p'.backlog.jobs = p.backlog.jobs := by
  unfold schedulePurge at hp
  split at hp <;> cases hp
  exact ⟨h.of_eq rfl rfl rfl, rfl⟩

/-- The worker of a ticket is freed, and the ticket has finished. -/
theorem placed_leave (h : p.Placed) {n : Nat} (hn : n ∈ p.busy) (outcome : Outcome) :
    (p.leave n outcome).Placed := by
  have hfinished {t' : Ticket} (ht' : (p.leave n outcome).tickets[n]? = some t') :
      t'.isFinished = true := by
    rw [show (p.leave n outcome).tickets[n]? = _ from getElem?_modify .., if_pos rfl] at ht'
    obtain ⟨t, -, rfl⟩ := Option.map_eq_some_iff.1 ht'
    exact Ticket.isFinished_finish ..
  have hother {m : Nat} (hm : n ≠ m) : (p.leave n outcome).tickets[m]? = p.tickets[m]? :=
    (getElem?_modify ..).trans (if_neg hm)
  refine ⟨?_, ?_, ?_⟩
  · exact (List.Sublist.append_right List.erase_sublist p.waiting).nodup h.nodup
  · intro m t' ht'
    by_cases hm : n = m
    · subst hm
      -- The ticket occupied a worker, so it did not wait.
      have hfree : n ∉ p.waiting := fun hw => (List.nodup_append.1 h.nodup).2.2 n hn n hw rfl
      refine ⟨fun hq => ?_, fun hw => absurd hw hfree⟩
      have hopen := Ticket.isFinished_of_queued hq
      rw [hfinished ht'] at hopen
      cases hopen
    · exact h.queued_iff m t' (hother hm ▸ ht')
  · intro m t' ht' hr
    have hm : n ≠ m := by
      rintro rfl
      have hopen := Ticket.isFinished_of_running hr
      rw [hfinished ht'] at hopen
      cases hopen
    exact (List.mem_erase_of_ne hm.symm).2 (h.running m t' (hother hm ▸ ht') hr)

/-- The end of work frees the worker and finishes its ticket. -/
theorem placed_endWork (h : p.Placed) {n : Nat} (hn : n ∈ p.busy) (how : WorkEnd) :
    (p.endWork n how).Placed := placed_leave h hn _

/-- The work that goes on ends one job after the other. -/
theorem placed_endAll (h : p.Placed) (how : Job → WorkEnd) :
    (p.endAll how).Placed :=
  endAll_induction how (fun _ _ how hq hn => placed_endWork hq hn how) h

/-- The end of the work leaves the backlog alone. -/
theorem backlog_endAll (how : Job → WorkEnd) (p : Pool) : (p.endAll how).backlog = p.backlog :=
  endAll_induction (P := fun q => q.backlog = p.backlog) how (fun _ _ _ hq _ => hq) rfl

/-- A job that is accepted waits under a new ticket. -/
theorem placed_submit (h : p.Placed) (hsound : p.Sound) {job : Job} {n : Nat}
    (hp : p.submit job = .ok (n, p')) : p'.Placed := by
  obtain ⟨-, hn, -, hbacklog, hbusy, -⟩ := submit_eq_ok hp
  have hwaiting : p'.waiting.Perm (n :: p.waiting) := by
    rw [waiting, hbacklog]
    exact (Backlog.place_perm _ _ p.backlog.jobs).map Slot.ticket
  -- No ticket has the number yet.
  have hnew : p.tickets[n]? = none := by
    rw [hn]
    exact List.getElem?_eq_none (Nat.le_refl _)
  have hidle : n ∉ p.busy ++ p.waiting := by
    intro hmem
    rcases List.mem_append.1 hmem with hmem | hmem
    · obtain ⟨t, ht, -⟩ := hsound.busy n hmem
      rw [hnew] at ht
      cases ht
    · obtain ⟨slot, hslot, rfl⟩ := List.mem_map.1 hmem
      obtain ⟨t, ht, -⟩ := hsound.slots slot hslot
      rw [hnew] at ht
      cases ht
  refine ⟨?_, ?_, ?_⟩
  · rw [hbusy, (hwaiting.append_left p.busy).nodup_iff, List.perm_middle.nodup_iff]
    exact List.nodup_cons.2 ⟨hidle, h.nodup⟩
  · intro m t ht
    rw [hwaiting.mem_iff, List.mem_cons]
    rcases ticket_cases_of_submit hp ht with hold | ⟨rfl, rfl⟩
    · have hm : m ≠ n := by
        rintro rfl
        rw [hnew] at hold
        cases hold
      rw [h.queued_iff m t hold]
      exact ⟨.inr, fun hw => hw.resolve_left hm⟩
    · exact ⟨fun _ => .inl rfl, fun _ => rfl⟩
  · intro m t ht hr
    rw [hbusy]
    rcases ticket_cases_of_submit hp ht with hold | ⟨-, rfl⟩
    · exact h.running m t hold hr
    · cases hr

end

/-! ### What workers do -/

section
variable {σ : Type} {hook : Hook σ} {p p' : Pool}

/-- To run a job loses no worker. -/
theorem constants_perform (slot : Slot) (p : Pool) :
    (p.perform slot).lost = p.lost ∧ (p.perform slot).settings = p.settings := by
  rw [perform_eq]
  split <;> exact ⟨rfl, rfl⟩

/-- The settings never change, and only a crash of the hook breaks a worker down. -/
theorem constants_action {a b : Pool × σ} (h : Action hook a b) :
    ((∀ job s, (hook job s).1 = true) → b.1.lost = a.1.lost) ∧ b.1.settings = a.1.settings := by
  cases h with
  | leaves hn hf => exact ⟨fun _ => rfl, rfl⟩
  | @takes p p' s s' item backlog hfree hpop hcarries =>
    cases hcarries with
    | purges | misses | skips => exact ⟨fun _ => rfl, rfl⟩
    | @performs slot =>
      obtain ⟨hlost, hsettings⟩ := constants_perform slot ((p.popped backlog).taken slot.ticket)
      exact ⟨fun _ => hlost, hsettings⟩
    -- Only a hook that crashes loses a worker.
    | breaks ht hq hcrash =>
      refine ⟨fun hhook => ?_, rfl⟩
      rw [hhook] at hcrash
      cases hcrash

/-- Without crashes of the hook the workers lose none of themselves. -/
theorem constants_act? (hhook : ∀ job s, (hook job s).1 = true) {s s' : σ}
    (h : p.act? hook s = some (p', s')) : p'.lost = p.lost ∧ p'.settings = p.settings :=
  (constants_action (action_of_act? h)).imp_left fun hlost => hlost hhook

/-- The tickets that wait after an item was taken from the backlog. -/
theorem waiting_of_pop? {backlog : Backlog Chore Slot} {item : Backlog.Item Chore Slot}
    (h : p.backlog.pop? = some (item, backlog)) :
    p.waiting = ticketsOf [item] ++ backlog.jobs.map (·.ticket) := by
  rw [waiting]
  unfold Backlog.pop? at h
  split at h <;> cases h
  · rfl
  next hjobs => rw [hjobs]; rfl

/-- A job that is taken up and performed has left the backlog for a worker. -/
theorem placed_perform (h : p.Placed) {backlog : Backlog Chore Slot} {slot : Slot}
    (hpop : p.backlog.pop? = some (.job slot, backlog)) {t : Ticket}
    (ht : p.tickets[slot.ticket]? = some t) (hq : t.progress = .queued) :
    (((p.popped backlog).taken slot.ticket).perform slot).Placed := by
  have hwaiting : p.waiting = slot.ticket :: backlog.jobs.map (·.ticket) := waiting_of_pop? hpop
  have hnodup := h.nodup
  rw [hwaiting] at hnodup
  have hmem (m : Nat) (hm : slot.ticket ≠ m) : ((p.popped backlog).taken slot.ticket).tickets[m]?
      = p.tickets[m]? := (getElem?_taken ..).trans (if_neg hm)
  have hbegun : ((p.popped backlog).taken slot.ticket).tickets[slot.ticket]? = some t.taken := by
    rw [getElem?_taken, if_pos rfl, show (p.popped backlog).tickets = p.tickets from rfl, ht,
      Option.map_some, Ticket.begin?_eq, if_pos hq]
  -- The ticket moves from the head of the backlog to the end of the busy ones. All others stay
  -- where they are.
  have hoccupied : (((p.popped backlog).taken slot.ticket).occupied slot.ticket).Placed := by
    refine ⟨?_, ?_, ?_⟩
    · show ((p.busy ++ [slot.ticket]) ++ backlog.jobs.map (·.ticket)).Nodup
      rwa [List.append_assoc]
    · intro m t' ht'
      show _ ↔ m ∈ backlog.jobs.map (·.ticket)
      by_cases hm : slot.ticket = m
      · subst hm
        have hleft := (List.nodup_cons.1 (List.nodup_append.1 hnodup).2.1).1
        cases ht'.symm.trans hbegun
        exact ⟨nofun, fun hw => absurd hw hleft⟩
      · rw [h.queued_iff m t' ((hmem m hm).symm.trans ht'), hwaiting, List.mem_cons]
        exact ⟨fun hw => hw.resolve_left (Ne.symm hm), .inr⟩
    · intro m t' ht' hr
      show m ∈ p.busy ++ [slot.ticket]
      by_cases hm : slot.ticket = m
      · exact List.mem_append_right _ (List.mem_singleton.2 hm.symm)
      · exact List.mem_append_left _ (h.running m t' ((hmem m hm).symm.trans ht') hr)
  rw [perform_eq]
  split
  · exact hoccupied
  · exact placed_endWork hoccupied (List.mem_append_right _ (List.mem_singleton.2 rfl)) _

/-- Each action of the workers keeps the open tickets in their places, while no hook crashes. -/
theorem placed_act? (hhook : ∀ job s, (hook job s).1 = true) (h : p.Placed) {s s' : σ}
    (hact : p.act? hook s = some (p', s')) : p'.Placed := by
  have hlost := (constants_act? hhook hact).1
  rcases act?_cases hact with ⟨n, hn, -, rfl, -⟩ | ⟨item, backlog, hpop, hitem⟩
  · exact placed_leave h hn _
  · have hwaiting := waiting_of_pop? hpop
    rcases hitem with ⟨rfl, rfl, -⟩ |
      ⟨slot, rfl, ⟨hskipped, ht, hb, hl, -⟩ | ⟨t, ht, hq, -, rfl | rfl⟩⟩
    · -- A purge drops the jobs whose tickets have finished, so it drops none that is queued.
      have hsub : (p.popped backlog).purge.waiting.Sublist p.waiting := by
        rw [hwaiting]
        exact List.filter_sublist.map _
      refine ⟨(hsub.append_left _).nodup h.nodup, fun n t ht => ?_, h.running⟩
      refine ⟨fun hq => ?_, fun hw => (h.queued_iff n t ht).2 (hsub.subset hw)⟩
      have hmem := (h.queued_iff n t ht).1 hq
      rw [hwaiting] at hmem
      obtain ⟨slot, hslot, rfl⟩ := List.mem_map.1 hmem
      refine List.mem_map.2 ⟨slot, List.mem_filter.2 ⟨hslot, ?_⟩, rfl⟩
      have hopen : (p.popped backlog).hasFinished slot.ticket = false :=
        (congrArg (Option.any Ticket.isFinished) ht).trans (Ticket.isFinished_of_queued hq)
      exact congrArg not hopen
    · -- Only a job whose ticket is not queued is skipped.
      have hwaiting' : p.waiting = slot.ticket :: p'.waiting := by
        rw [hwaiting, waiting, hl]
        rfl
      have hnodup := h.nodup
      rw [hwaiting', ← hb] at hnodup
      refine ⟨(List.sublist_cons_self _ _).append_left _ |>.nodup hnodup, fun n t hn => ?_,
        fun n t hn => hb ▸ h.running n t (ht ▸ hn)⟩
      rw [ht] at hn
      rw [h.queued_iff n t hn, hwaiting', List.mem_cons]
      refine ⟨fun hw => hw.resolve_left ?_, .inr⟩
      rintro rfl
      refine hskipped t hn ((h.queued_iff _ t hn).2 ?_)
      rw [hwaiting']
      exact List.mem_cons_self
    · exact placed_perform h hpop ht hq
    · -- The hook did not crash, so the last case cannot be.
      have hmore : p.lost + 1 = p.lost := hlost
      omega

/-- The workers keep the open tickets in their places, while no hook crashes. -/
theorem placed_settle (hhook : ∀ job s, (hook job s).1 = true) (h : p.Placed) (s : σ) :
    (p.settle hook s).1.Placed ∧ (p.settle hook s).1.lost = p.lost ∧
      (p.settle hook s).1.settings = p.settings := by
  refine settle_induction hook
    (P := fun q _ => q.Placed ∧ q.lost = p.lost ∧ q.settings = p.settings) ?_ ⟨h, rfl, rfl⟩
  rintro q s₁ q' s₂ ⟨hq, hlost, hsettings⟩ hact
  obtain ⟨hlost', hsettings'⟩ := constants_act? hhook hact
  exact ⟨placed_act? hhook hq hact, hlost'.trans hlost, hsettings'.trans hsettings⟩

end

/-- When the workers rest, none is lost, and the open tickets are no more than the workers, then
no job is left in the backlog: it would be taken by a free worker, and without one the busy
workers and the job are too many. -/
theorem Placed.jobs_eq_nil {p : Pool} (h : p.Placed) (hsound : p.Sound) (hrest : p.AtRest)
    (hlost : p.lost = 0)
    (hfew : ∀ numbers : List Nat, numbers.Nodup →
      (∀ n ∈ numbers, ∃ t, p.tickets[n]? = some t ∧ t.isFinished = false) →
      numbers.length ≤ p.settings.workers) :
    p.backlog.jobs = [] := by
  cases hjobs : p.backlog.jobs with
  | nil => rfl
  | cons slot rest =>
    have hwaiting : p.waiting = slot.ticket :: rest.map (·.ticket) := by
      rw [waiting, hjobs]
      rfl
    -- If a worker were free, it would take the job that waits. So all are busy, and with the first
    -- job that waits there are too many open tickets.
    have hfull : p.settings.workers ≤ p.busy.length := by
      by_contra hfree
      have hworker : p.hasFreeWorker = true := by
        simp only [hasFreeWorker, hlost, decide_eq_true_eq]
        omega
      have hempty := (Backlog.pop?_eq_none_iff _).1 (hrest.2 hworker)
      simp [Backlog.items, hjobs] at hempty
    have hnodup : (p.busy ++ [slot.ticket]).Nodup := by
      have hall := h.nodup
      rw [hwaiting] at hall
      exact (List.Sublist.append_left (List.singleton_sublist.2 List.mem_cons_self) _).nodup hall
    have hcount := hfew (p.busy ++ [slot.ticket]) hnodup ?_
    · rw [List.length_append, List.length_singleton] at hcount
      omega
    · intro n hn
      rcases List.mem_append.1 hn with hn | hn
      · -- At rest no worker holds a job whose ticket has finished.
        obtain ⟨t, ht, -⟩ := hsound.busy n hn
        have hopen := List.find?_eq_none.1 hrest.1 n hn
        rw [hasFinished, ht] at hopen
        exact ⟨t, ht, by simpa using hopen⟩
      · rw [List.mem_singleton.1 hn]
        obtain ⟨t, ht, -⟩ := hsound.slots slot (hjobs ▸ List.mem_cons_self)
        have hq := (h.queued_iff _ t ht).2 (hwaiting ▸ List.mem_cons_self)
        exact ⟨t, ht, Ticket.isFinished_of_queued hq⟩

/-- A ticket that has not finished runs on a worker, when no job is left in the backlog. -/
theorem Placed.mem_busy {p : Pool} (h : p.Placed) (hsound : p.Sound) (hidle : p.backlog.jobs = [])
    {n : Nat} {t : Ticket} (ht : p.tickets[n]? = some t) (hopen : t.isFinished = false) :
    t.progress = .running ∧ t.started = true ∧ n ∈ p.busy := by
  rcases Ticket.queued_or_running hopen with hq | hr
  · have hw := (h.queued_iff n t ht).1 hq
    rw [waiting, hidle] at hw
    cases hw
  · exact ⟨hr, (hsound.tickets n t ht).running hr, h.running n t ht hr⟩

end Pool

end JobScheduling
