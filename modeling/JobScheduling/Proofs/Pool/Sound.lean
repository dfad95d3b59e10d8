import JobScheduling.Proofs.Pool.Tickets

/-!
# `JobScheduling.Proofs.Pool.Sound`: what every pool in use has

`Pool.Sound` is the invariant of pools: the jobs of the backlog and the busy workers have
tickets, each ticket is in step with what happened to it, and only the stop of the pool
interrupts one. A new pool is sound, and `sound_f` says that the operation `f` keeps a
pool sound. `sound_act?` says it of the workers.

Most operations close tickets and add nothing, so their lemmas are instances of
`Sound.of_closes`. The two that do more are `sound_submit` and `sound_taken`.
-/

set_option autoImplicit false

namespace JobScheduling

/-- Whether an outcome is what the work of a job came to. -/
def Outcome.isOfWork : Outcome → Bool
  | .completed _ | .failed _ => true
  | .cancelled | .interrupted => false

namespace Ticket

/-- The mark `started` is in step with the progress of a ticket. -/
structure Sound (t : Ticket) : Prop where
  queued : t.progress = .queued → t.started = false
  running : t.progress = .running → t.started = true
  ofWork : ∀ outcome, t.outcome? = some outcome → outcome.isOfWork = true → t.started = true

/-- A ticket that was just given out is sound. -/
theorem sound_new (job : Job) : Sound { job } :=
  ⟨fun _ => rfl, nofun, nofun⟩

/-- Only the outcome of work needs work that has begun. -/
theorem Sound.finish {t : Ticket} (h : t.Sound) {outcome : Outcome}
    (hstarted : outcome.isOfWork = true → t.started = true) : (t.finish outcome).2.Sound := by
  unfold Ticket.finish
  split
  · exact h
  · refine ⟨nofun, nofun, fun o ho hwork => ?_⟩
    cases ho
    exact hstarted hwork

/-- A ticket is cancelled without work. -/
theorem Sound.cancel {t : Ticket} (h : t.Sound) : t.cancel.2.Sound := by
  unfold Ticket.cancel
  split
  · exact h
  · refine ⟨nofun, nofun, fun o ho hwork => ?_⟩
    cases ho
    cases hwork

/-- A ticket that was taken runs, and it has started. -/
theorem sound_taken (t : Ticket) : t.taken.Sound :=
  ⟨nofun, fun _ => rfl, nofun⟩

end Ticket

namespace Pool

/-- The jobs of the backlog and the busy workers have tickets, and every ticket is in step
with what happened to it. -/
structure Sound (p : Pool) : Prop where
  slots : ∀ slot ∈ p.backlog.jobs, ∃ t, p.tickets[slot.ticket]? = some t ∧ t.job = slot.job
  busy : ∀ n ∈ p.busy, ∃ t, p.tickets[n]? = some t ∧ t.started = true
  tickets : ∀ (n : Nat) t, p.tickets[n]? = some t → t.Sound
  /-- Only the stop of the pool interrupts a ticket. -/
  interrupted : ∀ (n : Nat) t, p.tickets[n]? = some t → t.outcome? = some .interrupted →
    p.isShutDown = true

/-- A pool that has not been used is sound. -/
theorem sound_of_new {settings : PoolSettings} {work : Job → Work} {priority : Priority}
    {p : Pool} (h : Pool.new settings work priority = .ok p) : p.Sound := by
  unfold Pool.new at h
  split at h
  · cases h
  · cases h
    exact ⟨nofun, nofun, nofun, nofun⟩

/-- A change that closes tickets, and adds nothing to the backlog and the busy workers. -/
theorem Sound.of_closes {p p' : Pool} (h : p.Sound) (hcloses : p.Closes p')
    (hslots : ∀ slot ∈ p'.backlog.jobs, slot ∈ p.backlog.jobs)
    (hbusy : ∀ n ∈ p'.busy, n ∈ p.busy)
    (hdown : p.isShutDown = true → p'.isShutDown = true)
    (htickets : ∀ (n : Nat) t t', p.tickets[n]? = some t → p'.tickets[n]? = some t' →
      t'.Sound ∧ (t'.outcome? = some .interrupted →
        t.outcome? = some .interrupted ∨ p'.isShutDown = true)) : p'.Sound where
  -- Tickets keep their jobs and stay started, whatever closes them.
  slots slot hslot := by
    obtain ⟨t, ht, hjob⟩ := h.slots slot (hslots slot hslot)
    obtain ⟨t', ht', hc⟩ := hcloses.ticket ht
    exact ⟨t', ht', hc.job.trans hjob⟩
  busy n hn := by
    obtain ⟨t, ht, hstarted⟩ := h.busy n (hbusy n hn)
    obtain ⟨t', ht', hc⟩ := hcloses.ticket ht
    exact ⟨t', ht', hc.started.trans hstarted⟩
  tickets n t' ht' := by
    obtain ⟨t, ht, -⟩ := hcloses.ticket_before ht'
    exact (htickets n t t' ht ht').1
  interrupted n t' ht' hout := by
    obtain ⟨t, ht, -⟩ := hcloses.ticket_before ht'
    rcases (htickets n t t' ht ht').2 hout with hold | hnew
    · exact hdown (h.interrupted n t ht hold)
    · exact hnew

/-- A change that leaves the tickets alone, and adds nothing to the backlog and the busy
workers. -/
theorem Sound.of_eq {p p' : Pool} (h : p.Sound) (htickets : p'.tickets = p.tickets)
    (hslots : ∀ slot ∈ p'.backlog.jobs, slot ∈ p.backlog.jobs)
    (hbusy : ∀ n ∈ p'.busy, n ∈ p.busy) (hdown : p'.isShutDown = p.isShutDown) : p'.Sound := by
  refine h.of_closes (.of_eq htickets) hslots hbusy (hdown ▸ fun h => h) ?_
  intro n t t' ht ht'
  rw [htickets, ht] at ht'
  cases ht'
  exact ⟨h.tickets n t ht, .inl⟩

/-- A change of one ticket that leaves it the same or finishes it. -/
theorem Sound.of_modify {p p' : Pool} (h : p.Sound) {n : Nat} {f : Ticket → Ticket}
    (htickets : p'.tickets = p.tickets.modify n f) (hf : ∀ t : Ticket, t.Closes (f t))
    (hslots : ∀ slot ∈ p'.backlog.jobs, slot ∈ p.backlog.jobs)
    (hbusy : ∀ n ∈ p'.busy, n ∈ p.busy) (hdown : p'.isShutDown = p.isShutDown)
    (hsound : ∀ t, p.tickets[n]? = some t → (f t).Sound)
    (hout : ∀ t : Ticket, (f t).outcome? = some .interrupted → t.outcome? = some .interrupted) :
    p'.Sound := by
  refine h.of_closes (.of_modify htickets hf) hslots hbusy (hdown ▸ fun h => h) ?_
  intro m t t' ht ht'
  rw [htickets, getElem?_modify, ht] at ht'
  split at ht'
  next hm =>
    subst hm
    cases ht'
    exact ⟨hsound t ht, fun h => .inl (hout t h)⟩
  next =>
    cases ht'
    exact ⟨h.tickets m t ht, .inl⟩

/-- A cancellation stops no pool. -/
@[simp]
theorem isShutDown_cancel (n : Nat) (p : Pool) : (p.cancel n).2.isShutDown = p.isShutDown := by
  simp only [cancel]
  split <;> rfl

/-- A cancellation closes one ticket at most. -/
theorem sound_cancel {p : Pool} (h : p.Sound) (n : Nat) : (p.cancel n).2.Sound := by
  simp only [cancel]
  split
  · exact h
  · refine h.of_modify rfl Ticket.closes_cancel (fun _ h => h) (fun _ h => h) rfl ?_ ?_
    · exact fun t ht => (h.tickets n t ht).cancel
    · -- What is finished here is cancelled, not interrupted.
      intro t hout
      rw [Ticket.outcome?_cancel] at hout
      cases ho : t.outcome? with
      | none => rw [ho] at hout; cases hout
      | some o => rwa [ho] at hout

/-- A chore has no ticket. -/
theorem sound_schedulePurge {p p' : Pool} (h : p.Sound) (hp : p.schedulePurge = .ok p') :
    p'.Sound := by
  unfold schedulePurge at hp
  split at hp
  · cases hp
  · cases hp
    exact h.of_eq rfl (fun _ h => h) (fun _ h => h) rfl

/-- A purge only shortens the backlog. -/
theorem sound_purge {p : Pool} (h : p.Sound) : p.purge.Sound :=
  h.of_eq rfl (fun _ h => List.mem_of_mem_filter h) (fun _ h => h) rfl

/-- A worker leaves with an outcome that is not an interruption. Work must have begun to
have an outcome of its own. -/
theorem sound_leave {p : Pool} (h : p.Sound) {n : Nat} {outcome : Outcome}
    (hne : outcome ≠ .interrupted)
    (hstarted : outcome.isOfWork = true → ∀ t, p.tickets[n]? = some t → t.started = true) :
    (p.leave n outcome).Sound := by
  refine h.of_modify rfl (Ticket.closes_finish outcome) (fun _ h => h)
    (fun _ h => List.mem_of_mem_erase h) rfl ?_ ?_
  · exact fun t ht => (h.tickets n t ht).finish fun hw => hstarted hw t ht
  · intro t hout
    rw [Ticket.outcome?_finish] at hout
    cases ho : t.outcome? with
    | none => rw [ho] at hout; cases hout; exact absurd rfl hne
    | some o => rwa [ho] at hout

/-- Work that began may end in any way. -/
theorem sound_endWork {p : Pool} (h : p.Sound) {n : Nat} (how : WorkEnd)
    (hstarted : ∀ t, p.tickets[n]? = some t → t.started = true) : (p.endWork n how).Sound := by
  refine sound_leave h ?_ fun _ => hstarted
  split
  · exact nofun
  · cases how <;> exact nofun

/-- Each worker has a ticket that started, also while the others are ended. -/
theorem sound_endAll {p : Pool} (h : p.Sound) (how : Job → WorkEnd) : (p.endAll how).Sound := by
  refine endAll_induction how (fun q n how hq hn => sound_endWork hq how ?_) h
  intro t ht
  obtain ⟨t', ht', hstarted⟩ := hq.busy n hn
  cases ht.symm.trans ht'
  exact hstarted

/-- A pool is stopped by its stop. -/
theorem isShutDown_shutDown (p : Pool) : p.shutDown.isShutDown = true := by
  simp only [shutDown]
  split
  next h => exact h
  next => rfl

/-- The end of the work stops no pool. -/
theorem isShutDown_endAll (how : Job → WorkEnd) (p : Pool) :
    (p.endAll how).isShutDown = p.isShutDown :=
  endAll_induction (P := fun q => q.isShutDown = p.isShutDown) how (fun _ _ _ hq _ => hq) rfl

/-- The stop drains the backlog and interrupts what was in it. -/
theorem sound_shutDown {p : Pool} (h : p.Sound) : p.shutDown.Sound := by
  refine h.of_closes (closes_shutDown p) ?_ ?_ (fun _ => isShutDown_shutDown p) ?_
  · unfold shutDown
    split
    · exact fun _ h => h
    · exact fun _ h => nomatch h
  · unfold shutDown
    split <;> exact fun _ h => h
  · intro n t t' ht ht'
    -- A ticket is interrupted or as it was, and the pool is stopped in any case.
    refine ⟨?_, fun _ => .inr (isShutDown_shutDown p)⟩
    rcases ticket_shutDown ht with h' | h' <;> rw [ht'] at h' <;> cases h'
    · exact h.tickets n t ht
    · exact (h.tickets n t ht).finish nofun

/-- What is left of a pool, and what is new, when a job is accepted. -/
theorem submit_eq_ok {p p' : Pool} {job : Job} {n : Nat} (h : p.submit job = .ok (n, p')) :
    p.isShutDown = false ∧ n = p.tickets.length ∧ p'.tickets = p.tickets ++ [({ job } : Ticket)] ∧
      p'.backlog = p.backlog.pushJob ⟨n, job⟩ ∧ p'.busy = p.busy ∧ p'.isShutDown = false := by
  unfold submit at h
  split at h
  · cases h
  next hdown =>
    cases h
    exact ⟨by simpa using hdown, rfl, rfl, rfl, rfl, by simpa using hdown⟩

section
variable {p p' : Pool} {job : Job} {n : Nat} (h : p.submit job = .ok (n, p'))

include h

/-- The ticket of an accepted job. -/
theorem newTicket_of_submit : p'.tickets[n]? = some { job } := by
  obtain ⟨-, rfl, htickets, -⟩ := submit_eq_ok h
  simp [htickets]

/-- The other tickets keep their numbers. -/
theorem ticket_of_submit {m : Nat} {t : Ticket} (ht : p.tickets[m]? = some t) :
    p'.tickets[m]? = some t := by
  obtain ⟨-, -, htickets, -⟩ := submit_eq_ok h
  rw [htickets, List.getElem?_append_left (List.getElem?_eq_some_iff.1 ht).1]
  exact ht

/-- A ticket of a pool that has accepted a job: one from before, or that of the job. -/
theorem ticket_cases_of_submit {m : Nat} {t : Ticket} (ht : p'.tickets[m]? = some t) :
    p.tickets[m]? = some t ∨ m = n ∧ t = { job } := by
  obtain ⟨-, rfl, htickets, -⟩ := submit_eq_ok h
  -- It was there before, or it is the last one.
  by_cases hm : m < p.tickets.length
  · rw [htickets, List.getElem?_append_left hm] at ht
    exact .inl ht
  · have hlt := (List.getElem?_eq_some_iff.1 ht).1
    rw [htickets, List.length_append, List.length_singleton] at hlt
    have hlast : m = p.tickets.length := by omega
    subst hlast
    rw [newTicket_of_submit h] at ht
    exact .inr ⟨rfl, (Option.some.inj ht).symm⟩

end

/-- A pool accepts every job until it is stopped. -/
theorem exists_submit_eq_ok {p : Pool} (h : p.isShutDown = false) (job : Job) :
    ∃ p', p.submit job = .ok (p.tickets.length, p') := by
  simp only [submit]
  rw [h]
  exact ⟨_, rfl⟩

/-- A submission is one ticket more, at the end, and one job more, somewhere in the backlog. -/
theorem sound_submit {p p' : Pool} (h : p.Sound) {job : Job} {n : Nat}
    (hp : p.submit job = .ok (n, p')) : p'.Sound := by
  obtain ⟨hopen, -, -, hbacklog, hbusy, -⟩ := submit_eq_ok hp
  refine ⟨?_, ?_, ?_, ?_⟩
  · -- The new job has the new ticket, and the others keep theirs.
    intro slot hslot
    rw [hbacklog] at hslot
    rcases List.mem_cons.1 ((Backlog.place_perm _ _ _).mem_iff.1 hslot) with rfl | hslot
    · exact ⟨{ job }, newTicket_of_submit hp, rfl⟩
    · obtain ⟨t, ht, hjob⟩ := h.slots slot hslot
      exact ⟨t, ticket_of_submit hp ht, hjob⟩
  · intro m hm
    rw [hbusy] at hm
    obtain ⟨t, ht, hstarted⟩ := h.busy m hm
    exact ⟨t, ticket_of_submit hp ht, hstarted⟩
  · intro m t ht
    rcases ticket_cases_of_submit hp ht with ht | ⟨-, rfl⟩
    · exact h.tickets m t ht
    · exact Ticket.sound_new job
  · intro m t ht hout
    -- An open pool has no interrupted ticket.
    rcases ticket_cases_of_submit hp ht with ht | ⟨-, rfl⟩
    · rw [h.interrupted m t ht hout] at hopen
      cases hopen
    · cases hout

/-! ### Sound pools under their workers -/

/-- Taking up a job leaves every other ticket as it is. -/
theorem getElem?_taken (n : Nat) (p : Pool) (m : Nat) :
    (p.taken n).tickets[m]? = if n = m then p.tickets[m]?.map fun t => t.begin?.2
      else p.tickets[m]? := getElem?_modify p.tickets n _ m

/-- A queued ticket is taken, and it has started from then on. -/
theorem sound_taken {p : Pool} (h : p.Sound) {n : Nat} {t : Ticket} (ht : p.tickets[n]? = some t)
    (hq : t.progress = .queued) :
    (p.taken n).Sound ∧ (p.taken n).tickets[n]? = some t.taken := by
  have hbegin : t.begin?.2 = t.taken := by rw [t.begin?_eq, if_pos hq]
  have hn : (p.taken n).tickets[n]? = some t.taken := by
    rw [getElem?_taken, if_pos rfl, ht, Option.map_some, hbegin]
  have hm {m : Nat} (hne : n ≠ m) : (p.taken n).tickets[m]? = p.tickets[m]? := by
    rw [getElem?_taken, if_neg hne]
  -- In each field the ticket that is taken up is one case, and the others stay as they are.
  refine ⟨⟨?_, ?_, ?_, ?_⟩, hn⟩
  · intro slot hslot
    obtain ⟨t', ht', hjob⟩ := h.slots slot hslot
    by_cases hne : n = slot.ticket
    · subst hne
      rw [ht] at ht'
      cases ht'
      exact ⟨_, hn, hjob⟩
    · exact ⟨t', (hm hne).trans ht', hjob⟩
  · intro m hmem
    obtain ⟨t', ht', hstarted⟩ := h.busy m hmem
    by_cases hne : n = m
    · subst hne
      exact ⟨_, hn, rfl⟩
    · exact ⟨t', (hm hne).trans ht', hstarted⟩
  · intro m t' ht'
    by_cases hne : n = m
    · subst hne
      rw [hn] at ht'
      cases ht'
      exact t.sound_taken
    · exact h.tickets m t' ((hm hne).symm.trans ht')
  · intro m t' ht' hout
    by_cases hne : n = m
    · subst hne
      rw [hn] at ht'
      cases ht'
      cases hout
    · exact h.interrupted m t' ((hm hne).symm.trans ht') hout

/-- The work of a job that was taken up begins, and perhaps ends. -/
theorem sound_perform {p : Pool} (h : p.Sound) {slot : Slot} {t : Ticket}
    (ht : p.tickets[slot.ticket]? = some t) (hstarted : t.started = true) :
    (p.perform slot).Sound := by
  have hbusy : (p.occupied slot.ticket).Sound := by
    refine ⟨h.slots, ?_, h.tickets, h.interrupted⟩
    intro n hn
    rcases List.mem_append.1 hn with hn | hn
    · exact h.busy n hn
    · rw [List.mem_singleton.1 hn]
      exact ⟨t, ht, hstarted⟩
  rw [perform_eq]
  split
  · exact hbusy
  next how _ =>
    -- The work ends at once, and it has begun.
    refine sound_endWork hbusy how ?_
    intro t' ht'
    rw [show (p.occupied slot.ticket).tickets = p.tickets from rfl, ht] at ht'
    cases ht'
    exact hstarted

/-- To run a job stops no pool. -/
theorem isShutDown_perform (slot : Slot) (p : Pool) :
    (p.perform slot).isShutDown = p.isShutDown := by
  rw [perform_eq]
  split <;> rfl

/-- A job that was taken from a backlog was there before. -/
theorem mem_jobs_of_pop?_job {b rest : Backlog Chore Slot} {slot : Slot}
    (h : b.pop? = some (.job slot, rest)) : slot ∈ b.jobs := by
  have hmem : Backlog.Item.job slot ∈ b.items := by
    rw [Backlog.items_of_pop? h]
    exact List.mem_cons_self
  simpa [Backlog.items] using hmem

/-- The items that are left in a backlog were there before. -/
theorem mem_jobs_of_pop? {b rest : Backlog Chore Slot} {item : Backlog.Item Chore Slot}
    (h : b.pop? = some (item, rest)) {slot : Slot} (hslot : slot ∈ rest.jobs) :
    slot ∈ b.jobs := by
  have hmem : Backlog.Item.job slot ∈ b.items := by
    rw [Backlog.items_of_pop? h]
    exact List.mem_cons_of_mem _ (List.mem_append_right _ (List.mem_map_of_mem hslot))
  simpa [Backlog.items] using hmem

/-- Each action of the workers keeps a pool sound. -/
theorem sound_act? {σ : Type} {hook : Hook σ} {p p' : Pool} {s s' : σ} (h : p.Sound)
    (hact : p.act? hook s = some (p', s')) : p'.Sound := by
  rcases act?_cases hact with ⟨n, -, -, rfl, -⟩ | ⟨item, backlog, hpop, hitem⟩
  · exact sound_leave h nofun nofun
  · have hpopped : (p.popped backlog).Sound :=
      h.of_eq rfl (fun _ hslot => mem_jobs_of_pop? hpop hslot) (fun _ h => h) rfl
    rcases hitem with ⟨-, rfl, -⟩ | ⟨slot, -, ⟨-, ht, hb, hl, hd, -⟩ | ⟨t, ht, hq, -, hp'⟩⟩
    · exact sound_purge hpopped
    · refine h.of_eq ht ?_ (fun _ hn => hb ▸ hn) hd
      intro _ hslot
      rw [hl] at hslot
      exact mem_jobs_of_pop? hpop hslot
    · obtain ⟨hsound, htaken⟩ := sound_taken hpopped ht hq
      -- The work begins, or the worker is lost before that.
      rcases hp' with rfl | rfl
      · exact sound_perform hsound htaken rfl
      · exact hsound.of_eq rfl (fun _ h => h) (fun _ h => h) rfl

/-- The workers keep a pool sound and do not stop it. -/
theorem sound_settle {σ : Type} (hook : Hook σ) {p : Pool} (h : p.Sound) (s : σ) :
    (p.settle hook s).1.Sound ∧ (p.settle hook s).1.isShutDown = p.isShutDown := by
  refine settle_induction hook (P := fun p' _ => p'.Sound ∧ p'.isShutDown = p.isShutDown)
    (fun p₁ s₁ p₂ s₂ hp hact => ⟨sound_act? hp.1 hact, Eq.trans ?_ hp.2⟩) ⟨h, rfl⟩
  rcases act?_cases hact with ⟨-, -, -, rfl, -⟩ | ⟨item, backlog, -, hitem⟩
  · rfl
  · rcases hitem with ⟨-, rfl, -⟩ | ⟨slot, -, ⟨-, -, -, -, hdown, -⟩ | ⟨t, -, -, -, rfl | rfl⟩⟩
    · rfl
    · exact hdown
    · exact isShutDown_perform ..
    · rfl

end Pool

end JobScheduling
