import JobScheduling.Proofs.Pool.Tickets

/-!
# `JobScheduling.Proofs.Pool.Executions`: how often a pool begins a job

A pool counts an execution when its work begins (`Pool.begun`), and only a ticket that is
queued can begin. So the executions of the jobs with an id and the queued tickets of such jobs
together (`begunFor`, `queuedFor`) do not become more by what the workers do, nor by anything
that is done from outside but the submission of a job (`outlay_settle`, `Closes.queuedFor_le`,
`queuedFor_submit`).
-/

set_option autoImplicit false

namespace JobScheduling

/-- Whether the ticket waits for a worker, and is for the job of an id. -/
def Ticket.isQueuedFor (id : String) (t : Ticket) : Bool := t.progress == .queued && t.job.id == id

/-- A ticket that is queued for some id is queued. -/
theorem Ticket.progress_of_isQueuedFor {id : String} {t : Ticket} (h : t.isQueuedFor id = true) :
    t.progress = .queued :=
  beq_iff_eq.1 (Bool.and_eq_true_iff.1 h).1

/-- A ticket that is queued was queued before, unless it is new. -/
theorem Ticket.Closes.isQueuedFor {t t' : Ticket} (h : t.Closes t') {id : String}
    (hq : t'.isQueuedFor id = true) : t.isQueuedFor id = true := by
  rcases h with rfl | ⟨-, hfinished, -⟩
  · exact hq
  · rw [isFinished_of_queued (progress_of_isQueuedFor hq)] at hfinished
    cases hfinished

namespace Pool

/-- How many tickets for the job of an id wait for a worker. -/
def queuedFor (id : String) (p : Pool) : Nat := p.tickets.countP (·.isQueuedFor id)

/-- How many executions of the job of an id have begun. -/
def begunFor (id : String) (p : Pool) : Nat := p.begun.countP (p.isFor id)

/-- Of two lists that are related place by place, the second has no more elements that pass
a test than the first. -/
theorem countP_le_of_rel {α : Type} {R : α → α → Prop} {p : α → Bool}
    (hR : ∀ a b, R a b → p b = true → p a = true) {l l' : List α}
    (h : ∀ i : Nat, Option.Rel R l[i]? l'[i]?) : l'.countP p ≤ l.countP p := by
  -- By induction on both lists, which have the same length.
  induction l generalizing l' with
  | nil =>
    cases l' with
    | nil => exact Nat.le_refl _
    | cons b l' => exact nomatch h 0
  | cons a l ih =>
    cases l' with
    | nil => exact nomatch h 0
    | cons b l' =>
      have htail := ih fun i => h (i + 1)
      have hhead : R a b := by
        cases h 0 with
        | some hab => exact hab
      have hp := hR a b hhead
      rw [List.countP_cons, List.countP_cons]
      split <;> split <;> first | omega | (exact absurd (hp ‹_›) ‹_›)

/-- The number of elements that pass a test after one was changed. -/
theorem countP_modify {α : Type} (p : α → Bool) (f : α → α) {l : List α} {n : Nat} {a : α}
    (h : l[n]? = some a) :
    (l.modify n f).countP p + (if p a then 1 else 0)
      = l.countP p + if p (f a) then 1 else 0 := by
  -- By induction on the list, down to the element that changes.
  induction l generalizing n with
  | nil => cases h
  | cons b l ih =>
    cases n with
    | zero =>
      cases h
      simp only [List.modify_zero_cons, List.countP_cons]
      omega
    | succ n =>
      have htail := ih h
      simp only [List.modify_succ_cons, List.countP_cons]
      omega

section
variable {p p' p'' : Pool}

/-- Whether a ticket is for an id does not change. -/
theorem Follows.isFor (h : p.Follows p') (id : String) : p'.isFor id = p.isFor id := by
  funext n
  have hn := h n
  simp only [Pool.isFor]
  generalize p.tickets[n]? = a at hn ⊢
  generalize p'.tickets[n]? = b at hn ⊢
  cases hn with
  | none => rfl
  | some hr => simp [hr.job]

/-- Tickets that were closed are not queued any more. -/
theorem Closes.queuedFor_le (h : p.Closes p') (id : String) : p'.queuedFor id ≤ p.queuedFor id :=
  countP_le_of_rel (fun _ _ hc => hc.isQueuedFor) h

/-- What happens in a pool that no job is submitted to: executions begin, each at the expense
of a queued ticket. -/
structure Spends (p p' : Pool) : Prop where
  follows : p.Follows p'
  begun : p.begun <+: p'.begun
  outlay : ∀ id, p'.begunFor id + p'.queuedFor id ≤ p.begunFor id + p.queuedFor id

/-- A pool that stays as it is begins nothing. -/
theorem Spends.refl (p : Pool) : p.Spends p :=
  ⟨Related.of_eq .refl rfl, List.prefix_rfl, fun _ => Nat.le_refl _⟩

/-- What is spent in two parts is spent. -/
theorem Spends.trans (h : p.Spends p') (h' : p'.Spends p'') : p.Spends p'' :=
  ⟨h.follows.trans h'.follows, h.begun.trans h'.begun,
    fun id => Nat.le_trans (h'.outlay id) (h.outlay id)⟩

/-- Nothing begins, and tickets are closed at most. -/
theorem Spends.of_closes (h : p.Closes p') (hbegun : p'.begun = p.begun) : p.Spends p' := by
  refine ⟨h.follows, hbegun ▸ List.prefix_rfl, fun id => ?_⟩
  have hq := h.queuedFor_le id
  have hb : p'.begunFor id = p.begunFor id := by rw [begunFor, begunFor, hbegun, h.follows.isFor]
  omega

/-- What an execution that begins is worth, its ticket was worth while it was queued. -/
theorem queuedFor_taken {n : Nat} {t : Ticket} (ht : p.tickets[n]? = some t)
    (hq : t.progress = .queued) (id : String) :
    (p.taken n).queuedFor id + (if p.isFor id n then 1 else 0) = p.queuedFor id := by
  have hcount := countP_modify (·.isQueuedFor id) (fun t => t.begin?.2) ht
  have hbefore : t.isQueuedFor id = p.isFor id n := by
    rw [Ticket.isQueuedFor, hq, Pool.isFor, ht]
    rfl
  have hafter : t.begin?.2.isQueuedFor id = false := by
    rw [Ticket.begin?_eq, if_pos hq]
    rfl
  rw [hbefore, hafter] at hcount
  simpa [queuedFor, taken, modifyTicket] using hcount

end

section
variable {σ : Type} {hook : Hook σ}

/-- A job that is taken up is not queued any more. -/
theorem spends_taken {n : Nat} {p : Pool} {t : Ticket} (ht : p.tickets[n]? = some t)
    (hq : t.progress = .queued) : p.Spends (p.taken n) := by
  refine ⟨follows_taken n p, List.prefix_rfl, fun id => ?_⟩
  have htaken := queuedFor_taken ht hq id
  have hb : (p.taken n).begunFor id = p.begunFor id := by
    rw [begunFor, (follows_taken n p).isFor]
    rfl
  omega

/-- Work that begins is counted. -/
theorem begun_perform (slot : Slot) (p : Pool) :
    (p.perform slot).begun = p.begun ++ [slot.ticket] := by
  rw [perform_eq]
  split <;> rfl

/-- A job that is taken up and performed has begun once more. -/
theorem spends_perform {slot : Slot} {p : Pool} {t : Ticket}
    (ht : p.tickets[slot.ticket]? = some t) (hq : t.progress = .queued) :
    p.Spends ((p.taken slot.ticket).perform slot) := by
  have hcloses := closes_perform slot (p.taken slot.ticket)
  have hfollows := (follows_taken slot.ticket p).trans hcloses.follows
  have hbegun : ((p.taken slot.ticket).perform slot).begun = p.begun ++ [slot.ticket] :=
    begun_perform slot _
  refine ⟨hfollows, hbegun ▸ List.prefix_append _ _, fun id => ?_⟩
  -- One queued ticket less, and one execution more.
  have htaken := queuedFor_taken ht hq id
  have hq' := hcloses.queuedFor_le id
  have hb : ((p.taken slot.ticket).perform slot).begunFor id
      = p.begunFor id + if p.isFor id slot.ticket then 1 else 0 := by
    rw [begunFor, hbegun, hfollows.isFor, List.countP_append, List.countP_singleton]
    rfl
  omega

/-- An action of the workers. -/
theorem spends_act? {p p' : Pool} {s s' : σ} (h : p.act? hook s = some (p', s')) :
    p.Spends p' := by
  rcases act?_cases h with ⟨n, -, -, rfl, -⟩ | ⟨item, backlog, -, hitem⟩
  · exact .of_closes (closes_leave n .cancelled p) rfl
  · rcases hitem with ⟨-, rfl, -⟩ | ⟨slot, -, ⟨-, ht, -, -, -, hb, -⟩ | ⟨t, ht, hq, -, rfl | rfl⟩⟩
    · exact .of_closes (.of_eq rfl) rfl
    · exact .of_closes (.of_eq ht) hb
    · have hpopped : p.Spends (p.popped backlog) := .of_closes (.of_eq rfl) rfl
      exact hpopped.trans (spends_perform ht hq)
    · -- The worker is lost with the job, so a ticket is gone and nothing has begun.
      have hpopped : p.Spends (p.popped backlog) := .of_closes (.of_eq rfl) rfl
      exact (hpopped.trans (spends_taken ht hq)).trans (.of_closes (.of_eq rfl) rfl)

/-- An action of the workers begins nothing, or the work of one ticket that is open. -/
theorem begun_act? {p p' : Pool} {s s' : σ} (h : p.act? hook s = some (p', s')) :
    p'.begun = p.begun ∨ ∃ n t, p'.begun = p.begun ++ [n] ∧ p.tickets[n]? = some t ∧
      t.isFinished = false := by
  rcases act?_cases h with ⟨n, -, -, rfl, -⟩ | ⟨item, backlog, -, hitem⟩
  · exact .inl rfl
  · rcases hitem with ⟨-, rfl, -⟩ | ⟨slot, -, ⟨-, -, -, -, -, hb, -⟩ | ⟨t, ht, hq, -, rfl | rfl⟩⟩
    · exact .inl rfl
    · exact .inl hb
    · exact .inr ⟨slot.ticket, t, begun_perform slot _, ht, Ticket.isFinished_of_queued hq⟩
    · exact .inl rfl

/-- The workers begin the work of tickets that were open when they started to act. -/
theorem begun_settle (hook : Hook σ) (p : Pool) (s : σ) :
    ∃ new, (p.settle hook s).1.begun = p.begun ++ new ∧
      ∀ n ∈ new, ∃ t, p.tickets[n]? = some t ∧ t.isFinished = false := by
  refine (settle_induction hook (P := fun p' _ => p.Follows p' ∧
    ∃ new, p'.begun = p.begun ++ new ∧
      ∀ n ∈ new, ∃ t, p.tickets[n]? = some t ∧ t.isFinished = false) ?_
    (s := s) ⟨Related.of_eq .refl rfl, [], (List.append_nil _).symm, nofun⟩).2
  intro p₁ s₁ p₂ s₂ ⟨hfollows, new, hnew, hopen⟩ hact
  refine ⟨hfollows.trans (follows_act? hact), ?_⟩
  rcases begun_act? hact with hsame | ⟨n, t₁, hbegun, ht₁, hopen₁⟩
  · exact ⟨new, hsame.trans hnew, hopen⟩
  · -- What is open now was open at the start.
    obtain ⟨t, ht, hf⟩ := hfollows.ticket_before ht₁
    refine ⟨new ++ [n], by rw [hbegun, hnew, List.append_assoc], ?_⟩
    intro m hm
    rcases List.mem_append.1 hm with hm | hm
    · exact hopen m hm
    · rw [List.mem_singleton.1 hm]
      exact ⟨t, ht, hf.isFinished_eq_false hopen₁⟩

/-- The workers of a pool only spend. -/
theorem spends_settle (hook : Hook σ) (p : Pool) (s : σ) : p.Spends (p.settle hook s).1 :=
  settle_induction hook (P := fun p' _ => p.Spends p')
    (fun _ _ _ _ h hact => h.trans (spends_act? hact)) (.refl p)

end

/-- A submission gives out one ticket, which is queued. -/
theorem queuedFor_submit {p p' : Pool} {job : Job} {n : Nat} (h : p.submit job = .ok (n, p'))
    (id : String) :
    p'.queuedFor id = p.queuedFor id + if job.id == id then 1 else 0 := by
  unfold submit at h
  split at h
  · cases h
  · cases h
    simp only [queuedFor, List.countP_append, List.countP_singleton, Ticket.isQueuedFor,
      beq_self_eq_true, Bool.true_and]

/-- A submission begins nothing. -/
theorem begun_submit {p p' : Pool} {job : Job} {n : Nat} (h : p.submit job = .ok (n, p')) :
    p'.begun = p.begun := by
  unfold submit at h
  split at h <;> cases h
  rfl

/-- The end of the work begins nothing. -/
theorem begun_endAll (how : Job → WorkEnd) (p : Pool) : (p.endAll how).begun = p.begun :=
  endAll_induction (P := fun q => q.begun = p.begun) how (fun _ _ _ hq _ => hq) rfl

end Pool

end JobScheduling
