import JobScheduling.Proofs.Registry.Ledger

/-!
# `JobScheduling.Proofs.Registry.CalledOff`: jobs that were called off

A job is called off when it is asked to stop while it waits. From then on its record can only come
to its end as canceled, without having run (`Record.CalledOff.moves`).

A registry leads to a later one (`Registry.LeadsTo`) when every record of the later one has a
number that was not given before, or is what one of the earlier records has become. Every request
extends this relation (`LeadsTo.serve`), at whatever time it is made. So a number that was called
off stays so, for as long as there is a record of it (`CalledOff.leadsTo`), and `calledOff_cancel`
is how it comes to be.
-/

set_option autoImplicit false

namespace JobScheduling

namespace Record

/-- What a record can become by moves, each at its own time. -/
abbrev Becomes : Record → Record → Prop := Relation.ReflTransGen fun r r' => ∃ now, r.Moves now r'

/-- A record keeps its number. -/
theorem Becomes.request {r r' : Record} (h : r.Becomes r') :
    r'.status.request = r.status.request := by
  induction h with
  | refl => rfl
  | tail _ hlast ih =>
    obtain ⟨now, m⟩ := hlast
    exact m.request.trans ih

/-- A record stays that of its job. -/
theorem Becomes.job {r r' : Record} (h : r.Becomes r') : r'.status.job = r.status.job := by
  induction h with
  | refl => rfl
  | tail _ hlast ih =>
    obtain ⟨now, m⟩ := hlast
    exact m.job.trans ih

/-- A job that waits has waited before. -/
theorem Becomes.waiting {r r' : Record} (h : r.Becomes r') (hr' : r'.stage = .waiting) :
    r.stage = .waiting := by
  induction h with
  | refl => exact hr'
  | tail _ hlast ih =>
    obtain ⟨now, m⟩ := hlast
    refine ih ?_
    by_contra hstage
    exact m.stage_ne_waiting hstage hr'

/-- The job was asked to stop, or has stopped since, and its record never said that it runs. -/
def CalledOff (r : Record) : Prop :=
  (r.stage = .canceling ∨ r.stage = .canceled) ∧ .running ∉ r.history

/-- A job that was called off stays so: its record can say that it stopped, and nothing else. -/
theorem CalledOff.moves {now : Nat} {r r' : Record} (h : r.CalledOff) (m : r.Moves now r') :
    r'.CalledOff := by
  induction m with
  | refl => exact h
  | tail _ m ih =>
    obtain ⟨hstage, hhistory⟩ := ih
    cases m with
    | check => exact ⟨hstage, hhistory⟩
    | stop => exact ⟨.inr rfl, by simpa [enter, stampEnd] using hhistory⟩
    | start hr | conclude _ hr => rcases hstage with hs | hs <;> rw [hr] at hs <;> cases hs
    | ask _ hr =>
      rcases hstage with hs | hs <;> rw [hs] at hr <;> rcases hr with hr | hr <;> cases hr

/-- What was called off stays so at all times. -/
theorem CalledOff.becomes {r r' : Record} (h : r.CalledOff) (hbecomes : r.Becomes r') :
    r'.CalledOff := by
  induction hbecomes with
  | refl => exact h
  | tail _ hlast ih =>
    obtain ⟨now, m⟩ := hlast
    exact ih.moves m

/-- A waiting job that is asked to stop is called off. -/
theorem calledOff_cancel (now : Nat) (reason : String) {r : Record} (h : r.Lawful)
    (hr : r.stage = .waiting) : (r.cancel now reason false).CalledOff := by
  have hcancel : r.cancel now reason false = (r.enter .canceling).withError reason := by
    simp [cancel, hr]
  rw [hcancel]
  refine ⟨.inl rfl, ?_⟩
  show Stage.running ∉ r.history ++ [.canceling]
  rw [h.history_of_waiting hr]
  decide

end Record

namespace Registry

/-- Each record of the later registry has a number that was not given before, or is what a record
of the earlier one has become. -/
structure LeadsTo (q q' : Registry) : Prop where
  requests : q.requests ≤ q'.requests
  records : ∀ id r', q'.records.find? id = some r' → q.requests < r'.status.request ∨
    ∃ r, q.records.find? id = some r ∧ r.Becomes r'

/-- A registry leads to itself. -/
theorem LeadsTo.refl (q : Registry) : q.LeadsTo q :=
  ⟨Nat.le_refl _, fun _ r' hr' => .inr ⟨r', hr', .refl⟩⟩

/-- No request takes back a number. -/
theorem requests_le_serve (scan : Scan) (now : Nat) (request : Request) (q : Registry) :
    q.requests ≤ (q.serve scan now request).2.requests := by
  obtain ⟨ended, done, hentries⟩ := entries_serve scan now request q
  obtain ⟨lost, -, -, -, hrequests, -⟩ := prepared_cases now request q
  have hgiven := hentries.requests
  omega

/-- A registry leads to what a further request makes of it. -/
theorem LeadsTo.serve {q q' : Registry} (h : q.LeadsTo q') (scan : Scan) (now : Nat)
    (request : Request) : q.LeadsTo (q'.serve scan now request).2 := by
  refine ⟨h.requests.trans (requests_le_serve scan now request q'), ?_⟩
  intro id r' hr'
  have hrequests := h.requests
  have hfate := serve_fate scan now request q' id
  rw [hr'] at hfate
  generalize hr : q'.records.find? id = before at hfate
  -- The record under an id has moved, or a submission was given the next number.
  cases hfate with
  | @moved r _ m =>
    rcases h.records id r hr with hnew | ⟨r₀, hr₀, hbecomes⟩
    · exact .inl (m.request.symm ▸ hnew)
    · exact .inr ⟨r₀, hr₀, hbecomes.tail ⟨now, m⟩⟩
  | added | replaced => exact .inl (Nat.lt_succ_of_le hrequests)

/-- The job of a number was called off: so says its record, as long as there is one. -/
structure CalledOff (n : Nat) (q : Registry) : Prop where
  given : n ≤ q.requests
  records : ∀ id r, q.records.find? id = some r → r.status.request = n → r.CalledOff

/-- A number that was called off stays so. -/
theorem CalledOff.leadsTo {n : Nat} {q q' : Registry} (h : q.CalledOff n) (hl : q.LeadsTo q') :
    q'.CalledOff n := by
  refine ⟨h.given.trans hl.requests, ?_⟩
  intro id r' hr' hnumber
  rcases hl.records id r' hr' with hnew | ⟨r, hr, hbecomes⟩
  · -- Later submissions have other numbers.
    have hgiven := h.given
    omega
  · exact (h.records id r hr (hbecomes.request.symm.trans hnumber)).becomes hbecomes

/-- The registry is that of a balanced ledger. -/
def Booked (q : Registry) : Prop := ∃ l : Ledger, l.Balanced ∧ l.registry = q

/-- A new registry has an empty ledger. -/
theorem booked_empty (retention : Option Nat) : Booked { retention } :=
  ⟨{ registry := { retention } }, Ledger.balanced_empty retention, rfl⟩

/-- The ledger goes on with every request. -/
theorem Booked.serve {q : Registry} (h : q.Booked) (scan : Scan) (now : Nat) (request : Request) :
    (q.serve scan now request).2.Booked := by
  obtain ⟨l, hbalanced, rfl⟩ := h
  exact ⟨l.serve scan now request, hbalanced.serve scan now request, rfl⟩

/-- So the registry has one after any requests. -/
theorem booked_run (scan : Scan) (requests : List (Nat × Request)) {q : Registry}
    (h : q.Booked) : (q.run scan requests).Booked := by
  induction requests generalizing q with
  | nil => exact h
  | cons first rest ih => exact ih (h.serve scan first.1 first.2)

section
variable {q : Registry} {id id' : String} {r r' : Record}

/-- The number of a record was given. -/
theorem Booked.request_le (h : q.Booked) (hr : q.records.find? id = some r) :
    r.status.request ≤ q.requests := by
  obtain ⟨l, hbalanced, rfl⟩ := h
  exact hbalanced.request_le hr

/-- A number tells the id of the job. -/
theorem Booked.id_eq (h : q.Booked) (hr : q.records.find? id = some r)
    (hr' : q.records.find? id' = some r') (hrequest : r.status.request = r'.status.request) :
    id = id' := by
  obtain ⟨l, hbalanced, rfl⟩ := h
  exact hbalanced.id_eq hr hr' hrequest

/-- The records lie under the ids of their jobs. -/
theorem Booked.keyed (h : q.Booked) : q.Keyed := by
  obtain ⟨l, hbalanced, rfl⟩ := h
  exact hbalanced.keyed

/-- A request to stop a job that waits calls off its number. No other record has this number. -/
theorem calledOff_cancel (now : Nat) (reason : String) (h : q.Booked)
    (hr : q.records.find? id = some r) (hwaiting : r.stage = .waiting) :
    (q.cancel now id reason false).2.CalledOff r.status.request := by
  constructor
  · rw [show (q.cancel now id reason false).2.requests = _ from requests_update ..]
    exact h.request_le hr
  · intro id' r' hr' hnumber
    -- The number is on one record only, which is that of the id.
    rw [find?_cancel] at hr'
    split at hr'
    next hid =>
      rw [hid, hr] at hr'
      cases hr'
      exact Record.calledOff_cancel now reason (h.keyed id r hr).2 hwaiting
    next hid => exact absurd (h.id_eq hr' hr hnumber) hid

end

end Registry

end JobScheduling
