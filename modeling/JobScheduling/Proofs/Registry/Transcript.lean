import JobScheduling.Proofs.Registry.Entries

/-!
# `JobScheduling.Proofs.Registry.Transcript`: when a job was asked for, and when it ended

A `Turn` is one request of a run as it was served, and the turns of a run are its transcript. A
client that reads the transcript knows when it last submitted a job or asked for it
(`Turn.touches`), and when the job ended (`Turn.ends`). Both are told by the requests, their answers
and the stages of the records, and by no time that a record carries.

The registry does not keep a transcript. It stamps a record with the time of the last check and with
that of the end, and both stamps agree with the transcript (`Dated`). A record is stamped in the
very turns that touch it (`lastCheck_serve`), and an ended record keeps the stamp of its end while
it is there, so one turn extends the agreement by induction over the run (`dated_run`).
-/

set_option autoImplicit false

namespace JobScheduling

namespace Record

/-- A job that ends by some moves ends at their time. -/
theorem Moves.completedAt {now : Nat} {r r' : Record} (m : r.Moves now r')
    (hopen : r.isFinal = false) (hended : r'.isFinal = true) :
    r'.status.completedAt = some now := by
  -- Only the last move can end the job, because nothing leaves the end.
  induction m with
  | refl =>
    rw [hopen] at hended
    cases hended
  | tail _ m ih =>
    cases m with
    | check => exact ih hended
    | stop => rfl
    | conclude ending => cases ending <;> rfl
    | start | ask => cases hended

/-- To cancel a job is no check by its client. -/
@[simp]
theorem lastCheck_cancel (now : Nat) (reason : String) (immediate : Bool) (r : Record) :
    (r.cancel now reason immediate).lastCheck = r.lastCheck := by
  simp only [cancel]
  cases r.stage <;> cases r.isFinal <;> cases immediate <;> rfl

/-- The end of a job is no check by its client. -/
@[simp]
theorem lastCheck_conclude (now : Nat) (ending : Ending) (r : Record) :
    (r.conclude now ending).lastCheck = r.lastCheck := by
  cases ending <;> rfl

end Record

namespace Registry

/-- A report is no check by the client. -/
@[simp]
theorem lastCheck_finished (now : Nat) (ending : Ending) (r : Record) :
    (finished now ending r).lastCheck = r.lastCheck := by
  simp only [finished, Record.finish]
  cases r.stage <;> simp only [Except.toOption, Option.getD] <;>
    first | rfl | exact Record.lastCheck_conclude ..

/-- The sweep is no check by a client. -/
@[simp]
theorem lastCheck_evicted (now timeout abandoned : Nat) (reason : String) (r : Record) :
    (evicted now timeout abandoned reason r).lastCheck = r.lastCheck := by
  unfold evicted
  split
  · exact Record.lastCheck_cancel ..
  · rfl

/-- A request as it was served. -/
structure Turn where
  now : Nat
  request : Request
  before : Registry
  answer : Answer
  after : Registry

/-- The turn in which a registry serves a request. -/
def turn (scan : Scan) (now : Nat) (request : Request) (q : Registry) : Turn where
  now := now
  request := request
  before := q
  answer := (q.serve scan now request).1
  after := (q.serve scan now request).2

/-- The transcript of a run. -/
def turns (scan : Scan) : List (Nat × Request) → Registry → List Turn
  | [], _ => []
  | (now, request) :: rest, q =>
    q.turn scan now request :: turns scan rest (q.serve scan now request).2

/-- Whether a job was submitted under the id, or its client asked for it. -/
def Turn.touches (id : String) (t : Turn) : Bool :=
  match t.request, t.answer with
  | .add job, .unit => job.id == id
  | .get k true, .status _ => k == id
  | _, _ => false

/-- Whether the job under the id has ended in this turn. -/
def Turn.ends (id : String) (t : Turn) : Bool :=
  (t.before.records.find? id).any Record.isOpen && (t.after.records.find? id).any Record.isFinal

/-- The time of the last turn that passes a test. -/
def lastTime (p : Turn → Bool) (log : List Turn) : Option Nat :=
  (log.filter p).getLast?.map Turn.now

section
variable (scan : Scan) (now : Nat) (request : Request) (q : Registry) {id : String}

/-- The turns of a longer run go on after those of the first part. -/
theorem turns_append (requests later : List (Nat × Request)) :
    turns scan (requests ++ later) q
      = turns scan requests q ++ turns scan later (q.run scan requests) := by
  induction requests generalizing q with
  | nil => rfl
  | cons first rest ih => exact congrArg _ (ih _)

/-- A longer run goes on from where the first part ended. -/
theorem run_append (requests later : List (Nat × Request)) :
    q.run scan (requests ++ later) = (q.run scan requests).run scan later :=
  List.foldl_append

/-- The last turn decides if it passes the test. -/
theorem lastTime_concat (p : Turn → Bool) (log : List Turn) (t : Turn) :
    lastTime p (log ++ [t]) = if p t then some t.now else lastTime p log := by
  simp only [lastTime, List.filter_append]
  cases hp : p t <;> simp [hp]

/-! ### What one turn stamps -/

/-- A submission that is accepted touches its id, and it is accepted if no record is in the way
after the purge. -/
theorem touches_add (job : Job) : (q.turn scan now (.add job)).touches id = true ↔
    id = job.id ∧ (q.purge now).records.find? id = none := by
  have hanswer : (q.serve scan now (.add job)).1 = .of (fun _ => .unit) (q.add now job).1 := rfl
  simp only [Turn.touches, turn, hanswer]
  cases hfree : (q.purge now).records.find? job.id with
  | none =>
    rw [add_eq_ok_iff.2 hfree]
    simp only [Answer.of, beq_iff_eq]
    exact ⟨fun hid => ⟨hid.symm, hid ▸ hfree⟩, fun h => h.1.symm⟩
  | some r =>
    -- The id is taken after the purge, so the job is refused and no record is checked.
    have hrefused : ∃ e, (q.add now job).1 = .error e := by
      cases hadd : (q.add now job).1 with
      | error e => exact ⟨e, rfl⟩
      | ok _ =>
        rw [add_eq_ok_iff.1 hadd] at hfree
        cases hfree
    obtain ⟨e, he⟩ := hrefused
    rw [he]
    refine ⟨nofun, fun h => ?_⟩
    rw [h.1, hfree] at h
    cases h.2

/-- A look from outside touches the record that it finds. -/
theorem touches_get (k : String) (external : Bool) :
    (q.turn scan now (.get k external)).touches id = true ↔
      id = k ∧ external = true ∧ (q.records.find? id).isSome = true := by
  have hanswer : (q.serve scan now (.get k external)).1
      = .of .status (q.get now k external).1 := rfl
  cases external with
  -- A look from within the node does not count as a check.
  | false =>
    refine ⟨fun h => ?_, fun h => ?_⟩
    · cases h
    · cases h.2.1
  | true =>
    simp only [Turn.touches, turn, hanswer, get]
    cases hr : q.records.find? k with
    | none =>
      refine ⟨fun h => ?_, fun h => ?_⟩
      · cases h
      · rw [h.1, hr] at h
        cases h.2.2
    | some r =>
      simp only [Answer.of, beq_iff_eq]
      refine ⟨fun hid => ⟨hid.symm, trivial, ?_⟩, fun h => h.1.symm⟩
      rw [← hid, hr]
      rfl

/-- A record carries the time of a turn that touches it. Another turn leaves the time of the last
check as it was, and records nothing. -/
theorem lastCheck_serve {r' : Record}
    (hr' : (q.serve scan now request).2.records.find? id = some r') :
    if (q.turn scan now request).touches id = true then r'.lastCheck = now
    else ∃ r, q.records.find? id = some r ∧ r'.lastCheck = r.lastCheck := by
  -- Operations that map the record of an id without a check.
  have hmap {f : Record → Record} (hf : ∀ r, (f r).lastCheck = r.lastCheck) {p : Prop}
      [Decidable p] {before : Option Record}
      (h : (if p then before.map f else before) = some r') :
      ∃ r, before = some r ∧ r'.lastCheck = r.lastCheck := by
    split at h
    · obtain ⟨r, hr, rfl⟩ := Option.map_eq_some_iff.1 h
      exact ⟨r, hr, hf r⟩
    · exact ⟨r', h, rfl⟩
  have hpurge (h : ∃ r, (q.purge now).records.find? id = some r ∧ r'.lastCheck = r.lastCheck) :
      ∃ r, q.records.find? id = some r ∧ r'.lastCheck = r.lastCheck :=
    h.imp fun _ hr => ⟨find?_of_find?_purge hr.1, hr.2⟩
  cases request with
  | add job =>
    have hadd : (q.add now job).2.records.find? id = some r' := hr'
    rw [find?_add] at hadd
    by_cases hnew : id = job.id ∧ (q.purge now).records.find? id = none
    · rw [if_pos hnew] at hadd
      rw [if_pos ((touches_add scan now q job).2 hnew), ← Option.some.inj hadd]
      rfl
    · rw [if_neg hnew] at hadd
      rw [if_neg fun ht => hnew ((touches_add scan now q job).1 ht)]
      exact hpurge ⟨r', hadd, rfl⟩
  | get k external =>
    have hget : (q.get now k external).2.records.find? id = some r' := hr'
    rw [find?_get] at hget
    by_cases hasked : id = k ∧ external = true
    · rw [if_pos hasked] at hget
      obtain ⟨r, hr, rfl⟩ := Option.map_eq_some_iff.1 hget
      have hsome : (q.records.find? id).isSome = true := hr ▸ rfl
      rw [if_pos ((touches_get scan now q k external).2 ⟨hasked.1, hasked.2, hsome⟩)]
      rfl
    · rw [if_neg hasked] at hget
      rw [if_neg fun ht => hasked
        (((touches_get scan now q k external).1 ht).imp_right And.left)]
      exact ⟨r', hget, rfl⟩
  | start k => exact hmap (lastCheck_started now) ((find?_start ..).symm.trans hr')
  | startNext n => exact hmap (lastCheck_started now) ((find?_startNext ..).symm.trans hr')
  | done k report => exact hmap (lastCheck_finished now _) ((find?_finish ..).symm.trans hr')
  | fail k cause => exact hmap (lastCheck_finished now _) ((find?_finish ..).symm.trans hr')
  | cancel k reason immediate =>
    exact hmap (Record.lastCheck_cancel now _ _) ((find?_cancel ..).symm.trans hr')
  | cancelOverdue timeout abandoned reason =>
    exact hpurge (hmap (lastCheck_evicted now _ _ _) ((find?_cancelOverdue ..).symm.trans hr'))
  | toCancel | purge => exact hpurge ⟨r', hr', rfl⟩
  | sinceCheck k => exact ⟨r', hr', rfl⟩

/-- A record that has ended carries the time of the turn in which it ended. -/
theorem completedAt_serve (hkeyed : q.Keyed) {r' : Record}
    (hr' : (q.serve scan now request).2.records.find? id = some r') (hended : r'.isFinal = true) :
    if (q.turn scan now request).ends id = true then r'.status.completedAt = some now
    else ∃ r, q.records.find? id = some r ∧ r.isFinal = true ∧
      r'.status.completedAt = r.status.completedAt := by
  have hends : (q.turn scan now request).ends id = (q.records.find? id).any Record.isOpen := by
    simp [Turn.ends, turn, hr', hended]
  have hfate := serve_fate scan now request q id
  rw [hends]
  rw [hr'] at hfate
  generalize hr : q.records.find? id = before at hfate
  -- What was recorded in this turn has not ended.
  cases hfate with
  | @moved r _ m =>
    cases hfinal : r.isFinal with
    | false => simpa [Record.isOpen, hfinal, hended] using m.completedAt hfinal hended
    | true =>
      have hstatus := ((m.evolves (hkeyed id r hr).2).ended hfinal).1
      simpa [Record.isOpen, hfinal] using congrArg Status.completedAt hstatus
  | added | replaced => cases hended

end

/-! ### The stamps of a reachable registry -/

/-- The stamps of the records agree with a transcript. -/
structure Dated (log : List Turn) (q : Registry) : Prop where
  asked : ∀ id r, q.records.find? id = some r →
    lastTime (Turn.touches id) log = some r.lastCheck
  ended : ∀ id r, q.records.find? id = some r → r.isFinal = true →
    lastTime (Turn.ends id) log = r.status.completedAt

/-- One more turn keeps the stamps and the transcript in agreement. -/
theorem Dated.serve {log : List Turn} {q : Registry} (h : Dated log q) (hkeyed : q.Keyed)
    (scan : Scan) (now : Nat) (request : Request) :
    Dated (log ++ [q.turn scan now request]) (q.serve scan now request).2 := by
  constructor
  · -- The stamp of the last check is new if this turn touches the job, and that of the end if this
    -- turn ends it.
    intro id r' hr'
    have hcheck := lastCheck_serve scan now request q hr'
    rw [lastTime_concat]
    split at hcheck
    next htouches => rw [if_pos htouches, hcheck]; rfl
    next htouches =>
      obtain ⟨r, hr, hsame⟩ := hcheck
      rw [if_neg htouches, h.asked id r hr, hsame]
  · intro id r' hr' hfinal
    have hend := completedAt_serve scan now request q hkeyed hr' hfinal
    rw [lastTime_concat]
    split at hend
    next hends => rw [if_pos hends, hend]; rfl
    next hends =>
      obtain ⟨r, hr, hr₀, hsame⟩ := hend
      rw [if_neg hends, h.ended id r hr hr₀, hsame]

/-- The stamps of the records agree with the transcript of the run. -/
theorem dated_run (scan : Scan) (retention : Option Nat) (requests : List (Nat × Request)) :
    Dated (turns scan requests { retention }) (run scan requests { retention }) := by
  -- By induction on the run from its end, since the stamps tell of the last turns.
  induction requests using List.reverseRecOn with
  | nil =>
    have hnone (id : String) (r : Record) :
        ({ retention } : Registry).records.find? id ≠ some r := by
      intro hr
      cases hr
    exact ⟨fun id r hr => absurd hr (hnone id r), fun id r hr => absurd hr (hnone id r)⟩
  | append_singleton requests last ih =>
    obtain ⟨now, request⟩ := last
    rw [turns_append, run_append]
    exact ih.serve (keyed_run scan requests (keyed_empty retention)) scan now request

end Registry

end JobScheduling
