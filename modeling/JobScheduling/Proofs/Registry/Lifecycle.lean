import JobScheduling.Proofs.Registry.Lookup
import JobScheduling.Proofs.Registry.Moves

/-!
# `JobScheduling.Proofs.Registry.Lifecycle`: records along a run

`Registry.Fate` lists what one request can do to the record under an id: leave it absent,
move it, purge it, record a new job there, or purge and record. `serve_fate` says that
these are all.

Two facts about runs of any length follow, each by induction over the run:

* `keyed_run`: in every registry that a run from the empty one reaches, each record lies
  under the id of its job and is lawful (`Record.Lawful`).
* `evolves_or_purged`: a record that lies under an id stays there and evolves
  (`Record.Evolves`), unless a request of the run purges it.

`run_lifecycle` puts them together. The times of the requests are arbitrary, so the clock
can run backwards, and `scan` can visit the records in any order.
-/

set_option autoImplicit false

namespace JobScheduling

namespace Registry

/-- Whether a request purges the registry first. -/
def Request.purges : Request → Bool
  | .add _ | .cancelOverdue .. | .toCancel | .purge => true
  | _ => false

/-- What a request at a time does to the record under an id, from the record before to
the record after. -/
inductive Fate (now : Nat) (q : Registry) (request : Request) (id : String) :
    Option Record → Option Record → Prop
  | absent : Fate now q request id none none
  | moved {r r' : Record} (m : r.Moves now r') : Fate now q request id (some r) (some r')
  | purged {r : Record} (hp : request.purges = true) (he : q.expires now r = true) :
      Fate now q request id (some r) none
  | added {job : Job} (ha : request = .add job) (hid : job.id = id) :
      Fate now q request id none (some (.new now job (q.requests + 1)))
  | replaced {r : Record} {job : Job} (he : q.expires now r = true) (ha : request = .add job)
      (hid : job.id = id) : Fate now q request id (some r) (some (.new now job (q.requests + 1)))

section
variable {now : Nat} {q : Registry} {request : Request} {id : String}

/-- A request that moves the record under an id, if there is one. -/
theorem Fate.of_map {f : Record → Record} (hf : ∀ r : Record, r.Moves now (f r)) :
    Fate now q request id (q.records.find? id) ((q.records.find? id).map f) := by
  cases q.records.find? id with
  | none => exact .absent
  | some r => exact .moved (hf r)

/-- A request that leaves the record under an id alone. -/
theorem Fate.same : Fate now q request id (q.records.find? id) (q.records.find? id) := by
  cases q.records.find? id with
  | none => exact .absent
  | some r => exact .moved .refl

/-- A request that purges first, and then moves the record under an id. -/
theorem Fate.of_purge (hp : request.purges = true) {f : Record → Record}
    (hf : ∀ r : Record, r.Moves now (f r)) :
    Fate now q request id (q.records.find? id) (((q.purge now).records.find? id).map f) := by
  rw [find?_purge]
  cases q.records.find? id with
  | none => exact .absent
  | some r =>
    -- The purge takes it, or the request moves it.
    cases he : q.expires now r with
    | false =>
      rw [Option.filter_some, he]
      exact .moved (hf r)
    | true =>
      rw [Option.filter_some, he]
      exact .purged hp he

/-- A request that purges and does nothing else. -/
theorem Fate.of_purge_only (hp : request.purges = true) :
    Fate now q request id (q.records.find? id) ((q.purge now).records.find? id) := by
  have h : Fate now q request id (q.records.find? id)
      (((q.purge now).records.find? id).map fun r => r) := .of_purge hp fun _ => .refl
  rwa [Option.map_id'] at h

end

/-- An attempt to mark a job as running makes moves only. -/
theorem started_moves (now : Nat) (r : Record) : r.Moves now (started now r) := by
  simp only [started]
  cases h : r.start now with
  | error e => exact .refl
  | ok r' => exact Record.start_moves h

/-- An attempt to record the end of the work makes moves only. -/
theorem finished_moves (now : Nat) (ending : Ending) (r : Record) :
    r.Moves now (finished now ending r) := by
  simp only [finished]
  cases h : r.finish now ending with
  | error e => exact .refl
  | ok r' => exact Record.finish_moves h

/-- A visit by `cancelOverdue` makes moves only. -/
theorem evicted_moves (now timeout abandoned : Nat) (reason : String) (r : Record) :
    r.Moves now (evicted now timeout abandoned reason r) := by
  simp only [evicted]
  split
  · exact Record.cancel_moves now reason true r
  · exact .refl

/-- Every request does to every id one of the things that `Fate` lists. -/
theorem serve_fate (scan : Scan) (now : Nat) (request : Request) (q : Registry) (id : String) :
    Fate now q request id (q.records.find? id)
      ((q.serve scan now request).2.records.find? id) := by
  cases request with
  | add job =>
    -- The purge comes first: it can free the id of the new job, or purge another record.
    show Fate _ _ _ _ _ ((q.add now job).2.records.find? id)
    rw [find?_add]
    split
    next hid =>
      rw [find?_purge] at hid
      cases hr : q.records.find? id with
      | none => exact .added rfl hid.1.symm
      | some r =>
        have he : q.expires now r = true := by
          simpa [hr, Option.filter_some] using hid.2
        exact .replaced he rfl hid.1.symm
    next => exact .of_purge_only rfl
  | get k external =>
    show Fate _ _ _ _ _ ((q.get now k external).2.records.find? id)
    rw [find?_get]
    split
    · exact .of_map fun r => .single .check
    · exact .same
  | start k =>
    show Fate _ _ _ _ _ ((q.start now k).2.records.find? id)
    rw [find?_start]
    split
    · exact .of_map (started_moves now)
    · exact .same
  | startNext n =>
    show Fate _ _ _ _ _ ((q.startNext now n).2.records.find? id)
    rw [find?_startNext]
    split
    · exact .of_map (started_moves now)
    · exact .same
  | done k report =>
    show Fate _ _ _ _ _ ((q.finish now k (.done report)).2.records.find? id)
    rw [find?_finish]
    split
    · exact .of_map (finished_moves now _)
    · exact .same
  | fail k cause =>
    show Fate _ _ _ _ _ ((q.finish now k (.error cause)).2.records.find? id)
    rw [find?_finish]
    split
    · exact .of_map (finished_moves now _)
    · exact .same
  | cancel k reason immediate =>
    show Fate _ _ _ _ _ ((q.cancel now k reason immediate).2.records.find? id)
    rw [find?_cancel]
    split
    · exact .of_map (Record.cancel_moves now reason immediate)
    · exact .same
  | cancelOverdue timeout abandoned reason =>
    show Fate _ _ _ _ _
      ((q.cancelOverdue scan now timeout abandoned reason).2.records.find? id)
    rw [find?_cancelOverdue]
    split
    · exact .of_purge rfl (evicted_moves now timeout abandoned reason)
    · exact .of_purge_only rfl
  | toCancel => exact .of_purge_only rfl
  | purge => exact .of_purge_only rfl
  | sinceCheck k => exact .same

/-! ### The records of a reachable registry -/

/-- Every record lies under the id of its job and is lawful. -/
def Keyed (q : Registry) : Prop :=
  ∀ id r, q.records.find? id = some r → r.status.job.id = id ∧ r.Lawful

/-- The empty registry. -/
theorem keyed_empty (retention : Option Nat) : Keyed { retention } := by
  intro id r h
  cases h

/-- One request keeps the records lawful and in their places. -/
theorem keyed_serve (scan : Scan) (now : Nat) (request : Request) {q : Registry}
    (h : q.Keyed) : (q.serve scan now request).2.Keyed := by
  intro id r' hr'
  have hfate := serve_fate scan now request q id
  rw [hr'] at hfate
  generalize hr : q.records.find? id = before at hfate
  -- Of the five fates, those that leave a record move it or record a new one.
  cases hfate with
  | moved m =>
    obtain ⟨hid, hlawful⟩ := h id _ hr
    exact ⟨(congrArg Job.id (m.evolves hlawful).job).trans hid, hlawful.moves m⟩
  | added _ hid => exact ⟨hid, Record.lawful_new ..⟩
  | replaced _ _ hid => exact ⟨hid, Record.lawful_new ..⟩

/-- A run keeps the records lawful and in their places. -/
theorem keyed_run (scan : Scan) (requests : List (Nat × Request)) {q : Registry}
    (h : q.Keyed) : (q.run scan requests).Keyed := by
  simp only [run]
  induction requests generalizing q with
  | nil => exact h
  | cons request requests ih => exact ih (keyed_serve scan request.1 request.2 h)

/-- The statuses of a claim are those of the claimed ids, in their order. -/
theorem Keyed.ids_startNext {q : Registry} (h : q.Keyed) (now n : Nat) :
    (q.startNext now n).1.map (·.job.id) = q.claimedIds n := by
  rw [startNext_fst, List.map_filterMap]
  refine (List.filterMap_congr ?_).trans List.filterMap_some
  intro id hid
  obtain ⟨r, hr, -⟩ := find?_of_mem_claimedIds hid
  simp [hr, job_started, (h id r hr).1]

/-! ### One record along a run -/

/-- Some request of a run purges the record that lies under an id. -/
def PurgedDuring (scan : Scan) (id : String) : List (Nat × Request) → Registry → Prop
  | [], _ => False
  | (now, request) :: rest, q =>
    (request.purges = true ∧ (q.records.find? id).any (q.expires now) = true) ∨
      PurgedDuring scan id rest (q.serve scan now request).2

/-- A request purges the record under an id, or the record evolves there. -/
theorem evolves_or_purges (scan : Scan) (now : Nat) (request : Request) {q : Registry}
    (h : q.Keyed) {id : String} {r : Record} (hr : q.records.find? id = some r) :
    (request.purges = true ∧ (q.records.find? id).any (q.expires now) = true) ∨
      ∃ r', (q.serve scan now request).2.records.find? id = some r' ∧ r.Evolves r' := by
  have hfate := serve_fate scan now request q id
  rw [hr] at hfate ⊢
  generalize hr' : (q.serve scan now request).2.records.find? id = after at hfate
  cases hfate with
  | moved m => exact .inr ⟨_, rfl, m.evolves (h id r hr).2⟩
  | purged hp he => exact .inl ⟨hp, he⟩
  | replaced he ha _ => exact .inl ⟨by rw [ha]; rfl, he⟩

/-- A record that lies under an id evolves there during a run, unless it is purged. -/
theorem evolves_or_purged (scan : Scan) (requests : List (Nat × Request)) {q : Registry}
    (h : q.Keyed) {id : String} {r : Record} (hr : q.records.find? id = some r) :
    PurgedDuring scan id requests q ∨
      ∃ r', (q.run scan requests).records.find? id = some r' ∧ r.Evolves r' := by
  induction requests generalizing q r with
  | nil => exact .inr ⟨r, hr, .refl r⟩
  | cons request requests ih =>
    obtain ⟨now, request⟩ := request
    rcases evolves_or_purges scan now request h hr with hgone | ⟨r', hr', he⟩
    · exact .inl (.inl hgone)
    · rcases ih (keyed_serve scan now request h) hr' with hgone | ⟨r'', hr'', he'⟩
      · exact .inl (.inr hgone)
      · exact .inr ⟨r'', hr'', he.trans he'⟩

/-- Take a run of requests on an empty registry, at any times, and any point of it. Each
record there lies under the id of its job, and its fields are in step with its stage and
its history. During the rest of the run it evolves under its id until it is purged: its
job, its number and a reason once stored never change, its history grows by appending, and
its status and history are fixed once the job has ended. -/
theorem run_lifecycle (scan : Scan) (retention : Option Nat)
    (before after : List (Nat × Request)) (id : String) (r : Record)
    (h : (run scan before { retention }).records.find? id = some r) :
    r.status.job.id = id ∧ r.Lawful ∧
      (PurgedDuring scan id after (run scan before { retention }) ∨
        ∃ r', (run scan (before ++ after) { retention }).records.find? id = some r' ∧
          r.Evolves r') := by
  have hkeyed := keyed_run scan before (keyed_empty retention)
  obtain ⟨hid, hlawful⟩ := hkeyed id r h
  have hlater := evolves_or_purged scan after hkeyed h
  have happend : run scan (before ++ after) { retention }
      = run scan after (run scan before { retention }) := List.foldl_append
  rw [happend]
  exact ⟨hid, hlawful, hlater⟩

/-- The record of a running job that was asked to stop, at a time before its start since
the clock ran backwards. Its work then ends with a report, and a second cancellation
follows. -/
theorem run_lifecycle_asked :
    let before : List (Nat × Request) :=
      [(5, .add { id := "a", submittedAt := 5 }), (7, .start "a"), (6, .cancel "a" "stop" false)]
    let after : List (Nat × Request) :=
      [(9, .done "a" ⟨"u", "f", "m"⟩), (3, .cancel "a" "again" true)]
    let r : Record :=
      { status :=
          { job := { id := "a", submittedAt := 5 }, stage := .canceling, request := 1
            startedAt := some 7, error := some "stop" }
        lastCheck := 5
        history := [.waiting, .running, .canceling] }
    (run id before { retention := some 10 }).records.find? "a" = some r ∧
      r.status.job.id = "a" ∧ r.Lawful ∧
        (PurgedDuring id "a" after (run id before { retention := some 10 }) ∨
          ∃ r', (run id (before ++ after) { retention := some 10 }).records.find? "a" = some r' ∧
            r.Evolves r') :=
  ⟨by decide +kernel, run_lifecycle id (some 10) _ _ "a" _ (by decide +kernel)⟩

end Registry

end JobScheduling
