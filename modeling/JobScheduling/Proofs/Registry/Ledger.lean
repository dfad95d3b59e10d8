import JobScheduling.Proofs.Registry.Entries
import Mathlib.Data.List.Range

/-!
# `JobScheduling.Proofs.Registry.Ledger`: the counters of the registry balance

A `Ledger` is a registry together with the jobs recorded on it, and with the numbers of the
records that ended, that were done and that were purged. These lists are read off the
registry before and after each request, not off its counters.

`Ledger.Balanced` compares the two: no number is given twice, each recorded job is open or
ended and not both, held or purged and not both, and each counter is the length of its list.
`Balanced.serve` turns the entries of one request into the lists of the ledger. `run_balanced`
is the induction over the run, with what follows for the counters alone.
-/

set_option autoImplicit false

namespace JobScheduling

namespace Registry

/-- The counters of a registry and of a later one: none goes down. -/
structure Grows (q q' : Registry) : Prop where
  requests : q.requests ≤ q'.requests
  completed : q.completed ≤ q'.completed
  doneCount : q.doneCount ≤ q'.doneCount
  doneTime : q.doneTime ≤ q'.doneTime

/-- Counters that stay as they are do not go down. -/
theorem Grows.refl (q : Registry) : q.Grows q :=
  ⟨Nat.le_refl _, Nat.le_refl _, Nat.le_refl _, Nat.le_refl _⟩

/-- Counters that go down at no time do not go down in all. -/
theorem Grows.trans {q q' q'' : Registry} (h : q.Grows q') (h' : q'.Grows q'') : q.Grows q'' :=
  ⟨h.requests.trans h'.requests, h.completed.trans h'.completed,
    h.doneCount.trans h'.doneCount, h.doneTime.trans h'.doneTime⟩

/-! ### The ledger -/

/-- A registry together with what has happened on it. -/
structure Ledger where
  registry : Registry
  /-- The jobs that were recorded, oldest first. -/
  added : List Job := []
  /-- The numbers of the records that ended, oldest end first. -/
  ended : List Nat := []
  /-- The numbers of the records that were done. -/
  done : List Nat := []
  /-- The numbers of the records that were purged. -/
  purged : List Nat := []

namespace Ledger

/-- Serves one request, and writes down what it changed. -/
def serve (scan : Scan) (now : Nat) (request : Request) (l : Ledger) : Ledger :=
  let served := l.registry.serve scan now request
  { registry := served.2
    added := l.added ++ request.recorded served.1
    ended := l.ended ++ newly Record.isFinal l.registry served.2
    done := l.done ++ newly Record.isDone l.registry served.2
    -- What was held before and is not held now was purged.
    purged := l.purged ++ newly (fun _ => true) served.2 l.registry }

section
variable (scan : Scan) (now : Nat) (request : Request) (l : Ledger)

/-- The ledger lists what happens to its registry and does not change it. -/
@[simp]
theorem registry_serve :
    (l.serve scan now request).registry = (l.registry.serve scan now request).2 := rfl

/-- A request adds the jobs that it records. -/
theorem added_serve : (l.serve scan now request).added
    = l.added ++ request.recorded (l.registry.serve scan now request).1 := rfl

/-- A request ends the records that have ended after it and not before. -/
theorem ended_serve : (l.serve scan now request).ended
    = l.ended ++ newly Record.isFinal l.registry (l.registry.serve scan now request).2 := rfl

/-- The same for what is done. -/
theorem done_serve : (l.serve scan now request).done
    = l.done ++ newly Record.isDone l.registry (l.registry.serve scan now request).2 := rfl

/-- What is purged was there before and is not there after. -/
theorem purged_serve : (l.serve scan now request).purged
    = l.purged ++ newly (fun _ => true) (l.registry.serve scan now request).2 l.registry := rfl

end

/-- The ledger after a run of requests, each with the time at which it is made. -/
def run (scan : Scan) (requests : List (Nat × Request)) (l : Ledger) : Ledger :=
  requests.foldl (fun l request => l.serve scan request.1 request.2) l

/-- The counters of the registry agree with the lists of the ledger. -/
structure Balanced (l : Ledger) : Prop where
  keyed : l.registry.Keyed
  requests : l.registry.requests = l.added.length
  /-- A held record has the number of its job among the recorded ones. -/
  stamped : ∀ id r, l.registry.records.find? id = some r →
    ∃ k, r.status.request = k + 1 ∧ l.added[k]? = some r.status.job
  /-- Of the numbers given, each is that of one held record or was purged once. -/
  held : (l.registry.held ++ l.purged).Perm (List.range' 1 l.added.length)
  /-- Of the numbers given, each is that of one open record or ended once. -/
  opened : (l.registry.numbers Record.isOpen ++ l.ended).Perm (List.range' 1 l.added.length)
  completed : l.registry.completed = l.ended.length
  doneCount : l.registry.doneCount = l.done.length
  /-- No record is done twice, and those that are done have ended. -/
  done_nodup : l.done.Nodup
  done_subset : l.done ⊆ l.ended
  doneTime_le : l.registry.doneTime ≤ maxWord

/-- The ledger of an empty registry. -/
theorem balanced_empty (retention : Option Nat) : Balanced { registry := { retention } } where
  keyed := keyed_empty retention
  requests := rfl
  stamped := by
    intro id r hr
    cases hr
  held := .refl _
  opened := .refl _
  completed := rfl
  doneCount := rfl
  done_nodup := .nil
  done_subset := List.Subset.refl _
  doneTime_le := Nat.zero_le _

/-- An addition records its job, or it is refused. -/
theorem recorded_add (job : Job) (answer : Answer) :
    (Request.add job).recorded answer = [] ∨ (Request.add job).recorded answer = [job] := by
  cases answer with
  | unit => exact .inr rfl
  | _ => exact .inl rfl

/-- The jobs that a request recorded are one or none. -/
theorem recorded_cases (request : Request) (answer : Answer) :
    request.recorded answer = [] ∨ ∃ job, request.recorded answer = [job] := by
  cases request with
  | add job => exact (recorded_add job answer).imp_right fun hone => ⟨job, hone⟩
  | _ => exact .inl rfl

section
variable {l : Ledger}

/-- The number of a record was given. -/
theorem Balanced.request_le (h : l.Balanced) {id : String} {r : Record}
    (hr : l.registry.records.find? id = some r) : r.status.request ≤ l.registry.requests := by
  obtain ⟨k, hk, hjob⟩ := h.stamped id r hr
  have hlt := (List.getElem?_eq_some_iff.1 hjob).1
  have hrequests := h.requests
  omega

/-- A number tells the id of the job. -/
theorem Balanced.id_eq (h : l.Balanced) {id id' : String} {r r' : Record}
    (hr : l.registry.records.find? id = some r) (hr' : l.registry.records.find? id' = some r')
    (hrequest : r.status.request = r'.status.request) : id = id' := by
  obtain ⟨k, hk, hjob⟩ := h.stamped id r hr
  obtain ⟨k', hk', hjob'⟩ := h.stamped id' r' hr'
  have hsame : k = k' := by omega
  subst hsame
  rw [hjob] at hjob'
  rw [← (h.keyed id r hr).1, ← (h.keyed id' r' hr').1, Option.some.inj hjob']

/-- No number is held twice. -/
theorem Balanced.held_nodup (h : l.Balanced) : l.registry.held.Nodup :=
  (List.nodup_append.1 (h.held.nodup_iff.2 (List.nodup_range' ..))).1

/-- No held record has a number that is yet to be given. -/
theorem Balanced.notMem_held (h : l.Balanced) : l.registry.requests + 1 ∉ l.registry.held := by
  intro hmem
  have hgiven := h.held.subset (List.mem_append_left _ hmem)
  rw [List.mem_range'_1, h.requests] at hgiven
  omega

/-- The numbers held and the one that a request gives are distinct. -/
theorem Balanced.nodup_held (h : l.Balanced) (request : Request) (answer : Answer) :
    (l.registry.held
      ++ (request.recorded answer).map fun _ => l.registry.requests + 1).Nodup := by
  rcases recorded_cases request answer with hnone | ⟨job, hone⟩
  · rw [hnone, List.map_nil, List.append_nil]
    exact h.held_nodup
  · rw [hone, List.map_singleton, List.nodup_append_comm, List.singleton_append, List.nodup_cons]
    exact ⟨h.notMem_held, h.held_nodup⟩

/-- The numbers given after a request. -/
theorem range'_recorded (request : Request) (answer : Answer) (jobs : List Job) :
    List.range' 1 (jobs ++ request.recorded answer).length
      = List.range' 1 jobs.length
        ++ (request.recorded answer).map fun _ => jobs.length + 1 := by
  rcases recorded_cases request answer with hnone | ⟨job, hone⟩
  · simp [hnone]
  · rw [hone, List.length_append, List.length_singleton, List.range'_1_concat, List.map_singleton,
      Nat.add_comm 1]

/-- A held record has its number after a request as well, and a new one the next number. -/
theorem Balanced.stamped_serve (scan : Scan) (now : Nat) (request : Request) (h : l.Balanced)
    (id : String) (r' : Record)
    (hr' : (l.serve scan now request).registry.records.find? id = some r') :
    ∃ k, r'.status.request = k + 1 ∧
      (l.serve scan now request).added[k]? = some r'.status.job := by
  have hfate := serve_fate scan now request l.registry id
  obtain ⟨ended, done, hentries⟩ := entries_serve scan now request l.registry
  obtain ⟨lost, -, hsub, -⟩ := prepared_cases now request l.registry
  -- The number of a new record was not held before, so this request gave it.
  have hnew {job : Job} (hjob : request = .add job)
      (hr : r' = .new now job (l.registry.requests + 1)) :
      (l.serve scan now request).added[l.registry.requests]? = some job := by
    subst hjob hr
    rw [added_serve]
    have hmem := hentries.held.subset (mem_numbers.2 ⟨id, _, hr', rfl, rfl⟩)
    rcases recorded_add job (l.registry.serve scan now (.add job)).1 with hnone | hone
    · rw [hnone, List.map_nil, List.append_nil] at hmem
      exact absurd (hsub _ hmem) h.notMem_held
    · rw [hone, h.requests]
      exact List.getElem?_concat_length ..
  rw [registry_serve] at hr'
  rw [hr'] at hfate
  generalize hr : l.registry.records.find? id = before at hfate
  cases hfate with
  | moved m =>
    obtain ⟨k, hk, hjob⟩ := h.stamped id _ hr
    obtain ⟨-, hlawful⟩ := h.keyed id _ hr
    refine ⟨k, m.request.trans hk, ?_⟩
    rw [(m.evolves hlawful).job]
    exact (List.getElem?_append_left (List.getElem?_eq_some_iff.1 hjob).1).trans hjob
  | added ha hid => exact ⟨l.registry.requests, rfl, hnew ha rfl⟩
  | replaced he ha hid => exact ⟨l.registry.requests, rfl, hnew ha rfl⟩

/-- What was held is held or purged after a request, and what is new is held. -/
theorem Balanced.held_serve (scan : Scan) (now : Nat) (request : Request) (h : l.Balanced) :
    ((l.serve scan now request).registry.held ++ (l.serve scan now request).purged).Perm
      (List.range' 1 (l.serve scan now request).added.length) := by
  -- Each number occurs as often on both sides. It was held or purged before, and one request moves
  -- it at most once.
  obtain ⟨ended, done, hentries⟩ := entries_serve scan now request l.registry
  have hkept := hentries.held
  have hpurged := hentries.newly_purged_perm
    (h.nodup_held request (l.registry.serve scan now request).1)
  have hheld := h.held
  rw [← h.requests] at hheld
  rw [registry_serve, purged_serve, added_serve, range'_recorded, ← h.requests]
  rw [List.perm_iff_count] at hkept hpurged hheld ⊢
  intro n
  have hkept := hkept n
  have hpurged := hpurged n
  have hheld := hheld n
  simp only [List.count_append] at hkept hpurged hheld ⊢
  omega

/-- What was open is open or has ended after a request, and what is new is open or has
ended. -/
theorem Balanced.opened_serve (scan : Scan) (now : Nat) (request : Request) (h : l.Balanced) :
    ((l.serve scan now request).registry.numbers Record.isOpen
        ++ (l.serve scan now request).ended).Perm
      (List.range' 1 (l.serve scan now request).added.length) := by
  -- As before, for the numbers of open and of ended records.
  obtain ⟨ended, done, hentries⟩ := entries_serve scan now request l.registry
  obtain ⟨lost, -, -, hopen, -⟩ := prepared_cases now request l.registry
  have hkept := hentries.opened
  have hended := hentries.newly_isFinal_perm
    (h.nodup_held request (l.registry.serve scan now request).1)
  have hopened := h.opened
  rw [hopen] at hkept
  rw [← h.requests] at hopened
  rw [registry_serve, ended_serve, added_serve, range'_recorded, ← h.requests]
  rw [List.perm_iff_count] at hkept hended hopened ⊢
  intro n
  have hkept := hkept n
  have hended := hended n
  have hopened := hopened n
  simp only [List.count_append] at hkept hended hopened ⊢
  omega

/-- One request keeps the ledger balanced. -/
theorem Balanced.serve (scan : Scan) (now : Nat) (request : Request) (h : l.Balanced) :
    (l.serve scan now request).Balanced := by
  obtain ⟨ended, done, hentries⟩ := entries_serve scan now request l.registry
  obtain ⟨lost, -, -, -, hrequests, hcompleted, hdoneCount, hdoneTime⟩ :=
    prepared_cases now request l.registry
  have hnodup := h.nodup_held request (l.registry.serve scan now request).1
  have hended := hentries.newly_isFinal_perm hnodup
  have hdone := hentries.newly_isDone_perm hnodup
  have hheld := h.held_serve scan now request
  have hopened := h.opened_serve scan now request
  have hsub : newly Record.isDone l.registry (l.serve scan now request).registry
      ⊆ newly Record.isFinal l.registry (l.serve scan now request).registry :=
    fun n hn => hended.symm.subset (hentries.done_subset (hdone.subset hn))
  exact
    { keyed := keyed_serve scan now request h.keyed
      requests := by
        have hlength := hentries.requests
        rwa [List.length_map, hrequests, h.requests, ← List.length_append] at hlength
      stamped := h.stamped_serve scan now request
      held := hheld
      opened := hopened
      completed := by
        rw [registry_serve, ended_serve, hentries.completed, hcompleted, h.completed,
          List.length_append, hended.length_eq]
      doneCount := by
        rw [registry_serve, done_serve, hentries.doneCount, hdoneCount, h.doneCount,
          List.length_append, hdone.length_eq]
      done_nodup := by
        -- Whoever is done now ended now, and nothing ends twice.
        have hends := (List.nodup_append.1 (hopened.nodup_iff.2 (List.nodup_range' ..))).2.1
        have hdisjoint := (List.nodup_append.1 hends).2.2
        have hnew := (numbers_sublist Record.isDone _).nodup
          (List.nodup_append.1 (hheld.nodup_iff.2 (List.nodup_range' ..))).1
        refine List.nodup_append.2 ⟨h.done_nodup, hnew.filter _, ?_⟩
        exact fun n hn m hm => hdisjoint n (h.done_subset hn) m (hsub hm)
      done_subset := List.append_subset.2
        ⟨List.subset_append_of_subset_left _ h.done_subset,
          List.subset_append_of_subset_right _ hsub⟩
      doneTime_le := (hentries.doneTime (hdoneTime.trans_le h.doneTime_le)).2 }

/-- No counter goes down in one request. -/
theorem Balanced.grows_serve (scan : Scan) (now : Nat) (request : Request) (h : l.Balanced) :
    l.registry.Grows (l.serve scan now request).registry := by
  -- The purge before an addition leaves the counters alone, and the request itself only adds.
  obtain ⟨ended, done, hentries⟩ := entries_serve scan now request l.registry
  obtain ⟨lost, -, -, -, hrequests, hcompleted, hdoneCount, hdoneTime⟩ :=
    prepared_cases now request l.registry
  exact
    { requests := by
        rw [← hrequests]
        exact (Nat.le_add_right _ _).trans_eq hentries.requests.symm
      completed := by
        rw [← hcompleted]
        exact (Nat.le_add_right _ _).trans_eq hentries.completed.symm
      doneCount := by
        rw [← hdoneCount]
        exact (Nat.le_add_right _ _).trans_eq hentries.doneCount.symm
      doneTime := by
        rw [← hdoneTime]
        exact (hentries.doneTime (hdoneTime.trans_le h.doneTime_le)).1 }

end

/-- A run keeps the ledger balanced, and no counter goes down. -/
theorem Balanced.run (scan : Scan) (requests : List (Nat × Request)) {l : Ledger}
    (h : l.Balanced) :
    (l.run scan requests).Balanced ∧ l.registry.Grows (l.run scan requests).registry := by
  simp only [Ledger.run]
  induction requests generalizing l with
  | nil => exact ⟨h, .refl _⟩
  | cons request requests ih =>
    obtain ⟨hbalanced, hgrows⟩ := ih (h.serve scan request.1 request.2)
    exact ⟨hbalanced, (h.grows_serve scan request.1 request.2).trans hgrows⟩

/-- The registry of a ledger is that of the run without the ledger. -/
theorem registry_run (scan : Scan) (requests : List (Nat × Request)) (l : Ledger) :
    (l.run scan requests).registry = l.registry.run scan requests := by
  simp only [Ledger.run, Registry.run]
  induction requests generalizing l with
  | nil => rfl
  | cons request requests ih => exact ih _

/-- Take a run of requests on an empty registry, at any times, and any point of it, with `n`
jobs recorded up to there.

The ledger is balanced: a held record has the number of its job among the recorded ones,
each number up to `n` is held once or was purged once, and is open once or ended once. So
`n` is the number of completed jobs and open records together, and of held and purged
records. The next job that is recorded gets the number `n + 1`. Each request adds to the
completed jobs the records that end by it, and to the averaged durations the records that
are done by it. During the rest of the run no counter goes down. -/
theorem run_balanced (scan : Scan) (retention : Option Nat)
    (before after : List (Nat × Request)) :
    let l : Ledger := run scan before { registry := { retention } }
    let q := l.registry
    q = Registry.run scan before { retention } ∧
      l.Balanced ∧
      q.held.Nodup ∧
      l.added.length = q.completed + q.records.values.countP Record.isOpen ∧
      l.added.length = q.records.size + l.purged.length ∧
      (∀ now job, (q.serve scan now (.add job)).1 = .unit →
        (q.serve scan now (.add job)).2.records.find? job.id
          = some (.new now job (l.added.length + 1))) ∧
      (∀ now request,
        let q' := (q.serve scan now request).2
        q'.completed = q.completed + (newly Record.isFinal q q').length ∧
          q'.doneCount = q.doneCount + (newly Record.isDone q q').length) ∧
      q.Grows (Registry.run scan (before ++ after) { retention }) := by
  intro l q
  have hbalanced : l.Balanced := ((balanced_empty retention).run scan before).1
  have hregistry : q = Registry.run scan before { retention } := registry_run scan before _
  -- The first four counts are lengths of the lists that are permutations of each other.
  refine ⟨hregistry, hbalanced, hbalanced.held_nodup, ?_, ?_, ?_, ?_, ?_⟩
  · have hlength := hbalanced.opened.length_eq
    rw [List.length_range', List.length_append, ← hbalanced.completed, length_numbers,
      Nat.add_comm] at hlength
    exact hlength.symm
  · have hlength := hbalanced.held.length_eq
    rw [List.length_range', List.length_append, length_held] at hlength
    exact hlength.symm
  · -- An addition that is answered gives the next number.
    intro now job hunit
    have hok : (q.add now job).1 = .ok () := by
      cases hadd : (q.add now job).1 with
      | ok => rfl
      | error e =>
        rw [show (q.serve scan now (.add job)).1 = .of _ (q.add now job).1 from rfl, hadd] at hunit
        cases hunit
    show (q.add now job).2.records.find? job.id = _
    rw [find?_add, if_pos ⟨rfl, add_eq_ok_iff.1 hok⟩, hbalanced.requests]
  · intro now request q'
    have hafter := hbalanced.serve scan now request
    constructor
    · have hcompleted := hafter.completed
      rw [ended_serve, List.length_append, ← hbalanced.completed] at hcompleted
      exact hcompleted
    · have hdone := hafter.doneCount
      rw [done_serve, List.length_append, ← hbalanced.doneCount] at hdone
      exact hdone
  · -- The later run starts where the first one ended.
    have hgrows : q.Grows (l.run scan after).registry := (hbalanced.run scan after).2
    rw [registry_run] at hgrows
    have happend : Registry.run scan (before ++ after) { retention }
        = Registry.run scan after (Registry.run scan before { retention }) := List.foldl_append
    rw [happend, ← hregistry]
    exact hgrows

end Ledger

end Registry

end JobScheduling
