import JobScheduling.Proofs.Registry.Ledger
import JobScheduling.SharedQueue.Basic

/-!
# `JobScheduling.Proofs.Registry.Claims`: no record is claimed twice

A `Registry.Logged` is a registry together with the jobs recorded on it and with all that its
claims have answered. `Logged.service` is the shared queue on such a state: its calls answer as
those on the registry do, and write down additions and claims.

`Logged.Sound` says that no number was claimed twice, that each claimed status is that of a
recorded job, and that no job that waits was claimed. `Sound.serve` shows that no other
request makes a claimed job wait again, and `Sound.startNext` that a claim takes only jobs
that wait.
-/

set_option autoImplicit false

namespace JobScheduling

namespace Registry

/-- A registry together with what was recorded and claimed on it. -/
structure Logged where
  registry : Registry
  /-- The jobs that were recorded, oldest first. -/
  added : List Job := []
  /-- All that the claims have answered, one after the other. -/
  claimed : List Status := []

namespace Logged

/-- A call on the registry, after which a note is made of the answer. -/
def through {α : Type} (call : Call Registry α) (note : α → Logged → Logged := fun _ l => l) :
    Call Logged α := fun l =>
  let (answer, registry) := call l.registry
  let l := { l with registry }
  match answer with
  | .ok a => (answer, note a l)
  | .error _ => (answer, l)

/-- The shared queue in memory at one time, with notes of additions and claims. -/
def service (scan : Scan) (now : Nat) : SharedQueue Logged :=
  let plain := Registry.service scan now
  { add := fun job => through (plain.add job) fun _ l => { l with added := l.added ++ [job] }
    get := fun id external => through (plain.get id external)
    start := fun id => through (plain.start id)
    startNext := fun n =>
      through (plain.startNext n) fun claimed l => { l with claimed := l.claimed ++ claimed }
    finish := fun id ending => through (plain.finish id ending)
    cancel := fun id reason immediate => through (plain.cancel id reason immediate)
    cancelOverdue := fun timeout abandoned reason =>
      through (plain.cancelOverdue timeout abandoned reason)
    toCancel := through plain.toCancel
    waitingCount := through plain.waitingCount
    completedCount := through plain.completedCount
    averageDuration := through plain.averageDuration
    sinceCheck := fun id => through (plain.sinceCheck id) }

/-- No record was claimed twice, and none that waits was claimed at all. -/
structure Sound (l : Logged) : Prop where
  /-- The records have the numbers of the recorded jobs. -/
  ledger : ∃ ledger : Ledger,
    ledger.Balanced ∧ ledger.registry = l.registry ∧ ledger.added = l.added
  nodup : (l.claimed.map (·.request)).Nodup
  /-- A claimed status has the number of its job among the recorded ones. -/
  stamped : ∀ status ∈ l.claimed, ∃ k, status.request = k + 1 ∧ l.added[k]? = some status.job
  unclaimed : ∀ id r, l.registry.records.find? id = some r → r.stage = .waiting →
    r.status.request ∉ l.claimed.map (·.request)

/-- Nothing was added or claimed yet. -/
theorem sound_empty (retention : Option Nat) : Sound { registry := { retention } } where
  ledger := ⟨{ registry := { retention } }, Ledger.balanced_empty retention, rfl, rfl⟩
  nodup := .nil
  stamped _ h := absurd h List.not_mem_nil
  unclaimed _ _ _ _ := List.not_mem_nil

section
variable {l : Logged}

/-- A record has the number of its addition. -/
theorem Sound.record_stamped (h : l.Sound) {id : String} {r : Record}
    (hr : l.registry.records.find? id = some r) :
    ∃ k, r.status.request = k + 1 ∧ l.added[k]? = some r.status.job := by
  obtain ⟨ledger, hbalanced, hregistry, hadded⟩ := h.ledger
  exact hadded ▸ hbalanced.stamped id r (hregistry ▸ hr)

/-- No claim has answered the number that the next job gets. -/
theorem Sound.next_unclaimed (h : l.Sound) :
    l.registry.requests + 1 ∉ l.claimed.map (·.request) := by
  obtain ⟨ledger, hbalanced, hregistry, hadded⟩ := h.ledger
  intro hmem
  obtain ⟨status, hstatus, hrequest⟩ := List.mem_map.1 hmem
  obtain ⟨k, hk, hjob⟩ := h.stamped status hstatus
  have hlt := (List.getElem?_eq_some_iff.1 hjob).1
  have hrequests := hbalanced.requests
  rw [hregistry, hadded] at hrequests
  omega

/-- A number tells the id of the job. -/
theorem Sound.id_eq (h : l.Sound) {id id' : String} {r r' : Record}
    (hr : l.registry.records.find? id = some r) (hr' : l.registry.records.find? id' = some r')
    (hrequest : r.status.request = r'.status.request) : id = id' := by
  obtain ⟨ledger, hbalanced, hregistry, -⟩ := h.ledger
  exact hbalanced.id_eq (hregistry ▸ hr) (hregistry ▸ hr') hrequest

/-- A request that claims nothing: whatever it records was not claimed. -/
theorem Sound.serve (h : l.Sound) (scan : Scan) (now : Nat) (request : Request) :
    Sound { l with
      registry := (l.registry.serve scan now request).2
      added := l.added ++ request.recorded (l.registry.serve scan now request).1 } := by
  obtain ⟨ledger, hbalanced, hregistry, hadded⟩ := h.ledger
  refine ⟨⟨ledger.serve scan now request, hbalanced.serve scan now request, ?_, ?_⟩, h.nodup,
    ?_, ?_⟩
  · rw [Ledger.registry_serve, hregistry]
  · rw [Ledger.added_serve, hregistry, hadded]
  · intro status hstatus
    obtain ⟨k, hk, hjob⟩ := h.stamped status hstatus
    exact ⟨k, hk, (List.getElem?_append_left (List.getElem?_eq_some_iff.1 hjob).1).trans hjob⟩
  · intro id r' hr' hwaiting
    have hfate := serve_fate scan now request l.registry id
    rw [show (l.registry.serve scan now request).2.records.find? id = _ from hr'] at hfate
    generalize hr : l.registry.records.find? id = before at hfate
    cases hfate with
    | @moved r _ m =>
      -- No move leads back to the first stage.
      have hbefore : r.stage = .waiting := by
        by_contra hstage
        exact m.stage_ne_waiting hstage hwaiting
      rw [m.request]
      exact h.unclaimed id r hr hbefore
    | added | replaced => exact h.next_unclaimed

/-- A claim answers what was not claimed before, and each record once. -/
theorem Sound.startNext (h : l.Sound) (now n : Nat) :
    Sound { l with
      registry := (l.registry.startNext now n).2
      claimed := l.claimed ++ (l.registry.startNext now n).1 } := by
  have hserved := h.serve id now (.startNext n)
  rw [show Request.recorded (.startNext n) _ = [] from rfl, List.append_nil] at hserved
  -- A claim answers the records of waiting jobs, marked as running.
  have hclaimed (status : Status) (hstatus : status ∈ (l.registry.startNext now n).1) :
      ∃ id ∈ l.registry.claimedIds n, ∃ r, l.registry.records.find? id = some r ∧
        r.stage = .waiting ∧ status.request = r.status.request ∧ status.job = r.status.job := by
    rw [startNext_fst] at hstatus
    obtain ⟨id, hid, hfind⟩ := List.mem_filterMap.1 hstatus
    obtain ⟨r, hr, hwaiting⟩ := find?_of_mem_claimedIds hid
    rw [hr] at hfind
    cases hfind
    exact ⟨id, hid, r, hr, hwaiting, (started_moves now r).request, job_started now r⟩
  refine ⟨hserved.ledger, ?_, ?_, ?_⟩
  · rw [List.map_append, List.nodup_append]
    refine ⟨h.nodup, ?_, ?_⟩
    · rw [startNext_fst, List.Nodup, List.pairwise_map, List.pairwise_filterMap]
      refine (l.registry.nodup_claimedIds n).imp ?_
      intro id id' hne status hstatus status' hstatus' hrequest
      obtain ⟨r, hr, rfl⟩ := Option.map_eq_some_iff.1 hstatus
      obtain ⟨r', hr', rfl⟩ := Option.map_eq_some_iff.1 hstatus'
      rw [(started_moves now r).request, (started_moves now r').request] at hrequest
      exact hne (h.id_eq hr hr' hrequest)
    · intro a ha b hb hab
      obtain ⟨status, hstatus, rfl⟩ := List.mem_map.1 hb
      obtain ⟨id, -, r, hr, hwaiting, hrequest, -⟩ := hclaimed status hstatus
      exact h.unclaimed id r hr hwaiting (hrequest ▸ hab ▸ ha)
  · intro status hstatus
    rcases List.mem_append.1 hstatus with hold | hnew
    · exact h.stamped status hold
    · obtain ⟨id, -, r, hr, -, hrequest, hjob⟩ := hclaimed status hnew
      rw [hrequest, hjob]
      exact h.record_stamped hr
  · intro id r hr hwaiting hmem
    have hfind := find?_startNext now n l.registry id
    rw [show (l.registry.startNext now n).2.records.find? id = some r from hr] at hfind
    split at hfind
    next hid =>
      -- A claimed job does not wait any more.
      obtain ⟨r₀, hr₀, hwaiting₀⟩ := find?_of_mem_claimedIds hid
      rw [hr₀, Option.map_some, started_eq, if_pos hwaiting₀] at hfind
      cases hfind
      cases hwaiting
    next hid =>
      rw [List.map_append, List.mem_append] at hmem
      rcases hmem with hold | hnew
      · exact h.unclaimed id r hfind.symm hwaiting hold
      · obtain ⟨status, hstatus, heq⟩ := List.mem_map.1 hnew
        obtain ⟨id', hid', r', hr', -, hrequest, -⟩ := hclaimed status hstatus
        rw [heq] at hrequest
        exact hid (h.id_eq hfind.symm hr' hrequest ▸ hid')

end

end Logged

end Registry

end JobScheduling
