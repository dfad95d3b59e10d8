import JobScheduling.Proofs.Registry.CalledOff
import JobScheduling.Proofs.Registry.Eviction
import JobScheduling.Proofs.Registry.Transcript

/-!
# `JobScheduling.Proofs.Registry.Retention`: how long an ended record is kept

A record has lapsed (`Registry.Lapsed`) when its job has ended, and more than the retention lies
between now and two events of the transcript: the end of the job, and the last time a client
submitted it or asked for it. `Dated.expires_iff` shows that these are the records that a purge
finds expired, since the stamps they carry agree with the transcript.

`Retains` says what a single request then does about lapsed records, whether it purges or not, and
`Dated.retains` shows it for every registry whose stamps are right. For a record that a client keeps
asking for, the time of the last check is never further back than the retention, so no purge finds
it expired. `found_run` carries such a record through requests of others, and `found_visits` from
one visit of its client to the next.
-/

set_option autoImplicit false

namespace JobScheduling

/-- An ended record expires by the later of two times. -/
theorem Record.isExpired_iff {r : Record} {ended : Nat} (h : r.status.completedAt = some ended)
    (now keep : Nat) : r.isExpired now keep = true ↔
      r.isFinal = true ∧ keep < now - ended ∧ keep < now - r.lastCheck := by
  have haccess : r.lastAccess = max ended r.lastCheck := by
    rw [lastAccess, h]
  rw [isExpired, Bool.and_eq_true, decide_eq_true_eq, haccess, elapsed]
  refine and_congr_right fun _ => ?_
  omega

namespace Registry

/-- The job has ended, and more than the retention has passed since then, and since a client last
submitted it or asked for it. -/
def Lapsed (log : List Turn) (retention : Option Nat) (now : Nat) (id : String) (r : Record) :
    Prop :=
  r.isFinal = true ∧ ∃ keep ended asked, retention = some keep ∧
    lastTime (Turn.ends id) log = some ended ∧ keep < now - ended ∧
    lastTime (Turn.touches id) log = some asked ∧ keep < now - asked

section
variable {log : List Turn} {q : Registry} {id : String} {r : Record}

/-- A purge finds those records expired that have lapsed. -/
theorem Dated.expires_iff (h : Dated log q) (hkeyed : q.Keyed)
    (hr : q.records.find? id = some r) (now : Nat) :
    q.expires now r = true ↔ Lapsed log q.retention now id r := by
  have hasked := h.asked id r hr
  have hended := h.ended id r hr
  have hstamped := (hkeyed id r hr).2.completed
  simp only [expires, Lapsed, Option.any_eq_true]
  -- The stamps of the record are those two times of the log.
  constructor
  · rintro ⟨keep, hkeep, hexpired⟩
    have hfinal : r.isFinal = true := (Bool.and_eq_true_iff.1 hexpired).1
    obtain ⟨ended, he⟩ := Option.isSome_iff_exists.1 (hstamped.2 hfinal)
    obtain ⟨-, hend, hcheck⟩ := (Record.isExpired_iff he now keep).1 hexpired
    exact ⟨hfinal, keep, ended, r.lastCheck, hkeep, (hended hfinal).trans he, hend, hasked, hcheck⟩
  · rintro ⟨hfinal, keep, ended, asked, hkeep, he, hend, ha, hcheck⟩
    rw [hended hfinal] at he
    rw [hasked, Option.some.injEq] at ha
    subst ha
    exact ⟨keep, hkeep, (Record.isExpired_iff he now keep).2 ⟨hfinal, hend, hcheck⟩⟩

end

/-! ### A purge -/

/-- What a purge at a time makes of a registry. -/
structure Purges (now : Nat) (q q' : Registry) : Prop where
  expired : ∀ id r, q.records.find? id = some r → q.expires now r = true →
    r.isFinal = true ∧ q'.records.find? id = none
  kept : ∀ id r, q.records.find? id = some r → q.expires now r = false →
    q'.records.find? id = some r
  missing : ∀ id, q.records.find? id = none → q'.records.find? id = none
  counters : q' = { q with records := q'.records }

/-- A purge drops the expired records and nothing else. -/
theorem purges_purge (now : Nat) (q : Registry) : Purges now q (q.purge now) where
  expired id r hr hexpires := by
    refine ⟨?_, ?_⟩
    · by_contra hopen
      rw [expires_eq_false (Bool.not_eq_true _ ▸ hopen)] at hexpires
      cases hexpires
    · rw [find?_purge, hr, Option.filter_some, hexpires]
      rfl
  kept id r hr hexpires := by
    rw [find?_purge, hr, Option.filter_some, hexpires]
    rfl
  missing id hr := by
    rw [find?_purge, hr]
    rfl
  counters := by
    obtain ⟨records, hpurge⟩ := purge_eq now q
    rw [hpurge]

/-- A second purge at the same time finds nothing. -/
@[simp]
theorem purge_purge (now : Nat) (q : Registry) : (q.purge now).purge now = q.purge now := by
  refine purge_eq_self fun id r hr => ?_
  rw [expires_congr (retention_purge now q)]
  exact expires_of_find?_purge hr

/-- A purge removes as many records as it says. -/
theorem expiredCount_eq (now : Nat) (q : Registry) : q.expiredCount now
    = q.records.keys.countP fun id => !(q.purge now).records.contains id := by
  -- The records that went are counted under their keys, and the counter takes the difference of the
  -- sizes.
  have hkeys : (q.records.keys.countP fun id => !(q.purge now).records.contains id)
      = q.records.keys.countP fun id => (q.records.find? id).any (q.expires now) := by
    refine List.countP_congr fun id hid => ?_
    obtain ⟨r, hr⟩ := Option.isSome_iff_exists.1 ((Table.contains_iff _ _).2 hid)
    rw [Table.contains, find?_purge, hr]
    cases hexpires : q.expires now r <;> simp [Option.filter_some, hexpires]
  have hsplit := q.records.values.length_eq_countP_add_countP (q.expires now)
  have hleft : (q.purge now).records.size
      = q.records.values.countP fun r => decide ¬q.expires now r = true := by
    rw [← length_held, held, numbers_purge, length_numbers]
    simp
  rw [hkeys, Table.countP_keys, expiredCount, hleft, ← Table.length_values]
  omega

/-- The hidden purge of a request is one that could have been asked for before it. -/
theorem serve_purge (scan : Scan) (now : Nat) {request : Request} (q : Registry)
    (hp : request.purges = true) (hne : request ≠ .purge) :
    q.serve scan now request = (q.purge now).serve scan now request := by
  cases request with
  | add | cancelOverdue | toCancel =>
    simp only [serve, add, cancelOverdue, toCancel, purge_purge]
  | purge => exact absurd rfl hne
  | get | start | startNext | done | fail | cancel | sinceCheck => cases hp

/-- No record is expired after a request that purges. -/
theorem purge_serve (scan : Scan) (now : Nat) {request : Request} (q : Registry)
    (hp : request.purges = true) :
    (q.serve scan now request).2.purge now = (q.serve scan now request).2 := by
  cases request with
  | add job =>
    refine purge_eq_self fun id r hr => ?_
    have hretention : (q.serve scan now (.add job)).2.retention = q.retention :=
      retention_add now job q
    have hadd : (q.add now job).2.records.find? id = some r := hr
    rw [expires_congr hretention]
    rw [find?_add] at hadd
    split at hadd
    next =>
      -- A job that was just recorded has not ended.
      cases hadd
      exact expires_eq_false rfl
    next => exact expires_of_find?_purge hadd
  | cancelOverdue timeout abandoned reason =>
    exact purge_cancelOverdue scan now timeout abandoned reason q
  | toCancel | purge => exact purge_purge now q
  | get | start | startNext | done | fail | cancel | sinceCheck => cases hp

/-! ### One request -/

/-- What a purge removes, and what it leaves as it was. -/
structure Drops (log : List Turn) (now : Nat) (q : Registry) (count : Nat) (q' : Registry) :
    Prop where
  lapsed : ∀ id r, q.records.find? id = some r → Lapsed log q.retention now id r →
    q'.records.find? id = none
  kept : ∀ id r, q.records.find? id = some r → ¬ Lapsed log q.retention now id r →
    q'.records.find? id = some r
  missing : ∀ id, q.records.find? id = none → q'.records.find? id = none
  counters : q' = { q with records := q'.records }
  number : count = q.records.keys.countP fun id => !q'.records.contains id

/-- What a request does about the records that have lapsed. -/
structure Retains (scan : Scan) (log : List Turn) (now : Nat) (request : Request) (q : Registry) :
    Prop where
  /-- A record stays, unless the request purges and the record has lapsed. -/
  kept : ∀ id r, q.records.find? id = some r →
    ¬ (request.purges = true ∧ Lapsed log q.retention now id r) →
    ∃ r', (q.serve scan now request).2.records.find? id = some r' ∧ r.Evolves r'
  /-- A record that has lapsed is gone, and what lies under its id then is a new record. -/
  forgotten : ∀ id r, q.records.find? id = some r → request.purges = true →
    Lapsed log q.retention now id r → ∀ r',
    (q.serve scan now request).2.records.find? id = some r' → q.requests < r'.status.request
  /-- Without a retention every record stays. -/
  forever : q.retention = none → ∀ id r, q.records.find? id = some r →
    ∃ r', (q.serve scan now request).2.records.find? id = some r' ∧ r.Evolves r'
  /-- Who asks for a purge is told how many records it removes. -/
  purge : ∃ count, q.serve scan now .purge = (.count count, q.purge now) ∧
    Drops log now q count (q.purge now)
  /-- The purge that is part of another request is the same. -/
  hidden : request.purges = true → request ≠ .purge →
    q.serve scan now request = (q.purge now).serve scan now request
  noneLeft : request.purges = true → ∀ id r',
    (q.serve scan now request).2.records.find? id = some r' →
    ¬ Lapsed (log ++ [q.turn scan now request]) q.retention now id r'
  again : request.purges = true → ∀ scan' : Scan,
    (q.serve scan now request).2.serve scan' now .purge
      = (.count 0, (q.serve scan now request).2)

section
variable {log : List Turn} {q : Registry}

/-- A purge drops the lapsed records and counts them. -/
theorem Dated.drops (h : Dated log q) (hkeyed : q.Keyed) (now : Nat) :
    Drops log now q (q.expiredCount now) (q.purge now) := by
  have hpurges := purges_purge now q
  refine ⟨fun id r hr hlapsed => ?_, fun id r hr hlapsed => ?_, hpurges.missing,
    hpurges.counters, expiredCount_eq now q⟩
  · exact (hpurges.expired id r hr ((h.expires_iff hkeyed hr now).2 hlapsed)).2
  · refine hpurges.kept id r hr (Bool.eq_false_iff.2 fun hexpires => ?_)
    exact hlapsed ((h.expires_iff hkeyed hr now).1 hexpires)

/-- Where the stamps of the records are right, a request removes what has lapsed and nothing
else. -/
theorem Dated.retains (h : Dated log q) (hbooked : q.Booked) (scan : Scan) (now : Nat)
    (request : Request) : Retains scan log now request q := by
  have hkeyed := hbooked.keyed
  have hkept : ∀ id r, q.records.find? id = some r →
      ¬ (request.purges = true ∧ Lapsed log q.retention now id r) →
      ∃ r', (q.serve scan now request).2.records.find? id = some r' ∧ r.Evolves r' := by
    intro id r hr hlapsed
    rcases evolves_or_purges scan now request hkeyed hr with ⟨hp, hexpires⟩ | hlater
    · -- A record that expires has lapsed, by the log: that is the case left out.
      rw [hr, Option.any_some, h.expires_iff hkeyed hr now] at hexpires
      exact absurd ⟨hp, hexpires⟩ hlapsed
    · exact hlater
  refine ⟨hkept, ?forgotten, ?forever, ⟨_, rfl, h.drops hkeyed now⟩, serve_purge scan now q,
    ?noneLeft, ?again⟩
  case forgotten =>
    intro id r hr hp hlapsed r' hr'
    have hgone := ((h.drops hkeyed now).lapsed id r hr hlapsed)
    by_cases hne : request = .purge
    · subst hne
      have hr'' : (q.purge now).records.find? id = some r' := hr'
      rw [hgone] at hr''
      cases hr''
    · -- The request finds nothing under the id, so it has recorded what lies there.
      rw [serve_purge scan now q hp hne] at hr'
      have hfate := serve_fate scan now request (q.purge now) id
      rw [hgone, hr'] at hfate
      cases hfate
      exact (requests_purge now q).symm ▸ Nat.lt_succ_self _
  case forever =>
    intro hretention id r hr
    refine hkept id r hr ?_
    rintro ⟨-, -, keep, -, -, hkeep, -⟩
    rw [hretention] at hkeep
    cases hkeep
  case noneLeft =>
    intro hp id r' hr'
    have hlapsed := (h.serve hkeyed scan now request).expires_iff
      -- What the request leaves behind is dated as well, so there lapsing is expiring.
      (hbooked.serve scan now request).keyed hr' now
    rw [retention_serve] at hlapsed
    rw [← purge_serve scan now q hp] at hr'
    rw [← hlapsed, expires_of_find?_purge hr']
    exact Bool.false_ne_true
  case again =>
    intro hp scan'
    have hpurge := purge_serve scan now q hp
    show (Answer.count (expiredCount now _), purge now _) = _
    rw [expiredCount, hpurge, Nat.sub_self]

end

/-! ### A client that keeps asking -/

/-- What clients were answered that asked for the job under an id. -/
def answersFor (id : String) (log : List Turn) : List Answer :=
  (log.filter fun t => t.request = .get id true).map Turn.answer

/-- What happens until a client asks for its job, and when it asks. -/
structure Visit where
  others : List (Nat × Request)
  time : Nat

/-- The requests around some visits of the client of a job. -/
def visits (id : String) (vs : List Visit) : List (Nat × Request) :=
  vs.flatMap fun v => v.others ++ [(v.time, .get id true)]

section
variable {scan : Scan} {q : Registry} {id : String} {r : Record}

/-- Answers that come later come after the first ones. -/
theorem answersFor_append (id : String) (log later : List Turn) :
    answersFor id (log ++ later) = answersFor id log ++ answersFor id later := by
  rw [answersFor, List.filter_append, List.map_append]
  rfl

/-- A client that asks for a recorded job is told its status, and the record is stamped. -/
theorem serve_get (hr : q.records.find? id = some r) (scan : Scan) (now : Nat) :
    (q.serve scan now (.get id true)).1 = .status r.status ∧
      (q.serve scan now (.get id true)).2.records.find? id = some (r.checked now) := by
  constructor
  · simp only [serve, get, hr, Answer.of]
  · have hget := find?_get now id true q id
    rw [if_pos ⟨rfl, rfl⟩, hr] at hget
    exact hget

/-- Those who ask for a job during some requests find what its record has become by then. -/
structure Finds (scan : Scan) (requests : List (Nat × Request)) (id : String) (q : Registry)
    (r : Record) (found : List Record) (r' : Record) : Prop where
  record : (q.run scan requests).records.find? id = some r'
  answers : answersFor id (turns scan requests q) = found.map fun r => .status r.status
  evolve : (r :: (found ++ [r'])).Pairwise Record.Evolves

/-- What is found in two parts of a run is found in the run. -/
theorem Finds.append {requests later : List (Nat × Request)} {found found' : List Record}
    {r' r'' : Record} (h : Finds scan requests id q r found r')
    (h' : Finds scan later id (q.run scan requests) r' found' r'') :
    Finds scan (requests ++ later) id q r (found ++ found') r'' where
  record := by
    rw [run_append]
    exact h'.record
  answers := by
    rw [turns_append, answersFor_append, h.answers, h'.answers, List.map_append]
  evolve := by
    have hbefore := h.evolve
    obtain ⟨hlater, hafter⟩ := List.pairwise_cons.1 h'.evolve
    rw [← List.cons_append, List.pairwise_append] at hbefore
    rw [List.append_assoc, ← List.cons_append, List.pairwise_append]
    -- What is found later evolves from the record that the first part leaves.
    refine ⟨hbefore.1, hafter, fun x hx y hy => ?_⟩
    exact (hbefore.2.2 x hx r' (List.mem_singleton_self r')).trans (hlater y hy)

/-- A record whose last check does not lie further back than the retention stays, and who asks for
it finds it. -/
theorem found_serve (hkeyed : q.Keyed) (hr : q.records.find? id = some r) {now : Nat}
    (hpast : r.lastCheck ≤ now) (hin : ∀ keep, q.retention = some keep → now ≤ r.lastCheck + keep)
    (scan : Scan) (request : Request) :
    ∃ found r', Finds scan [(now, request)] id q r found r' ∧
      r.lastCheck ≤ r'.lastCheck ∧ r'.lastCheck ≤ now := by
  -- The record was checked too lately for any purge of this request to take it.
  have hnot : ¬ q.expires now r = true := fun hexpires => by
    obtain ⟨keep, hkeep, hlong⟩ := lt_of_expires hexpires
    have hle := hin keep hkeep
    rw [elapsed] at hlong
    omega
  have hfate := serve_fate scan now request q id
  rw [hr] at hfate
  generalize hr' : (q.serve scan now request).2.records.find? id = after at hfate
  cases hfate with
  | purged _ he | replaced he => exact absurd he hnot
  | @moved _ r' m =>
    -- It was only moved. If the request checks it, it is found and tells its state.
    have hevolves := m.evolves (hkeyed id r hr).2
    obtain ⟨hle, hle'⟩ := m.lastCheck_le hpast
    by_cases hget : request = .get id true
    · subst hget
      obtain ⟨hanswer, hchecked⟩ := serve_get hr scan now
      rw [hchecked] at hr'
      cases hr'
      refine ⟨[r.checked now], _, ⟨hchecked, ?_, ?_⟩, hle, hle'⟩
      · simp [answersFor, turns, turn, hanswer, Record.checked]
      · simp [hevolves, Record.Evolves.refl]
    · refine ⟨[], r', ⟨hr', ?_, ?_⟩, hle, hle'⟩
      · simp [answersFor, turns, turn, hget]
      · simpa using hevolves

/-- A record stays during requests that come while its last check does not lie further back than
the retention. -/
theorem found_run (hkeyed : q.Keyed) (hr : q.records.find? id = some r) {clock limit : Nat}
    {requests : List (Nat × Request)} (hpast : r.lastCheck ≤ clock)
    (hclock : (clock :: requests.map Prod.fst).Pairwise (· ≤ ·))
    (hlimit : ∀ t ∈ clock :: requests.map Prod.fst, t ≤ limit)
    (hin : ∀ keep, q.retention = some keep → limit ≤ r.lastCheck + keep) :
    ∃ found r', Finds scan requests id q r found r' ∧
      r.lastCheck ≤ r'.lastCheck ∧ r'.lastCheck ≤ limit := by
  induction requests generalizing q r clock with
  | nil =>
    refine ⟨[], r, ⟨hr, rfl, ?_⟩, Nat.le_refl _, hpast.trans (hlimit clock List.mem_cons_self)⟩
    simpa using Record.Evolves.refl r
  | cons first rest ih =>
    obtain ⟨now, request⟩ := first
    obtain ⟨hnow, hrest⟩ := List.pairwise_cons.1 hclock
    have hle : now ≤ limit := hlimit now (List.mem_cons_of_mem _ List.mem_cons_self)
    obtain ⟨found, r', hfound, hchecked, hpast'⟩ := found_serve hkeyed hr
      (hpast.trans (hnow now List.mem_cons_self)) (fun keep hkeep => hle.trans (hin keep hkeep))
      scan request
    -- The retention is counted from a check that is not earlier than the one before.
    obtain ⟨found', r'', hfound', hchecked', hpast''⟩ := ih (keyed_serve scan now request hkeyed)
      hfound.record hpast' hrest (fun t ht => hlimit t (List.mem_cons_of_mem _ ht))
      (fun keep hkeep => by
        rw [retention_serve] at hkeep
        have hkept := hin keep hkeep
        omega)
    exact ⟨found ++ found', r'', hfound.append hfound', hchecked.trans hchecked', hpast''⟩

/-- A client that asks for its job again within the retention finds it at each visit. -/
theorem found_visits (hkeyed : q.Keyed) {retention : Option Nat}
    (hretention : q.retention = retention)
    (hr : q.records.find? id = some r) {last : Nat} (hlast : r.lastCheck = last) {vs : List Visit}
    (hclock : (last :: (visits id vs).map Prod.fst).Pairwise (· ≤ ·))
    (hvisits : (last :: vs.map Visit.time).IsChain fun t t' =>
      ∀ keep, retention = some keep → t' ≤ t + keep) :
    ∃ found r', Finds scan (visits id vs) id q r found r' := by
  induction vs generalizing q r last with
  | nil => exact ⟨[], r, hr, rfl, by simpa using Record.Evolves.refl r⟩
  | cons v vs ih =>
    obtain ⟨others, time⟩ := v
    subst hlast hretention
    obtain ⟨hgap, hgaps⟩ := List.isChain_cons_cons.1 hvisits
    simp only [visits, List.flatMap_cons, List.map_append, List.append_assoc, List.map_cons,
      List.singleton_append] at hclock
    rw [← List.cons_append, List.pairwise_append] at hclock
    obtain ⟨hbefore, hafter, hcross⟩ := hclock
    have hlimit : ∀ t ∈ r.lastCheck :: others.map Prod.fst, t ≤ time :=
      fun t ht => hcross t ht time List.mem_cons_self
    -- The record outlasts the requests of the others, and then the client finds it.
    obtain ⟨found₁, r₁, hfound₁, hchecked₁, hpast₁⟩ :=
      found_run hkeyed hr (Nat.le_refl _) hbefore hlimit hgap
    have hkeyed₁ := keyed_run scan others hkeyed
    have hin : ∀ keep, (q.run scan others).retention = some keep → time ≤ r₁.lastCheck + keep := by
      intro keep hkeep
      rw [retention_run] at hkeep
      exact (hgap keep hkeep).trans (Nat.add_le_add_right hchecked₁ keep)
    obtain ⟨found₂, r₂, hfound₂, -, -⟩ :=
      found_serve hkeyed₁ hfound₁.record hpast₁ hin scan (.get id true)
    have hstamped : r₂.lastCheck = time := by
      have hrecord : some (r₁.checked time) = some r₂ :=
        (serve_get hfound₁.record scan time).2.symm.trans hfound₂.record
      rw [← Option.some.inj hrecord]
      rfl
    obtain ⟨found₃, r₃, hfound₃⟩ := ih (keyed_run scan [(time, .get id true)] hkeyed₁)
      (by simp only [retention_run]) hfound₂.record hstamped hafter hgaps
    have hvisit := hfound₁.append hfound₂
    rw [← run_append] at hfound₃
    exact ⟨found₁ ++ found₂ ++ found₃, r₃, hvisit.append hfound₃⟩

/-- A job that was touched is recorded, and its record was stamped. -/
theorem exists_of_touches {now : Nat} {request : Request}
    (h : (q.turn scan now request).touches id = true) :
    ∃ r, (q.serve scan now request).2.records.find? id = some r ∧ r.lastCheck = now := by
  -- A record is touched by the submission that adds it, or by a look that finds it.
  have hsome : ∃ r, (q.serve scan now request).2.records.find? id = some r := by
    cases request with
    | add job =>
      exact ⟨_, (find?_add now job q id).trans (if_pos ((touches_add scan now q job).1 h))⟩
    | get k external =>
      obtain ⟨rfl, rfl, hfound⟩ := (touches_get scan now q k external).1 h
      obtain ⟨r, hr⟩ := Option.isSome_iff_exists.1 hfound
      exact ⟨_, (serve_get hr scan now).2⟩
    | start | startNext | done | fail | cancel | cancelOverdue | toCancel | purge | sinceCheck =>
      cases h
  obtain ⟨r, hr⟩ := hsome
  have hcheck := lastCheck_serve scan now request q hr
  rw [if_pos h] at hcheck
  exact ⟨r, hr, hcheck⟩

end

/-- What becomes of ended records, in every registry that any requests at any times have made of an
empty one. A request removes a record only if it purges, and then exactly the records that have
lapsed, whose jobs have ended and were not asked for within the retention. Whatever else it does, it
does after the purge, and a second purge at the same time finds nothing. A client that has submitted
its job or asked for it, and asks again within the retention each time, under a clock that does not
go back, is always told the status of one record that evolves. Once its job has ended, it is told
the same status ever after. -/
theorem run_retention (scan : Scan) (retention : Option Nat) (requests : List (Nat × Request))
    (now : Nat) (request : Request) :
    let q := run scan requests { retention }
    Retains scan (turns scan requests { retention }) now request q ∧
      ∀ id vs, (q.turn scan now request).touches id = true →
        (now :: (visits id vs).map Prod.fst).Pairwise (· ≤ ·) →
        (now :: vs.map Visit.time).IsChain
          (fun t t' => ∀ keep, retention = some keep → t' ≤ t + keep) →
        ∃ r found r', (q.turn scan now request).after.records.find? id = some r ∧
          Finds scan (visits id vs) id (q.turn scan now request).after r found r' := by
  intro q
  have hbooked : q.Booked := booked_run scan requests (booked_empty retention)
  refine ⟨(dated_run scan retention requests).retains hbooked scan now request, ?_⟩
  intro id vs htouches hclock hvisits
  -- The record was touched just now. From there its client comes back in time, again and again.
  obtain ⟨r, hr, hstamped⟩ := exists_of_touches htouches
  have hretention : (q.serve scan now request).2.retention = retention := by
    rw [retention_serve, retention_run]
  obtain ⟨found, r', hfound⟩ := found_visits (keyed_serve scan now request hbooked.keyed)
    hretention hr hstamped hclock hvisits
  exact ⟨r, found, r', hr, hfound⟩

/-- A client asks for its job after the end, and then twice within ten milliseconds, while others
purge the registry. -/
theorem run_retention_twoVisits :
    let requests : List (Nat × Request) :=
      [(0, .add { id := "a", submittedAt := 0 }), (5, .done "a" ⟨"u", "f", "m"⟩)]
    let vs : List Visit := [⟨[(9, .toCancel), (17, .purge)], 18⟩, ⟨[(27, .purge)], 28⟩]
    let q := run id requests { retention := some 10 }
    (q.turn id 8 (.get "a" true)).touches "a" = true ∧
      (8 :: (visits "a" vs).map Prod.fst).Pairwise (· ≤ ·) ∧
      (8 :: vs.map Visit.time).IsChain (fun t t' => ∀ keep, some 10 = some keep → t' ≤ t + keep) ∧
      Retains id (turns id requests { retention := some 10 }) 8 (.get "a" true) q ∧
      ∃ r found r', (q.turn id 8 (.get "a" true)).after.records.find? "a" = some r ∧
        Finds id (visits "a" vs) "a" (q.turn id 8 (.get "a" true)).after r found r' := by
  intro requests vs q
  have htouches : (q.turn id 8 (.get "a" true)).touches "a" = true := by decide +kernel
  have hclock : (8 :: (visits "a" vs).map Prod.fst).Pairwise (· ≤ ·) := by decide +kernel
  have hvisits : (8 :: vs.map Visit.time).IsChain
      (fun t t' => ∀ keep, some 10 = some keep → t' ≤ t + keep) := by
    simp [vs]
  obtain ⟨hretains, hfinds⟩ := run_retention id (some 10) requests 8 (.get "a" true)
  exact ⟨htouches, hclock, hvisits, hretains, hfinds "a" vs htouches hclock hvisits⟩

end Registry

end JobScheduling
