import JobScheduling.Proofs.Registry.Lifecycle
import Mathlib.Data.List.Perm.Basic

/-!
# `JobScheduling.Proofs.Registry.Entries`: what a request changes in the counts

The records are counted by their numbers: `Registry.numbers p` lists the numbers of the
records that pass a test, and `Registry.newly p q q'` those that pass it in `q'` and did not
in `q`.

`Entries q q' added ended done` says what a part of a request does to the counters and to
these lists. It composes (`Entries.trans`), so a visit of many records is a chain of updates.

* `entries_update`: an update enters its record once, when it ends by the update. Every
  operation but the purge and the new record reduces to it.
* `entries_serve`: the entries of a whole request, counted from the registry after the purge
  that may come first (`prepared`).
* `Entries.newly_isFinal_perm` and its two companions: the lists that are entered are those
  that `newly` reads off the registry before and after the request.
-/

set_option autoImplicit false

namespace JobScheduling

namespace Record

/-- Whether the job has not ended. -/
def isOpen (r : Record) : Bool := !r.isFinal

/-- Whether the work of the job ended with a report. -/
def isDone (r : Record) : Bool := r.stage == .done

/-- What is done has ended. -/
theorem isFinal_of_isDone {r : Record} (h : r.isDone = true) : r.isFinal = true := by
  rw [isFinal_of_stage (beq_iff_eq.1 h)]
  rfl

/-- A move of a record that has ended is a status check. -/
theorem Moves.stage_of_isFinal {now : Nat} {r r' : Record} (m : r.Moves now r')
    (h : r.isFinal = true) : r'.stage = r.stage := by
  induction m with
  | refl => rfl
  | tail _ m ih =>
    rw [isFinal, ← ih] at h
    -- No other move starts from a final stage.
    cases m with
    | check => exact ih
    | start hr | stop hr | conclude _ hr =>
      rw [hr] at h
      cases h
    | ask _ hr => rcases hr with hr | hr <;> rw [hr] at h <;> cases h

end Record

namespace Registry

/-! ### The numbers of the records -/

/-- The numbers of the records that pass a test. -/
def numbers (p : Record → Bool) (q : Registry) : List Nat :=
  (q.records.values.filter p).map (·.status.request)

/-- The numbers of all records. -/
abbrev held (q : Registry) : List Nat := q.numbers fun _ => true

/-- The numbers of the records that pass a test in the second registry and not in the
first. -/
def newly (p : Record → Bool) (q q' : Registry) : List Nat :=
  (q'.numbers p).filter fun n => n ∉ q.numbers p

/-- A number is listed if its record passes the test. -/
theorem mem_numbers {p : Record → Bool} {q : Registry} {n : Nat} :
    n ∈ q.numbers p ↔ ∃ id r, q.records.find? id = some r ∧ p r = true ∧ r.status.request = n := by
  simp only [numbers, List.mem_map, List.mem_filter, Table.values, Table.find?_eq_some_iff]
  constructor
  · rintro ⟨r, ⟨⟨⟨id, r'⟩, hrow, rfl⟩, hp⟩, hn⟩
    exact ⟨id, r', hrow, hp, hn⟩
  · rintro ⟨id, r, hrow, hp, hn⟩
    exact ⟨r, ⟨⟨(id, r), hrow, rfl⟩, hp⟩, hn⟩

/-- As many numbers are listed as records pass the test. -/
theorem length_numbers (p : Record → Bool) (q : Registry) :
    (q.numbers p).length = q.records.values.countP p := by
  rw [numbers, List.length_map, List.countP_eq_length_filter]

/-- Each record that is held has a number. -/
theorem length_held (q : Registry) : q.held.length = q.records.size := by
  simp [numbers, Table.values, Table.size]

/-- The numbers that pass a test are among those of all records. -/
theorem numbers_sublist (p : Record → Bool) (q : Registry) : (q.numbers p).Sublist q.held := by
  have hall : q.held = q.records.values.map (·.status.request) := by simp [numbers]
  rw [hall]
  exact List.filter_sublist.map _

/-- Each record that passes one test passes a further one or does not. -/
theorem numbers_split_perm (p s : Record → Bool) (q : Registry) :
    (q.numbers p).Perm ((q.numbers fun r => s r && p r) ++ q.numbers fun r => !s r && p r) := by
  have hsplit := (List.filter_append_perm s (q.records.values.filter p)).symm.map
    fun r : Record => r.status.request
  rw [List.map_append, List.filter_filter, List.filter_filter] at hsplit
  exact hsplit

/-- Every record has ended or has not. -/
theorem held_perm (q : Registry) :
    q.held.Perm (q.numbers Record.isFinal ++ q.numbers Record.isOpen) := by
  have hsplit := numbers_split_perm (fun _ => true) Record.isFinal q
  simp only [Bool.and_true] at hsplit
  exact hsplit

/-- A purge leaves the records that have not expired. -/
theorem numbers_purge (now : Nat) (p : Record → Bool) (q : Registry) :
    (q.purge now).numbers p = q.numbers fun r => !q.expires now r && p r := by
  simp only [purge, expires]
  cases hretention : q.retention with
  | none => simp [numbers]
  | some retention =>
    -- The test does not see the key, so it can be made on the values.
    have hvalues : (q.records.filter fun _ r => !r.isExpired now retention).values
        = q.records.values.filter fun r => !r.isExpired now retention := by
      simp only [Table.values, Table.filter, List.filter_map, Function.comp_def]
    simp only [numbers, hvalues, List.filter_filter, Option.any_some, Bool.and_comm]

/-- The numbers after the record under an id was replaced by one of the same number. -/
theorem numbers_modify_perm {q q' : Registry} {id : String} {old new : Record}
    (hold : q.records.find? id = some old) (hq : q'.records = q.records.modify id fun _ => new)
    (hnumber : new.status.request = old.status.request) (p : Record → Bool) :
    (q'.numbers p ++ if p old then [old.status.request] else []).Perm
      (q.numbers p ++ if p new then [old.status.request] else []) := by
  -- The other records are the rest, before and after. Each number is counted in both lists.
  obtain ⟨rest, hbefore, hafter⟩ := Table.exists_perm_modify hold fun _ => new
  have hbefore' := (hbefore.filter p).map fun r : Record => r.status.request
  have hafter' := (hafter.filter p).map fun r : Record => r.status.request
  rw [← hq] at hafter'
  rw [List.perm_iff_count] at hbefore' hafter' ⊢
  intro n
  have hb := hbefore' n
  have ha := hafter' n
  simp only [numbers, List.count_append] at hb ha ⊢
  rw [hb, ha, List.filter_cons, List.filter_cons]
  split <;> split <;> simp only [List.map_cons, List.count_cons, List.count_nil, hnumber] <;> omega

/-! ### Entries -/

/-- What the change from one registry to a later one enters into the books, when no record
is purged in between: the numbers that were given, those of the records that ended, and
those of the records that are done. -/
structure Entries (q q' : Registry) (added ended done : List Nat) : Prop where
  requests : q'.requests = q.requests + added.length
  completed : q'.completed = q.completed + ended.length
  doneCount : q'.doneCount = q.doneCount + done.length
  /-- The durations are added up as far as the range goes. -/
  doneTime : q.doneTime ≤ maxWord → q.doneTime ≤ q'.doneTime ∧ q'.doneTime ≤ maxWord
  held : q'.held.Perm (q.held ++ added)
  opened : (q'.numbers Record.isOpen ++ ended).Perm (q.numbers Record.isOpen ++ added)
  final : (q'.numbers Record.isFinal).Perm (q.numbers Record.isFinal ++ ended)
  isDone : (q'.numbers Record.isDone).Perm (q.numbers Record.isDone ++ done)
  /-- Who is done has ended. -/
  done_subset : done ⊆ ended

/-- To do nothing enters nothing. -/
theorem Entries.refl (q : Registry) : Entries q q [] [] [] where
  requests := rfl
  completed := rfl
  doneCount := rfl
  doneTime h := ⟨Nat.le_refl _, h⟩
  held := by simp
  opened := by simp
  final := by simp
  isDone := by simp
  done_subset := List.Subset.refl _

/-- The entries of two parts are those of both. -/
theorem Entries.trans {q q' q'' : Registry} {added ended done added' ended' done' : List Nat}
    (h : Entries q q' added ended done) (h' : Entries q' q'' added' ended' done') :
    Entries q q'' (added ++ added') (ended ++ ended') (done ++ done') where
  requests := by rw [h'.requests, h.requests, List.length_append, Nat.add_assoc]
  completed := by rw [h'.completed, h.completed, List.length_append, Nat.add_assoc]
  doneCount := by rw [h'.doneCount, h.doneCount, List.length_append, Nat.add_assoc]
  doneTime hmax := by
    obtain ⟨hle, hmax'⟩ := h.doneTime hmax
    obtain ⟨hle', hmax''⟩ := h'.doneTime hmax'
    exact ⟨hle.trans hle', hmax''⟩
  held := by
    rw [← List.append_assoc]
    exact h'.held.trans (h.held.append_right _)
  opened := by
    have ho := h.opened
    have ho' := h'.opened
    -- The records opened first may have ended since, in either part: the multiplicities add up.
    rw [List.perm_iff_count] at ho ho' ⊢
    intro n
    have hn := ho n
    have hn' := ho' n
    simp only [List.count_append] at hn hn' ⊢
    omega
  final := by
    rw [← List.append_assoc]
    exact h'.final.trans (h.final.append_right _)
  isDone := by
    rw [← List.append_assoc]
    exact h'.isDone.trans (h.isDone.append_right _)
  done_subset := List.append_subset.2
    ⟨List.subset_append_of_subset_left _ h.done_subset,
      List.subset_append_of_subset_right _ h'.done_subset⟩

/-- The number of a record, once if the change from `old` to `new` makes a test true of a
record that had not ended. -/
def entry (p : Record → Bool) (old new : Record) : List Nat :=
  if !old.isFinal && p new then [old.status.request] else []

/-- A record is entered as done only together with its end. -/
theorem entry_isDone_subset (old new : Record) :
    entry Record.isDone old new ⊆ entry Record.isFinal old new := by
  simp only [entry]
  cases hdone : new.isDone with
  | false => simp
  | true =>
    rw [Record.isFinal_of_isDone hdone]
    exact List.Subset.refl _

/-- The counters after a change of one record. -/
theorem tally_counters (now : Nat) (old new : Record) (q : Registry) :
    (q.tally now old new).completed = q.completed + (entry Record.isFinal old new).length ∧
      (q.tally now old new).doneCount = q.doneCount + (entry Record.isDone old new).length ∧
      (q.doneTime ≤ maxWord → q.doneTime ≤ (q.tally now old new).doneTime ∧
        (q.tally now old new).doneTime ≤ maxWord) := by
  have hsub := entry_isDone_subset old new
  simp only [tally, entry] at hsub ⊢
  -- A record that had ended before is not counted again.
  cases hold : old.isFinal
  · cases hnew : new.isFinal
    · have hdone : new.isDone = false := by simpa [hold, hnew] using hsub
      simp [hdone]
    · simp only [Record.isDone, Bool.not_true, Bool.or_self, Bool.false_eq_true, if_false]
      split
      next hdone =>
        refine ⟨by simp, by simp [hdone], fun hmax => ⟨?_, capped_le _⟩⟩
        exact le_capped_iff.2 ⟨Nat.le_add_right _ _, hmax⟩
      next hdone => simp [hdone]
  · simp

section
variable {q q' : Registry} {id : String} {old new : Record}

/-- The numbers that pass a test after one record changed. The test is true of ended records
only, and a record that had ended passes as before. -/
theorem numbers_perm_entry (hold : q.records.find? id = some old)
    (hq : q'.records = q.records.modify id fun _ => new)
    (hnumber : new.status.request = old.status.request) {p : Record → Bool}
    (hfinal : p old = true → old.isFinal = true) (hsame : old.isFinal = true → p new = p old) :
    (q'.numbers p).Perm (q.numbers p ++ entry p old new) := by
  have hperm := numbers_modify_perm hold hq hnumber p
  -- An ended record passes the test before if and only if it does afterwards, and an open one did
  -- not pass.
  cases hf : old.isFinal with
  | true =>
    rw [hsame hf, List.perm_append_right_iff] at hperm
    simpa [entry, hf] using hperm
  | false =>
    have hp : p old = false := Bool.eq_false_iff.2 fun hp => by rw [hfinal hp] at hf; cases hf
    simpa [entry, hf, hp] using hperm

/-- The numbers of the open records after one record changed. -/
theorem open_perm_entry (hold : q.records.find? id = some old)
    (hq : q'.records = q.records.modify id fun _ => new)
    (hnumber : new.status.request = old.status.request)
    (hsame : old.isFinal = true → new.isFinal = true) :
    (q'.numbers Record.isOpen ++ entry Record.isFinal old new).Perm
      (q.numbers Record.isOpen) := by
  have hperm := numbers_modify_perm hold hq hnumber Record.isOpen
  -- The number leaves the open ones in the moment when the record ends.
  cases hf : old.isFinal with
  | true => simpa [entry, Record.isOpen, hf, hsame hf] using hperm
  | false =>
    cases hf' : new.isFinal with
    | true => simpa [entry, Record.isOpen, hf, hf'] using hperm
    | false =>
      simp only [Record.isOpen, hf, hf', Bool.not_false, if_true] at hperm
      simpa [entry, hf, hf', Record.isOpen] using (List.perm_append_right_iff _).1 hperm

end

/-- The entries of an update. Only the update that ends a record has one. -/
theorem entries_update {now : Nat} {f : Record → Except Error Record}
    (hf : ∀ r r', f r = .ok r' → r.Moves now r') (id : String) (q : Registry) :
    ∃ ended done, Entries q (q.update now id f).2 [] ended done := by
  simp only [update]
  split
  next => exact ⟨[], [], .refl q⟩
  next old hold =>
    split
    next => exact ⟨[], [], .refl q⟩
    next new hnew =>
      have hm := hf old new hnew
      have hnumber := hm.request
      -- The status of a record that had ended is as before.
      have hfinal (h : old.isFinal = true) : new.isFinal = old.isFinal :=
        congrArg Stage.isFinal (hm.stage_of_isFinal h)
      have hdone (h : old.isFinal = true) : new.isDone = old.isDone :=
        congrArg (· == Stage.done) (hm.stage_of_isFinal h)
      obtain ⟨hcompleted, hdoneCount, hdoneTime⟩ := tally_counters now old new
        { q with records := q.records.modify id fun _ => new }
      have hrecords := records_tally now old new
        { q with records := q.records.modify id fun _ => new }
      have hheld := (List.perm_append_right_iff _).1
        (numbers_modify_perm hold hrecords hnumber fun _ => true)
      have hopen := open_perm_entry hold hrecords hnumber fun h => (hfinal h).trans h
      exact ⟨entry Record.isFinal old new, entry Record.isDone old new,
        { requests := requests_tally ..
          completed := hcompleted
          doneCount := hdoneCount
          doneTime := hdoneTime
          held := by rwa [List.append_nil]
          opened := by rwa [List.append_nil]
          final := numbers_perm_entry hold hrecords hnumber (fun h => h) hfinal
          isDone := numbers_perm_entry hold hrecords hnumber Record.isFinal_of_isDone hdone
          done_subset := entry_isDone_subset old new }⟩

/-- The entries of updates under the ids of a list. -/
theorem entries_foldl_update {now : Nat} {f : Record → Except Error Record}
    (hf : ∀ r r', f r = .ok r' → r.Moves now r') (ids : List String) (q : Registry) :
    ∃ ended done, Entries q (ids.foldl (fun q id => (q.update now id f).2) q) [] ended done := by
  induction ids generalizing q with
  | nil => exact ⟨[], [], .refl q⟩
  | cons id ids ih =>
    obtain ⟨ended, done, hid⟩ := entries_update hf id q
    obtain ⟨ended', done', hids⟩ := ih (q.update now id f).2
    exact ⟨ended ++ ended', done ++ done', hid.trans hids⟩

/-- A status check is an update that nobody counts. -/
theorem snd_get (now : Nat) (id : String) (external : Bool) (q : Registry) :
    (q.get now id external).2
      = if external then (q.update now id fun r => .ok (r.checked now)).2 else q := by
  simp only [get, update]
  cases hr : q.records.find? id with
  | none => cases external <;> rfl
  | some r =>
    cases external with
    | false => rfl
    | true =>
      -- A check does not end the record, so no counter moves.
      have htally : r.isFinal || !(r.checked now).isFinal := by
        rw [Record.isFinal_of_stage (rfl : (r.checked now).stage = r.stage)]
        exact Bool.or_not_self _
      simp only [tally, htally, if_true]
      rw [Table.modify_congr hr]

/-- The entries of a new record. -/
theorem entries_insert (now : Nat) {job : Job} {q : Registry} (h : q.records.find? job.id = none) :
    Entries q
      { q with
        requests := q.requests + 1
        records := q.records.insert job.id (.new now job (q.requests + 1)) }
      [q.requests + 1] [] [] := by
  -- The new record is the last of the values.
  have hnumbers (p : Record → Bool) :
      numbers p { q with
          requests := q.requests + 1
          records := q.records.insert job.id (.new now job (q.requests + 1)) }
        = q.numbers p ++ if p (.new now job (q.requests + 1)) then [q.requests + 1] else [] := by
    simp only [numbers, Table.values_insert h, List.filter_append, List.map_append]
    cases hp : p (.new now job (q.requests + 1)) with
    | false => rw [List.filter_cons_of_neg (by simp [hp])]; rfl
    | true => rw [List.filter_cons_of_pos hp]; rfl
  exact
    { requests := rfl
      completed := rfl
      doneCount := rfl
      doneTime := fun hmax => ⟨Nat.le_refl _, hmax⟩
      held := .of_eq (hnumbers fun _ => true)
      opened := .of_eq ((List.append_nil _).trans (hnumbers Record.isOpen))
      final := .of_eq (hnumbers Record.isFinal)
      isDone := .of_eq (hnumbers Record.isDone)
      done_subset := List.Subset.refl _ }

/-! ### The entries of a request -/

/-- The registry after the purge with which some requests begin. -/
def prepared (now : Nat) (request : Request) (q : Registry) : Registry :=
  if request.purges then q.purge now else q

/-- The job that a request recorded, if its answer says so. -/
def Request.recorded : Request → Answer → List Job
  | .add job, .unit => [job]
  | _, _ => []

/-- The entries of a request, counted from the registry after the purge. Only a job that is
recorded is given a number, and it is the next one. -/
theorem entries_serve (scan : Scan) (now : Nat) (request : Request) (q : Registry) :
    ∃ ended done, Entries (q.prepared now request) (q.serve scan now request).2
      ((request.recorded (q.serve scan now request).1).map fun _ => q.requests + 1)
      ended done := by
  have canceled (reason : String) (immediate : Bool) :
      ∀ r r' : Record, Except.ok (r.cancel now reason immediate)
        = (.ok r' : Except Error Record) → r.Moves now r' := by
    rintro r _ ⟨⟩
    exact Record.cancel_moves now reason immediate r
  -- Every request is an update, a chain of updates, a purge, an addition, or nothing.
  cases request with
  | add job =>
    simp only [prepared, Request.purges, if_true, serve, add]
    cases hr : (q.purge now).records.find? job.id with
    | some r =>
      simp only [Table.contains, hr, Option.isSome_some, if_true]
      exact ⟨[], [], .refl _⟩
    | none =>
      have hnew := entries_insert now hr
      rw [requests_purge] at hnew
      simp only [Table.contains, hr, Option.isSome_none, Bool.false_eq_true, if_false,
        requests_purge]
      exact ⟨[], [], hnew⟩
  | get id external =>
    show ∃ ended done, Entries q (q.get now id external).2 [] ended done
    rw [snd_get]
    cases external with
    | false => exact ⟨[], [], .refl q⟩
    | true =>
      refine entries_update ?_ id q
      rintro r _ ⟨⟩
      exact .single .check
  | start id => exact entries_update (fun r r' => Record.start_moves) id q
  | startNext n => exact entries_foldl_update (fun r r' => Record.start_moves) _ q
  | done id report => exact entries_update (fun r r' => Record.finish_moves) id q
  | fail id cause => exact entries_update (fun r r' => Record.finish_moves) id q
  | cancel id reason immediate => exact entries_update (canceled reason immediate) id q
  | cancelOverdue timeout abandoned reason =>
    exact entries_foldl_update (canceled reason true) _ (q.purge now)
  | toCancel | purge => exact ⟨[], [], .refl (q.purge now)⟩
  | sinceCheck id => exact ⟨[], [], .refl q⟩

/-! ### From the entries to the lists -/

/-- The purge drops ended records and touches no counter. -/
theorem prepared_cases (now : Nat) (request : Request) (q : Registry) :
    ∃ lost, q.held.Perm ((q.prepared now request).held ++ lost) ∧
      (∀ p, (q.prepared now request).numbers p ⊆ q.numbers p) ∧
      (q.prepared now request).numbers Record.isOpen = q.numbers Record.isOpen ∧
      (q.prepared now request).requests = q.requests ∧
      (q.prepared now request).completed = q.completed ∧
      (q.prepared now request).doneCount = q.doneCount ∧
      (q.prepared now request).doneTime = q.doneTime := by
  simp only [prepared]
  cases request.purges with
  | false => exact ⟨[], by simp, fun p => List.Subset.refl _, rfl, rfl, rfl, rfl, rfl⟩
  | true =>
    simp only [if_true]
    -- The records that expire and those that do not are all records.
    have hsplit := numbers_split_perm (fun _ => true) (fun r => !q.expires now r) q
    rw [← numbers_purge] at hsplit
    refine ⟨_, hsplit, fun p => ?_, ?_, requests_purge .., ?_⟩
    · rw [numbers_purge]
      intro n hn
      obtain ⟨id, r, hr, hp, hnumber⟩ := mem_numbers.1 hn
      exact mem_numbers.2 ⟨id, r, hr, (Bool.and_eq_true_iff.1 hp).2, hnumber⟩
    · -- Nothing expires that has not ended.
      rw [numbers_purge]
      have hopen : (fun r => !q.expires now r && r.isOpen) = Record.isOpen := by
        funext r
        simp only [Record.isOpen]
        cases hf : r.isFinal with
        | true => simp
        | false => simp [expires_eq_false hf]
      rw [hopen]
    · simp only [purge]
      cases q.retention <;> exact ⟨rfl, rfl, rfl⟩

/-- Where a list consists of known elements and of others, the others are what is new in it. -/
theorem filter_notMem_perm {known old new all : List Nat} (h : all.Perm (old ++ new))
    (hold : old ⊆ known) (hnew : ∀ n ∈ new, n ∉ known) :
    (all.filter fun n => n ∉ known).Perm new := by
  have hfilter := h.filter fun n => n ∉ known
  have hnone : old.filter (fun n => n ∉ known) = [] := by
    simpa using fun n hn => hold hn
  have hall : new.filter (fun n => n ∉ known) = new := by
    simpa using hnew
  rwa [List.filter_append, hnone, hall, List.nil_append] at hfilter

section
variable {now : Nat} {request : Request} {q q' : Registry} {added ended done : List Nat}

/-- A record that ends was open, or is new. -/
theorem Entries.notMem_final (h : Entries (q.prepared now request) q' added ended done)
    (hnodup : (q.held ++ added).Nodup) : ∀ n ∈ ended, n ∉ q.numbers Record.isFinal := by
  intro n hn
  obtain ⟨lost, -, -, hopen, -⟩ := prepared_cases now request q
  have hmem := h.opened.subset (List.mem_append_right _ hn)
  rw [hopen] at hmem
  -- No number is that of an ended record and of an open or new one.
  have hparts := q.held_perm.append_right added
  rw [List.append_assoc] at hparts
  have hdisjoint := (List.nodup_append.1 (hparts.nodup_iff.1 hnodup)).2.2
  exact fun hf => hdisjoint n hf n hmem rfl

/-- The records that ended by a request are those entered as ended. -/
theorem Entries.newly_isFinal_perm (h : Entries (q.prepared now request) q' added ended done)
    (hnodup : (q.held ++ added).Nodup) : (newly Record.isFinal q q').Perm ended := by
  obtain ⟨lost, -, hsub, -⟩ := prepared_cases now request q
  exact filter_notMem_perm h.final (hsub _) (h.notMem_final hnodup)

/-- The records that were done by a request are those entered as done. -/
theorem Entries.newly_isDone_perm (h : Entries (q.prepared now request) q' added ended done)
    (hnodup : (q.held ++ added).Nodup) : (newly Record.isDone q q').Perm done := by
  obtain ⟨lost, -, hsub, -⟩ := prepared_cases now request q
  refine filter_notMem_perm h.isDone (hsub _) fun n hn hmem => ?_
  refine h.notMem_final hnodup n (h.done_subset hn) ?_
  obtain ⟨id, r, hr, hdone, hnumber⟩ := mem_numbers.1 hmem
  exact mem_numbers.2 ⟨id, r, hr, Record.isFinal_of_isDone hdone, hnumber⟩

/-- The records that a request purged are those that its purge dropped. -/
theorem Entries.newly_purged_perm (h : Entries (q.prepared now request) q' added ended done)
    (hnodup : (q.held ++ added).Nodup) :
    q.held.Perm ((q.prepared now request).held ++ newly (fun _ => true) q' q) := by
  obtain ⟨lost, hlost, -⟩ := prepared_cases now request q
  refine hlost.trans ((filter_notMem_perm hlost ?_ ?_).symm.append_left _)
  · exact fun n hn => h.held.symm.subset (List.mem_append_left _ hn)
  · intro n hn hmem
    -- A dropped record is not among those that stay, and its number is not new.
    have hparts := hlost.append_right added
    rw [List.append_assoc] at hparts
    have hstay := List.nodup_append.1 (hparts.nodup_iff.1 hnodup)
    rcases List.mem_append.1 (h.held.subset hmem) with hheld | hadded
    · exact hstay.2.2 n hheld n (List.mem_append_left _ hn) rfl
    · exact (List.nodup_append.1 hstay.2.1).2.2 n hn n hadded rfl

end

end Registry

end JobScheduling
