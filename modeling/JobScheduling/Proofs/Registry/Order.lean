import JobScheduling.Proofs.Registry.Lifecycle
import Mathlib.Data.List.Perm.Basic

/-!
# `JobScheduling.Proofs.Registry.Order`: changes in any order

Changes of the records of two jobs can be exchanged (`Registry.update_comm`). Each leaves the record
of the other job and its place alone, and the counters are sums, also where the sum of the
durations stays at the upper end of its range.

So nothing depends on the order in which the records are visited: what `cancelOverdue` answers and
leaves (`cancelOverdue_congr`), and which jobs `toCancel` lists (`toCancel_perm`).
-/

set_option autoImplicit false

namespace JobScheduling

namespace Table

variable {α : Type}

/-- Changes under two keys can be exchanged. -/
theorem modify_comm (t : Table α) {key key' : String} (h : key ≠ key') (f g : α → α) :
    (t.modify key f).modify key' g = (t.modify key' g).modify key f := by
  simp only [modify, mapRows, List.map_map, Table.mk.injEq]
  refine List.map_congr_left fun row _ => ?_
  by_cases hkey : row.1 = key
  · simp [hkey, h]
  · simp [hkey]

/-- Keys can be removed in any order. -/
theorem erase_comm (t : Table α) (key key' : String) :
    (t.erase key).erase key' = (t.erase key').erase key := by
  simp only [erase, filter, List.filter_filter, Table.mk.injEq]
  exact List.filter_congr fun row _ => Bool.and_comm ..

end Table

namespace Registry

/-- The registry with the record of a job replaced and counted. -/
def replace (now : Nat) (id : String) (old new : Record) (q : Registry) : Registry :=
  { q with records := q.records.modify id fun _ => new }.tally now old new

/-- The counters are sums. -/
theorem replace_comm (now : Nat) {id id' : String} (h : id ≠ id') (old new old' new' : Record)
    (q : Registry) :
    (q.replace now id old new).replace now id' old' new'
      = (q.replace now id' old' new').replace now id old new := by
  have hrecords := q.records.modify_comm h (fun _ => new) (fun _ => new')
  have hcapped (a b : Nat) :
      capped (capped (q.doneTime + a) + b) = capped (capped (q.doneTime + b) + a) := by
    rw [capped_add_right, capped_add_right, Nat.add_right_comm]
  -- Each of the two changes counts nothing, or a job that has ended, or one that is done.
  simp only [replace, tally]
  by_cases hends : (old.isFinal || !new.isFinal) = true <;>
    by_cases hends' : (old'.isFinal || !new'.isFinal) = true <;>
    by_cases hdone : new.stage = .done <;> by_cases hdone' : new'.stage = .done <;>
    simp [hends, hends', hdone, hdone', hrecords, hcapped]

/-- An update replaces a record, or does nothing. -/
theorem update_snd (now : Nat) (id : String) (f : Record → Except Error Record) (q : Registry) :
    (q.update now id f).2
      = ((q.records.find? id).bind fun old => (f old).toOption.map fun new => (old, new)).elim q
          fun change => q.replace now id change.1 change.2 := by
  simp only [update]
  cases q.records.find? id with
  | none => rfl
  | some old =>
    dsimp only [Option.bind_some]
    cases f old <;> rfl

/-- Updates of two records can be exchanged. -/
theorem update_comm (now : Nat) {id id' : String} (h : id ≠ id')
    (f g : Record → Except Error Record) (q : Registry) :
    ((q.update now id f).2.update now id' g).2 = ((q.update now id' g).2.update now id f).2 := by
  -- To update one record does not change what is found under the other id.
  have hother : (q.update now id f).2.records.find? id' = q.records.find? id' := by
    rw [find?_update, if_neg (Ne.symm h)]
  have hother' : (q.update now id' g).2.records.find? id = q.records.find? id := by
    rw [find?_update, if_neg h]
  rw [update_snd now id' g (q.update now id f).2, update_snd now id f (q.update now id' g).2,
    hother, hother', update_snd now id f q, update_snd now id' g q]
  cases (q.records.find? id).bind fun old => (f old).toOption.map fun new => (old, new) with
  | none => rfl
  | some change =>
    cases (q.records.find? id').bind fun old => (g old).toOption.map fun new => (old, new) with
    | none => rfl
    | some change' => exact replace_comm now h ..

variable {scan scan' : Scan} (hscan : ∀ ids, (scan ids).Perm ids)
  (hscan' : ∀ ids, (scan' ids).Perm ids)

include hscan hscan'

/-- The overdue jobs are canceled in any order. -/
theorem cancelOverdue_congr (now timeout abandoned : Nat) (reason : String) (q : Registry) :
    q.cancelOverdue scan now timeout abandoned reason
      = q.cancelOverdue scan' now timeout abandoned reason := by
  have hids : ((q.purge now).overdueIds scan now timeout abandoned).Perm
      ((q.purge now).overdueIds scan' now timeout abandoned) :=
    ((hscan _).trans (hscan' _).symm).filter _
  refine Prod.ext hids.length_eq (hids.foldl_eq' ?_ _)
  intro id _ id' _ q
  by_cases h : id = id'
  · rw [h]
  · exact update_comm now h ..

/-- A request leaves the same queue, in whichever order the records are visited. -/
theorem serve_congr (now : Nat) (request : Request) (q : Registry) :
    (q.serve scan now request).2 = (q.serve scan' now request).2 := by
  cases request with
  | cancelOverdue timeout abandoned reason =>
    have hcancel := cancelOverdue_congr hscan hscan' now timeout abandoned reason q
    show (q.cancelOverdue scan now timeout abandoned reason).2 = _
    rw [hcancel]
    rfl
  -- The list of the jobs that were asked to stop is an answer, and leaves no trace.
  | _ => rfl

/-- The jobs that were asked to stop are listed in any order. -/
theorem toCancel_perm (now : Nat) (q : Registry) :
    (q.toCancel scan now).1.Perm (q.toCancel scan' now).1 :=
  ((((hscan _).trans (hscan' _).symm).filterMap _).filter _).map _

omit hscan' in
/-- Each of the jobs that were asked to stop is listed once. -/
theorem nodup_toCancel (now : Nat) {q : Registry} (hkeyed : (q.purge now).Keyed) :
    ((q.toCancel scan now).1.map (·.job.id)).Nodup := by
  have hkeys : (scan (q.purge now).records.keys).Nodup :=
    (hscan _).nodup_iff.2 (q.purge now).records.distinct
  -- The ids of the records that are found are those under which they are found.
  have hids (ids : List String) :
      (ids.filterMap (q.purge now).records.find?).map (·.status.job.id)
        = ids.filter (q.purge now).records.contains := by
    induction ids with
    | nil => rfl
    | cons id ids ih =>
      rw [List.filter_cons, Table.contains]
      cases hr : (q.purge now).records.find? id with
      | none => simpa [hr] using ih
      | some r => simpa [hr, (hkeyed id r hr).1] using ih
  rw [toCancel, List.map_map]
  refine List.Nodup.sublist (List.filter_sublist.map _) ?_
  show (((scan (q.purge now).records.keys).filterMap (q.purge now).records.find?).map
    fun r : Record => r.status.job.id).Nodup
  rw [hids]
  exact hkeys.filter _

end Registry

end JobScheduling
