import JobScheduling.OldFiles
import Mathlib.Data.List.Count
import Mathlib.Data.List.Perm.Basic
import Mathlib.Data.List.TakeWhile

/-!
# `JobScheduling.Proofs.OldFiles.Sweep`: what a cleanup removes

A sweep goes through the entries of a directory in the order in which they are listed. Up to the
first broken link it takes away what it can of the entries that are overdue, and from there on it
changes nothing (`sweep_eq`). So an entry that is not overdue is kept whatever the order is and
wherever the sweep stops (`count_sweep`), and without broken links the result does not depend on the
order (`sweep_of_readable`).

`cleanUp_exact` says this of a whole cleanup, with `Entry.IsOverdue` for what should be removed.
-/

set_option autoImplicit false

namespace JobScheduling

namespace OldFiles

/-- A file, or a link to one, that was last modified longer ago than `maxAge`. -/
def Entry.IsOverdue (now : Int) (maxAge : Nat) (e : Entry) : Prop :=
  (e.kind = .file ∨ e.kind = .link) ∧ e.modifiedAt + maxAge < now

instance (now : Int) (maxAge : Nat) (e : Entry) : Decidable (e.IsOverdue now maxAge) :=
  inferInstanceAs (Decidable (_ ∧ _))

variable {now : Int} {maxAge : Nat} {removes : Entry → Bool}

/-- The test of the sweep is what being overdue means. -/
theorem Entry.isExpired_eq_decide (e : Entry) :
    e.isExpired now maxAge = decide (e.IsOverdue now maxAge) := by
  rw [Bool.eq_iff_iff, decide_eq_true_iff]
  simp only [isExpired, isFile, IsOverdue, Bool.and_eq_true, Bool.or_eq_true, beq_iff_eq,
    decide_eq_true_iff]
  exact and_congr_right fun _ => by omega

/-- Whether a sweep takes the entry away once it gets there. -/
def Entry.isTaken (now : Int) (maxAge : Nat) (removes : Entry → Bool) (e : Entry) : Bool :=
  decide (e.IsOverdue now maxAge) && removes e

/-- Whether the sweep gets past the entry. -/
def Entry.isReadable (e : Entry) : Bool := e.kind != .brokenLink

/-! ### One entry -/

/-- A broken link ends the sweep. -/
theorem sweep_brokenLink {e : Entry} (h : e.isReadable = false) (rest : List Entry) :
    sweep now maxAge removes (e :: rest) = (.error (.unreadable e.name), e :: rest) := by
  rw [sweep, if_pos (by simpa [Entry.isReadable] using h)]

/-- An entry that is taken away is counted. -/
theorem sweep_taken {e : Entry} (h : e.isReadable = true)
    (htaken : e.isTaken now maxAge removes = true) (rest : List Entry) :
    sweep now maxAge removes (e :: rest)
      = ((sweep now maxAge removes rest).1.map (· + 1), (sweep now maxAge removes rest).2) := by
  rw [sweep, if_neg (by simpa [Entry.isReadable] using h), Entry.isExpired_eq_decide]
  exact if_pos htaken

/-- Any other entry stays where it is. -/
theorem sweep_passed {e : Entry} (h : e.isReadable = true)
    (htaken : e.isTaken now maxAge removes = false) (rest : List Entry) :
    sweep now maxAge removes (e :: rest)
      = ((sweep now maxAge removes rest).1, e :: (sweep now maxAge removes rest).2) := by
  rw [sweep, if_neg (by simpa [Entry.isReadable] using h), Entry.isExpired_eq_decide]
  exact if_neg (Bool.not_eq_true _ ▸ htaken)

/-! ### All entries -/

/-- The answer of a sweep that took so many entries away before it got to these. -/
def answer (taken : Nat) : List Entry → Except Fault Nat
  | [] => .ok taken
  | e :: _ => .error (.unreadable e.name)

/-- A sweep changes the entries before the first broken link and keeps the others. -/
theorem sweep_eq (entries : List Entry) :
    sweep now maxAge removes entries
      = (answer ((entries.takeWhile Entry.isReadable).countP (Entry.isTaken now maxAge removes))
            (entries.dropWhile Entry.isReadable),
          (entries.takeWhile Entry.isReadable).filter (!Entry.isTaken now maxAge removes ·)
            ++ entries.dropWhile Entry.isReadable) := by
  -- What is taken before the others adds to their number, and changes no fault.
  have answer_map (taken : Nat) (rest : List Entry) :
      (answer taken rest).map (· + 1) = answer (taken + 1) rest := by cases rest <;> rfl
  induction entries with
  | nil => rfl
  | cons e rest ih =>
    cases hread : e.isReadable with
    | false => simp [sweep_brokenLink hread, hread, answer]
    | true =>
      cases htaken : e.isTaken now maxAge removes with
      | true => simp [sweep_taken hread htaken, ih, hread, htaken, answer_map]
      | false => simp [sweep_passed hread htaken, ih, hread, htaken]

/-- Nothing appears in a directory, and what is left keeps its order. -/
theorem sublist_sweep (entries : List Entry) :
    (sweep now maxAge removes entries).2.Sublist entries := by
  have hparts : (entries.takeWhile Entry.isReadable ++ entries.dropWhile Entry.isReadable).Sublist
      entries := List.takeWhile_append_dropWhile ▸ List.Sublist.refl _
  rw [sweep_eq]
  exact (List.filter_sublist.append_right _).trans hparts

/-- An entry that is not overdue is left, wherever the sweep stopped. -/
theorem count_sweep {e : Entry} (h : ¬ e.IsOverdue now maxAge) (entries : List Entry) :
    (sweep now maxAge removes entries).2.count e = entries.count e := by
  have hkept : (!e.isTaken now maxAge removes) = true := by simp [Entry.isTaken, h]
  rw [sweep_eq]
  calc ((entries.takeWhile Entry.isReadable).filter (!Entry.isTaken now maxAge removes ·)
          ++ entries.dropWhile Entry.isReadable).count e
      = (entries.takeWhile Entry.isReadable ++ entries.dropWhile Entry.isReadable).count e := by
        rw [List.count_append, List.count_filter (p := (!Entry.isTaken now maxAge removes ·)) hkept,
          List.count_append]
    _ = entries.count e := by rw [List.takeWhile_append_dropWhile]

/-- Without broken links a sweep takes away all that it can of the entries that are overdue. -/
theorem sweep_of_readable {entries : List Entry} (h : ∀ e ∈ entries, e.kind ≠ .brokenLink) :
    sweep now maxAge removes entries
      = (.ok (entries.countP (Entry.isTaken now maxAge removes)),
          entries.filter (!Entry.isTaken now maxAge removes ·)) := by
  have hread : ∀ e ∈ entries, e.isReadable = true := fun e he => bne_iff_ne.2 (h e he)
  rw [sweep_eq, List.takeWhile_eq_self_iff.2 hread, List.dropWhile_eq_nil_iff.2 hread,
    List.append_nil]
  rfl

/-- Without broken links, and when no removal of an overdue entry fails, a sweep takes away what is
overdue. -/
theorem sweep_of_removes {entries : List Entry} (hread : ∀ e ∈ entries, e.kind ≠ .brokenLink)
    (hremoves : ∀ e ∈ entries, e.IsOverdue now maxAge → removes e = true) :
    sweep now maxAge removes entries
      = (.ok (entries.countP fun e => e.IsOverdue now maxAge),
          entries.filter fun e => ¬ e.IsOverdue now maxAge) := by
  have htaken : ∀ e ∈ entries, e.isTaken now maxAge removes = decide (e.IsOverdue now maxAge) := by
    intro e he
    by_cases hold : e.IsOverdue now maxAge
    · simp [Entry.isTaken, hold, hremoves e he hold]
    · simp [Entry.isTaken, hold]
  rw [sweep_of_readable hread, List.countP_congr fun e he => by rw [htaken e he],
    List.filter_congr fun e he => by rw [htaken e he]]
  simp only [decide_not]

/-- With a broken link a sweep ends at one. -/
theorem sweep_of_brokenLink (now : Int) (maxAge : Nat) (removes : Entry → Bool)
    {entries : List Entry} (h : ∃ e ∈ entries, e.kind = .brokenLink) :
    ∃ e ∈ entries, e.kind = .brokenLink ∧
      (sweep now maxAge removes entries).1 = .error (.unreadable e.name) := by
  obtain ⟨broken, hmem, hbroken⟩ := h
  rw [sweep_eq]
  -- The sweep ended at the first entry that it could not get past, if there is one.
  cases hdrop : entries.dropWhile Entry.isReadable with
  | nil =>
    have hread := List.dropWhile_eq_nil_iff.1 hdrop broken hmem
    exact absurd hbroken (bne_iff_ne.1 hread)
  | cons e rest =>
    have hmem : e ∈ entries := (List.dropWhile_sublist _).subset (hdrop ▸ List.mem_cons_self)
    have hread : e.isReadable = false := by
      simpa [hdrop] using List.head_dropWhile_not Entry.isReadable (l := entries) (by simp [hdrop])
    exact ⟨e, hmem, by simpa [Entry.isReadable] using hread, rfl⟩

/-- A cleanup removes the overdue files of a directory and nothing else. Take the entries of a
directory, listed in any order.

Whether the cleanup ends well or not, and whichever removals fail, nothing appears in the directory,
and every entry is left that is no file or link to one, or was modified within `maxAge`, or in the
future.

Without broken links, and when no removal of an overdue entry fails, exactly the overdue entries are
removed, and their number is the answer. Another cleanup at that time answers zero and removes
nothing, in whatever order the entries that are left are listed.

With a broken link the cleanup fails, with the name of one.

Where there is nothing the answer is zero. Where there is something else than a directory the
cleanup fails. Both are left as they are. -/
theorem cleanUp_exact (now : Int) (maxAge : Nat) (removes : Entry → Bool) :
    (∀ content listed : List Entry, listed.Perm content →
      (∃ left, (cleanUp now maxAge (.directory listed) removes).2 = .directory left ∧
        left.Sublist listed ∧
        ∀ e, ¬ e.IsOverdue now maxAge → left.count e = content.count e) ∧
      ((∀ e ∈ content, e.kind ≠ .brokenLink) →
        (∀ e ∈ content, e.IsOverdue now maxAge → removes e = true) →
        ∃ left, left.Perm (content.filter fun e => ¬ e.IsOverdue now maxAge) ∧
          cleanUp now maxAge (.directory listed) removes
            = (.ok (content.countP fun e => e.IsOverdue now maxAge), .directory left) ∧
          ∀ again removesAgain, again.Perm left →
            cleanUp now maxAge (.directory again) removesAgain = (.ok 0, .directory again)) ∧
      ((∃ e ∈ content, e.kind = .brokenLink) →
        ∃ e ∈ content, e.kind = .brokenLink ∧
          (cleanUp now maxAge (.directory listed) removes).1 = .error (.unreadable e.name))) ∧
    cleanUp now maxAge .missing removes = (.ok 0, .missing) ∧
    cleanUp now maxAge .file removes = (.error .notListable, .file) := by
  refine ⟨?_, rfl, rfl⟩
  intro content listed horder
  have hlisted {e : Entry} : e ∈ listed ↔ e ∈ content := horder.mem_iff
  refine ⟨⟨_, rfl, sublist_sweep listed, ?_⟩, ?_, ?_⟩
  · intro e he
    exact (count_sweep he listed).trans (horder.count_eq e)
  · intro hread hremoves
    refine ⟨listed.filter fun e => ¬ e.IsOverdue now maxAge, horder.filter _, ?_, ?_⟩
    · rw [cleanUp, sweep_of_removes (fun e he => hread e (hlisted.1 he))
        (fun e he => hremoves e (hlisted.1 he)), horder.countP_eq]
    · intro again removesAgain hagain
      have hleft : ∀ e ∈ again, e ∈ content ∧ ¬ e.IsOverdue now maxAge := by
        intro e he
        obtain ⟨hmem, hnot⟩ := List.mem_filter.1 (hagain.mem_iff.1 he)
        exact ⟨hlisted.1 hmem, of_decide_eq_true hnot⟩
      -- Nothing that is left is overdue, so no removal is tried.
      rw [cleanUp, sweep_of_removes (fun e he => hread e (hleft e he).1)
        (fun e he hold => absurd hold (hleft e he).2),
        List.countP_eq_zero.2 fun e he => by simpa using (hleft e he).2,
        List.filter_eq_self.2 fun e he => decide_eq_true (hleft e he).2]
  · rintro ⟨broken, hbroken, hkind⟩
    obtain ⟨e, he, hfound⟩ :=
      sweep_of_brokenLink now maxAge removes ⟨broken, hlisted.2 hbroken, hkind⟩
    exact ⟨e, hlisted.1 he, hfound⟩

/-- A directory at the time 1000: of what is older than 100 there are a file, a link and a
directory, and one file is as old as it may be. -/
def reports : List Entry :=
  [⟨"a.pdf", .file, 899⟩, ⟨"b.pdf", .file, 900⟩, ⟨"c.pdf", .link, 0⟩, ⟨"d", .directory, 0⟩,
    ⟨"e.pdf", .file, 2000⟩]

/-- A link that leads nowhere. -/
def danglingReport : Entry := ⟨"f.pdf", .brokenLink, 0⟩

/-- The file and the link are removed, although the file that may stay could not be. With a broken
link the cleanup fails. -/
theorem cleanUp_exact_reports :
    (reports.reverse.Perm reports ∧ (∀ e ∈ reports, e.kind ≠ .brokenLink) ∧
      (∀ e ∈ reports, e.IsOverdue 1000 100 → (e.name != "b.pdf") = true) ∧
      ∃ left, left.Perm (reports.filter fun e => ¬ e.IsOverdue 1000 100) ∧
        cleanUp 1000 100 (.directory reports.reverse) (·.name != "b.pdf")
          = (.ok 2, .directory left) ∧
        ∀ again removesAgain, again.Perm left →
          cleanUp 1000 100 (.directory again) removesAgain = (.ok 0, .directory again)) ∧
    (reports ++ [danglingReport]).Perm (danglingReport :: reports) ∧
      (∃ e ∈ danglingReport :: reports, e.kind = .brokenLink) ∧
      ∃ e ∈ danglingReport :: reports, e.kind = .brokenLink ∧
        (cleanUp 1000 100 (.directory (reports ++ [danglingReport])) (·.name != "b.pdf")).1
          = .error (.unreadable e.name) := by
  have hread : ∀ e ∈ reports, e.kind ≠ .brokenLink := by decide
  have hremoves : ∀ e ∈ reports, e.IsOverdue 1000 100 → (e.name != "b.pdf") = true := by decide
  have hlast : (reports ++ [danglingReport]).Perm (danglingReport :: reports) :=
    List.perm_append_singleton _ _
  have hbroken : ∃ e ∈ danglingReport :: reports, e.kind = .brokenLink :=
    ⟨danglingReport, List.mem_cons_self, rfl⟩
  exact ⟨⟨reports.reverse_perm, hread, hremoves,
      ((cleanUp_exact 1000 100 (·.name != "b.pdf")).1 reports _ reports.reverse_perm).2.1 hread
        hremoves⟩,
    hlast, hbroken,
    ((cleanUp_exact 1000 100 (·.name != "b.pdf")).1 _ _ hlast).2.2 hbroken⟩

/-- What was listed before the broken link is removed, and what comes after it is left. -/
example : cleanUp 1000 100 (.directory [⟨"a.pdf", .file, 0⟩, danglingReport, ⟨"b.pdf", .file, 0⟩])
    = (.error (.unreadable "f.pdf"), .directory [danglingReport, ⟨"b.pdf", .file, 0⟩]) := by
  decide

end OldFiles

end JobScheduling
