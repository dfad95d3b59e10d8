import JobScheduling.Proofs.Job.Documents
import JobScheduling.Proofs.Settings.Written

/-!
# `JobScheduling.Proofs.Documents`: what is written is read

Jobs, reports, statuses and stages are stored as documents, and settings are read from one. In every
case the reader undoes what the writer did (`documents_faithful`).
-/

set_option autoImplicit false

namespace JobScheduling

/-- Stored records and settings are read back from their texts.

A job, report, status or stage whose parameters are plain is read back as it is, if its text is not
nested more deeply than the reader allows. Its texts may hold any characters. And whatever document
is read as a record, written with other escapes, in another order, as a list or with further fields:
if the parameters have no floating point number, the text of the record is read as the same record
again, and written as the same text.

Settings without a fault are read back whatever the defaults are. -/
theorem documents_faithful (cores : Nat) :
    Job.format.Faithful ∧ Report.format.Faithful ∧ Status.format.Faithful ∧
      Stage.format.Faithful ∧
      ∀ s : Settings, s.InRange → s.fault? = none →
        Settings.ofDocument cores s.encode.write = .ok s :=
  ⟨Job.isSound_format.faithful, Report.isSound_format.faithful, Status.isSound_format.faithful,
    Stage.isSound_format.faithful, fun _ => Settings.ofDocument_write cores⟩

/-- A status with characters that are escaped, and with the smallest and the greatest integer. -/
def peculiarStatus : Status where
  job := {
    id := "\"a\\b\"\n\u0001\u007f"
    submittedAt := maxWord
    owner := some ""
    params := .record [
      ("", .list [.number (.integer (-(Nat.pow 2 63 : Int))), .number (.integer maxWord)]),
      ("\u00e9\t", .bool true)] }
  stage := .error
  request := 1
  startedAt := some 0
  error := some "/\u2028\x0c"

/-- The keys of its parameters are sorted, and their integers are the extreme words. -/
theorem isPlain_peculiarStatus : (Status.format.params peculiarStatus).IsPlain := by
  have hsorted : Json.IsSorted [("", Json.list [.number (.integer (-(Nat.pow 2 63 : Int))),
      .number (.integer maxWord)]), ("\u00e9\t", .bool true)] :=
    List.pairwise_pair.2 (by decide +kernel)
  have hleast : Number.IsWord (-(Nat.pow 2 63 : Int)) := by constructor <;> decide
  have hgreatest : Number.IsWord maxWord := by constructor <;> decide
  refine Json.isPlain_record hsorted fun field hfield => ?_
  rcases List.mem_pair.1 hfield with rfl | rfl
  · refine .list fun item hitem => ?_
    rcases List.mem_pair.1 hitem with rfl | rfl
    · exact .integer hleast
    · exact .integer hgreatest
  · exact .bool true

/-- A document of a job in which one field of the parameters comes twice. -/
def doubledDocument : String :=
  "\x7b\"start_time_ms\": 5, \"region\": 1e999, \"reference_id\": \"\\u0041\\/\",
    \"params\": \x7b\"b\": -7, \"a\": [], \"b\": null\x7d\x7d"

/-- The job of the document. -/
def doubledJob : Job where
  id := "A/"
  submittedAt := 5
  params := .record [("a", .list []), ("b", .null)]

/-- There is no floating point number in its parameters. -/
theorem not_hasReal_doubledJob : ¬ (Job.format.params doubledJob).HasReal := by
  have hlist : ¬ (Json.list []).HasReal := by
    rintro (_ | ⟨hmem, -⟩)
    cases hmem
  rintro (_ | _ | ⟨hmem, hreal⟩)
  rcases List.mem_pair.1 hmem with rfl | rfl
  · exact hlist hreal
  · cases hreal

/-- A clustered node that never cleans up. -/
def sharedSettings : Settings :=
  { Settings.standard 4 with clustered := true, cleanup := false, cleanupIntervalSecs := 0 }

/-- All its numbers are words. -/
theorem inRange_sharedSettings : sharedSettings.InRange := by
  intro setting value h
  cases setting <;> cases h <;> decide

/-- A status with escaped characters is read back, and so is the job of a document that is written
in another way, and settings with other values than the defaults. -/
theorem documents_faithful_peculiar :
    ((Status.format.InRange peculiarStatus ∧ (Status.format.params peculiarStatus).IsPlain ∧
        (Status.format.encode peculiarStatus).depth ≤ Json.maxDepth) ∧
      Status.format.read (Status.format.write peculiarStatus) = some peculiarStatus) ∧
    ((Job.format.read doubledDocument = some doubledJob ∧
        ¬ (Job.format.params doubledJob).HasReal) ∧
      Job.format.read (Job.format.write doubledJob) = some doubledJob ∧
      (Job.format.read (Job.format.write doubledJob)).map Job.format.write
        = some (Job.format.write doubledJob)) ∧
    (sharedSettings.InRange ∧ sharedSettings.fault? = none) ∧
      Settings.ofDocument 8 sharedSettings.encode.write = .ok sharedSettings := by
  have hrange : Status.format.InRange peculiarStatus := by
    refine ⟨by unfold Job.InRange; decide, by decide, ?_, nofun, by decide⟩
    rintro time ⟨⟩
    decide
  have hdepth : (Status.format.encode peculiarStatus).depth ≤ Json.maxDepth := by decide
  -- The document has spaces, an escaped slash, a field too many and one twice.
  have hread : Job.format.read doubledDocument = some doubledJob := by decide +kernel
  have hfault : sharedSettings.fault? = none := by decide
  obtain ⟨hjob, -, hstatus, -, hsettings⟩ := documents_faithful 8
  exact ⟨⟨⟨hrange, isPlain_peculiarStatus, hdepth⟩,
      hstatus.read_write peculiarStatus hrange isPlain_peculiarStatus hdepth⟩,
    ⟨⟨hread, not_hasReal_doubledJob⟩,
      hjob.write_read doubledDocument doubledJob hread not_hasReal_doubledJob⟩,
    ⟨inRange_sharedSettings, hfault⟩, hsettings sharedSettings inRange_sharedSettings hfault⟩

end JobScheduling
