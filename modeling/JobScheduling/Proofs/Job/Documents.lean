import JobScheduling.Job.Codec
import JobScheduling.Proofs.Json.Members
import JobScheduling.Proofs.Json.Plain

/-!
# `JobScheduling.Proofs.Job.Documents`: records that are read back

A `Format` says how the values of a type are written as documents and read. It is faithful
(`Format.Faithful`) when a value is read back from its text, and when what is read from any other
document is read back from its own text. Floating point numbers are the exception: of these only the
parameters of a job can have any.

Both follow from what the reader does to trees (`Format.IsSound`). The tree of a value is read as
the value unless it is nested too deeply. And what is read from a tree can be written again: its
numbers are words, and it is not nested more deeply than the reader allows.
-/

set_option autoImplicit false

namespace JobScheduling

/-- How the values of a type are written and read. -/
structure Format (α : Type) where
  encode : α → Json
  decode? : Nat → Tree → Option α
  /-- The numbers of a value are words. -/
  InRange : α → Prop
  /-- The parameters of the job that a value is about. -/
  params : α → Json

namespace Format

variable {α : Type}

/-- The text of a value. -/
def write (format : Format α) (a : α) : String := (format.encode a).write

/-- The value of a document. -/
def read (format : Format α) (document : String) : Option α :=
  readDocument format.decode? document

/-- Values are read back from their texts. -/
structure Faithful (format : Format α) : Prop where
  read_write : ∀ a, format.InRange a → (format.params a).IsPlain →
    (format.encode a).depth ≤ Json.maxDepth → format.read (format.write a) = some a
  /-- A document may be written in another way than its value is. What is written of its value is
  read as the value again, and written as it is. -/
  write_read : ∀ document a, format.read document = some a → ¬ (format.params a).HasReal →
    format.read (format.write a) = some a ∧
      (format.read (format.write a)).map format.write = some (format.write a)

/-- What the reader does to trees. -/
structure IsSound (format : Format α) : Prop where
  decode?_tree : ∀ {a : α} {n : Nat}, format.InRange a → (format.params a).IsPlain →
    (format.encode a).depth ≤ n → format.decode? n (format.encode a).tree = some a
  of_decode? : ∀ {n : Nat} {t : Tree} {a : α}, format.decode? n t = some a →
    format.InRange a ∧ (format.encode a).depth ≤ n ∧
      (¬ (format.params a).HasReal → (format.params a).IsPlain)

/-- The text of a value is a document with its tree, so a reader that is right about trees is right
about texts. -/
theorem IsSound.faithful {format : Format α} (h : format.IsSound) : format.Faithful := by
  have hback (a : α) (hrange : format.InRange a) (hplain : (format.params a).IsPlain)
      (hdepth : (format.encode a).depth ≤ Json.maxDepth) :
      format.read (format.write a) = some a := by
    rw [read, readDocument, write, Tree.parse?_write, Option.bind_some]
    exact h.decode?_tree hrange hplain hdepth
  refine ⟨hback, fun document a hread hreal => ?_⟩
  obtain ⟨t, -, ht⟩ := Option.bind_eq_some_iff.1 hread
  obtain ⟨hrange, hdepth, hplain⟩ := h.of_decode? ht
  -- What was read has no floating point number, so it is one of the values that are read back.
  have hagain := hback a hrange (hplain hreal) hdepth
  exact ⟨hagain, by rw [hagain, Option.map_some]⟩

end Format

/-! ### Stages and reports -/

/-- Stages as documents. -/
def Stage.format : Format Stage where
  encode := Stage.encode
  decode? := Stage.decode?
  InRange _ := True
  params _ := .null

/-- Reports as documents. -/
def Report.format : Format Report where
  encode := Report.encode
  decode? := Report.decode?
  InRange _ := True
  params _ := .null

/-- The name of a stage is read as the stage, at any depth. -/
theorem Stage.decode?_tree (stage : Stage) (n : Nat) :
    decode? n stage.encode.tree = some stage := by
  simp [encode, Json.tree, decode?, Piece.text?_ofText, ofName?_name]

/-- A stage is written as a text, with no numbers in it. -/
theorem Stage.isSound_format : Stage.format.IsSound where
  decode?_tree := fun {stage n} _ _ _ => Stage.decode?_tree stage n
  of_decode? := fun _ => ⟨trivial, Nat.zero_le _, fun _ => .null⟩

/-- A report is read back from its three members. -/
theorem Report.decode?_tree (report : Report) (n : Nat) :
    decode? (n + 1) report.encode.tree = some report := by
  obtain ⟨found, hfound, hlookup⟩ :=
    Tree.exists_members? false members (v := report.encode) rfl rfl (by decide)
  have huri := Tree.required_of_lookup (hlookup "report_uri" _ (by simp))
    (Tree.text?_tree report.uri)
  have hname := Tree.required_of_lookup (hlookup "file_name" _ (by simp))
    (Tree.text?_tree report.fileName)
  have htype := Tree.required_of_lookup (hlookup "mime_type" _ (by simp))
    (Tree.text?_tree report.mimeType)
  rw [decode?, hfound]
  simp [huri, hname, htype]

/-- A report is one level deep. -/
theorem Report.isSound_format : Report.format.IsSound where
  decode?_tree := by
    intro report n _ _ hdepth
    obtain ⟨m, rfl⟩ := Nat.exists_eq_succ_of_ne_zero (Nat.ne_of_gt hdepth)
    exact Report.decode?_tree report m
  of_decode? := by
    intro n t report h
    cases n with
    | zero => cases h
    | succ n => exact ⟨trivial, Nat.succ_le_succ (Nat.zero_le n), fun _ => .null⟩

/-! ### Jobs -/

/-- The number of a job is a word. -/
def Job.InRange (job : Job) : Prop := job.submittedAt ≤ maxWord

/-- Jobs as documents. -/
def Job.format : Format Job where
  encode := Job.encode
  decode? := Job.decode?
  InRange := Job.InRange
  params := Job.params

/-- An optional text is not nested. -/
theorem Json.depth_ofText? (s : Option String) : (Json.ofText? s).depth = 0 := by
  cases s <;> rfl

/-- An optional number is not nested. -/
theorem Json.depth_ofNat? (n : Option Nat) : (Json.ofNat? n).depth = 0 := by
  cases n <;> rfl

/-- A job is nested as deeply as its parameters, and one level more. -/
theorem Job.depth_encode (job : Job) : job.encode.depth = job.params.depth + 1 := by
  simp [encode, Json.depth, Json.fieldDepth, Json.depth_ofText?, Json.ofNat]

/-- A job is read back. Its parameters are nested one level below it. -/
theorem Job.decode?_tree {job : Job} (hrange : job.InRange) (hplain : job.params.IsPlain) {n : Nat}
    (hdepth : job.params.depth ≤ n) : decode? (n + 1) job.encode.tree = some job := by
  obtain ⟨found, hfound, hlookup⟩ :=
    Tree.exists_members? false members (v := job.encode) rfl rfl (by decide)
  have hid := Tree.required_of_lookup (hlookup "reference_id" _ (by simp)) (Tree.text?_tree job.id)
  have hsubmitted := Tree.required_of_lookup (hlookup "start_time_ms" _ (by simp))
    (Tree.word?_tree hrange)
  have howner := Tree.optional_of_lookup (hlookup "access_token" (.ofText? job.owner) (by simp))
    fun owner _ => ⟨Tree.text?_tree owner, nofun⟩
  have hparams := Tree.required_of_lookup (hlookup "params" _ (by simp)) (hplain.value?_tree hdepth)
  rw [decode?, hfound]
  simp [hid, hsubmitted, howner, hparams]

/-- A job that was read can be written and read again, if its parameters have no floating point
number. -/
theorem Job.of_decode? {n : Nat} {t : Tree} {job : Job} (h : decode? n t = some job) :
    job.InRange ∧ job.encode.depth ≤ n ∧ (¬ job.params.HasReal → job.params.IsPlain) := by
  cases n with
  | zero => cases h
  | succ n =>
    simp only [decode?, Option.bind_eq_bind, Option.bind_eq_some_iff, Option.pure_def,
      Option.some.injEq] at h
    obtain ⟨found, -, id, -, submittedAt, hsubmitted, owner, -, params, hparams, rfl⟩ := h
    obtain ⟨_, hword⟩ := Tree.exists_of_required hsubmitted
    obtain ⟨_, hvalue⟩ := Tree.exists_of_required hparams
    obtain ⟨hdepth, hplain⟩ := Tree.of_value? hvalue
    exact ⟨Tree.le_of_word? hword, by rw [depth_encode]; exact Nat.succ_le_succ hdepth, hplain⟩

/-- A job is read back if its numbers are words and its parameters are plain. -/
theorem Job.isSound_format : Job.format.IsSound where
  decode?_tree := by
    intro job n hrange hplain hdepth
    have hdepth : job.params.depth + 1 ≤ n := job.depth_encode ▸ hdepth
    obtain ⟨m, rfl⟩ := Nat.exists_eq_add_of_le' (Nat.le_of_add_left_le hdepth)
    exact Job.decode?_tree hrange hplain (Nat.le_of_succ_le_succ hdepth)
  of_decode? := Job.of_decode?

/-! ### Statuses -/

/-- The numbers of a status are words. -/
structure Status.InRange (status : Status) : Prop where
  job : status.job.InRange
  request : status.request ≤ maxWord
  startedAt : ∀ time ∈ status.startedAt, time ≤ maxWord
  completedAt : ∀ time ∈ status.completedAt, time ≤ maxWord
  waitingTime : status.waitingTime ≤ maxWord

/-- Statuses as documents. -/
def Status.format : Format Status where
  encode := Status.encode
  decode? := Status.decode?
  InRange := Status.InRange
  params status := status.job.params

/-- The job is what is nested most deeply in a status: a report has no lists or records. -/
theorem Status.depth_encode (status : Status) :
    status.encode.depth = status.job.params.depth + 2 := by
  have hreport : (Json.ofOption Report.encode status.report).depth ≤ 1 := by
    cases status.report with
    | none => exact Nat.zero_le 1
    | some report => exact Nat.le_refl 1
  simp only [encode, Json.depth, Json.fieldDepth, Job.depth_encode, Json.depth_ofText?,
    Json.depth_ofNat?, Json.ofNat, Stage.encode]
  omega

/-- A status is read back. The parameters of its job are nested two levels below it. -/
theorem Status.decode?_tree {status : Status} (hrange : status.InRange)
    (hplain : status.job.params.IsPlain) {n : Nat} (hdepth : status.job.params.depth ≤ n) :
    decode? (n + 2) status.encode.tree = some status := by
  -- The members are there under distinct names, so each is found by its own. Then one fact for each
  -- member.
  obtain ⟨found, hfound, hlookup⟩ :=
    Tree.exists_members? false members (v := status.encode) rfl rfl (by decide)
  have hjob := Tree.required_of_lookup (hlookup "entry" _ (by simp))
    (Job.decode?_tree hrange.job hplain hdepth)
  have hstage := Tree.required_of_lookup (hlookup "state" _ (by simp))
    (status.stage.decode?_tree (n + 1))
  have hrequest := Tree.required_of_lookup (hlookup "request_count" _ (by simp))
    (Tree.word?_tree hrange.request)
  have hstarted := Tree.optional_of_lookup
    (hlookup "started_at_ms" (.ofNat? status.startedAt) (by simp))
    fun time htime => ⟨Tree.word?_tree (hrange.startedAt time htime), nofun⟩
  have hcompleted := Tree.optional_of_lookup
    (hlookup "completed_at_ms" (.ofNat? status.completedAt) (by simp))
    fun time htime => ⟨Tree.word?_tree (hrange.completedAt time htime), nofun⟩
  have hreport := Tree.optional_of_lookup
    (hlookup "result" (.ofOption Report.encode status.report) (by simp))
    fun report _ => ⟨report.decode?_tree n, nofun⟩
  have herror := Tree.optional_of_lookup (hlookup "error" (.ofText? status.error) (by simp))
    fun error _ => ⟨Tree.text?_tree error, nofun⟩
  have hwaiting := Tree.required_of_lookup (hlookup "waiting_time_ms" _ (by simp))
    (Tree.word?_tree hrange.waitingTime)
  rw [decode?, hfound]
  simp [hjob, hstage, hrequest, hstarted, hcompleted, hreport, herror, hwaiting]

/-- A status that was read can be written and read again, if the parameters of its job have no
floating point number. -/
theorem Status.of_decode? {n : Nat} {t : Tree} {status : Status} (h : decode? n t = some status) :
    status.InRange ∧ status.encode.depth ≤ n ∧
      (¬ status.job.params.HasReal → status.job.params.IsPlain) := by
  cases n with
  | zero => cases h
  | succ n =>
    simp only [decode?, Option.bind_eq_bind, Option.bind_eq_some_iff, Option.pure_def,
      Option.some.injEq] at h
    obtain ⟨found, -, job, hjob, stage, -, request, hrequest, startedAt, hstarted, completedAt,
      hcompleted, report, -, error, -, waitingTime, hwaiting, rfl⟩ := h
    obtain ⟨_, hjob⟩ := Tree.exists_of_required hjob
    obtain ⟨_, hrequest⟩ := Tree.exists_of_required hrequest
    obtain ⟨_, hwaiting⟩ := Tree.exists_of_required hwaiting
    obtain ⟨hrange, hdepth, hplain⟩ := Job.of_decode? hjob
    -- The optional numbers are words where they are there.
    refine ⟨⟨hrange, Tree.le_of_word? hrequest, ?_, ?_, Tree.le_of_word? hwaiting⟩, ?_, hplain⟩
    · intro time htime
      obtain ⟨_, hword⟩ := Tree.exists_of_optional hstarted time htime
      exact Tree.le_of_word? hword
    · intro time htime
      obtain ⟨_, hword⟩ := Tree.exists_of_optional hcompleted time htime
      exact Tree.le_of_word? hword
    · rw [Job.depth_encode] at hdepth
      rw [depth_encode]
      exact Nat.succ_le_succ hdepth

/-- A status is read back under the same conditions as its job. -/
theorem Status.isSound_format : Status.format.IsSound where
  decode?_tree := by
    intro status n hrange hplain hdepth
    have hdepth : status.job.params.depth + 2 ≤ n := status.depth_encode ▸ hdepth
    obtain ⟨m, rfl⟩ := Nat.exists_eq_add_of_le' (Nat.le_of_add_left_le hdepth)
    exact Status.decode?_tree hrange hplain (Nat.le_of_add_le_add_right hdepth)
  of_decode? := Status.of_decode?

end JobScheduling
