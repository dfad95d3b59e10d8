import JobScheduling.Job.Status
import JobScheduling.Json.Members

/-!
# Jobs as documents

Stages, reports, jobs and statuses are written as documents and read back. A structure is
written with its fields in one fixed order. It is read as `JobScheduling.Json.Members`
says, nested at most `Json.maxDepth` levels deep.
-/

set_option autoImplicit false

namespace JobScheduling

/-- The value of a document that holds one structure. -/
def readDocument {α : Type} (read : Nat → Tree → Option α) (document : String) : Option α :=
  (Tree.parse? document).bind (read Json.maxDepth)

/-- An optional number in a document. -/
def Json.ofNat? : Option Nat → Json := Json.ofOption Json.ofNat

/-- An optional text in a document. -/
def Json.ofText? : Option String → Json := Json.ofOption Json.text

namespace Stage

/-- The stage as a document. -/
def encode (stage : Stage) : Json := .text stage.name

/-- Reads a stage: its name, or a record whose only key is its name. -/
def decode? : Nat → Tree → Option Stage
  | _, .text pieces => (Piece.text? pieces).bind ofName?
  | _ + 1, .record [(key, .null)] => (Piece.text? key).bind ofName?
  | _, _ => none

end Stage

namespace Report

/-- The names of the members of a report. -/
def members : List String := ["report_uri", "file_name", "mime_type"]

/-- The report as a document. -/
def encode (report : Report) : Json :=
  .record [("report_uri", .text report.uri), ("file_name", .text report.fileName),
    ("mime_type", .text report.mimeType)]

/-- Reads a report. -/
def decode? : Nat → Tree → Option Report
  | 0, _ => none
  | _ + 1, tree => do
    let found ← tree.members? false members
    let uri ← Tree.required "report_uri" Tree.text? found
    let fileName ← Tree.required "file_name" Tree.text? found
    let mimeType ← Tree.required "mime_type" Tree.text? found
    return { uri, fileName, mimeType }

end Report

namespace Job

/-- The names of the members of a job. -/
def members : List String := ["reference_id", "start_time_ms", "access_token", "params"]

/-- The job as a document. -/
def encode (job : Job) : Json :=
  .record [("reference_id", .text job.id), ("start_time_ms", .ofNat job.submittedAt),
    ("access_token", .ofText? job.owner), ("params", job.params)]

/-- Reads a job. Its parameters may be null but not missing. -/
def decode? : Nat → Tree → Option Job
  | 0, _ => none
  | depth + 1, tree => do
    let found ← tree.members? false members
    let id ← Tree.required "reference_id" Tree.text? found
    let submittedAt ← Tree.required "start_time_ms" Tree.word? found
    let owner ← Tree.optional "access_token" Tree.text? found
    let params ← Tree.required "params" (Tree.value? depth) found
    return { id, submittedAt, owner, params }

end Job

namespace Status

/-- The names of the members of a status. -/
def members : List String :=
  ["entry", "state", "request_count", "started_at_ms", "completed_at_ms", "result", "error",
    "waiting_time_ms"]

/-- The status as a document. -/
def encode (status : Status) : Json :=
  .record [("entry", status.job.encode), ("state", status.stage.encode),
    ("request_count", .ofNat status.request), ("started_at_ms", .ofNat? status.startedAt),
    ("completed_at_ms", .ofNat? status.completedAt),
    ("result", .ofOption Report.encode status.report), ("error", .ofText? status.error),
    ("waiting_time_ms", .ofNat status.waitingTime)]

/-- Reads a status. -/
def decode? : Nat → Tree → Option Status
  | 0, _ => none
  | depth + 1, tree => do
    let found ← tree.members? false members
    let job ← Tree.required "entry" (Job.decode? depth) found
    let stage ← Tree.required "state" (Stage.decode? depth) found
    let request ← Tree.required "request_count" Tree.word? found
    let startedAt ← Tree.optional "started_at_ms" Tree.word? found
    let completedAt ← Tree.optional "completed_at_ms" Tree.word? found
    let report ← Tree.optional "result" (Report.decode? depth) found
    let error ← Tree.optional "error" Tree.text? found
    let waitingTime ← Tree.required "waiting_time_ms" Tree.word? found
    return { job, stage, request, startedAt, completedAt, report, error, waitingTime }

end Status

end JobScheduling
