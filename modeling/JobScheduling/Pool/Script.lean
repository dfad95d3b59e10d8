import JobScheduling.Pool.Basic

/-!
# Scripted work

A job can carry a script for its work in its parameters. The script says whether the work
holds its worker, and how it ends. Its fields are tried in one order, and the first one
that is there decides. Work without a script produces a report named after the job.
-/

set_option autoImplicit false

namespace JobScheduling

/-- The report of a job whose script names none. -/
def Report.standard (id : String) : Report :=
  { uri := "file:///reports/" ++ id ++ ".pdf", fileName := id ++ ".pdf"
    mimeType := "application/pdf" }

namespace WorkEnd

/-- The end of the work of a job whose script says nothing about it. -/
def standard (job : Job) : WorkEnd := .report (.standard job.id)

/-- The text that a crash leaves. A crash leaves a text or some other value. -/
def crashText? : Json → Option String
  | .text s => some s
  | .bool _ => some "static panic"
  | _ => none

/-- The report that a value describes. A field that is missing has the empty text. -/
def reportOf (value : Json) : Report :=
  let field (name : String) : String := ((value.field? name).bind Json.text?).getD ""
  { uri := field "report_uri", fileName := field "file_name", mimeType := field "mime_type" }

/-- How a script says that work ends. -/
def ofScript (script : Json) (id : String) : WorkEnd :=
  match script.field? "fail" with
  | some causes =>
    let texts := (causes.items?.getD []).filterMap Json.text?
    .failure ((Failure.ofCauses texts).getD (.ofMessage ""))
  | none =>
    match script.field? "fail_new" with
    | some message => .failure (.ofMessage (message.text?.getD ""))
    | none =>
      match script.field? "panic" with
      | some value => .crash (crashText? value)
      | none =>
        match script.field? "result" with
        | some value => .report (reportOf value)
        | none => .report (.standard id)

end WorkEnd

/-- The work that the parameters of a job describe. -/
def Work.scripted (job : Job) : Work :=
  if (job.params.field? "hold").isSome then .holds else .ends (.ofScript job.params job.id)

end JobScheduling
