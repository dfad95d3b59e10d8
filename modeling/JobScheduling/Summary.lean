import JobScheduling.Pool.Basic
import JobScheduling.Text.Quoted

/-!
# Summaries

One line about a ticket, a backlog, an item of a backlog or a pool, for whoever looks into
a running system. A summary names the kind of thing and shows the fields that matter.
-/

set_option autoImplicit false

namespace JobScheduling

/-- A kind of thing with fields between braces. -/
def summarize (kind : String) (fields : List String) : String :=
  kind ++ " \x7b " ++ ", ".intercalate fields ++ " \x7d"

/-- A field of a summary. -/
def summaryField (name value : String) : String := name ++ ": " ++ value

/-- The name of the phase of an execution. -/
def Progress.phase : Progress → String
  | queued => "Queued"
  | running => "Running"
  | finished _ => "Finished"

/-- A ticket in one line. -/
def Ticket.summary (t : Ticket) : String :=
  summarize "JobHandle"
    [summaryField "reference_id" (Quoted.text t.job.id), summaryField "phase" t.progress.phase,
      summaryField "cancelled" (toString t.cancelled)]

namespace Backlog

variable {χ α : Type}

/-- A backlog in one line. It tells how many items wait. -/
def summary (b : Backlog χ α) : String :=
  summarize "PriorityWorkQueue" [summaryField "len" (toString b.size), ".."]

/-- What was taken from a backlog, with the summary of a job. -/
def itemSummary (job : α → String) : Option (Item χ α) → String
  | none => "None"
  | some (.chore _) => "Some(Housekeeping)"
  | some (.job a) => "Some(Job(" ++ job a ++ "))"

end Backlog

/-- A pool in one line. -/
def Pool.summary (p : Pool) : String :=
  summarize "WorkerPool"
    [summaryField "worker_count" (toString p.settings.workers),
      summaryField "shutdown" (toString p.isShutDown), ".."]

end JobScheduling
