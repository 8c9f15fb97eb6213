import JobMatrix.History.Summary
import JobMatrix.Report.Document

/-!
# Results as documents

The form in which runs and their parts are written for other programs.
-/

namespace JobMatrix

/-- Seconds, and nanoseconds after them. -/
def Duration.document (d : Duration) : Document :=
  .fields [("secs", .ofNat d.secs), ("nanos", .ofNat d.subsecNanos)]

def Timestamp.document (t : Timestamp) : Document :=
  .text t.render

def RunId.document (id : RunId) : Document :=
  .text id.render

/-- The entries of a binding as pairs. -/
def Binding.document (b : Binding) : Document :=
  .list (b.entries.map fun (axis, value) => .list [.text axis, .text value])

def StepRecord.document (r : StepRecord) : Document :=
  .fields
    [("index", .ofNat r.index), ("label", .text r.label), ("command", .text r.command),
      ("status", .text r.status.name), ("exit_code", .ofOption .number r.exitCode),
      ("duration", r.duration.document), ("stdout", .text r.stdout), ("stderr", .text r.stderr),
      ("error", .ofOption .text r.error)]

def JobFailure.document : JobFailure → Document
  | .stepFailed step code =>
    .fields [("StepFailed", .fields [("step", .text step), ("exit_code", .ofOption .number code)])]
  | .timedOut step secs =>
    .fields [("TimedOut", .fields [("step", .text step), ("secs", .ofNat secs)])]
  | .execution step message =>
    .fields [("Execution", .fields [("step", .text step), ("message", .text message)])]
  | .cancelled => .text "Cancelled"

def JobResult.document (r : JobResult) : Document :=
  .fields
    [("id", .text r.id), ("job", .text r.job), ("binding", r.binding.document),
      ("status", .text r.status.name), ("step_results", .list (r.records.map StepRecord.document)),
      ("failure", .ofOption JobFailure.document r.failure),
      ("skip_reason", .ofOption (fun s => .text (SkipReason.name s)) r.skipReason),
      ("started_at", .ofOption Timestamp.document r.startedAt),
      ("finished_at", .ofOption Timestamp.document r.finishedAt), ("duration", r.duration.document)]

def RunResult.document (r : RunResult) : Document :=
  .fields
    [("run_id", r.runId.document), ("pipeline", .text r.pipeline),
      ("job_results", .list (r.jobs.map JobResult.document)), ("cancelled", .flag r.cancelled),
      ("started_at", r.startedAt.document), ("finished_at", r.finishedAt.document)]

def RunSummary.document (s : RunSummary) : Document :=
  .fields
    [("run_id", s.runId.document), ("pipeline_name", .text s.pipeline),
      ("verdict", .text s.verdict.name), ("cancelled", .flag s.cancelled),
      ("started_at", s.startedAt.document), ("finished_at", s.finishedAt.document),
      ("total_jobs", .ofNat s.total), ("passed_jobs", .ofNat s.passed),
      ("failed_jobs", .ofNat s.failed), ("skipped_jobs", .ofNat s.skipped),
      ("jobs", .list (s.jobs.map JobResult.document))]

end JobMatrix
