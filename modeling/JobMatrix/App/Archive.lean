import JobMatrix.App.Printed
import JobMatrix.App.World
import JobMatrix.CommandLine.Command
import JobMatrix.Report.Encoding
import JobMatrix.Report.Line

/-!
# Looking at past runs

The newest runs of one pipeline or of all can be listed, or a single run shown.
-/

namespace JobMatrix.App

open CommandLine (HistoryOptions)
open Report

/-- The newest runs, at most `limit`, of one pipeline or of all. -/
def selectRuns (t : History.Table) (pipeline : Option String) (limit : Nat) : List RunSummary :=
  let runs := match pipeline with
    | some name => t.list name
    | none => t.pipelines.flatMap t.list
  (runs.mergeSort fun a b => !a.startedAt.lt b.startedAt).take limit

/-- The lines about a run in a list of runs. -/
def listedLines (color details : Bool) (s : RunSummary) : List Printed :=
  .line ("  " ++ summaryLine color s)
    :: if details then s.jobs.map fun job => .line ("      " ++ jobLine color job) else []

/-- The lines that list some runs. -/
def listLines (color : Bool) (o : HistoryOptions) (runs : List RunSummary) : List Printed :=
  if runs.isEmpty then [.line (infoSign ++ " No runs found")]
  else
    .line (infoSign ++ " Run history (showing latest " ++ toString o.limit ++ "):")
      :: runs.flatMap (listedLines color o.details)

/-- The line about a step of a past run. -/
def stepLine (color : Bool) (r : StepRecord) : Printed :=
  .line ("      " ++ toString (r.index + 1) ++ ". " ++ r.label ++ " " ++ stepStatus color r.status)

/-- The lines about a job of a past run. -/
def pastJobLines (color details : Bool) (job : JobResult) : List Printed :=
  .line ("  " ++ jobLine color job) :: if details then job.records.map (stepLine color) else []

/-- The lines about a single run. -/
def detailLines (color details : Bool) (s : RunSummary) : List Printed :=
  [.line (infoSign ++ " Run Details"),
    .line ("  ID: " ++ paint color [.cyan] s.runId.render),
    .line ("  Pipeline: " ++ paint color [.bold] s.pipeline),
    .line ("  Verdict: " ++ verdict color s.verdict)]
  ++ (if s.cancelled then [.line ("  " ++ warningSign ++ " Cancelled")] else [])
  ++ [.line ("  Started: " ++ paint color [.dim] s.startedAt.renderOffset),
    .line ("  Finished: " ++ paint color [.dim] s.finishedAt.renderOffset)]
  ++ ((s.finishedAt.since? s.startedAt).map fun d =>
    Printed.line ("  Duration: " ++ paint color [.dim] d.render)).toList
  ++ [.line ("  Jobs: " ++ paint color [.cyan] (toString s.total) ++ " total, "
      ++ paint color [.green] (toString s.passed) ++ " passed, "
      ++ paint color [.red] (toString s.failed) ++ " failed, "
      ++ paint color [.dim] (toString s.skipped) ++ " skipped"),
    .line ""]
  ++ s.jobs.flatMap (pastJobLines color details)

/-- Shows past runs from an open history, or says what is wrong. -/
def archive (color : Bool) (t : History.Table) (o : HistoryOptions) : Except String (List Printed) :=
  match o.runId with
  | some text =>
    match RunId.parse? text with
    | none => .error "Invalid run ID format"
    | some id =>
      match t.load? id with
      | none => .ok [.line (warningSign ++ " Run not found")]
      | some s => .ok (if o.json then [.document s.document] else detailLines color o.details s)
  | none =>
    let runs := selectRuns t o.pipeline o.limit
    .ok (if o.json then
        [.document (Document.sorted (.fields [("runs", .list (runs.map RunSummary.document))]))]
      else listLines color o runs)

end JobMatrix.App
