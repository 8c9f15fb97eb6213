import JobMatrix.History.Summary
import JobMatrix.Report.Style
import JobMatrix.Run.Event
import JobMatrix.Text.Blank
import JobMatrix.Text.Lines

/-!
# Lines about runs

How statuses, events, jobs, the output of steps and stored runs are shown to people.
-/

namespace JobMatrix.Report

/-! ## Statuses -/

/-- How a job ended. -/
def jobStatus (color : Bool) : JobStatus → String
  | .passed => paint color [.green] "PASSED"
  | .failed => paint color [.red] "FAILED"
  | .skipped => paint color [.dim] "SKIPPED"

/-- How a step ended. -/
def stepStatus (color : Bool) : StepStatus → String
  | .passed => paint color [.green] "passed"
  | .failed => paint color [.red] "failed"
  | .tolerated => paint color [.yellow] "failed (tolerated)"
  | .skipped => paint color [.dim] "skipped"

/-- Whether a run passed. -/
def verdict (color : Bool) : Verdict → String
  | .passed => paint color [.green, .bold] "PASSED"
  | .failed => paint color [.red, .bold] "FAILED"

/-- The sign for a verdict. -/
def verdictSign : Verdict → String
  | .passed => checkMark
  | .failed => crossMark

/-! ## Jobs and events -/

/-- Why a job was skipped, to the reader. -/
def skipText : Option SkipReason → String
  | some .cancelled => "cancelled before start"
  | _ => "condition not met"

/-- The line about a job that is over. -/
def jobLine (color : Bool) (r : JobResult) : String :=
  let time := "(" ++ paint color [.dim] r.duration.render ++ ")"
  match r.status with
  | .passed =>
    checkMark ++ " " ++ paint color [.green] r.id ++ " " ++ jobStatus color r.status ++ " " ++ time
  | .failed =>
    let reason := (r.failure.map JobFailure.message).getD ""
    crossMark ++ " " ++ paint color [.red] r.id ++ " " ++ jobStatus color r.status ++ " " ++ time
      ++ ": " ++ paint color [.dim] reason
  | .skipped =>
    skipSign ++ " " ++ paint color [.dim] r.id ++ " " ++ jobStatus color r.status ++ " ("
      ++ paint color [.dim] (skipText r.skipReason) ++ ")"

/-- The line about an event. -/
def eventLine (color : Bool) : Event → String
  | .pipelineStarted runId pipeline jobs =>
    rocket ++ " Starting pipeline " ++ paint color [.bold] pipeline ++ " with "
      ++ paint color [.cyan] (toString jobs) ++ " job(s) (" ++ paint color [.dim] runId.short ++ ")"
  | .jobStarted id => hourglass ++ " " ++ paint color [.cyan] id
  | .stepStarted id index label =>
    "   " ++ paint color [.dim] id ++ " step " ++ toString (index + 1) ++ ": "
      ++ paint color [.cyan] label
  | .stepFinished id record =>
    "   " ++ paint color [.dim] id ++ " step " ++ toString (record.index + 1) ++ ": " ++ record.label
      ++ " " ++ stepStatus color record.status ++ " (" ++ paint color [.dim] record.duration.render
      ++ ")"
  | .jobSkipped r | .jobFinished r => jobLine color r
  | .pipelineCompleted runId v =>
    infoSign ++ " Pipeline (" ++ paint color [.dim] runId.short ++ ") " ++ verdict color v

/-! ## Output of steps -/

/-- A text of lines, of which at most the last `limit` are shown, below the number of the others. -/
def tail (color : Bool) (limit : Nat) (text : String) : String :=
  let all := Text.lines text
  if all.length ≤ limit then text
  else
    let hidden := all.length - limit
    paint color [.dim] "[truncated]" ++ "... (" ++ toString hidden ++ " earlier lines)\n"
      ++ "\n".intercalate (all.drop hidden)

/-- What a step wrote: its output, its error output and its error, as far as there is something. -/
def stepOutput (color : Bool) (limit : Nat) (r : StepRecord) : String :=
  let stream (text : String) : List String :=
    if Text.isBlankText text then [] else [tail color limit (String.ofList (Text.trimEnd text.toList))]
  let error := (r.error.map (paint color [.red])).toList
  "\n".intercalate (stream r.stdout ++ stream r.stderr ++ error)

/-! ## Stored runs -/

/-- The line about a stored run. -/
def summaryLine (color : Bool) (s : RunSummary) : String :=
  verdictSign s.verdict ++ " " ++ paint color [.dim] s.runId.short ++ " - "
    ++ paint color [.bold] s.pipeline ++ " - " ++ verdict color s.verdict ++ " ("
    ++ paint color [.green] (toString s.passed) ++ " passed, "
    ++ paint color [.red] (toString s.failed) ++ " failed, "
    ++ paint color [.dim] (toString s.skipped) ++ " skipped) - "
    ++ paint color [.dim] s.startedAt.renderSeconds

end JobMatrix.Report
