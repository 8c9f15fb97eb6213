import JobMatrix.Report.Line

/-!
# The report of a run

The report lists the jobs of a run. Below a job that failed it may show the end of what the
step that failed wrote.
-/

namespace JobMatrix.Report

/-- The number of lines shown of the output of a step that failed. -/
def failureLines : Nat := 20

/-- The last record that says that a step failed. -/
def failedRecord? (r : JobResult) : Option StepRecord :=
  r.records.reverse.find? (·.status == .failed)

/-- What the step that failed a job wrote, line by line. -/
def failureOutput (color : Bool) (r : JobResult) : List String :=
  match failedRecord? r with
  | some record => Text.lines (stepOutput color failureLines record)
  | none => []

/-- The lines about a job. -/
def jobLines (color showFailures : Bool) (r : JobResult) : List String :=
  ("  " ++ jobLine color r)
    :: if showFailures && r.status == .failed then
        (failureOutput color r).map ("      " ++ ·)
      else []

/-- The line with the verdict and the numbers of jobs. -/
def totalsLine (color : Bool) (r : RunResult) : String :=
  verdictSign r.overall ++ " " ++ verdict color r.overall ++ ": "
    ++ paint color [.green] (toString (r.count .passed)) ++ " passed, "
    ++ paint color [.red] (toString (r.count .failed)) ++ " failed, "
    ++ paint color [.dim] (toString (r.count .skipped)) ++ " skipped in "
    ++ paint color [.dim] r.duration.render

/-- The report of a run. -/
def console (color showFailures : Bool) (r : RunResult) : String :=
  let head := "\n" ++ infoSign ++ " Results for " ++ paint color [.bold] r.pipeline
  let cancelled := if r.cancelled then ["\n" ++ warningSign ++ " Run was cancelled"] else []
  "\n".intercalate
    (head :: r.jobs.flatMap (jobLines color showFailures) ++ cancelled
      ++ ["\n" ++ totalsLine color r])

end JobMatrix.Report
