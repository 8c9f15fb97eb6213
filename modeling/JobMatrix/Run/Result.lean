import JobMatrix.Job.Result
import JobMatrix.RunId

/-!
# Results of runs

The result of a run holds one entry for each job instance. A run passes if no job failed
and it was not cancelled; skipped jobs never fail a run. The exit code sums up several runs.
-/

namespace JobMatrix

/-- Whether a run passed. -/
inductive Verdict
  | passed
  | failed
deriving DecidableEq, Inhabited

/-- The word for a verdict in stored and exchanged data. -/
def Verdict.name : Verdict → String
  | .passed => "Passed"
  | .failed => "Failed"

/-- The result of a run. -/
structure RunResult where
  runId : RunId
  pipeline : String
  /-- One entry for each job instance, in the order of the plan. -/
  jobs : List JobResult
  cancelled : Bool
  startedAt : Timestamp
  finishedAt : Timestamp
deriving DecidableEq, Inhabited

namespace RunResult

/-- Whether the run passed. -/
def overall (r : RunResult) : Verdict :=
  if r.cancelled || r.jobs.any (·.status == .failed) then .failed else .passed

/-- The first job with an identity. -/
def job? (r : RunResult) (id : String) : Option JobResult :=
  r.jobs.find? (·.id == id)

/-- The number of jobs that ended in a way. -/
def count (r : RunResult) (status : JobStatus) : Nat :=
  r.jobs.countP (·.status == status)

/-- The time the run took; none if it ended before it began. -/
def duration (r : RunResult) : Duration :=
  (r.finishedAt.since? r.startedAt).getD .zero

end RunResult

/-- The exit code for some runs: 0 if all passed, else 1. -/
def exitCode (results : List RunResult) : Nat :=
  if results.all (·.overall == .passed) then 0 else 1

/-- The exit code for a definition that does not load. -/
def invalidDefinitionExitCode : Nat := 2

end JobMatrix
