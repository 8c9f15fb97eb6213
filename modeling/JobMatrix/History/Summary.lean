import JobMatrix.Run.Result

/-!
# Summaries of runs

What the history keeps of a run: its verdict, the numbers of jobs by how they ended, and
the results of all jobs.
-/

namespace JobMatrix

/-- The summary of a run. -/
structure RunSummary where
  runId : RunId
  pipeline : String
  verdict : Verdict
  cancelled : Bool
  startedAt : Timestamp
  finishedAt : Timestamp
  total : Nat
  passed : Nat
  failed : Nat
  skipped : Nat
  jobs : List JobResult
deriving DecidableEq, Inhabited

/-- The summary of a result. -/
def RunSummary.ofResult (r : RunResult) : RunSummary where
  runId := r.runId
  pipeline := r.pipeline
  verdict := r.overall
  cancelled := r.cancelled
  startedAt := r.startedAt
  finishedAt := r.finishedAt
  total := r.jobs.length
  passed := r.count .passed
  failed := r.count .failed
  skipped := r.count .skipped
  jobs := r.jobs

end JobMatrix
