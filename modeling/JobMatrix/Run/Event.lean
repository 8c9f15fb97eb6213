import JobMatrix.Run.Result

/-!
# Events of a run

A run reports its progress as events: one when it starts, one when it ends, and in between
those of its jobs.
-/

namespace JobMatrix

/-- A piece of progress. -/
inductive Event
  | pipelineStarted (runId : RunId) (pipeline : String) (jobs : Nat)
  | jobStarted (id : String)
  | stepStarted (id : String) (index : Nat) (label : String)
  | stepFinished (id : String) (record : StepRecord)
  /-- A job that never started. -/
  | jobSkipped (result : JobResult)
  /-- A job that started and reached its result. -/
  | jobFinished (result : JobResult)
  | pipelineCompleted (runId : RunId) (verdict : Verdict)
deriving DecidableEq

/-- The result that an event publishes. -/
def Event.result? : Event → Option JobResult
  | .jobSkipped r | .jobFinished r => some r
  | _ => none

end JobMatrix
