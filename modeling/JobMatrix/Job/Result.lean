import JobMatrix.Binding
import JobMatrix.Time.Timestamp

/-!
# Results of steps and jobs

What remains of a step and of a job once they are over.
-/

namespace JobMatrix

/-- How a step ended. -/
inductive StepStatus
  | passed
  | failed
  /-- Failed, but the step allows that. -/
  | tolerated
  /-- Not run, because its condition was false. -/
  | skipped
deriving DecidableEq, Inhabited

/-- The record of a step. -/
structure StepRecord where
  /-- The position of the step in its job. -/
  index : Nat
  label : String
  /-- The command with its placeholders replaced. -/
  command : String
  status : StepStatus
  /-- The exit code, if the command exited by itself. -/
  exitCode : Option Int
  duration : Duration
  stdout : String
  stderr : String
  /-- What kept the command from running, or cut it short. -/
  error : Option String
deriving DecidableEq, Inhabited

/-- How a job ended. -/
inductive JobStatus
  | passed
  | failed
  | skipped
deriving DecidableEq, Inhabited

/-- Why a job did not start. -/
inductive SkipReason
  | conditionFalse
  | cancelled
deriving DecidableEq, Inhabited

/-- Why a job failed. -/
inductive JobFailure
  | stepFailed (step : String) (exitCode : Option Int)
  | timedOut (step : String) (secs : Nat)
  | execution (step message : String)
  | cancelled
deriving DecidableEq, Inhabited

/-! ## Words -/

/-- The word for a status in stored and exchanged data. -/
def StepStatus.name : StepStatus → String
  | .passed => "Passed"
  | .failed => "Failed"
  | .tolerated => "Tolerated"
  | .skipped => "Skipped"

/-- The word for a status in stored and exchanged data. -/
def JobStatus.name : JobStatus → String
  | .passed => "Passed"
  | .failed => "Failed"
  | .skipped => "Skipped"

/-- The word for a reason in stored and exchanged data. -/
def SkipReason.name : SkipReason → String
  | .conditionFalse => "ConditionFalse"
  | .cancelled => "Cancelled"

/-- What a failure says. -/
def JobFailure.message : JobFailure → String
  | .stepFailed step (some code) => "step '" ++ step ++ "' exited with code " ++ toString code
  | .stepFailed step none => "step '" ++ step ++ "' was terminated by a signal"
  | .timedOut step secs => "step '" ++ step ++ "' timed out after " ++ toString secs ++ "s"
  | .execution step message => "step '" ++ step ++ "' could not be executed: " ++ message
  | .cancelled => "cancelled"

/-! ## Results -/

/-- The result of a job instance. -/
structure JobResult where
  /-- The identity of the instance. -/
  id : String
  /-- The name of its template. -/
  job : String
  binding : Binding
  status : JobStatus
  /-- The records of the steps that were reached, in order. -/
  records : List StepRecord
  failure : Option JobFailure
  skipReason : Option SkipReason
  startedAt : Option Timestamp
  finishedAt : Option Timestamp
  duration : Duration
deriving DecidableEq, Inhabited

/-- The record of a step whose condition is false. -/
def StepRecord.skipped (index : Nat) (label command : String) : StepRecord :=
  { index, label, command
    status := .skipped
    exitCode := none
    duration := .zero
    stdout := ""
    stderr := ""
    error := none }

end JobMatrix
