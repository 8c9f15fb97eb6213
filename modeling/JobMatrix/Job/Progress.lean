import JobMatrix.Job.Command
import JobMatrix.Job.Result
import JobMatrix.Pipeline

/-!
# The progress of a job

A job takes its steps in order. Before each step it looks whether the run was cancelled,
then whether the condition of the step holds, and then asks for the command. It ends after
its last step, at the first failure that is not tolerated, or when it is cancelled.
-/

namespace JobMatrix

/-- Where a job stands between its begin and its end. The records are those of the steps before. -/
inductive Progress
  /-- About to look at the first of the steps to do. -/
  | ready (records : List StepRecord) (todo : List Step)
  /-- Waiting for the answer to the command of a step. -/
  | running (records : List StepRecord) (step : Step) (todo : List Step)
  | over (records : List StepRecord) (failure : Option JobFailure)
deriving DecidableEq, Inhabited

/-- The records so far. -/
def Progress.records : Progress → List StepRecord
  | .ready rs _ | .running rs _ _ | .over rs _ => rs

/-- What a job does next. -/
inductive Decision
  | stop (failure : Option JobFailure)
  | skip (record : StepRecord) (todo : List Step)
  | ask (step : Step) (todo : List Step)
deriving DecidableEq, Inhabited

namespace Instance

/-- A job that has just begun. -/
def begin (i : Instance) : Progress :=
  .ready [] i.template.steps

/-! ## Requests -/

/-- The environment that all steps of a job share: the inner of two settings wins, the axes of the
instance come after those of the job, and the identity and the workspace come last. -/
def env (i : Instance) (shared : Env String) (workspace : String) : Env String :=
  (((shared.extend i.template.env).insertMany i.binding.environment).insert "PIPELINE_JOB_ID" i.id
    |>.insert "PIPELINE_JOB_DIR" workspace).insert "TMPDIR" workspace

/-- The timeout of a step: its own, or else that of its job. -/
def timeout (i : Instance) (step : Step) : Option Nat :=
  step.timeoutSecs <|> i.template.timeoutSecs

/-- The request of a step for a pipeline and a workspace. -/
def request (i : Instance) (p : Pipeline) (workspace : String) (step : Step) : Request where
  command := i.render step
  workingDirectory := i.template.workingDirectory.getD p.workingDirectory
  env := (i.env p.env workspace).extend step.env
  timeoutSecs := i.timeout step

/-! ## Answers -/

/-- What an output means for a step: its status, its error text, and the failure it is unless
tolerated. -/
def outcome (i : Instance) (step : Step) (t : Termination) :
    StepStatus × Option String × Option JobFailure :=
  let soft : StepStatus := if step.continueOnError then .tolerated else .failed
  match t with
  | .exited (some 0) => (.passed, none, none)
  | .exited code => (soft, none, some (.stepFailed step.label code))
  | .timedOut =>
    let secs := (i.timeout step).getD 0
    (soft, some ("timed out after " ++ toString secs ++ "s"), some (.timedOut step.label secs))
  | .cancelled => (.failed, some "cancelled", some .cancelled)

/-- The record of a step for a reply, and the failure that ends the job. -/
def judge (i : Instance) (index : Nat) (step : Step) : Reply → StepRecord × Option JobFailure
  | .ok output =>
    let (status, error, failure) := i.outcome step output.termination
    ({ index
       label := step.label
       command := i.render step
       status
       exitCode := output.termination.exitCode
       duration := output.duration
       stdout := output.stdout
       stderr := output.stderr
       error },
      if status = .tolerated then none else failure)
  | .error e =>
    ({ index
       label := step.label
       command := i.render step
       status := .failed
       exitCode := none
       duration := .zero
       stdout := ""
       stderr := ""
       error := some e.message },
      some (.execution step.label e.message))

/-! ## Moves -/

/-- What a job does when it looks at the steps to do, after some records and while the run is
cancelled or not. -/
def look (i : Instance) (cancelled : Bool) (records : List StepRecord) : List Step → Decision
  | [] => .stop none
  | step :: todo =>
    if cancelled then .stop (some .cancelled)
    else if Condition.allows step.condition i.binding then .ask step todo
    else .skip (.skipped records.length step.label (i.render step)) todo

/-- Where a job stands after the reply to the command of a step. -/
def answered (i : Instance) (records : List StepRecord) (step : Step) (todo : List Step)
    (reply : Reply) : Progress :=
  match i.judge records.length step reply with
  | (record, none) => .ready (records ++ [record]) todo
  | (record, some failure) => .over (records ++ [record]) (some failure)

/-! ## Results -/

/-- The result of a job that was not started. -/
def skipped (i : Instance) (reason : SkipReason) : JobResult where
  id := i.id
  job := i.template.name
  binding := i.binding
  status := .skipped
  records := []
  failure := none
  skipReason := some reason
  startedAt := none
  finishedAt := none
  duration := .zero

/-- The result of a job that ran. -/
def finished (i : Instance) (records : List StepRecord) (failure : Option JobFailure)
    (startedAt finishedAt : Timestamp) (duration : Duration) : JobResult where
  id := i.id
  job := i.template.name
  binding := i.binding
  status := if failure.isSome then .failed else .passed
  records
  failure
  skipReason := none
  startedAt := some startedAt
  finishedAt := some finishedAt
  duration

/-- The failure of a job without a workspace. -/
def workspaceFailure (cause : String) : JobFailure :=
  .execution "workspace" cause

/-- The result of a job whose task ended without one. -/
def aborted (i : Instance) : JobResult where
  id := i.id
  job := i.template.name
  binding := i.binding
  status := .failed
  records := []
  failure := some (.execution "job" "job task aborted before reporting a result")
  skipReason := none
  startedAt := none
  finishedAt := none
  duration := .zero

end Instance

end JobMatrix
