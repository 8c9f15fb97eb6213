import JobMatrix.Definition.Basic
import JobMatrix.Yaml.Reading

/-!
# Reading a definition

The fields of pipelines, jobs and steps, and the shape of each. Fields that are not named
here are passed over. Some fields go by two names.
-/

namespace JobMatrix.Definition

open JobMatrix.Yaml

/-- An environment of any values; the last value of a name counts. -/
def readEnv (node : Node) : Reader (Env Value) :=
  Reader.entries "a map" Env.empty entry node
where
  entry (env : Env Value) (key value : Node) : Reader (Env Value) := do
    let name ← Reader.text "a string" key
    return env.insert name (← Reader.within (Reader.stepTo key) (Reader.any value))

/-- A text. -/
def readText : Node → Reader String := Reader.text "a string"

/-- A path. -/
def readPath : Node → Reader String := Reader.text "path string"

/-! ## Steps -/

/-- The fields of a step that have been read. -/
structure StepFields where
  label : Option (Option String) := none
  run : Option String := none
  continueOnError : Option Bool := none
  condition : Option (Option String) := none
  env : Option (Env Value) := none
  timeoutSecs : Option (Option Nat) := none

namespace StepFields

/-- The field that a key means. -/
def fieldOf : String → Option String
  | "label" | "name" => some "label"
  | "run" | "command" => some "run"
  | "continue_on_error" => some "continue_on_error"
  | "if" => some "if"
  | "env" => some "env"
  | "timeout_secs" => some "timeout_secs"
  | _ => none

/-- Whether a field has been read. -/
def isSet (s : StepFields) : String → Bool
  | "label" => s.label.isSome
  | "run" => s.run.isSome
  | "continue_on_error" => s.continueOnError.isSome
  | "if" => s.condition.isSome
  | "env" => s.env.isSome
  | _ => s.timeoutSecs.isSome

/-- Reads a field. -/
def readField (s : StepFields) (field : String) (node : Node) : Reader StepFields := do
  match field with
  | "label" => return { s with label := some (← Reader.optional readText node) }
  | "run" => return { s with run := some (← readText node) }
  | "continue_on_error" => return { s with continueOnError := some (← Reader.bool node) }
  | "if" => return { s with condition := some (← Reader.optional readText node) }
  | "env" => return { s with env := some (← readEnv node) }
  | _ => return { s with timeoutSecs := some (← Reader.optional (Reader.unsigned "u64") node) }

/-- The step of the fields. -/
def finish (s : StepFields) : Reader StepDefinition := do
  let run ← Reader.required "run" s.run
  return {
    run
    label := s.label.join
    continueOnError := s.continueOnError.getD false
    condition := s.condition.join
    env := s.env.getD Env.empty
    timeoutSecs := s.timeoutSecs.join }

end StepFields

/-- A step. -/
def readStep : Node → Reader StepDefinition :=
  Reader.record "struct StepConfig" {} StepFields.fieldOf StepFields.isSet StepFields.readField
    StepFields.finish

/-! ## Jobs -/

/-- The fields of a job that have been read. -/
structure JobFields where
  name : Option String := none
  axes : Option (List (Value × Value)) := none
  condition : Option (Option String) := none
  env : Option (Env Value) := none
  workingDirectory : Option (Option String) := none
  timeoutSecs : Option (Option Nat) := none
  steps : Option (List StepDefinition) := none

namespace JobFields

/-- The field that a key means. -/
def fieldOf : String → Option String
  | "name" => some "name"
  | "axes" | "matrix" => some "axes"
  | "if" => some "if"
  | "env" => some "env"
  | "working_directory" => some "working_directory"
  | "timeout_secs" => some "timeout_secs"
  | "steps" => some "steps"
  | _ => none

/-- Whether a field has been read. -/
def isSet (s : JobFields) : String → Bool
  | "name" => s.name.isSome
  | "axes" => s.axes.isSome
  | "if" => s.condition.isSome
  | "env" => s.env.isSome
  | "working_directory" => s.workingDirectory.isSome
  | "timeout_secs" => s.timeoutSecs.isSome
  | _ => s.steps.isSome

/-- Reads a field. -/
def readField (s : JobFields) (field : String) (node : Node) : Reader JobFields := do
  match field with
  | "name" => return { s with name := some (← readText node) }
  | "axes" => return { s with axes := some (← Reader.anyMapping node) }
  | "if" => return { s with condition := some (← Reader.optional readText node) }
  | "env" => return { s with env := some (← readEnv node) }
  | "working_directory" => return { s with workingDirectory := some (← Reader.optional readPath node) }
  | "timeout_secs" =>
    return { s with timeoutSecs := some (← Reader.optional (Reader.unsigned "u64") node) }
  | _ => return { s with steps := some (← Reader.list readStep node) }

/-- The job of the fields. -/
def finish (s : JobFields) : Reader JobDefinition := do
  let name ← Reader.required "name" s.name
  let steps ← Reader.required "steps" s.steps
  return {
    name, steps
    axes := s.axes.getD []
    condition := s.condition.join
    env := s.env.getD Env.empty
    workingDirectory := s.workingDirectory.join
    timeoutSecs := s.timeoutSecs.join }

end JobFields

/-- A job. -/
def readJob : Node → Reader JobDefinition :=
  Reader.record "struct JobConfig" {} JobFields.fieldOf JobFields.isSet JobFields.readField
    JobFields.finish

/-! ## Pipelines -/

/-- The fields of a pipeline that have been read. -/
structure PipelineFields where
  name : Option String := none
  description : Option (Option String) := none
  workingDirectory : Option (Option String) := none
  shell : Option (Option (List String)) := none
  maxParallel : Option (Option Nat) := none
  defaultTimeoutSecs : Option (Option Nat) := none
  env : Option (Env Value) := none
  jobs : Option (List JobDefinition) := none

namespace PipelineFields

/-- The field that a key means. -/
def fieldOf (key : String) : Option String :=
  if ["name", "description", "working_directory", "shell", "max_parallel", "default_timeout_secs", "env",
      "jobs"].contains key then some key
  else none

/-- Whether a field has been read. -/
def isSet (s : PipelineFields) : String → Bool
  | "name" => s.name.isSome
  | "description" => s.description.isSome
  | "working_directory" => s.workingDirectory.isSome
  | "shell" => s.shell.isSome
  | "max_parallel" => s.maxParallel.isSome
  | "default_timeout_secs" => s.defaultTimeoutSecs.isSome
  | "env" => s.env.isSome
  | _ => s.jobs.isSome

/-- Reads a field. -/
def readField (s : PipelineFields) (field : String) (node : Node) : Reader PipelineFields := do
  match field with
  | "name" => return { s with name := some (← readText node) }
  | "description" => return { s with description := some (← Reader.optional readText node) }
  | "working_directory" => return { s with workingDirectory := some (← Reader.optional readPath node) }
  | "shell" => return { s with shell := some (← Reader.optional (Reader.list readText) node) }
  | "max_parallel" =>
    return { s with maxParallel := some (← Reader.optional (Reader.unsigned "usize") node) }
  | "default_timeout_secs" =>
    return { s with defaultTimeoutSecs := some (← Reader.optional (Reader.unsigned "u64") node) }
  | "env" => return { s with env := some (← readEnv node) }
  | _ => return { s with jobs := some (← Reader.list readJob node) }

/-- The pipeline of the fields. -/
def finish (s : PipelineFields) : Reader PipelineDefinition := do
  let name ← Reader.required "name" s.name
  let jobs ← Reader.required "jobs" s.jobs
  return {
    name, jobs
    description := s.description.join
    workingDirectory := s.workingDirectory.join
    shell := s.shell.join
    maxParallel := s.maxParallel.join
    defaultTimeoutSecs := s.defaultTimeoutSecs.join
    env := s.env.getD Env.empty }

end PipelineFields

/-- A pipeline. -/
def readPipeline : Node → Reader PipelineDefinition :=
  Reader.record "struct PipelineConfig" {} PipelineFields.fieldOf PipelineFields.isSet
    PipelineFields.readField PipelineFields.finish

end JobMatrix.Definition
