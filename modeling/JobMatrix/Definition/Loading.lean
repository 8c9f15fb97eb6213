import Std.Data.HashSet.Basic
import JobMatrix.Definition.Basic
import JobMatrix.Definition.Fault
import JobMatrix.Path
import JobMatrix.Pipeline
import JobMatrix.Text.Blank

/-!
# Loading a definition

Loading checks the rules of a definition in a fixed order and builds the pipeline. The
first broken rule is the answer. Directories are joined to the base directory as written
and never decide whether a definition loads.
-/

namespace JobMatrix.Definition

open JobMatrix.Text JobMatrix.Yaml

/-- The first text that stands in the list a second time. -/
def firstRepeat? (xs : List String) : Option String :=
  go ∅ xs
where
  go (seen : Std.HashSet String) : List String → Option String
    | [] => none
    | x :: xs => if seen.contains x then some x else go (seen.insert x) xs

/-- The texts of environment values. -/
def loadEnvEntries (owner : String) : List (String × Value) → Except Fault (List (String × String))
  | [] => .ok []
  | (name, value) :: rest =>
    match value.scalarText? with
    | none => .error (.envNotScalar name owner)
    | some text => (loadEnvEntries owner rest).map ((name, text) :: ·)

/-- An environment of scalars as texts. -/
def loadEnv (owner : String) (env : Env Value) : Except Fault (Env String) :=
  (loadEnvEntries owner env.entries).map Env.mk

/-- The texts of the values of an axis, which have to be distinct. -/
def loadAxisValues (axis job : String) (seen : List String) :
    List Value → Except Fault (List String)
  | [] => .ok []
  | value :: values =>
    match value.scalarText? with
    | none => .error (.axisValueNotScalar axis job)
    | some text =>
      if seen.contains text then .error (.axisValueRepeated axis job text)
      else (loadAxisValues axis job (text :: seen) values).map (text :: ·)

/-- An axis with its values. -/
def loadAxis (job : String) (key values : Value) : Except Fault (String × List String) :=
  match key.scalarText? with
  | none => .error (.badAxisName job)
  | some axis =>
    if isBlankText axis then .error (.badAxisName job)
    else
      match values.items? with
      | none => .error (.axisNotList axis job)
      | some [] => .error (.axisWithoutValues axis job)
      | some items => (loadAxisValues axis job [] items).map (axis, ·)

/-- A condition that reads only declared axes. -/
def loadCondition (job : String) (declared : List String) (source : String) :
    Except Fault Condition :=
  match Condition.parse source with
  | .error fault => .error (.badCondition source fault)
  | .ok condition =>
    match condition.axes.find? fun axis => !declared.contains axis with
    | some axis => .error (.conditionAxis source job axis)
    | none => .ok condition

/-- An optional condition that reads only declared axes. -/
def loadCondition? (job : String) (declared : List String) :
    Option String → Except Fault (Option Condition)
  | none => .ok none
  | some source => (loadCondition job declared source).map some

/-- The label of the step at `index`: its own unless that is blank, else its number from 1. -/
def stepLabel (index : Nat) (s : StepDefinition) : String :=
  match s.label.filter fun label => !isBlankText label with
  | some label => label
  | none => "step " ++ toString (index + 1)

/-- The step at `index`. -/
def loadStep (job : String) (declared : List String) (index : Nat) (s : StepDefinition) :
    Except Fault Step := do
  let label := stepLabel index s
  if isBlankText s.run then throw (.emptyCommand label job)
  if let some axis := (Placeholder.axes s.run).find? fun axis => !declared.contains axis then
    throw (.placeholderAxis label job axis)
  let condition ← loadCondition? job declared s.condition
  let env ← loadEnv job s.env
  return {
    label, condition, env
    command := s.run
    continueOnError := s.continueOnError
    timeoutSecs := s.timeoutSecs }

/-- The steps from `index` on. -/
def loadSteps (job : String) (declared : List String) :
    Nat → List StepDefinition → Except Fault (List Step)
  | _, [] => .ok []
  | index, s :: rest => do
    let step ← loadStep job declared index s
    let steps ← loadSteps job declared (index + 1) rest
    return step :: steps

/-- The template of a job. -/
def loadJob (defaultTimeoutSecs : Option Nat) (base : String) (j : JobDefinition) :
    Except Fault Template := do
  if isBlankText j.name then throw .blankJobName
  if j.steps.isEmpty then throw (.noSteps j.name)
  let axes ← j.axes.mapM fun (key, values) => loadAxis j.name key values
  let declared := axes.map (·.1)
  let condition ← loadCondition? j.name declared j.condition
  let steps ← loadSteps j.name declared 0 j.steps
  let env ← loadEnv j.name j.env
  return {
    name := j.name
    steps, axes, condition, env
    workingDirectory := j.workingDirectory.map (Path.join base)
    timeoutSecs := j.timeoutSecs <|> defaultTimeoutSecs }

/-- Whether a shell names a program. -/
def namesProgram : List String → Bool
  | [] => false
  | program :: _ => !isBlankText program

/-- The pipeline of a definition whose relative directories start from `base`. -/
def PipelineDefinition.load (base : String) (d : PipelineDefinition) : Except Fault Pipeline := do
  if isBlankText d.name then throw .blankPipelineName
  if d.maxParallel = some 0 then throw .zeroMaxParallel
  if !d.shell.all namesProgram then throw .noShellProgram
  if let some job := firstRepeat? (d.jobs.map (·.name)) then throw (.repeatedJobName job)
  let templates ← d.jobs.mapM (loadJob d.defaultTimeoutSecs base)
  if let some id := firstRepeat? ((templates.flatMap Template.expand).map Instance.id) then
    throw (.repeatedInstance id)
  let env ← loadEnv "pipeline" d.env
  return {
    name := d.name
    templates, env
    workingDirectory := Path.join base (d.workingDirectory.getD ".")
    shell := d.shell
    maxParallel := d.maxParallel }

end JobMatrix.Definition
