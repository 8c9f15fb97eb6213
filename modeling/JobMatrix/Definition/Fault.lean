import JobMatrix.Condition.Parser

/-!
# Faults of a definition

The rules that a definition can break, and the message for each.
-/

namespace JobMatrix.Definition

/-- A broken rule. -/
inductive Fault
  | blankPipelineName
  | zeroMaxParallel
  | noShellProgram
  | repeatedJobName (job : String)
  | blankJobName
  | noSteps (job : String)
  | badAxisName (job : String)
  | axisNotList (axis job : String)
  | axisWithoutValues (axis job : String)
  | axisValueNotScalar (axis job : String)
  | axisValueRepeated (axis job value : String)
  | badCondition (source : String) (fault : Condition.Fault)
  | conditionAxis (source job axis : String)
  | emptyCommand (label job : String)
  | placeholderAxis (label job axis : String)
  | envNotScalar (name owner : String)
  | repeatedInstance (id : String)
  | unknownJob (job : String)
deriving DecidableEq

/-- A text between single quotes. -/
def quote (s : String) : String := "'" ++ s ++ "'"

/-- What a fault says. -/
def Fault.text : Fault → String
  | .blankPipelineName => "pipeline name is empty"
  | .zeroMaxParallel => "max_parallel must be at least 1"
  | .noShellProgram => "shell must name a program"
  | .repeatedJobName job => "duplicate job name: " ++ job
  | .blankJobName => "job name is empty"
  | .noSteps job => "job " ++ quote job ++ " has no steps"
  | .badAxisName job => "job " ++ quote job ++ " has an axis with an invalid name"
  | .axisNotList axis job =>
    "axis " ++ quote axis ++ " of job " ++ quote job ++ " must be a list of values"
  | .axisWithoutValues axis job => "axis " ++ quote axis ++ " of job " ++ quote job ++ " has no values"
  | .axisValueNotScalar axis job =>
    "axis " ++ quote axis ++ " of job " ++ quote job ++ " contains a non-scalar value"
  | .axisValueRepeated axis job value =>
    "axis " ++ quote axis ++ " of job " ++ quote job ++ " repeats value " ++ quote value
  | .badCondition source fault => fault.message source
  | .conditionAxis source job axis =>
    "condition " ++ quote source ++ " in job " ++ quote job ++ " references undeclared axis "
      ++ quote axis
  | .emptyCommand label job =>
    "step " ++ quote label ++ " of job " ++ quote job ++ " has an empty command"
  | .placeholderAxis label job axis =>
    "step " ++ quote label ++ " of job " ++ quote job ++ " references undeclared axis " ++ quote axis
  | .envNotScalar name owner =>
    "environment variable " ++ quote name ++ " in " ++ quote owner ++ " must be a scalar"
  | .repeatedInstance id => "job instance id " ++ quote id ++ " is not unique"
  | .unknownJob job => "no job named " ++ quote job

/-- The message for a broken rule. -/
def Fault.message (f : Fault) : String :=
  "invalid definition: " ++ f.text

end JobMatrix.Definition
