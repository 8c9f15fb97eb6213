import JobMatrix.Env
import JobMatrix.Yaml.Value

/-!
# Definitions

A definition is what a pipeline file says, before any rule about its content is checked.
-/

namespace JobMatrix.Definition

open JobMatrix.Yaml

/-- A step as defined. -/
structure StepDefinition where
  label : Option String
  run : String
  continueOnError : Bool
  condition : Option String
  env : Env Value
  timeoutSecs : Option Nat
deriving Inhabited

/-- A job as defined. -/
structure JobDefinition where
  name : String
  /-- The axes in declaration order; names and values may still be any values. -/
  axes : List (Value × Value)
  condition : Option String
  env : Env Value
  workingDirectory : Option String
  timeoutSecs : Option Nat
  steps : List StepDefinition
deriving Inhabited

/-- A pipeline as defined. -/
structure PipelineDefinition where
  name : String
  description : Option String
  workingDirectory : Option String
  shell : Option (List String)
  maxParallel : Option Nat
  defaultTimeoutSecs : Option Nat
  env : Env Value
  jobs : List JobDefinition
deriving Inhabited

end JobMatrix.Definition
