import JobMatrix.Condition.Basic
import JobMatrix.Env
import JobMatrix.Placeholder

/-!
# Job templates and their expansion

A template describes a job once for all values of its axes. It expands into one instance
for each way to pick a value for every axis, the last axis varying fastest.
-/

namespace JobMatrix

/-- A single command of a job. -/
structure Step where
  label : String
  /-- The command, possibly with placeholders. -/
  command : String
  /-- Whether a failing command is recorded without failing the job. -/
  continueOnError : Bool
  condition : Option Condition
  env : Env String
  timeoutSecs : Option Nat
deriving DecidableEq, Inhabited

/-- A job for every combination of axis values. -/
structure Template where
  name : String
  steps : List Step
  /-- The axes in declaration order, each with its values in order. -/
  axes : List (String × List String)
  condition : Option Condition
  env : Env String
  workingDirectory : Option String
  timeoutSecs : Option Nat
deriving DecidableEq, Inhabited

namespace Template

/-- The names of the declared axes. -/
def axisNames (t : Template) : List String :=
  t.axes.map (·.1)

/-- The number of instances a template expands into. -/
def combinations (t : Template) : Nat :=
  (t.axes.map (·.2.length)).foldl (· * ·) 1

/-- Every binding of `b` followed by a value for each of `axes`. -/
def bindingsFrom (b : Binding) : List (String × List String) → List Binding
  | [] => [b]
  | (axis, values) :: axes => values.flatMap fun value => bindingsFrom (b.push axis value) axes

/-- The bindings of a template, the last axis varying fastest. -/
def bindings (t : Template) : List Binding :=
  bindingsFrom Binding.empty t.axes

end Template

/-- A template bound to one combination of axis values. -/
structure Instance where
  template : Template
  binding : Binding
deriving DecidableEq, Inhabited

namespace Instance

/-- The identity of an instance: its job name and its binding. -/
def id (i : Instance) : String :=
  i.binding.instanceId i.template.name

/-- The command of a step with the values of this instance. -/
def render (i : Instance) (step : Step) : String :=
  Placeholder.render step.command i.binding

/-- Whether the condition of the job holds for this instance. -/
def willRun (i : Instance) : Bool :=
  Condition.allows i.template.condition i.binding

end Instance

/-- The instances of a template. -/
def Template.expand (t : Template) : List Instance :=
  t.bindings.map (⟨t, ·⟩)

end JobMatrix
