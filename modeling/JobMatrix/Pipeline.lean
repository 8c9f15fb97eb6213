import JobMatrix.Template

/-!
# Pipelines

A pipeline is a validated definition: job templates with the environment, directory and
shell they share. Its plan is the list of all instances, template by template, each marked
with whether it will run.
-/

namespace JobMatrix

/-- A validated pipeline. -/
structure Pipeline where
  name : String
  /-- The templates in definition order. -/
  templates : List Template
  env : Env String
  /-- The directory that commands run in unless their job names one. -/
  workingDirectory : String
  /-- The program and arguments that commands are handed to. -/
  shell : Option (List String)
  maxParallel : Option Nat
deriving DecidableEq, Inhabited

namespace Pipeline

/-- The template of a name. -/
def template? (p : Pipeline) (name : String) : Option Template :=
  p.templates.find? (·.name == name)

/-- The pipeline with only the named templates, or the first name that no template has. -/
def retain (p : Pipeline) (names : List String) : Except String Pipeline :=
  match names.find? fun name => (p.template? name).isNone with
  | some name => .error name
  | none => .ok { p with templates := p.templates.filter fun t => names.contains t.name }

/-- Looks for the template of each name in turn. -/
def requireAll : List String → EStateM String Pipeline Unit
  | [] => pure ()
  | name :: names => do
    if ((← get).template? name).isNone then throw name
    requireAll names

/-- Keeps the named templates of a pipeline that is changed in place. -/
def retainInPlace (names : List String) : EStateM String Pipeline Unit := do
  requireAll names
  modify fun p => { p with templates := p.templates.filter fun t => names.contains t.name }

/-- All instances, template by template. -/
def instances (p : Pipeline) : List Instance :=
  p.templates.flatMap Template.expand

/-- All instances, each with whether its condition holds. -/
def plan (p : Pipeline) : List (Instance × Bool) :=
  p.instances.map fun i => (i, i.willRun)

end Pipeline

end JobMatrix
