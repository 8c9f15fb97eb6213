import JobMatrix.App.Printed
import JobMatrix.App.World
import JobMatrix.Condition.Printer
import JobMatrix.Report.Style
import JobMatrix.Run.Result

/-!
# Looking at a pipeline

A pipeline can be validated and its plan shown without running anything. Documents list
their fields by name.
-/

namespace JobMatrix.App

open Report

/-- The lines about a definition that does not load. -/
def invalidLines (color : Bool) (file : String) (failure : Definition.Failure) : List Printed :=
  [.line (crossMark ++ " Invalid pipeline definition " ++ paint color [.bold] file ++ ":"),
    .line ("  " ++ paint color [.red] failure.message)]

/-! ## Validation -/

/-- A template in the document about a valid pipeline. -/
def templateDocument (t : Template) : Document :=
  .fields
    [("axes", .list (t.axes.map fun (name, values) =>
        .fields [("name", .text name), ("values", .list (values.map .text))])),
      ("condition", .ofOption (fun c => .text (Condition.render c)) t.condition),
      ("instances", .ofNat t.combinations), ("name", .text t.name),
      ("steps", .ofNat t.steps.length)]

/-- The document about a valid pipeline. -/
def validDocument (p : Pipeline) : Document :=
  .fields
    [("instances", .ofNat p.instances.length), ("jobs", .list (p.templates.map templateDocument)),
      ("name", .text p.name), ("valid", .flag true)]

/-- The document about an invalid pipeline. -/
def invalidDocument (failure : Definition.Failure) : Document :=
  .fields [("error", .text failure.message), ("valid", .flag false)]

/-- The lines about a valid pipeline. -/
def validLines (color : Bool) (p : Pipeline) : List Printed :=
  [.line (checkMark ++ " Pipeline definition is valid!"),
    .line ("  Name: " ++ paint color [.bold] p.name),
    .line ("  Jobs: " ++ paint color [.cyan] (toString p.templates.length)),
    .line ("  Instances: " ++ paint color [.cyan] (toString p.instances.length))]

/-- Validates a file: the exit code, and what is printed. -/
def validate (color : Bool) (w : World) (file : String) (json : Bool) : Nat × List Printed :=
  let head := if json then [] else [.line (infoSign ++ " Validating pipeline...")]
  match w.load [] file with
  | .error failure =>
    (invalidDefinitionExitCode,
      head ++ if json then [.document (invalidDocument failure)] else invalidLines color file failure)
  | .ok p => (0, head ++ if json then [.document (validDocument p)] else validLines color p)

/-! ## Plans -/

/-- An instance in the document with a plan. -/
def plannedDocument (i : Instance) (willRun : Bool) : Document :=
  .fields
    [("binding", .fields ((Env.ofList i.binding.entries).entries.map fun (a, v) => (a, .text v))),
      ("id", .text i.id), ("job", .text i.template.name), ("will_run", .flag willRun)]

/-- The document with a plan. -/
def planDocument (p : Pipeline) : Document :=
  .fields
    [("jobs", .list (p.plan.map fun (i, willRun) => plannedDocument i willRun)),
      ("pipeline", .text p.name)]

/-- The line about a planned instance. -/
def plannedLine (color : Bool) (i : Instance) (willRun : Bool) : Printed :=
  if willRun then .line ("  " ++ rocket ++ " " ++ paint color [.cyan] i.id)
  else
    let condition := (i.template.condition.map Condition.render).getD ""
    .line ("  " ++ skipSign ++ " " ++ paint color [.dim] i.id ++ " "
      ++ paint color [.dim] ("(if: " ++ condition ++ ")"))

/-- The lines of a plan. -/
def planLines (color : Bool) (p : Pipeline) : List Printed :=
  let runnable := p.plan.countP (·.2)
  .line (infoSign ++ " Plan for " ++ paint color [.bold] p.name ++ ": "
      ++ paint color [.cyan] (toString p.plan.length) ++ " instance(s), "
      ++ paint color [.green] (toString runnable) ++ " to run, "
      ++ paint color [.dim] (toString (p.plan.length - runnable)) ++ " skipped")
    :: p.plan.map fun (i, willRun) => plannedLine color i willRun

/-- Shows the plan of a file: the exit code, and what is printed. -/
def plan (color : Bool) (w : World) (file : String) (json : Bool) : Nat × List Printed :=
  match w.load [] file with
  | .error failure => (invalidDefinitionExitCode, invalidLines color file failure)
  | .ok p => (0, if json then [.document (planDocument p)] else planLines color p)

end JobMatrix.App
