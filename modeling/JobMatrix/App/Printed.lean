import JobMatrix.Report.Document

/-!
# What a command prints

A command prints lines for people and documents for other programs, one after the other.
-/

namespace JobMatrix.App

/-- A piece of what a command prints. -/
inductive Printed
  | line (text : String)
  | document (d : Document)
deriving Inhabited

namespace Printed

/-- A piece as text. -/
def render : Printed → String
  | .line text => text ++ "\n"
  | .document d => d.render ++ "\n"

/-- The document of a piece that is one. -/
def document? : Printed → Option Document
  | .document d => some d
  | .line _ => none

end Printed

end JobMatrix.App
