/-!
# Styled text

On a terminal with colours a styled piece of text stands between the codes that switch its
attributes on and the one that switches all off. Without colours it stands alone.
-/

namespace JobMatrix.Report

/-- A way to highlight text. -/
inductive Attribute
  | red
  | green
  | yellow
  | cyan
  | bold
  | dim
deriving DecidableEq, Inhabited

/-- The number of an attribute in a control sequence. -/
def Attribute.code : Attribute → String
  | .bold => "1"
  | .dim => "2"
  | .red => "31"
  | .green => "32"
  | .yellow => "33"
  | .cyan => "36"

/-- The control sequence of a number. -/
def control (code : String) : String :=
  "\x1b[" ++ code ++ "m"

/-- A text with attributes, shown if there are colours. -/
def paint (color : Bool) (attributes : List Attribute) (text : String) : String :=
  if color then String.join (attributes.map fun a => control a.code) ++ text ++ control "0" else text

/-! ## Symbols -/

def checkMark : String := "✅ "
def crossMark : String := "❌ "
def hourglass : String := "⏳ "
def infoSign : String := "ℹ️  "
def warningSign : String := "⚠️  "
def rocket : String := "🚀 "
def skipSign : String := "⏭️  "

end JobMatrix.Report
