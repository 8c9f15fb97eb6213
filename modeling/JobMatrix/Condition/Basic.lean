import JobMatrix.Binding

/-!
# Run conditions

A run condition is a boolean expression over the axes of a job. An absent condition
always holds, and an axis without a value reads as the empty text.
-/

namespace JobMatrix

/-- A side of a comparison. -/
inductive Operand
  | axis (name : String)
  | value (text : String)
deriving DecidableEq, Inhabited

/-- How the two sides of a comparison have to relate. -/
inductive Comparison
  | equal
  | different
deriving DecidableEq, Inhabited

/-- A boolean expression over axis values. -/
inductive Condition
  | literal (holds : Bool)
  | truthy (axis : String)
  | compare (left : Operand) (comparison : Comparison) (right : Operand)
  | not (inner : Condition)
  | and (left right : Condition)
  | or (left right : Condition)
deriving DecidableEq, Inhabited

namespace Operand

/-- The text an operand stands for. -/
def eval (b : Binding) : Operand → String
  | .axis name => (b.get? name).getD ""
  | .value text => text

/-- The axis an operand reads. -/
def axis? : Operand → Option String
  | .axis name => some name
  | .value _ => none

end Operand

/-- Whether two texts relate as a comparison asks. -/
def Comparison.holds : Comparison → String → String → Bool
  | .equal, a, b => a == b
  | .different, a, b => a != b

namespace Condition

/-- The axis values that count as true: `true`, `yes` and `1`, in any mix of ASCII cases. -/
def isTrue (value : String) : Bool :=
  let lower := value.toList.map Char.toLower
  lower == ['t', 'r', 'u', 'e'] || lower == ['y', 'e', 's'] || lower == ['1']

/-- Whether the condition holds under a binding. -/
def eval (b : Binding) : Condition → Bool
  | .literal holds => holds
  | .truthy axis => ((b.get? axis).map isTrue).getD false
  | .compare left comparison right => comparison.holds (left.eval b) (right.eval b)
  | .not inner => !inner.eval b
  | .and left right => left.eval b && right.eval b
  | .or left right => left.eval b || right.eval b

/-- The axes that the condition reads, from left to right and with repeats. -/
def axes : Condition → List String
  | .literal _ => []
  | .truthy axis => [axis]
  | .compare left _ right => left.axis?.toList ++ right.axis?.toList
  | .not inner => inner.axes
  | .and left right => left.axes ++ right.axes
  | .or left right => left.axes ++ right.axes

/-- Whether something guarded by an optional condition runs. -/
def allows (condition : Option Condition) (b : Binding) : Bool :=
  match condition with
  | none => true
  | some c => c.eval b

end Condition

end JobMatrix
