import JobMatrix.Condition.Basic

/-!
# Writing a condition

The written form carries every parenthesis, marks each axis with `matrix.` and puts each
value between single quotes, so it reads back to the same condition as long as no value
holds a single quote.
-/

namespace JobMatrix

/-- An operand as written. -/
def Operand.render : Operand → String
  | .axis name => "matrix." ++ name
  | .value text => "'" ++ text ++ "'"

/-- A comparison sign. -/
def Comparison.render : Comparison → String
  | .equal => "=="
  | .different => "!="

/-- A condition as written. -/
def Condition.render : Condition → String
  | .literal true => "true"
  | .literal false => "false"
  | .truthy axis => "matrix." ++ axis
  | .compare left comparison right =>
    left.render ++ " " ++ comparison.render ++ " " ++ right.render
  | .not inner => "!(" ++ inner.render ++ ")"
  | .and left right => "(" ++ left.render ++ " && " ++ right.render ++ ")"
  | .or left right => "(" ++ left.render ++ " || " ++ right.render ++ ")"

end JobMatrix
