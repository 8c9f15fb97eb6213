import JobMatrix.Decimal.Layout

/-!
# Values

The dynamic values that a definition may hold where it allows any value: the names and
values of axes, and the values of environment variables. Only scalars have a text.
-/

namespace JobMatrix.Yaml

open JobMatrix.Decimal

/-- A number as a document holds it. -/
inductive Number
  | integer (n : Int)
  | float (x : Binary64)
deriving DecidableEq, Inhabited

namespace Number

/-- The text of a number: integers in full, others in their shortest form. -/
def render : Number → String
  | .integer n => toString n
  | .float .nan => ".nan"
  | .float (.infinite false) => ".inf"
  | .float (.infinite true) => "-.inf"
  | .float (.finite negative mantissa exponent) =>
    Layout.compact.renderFinite negative mantissa exponent

/-- Whether two numbers count as the same key; an integer and a float never do. -/
def same : Number → Number → Bool
  | .integer m, .integer n => m == n
  | .float x, .float y => x.same y
  | _, _ => false

end Number

/-- A value of a document. -/
inductive Value
  | null
  | bool (b : Bool)
  | number (n : Number)
  | text (s : String)
  | list (items : List Value)
  | mapping (entries : List (Value × Value))
  | tagged (tag : String) (value : Value)
deriving Inhabited

namespace Value

/-- The text of a scalar. -/
def scalarText? : Value → Option String
  | .text s => some s
  | .number n => some n.render
  | .bool b => some (if b then "true" else "false")
  | _ => none

/-- The items of a list, seen through tags. -/
def items? : Value → Option (List Value)
  | .list items => some items
  | .tagged _ value => value.items?
  | _ => none

/-- The number of values in a value, which bounds the depth of a comparison. -/
def size : Value → Nat
  | .list items => 1 + sizeItems items
  | .mapping entries => 1 + sizeEntries entries
  | .tagged _ value => 1 + value.size
  | _ => 1
where
  sizeItems : List Value → Nat
    | [] => 0
    | v :: vs => v.size + sizeItems vs
  sizeEntries : List (Value × Value) → Nat
    | [] => 0
    | (k, v) :: rest => k.size + v.size + sizeEntries rest

/-- Comparison down to a depth. Mappings compare as sets of entries. -/
def sameTo : Nat → Value → Value → Bool
  | 0, _, _ => false
  | _ + 1, .null, .null => true
  | _ + 1, .bool a, .bool b => a == b
  | _ + 1, .number m, .number n => m.same n
  | _ + 1, .text s, .text t => s == t
  | n + 1, .list xs, .list ys => xs.length == ys.length && (xs.zip ys).all fun (x, y) => sameTo n x y
  | n + 1, .mapping xs, .mapping ys =>
    xs.length == ys.length
      && xs.all fun (k, v) => ys.any fun (k', v') => sameTo n k k' && sameTo n v v'
  | n + 1, .tagged t v, .tagged u w => t == u && sameTo n v w
  | _ + 1, _, _ => false

/-- Whether two values count as the same key of a mapping. -/
def same (v w : Value) : Bool :=
  sameTo (v.size + 1) v w

end Value

end JobMatrix.Yaml
