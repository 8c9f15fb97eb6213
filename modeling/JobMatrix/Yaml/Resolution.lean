import JobMatrix.Yaml.Node
import JobMatrix.Yaml.Value

/-!
# What a scalar means

A plain scalar without a tag is read as null, a boolean, an integer or a float if it is
written like one, and as text otherwise. A tag of the core schema asks for one of these
readings whatever the form; any other scalar is text.
-/

namespace JobMatrix.Yaml

open JobMatrix.Decimal

/-- What a scalar stands for. -/
inductive Meaning
  | null
  | bool (b : Bool)
  | integer (n : Int)
  | float (x : Binary64)
  | text (s : String)
  /-- The text does not have the form that its tag asks for. -/
  | mistagged (text : String) (expected : String)
deriving Inhabited

namespace Meaning

/-! ## Plain forms -/

/-- The ways to write null. -/
def isNull (s : String) : Bool :=
  ["null", "Null", "NULL", "~"].contains s

/-- The boolean that a text writes. -/
def bool? (s : String) : Option Bool :=
  if ["true", "True", "TRUE"].contains s then some true
  else if ["false", "False", "FALSE"].contains s then some false
  else none

/-- The number that a non-empty text of digits writes. -/
def natural? (base : Nat) (cs : List Char) : Option Nat :=
  if cs.isEmpty then none else Text.number? base cs

/-- The base that a two-character mark announces. -/
def base? : List Char → Option (Nat × List Char)
  | '0' :: 'x' :: rest => some (16, rest)
  | '0' :: 'o' :: rest => some (8, rest)
  | '0' :: 'b' :: rest => some (2, rest)
  | _ => none

/-- Whether a text consists of digits after an optional sign and has a leading zero. Such a text is no
number. -/
def hasLeadingZero (cs : List Char) : Bool :=
  let digits := match cs with
    | '+' :: rest | '-' :: rest => rest
    | cs => cs
  1 < digits.length && digits.head? == some '0' && digits.all Char.isDigit

/-- The integer from zero up that a text writes, with an optional plus sign. -/
def unsigned? (cs : List Char) : Option Nat :=
  let body := match cs with
    | '+' :: rest => rest
    | cs => cs
  match (base? body).bind fun (base, rest) => natural? base rest with
  | some n => some n
  | none => if hasLeadingZero cs then none else natural? 10 body

/-- The integer that a text with a minus sign writes. -/
def negative? (cs : List Char) : Option Int :=
  match cs with
  | '-' :: body =>
    match (base? body).bind fun (base, rest) => natural? base rest with
    | some n => some (-n)
    | none => if hasLeadingZero cs then none else (natural? 10 body).map fun n => -(n : Int)
  | _ => none

/-- The integer of at most 128 bits that a text writes. -/
def integer? (cs : List Char) : Option Int :=
  match unsigned? cs with
  | some n => if n < 0x100000000000000000000000000000000 then some n else none
  | none => (negative? cs).filter fun n => -0x80000000000000000000000000000000 ≤ n

/-- The parts of a decimal: its digits, the number of them after the point, and its exponent. -/
def decimal? (cs : List Char) : Option (List Char × Nat × Int) :=
  let whole := cs.takeWhile Char.isDigit
  let rest := cs.dropWhile Char.isDigit
  let (fraction, rest) := match rest with
    | '.' :: rest => (rest.takeWhile Char.isDigit, rest.dropWhile Char.isDigit)
    | rest => ([], rest)
  if whole.isEmpty && fraction.isEmpty then none
  else
    match rest with
    | [] => some (whole ++ fraction, fraction.length, 0)
    | e :: rest =>
      if e = 'e' ∨ e = 'E' then
        match rest with
        | '+' :: rest => (natural? 10 rest).map fun n => (whole ++ fraction, fraction.length, (n : Int))
        | '-' :: rest => (natural? 10 rest).map fun n => (whole ++ fraction, fraction.length, -(n : Int))
        | rest => (natural? 10 rest).map fun n => (whole ++ fraction, fraction.length, (n : Int))
      else none

/-- The float that a text of digits with an optional sign writes, if it is not too large. -/
def digitsFloat? (cs : List Char) : Option Binary64 :=
  let (negative, body) := match cs with
    | '-' :: rest => (true, rest)
    | '+' :: rest => (false, rest)
    | cs => (false, cs)
  match decimal? body with
  | none => none
  | some (digits, fraction, exponent) =>
    match Binary64.ofDecimal negative ((natural? 10 digits).getD 0) (exponent - fraction) with
    | .finite s m e => some (.finite s m e)
    | _ => none

/-- The float that a text writes. -/
def float? (cs : List Char) : Option Binary64 :=
  let s := String.ofList cs
  let body := match cs with
    | '+' :: rest => rest
    | cs => cs
  if [".inf", ".Inf", ".INF"].contains (String.ofList body) then some (.infinite false)
  else if ["-.inf", "-.Inf", "-.INF"].contains s then some (.infinite true)
  else if [".nan", ".NaN", ".NAN"].contains s then some .nan
  else if cs.head? = some '+' ∧ (body.head? = some '+' ∨ body.head? = some '-') then none
  else digitsFloat? body

/-- What a plain scalar without a tag stands for. -/
def ofPlain (s : String) : Meaning :=
  let cs := s.toList
  if cs.isEmpty || isNull s then .null
  else
    match bool? s with
    | some b => .bool b
    | none =>
      match integer? cs with
      | some n => .integer n
      | none =>
        if hasLeadingZero cs then .text s
        else
          match float? cs with
          | some x => .float x
          | none => .text s

/-! ## Tags -/

/-- A tag of the core schema. -/
def coreTag (name : String) : String := "tag:yaml.org,2002:" ++ name

/-- Whether a tag is local to its document. -/
def isLocal (tag : String) : Bool := tag.toList.head? == some '!'

/-- What a scalar stands for. -/
def ofScalar (tag : Option String) (style : Style) (s : String) : Meaning :=
  match tag with
  | none => if style = .plain then ofPlain s else .text s
  | some tag =>
    if tag = coreTag "bool" then ((bool? s).map .bool).getD (.mistagged s "a boolean")
    else if tag = coreTag "int" then ((integer? s.toList).map .integer).getD (.mistagged s "an integer")
    else if tag = coreTag "float" then ((float? s.toList).map .float).getD (.mistagged s "a float")
    else if tag = coreTag "null" then if isNull s then .null else .mistagged s "null"
    else if isLocal tag && style = .plain then ofPlain s
    else .text s

end Meaning

end JobMatrix.Yaml
