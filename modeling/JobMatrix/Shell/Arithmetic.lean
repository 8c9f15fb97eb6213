import JobMatrix.Env
import JobMatrix.Text.Digit
import JobMatrix.Word

/-!
# Arithmetic

Expressions over whole numbers of 64 bits and variables, which count as 0 where they hold no
number.
-/

namespace JobMatrix.Shell.Arithmetic

/-- A token of an expression. -/
inductive Token
  | number (n : Int)
  | name (s : String)
  | operator (s : String)
deriving DecidableEq, Inhabited

/-- The number that some digits write: in base 16 after `0x`, in base 8 after `0`, else in base 10. -/
def number? (cs : List Char) : Option Nat :=
  let (base, ds) := match cs with
    | '0' :: 'x' :: ds => (16, ds)
    | '0' :: 'X' :: ds => (16, ds)
    | '0' :: d :: ds => (8, d :: ds)
    | ds => (10, ds)
  if ds.isEmpty then none else Text.number? base ds

/-- The operators, longer ones first. -/
def operators : List String :=
  ["<<=", ">>=", "||", "&&", "==", "!=", "<=", ">=", "<<", ">>", "+=", "-=", "*=", "/=", "%=",
    "+", "-", "*", "/", "%", "<", ">", "=", "!", "~", "&", "|", "^", "(", ")", "?", ":"]

/-- The tokens of an expression. -/
def tokens : Nat → List Char → Option (List Token)
  | 0, _ => none
  | _ + 1, [] => some []
  | n + 1, c :: rest =>
    if c = ' ' || c = '\t' || c = '\n' then tokens n rest
    else if c.isDigit then do
      let ds := (c :: rest).takeWhile Char.isAlphanum
      let m ← number? ds
      return .number m :: (← tokens n ((c :: rest).drop ds.length))
    else if c.isAlpha || c = '_' then do
      let name := (c :: rest).takeWhile fun c => c.isAlphanum || c = '_'
      return .name (String.ofList name) :: (← tokens n ((c :: rest).drop name.length))
    else do
      let s := (operators.find? (·.toList.isPrefixOf (c :: rest))).getD (String.singleton c)
      return .operator s :: (← tokens n ((c :: rest).drop s.length))

/-- How tightly an operator between two operands binds. -/
def rank? (s : String) : Option Nat :=
  if s == "||" then some 1
  else if s == "&&" then some 2
  else if s == "|" then some 3
  else if s == "^" then some 4
  else if s == "&" then some 5
  else if s == "==" || s == "!=" then some 6
  else if s == "<" || s == "<=" || s == ">" || s == ">=" then some 7
  else if s == "<<" || s == ">>" then some 8
  else if s == "+" || s == "-" then some 9
  else if s == "*" || s == "/" || s == "%" then some 10
  else none

/-- The number of a truth value. -/
def truth (b : Bool) : Int := if b then 1 else 0

/-- Combines the bits of two numbers. -/
def onBits (f : BitVec 64 → BitVec 64 → BitVec 64) (a b : Int) : Int :=
  (f (BitVec.ofInt 64 a) (BitVec.ofInt 64 b)).toInt

/-- The result of an operator; there is none for a division by zero. -/
def combine (s : String) (a b : Int) : Option Int :=
  if s == "||" then some (truth (a != 0 || b != 0))
  else if s == "&&" then some (truth (a != 0 && b != 0))
  else if s == "|" then some (onBits (· ||| ·) a b)
  else if s == "^" then some (onBits (· ^^^ ·) a b)
  else if s == "&" then some (onBits (· &&& ·) a b)
  else if s == "==" then some (truth (a == b))
  else if s == "!=" then some (truth (a != b))
  else if s == "<" then some (truth (a < b))
  else if s == "<=" then some (truth (a ≤ b))
  else if s == ">" then some (truth (b < a))
  else if s == ">=" then some (truth (b ≤ a))
  else if s == "<<" then some (Word.signed (a * Nat.pow 2 (b % 64).toNat))
  else if s == ">>" then some (a / Nat.pow 2 (b % 64).toNat)
  else if s == "+" then some (Word.signed (a + b))
  else if s == "-" then some (Word.signed (a - b))
  else if s == "*" then some (Word.signed (a * b))
  else if b = 0 then none
  else if s == "/" then some (Word.signed (Int.tdiv a b))
  else some (Int.tmod a b)

/-- Why an expression has no value. -/
inductive Fault
  | expression (reason : String)
  /-- A variable that holds no number. -/
  | notANumber (text : String)
deriving DecidableEq, Inhabited

/-- What is said about a fault in an expression. -/
def Fault.message (expression : String) : Fault → String
  | .expression reason => "arithmetic expression: " ++ reason ++ ": \"" ++ expression ++ "\""
  | .notANumber text => "Illegal number: " ++ text

/-- The number of a variable; 0 if it is not set or empty. -/
def lookUp (vars : Env String) (name : String) : Except Fault Int :=
  let text := (vars.get? name).getD ""
  let cs := text.toList.filter fun c => c != ' '
  let signed (sign : Int) (ds : List Char) : Except Fault Int :=
    match number? ds with
    | some n => .ok (sign * n)
    | none => .error (.notANumber text)
  match cs with
  | [] => .ok 0
  | '-' :: ds => signed (-1) ds
  | '+' :: ds => signed 1 ds
  | ds => signed 1 ds

/-- The result of an operator, or the fault of a division by zero. -/
def combined (s : String) (a b : Int) : Except Fault Int :=
  match combine s a b with
  | some n => .ok n
  | none => .error (.expression "division by zero")

/-- What has been read of an expression: its value, the tokens after it, and the variables. -/
abbrev Evaluated := Except Fault (Int × List Token × Env String)

/-- An expression that stops where a value is needed. -/
def needsPrimary : Evaluated := .error (.expression "expecting primary")

mutual

/-- A whole expression: an assignment, a choice, or operators. -/
def expression : Nat → Env String → List Token → Evaluated
  | 0, _, _ => needsPrimary
  | n + 1, vars, ts =>
    match ts with
    | .name x :: .operator s :: rest =>
      if s == "=" then do
        let (v, ts, vars) ← expression n vars rest
        return (v, ts, vars.insert x (toString v))
      else if (s.toList.getLast? == some '=') && (rank? s).isNone then do
        let (v, ts, vars) ← expression n vars rest
        let r ← combined (String.ofList s.toList.dropLast) (← lookUp vars x) v
        return (r, ts, vars.insert x (toString r))
      else choice n vars ts
    | ts => choice n vars ts

/-- Operators, and a choice by their result. -/
def choice : Nat → Env String → List Token → Evaluated
  | 0, _, _ => needsPrimary
  | n + 1, vars, ts => do
    let (v, ts, vars) ← unary n vars ts
    let (v, ts, vars) ← joined n 1 v ts vars
    match ts with
    | .operator "?" :: ts =>
      let (a, ts, vars) ← expression n vars ts
      match ts with
      | .operator ":" :: ts =>
        let (b, ts, vars) ← expression n vars ts
        return (if v != 0 then a else b, ts, vars)
      | _ => throw (.expression "expecting ':'")
    | ts => return (v, ts, vars)

/-- What is joined to a value by operators that bind at least as tightly as some rank. -/
def joined : Nat → Nat → Int → List Token → Env String → Evaluated
  | 0, _, _, _, _ => needsPrimary
  | n + 1, least, left, ts, vars =>
    match ts with
    | .operator s :: rest =>
      match rank? s with
      | some r =>
        if least ≤ r then do
          let (v, ts, vars) ← unary n vars rest
          let (v, ts, vars) ← joined n (r + 1) v ts vars
          joined n least (← combined s left v) ts vars
        else .ok (left, ts, vars)
      | none => .ok (left, ts, vars)
    | ts => .ok (left, ts, vars)

/-- A number, a variable, or an expression in parentheses, with the signs in front of it. -/
def unary : Nat → Env String → List Token → Evaluated
  | 0, _, _ => needsPrimary
  | n + 1, vars, ts =>
    match ts with
    | .number m :: ts => .ok (Word.signed m, ts, vars)
    | .name x :: ts => (lookUp vars x).map (·, ts, vars)
    | .operator "(" :: ts => do
      let (v, ts, vars) ← expression n vars ts
      match ts with
      | .operator ")" :: ts => return (v, ts, vars)
      | _ => throw (.expression "expecting ')'")
    | .operator "-" :: ts => (unary n vars ts).map fun (v, r) => (Word.signed (-v), r)
    | .operator "+" :: ts => unary n vars ts
    | .operator "!" :: ts => (unary n vars ts).map fun (v, r) => (truth (v == 0), r)
    | .operator "~" :: ts => (unary n vars ts).map fun (v, r) => (-v - 1, r)
    | _ => needsPrimary

end

/-- The value of an expression, and the variables after it. -/
def evaluate (vars : Env String) (text : String) : Except Fault (Int × Env String) :=
  match tokens (text.length + 1) text.toList with
  | none => .error (.expression "expecting EOF")
  | some [] => .ok (0, vars)
  | some ts =>
    match expression (4 * ts.length + 4) vars ts with
    | .ok (v, [], vars) => .ok (v, vars)
    | .ok _ => .error (.expression "expecting EOF")
    | .error fault => .error fault

end JobMatrix.Shell.Arithmetic
