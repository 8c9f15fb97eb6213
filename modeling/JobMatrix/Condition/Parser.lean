import JobMatrix.Condition.Basic
import JobMatrix.Condition.Token

/-!
# Reading a condition

`||` binds weakest, then `&&`, both to the left, then `!`. A comparison has an axis or a
quoted string on its left and a value on its right, where only `matrix.NAME` is an axis.
Every function returns the tokens it left over together with the fact that they are
fewer, which is what the recursion ends by.
-/

namespace JobMatrix.Condition

/-- Why a text is no condition. -/
inductive Fault
  | token (fault : Token.Fault)
  | empty
  | unexpected (token : Token)
  | unclosed
  | unexpectedEnd
  | missingComparison
  | missingValue
deriving DecidableEq

/-- The message for a fault of the condition written as `source`. -/
def Fault.message (source : String) : Fault → String
  | .token (.unexpected c offset) =>
    "unexpected '" ++ c.toString ++ "' at offset " ++ toString offset ++ within
  | .token .unterminated => "unterminated string" ++ within
  | .empty => "condition is empty"
  | .unexpected t => "unexpected " ++ t.display ++ within
  | .unclosed => "missing ')'" ++ within
  | .unexpectedEnd => "unexpected end of expression" ++ within
  | .missingComparison => "expected '==' or '!='" ++ within
  | .missingValue => "expected a value after comparison" ++ within
where
  within : String := " in condition '" ++ source ++ "'"

/-- The mark that makes a word an axis wherever it stands. -/
def axisMark : List Char := "matrix.".toList

/-- The axis that a word names once `matrix.` is taken off its front, if it is there. -/
def marked? (word : String) : Option String :=
  if axisMark.isPrefixOf word.toList then
    some (String.ofList (word.toList.drop axisMark.length))
  else none

/-- The axis that a word stands for where only axes can stand. -/
def axisName (word : String) : String :=
  (marked? word).getD word

/-- A word on its own: one of the two literals, or a test of an axis. -/
def ofWord (word : String) : Condition :=
  if word = "true" then .literal true
  else if word = "false" then .literal false
  else .truthy (axisName word)

/-- A word to the right of a comparison. -/
def Operand.ofWord (word : String) : Operand :=
  match marked? word with
  | some axis => .axis axis
  | none => .value word

/-- A result of reading `ts` and the tokens left over, which are fewer. -/
abbrev Parsed (ts : List Token) := Condition × { rest : List Token // rest.length < ts.length }

/-- The comparison a token stands for. -/
def comparison? : Token → Option Comparison
  | .equal => some .equal
  | .different => some .different
  | _ => none

/-- The comparison that begins with `left`, read from the tokens after it. -/
def parseComparison (left : Operand) (ts : List Token) : Except Fault (Parsed ts) :=
  match ts with
  | [] => .error .missingComparison
  | t :: ts =>
    match comparison? t with
    | none => .error .missingComparison
    | some comparison =>
      match ts with
      | .word word :: rest =>
        .ok (.compare left comparison (Operand.ofWord word), ⟨rest, by simp only [List.length_cons]; omega⟩)
      | .quoted text :: rest =>
        .ok (.compare left comparison (.value text), ⟨rest, by simp only [List.length_cons]; omega⟩)
      | _ => .error .missingValue

/-- A parsed piece seen as a piece of a longer token list. -/
def Parsed.widen {ts us : List Token} (h : ts.length ≤ us.length) (p : Parsed ts) : Parsed us :=
  (p.1, ⟨p.2.1, Nat.lt_of_lt_of_le p.2.2 h⟩)

mutual

/-- A disjunction. -/
def parseOr (ts : List Token) : Except Fault (Parsed ts) :=
  match parseAnd ts with
  | .error e => .error e
  | .ok (left, rest) =>
    match parseOrTail left rest.1 with
    | .error e => .error e
    | .ok (c, rest') => .ok (c, ⟨rest'.1, Nat.lt_of_le_of_lt rest'.2 rest.2⟩)
termination_by (ts.length, 3)

/-- The further alternatives after `left`. -/
def parseOrTail (left : Condition) (ts : List Token) :
    Except Fault (Condition × { rest : List Token // rest.length ≤ ts.length }) :=
  match ts with
  | .or :: ts =>
    match parseAnd ts with
    | .error e => .error e
    | .ok (right, rest) =>
      have := rest.2
      match parseOrTail (.or left right) rest.1 with
      | .error e => .error e
      | .ok (c, rest') =>
        .ok (c, ⟨rest'.1, Nat.le_trans rest'.2 (by simp only [List.length_cons]; omega)⟩)
  | ts => .ok (left, ⟨ts, Nat.le_refl _⟩)
termination_by (ts.length, 3)

/-- A conjunction. -/
def parseAnd (ts : List Token) : Except Fault (Parsed ts) :=
  match parseUnary ts with
  | .error e => .error e
  | .ok (left, rest) =>
    match parseAndTail left rest.1 with
    | .error e => .error e
    | .ok (c, rest') => .ok (c, ⟨rest'.1, Nat.lt_of_le_of_lt rest'.2 rest.2⟩)
termination_by (ts.length, 2)

/-- The further members of a conjunction after `left`. -/
def parseAndTail (left : Condition) (ts : List Token) :
    Except Fault (Condition × { rest : List Token // rest.length ≤ ts.length }) :=
  match ts with
  | .and :: ts =>
    match parseUnary ts with
    | .error e => .error e
    | .ok (right, rest) =>
      have := rest.2
      match parseAndTail (.and left right) rest.1 with
      | .error e => .error e
      | .ok (c, rest') =>
        .ok (c, ⟨rest'.1, Nat.le_trans rest'.2 (by simp only [List.length_cons]; omega)⟩)
  | ts => .ok (left, ⟨ts, Nat.le_refl _⟩)
termination_by (ts.length, 2)

/-- A condition that may be negated. -/
def parseUnary (ts : List Token) : Except Fault (Parsed ts) :=
  match ts with
  | .not :: ts =>
    match parseUnary ts with
    | .error e => .error e
    | .ok (inner, rest) => .ok (.not inner, ⟨rest.1, Nat.lt_succ_of_lt rest.2⟩)
  | ts => parsePrimary ts
termination_by (ts.length, 1)

/-- A condition in parentheses, a word on its own, or a comparison. -/
def parsePrimary (ts : List Token) : Except Fault (Parsed ts) :=
  match ts with
  | [] => .error .unexpectedEnd
  | .open :: ts =>
    match parseOr ts with
    | .error e => .error e
    | .ok (inner, ⟨.close :: rest, h⟩) =>
      .ok (inner, ⟨rest, by simp only [List.length_cons] at h ⊢; omega⟩)
    | .ok _ => .error .unclosed
  | .word word :: ts =>
    match ts.head?.bind comparison? with
    | none => .ok (ofWord word, ⟨ts, by simp⟩)
    | some _ => (parseComparison (.axis (axisName word)) ts).map (Parsed.widen (by simp))
  | .quoted text :: ts => (parseComparison (.value text) ts).map (Parsed.widen (by simp))
  | t :: _ => .error (.unexpected t)
termination_by (ts.length, 0)

end

/-- The condition that a whole token list is. -/
def ofTokens (ts : List Token) : Except Fault Condition :=
  if ts.isEmpty then .error .empty
  else
    match parseOr ts with
    | .error e => .error e
    | .ok (c, ⟨[], _⟩) => .ok c
    | .ok (_, ⟨t :: _, _⟩) => .error (.unexpected t)

/-- The condition that a text is. -/
def parse (source : String) : Except Fault Condition :=
  match Token.scan source with
  | .error e => .error (.token e)
  | .ok ts => ofTokens ts

end JobMatrix.Condition
