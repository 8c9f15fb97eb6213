/-!
# Regular expressions

The expressions that lines are searched with: alternatives of characters, any character,
sets of characters and repetitions, held to the start or the end of the line if they say so.
-/

namespace JobMatrix.Shell

namespace Regex

/-- What a single character may be. -/
inductive Atom
  | any
  | char (c : Char)
  /-- One in some ranges, or in none of them. -/
  | oneOf (negated : Bool) (ranges : List (Char × Char))
deriving DecidableEq, Inhabited

/-- How often a character may come. -/
inductive Count
  | one
  | many
  | some
  | optional
deriving DecidableEq, Inhabited

/-- An alternative of an expression. -/
structure Branch where
  atStart : Bool
  items : List (Atom × Count)
  atEnd : Bool
deriving DecidableEq, Inhabited

/-! ## Reading -/

/-- The ranges of a set, up to the bracket that closes it. -/
def ranges (first : Bool) : Nat → List Char → Option (List (Char × Char) × List Char)
  | 0, _ => none
  | n + 1, cs =>
    match cs with
    | [] => none
    | ']' :: rest => if first then (ranges false n rest).map fun (r, cs) => ((']', ']') :: r, cs) else some ([], rest)
    | a :: '-' :: b :: rest =>
      if b = ']' then (ranges false n ('-' :: b :: rest)).map fun (r, cs) => ((a, a) :: r, cs)
      else (ranges false n rest).map fun (r, cs) => ((a, b) :: r, cs)
    | a :: rest => (ranges false n rest).map fun (r, cs) => ((a, a) :: r, cs)

/-- The count that some characters begin with, in the extended notation or not. -/
def count (extended : Bool) : List Char → Count × List Char
  | '*' :: rest => (.many, rest)
  | '\\' :: '+' :: rest => if extended then (.one, '\\' :: '+' :: rest) else (.some, rest)
  | '\\' :: '?' :: rest => if extended then (.one, '\\' :: '?' :: rest) else (.optional, rest)
  | '+' :: rest => if extended then (.some, rest) else (.one, '+' :: rest)
  | '?' :: rest => if extended then (.optional, rest) else (.one, '?' :: rest)
  | cs => (.one, cs)

/-- Reads the items of an alternative. -/
def items (extended : Bool) : Nat → List Char → Branch → Branch × List Char
  | 0, cs, b => (b, cs)
  | n + 1, cs, b =>
    let add (atom : Atom) (rest : List Char) : Branch × List Char :=
      let (c, rest) := count extended rest
      items extended n rest { b with items := b.items ++ [(atom, c)] }
    match cs with
    | [] => (b, [])
    | ['$'] => ({ b with atEnd := true }, [])
    | '\\' :: '|' :: rest => if extended then add (.char '|') rest else (b, '|' :: rest)
    | '|' :: rest => if extended then (b, '|' :: rest) else add (.char '|') rest
    | '$' :: '|' :: rest =>
      if extended then ({ b with atEnd := true }, '|' :: rest) else add (.char '$') ('|' :: rest)
    | '.' :: rest => add .any rest
    | '[' :: '^' :: rest =>
      match ranges true (rest.length + 1) rest with
      | some (r, rest) => add (.oneOf true r) rest
      | none => add (.char '[') ('^' :: rest)
    | '[' :: rest =>
      match ranges true (rest.length + 1) rest with
      | some (r, rest) => add (.oneOf false r) rest
      | none => add (.char '[') rest
    | '\\' :: c :: rest => add (.char c) rest
    | c :: rest => add (.char c) rest

/-- Reads the alternatives of an expression. -/
def read (extended : Bool) : Nat → List Char → List Branch
  | 0, _ => []
  | n + 1, cs =>
    let (atStart, body) := match cs with
      | '^' :: rest => (true, rest)
      | cs => (false, cs)
    match items extended (body.length + 1) body ⟨atStart, [], false⟩ with
    | (b, '|' :: rest) => b :: read extended n rest
    | (b, _) => [b]

/-! ## Searching -/

/-- Whether a character is what an atom allows. -/
def Atom.allows (c : Char) : Atom → Bool
  | .any => true
  | .char d => c == d
  | .oneOf negated ranges => (ranges.any fun (a, b) => a ≤ c && c ≤ b) != negated

/-- Whether items match the start of a text, and its end if they are held to it. -/
def matchesHere (atEnd : Bool) : Nat → List (Atom × Count) → List Char → Bool
  | 0, _, _ => false
  | _ + 1, [], cs => !atEnd || cs.isEmpty
  | n + 1, (a, k) :: items, cs =>
    let skips := (k = .many || k = .optional) && matchesHere atEnd n items cs
    skips || match cs with
      | c :: rest =>
        a.allows c && match k with
          | .one | .optional => matchesHere atEnd n items rest
          | .many | .some => matchesHere atEnd n ((a, .many) :: items) rest
      | [] => false

/-- Whether something holds of the rest of a text from some point on. -/
def fromSomewhere (holds : List Char → Bool) : List Char → Bool
  | [] => holds []
  | c :: cs => holds (c :: cs) || fromSomewhere holds cs

/-- Whether an alternative matches somewhere in a text. -/
def Branch.occurs (b : Branch) (text : List Char) : Bool :=
  let here (cs : List Char) : Bool := matchesHere b.atEnd (b.items.length + cs.length + 1) b.items cs
  if b.atStart then here text else fromSomewhere here text

end Regex

end JobMatrix.Shell
