import JobMatrix.Files

/-!
# Patterns

A pattern is matched against a whole text. A star stands for any text, a question mark for
any character, and brackets for one of some characters; quoted, they stand for themselves.
-/

namespace JobMatrix.Shell

/-- The characters of a pattern, each with whether it is quoted. -/
abbrev Pattern := List (Char × Bool)

namespace Pattern

/-- Whether a character is one of those in brackets. -/
def inBrackets (c : Char) : Pattern → Bool
  | (a, _) :: ('-', false) :: (b, _) :: rest => (a ≤ c && c ≤ b) || inBrackets c rest
  | (a, _) :: rest => a == c || inBrackets c rest
  | [] => false

/-- What is in brackets, whether it is what may not stand there, and the pattern after them. -/
def brackets? (p : Pattern) : Option (Bool × Pattern × Pattern) :=
  let (negated, p) := match p with
    | ('!', false) :: p => (true, p)
    | ('^', false) :: p => (true, p)
    | p => (false, p)
  let first := p.take 1
  let inner := first ++ (p.drop 1).takeWhile (· != (']', false))
  match p.drop inner.length with
  | _ :: rest => some (negated, inner, rest)
  | [] => none

/-- Whether a pattern matches a text, in at most `n` steps. -/
def matchesIn : Nat → Pattern → List Char → Bool
  | 0, _, _ => false
  | _ + 1, [], cs => cs.isEmpty
  | n + 1, ('*', false) :: p, cs =>
    matchesIn n p cs || match cs with
      | _ :: cs => matchesIn n (('*', false) :: p) cs
      | [] => false
  | n + 1, ('?', false) :: p, cs =>
    match cs with
    | _ :: cs => matchesIn n p cs
    | [] => false
  | n + 1, ('[', false) :: p, cs =>
    match brackets? p, cs with
    | some (negated, inner, rest), c :: cs => inBrackets c inner != negated && matchesIn n rest cs
    | some _, [] => false
    | none, c :: cs => c == '[' && matchesIn n p cs
    | none, [] => false
  | n + 1, (a, _) :: p, cs =>
    match cs with
    | c :: cs => a == c && matchesIn n p cs
    | [] => false

/-- Whether a pattern matches a text. -/
def accepts (p : Pattern) (cs : List Char) : Bool :=
  matchesIn (p.length + cs.length + 1) p cs

/-- Whether a pattern has a character that does not stand for itself. -/
def isGeneral (p : Pattern) : Bool :=
  p.any fun (c, quoted) => !quoted && (c == '*' || c == '?' || c == '[')

/-- The text of a pattern without its quoting. -/
def text (p : Pattern) : String :=
  String.ofList (p.map (·.1))

/-- The pieces of a pattern between its slashes. -/
def pieces (p : Pattern) : List Pattern :=
  p.splitBy (fun a b => a.1 != '/' && b.1 != '/') |>.filter (·.map (·.1) != ['/'])

/-- The paths that the pieces of a pattern lead to from a directory, written behind a text. -/
def pathsFrom (fs : Files) (directory : List String) (written : String) : List Pattern → List String
  | [] => [written]
  | p :: rest =>
    let fits (name : String) : Bool :=
      p.accepts name.toList && (name.toList.head? != some '.' || (p.head?.map (·.1)) == some '.')
    let names :=
      if p.isGeneral then (fs.names directory).filter fits
      else if (fs.entry? (directory ++ [p.text])).isSome then [p.text]
      else []
    names.flatMap fun name =>
      if rest.isEmpty then [written ++ name]
      else pathsFrom fs (directory ++ [name]) (written ++ name ++ "/") rest

/-- The paths that a pattern matches, in ascending order. -/
def paths (fs : Files) (directory : List String) (p : Pattern) : List String :=
  if (p.head?.map (·.1)) == some '/' then pathsFrom fs [] "/" p.pieces
  else pathsFrom fs directory "" p.pieces

/-! ## Cutting off -/

/-- A text without the shortest or longest part at its start that a pattern matches. -/
def dropStart (p : Pattern) (longest : Bool) (cs : List Char) : List Char :=
  let cuts := (List.range (cs.length + 1)).filter fun n => p.accepts (cs.take n)
  match (if longest then cuts.getLast? else cuts.head?) with
  | some n => cs.drop n
  | none => cs

/-- A text without the shortest or longest part at its end that a pattern matches. -/
def dropEnd (p : Pattern) (longest : Bool) (cs : List Char) : List Char :=
  let cuts := (List.range (cs.length + 1)).filter fun n => p.accepts (cs.drop n)
  match (if longest then cuts.head? else cuts.getLast?) with
  | some n => cs.take n
  | none => cs

end Pattern

end JobMatrix.Shell
