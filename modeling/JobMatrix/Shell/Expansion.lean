import JobMatrix.Shell.Arithmetic
import JobMatrix.Shell.Machine
import JobMatrix.Shell.Pattern
import JobMatrix.Shell.Token

/-!
# Expanded words

A word expands into characters that remember where they came from: quoted ones stand for
themselves, those from unquoted parameters are split into fields at blanks, and the rest may
form patterns.
-/

namespace JobMatrix.Shell

/-- A part of an expanded word. -/
inductive Glyph
  | char (c : Char) (quoted : Bool)
  /-- From an unquoted parameter or command. -/
  | split (c : Char)
  /-- Quotes with nothing in them. -/
  | empty
  /-- The border between two positional parameters. -/
  | border
deriving DecidableEq, Inhabited

namespace Glyph

/-- A text in quotes. -/
def quoted (s : String) : List Glyph :=
  .empty :: s.toList.map (.char · true)

/-- A value in quotes or not. -/
def value (inQuotes : Bool) (s : String) : List Glyph :=
  if inQuotes then s.toList.map (.char · true) else s.toList.map .split

/-- The positional parameters as fields of their own. -/
def positional (inQuotes : Bool) (values : List String) : List Glyph :=
  ([.border] : List Glyph).intercalate (values.map fun v => (if inQuotes then [.empty] else []) ++ value inQuotes v)

/-- Whether a character is a blank. -/
def isSpace (c : Char) : Bool :=
  c = ' ' || c = '\t' || c = '\n'

/-- The fields of glyphs, where the characters of `ifs` separate fields: blanks in any number, others each
on its own. `field` holds the current field, the last glyph first, if it has begun; `spaced` says that
blanks have ended the field before. -/
def fieldsFrom (ifs : List Char) (field : Option Pattern) (spaced : Bool) : List Glyph → List Pattern
  | [] => (field.map List.reverse).toList
  | .empty :: gs => fieldsFrom ifs (some (field.getD [])) false gs
  | .border :: gs => (field.map List.reverse).toList ++ fieldsFrom ifs none false gs
  | .char c q :: gs => fieldsFrom ifs (some ((c, q) :: field.getD [])) false gs
  | .split c :: gs =>
    if !ifs.contains c then fieldsFrom ifs (some ((c, false) :: field.getD [])) false gs
    else if isSpace c then
      (field.map List.reverse).toList ++ fieldsFrom ifs none (spaced || field.isSome) gs
    else
      match field with
      | some field => field.reverse :: fieldsFrom ifs none false gs
      | none => if spaced then fieldsFrom ifs none false gs else [] :: fieldsFrom ifs none false gs

/-- The text of glyphs that are not split. -/
def text (gs : List Glyph) : String :=
  String.ofList (gs.filterMap fun
    | .char c _ | .split c => some c
    | .border => some ' '
    | .empty => none)

/-- The pattern of glyphs that are not split. -/
def pattern (gs : List Glyph) : Pattern :=
  gs.filterMap fun
    | .char c q => some (c, q)
    | .split c => some (c, false)
    | _ => none

end Glyph

/-- The characters that separate fields. -/
def Machine.separators (m : Machine) : List Char :=
  ((m.vars.get? "IFS").getD " \t\n").toList

/-- The words that fields come to: the paths that a pattern matches, or the field itself. -/
def globbed (m : Machine) (field : Pattern) : List String :=
  if field.isGeneral && !m.options.noglob then
    match field.paths m.files m.directory with
    | [] => [field.text]
    | paths => paths
  else [field.text]

/-- A word with the path of the home directory where it starts with a tilde. -/
def Machine.withHome (m : Machine) (word : List Char) : List Char :=
  match word, m.vars.get? "HOME" with
  | ['~'], some home => home.toList
  | '~' :: '/' :: rest, some home => home.toList ++ '/' :: rest
  | word, _ => word

/-- A text without the line feeds at its end. -/
def chompLines (bs : List UInt8) : List UInt8 :=
  (bs.reverse.dropWhile (· == 10)).reverse

/-- What stands in braces. -/
structure Braces where
  /-- Whether the length is asked for. -/
  isLength : Bool
  name : String
  operator : String
  word : List Char
deriving DecidableEq, Inhabited

/-- The characters that are parameters of their own. -/
def specialParameters : List Char := ['?', '$', '!', '#', '-', '*', '@']

/-- Whether a character can be part of a name or number. -/
def isNameChar (c : Char) : Bool := c.isAlphanum || c = '_'

/-- Reads what stands in braces, if it can be made sense of. -/
def readBraces (cs : List Char) : Option Braces :=
  let (isLength, cs) := match cs with
    | '#' :: c :: rest =>
      if isNameChar c || (specialParameters.contains c && rest.isEmpty) then (true, c :: rest)
      else (false, '#' :: c :: rest)
    | cs => (false, cs)
  let name := match cs with
    | c :: _ =>
      if c.isDigit then cs.takeWhile Char.isDigit
      else if isNameChar c then cs.takeWhile isNameChar
      else if specialParameters.contains c then [c]
      else []
    | [] => []
  let rest := cs.drop name.length
  let operators := [":-", ":=", ":+", ":?", "-", "=", "+", "?", "%%", "%", "##", "#"]
  if name.isEmpty then none
  else
    match operators.find? (·.toList.isPrefixOf rest) with
    | some op => some ⟨isLength, String.ofList name, op, rest.drop op.length⟩
    | none => if rest.isEmpty then some ⟨isLength, String.ofList name, "", []⟩ else none

/-- The name of a parameter after a dollar sign, and the text after it. -/
def takeParameter (cs : List Char) : Option (String × List Char) :=
  match cs with
  | [] => none
  | c :: rest =>
    if c.isAlpha || c = '_' then
      let name := cs.takeWhile fun c => c.isAlphanum || c = '_'
      some (String.ofList name, cs.drop name.length)
    else if c.isDigit || ['?', '$', '!', '#', '-', '*', '@'].contains c then
      some (String.singleton c, rest)
    else none

/-- The text of a command in backquotes, without the backslashes that protect it. -/
def unprotected : List Char → List Char
  | '\\' :: c :: rest =>
    if c = '\x60' || c = '\\' || c = '$' then c :: unprotected rest else '\\' :: c :: unprotected rest
  | c :: rest => c :: unprotected rest
  | [] => []

end JobMatrix.Shell
