/-!
# Positions in a text

A cursor is a position in a text together with the characters after it. Lines and columns
count from zero; a carriage return and a line feed in a row are one line break.
-/

namespace JobMatrix.Yaml

/-- A place in a text. -/
structure Mark where
  index : Nat
  line : Nat
  column : Nat
deriving DecidableEq, Inhabited

/-- A space or a tab. -/
def isSpacing (c : Char) : Bool := c == ' ' || c == '\t'

/-- A character that ends a line. -/
def isBreak (c : Char) : Bool :=
  c == '\r' || c == '\n' || c == '\u0085' || c == '\u2028' || c == '\u2029'

/-- A character of a name: an ASCII letter or digit, `_` or `-`. -/
def isNameChar (c : Char) : Bool := c.isAlphanum || c == '_' || c == '-'

/-- Whether the text is at an end of line. -/
def atBreakOrEnd : List Char → Bool
  | [] => true
  | c :: _ => isBreak c

/-- Whether the text is at a space, a tab or an end of line. -/
def atGap : List Char → Bool
  | [] => true
  | c :: _ => isSpacing c || isBreak c

/-- A place in a text with the text after it. -/
structure Cursor where
  rest : List Char
  mark : Mark
deriving Inhabited

namespace Cursor

/-- The start of a text. -/
def ofText (s : String) : Cursor := ⟨s.toList, ⟨0, 0, 0⟩⟩

/-- The character at the cursor. -/
def head? (c : Cursor) : Option Char := c.rest.head?

/-- Whether `char` is at the cursor. -/
def atChar (c : Cursor) (char : Char) : Bool := c.rest.head? == some char

/-- The cursor `n` characters further on the same line. -/
def skip (c : Cursor) (n : Nat) : Cursor :=
  ⟨c.rest.drop n, { c.mark with index := c.mark.index + n, column := c.mark.column + n }⟩

/-- The cursor after a run of characters of the same line. -/
def skipWhile (c : Cursor) (p : Char → Bool) : Cursor :=
  c.skip (c.rest.takeWhile p).length

/-- The cursor after a line break, and the break as it counts in content. -/
def takeBreak (c : Cursor) : List Char × Cursor :=
  let next (n : Nat) : Cursor := ⟨c.rest.drop n, ⟨c.mark.index + n, c.mark.line + 1, 0⟩⟩
  match c.rest with
  | '\r' :: '\n' :: _ => (['\n'], next 2)
  | '\r' :: _ | '\n' :: _ | '\u0085' :: _ => (['\n'], next 1)
  | b :: _ => if isBreak b then ([b], next 1) else ([], c)
  | [] => ([], c)

/-- The cursor after a line break, if it is at one. -/
def skipBreak (c : Cursor) : Cursor := c.takeBreak.2

/-- Whether a document marker, `---` or `...`, stands alone at the cursor. -/
def atMarker (c : Cursor) (char : Char) : Bool :=
  c.mark.column == 0 && [char, char, char].isPrefixOf c.rest && atGap (c.rest.drop 3)

/-- Whether either document marker is at the cursor. -/
def atAnyMarker (c : Cursor) : Bool := c.atMarker '-' || c.atMarker '.'

end Cursor

end JobMatrix.Yaml
