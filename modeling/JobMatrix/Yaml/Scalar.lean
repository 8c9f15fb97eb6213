import JobMatrix.Text.Digit
import JobMatrix.Yaml.Cursor

/-!
# Written scalars

How the content of a scalar is read off its written form: plain, quoted, or as a block of
lines. Line breaks inside of a scalar fold: a single one becomes a space, and of several
one is dropped. The functions answer `none` where the text breaks the rules of the form.

The loops are given fuel for every character that is left, and each turn uses up at least
one of them.
-/

namespace JobMatrix.Yaml

/-- The form in which a scalar is written. -/
inductive Style
  | plain
  | singleQuoted
  | doubleQuoted
  | literal
  | folded
deriving DecidableEq, Inhabited

namespace Scalar

/-- A stretch between two words of a scalar: the spacing of the line, or the breaks between lines. -/
structure Gap where
  /-- The spacing before the first break. -/
  spacing : List Char
  /-- The first break, if there is one. -/
  break? : Option (List Char)
  /-- The breaks after the first. -/
  further : List Char
deriving Inhabited

/-- The stretch of no characters. -/
def Gap.none : Gap := ⟨[], Option.none, []⟩

/-- What a stretch leaves in the content. -/
def Gap.fold (g : Gap) : List Char :=
  match g.break? with
  | Option.none => g.spacing
  | some first =>
    if first = ['\n'] then (if g.further.isEmpty then [' '] else g.further)
    else first ++ g.further

/-- Takes a stretch of spacing and breaks. A tab that stands before column `indent` after a break
is refused. -/
def takeGap (indent : Nat) : Nat → Gap → Cursor → Option (Gap × Cursor)
  | 0, g, c => some (g, c)
  | fuel + 1, g, c =>
    match c.head? with
    | Option.none => some (g, c)
    | some char =>
      if isSpacing char then
        if g.break?.isSome then
          if char = '\t' ∧ c.mark.column < indent then Option.none
          else takeGap indent fuel g (c.skip 1)
        else takeGap indent fuel { g with spacing := g.spacing ++ [char] } (c.skip 1)
      else if isBreak char then
        let (b, c) := c.takeBreak
        if g.break?.isSome then takeGap indent fuel { g with further := g.further ++ b } c
        else takeGap indent fuel { g with break? := some b } c
      else some (g, c)

/-- A stretch of spacing and breaks from the cursor on. -/
def gapAt (indent : Nat) (c : Cursor) : Option (Gap × Cursor) :=
  takeGap indent (c.rest.length + 1) Gap.none c

/-! ## Quoted scalars -/

/-- The character of a code point. -/
def codePoint? (n : Nat) : Option Char :=
  if n.isValidChar then some (Char.ofNat n) else Option.none

/-- The character for a one-letter escape. -/
def simpleEscape? (c : Char) : Option Char :=
  match c with
  | '0' => some '\x00'
  | 'a' => some '\x07'
  | 'b' => some '\x08'
  | 't' | '\t' => some '\t'
  | 'n' => some '\n'
  | 'v' => some '\x0b'
  | 'f' => some '\x0c'
  | 'r' => some '\r'
  | 'e' => some '\x1b'
  | ' ' => some ' '
  | '"' => some '"'
  | '/' => some '/'
  | '\\' => some '\\'
  | 'N' => some '\u0085'
  | '_' => some '\u00a0'
  | 'L' => some '\u2028'
  | 'P' => some '\u2029'
  | _ => Option.none

/-- The number of digits that a numeric escape has. -/
def escapeWidth? (c : Char) : Option Nat :=
  match c with
  | 'x' => some 2
  | 'u' => some 4
  | 'U' => some 8
  | _ => Option.none

/-- The character written by the escape after a backslash, and the length of the escape. -/
def escape? (cs : List Char) : Option (Char × Nat) :=
  match cs with
  | [] => Option.none
  | c :: rest =>
    match escapeWidth? c with
    | some width =>
      if rest.length < width then Option.none
      else do
        let char ← codePoint? (← Text.number? 16 (rest.take width))
        some (char, width + 1)
    | Option.none => (simpleEscape? c).map (·, 1)

/-- Where a run of words in a quoted scalar stopped. -/
inductive QuotedStop
  | quote
  | gap
  | escapedBreak

/-- Puts a character in front of a run of characters. -/
def cons {α : Type} (char : Char) : Option (List Char × α) → Option (List Char × α)
  | Option.none => Option.none
  | some (cs, a) => some (char :: cs, a)

/-- Takes characters of a quoted scalar up to its end, to spacing or to a break. -/
def takeQuoted (single : Bool) : Nat → Cursor → Option (List Char × QuotedStop × Cursor)
  | 0, _ => Option.none
  | fuel + 1, c =>
    if atGap c.rest then some ([], .gap, c)
    else
      match c.rest with
      | [] => some ([], .gap, c)
      | char :: rest =>
        if single then
          if char = '\'' then
            if rest.head? = some '\'' then cons '\'' (takeQuoted single fuel (c.skip 2))
            else some ([], .quote, c)
          else cons char (takeQuoted single fuel (c.skip 1))
        else if char = '"' then some ([], .quote, c)
        else if char = '\\' then
          if rest.head?.any isBreak then some ([], .escapedBreak, (c.skip 1).skipBreak)
          else
            match escape? rest with
            | Option.none => Option.none
            | some (e, width) => cons e (takeQuoted single fuel (c.skip (width + 1)))
        else cons char (takeQuoted single fuel (c.skip 1))

/-- The content of a quoted scalar after its opening quote, and the cursor after the closing one. -/
def quotedFrom (single : Bool) : Nat → List Char → Cursor → Option (List Char × Cursor)
  | 0, _, _ => Option.none
  | fuel + 1, content, c =>
    if c.atAnyMarker || c.rest.isEmpty then Option.none
    else do
      let (words, stop, c) ← takeQuoted single (c.rest.length + 1) c
      let content := content ++ words
      match stop with
      | .quote => some (content, c.skip 1)
      | .gap =>
        let (g, c) ← gapAt 0 c
        quotedFrom single fuel (content ++ g.fold) c
      | .escapedBreak =>
        let (g, c) ← takeGap 0 (c.rest.length + 1) ⟨[], some [], []⟩ c
        quotedFrom single fuel (content ++ g.further) c

/-- The quoted scalar at the cursor. -/
def quoted (c : Cursor) : Option (String × Style × Cursor) :=
  let single := c.atChar '\''
  (quotedFrom single (c.rest.length + 1) [] (c.skip 1)).map fun (content, c) =>
    (String.ofList content, if single then .singleQuoted else .doubleQuoted, c)

/-! ## Plain scalars -/

/-- A character that is never part of a plain scalar inside brackets. -/
def isFlowIndicator (c : Char) : Bool :=
  c == ',' || c == '[' || c == ']' || c == '\x7b' || c == '\x7d'

/-- Takes characters of a plain scalar up to a place where it may end. -/
def takePlain (flow : Bool) : Nat → Cursor → Option (List Char × Cursor)
  | 0, _ => Option.none
  | fuel + 1, c =>
    if atGap c.rest then some ([], c)
    else
      match c.rest with
      | [] => some ([], c)
      | char :: rest =>
        if flow && char == ':' && rest.head?.any fun n => isFlowIndicator n || n == '?' then Option.none
        else if (char == ':' && atGap rest) || (flow && isFlowIndicator char) then some ([], c)
        else cons char (takePlain flow fuel (c.skip 1))

/-- The content of a plain scalar that goes on after `gap`, the cursor after its last character, the
cursor after the stretch that follows it, and whether that stretch holds a break. -/
def plainFrom (flow : Bool) (indent : Nat) :
    Nat → List Char → Gap → Cursor → Cursor → Option (List Char × Cursor × Cursor × Bool)
  | 0, _, _, _, _ => Option.none
  | fuel + 1, content, gap, last, c =>
    let broken := gap.break?.isSome
    if c.atAnyMarker || c.atChar '#' then some (content, last, c, broken)
    else do
      let (words, after) ← takePlain flow (c.rest.length + 1) c
      if words.isEmpty then some (content, last, c, broken)
      else
        let content := content ++ gap.fold ++ words
        if after.rest.head?.any fun n => isSpacing n || isBreak n then
          let (next, c) ← gapAt indent after
          if !flow && c.mark.column < indent then some (content, after, c, next.break?.isSome)
          else plainFrom flow indent fuel content next after c
        else some (content, after, after, false)

/-- The plain scalar at the cursor: its content, its end, the cursor after the stretch that follows it,
and whether that stretch holds a break. -/
def plain (flow : Bool) (indent : Nat) (c : Cursor) : Option (String × Cursor × Cursor × Bool) :=
  (plainFrom flow indent (c.rest.length + 1) [] Gap.none c c).map fun (content, last, c, broken) =>
    (String.ofList content, last, c, broken)

/-! ## Block scalars -/

/-- What becomes of the breaks at the end of a block scalar. -/
inductive Chomping
  | strip
  | clip
  | keep
deriving DecidableEq

/-- The mark of a way to chomp. -/
def chomping? (c : Char) : Option Chomping :=
  match c with
  | '+' => some .keep
  | '-' => some .strip
  | _ => Option.none

/-- The indentation that a digit of a block header asks for; zero is refused. -/
def blockIndent? (c : Char) : Option Nat :=
  if c == '0' then Option.none else some (c.toNat - '0'.toNat)

/-- The header of a block scalar after its indicator: how to chomp, the indentation if given, and the
cursor after the header's line. -/
def blockHeader (c : Cursor) : Option (Chomping × Option Nat × Cursor) := do
  let (chomping, indent, c) ← marks c
  let c := c.skipWhile isSpacing
  let c := if c.atChar '#' then c.skipWhile (!isBreak ·) else c
  if atBreakOrEnd c.rest then some (chomping, indent, c.skipBreak) else Option.none
where
  marks (c : Cursor) : Option (Chomping × Option Nat × Cursor) :=
    match c.rest with
    | [] => some (.clip, Option.none, c)
    | a :: rest =>
      match chomping? a with
      | some chomping =>
        if rest.head?.any Char.isDigit then
          rest.head?.bind fun d => (blockIndent? d).map fun n => (chomping, some n, c.skip 2)
        else some (chomping, Option.none, c.skip 1)
      | Option.none =>
        if a.isDigit then do
          let n ← blockIndent? a
          match rest.head?.bind chomping? with
          | some chomping => some (chomping, some n, c.skip 2)
          | Option.none => some (.clip, some n, c.skip 1)
        else some (.clip, Option.none, c)

/-- Takes blank lines and the indentation of the next line: the breaks, the greatest column reached, and
the cursor. Without an indentation all spaces are taken. -/
def takeBreaks (indent : Option Nat) : Nat → List Char → Nat → Cursor → Option (List Char × Nat × Cursor)
  | 0, _, _, _ => Option.none
  | fuel + 1, breaks, greatest, c =>
    let spaces := (c.rest.takeWhile (· == ' ')).length
    let c := c.skip (match indent with
      | some n => min spaces (n - c.mark.column)
      | Option.none => spaces)
    let greatest := max greatest c.mark.column
    let short := indent.all fun n => decide (c.mark.column < n)
    if short && c.atChar '\t' then Option.none
    else if c.head?.any isBreak then
      let (b, c) := c.takeBreak
      takeBreaks indent fuel (breaks ++ b) greatest c
    else some (breaks, greatest, c)

/-- The state between two lines of a block scalar. -/
structure BlockState where
  content : List Char
  /-- The break that ended the last line, unless it has already been folded away. -/
  lastBreak : List Char
  /-- Breaks of blank lines after the last line. -/
  blankLines : List Char
  /-- Whether the last line began with spacing. -/
  spaced : Bool

/-- The lines of a block scalar at column `indent`. -/
def blockLines (literal : Bool) (indent : Nat) : Nat → BlockState → Cursor → Option (BlockState × Cursor)
  | 0, _, _ => Option.none
  | fuel + 1, s, c =>
    if c.mark.column ≠ indent || c.rest.isEmpty then some (s, c)
    else do
      let spaced := c.head?.any isSpacing
      let joint :=
        if !literal && s.lastBreak.head? == some '\n' && !s.spaced && !spaced then
          if s.blankLines.isEmpty then [' '] else []
        else s.lastBreak
      let line := c.rest.takeWhile (!isBreak ·)
      let (lastBreak, c) := (c.skip line.length).takeBreak
      let (blankLines, _, c) ← takeBreaks (some indent) (c.rest.length + 1) [] 0 c
      blockLines literal indent fuel
        ⟨s.content ++ joint ++ s.blankLines ++ line, lastBreak, blankLines, spaced⟩ c

/-- The block scalar at the cursor, below a block at column `parent`. -/
def block (parent : Int) (c : Cursor) : Option (String × Style × Cursor) := do
  let literal := c.atChar '|'
  let (chomping, increment, c) ← blockHeader (c.skip 1)
  let given := increment.map fun n => if 0 ≤ parent then parent.toNat + n else n
  let (blankLines, greatest, c) ← takeBreaks given (c.rest.length + 1) [] 0 c
  let indent := given.getD (max (max greatest (parent + 1).toNat) 1)
  let (s, c) ← blockLines literal indent (c.rest.length + 1) ⟨[], [], blankLines, false⟩ c
  let tail := match chomping with
    | .strip => []
    | .clip => s.lastBreak
    | .keep => s.lastBreak ++ s.blankLines
  some (String.ofList (s.content ++ tail), if literal then .literal else .folded, c)

end Scalar

end JobMatrix.Yaml
