import JobMatrix.Yaml.Scalar

/-!
# Tokens of a document

A text is cut into tokens from left to right. Indentation becomes explicit start and end
tokens of blocks, and a key is only known to be one when its `:` is met, so the token that
announces it is put in front of it afterwards. Until then the tokens from the possible
key on are held back: if the text breaks a rule first, they never come out.
-/

namespace JobMatrix.Yaml

/-- What a token says. -/
inductive Token.Kind
  | streamEnd
  | version (major minor : Nat)
  | tagHandle (handle expansion : String)
  | documentStart
  | documentEnd
  | blockSequence
  | blockMapping
  | blockEnd
  | flowSequence
  | flowSequenceEnd
  | flowMapping
  | flowMappingEnd
  | entry
  | separator
  | key
  | value
  | alias (name : String)
  | anchor (name : String)
  | tag (handle suffix : String)
  | scalar (style : Style) (text : String)
deriving DecidableEq, Inhabited

/-- A token and where it stands. -/
structure Token where
  kind : Token.Kind
  start : Mark
  stop : Mark
deriving Inhabited

namespace Token

/-- A place where a key may have begun. -/
structure PossibleKey where
  /-- Whether the layout allows nothing but a key there. -/
  required : Bool
  /-- The number of the token that the key begins with. -/
  number : Nat
  mark : Mark
deriving Inhabited

/-- A text partly cut into tokens. -/
structure Scan where
  cursor : Cursor
  /-- The column of the innermost block, -1 outside of all blocks. -/
  indent : Int
  /-- The columns of the outer blocks, innermost first. -/
  outer : List Int
  /-- Whether a key may begin at the cursor. -/
  keyAllowed : Bool
  /-- The possible key of every open bracket and of the text around them, innermost first. -/
  keys : List (Option PossibleKey)
  /-- The tokens, last first. -/
  tokens : List Token
  count : Nat
  /-- How many tokens can no longer change. -/
  settled : Nat
deriving Inhabited

namespace Scan

/-- A text before its first token. -/
def start (text : String) : Scan where
  cursor := Cursor.ofText text
  indent := -1
  outer := []
  keyAllowed := true
  keys := [none]
  tokens := []
  count := 0
  settled := 0

/-- Whether the cursor is inside of brackets. -/
def inFlow (s : Scan) : Bool := 1 < s.keys.length

/-- Appends a token. -/
def push (s : Scan) (kind : Kind) (start stop : Mark) : Scan :=
  { s with tokens := ⟨kind, start, stop⟩ :: s.tokens, count := s.count + 1 }

/-- Puts a token in front of the token with a number. -/
def insertAt (s : Scan) (number : Nat) (kind : Kind) (mark : Mark) : Scan :=
  let later := s.count - number
  { s with
    tokens := s.tokens.take later ++ ⟨kind, mark, mark⟩ :: s.tokens.drop later
    count := s.count + 1 }

/-- Appends a token of `n` characters at the cursor and goes past it. -/
def pushHere (s : Scan) (kind : Kind) (n : Nat) : Scan :=
  let next := s.cursor.skip n
  { s.push kind s.cursor.mark next.mark with cursor := next }

/-! ## Possible keys -/

/-- Whether a key that began at `mark` can no longer end in a `:` at the cursor: it has to stand on one
line and within 1024 characters. -/
def isStale (s : Scan) (key : PossibleKey) : Bool :=
  key.mark.line < s.cursor.mark.line || key.mark.index + 1024 < s.cursor.mark.index

/-- Gives up the keys that are too far away; a required one cannot be given up. -/
def dropStale (s : Scan) : Option Scan :=
  if s.keys.any fun k => k.any fun key => s.isStale key && key.required then none
  else some { s with keys := s.keys.map fun k => k.filter fun key => !s.isStale key }

/-- Gives up the innermost possible key. -/
def dropKey (s : Scan) : Option Scan :=
  match s.keys with
  | some key :: outer => if key.required then none else some { s with keys := none :: outer }
  | _ => some s

/-- Remembers that a key may begin at the cursor. -/
def noteKey (s : Scan) : Option Scan :=
  if s.keyAllowed then
    let key : PossibleKey :=
      { required := !s.inFlow && s.indent == s.cursor.mark.column
        number := s.count
        mark := s.cursor.mark }
    s.dropKey.map fun s => { s with keys := some key :: s.keys.drop 1 }
  else some s

/-- How many tokens come before every possible key. -/
def settledCount (s : Scan) : Nat :=
  s.keys.foldl (fun n k => (k.map fun key => min n key.number).getD n) s.count

/-! ## Indentation -/

/-- Opens a block at a column that is further right than the current block. The token stands in front of
the token `number`, or last. -/
def openBlock (s : Scan) (column : Nat) (number : Option Nat) (kind : Kind) (mark : Mark) : Scan :=
  if !s.inFlow && s.indent < column then
    let s := { s with indent := column, outer := s.indent :: s.outer }
    match number with
    | some n => s.insertAt n kind mark
    | none => s.push kind mark mark
  else s

/-- Closes the blocks that are further right than a column. -/
def closeBlocks (s : Scan) (column : Int) : Scan :=
  if s.inFlow then s else close s s.outer
where
  close (s : Scan) : List Int → Scan
    | [] => s
    | indent :: outer =>
      if column < s.indent then
        let mark := s.cursor.mark
        close { s.push .blockEnd mark mark with indent := indent, outer := outer } outer
      else s

/-! ## One token -/

/-- Goes past spacing, comments and breaks. A tab is spacing only where no key can begin. -/
def skipGaps (s : Scan) : Scan :=
  go (s.cursor.rest.length + 1) s
where
  go : Nat → Scan → Scan
    | 0, s => s
    | fuel + 1, s =>
      let c := s.cursor
      let c := if c.mark.column == 0 && c.atChar '\ufeff' then c.skip 1 else c
      let c := c.skipWhile fun char => char == ' ' || ((s.inFlow || !s.keyAllowed) && char == '\t')
      let c := if c.atChar '#' then c.skipWhile (!isBreak ·) else c
      if c.head?.any isBreak then
        go fuel { s with cursor := c.skipBreak, keyAllowed := s.keyAllowed || !s.inFlow }
      else { s with cursor := c }

/-- Ends the text. -/
def takeEnd (s : Scan) : Option Scan := do
  let mark := s.cursor.mark
  let mark := if mark.column = 0 then mark else { mark with line := mark.line + 1, column := 0 }
  let s := { s with cursor := { s.cursor with mark := mark } }
  let s ← (s.closeBlocks (-1)).dropKey
  some ({ s with keyAllowed := false }.push .streamEnd mark mark)

/-- A document marker. -/
def takeMarker (s : Scan) (kind : Kind) : Option Scan := do
  let s ← (s.closeBlocks (-1)).dropKey
  some ({ s with keyAllowed := false }.pushHere kind 3)

/-- An opening bracket. -/
def takeOpen (s : Scan) (kind : Kind) : Option Scan := do
  let s ← s.noteKey
  some ({ s with keys := none :: s.keys, keyAllowed := true }.pushHere kind 1)

/-- A closing bracket. -/
def takeClose (s : Scan) (kind : Kind) : Option Scan := do
  let s ← s.dropKey
  let keys := if s.inFlow then s.keys.drop 1 else s.keys
  some ({ s with keys := keys, keyAllowed := false }.pushHere kind 1)

/-- A comma between brackets. -/
def takeSeparator (s : Scan) : Option Scan := do
  let s ← s.dropKey
  some ({ s with keyAllowed := true }.pushHere .separator 1)

/-- The dash of a sequence entry. -/
def takeEntry (s : Scan) : Option Scan := do
  let c := s.cursor
  let s ←
    if s.inFlow then some s
    else if !s.keyAllowed then none
    else some (s.openBlock c.mark.column none .blockSequence c.mark)
  let s ← s.dropKey
  some ({ s with keyAllowed := true }.pushHere .entry 1)

/-- The question mark of an explicit key. -/
def takeKey (s : Scan) : Option Scan := do
  let c := s.cursor
  let s ←
    if s.inFlow then some s
    else if !s.keyAllowed then none
    else some (s.openBlock c.mark.column none .blockMapping c.mark)
  let s ← s.dropKey
  some ({ s with keyAllowed := !s.inFlow }.pushHere .key 1)

/-- The colon before a value. -/
def takeValue (s : Scan) : Option Scan :=
  match s.keys with
  | some key :: outer =>
    let s := s.insertAt key.number .key key.mark
    let s := s.openBlock key.mark.column (some key.number) .blockMapping key.mark
    some ({ s with keys := none :: outer, keyAllowed := false }.pushHere .value 1)
  | _ =>
    let c := s.cursor
    if s.inFlow then some ({ s with keyAllowed := false }.pushHere .value 1)
    else if !s.keyAllowed then none
    else
      let s := s.openBlock c.mark.column none .blockMapping c.mark
      some ({ s with keyAllowed := true }.pushHere .value 1)

/-- An alias or an anchor. -/
def takeName (s : Scan) (kind : String → Kind) : Option Scan := do
  let s ← s.noteKey
  let c := s.cursor
  let name := (c.rest.drop 1).takeWhile isNameChar
  let next := c.skip (name.length + 1)
  let ends := atGap next.rest ||
    next.head?.any fun n => ['?', ':', ',', ']', '\x7d', '%', '@', '\x60'].contains n
  if name.isEmpty || !ends then none
  else some ({ s with keyAllowed := false, cursor := next }.push (kind (String.ofList name)) c.mark next.mark)

/-! ### Tags -/

/-- Characters of a tag; commas and brackets only where `wide`. -/
def isTagChar (wide : Bool) (c : Char) : Bool :=
  isNameChar c || [';', '/', '?', ':', '@', '&', '=', '+', '$', '.', '%', '!', '~', '*', '\'', '(', ')'].contains c
    || (wide && [',', '[', ']'].contains c)

/-- The bytes of a run of `%XX` escapes that write one character, and the character's width. -/
def escapedChar? (cs : List Char) : Option (Char × Nat) := do
  let first ← octet cs
  let width ←
    if first < 0x80 then some 1
    else if first / 0x20 = 6 then some 2
    else if first / 0x10 = 14 then some 3
    else if first / 0x08 = 30 then some 4
    else none
  let lead := if width = 1 then first else first % Nat.pow 2 (7 - width)
  let n ← (List.range (width - 1)).foldlM (fun n i => do
    let b ← octet (cs.drop (3 * (i + 1)))
    if b / 0x40 = 2 then some (64 * n + b % 0x40) else none) lead
  let char ← Scalar.codePoint? n
  some (char, 3 * width)
where
  octet (cs : List Char) : Option Nat :=
    match cs with
    | '%' :: a :: b :: _ => Text.number? 16 [a, b]
    | _ => none

/-- Takes the characters of a tag with its escapes resolved. -/
def takeTagText (wide : Bool) : Nat → Cursor → Option (List Char × Cursor)
  | 0, _ => none
  | fuel + 1, c =>
    match c.rest with
    | [] => some ([], c)
    | char :: _ =>
      if char = '%' then
        match escapedChar? c.rest with
        | none => none
        | some (e, width) => Scalar.cons e (takeTagText wide fuel (c.skip width))
      else if isTagChar wide char then Scalar.cons char (takeTagText wide fuel (c.skip 1))
      else some ([], c)

/-- The characters of a tag at a cursor. -/
def tagText (wide : Bool) (c : Cursor) : Option (List Char × Cursor) :=
  takeTagText wide (c.rest.length + 1) c

/-- A tag handle: `!`, name characters, and `!` again if it is there. -/
def tagHandle (c : Cursor) : Option (List Char × Cursor) :=
  if c.atChar '!' then
    let name := (c.rest.drop 1).takeWhile isNameChar
    let next := c.skip (name.length + 1)
    if next.atChar '!' then some ('!' :: name ++ ['!'], next.skip 1) else some ('!' :: name, next)
  else none

/-- The handle and the suffix of a tag. -/
def tagParts (c : Cursor) : Option (String × String × Cursor) :=
  if (c.rest.drop 1).head? = some '<' then do
    let (text, c) ← tagText true (c.skip 2)
    if text.isEmpty || !c.atChar '>' then none
    else some ("", String.ofList text, c.skip 1)
  else do
    let (handle, c) ← tagHandle c
    if 1 < handle.length && handle.getLast? == some '!' then
      let (suffix, c) ← tagText false c
      if suffix.isEmpty then none else some (String.ofList handle, String.ofList suffix, c)
    else
      let (more, c) ← tagText false c
      let suffix := handle.drop 1 ++ more
      if suffix.isEmpty then some ("", "!", c) else some ("!", String.ofList suffix, c)

/-- A tag. -/
def takeTag (s : Scan) : Option Scan := do
  let s ← s.noteKey
  let start := s.cursor.mark
  let (handle, suffix, c) ← tagParts s.cursor
  if atGap c.rest || (s.inFlow && c.atChar ',') then
    some ({ s with keyAllowed := false, cursor := c }.push (.tag handle suffix) start c.mark)
  else none

/-! ### Directives -/

/-- A number of at most nine digits. -/
def versionNumber (c : Cursor) : Option (Nat × Cursor) :=
  let digits := c.rest.takeWhile Char.isDigit
  if digits.isEmpty || 9 < digits.length then none
  else some (digits.foldl (fun n d => 10 * n + (d.toNat - '0'.toNat)) 0, c.skip digits.length)

/-- What a directive says, by its name. -/
def directiveKind (name : String) (c : Cursor) : Option (Kind × Cursor) :=
  let c := c.skipWhile isSpacing
  match name with
  | "YAML" => do
    let (major, c) ← versionNumber c
    if !c.atChar '.' then none
    else
      let (minor, c) ← versionNumber (c.skip 1)
      some (.version major minor, c)
  | "TAG" => do
    let (handle, c) ← tagHandle c
    if handle ≠ ['!'] && handle.getLast? ≠ some '!' then none
    else if !c.head?.any isSpacing then none
    else
      let (text, c) ← tagText true (c.skipWhile isSpacing)
      if text.isEmpty || !atGap c.rest then none
      else some (.tagHandle (String.ofList handle) (String.ofList text), c)
  | _ => none

/-- A directive with its line. -/
def takeDirective (s : Scan) : Option Scan := do
  let s ← (s.closeBlocks (-1)).dropKey
  let start := s.cursor.mark
  let c := s.cursor.skip 1
  let name := c.rest.takeWhile isNameChar
  let c := c.skip name.length
  if name.isEmpty || !atGap c.rest then none
  else
    let (kind, c) ← directiveKind (String.ofList name) c
    let stop := c.mark
    let c := c.skipWhile isSpacing
    let c := if c.atChar '#' then c.skipWhile (!isBreak ·) else c
    if atBreakOrEnd c.rest then
      some ({ s with keyAllowed := false, cursor := c.skipBreak }.push kind start stop)
    else none

/-! ### Scalars -/

/-- A block scalar. -/
def takeBlock (s : Scan) : Option Scan := do
  let s ← s.dropKey
  let start := s.cursor.mark
  let (text, style, c) ← Scalar.block s.indent s.cursor
  some ({ s with keyAllowed := true, cursor := c }.push (.scalar style text) start c.mark)

/-- A quoted scalar. -/
def takeQuoted (s : Scan) : Option Scan := do
  let s ← s.noteKey
  let start := s.cursor.mark
  let (text, style, c) ← Scalar.quoted s.cursor
  some ({ s with keyAllowed := false, cursor := c }.push (.scalar style text) start c.mark)

/-- A plain scalar. A key may begin after it only on a later line. -/
def takePlain (s : Scan) : Option Scan := do
  let s ← s.noteKey
  let start := s.cursor.mark
  let (text, last, c, broken) ← Scalar.plain s.inFlow (s.indent + 1).toNat s.cursor
  some ({ s with keyAllowed := broken, cursor := c }.push (.scalar .plain text) start last.mark)

/-- The characters that begin no plain scalar, or only under conditions. -/
def isIndicator (c : Char) : Bool :=
  ['-', '?', ':', ',', '[', ']', '\x7b', '\x7d', '#', '&', '*', '!', '|', '>', '\'', '"', '%', '@',
    '\x60'].contains c

/-- Takes the token that begins with `char`, which `rest` follows. -/
def takeAt (s : Scan) (char : Char) (rest : List Char) : Option Scan :=
  if s.cursor.mark.column == 0 && char == '%' then s.takeDirective
  else if s.cursor.atMarker '-' then s.takeMarker .documentStart
  else if s.cursor.atMarker '.' then s.takeMarker .documentEnd
  else if char = '[' then s.takeOpen .flowSequence
  else if char = '\x7b' then s.takeOpen .flowMapping
  else if char = ']' then s.takeClose .flowSequenceEnd
  else if char = '\x7d' then s.takeClose .flowMappingEnd
  else if char = ',' then s.takeSeparator
  else if char == '-' && atGap rest then s.takeEntry
  else if char == '?' && (s.inFlow || atGap rest) then s.takeKey
  else if char == ':' && (s.inFlow || atGap rest) then s.takeValue
  else if char = '*' then s.takeName .alias
  else if char = '&' then s.takeName .anchor
  else if char = '!' then s.takeTag
  else if (char == '|' || char == '>') && !s.inFlow then s.takeBlock
  else if char = '\'' ∨ char = '"' then s.takeQuoted
  else if !(isIndicator char || isSpacing char || isBreak char)
      || (char == '-' && !rest.head?.any isSpacing)
      || (!s.inFlow && (char == '?' || char == ':') && !atGap rest) then s.takePlain
  else none

/-- Takes the next token. -/
def takeNext (s : Scan) : Option Scan := do
  let s ← s.skipGaps.dropStale
  let s := s.closeBlocks s.cursor.mark.column
  match s.cursor.rest with
  | [] => s.takeEnd
  | char :: rest => s.takeAt char rest

/-- Takes tokens to the end of the text, or up to the first place that breaks a rule. -/
def run : Nat → Scan → Scan
  | 0, s => s
  | fuel + 1, s =>
    match s.dropStale with
    | none => s
    | some s =>
      let s := { s with settled := s.settledCount }
      match s.takeNext with
      | none => s
      | some next =>
        if next.tokens.head?.any fun t => t.kind == .streamEnd then { next with settled := next.count }
        else run fuel next

end Scan

/-- Characters that a document may hold at all. -/
def isAllowed (c : Char) : Bool :=
  let n := c.toNat
  n == 0x09 || n == 0x0A || n == 0x0D || (0x20 ≤ n && n ≤ 0x7E) || n == 0x85
    || (0xA0 ≤ n && n ≤ 0xD7FF) || (0xE000 ≤ n && n ≤ 0xFFFD) || 0x10000 ≤ n

/-- The tokens of a text. Where the text breaks a rule they stop before the end of the stream. -/
def ofText (text : String) : List Token :=
  if text.toList.all isAllowed then
    let s := (Scan.start text).run (text.length + 2)
    s.tokens.reverse.take s.settled
  else []

end Token

end JobMatrix.Yaml
