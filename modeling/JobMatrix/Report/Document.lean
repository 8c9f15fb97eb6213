/-!
# Documents

A document is a value that is written for other programs: a text in quotes, a whole number,
a list in brackets, a record in braces. It is written over several lines, indented by two
spaces for each list or record around.
-/

namespace JobMatrix

/-- A value for other programs. -/
inductive Document
  | null
  | flag (b : Bool)
  | number (n : Int)
  | text (s : String)
  | list (items : List Document)
  /-- Named values in order. -/
  | fields (items : List (String × Document))
deriving Inhabited

namespace Document

/-- A value that may be missing. -/
def ofOption {α : Type} (f : α → Document) : Option α → Document
  | some a => f a
  | none => .null

/-- A natural number. -/
def ofNat (n : Nat) : Document := .number n

/-- The last two digits of a number in base 16. -/
def hexPair (n : Nat) : List Char :=
  [Nat.digitChar (n / 16 % 16), Nat.digitChar (n % 16)]

/-- A character inside of quotes. -/
def quotedChar (c : Char) : List Char :=
  if c = '"' then ['\\', '"']
  else if c = '\\' then ['\\', '\\']
  else if c = '\x08' then ['\\', 'b']
  else if c = '\x0c' then ['\\', 'f']
  else if c = '\n' then ['\\', 'n']
  else if c = '\r' then ['\\', 'r']
  else if c = '\t' then ['\\', 't']
  else if c.toNat < 32 then ['\\', 'u', '0', '0'] ++ hexPair c.toNat
  else [c]

/-- A text in quotes. -/
def quoted (s : String) : String :=
  "\"" ++ String.ofList (s.toList.flatMap quotedChar) ++ "\""

/-- The start of a line inside of `depth` lists and records. -/
def newline (depth : Nat) : String :=
  "\n" ++ String.ofList (List.replicate (2 * depth) ' ')

mutual

/-- A value inside of `depth` lists and records. -/
def renderAt (depth : Nat) : Document → String
  | .null => "null"
  | .flag b => if b then "true" else "false"
  | .number n => toString n
  | .text s => quoted s
  | .list [] => "[]"
  | .list (item :: items) =>
    "[" ++ newline (depth + 1) ++ renderAt (depth + 1) item ++ renderItems (depth + 1) items
      ++ newline depth ++ "]"
  | .fields [] => "\x7b\x7d"
  | .fields ((name, value) :: items) =>
    "\x7b" ++ newline (depth + 1) ++ quoted name ++ ": " ++ renderAt (depth + 1) value
      ++ renderFields (depth + 1) items ++ newline depth ++ "\x7d"

/-- The further items of a list. -/
def renderItems (depth : Nat) : List Document → String
  | [] => ""
  | item :: items => "," ++ newline depth ++ renderAt depth item ++ renderItems depth items

/-- The further items of a record. -/
def renderFields (depth : Nat) : List (String × Document) → String
  | [] => ""
  | (name, value) :: items =>
    "," ++ newline depth ++ quoted name ++ ": " ++ renderAt depth value ++ renderFields depth items

end

/-! ## Sorting -/

mutual

/-- A document with the names in each record in ascending order. -/
def sorted : Document → Document
  | .list items => .list (sortedItems items)
  | .fields items => .fields ((sortedFields items).mergeSort fun a b => a.1 ≤ b.1)
  | d => d

/-- The sorted items of a list. -/
def sortedItems : List Document → List Document
  | [] => []
  | item :: items => sorted item :: sortedItems items

/-- The sorted values of a record. -/
def sortedFields : List (String × Document) → List (String × Document)
  | [] => []
  | (name, value) :: items => (name, sorted value) :: sortedFields items

end

/-! ## Writing a whole document -/

/-- A document as written. -/
def render (d : Document) : String :=
  renderAt 0 d

end Document

end JobMatrix
