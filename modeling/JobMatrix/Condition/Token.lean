import JobMatrix.Text.Blank

/-!
# Tokens of a condition

Blanks separate tokens and mean nothing else. Words are maximal runs of word characters,
quoted strings reach to the next quote of their own kind, and `!=` is taken whenever `!`
is directly followed by `=`. A refusal names the byte where it happened.
-/

namespace JobMatrix.Condition

open JobMatrix.Text

/-- A lexeme of a condition. -/
inductive Token
  | word (text : String)
  | quoted (text : String)
  | equal
  | different
  | and
  | or
  | not
  | open
  | close
deriving DecidableEq, Inhabited

/-- Why a text is no sequence of tokens. -/
inductive Token.Fault
  | unexpected (c : Char) (offset : Nat)
  | unterminated
deriving DecidableEq

namespace Token

/-- Characters of an unquoted word: ASCII letters, digits and `_`, `-`, `.`, `+`, `/`. -/
def isWordChar (c : Char) : Bool :=
  c.isAlphanum || c == '_' || c == '-' || c == '.' || c == '+' || c == '/'

/-- How messages show a token. -/
def display : Token → String
  | .word text => "'" ++ text ++ "'"
  | .quoted text => "\"" ++ text ++ "\""
  | .equal => "'=='"
  | .different => "'!='"
  | .and => "'&&'"
  | .or => "'||'"
  | .not => "'!'"
  | .open => "'('"
  | .close => "')'"

/-- The number of bytes of a text in UTF-8. -/
def byteLength (cs : List Char) : Nat :=
  (cs.map Char.utf8Size).foldr (· + ·) 0

/-- What stands at the front of a text. -/
inductive Step
  /-- A blank, which yields no token. -/
  | blank
  /-- A token and the characters it is written with. -/
  | token (token : Token) (written : List Char)
  | fault (fault : Fault)

/-- The token that the character `c`, followed by `rest`, begins. -/
def step (offset : Nat) (c : Char) (rest : List Char) : Step :=
  if isBlank c then .blank
  else if c = '(' then .token .open [c]
  else if c = ')' then .token .close [c]
  else if c = '=' then
    if rest.head? = some '=' then .token .equal ['=', '='] else .fault (.unexpected c offset)
  else if c = '!' then
    if rest.head? = some '=' then .token .different ['!', '='] else .token .not [c]
  else if c = '&' then
    if rest.head? = some '&' then .token .and ['&', '&'] else .fault (.unexpected c offset)
  else if c = '|' then
    if rest.head? = some '|' then .token .or ['|', '|'] else .fault (.unexpected c offset)
  else if c = '\'' ∨ c = '"' then
    let text := rest.takeWhile (· != c)
    if text.length < rest.length then .token (.quoted (String.ofList text)) (c :: text ++ [c])
    else .fault .unterminated
  else if isWordChar c then
    let word := c :: rest.takeWhile isWordChar
    .token (.word (String.ofList word)) word
  else .fault (.unexpected c offset)

/-- The tokens of a text whose first character has the byte offset `offset`. -/
def scanFrom (offset : Nat) (cs : List Char) : Except Fault (List Token) :=
  match cs with
  | [] => .ok []
  | c :: rest =>
    match step offset c rest with
    | .blank => scanFrom (offset + c.utf8Size) rest
    | .token t written =>
      match scanFrom (offset + byteLength written) (rest.drop (written.length - 1)) with
      | .ok ts => .ok (t :: ts)
      | .error e => .error e
    | .fault e => .error e
termination_by cs.length
decreasing_by
  all_goals simp only [List.length_cons, List.length_drop]; omega

/-- The tokens of a condition. -/
def scan (source : String) : Except Fault (List Token) :=
  scanFrom 0 source.toList

end Token

end JobMatrix.Condition
