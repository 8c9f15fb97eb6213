/-!
# Tokens of scripts

A script is cut into words and operators. A word may hold quotes, parameters and commands,
which may hold blanks and operators themselves; so it is read up to the first blank or
operator that is inside of nothing.
-/

namespace JobMatrix.Shell

/-- What a character of a word may be inside of. -/
inductive Nest
  | single
  | double
  | parens
  | braces
  | back
deriving DecidableEq, Inhabited

/-- Characters that end a word. -/
def isMeta (c : Char) : Bool :=
  [' ', '\t', '\n', ';', '&', '|', '(', ')', '<', '>'].contains c

/-- What is said when the text ends inside of something. -/
def unclosed (nests : List Nest) : String :=
  match nests with
  | .back :: _ => "EOF in backquote substitution"
  | .parens :: .parens :: _ => "Missing '))'"
  | .parens :: _ => "end of file unexpected (expecting \")\")"
  | .braces :: up => if up.contains .double then "Unterminated quoted string" else "Missing '\x7d'"
  | _ => "Unterminated quoted string"

/-- Reads up to the end of what is inside of `nests`, or of a word if they are none: the characters read
and the rest. If the end is missing it says so. -/
def takeNested : List Nest → List Char → List Char → Except String (List Char × List Char)
  | [], done, [] => .ok (done.reverse, [])
  | nest :: nests, _, [] => .error (unclosed (nest :: nests))
  | .single :: up, done, c :: rest =>
    if c = '\'' then
      if up.isEmpty then .ok ((c :: done).reverse, rest) else takeNested up (c :: done) rest
    else takeNested (.single :: up) (c :: done) rest
  | nests, done, '\\' :: c :: rest => takeNested nests (c :: '\\' :: done) rest
  | .back :: up, done, c :: rest =>
    if c = '\x60' then
      if up.isEmpty then .ok ((c :: done).reverse, rest) else takeNested up (c :: done) rest
    else takeNested (.back :: up) (c :: done) rest
  | nests, done, '$' :: '(' :: rest => takeNested (.parens :: nests) ('(' :: '$' :: done) rest
  | nests, done, '$' :: '{' :: rest => takeNested (.braces :: nests) ('{' :: '$' :: done) rest
  | nests, done, c :: rest =>
    let opening : Option Nest :=
      if c = '\x60' then some .back
      else if c = '"' && nests.head? != some .double then some .double
      else if c = '\'' && nests.head? != some .double then some .single
      else if c = '(' && nests.head? == some .parens then some .parens
      else none
    let closes : Bool := match nests.head? with
      | some .double => c = '"'
      | some .parens => c = ')'
      | some .braces => c = '}'
      | _ => false
    match opening with
    | some nest => takeNested (nest :: nests) (c :: done) rest
    | none =>
      if closes then
        if nests.tail.isEmpty then .ok ((c :: done).reverse, rest)
        else takeNested nests.tail (c :: done) rest
      else if nests.isEmpty && isMeta c then .ok (done.reverse, c :: rest)
      else takeNested nests (c :: done) rest

/-- Reads a word. A quote that closes on its own does not end it. -/
def takeWord : Nat → List Char → Except String (List Char × List Char)
  | 0, cs => .ok ([], cs)
  | _ + 1, [] => .ok ([], [])
  | n + 1, c :: rest =>
    if isMeta c then .ok ([], c :: rest)
    else
      let nest : Option (List Nest × List Char × List Char) :=
        match c, rest with
        | '\'', rest => some ([.single], ['\''], rest)
        | '"', rest => some ([.double], ['"'], rest)
        | '\x60', rest => some ([.back], ['\x60'], rest)
        | '$', '(' :: rest => some ([.parens], ['(', '$'], rest)
        | '$', '{' :: rest => some ([.braces], ['{', '$'], rest)
        | _, _ => none
      match nest with
      | some (nests, opening, rest) => do
        let (inner, rest) ← takeNested nests opening rest
        let (more, rest) ← takeWord n rest
        return (inner ++ more, rest)
      | none =>
        match c, rest with
        | '\\', d :: rest => (takeWord n rest).map fun (more, rest) => ('\\' :: d :: more, rest)
        | c, rest => (takeWord n rest).map fun (more, rest) => (c :: more, rest)

/-- A token. -/
inductive Token
  | word (raw : String)
  | operator (symbol : String)
  | newline
  /-- A redirection, with the descriptor if one is given. -/
  | redirect (descriptor : Option Nat) (symbol : String)
  /-- A redirection from a text in the script. -/
  | here (descriptor : Option Nat) (content : String) (expands : Bool)
  /-- The end of the text. -/
  | finish
  /-- The rest of a text that ends inside of something. -/
  | broken (message : String)
deriving DecidableEq, Inhabited

/-- The operators and redirections, longer ones first. -/
def symbols : List (String × Bool) :=
  [("<<-", true), ("&&", false), ("||", false), (";;", false), ("<<", true), (">>", true),
    (">&", true), ("<&", true), (">|", true), ("<>", true), (";", false), ("&", false),
    ("|", false), ("(", false), (")", false), ("<", true), (">", true)]

/-- The operator or redirection that some characters begin with. -/
def symbol? (cs : List Char) : Option (String × Bool) :=
  symbols.find? fun (s, _) => s.toList.isPrefixOf cs

/-- A word without its quotes. -/
def unquoted (cs : List Char) : List Char :=
  cs.filter fun c => c != '\'' && c != '"' && c != '\\'

/-- Reads lines up to one that is a delimiter: the lines and the rest. -/
def takeText (delimiter : List Char) (strip : Bool) : Nat → List Char → List Char × List Char
  | 0, cs => ([], cs)
  | n + 1, cs =>
    let line := cs.takeWhile (· != '\n')
    let rest := cs.drop (line.length + 1)
    let line := if strip then line.dropWhile (· == '\t') else line
    if line == delimiter || cs.isEmpty then ([], rest)
    else
      let (more, rest) := takeText delimiter strip n rest
      (line ++ '\n' :: more, rest)

/-- Reads the texts that redirections of a line ask for. -/
def takeTexts : List (List Char × Bool) → List Char → List String × List Char
  | [], cs => ([], cs)
  | (delimiter, strip) :: asked, cs =>
    let (text, rest) := takeText (unquoted delimiter) strip (cs.length + 1) cs
    let (texts, rest) := takeTexts asked rest
    (String.ofList text :: texts, rest)

/-- Puts the texts in the places of the redirections that ask for them. -/
def placeTexts : List (Token × Nat) → List String → List (Token × Nat)
  | (.redirect d s, line) :: (.word w, line') :: rest, texts =>
    if s == "<<" || s == "<<-" then
      let quoted := w.toList.any fun c => c == '\'' || c == '"' || c == '\\'
      (.here d (texts.head?.getD "") (!quoted), line) :: placeTexts rest texts.tail
    else (.redirect d s, line) :: (.word w, line') :: placeTexts rest texts
  | token :: rest, texts => token :: placeTexts rest texts
  | [], _ => []

/-- The tokens of a text with their lines, the last one first, and the texts of the script, the last one
first. `asked` holds the texts that the current line asks for, the last one first. -/
def scanTokens : Nat → Nat → List (Token × Nat) → List (List Char × Bool) → List String → List Char →
    List (Token × Nat) × List String
  | 0, line, done, _, texts, _ => ((.finish, line) :: done, texts)
  | _ + 1, line, done, _, texts, [] => ((.finish, line) :: done, texts)
  | n + 1, line, done, asked, texts, '\n' :: rest =>
    let (more, after) := takeTexts asked.reverse rest
    let skipped := (rest.take (rest.length - after.length)).count '\n'
    scanTokens n (line + 1 + skipped) ((.newline, line + 1) :: done) [] (more.reverse ++ texts) after
  | n + 1, line, done, asked, texts, '\\' :: '\n' :: rest =>
    scanTokens n (line + 1) done asked texts rest
  | n + 1, line, done, asked, texts, c :: rest =>
    if c = ' ' || c = '\t' then scanTokens n line done asked texts rest
    else if c = '#' then scanTokens n line done asked texts (rest.dropWhile (· != '\n'))
    else
      match symbol? (c :: rest) with
      | some (s, isRedirect) =>
        let token : Token := if isRedirect then .redirect none s else .operator s
        scanTokens n line ((token, line) :: done) asked texts ((c :: rest).drop s.length)
      | none =>
        match takeWord (rest.length + 2) (c :: rest) with
        | .error message => ((.broken message, line + rest.count '\n') :: done, texts)
        | .ok (raw, after) =>
          let digits := raw.all Char.isDigit && raw.length < 3
          match (if digits then symbol? after else none) with
          | some (s, true) =>
            let d := raw.foldl (fun n c => 10 * n + (c.toNat - '0'.toNat)) 0
            scanTokens n line ((.redirect (some d) s, line) :: done) asked texts (after.drop s.length)
          | _ =>
            let asked := match done with
              | (.redirect _ "<<", _) :: _ => (raw, false) :: asked
              | (.redirect _ "<<-", _) :: _ => (raw, true) :: asked
              | _ => asked
            let line := line + raw.count '\n'
            scanTokens n line ((.word (String.ofList raw), line) :: done) asked texts after

/-- The tokens of a text with their lines. The last one is its end. -/
def tokens (text : String) : List (Token × Nat) :=
  let cs := text.toList
  let (done, texts) := scanTokens (cs.length + 2) 1 [] [] [] cs
  placeTexts done.reverse texts.reverse

end JobMatrix.Shell
