import JobMatrix.Shell.Script
import JobMatrix.Shell.Token

/-!
# Reading scripts

A script is read line by line, and a line is carried out before the next one is read: a text
that stops being a script in some line is a script up to there.
-/

namespace JobMatrix.Shell

/-- The tokens to read. The last one is the end of the text. -/
abbrev Tokens := List (Token × Nat)

/-- Words with a meaning of their own where a command could begin. -/
def reservedWords : List String :=
  ["!", "case", "do", "done", "elif", "else", "esac", "fi", "for", "if", "in", "then", "until",
    "while", "\x7b", "\x7d"]

/-- Words that end a list of commands where a command could begin. -/
def closingWords : List String :=
  ["then", "else", "elif", "fi", "do", "done", "esac", "\x7d"]

/-- Whether a list of commands ends in front of some tokens. -/
def atEnd : Tokens → Bool
  | [] => true
  | (.word w, _) :: _ => closingWords.contains w
  | (.operator s, _) :: _ => s == ")" || s == ";;"
  | (.finish, _) :: _ => true
  | _ => false

/-! ## Faults -/

/-- Where a text stops being a script, and what is said there. -/
structure SyntaxFault where
  line : Nat
  message : String
deriving DecidableEq, Inhabited

/-- A script that has been read, and the tokens after it. -/
abbrev Reading := Except SyntaxFault (Script × Tokens)

/-- How a token is named. -/
def Token.shown : Token → String
  | .word w => if reservedWords.contains w then "\"" ++ w ++ "\"" else "word"
  | .operator s => "\"" ++ s ++ "\""
  | .newline => "newline"
  | .redirect .. | .here .. => "redirection"
  | .finish | .broken _ => "end of file"

/-- The fault of some tokens that may not stand where they do, and what should stand there. -/
def unexpected (expected : Option String) : Tokens → SyntaxFault
  | (.broken message, line) :: _ => ⟨line, "Syntax error: " ++ message⟩
  | (token, line) :: _ =>
    let wanted := match expected with
      | some s => " (expecting " ++ s ++ ")"
      | none => ""
    ⟨line, "Syntax error: " ++ token.shown ++ " unexpected" ++ wanted⟩
  | [] => ⟨1, "Syntax error: end of file unexpected"⟩

/-- The line of the first token. -/
def lineOf : Tokens → Nat
  | (_, line) :: _ => line
  | [] => 1

/-! ## Parts of commands -/

/-- The tokens after some line ends. -/
def skipNewlines : Tokens → Tokens
  | (.newline, _) :: ts => skipNewlines ts
  | ts => ts

/-- Whether a text can name a variable. -/
def isName (cs : List Char) : Bool :=
  match cs with
  | [] => false
  | c :: rest => (c.isAlpha || c = '_') && rest.all fun c => c.isAlphanum || c = '_'

/-- The name and the word of an assignment. -/
def assignment? (raw : String) : Option (String × String) :=
  let cs := raw.toList
  let name := cs.takeWhile (· != '=')
  match cs.drop name.length with
  | _ :: value => if isName name then some (String.ofList name, String.ofList value) else none
  | [] => none

/-- The redirection of a symbol and a word. -/
def redirectOf (descriptor : Option Nat) (s word : String) : Redirect :=
  let standard := if s.toList.head? == some '<' then 0 else 1
  ⟨descriptor.getD standard,
    if s == ">>" then .append word
    else if s == ">&" || s == "<&" then .duplicate word
    else if s == "<" then .read word
    else .write word⟩

/-- The redirection that some tokens begin with, if they begin with one. -/
def takeRedirect : Tokens → Except SyntaxFault (Option Redirect × Tokens)
  | (.redirect d s, _) :: (.word w, _) :: ts => .ok (some (redirectOf d s w), ts)
  | (.redirect .., _) :: ts => .error (unexpected none ts)
  | (.here d content expands, _) :: ts => .ok (some ⟨d.getD 0, .text content expands⟩, ts)
  | ts => .ok (none, ts)

/-- The redirections that some tokens begin with. -/
def takeRedirects : Nat → Tokens → Except SyntaxFault (List Redirect × Tokens)
  | 0, ts => .ok ([], ts)
  | n + 1, ts => do
    match ← takeRedirect ts with
    | (some r, ts) =>
      let (rs, ts) ← takeRedirects n ts
      return (r :: rs, ts)
    | (none, ts) => return ([], ts)

/-- The parts of a simple command. -/
structure Simple where
  assignments : List (String × String)
  words : List String
  redirects : List Redirect

/-- The rest of a simple command: assignments, which stand before all words, words, and redirections. -/
def takeSimple : Nat → Simple → Tokens → Except SyntaxFault (Simple × Tokens)
  | 0, s, ts => .ok (s, ts)
  | n + 1, s, ts => do
    match ← takeRedirect ts with
    | (some r, ts) => takeSimple n { s with redirects := s.redirects ++ [r] } ts
    | (none, (.word w, _) :: rest) =>
      match (if s.words.isEmpty then assignment? w else none) with
      | some a => takeSimple n { s with assignments := s.assignments ++ [a] } rest
      | none => takeSimple n { s with words := s.words ++ [w] } rest
    | (none, ts) => return (s, ts)

/-- The words up to the end of a command. -/
def takeList : Tokens → List String × Tokens
  | (.word w, _) :: ts =>
    let (ws, ts) := takeList ts
    (w :: ws, ts)
  | ts => ([], ts)

/-- The tokens after a word that must come next. -/
def expectWord (w : String) (ts : Tokens) : Except SyntaxFault Tokens :=
  match ts with
  | (.word w', _) :: rest => if w == w' then .ok rest else .error (unexpected (some ("\"" ++ w ++ "\"")) ts)
  | _ => .error (unexpected (some ("\"" ++ w ++ "\"")) ts)

/-- The tokens after an operator that must come next. -/
def expectOperator (s : String) (ts : Tokens) : Except SyntaxFault Tokens :=
  match ts with
  | (.operator s', _) :: rest =>
    if s == s' then .ok rest else .error (unexpected (some ("\"" ++ s ++ "\"")) ts)
  | _ => .error (unexpected (some ("\"" ++ s ++ "\"")) ts)

/-- The tokens after an operator that may come next. -/
def passOperator (s : String) : Tokens → Tokens
  | (.operator s', line) :: ts => if s == s' then ts else (.operator s', line) :: ts
  | ts => ts

/-- The patterns of an arm, up to the parenthesis after them. -/
def takePatterns : Tokens → Except SyntaxFault (List String × Tokens)
  | (.word w, _) :: (.operator s, line) :: ts =>
    if s == ")" then .ok ([w], ts)
    else if s == "|" then (takePatterns ts).map fun (ws, ts) => (w :: ws, ts)
    else .error (unexpected (some "\")\"") ((.operator s, line) :: ts))
  | (.word _, _) :: ts => .error (unexpected (some "\")\"") ts)
  | ts => .error (unexpected (some "\")\"") (ts.drop 1))

/-- The names that no function can have. -/
def specialNames : List String :=
  [".", ":", "break", "continue", "eval", "exec", "exit", "export", "readonly", "return", "set",
    "shift", "times", "trap", "unset"]

/-! ## Commands -/

/-- More nested commands than a text holds. -/
def tooDeep : SyntaxFault := ⟨1, "Syntax error: end of file unexpected"⟩

mutual

/-- Commands up to a word or an operator that closes them. -/
def readList : Nat → Bool → Tokens → Reading
  | 0, _, _ => .error tooDeep
  | n + 1, mayBeEmpty, ts => do
    let ts := skipNewlines ts
    match ts with
    | (.finish, _) :: _ => return (.nothing, ts)
    | ts =>
      if mayBeEmpty && atEnd ts then return (.nothing, ts)
      let (first, ts) ← readAndOr n ts
      match ts with
      | (.operator "&", _) :: ts =>
        let (rest, ts) ← readList n true ts
        return (.sequence (.background first) rest, ts)
      | (.operator ";", _) :: ts | (.newline, _) :: ts =>
        let (rest, ts) ← readList n true ts
        return (match rest with
          | .nothing => first
          | rest => .sequence first rest, ts)
      | ts => return (first, ts)

/-- Pipelines joined by `&&` and `||`. -/
def readAndOr : Nat → Tokens → Reading
  | 0, _ => .error tooDeep
  | n + 1, ts => do
    let (first, ts) ← readPipeline n ts
    readAndOrRest n first ts

/-- What is joined to a command by `&&` and `||`. -/
def readAndOrRest : Nat → Script → Tokens → Reading
  | 0, _, _ => .error tooDeep
  | n + 1, left, ts =>
    match ts with
    | (.operator "&&", _) :: ts => do
      let (right, ts) ← readPipeline n (skipNewlines ts)
      readAndOrRest n (.both left right) ts
    | (.operator "||", _) :: ts => do
      let (right, ts) ← readPipeline n (skipNewlines ts)
      readAndOrRest n (.either left right) ts
    | ts => .ok (left, ts)

/-- Commands joined by `|`, perhaps inverted. -/
def readPipeline : Nat → Tokens → Reading
  | 0, _ => .error tooDeep
  | n + 1, ts => do
    match ts with
    | (.word "!", _) :: ts =>
      let (body, ts) ← readPiped n ts
      return (.inverted body, ts)
    | ts => readPiped n ts

/-- Commands joined by `|`. -/
def readPiped : Nat → Tokens → Reading
  | 0, _ => .error tooDeep
  | n + 1, ts => do
    let (first, ts) ← readCommand n ts
    match ts with
    | (.operator "|", _) :: ts =>
      let (right, ts) ← readPiped n (skipNewlines ts)
      return (.pipeline first right, ts)
    | ts => return (first, ts)

/-- A command with the redirections after it. -/
def readCommand : Nat → Tokens → Reading
  | 0, _ => .error tooDeep
  | n + 1, ts =>
    let redirected (r : Reading) : Reading := do
      let (body, ts) ← r
      let (rs, ts) ← takeRedirects ts.length ts
      return (if rs.isEmpty then body else .redirected body rs, ts)
    match ts with
    | (.operator "(", _) :: ts => redirected do
      let (body, ts) ← readList n false ts
      return (.subshell body, ← expectOperator ")" ts)
    | (.word "\x7b", _) :: ts => redirected do
      let (body, ts) ← readList n false ts
      return (body, ← expectWord "\x7d" ts)
    | (.word "if", _) :: ts => redirected (readBranch n ts)
    | (.word "while", _) :: ts => redirected (readLoop n false ts)
    | (.word "until", _) :: ts => redirected (readLoop n true ts)
    | (.word "for", _) :: ts => redirected (readEach n ts)
    | (.word "case", _) :: (.word w, _) :: ts => redirected do
      let ts ← expectWord "in" (skipNewlines ts)
      let (arms, ts) ← readArms n ts
      return (.choice w arms, ts)
    | (.word "case", _) :: ts => .error (unexpected (some "word") ts)
    | ts => do
      if atEnd ts || (match ts with
        | (.word w, _) :: _ => reservedWords.contains w && w != "in"
        | _ => false) then throw (unexpected none ts)
      match ← takeSimple (ts.length + 1) ⟨[], [], []⟩ ts with
      | (⟨[], [name], []⟩, (.operator "(", _) :: rest) =>
        let rest ← expectOperator ")" rest
        if !isName name.toList || specialNames.contains name then
          throw ⟨lineOf rest, "Syntax error: Bad function name"⟩
        let (body, rest) ← readCommand n (skipNewlines rest)
        return (.definition name body, rest)
      | (⟨[], [], []⟩, rest) => throw (unexpected none rest)
      | (s, rest) => return (.simple (lineOf ts) s.assignments s.words s.redirects, rest)

/-- What follows `if`. -/
def readBranch : Nat → Tokens → Reading
  | 0, _ => .error tooDeep
  | n + 1, ts => do
    let (condition, ts) ← readList n false ts
    let (yes, ts) ← readList n false (← expectWord "then" ts)
    match ts with
    | (.word "elif", _) :: ts =>
      let (no, ts) ← readBranch n ts
      return (.branch condition yes no, ts)
    | (.word "else", _) :: ts =>
      let (no, ts) ← readList n false ts
      return (.branch condition yes no, ← expectWord "fi" ts)
    | ts => return (.branch condition yes .nothing, ← expectWord "fi" ts)

/-- What follows `while` or `until`. -/
def readLoop : Nat → Bool → Tokens → Reading
  | 0, _, _ => .error tooDeep
  | n + 1, whileFails, ts => do
    let (condition, ts) ← readList n false ts
    let (body, ts) ← readBody n ts
    return (.loop whileFails condition body, ts)

/-- What follows `for`. -/
def readEach : Nat → Tokens → Reading
  | 0, _ => .error tooDeep
  | n + 1, ts => do
    match ts with
    | (.word name, _) :: ts =>
      if !isName name.toList then throw ⟨lineOf ts, "Syntax error: Bad for loop variable"⟩
      match skipNewlines ts with
      | (.word "in", _) :: ts =>
        let (words, ts) := takeList ts
        let ts ← match ts with
          | (.operator ";", _) :: ts | (.newline, _) :: ts => pure ts
          | ts => throw (unexpected none ts)
        let (body, ts) ← readBody n (skipNewlines ts)
        return (.each name (some words) body, ts)
      | ts =>
        let (body, ts) ← readBody n (skipNewlines (passOperator ";" ts))
        return (.each name none body, ts)
    | ts => throw ⟨lineOf ts, "Syntax error: Bad for loop variable"⟩

/-- Commands between `do` and `done`. -/
def readBody : Nat → Tokens → Reading
  | 0, _ => .error tooDeep
  | n + 1, ts => do
    let (body, ts) ← readList n false (← expectWord "do" ts)
    return (body, ← expectWord "done" ts)

/-- Arms up to `esac`. -/
def readArms : Nat → Tokens → Reading
  | 0, _ => .error tooDeep
  | n + 1, ts =>
    match skipNewlines ts with
    | (.word "esac", _) :: ts => .ok (.nothing, ts)
    | ts => do
      let (patterns, ts) ← takePatterns (passOperator "(" ts)
      let (body, ts) ← readList n true ts
      match ts with
      | (.word "esac", _) :: ts => return (.arm patterns body .nothing, ts)
      | ts =>
        let (next, ts) ← readArms n (← expectOperator ";;" ts)
        return (.arm patterns body next, ts)

end

/-! ## Lines -/

/-- The commands of a line, and the tokens after it. -/
def readLine : Nat → Tokens → Reading
  | 0, _ => .error tooDeep
  | n + 1, ts => do
    let (first, ts) ← readAndOr n ts
    match ts with
    | (.finish, _) :: _ => return (first, ts)
    | (.newline, _) :: ts => return (first, ts)
    | (.operator "&", _) :: ts => continueLine n (.background first) ts
    | (.operator ";", _) :: ts => continueLine n first ts
    | ts => throw (unexpected none ts)
where
  /-- The rest of a line after a command that is set off. -/
  continueLine (n : Nat) (first : Script) (ts : Tokens) : Reading :=
    match ts with
    | (.finish, _) :: _ => .ok (first, ts)
    | (.newline, _) :: ts => .ok (first, ts)
    | ts => (readLine n ts).map fun (rest, ts) => (.sequence first rest, ts)

/-- The lines of a script. -/
def readLines : Nat → Tokens → Script
  | 0, _ => .nothing
  | n + 1, ts =>
    match skipNewlines ts with
    | [] | [(.finish, _)] => .nothing
    | ts =>
      match readLine (8 * ts.length + 8) ts with
      | .ok (first, rest) =>
        match readLines n rest with
        | .nothing => first
        | rest => .sequence first rest
      | .error fault => .malformed fault.line fault.message

/-- The script of a text. -/
def Script.ofText (text : String) : Script :=
  let ts := tokens text
  readLines (ts.length + 1) ts

end JobMatrix.Shell
