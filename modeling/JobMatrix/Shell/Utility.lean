import JobMatrix.Shell.Filter

/-!
# Utilities

Commands that scripts call by name and that need nothing of the script.
-/

namespace JobMatrix.Shell

/-! ## Changing files -/

/-- The names in a directory that are listed. -/
def listed (s : Scene) (place : List String) (all almost : Bool) : List String :=
  let names := s.files.names place
  if all then "." :: ".." :: names
  else if almost then names
  else names.filter (·.toList.head? != some '.')

/-- Lists files and directories. -/
def ls (s : Scene) (args : List String) : Effect :=
  let (switches, paths) := args.partition fun a => a.toList.head? == some '-' && a != "-"
  let has (c : Char) : Bool := switches.any (·.toList.contains c)
  let paths := if paths.isEmpty then ["."] else paths.mergeSort (· ≤ ·)
  let look (path : String) : Option (FileEntry × List String) :=
    match s.files.resolve s.directory path with
    | .ok place => (s.files.entry? place).map (·, place)
    | .error _ => none
  let missing := paths.filter fun p => (look p).isNone
  let lines (names : List String) : String := String.join (names.map (· ++ "\n"))
  let files := paths.filter fun p => match look p with
    | some (.file _, _) => true
    | some (.directory, _) => has 'd'
    | none => false
  let directories := paths.filterMap fun p => match look p with
    | some (.directory, place) => if has 'd' then none else some (p, place)
    | _ => none
  let bodies := directories.map fun (p, place) =>
    let body := lines (listed s place (has 'a') (has 'A'))
    if paths.length = 1 then body else p ++ ":\n" ++ body
  let text := "\n".intercalate ((if files.isEmpty then [] else [lines files]) ++ bodies)
  let err := String.join (missing.map fun p =>
    "ls: cannot access '" ++ p ++ "': No such file or directory\n")
  ⟨Utf8.encode text, Utf8.encode err, if missing.isEmpty then 0 else 2, s.files, 0⟩

/-- Does something with the place of each path, until it fails. -/
def eachPlace (s : Scene) (paths : List String)
    (f : Files → String → List String → Except String Files) : Effect :=
  paths.foldl (fun a path => a.andThen fun files =>
    let s := { s with files }
    match files.resolve s.directory path with
    | .error e => .fails s 1 (path ++ ": " ++ reason e)
    | .ok place =>
      match f files path place with
      | .ok files => ⟨[], [], 0, files, 0⟩
      | .error message => .fails s 1 message) (.ends s 0)

/-- Makes empty files where there are none. -/
def touch (s : Scene) (args : List String) : Effect :=
  eachPlace s args fun files path place =>
    if (files.entry? place).isSome then .ok files
    else if files.isDirectory place.dropLast then .ok (files.put place (.file []))
    else .error ("touch: cannot touch '" ++ path ++ "': No such file or directory")

/-- Makes directories. -/
def mkdir (s : Scene) (args : List String) : Effect :=
  let parents := args.contains "-p"
  eachPlace s (args.filter (· != "-p")) fun files path place =>
    if parents then .ok (files.makeDirectory place)
    else if (files.entry? place).isSome then
      .error ("mkdir: cannot create directory '" ++ path ++ "': File exists")
    else if files.isDirectory place.dropLast then .ok (files.put place .directory)
    else .error ("mkdir: cannot create directory '" ++ path ++ "': No such file or directory")

/-- Removes files, and directories if that is asked for. -/
def rm (s : Scene) (args : List String) : Effect :=
  let (switches, paths) := args.partition fun a => a.toList.head? == some '-' && a != "-"
  let has (c : Char) : Bool := switches.any (·.toList.contains c)
  eachPlace s paths fun files path place =>
    match files.entry? place with
    | none =>
      if has 'f' then .ok files
      else .error ("rm: cannot remove '" ++ path ++ "': No such file or directory")
    | some .directory =>
      if has 'r' || has 'R' then .ok (files.remove place)
      else .error ("rm: cannot remove '" ++ path ++ "': Is a directory")
    | some (.file _) => .ok (files.remove place)

/-- Removes empty directories. -/
def rmdir (s : Scene) (args : List String) : Effect :=
  eachPlace s args fun files path place =>
    let fails (reason : String) : Except String Files :=
      .error ("rmdir: failed to remove '" ++ path ++ "': " ++ reason)
    match files.entry? place with
    | none => fails "No such file or directory"
    | some (.file _) => fails "Not a directory"
    | some .directory =>
      if (files.names place).isEmpty then .ok (files.remove place) else fails "Directory not empty"

/-- Copies a file, and takes the first one away if it is moved. -/
def copy (name : String) (moves : Bool) (s : Scene) (args : List String) : Effect :=
  match (letterSwitches args).2 with
  | [source, target] =>
    match s.files.resolve s.directory source, s.files.resolve s.directory target with
    | .ok a, .ok b =>
      match s.files.entry? a with
      | some (.file content) =>
        let b := if s.files.isDirectory b then b ++ a.getLast?.toList else b
        if !s.files.isDirectory b.dropLast then
          .fails s 1 (name ++ ": cannot create regular file '" ++ target ++ "': No such file or directory")
        else
          let files := s.files.put b (.file content)
          ⟨[], [], 0, if moves && a != b then files.remove a else files, 0⟩
      | some .directory => .fails s 1 (name ++ ": -r not specified; omitting directory '" ++ source ++ "'")
      | none => .fails s 1 (name ++ ": cannot stat '" ++ source ++ "': No such file or directory")
    | _, _ => .fails s 1 (name ++ ": cannot stat '" ++ source ++ "': No such file or directory")
  | _ => .fails s 1 (name ++ ": missing file operand")

/-- Writes the input to files and to the output. -/
def tee (s : Scene) (args : List String) : Effect :=
  let (letters, paths) := letterSwitches args
  let written := eachPlace s paths fun files path place =>
    let before := match files.entry? place with
      | some (.file content) => if letters.contains 'a' then content else []
      | _ => []
    if path == "/dev/null" then .ok files
    else if files.isDirectory place.dropLast && !files.isDirectory place then
      .ok (files.put place (.file (before ++ s.input)))
    else .error ("tee: " ++ path ++ ": No such file or directory")
  { written with out := s.input }

/-! ## Tests -/

/-- What a test comes to: a truth value, or what is wrong with it. -/
abbrev TestResult := Except String Bool

/-- The whole number that a text writes, with blanks around it. -/
def integer? (s : String) : Option Int :=
  let cs := s.toList.filter (· != ' ')
  match cs with
  | '-' :: ds => (natural? (String.ofList ds)).map fun n => -(n : Int)
  | '+' :: ds => (natural? (String.ofList ds)).map fun n => (n : Int)
  | ds => (natural? (String.ofList ds)).map fun n => (n : Int)

/-- A test of one operand. -/
def unaryTest? (s : Scene) (op x : String) : Option Bool :=
  let entry : Option FileEntry := match s.files.resolve s.directory x with
    | .ok place => s.files.entry? place
    | .error _ => none
  if op == "-n" then some (!x.isEmpty)
  else if op == "-z" then some x.isEmpty
  else if op == "-e" || op == "-r" || op == "-w" then some entry.isSome
  else if op == "-d" || op == "-x" then some (entry == some .directory)
  else if op == "-f" then some (entry.isSome && entry != some .directory)
  else if op == "-s" then some (entry.isSome && entry != some (.file []))
  else if op == "-h" || op == "-L" || op == "-p" || op == "-S" || op == "-t" then some false
  else none

/-- A comparison of two operands. -/
def binaryTest? (x op y : String) : Option TestResult :=
  let numbers (f : Int → Int → Bool) : TestResult :=
    match integer? x, integer? y with
    | some a, some b => .ok (f a b)
    | none, _ => .error ("Illegal number: " ++ x)
    | _, none => .error ("Illegal number: " ++ y)
  if op == "=" then some (.ok (x == y))
  else if op == "!=" then some (.ok (x != y))
  else if op == "<" then some (.ok (x < y))
  else if op == ">" then some (.ok (y < x))
  else if op == "-eq" then some (numbers (· == ·))
  else if op == "-ne" then some (numbers (· != ·))
  else if op == "-lt" then some (numbers (· < ·))
  else if op == "-le" then some (numbers (· ≤ ·))
  else if op == "-gt" then some (numbers (· > ·))
  else if op == "-ge" then some (numbers (· ≥ ·))
  else none

mutual

/-- Tests joined by `-o`. -/
def anyTest (s : Scene) : Nat → List String → Except String (Bool × List String)
  | 0, _ => .error "unexpected operator"
  | n + 1, args => do
    let (a, rest) ← allTests s n args
    match rest with
    | "-o" :: rest =>
      let (b, rest) ← anyTest s n rest
      return (a || b, rest)
    | rest => return (a, rest)

/-- Tests joined by `-a`. -/
def allTests (s : Scene) : Nat → List String → Except String (Bool × List String)
  | 0, _ => .error "unexpected operator"
  | n + 1, args => do
    let (a, rest) ← oneTest s n args
    match rest with
    | "-a" :: rest =>
      let (b, rest) ← allTests s n rest
      return (a && b, rest)
    | rest => return (a, rest)

/-- A single test, perhaps negated or in parentheses. -/
def oneTest (s : Scene) : Nat → List String → Except String (Bool × List String)
  | 0, _ => .error "unexpected operator"
  | _ + 1, [] => .error "argument expected"
  | _ + 1, [x] => .ok (!x.isEmpty, [])
  | n + 1, x :: y :: rest =>
    let compared : Option (TestResult × List String) := match rest with
      | z :: rest => (binaryTest? x y z).map (·, rest)
      | [] => none
    match compared with
    | some (r, rest) => r.map (·, rest)
    | none =>
      if x == "!" then (oneTest s n (y :: rest)).map fun (b, rest) => (!b, rest)
      else if x == "(" then do
        match ← anyTest s n (y :: rest) with
        | (b, ")" :: rest) => return (b, rest)
        | _ => .error "closing paren expected"
      else
        match unaryTest? s x y with
        | some b => .ok (b, rest)
        | none =>
          if y == "-a" || y == "-o" then .ok (!x.isEmpty, y :: rest)
          else .error (y ++ ": unexpected operator")

end

/-- What a test comes to. -/
def testResult (s : Scene) (args : List String) : TestResult :=
  if args.isEmpty then .ok false
  else
    match anyTest s (4 * args.length + 4) args with
    | .ok (b, []) => .ok b
    | .ok (_, x :: _) => .error (x ++ ": unexpected operator")
    | .error e => .error e

/-! ## Others -/

/-- The microseconds that a text of seconds stands for. -/
def microseconds? (text : String) : Option Nat :=
  let (whole, rest) := Format.decimal text.toList
  let (fraction, places, rest) := match rest with
    | '.' :: ds =>
      let digits := ds.takeWhile Char.isDigit
      let six := (digits ++ List.replicate 6 '0').take 6
      ((Format.decimal six).1, digits.length, ds.drop digits.length)
    | rest => (0, 0, rest)
  let base := whole * 1000000 + fraction
  if (text.toList.takeWhile Char.isDigit).isEmpty && places = 0 then none
  else
    match rest with
    | [] | ['s'] => some base
    | ['m'] => some (base * 60)
    | ['h'] => some (base * 3600)
    | ['d'] => some (base * 86400)
    | _ => none

/-- Waits. -/
def sleep (s : Scene) (args : List String) : Effect :=
  match args.mapM microseconds? with
  | some (t :: ts) => { Effect.ends s 0 with sleeps := (t :: ts).foldr (· + ·) 0 }
  | some [] => .fails s 1 "sleep: missing operand"
  | none => .fails s 1 ("sleep: invalid time interval '" ++ args.headD "" ++ "'")

/-- Numbers in a row. -/
def seq (s : Scene) (args : List String) : Effect :=
  let row (first step last : Int) : Effect :=
    let n := if step = 0 then 0 else ((last - first) / step + 1).toNat
    let numbers := (List.range n).map fun (k : Nat) => toString (first + k * step) ++ "\n"
    .writes s (Utf8.encode (String.join numbers))
  match args.mapM integer? with
  | some [last] => row 1 1 last
  | some [first, last] => row first 1 last
  | some [first, step, last] => row first step last
  | _ => .fails s 1 "seq: invalid argument"

/-- The last piece of a path, without an ending. -/
def baseName (path ending : String) : String :=
  let name := ((Files.pieces path).filter fun p => !p.isEmpty).getLast?.getD (if path.isEmpty then "" else "/")
  let (cs, es) := (name.toList, ending.toList)
  if es.isSuffixOf cs && es.length < cs.length then String.ofList (cs.take (cs.length - es.length))
  else name

/-- A path without its last piece. -/
def dirName (path : String) : String :=
  let ps := Files.pieces path
  let kept := ((ps.reverse.dropWhile String.isEmpty).drop 1).dropWhile String.isEmpty
  if kept.isEmpty then (if path.toList.head? == some '/' then "/" else ".")
  else "/".intercalate kept.reverse

/-- The result of an operator between two words: of numbers, or of texts if one is no number. -/
def calculate (a op b : String) : Option String :=
  let truth (p : Bool) : Option String := some (if p then "1" else "0")
  let compared (numbers : Int → Int → Bool) (texts : String → String → Bool) : Option String :=
    match integer? a, integer? b with
    | some x, some y => truth (numbers x y)
    | _, _ => truth (texts a b)
  let number (f : Int → Int → Option Int) : Option String := do
    return toString (← f (← integer? a) (← integer? b))
  if op == "+" then number fun x y => some (x + y)
  else if op == "-" then number fun x y => some (x - y)
  else if op == "*" then number fun x y => some (x * y)
  else if op == "/" then number fun x y => if y = 0 then none else some (Int.tdiv x y)
  else if op == "%" then number fun x y => if y = 0 then none else some (Int.tmod x y)
  else if op == "=" then compared (· == ·) (· == ·)
  else if op == "!=" then compared (· != ·) (· != ·)
  else if op == "<" then compared (· < ·) (· < ·)
  else if op == "<=" then compared (· ≤ ·) (· ≤ ·)
  else if op == ">" then compared (· > ·) (· > ·)
  else if op == ">=" then compared (· ≥ ·) (· ≥ ·)
  else if op == "|" then some (if a.isEmpty || a == "0" then b else a)
  else if op == "&" then some (if a.isEmpty || a == "0" || b.isEmpty || b == "0" then "0" else a)
  else none

/-- The value of an expression of words. -/
def expr (s : Scene) (args : List String) : Effect :=
  let value : Option String := match args with
    | [a] => some a
    | [a, op, b] => calculate a op b
    | _ => none
  match value with
  | some v =>
    let status := if v.isEmpty || v == "0" then 1 else 0
    { Effect.writes s (Utf8.encode (v ++ "\n")) with status }
  | none => .fails s 2 "expr: syntax error"

/-- The names of the utilities. -/
def utilities : List String :=
  ["true", "false", "cat", "head", "tail", "wc", "sort", "uniq", "rev", "cut", "tr", "grep", "ls",
    "touch", "mkdir", "rm", "rmdir", "cp", "mv", "tee", "sleep", "seq", "pwd", "echo", "printf",
    "test", "yes", "printenv", "basename", "dirname", "expr", "id", "whoami", "uname", "chmod",
    "which"]

/-- What a utility does; there is none for other names. -/
def utility? (s : Scene) (name : String) (args : List String) : Option Effect :=
  if name == "true" then some (.ends s 0)
  else if name == "false" then some (.ends s 1)
  else if name == "cat" then some (eachFile "cat" s (args.filter (· != "-u")) id)
  else if name == "head" then some (head s args)
  else if name == "tail" then some (tail s args)
  else if name == "wc" then some (wc s args)
  else if name == "sort" then some (sort s args)
  else if name == "uniq" then some (uniq s args)
  else if name == "rev" then some (rev s args)
  else if name == "cut" then some (cut s args)
  else if name == "tr" then some (tr s args)
  else if name == "grep" then some (grep s args)
  else if name == "rmdir" then some (rmdir s args)
  else if name == "cp" then some (copy "cp" false s args)
  else if name == "mv" then some (copy "mv" true s args)
  else if name == "tee" then some (tee s args)
  else if name == "expr" then some (expr s args)
  else if name == "chmod" then some (.ends s 0)
  else if name == "whoami" then some (.writes s (Utf8.encode "root\n"))
  else if name == "uname" then some (.writes s (Utf8.encode "Linux\n"))
  else if name == "id" then
    some (.writes s (Utf8.encode (if args.contains "-u" || args.contains "-g" then "0\n" else "uid=0(root) gid=0(root) groups=0(root)\n")))
  else if name == "which" then
    let found := args.filter utilities.contains
    some { Effect.writes s (Utf8.encode (String.join (found.map fun n => "/usr/bin/" ++ n ++ "\n"))) with
      status := if found.length = args.length then 0 else 1 }
  else if name == "ls" then some (ls s args)
  else if name == "touch" then some (touch s args)
  else if name == "mkdir" then some (mkdir s args)
  else if name == "rm" then some (rm s args)
  else if name == "sleep" then some (sleep s args)
  else if name == "seq" then some (seq s args)
  else if name == "pwd" then some (.writes s (Utf8.encode (Files.pathOf s.directory ++ "\n")))
  else if name == "echo" then some (.writes s (Format.echoSwitched args))
  else if name == "printf" then
    match args with
    | format :: args => some (.writes s (Format.printf format.toList (args.length + 1) args))
    | [] => some (.fails s 1 "printf: missing operand")
  else if name == "test" then
    match testResult s args with
    | .ok b => some (.ends s (if b then 0 else 1))
    | .error e => some (.fails s 2 ("test: " ++ e))
  else if name == "yes" then
    let line := (if args.isEmpty then "y" else " ".intercalate args) ++ "\n"
    some (.writes s (List.replicate (400000 / line.length) (Utf8.encode line)).flatten)
  else if name == "printenv" then
    match args with
    | [x] =>
      match s.vars.get? x with
      | some v => some (.writes s (Utf8.encode (v ++ "\n")))
      | none => some (.ends s 1)
    | _ =>
      let lines := s.vars.entries.map fun (n, v) => n ++ "=" ++ v ++ "\n"
      some (.writes s (Utf8.encode (String.join lines)))
  else if name == "basename" then
    some (.writes s (Utf8.encode (baseName (args.headD "") (args.tail.headD "") ++ "\n")))
  else if name == "dirname" then
    some (.writes s (Utf8.encode (dirName (args.headD "") ++ "\n")))
  else none

end JobMatrix.Shell
