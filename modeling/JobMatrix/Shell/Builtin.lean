import JobMatrix.Shell.Expansion
import JobMatrix.Shell.Reader

/-!
# Commands of the shell

Commands that change the shell itself and need not carry out scripts for that.
-/

namespace JobMatrix.Shell

/-- The commands that are part of the shell and of which there are utilities too. -/
def ownUtilities : List String :=
  ["true", "false", "printf", "pwd"]

/-- The commands that are part of the shell. -/
def ownCommands : List String :=
  specialNames ++ ownUtilities ++
    ["[", "alias", "bg", "cd", "command", "echo", "fg", "getopts", "hash", "jobs", "kill", "local",
      "read", "test", "type", "ulimit", "umask", "unalias", "wait"]

/-! ## Processes -/

/-- What is said to `kill` without targets. -/
def killUsage : String :=
  "kill: Usage: kill [-s sigspec | -signum | -sigspec] [pid | job]... or\nkill -l [exitstatus]"

/-- The signal and the targets of `kill`. -/
def killArguments (args : List String) : Option (Nat × List String) :=
  match args with
  | "-s" :: s :: targets => (Signal.number? s).map (·, targets)
  | "--" :: targets => some (15, targets)
  | first :: targets =>
    match first.toList with
    | '-' :: s => (Signal.number? (String.ofList s)).map (·, targets)
    | _ => some (15, first :: targets)
  | [] => none

/-- What a signal does to the shell itself: nothing, an action, or its death. -/
inductive Impact
  | nothing
  | action (script : String)
  | death
deriving DecidableEq, Inhabited

/-- What a signal does to the shell. -/
def impact (m : Machine) (signal : Nat) : Impact :=
  match m.traps.find? (·.1 == signal) with
  | some (_, action) =>
    if signal = 9 || signal = 19 then .death
    else if action.isEmpty then .nothing
    else .action action
  | none => if Signal.isHarmless signal then .nothing else .death

/-- Sends a signal to processes: the machine, and the signal if it was sent to the shell itself. -/
def kill (m : Machine) (args : List String) : Machine × Option Nat :=
  match args, killArguments args with
  | ["-l", n], _ =>
    match (natural? n).bind fun k => Signal.ofNumber? (k % 128) with
    | some g => (m.print "kill" (Utf8.encode (g.name ++ "\n")), none)
    | none => (m.complain 2 ("kill: invalid signal number or exit status: " ++ n), none)
  | _, none | _, some (_, []) => (m.complain 2 killUsage, none)
  | _, some (signal, targets) =>
    let own := targets.any fun t => t == "0" || t == toString Machine.ownPid
    if own then ({ m with status := 0 }, if signal = 0 then none else some signal)
    else
      let known := targets.all fun t => m.children.any fun c => toString c.pid == t && m.clock < c.finish
      let children := m.children.map fun c =>
        if targets.contains (toString c.pid) && m.clock < c.finish && signal != 0 then
          { c with finish := m.clock, status := 128 + signal, signal := some signal }
        else c
      if known then ({ m with children, status := 0 }, none)
      else (m.complain 1 "kill: No such process\n", none)

/-- Waits for all processes, or for some. -/
def waitFor (m : Machine) (args : List String) : Machine :=
  let awaited : List Child :=
    if args.isEmpty then m.children
    else m.children.filter fun c => args.contains (toString c.pid)
  let m := { m with clock := (awaited.map Child.finish).foldl max m.clock }
  if args.isEmpty then { m with status := 0 }
  else
    match awaited.getLast? with
    | some c =>
      { m.writeTo m.err (Utf8.encode ((c.signal.map Signal.epitaph).getD "")) with status := c.status }
    | none => { m with status := 127 }

/-! ## Surroundings -/

/-- Changes the directory. -/
def changeDirectory (m : Machine) (args : List String) : Machine :=
  let old := (m.vars.get? "PWD").getD (Files.pathOf m.directory)
  let path := match args with
    | [] => (m.vars.get? "HOME").getD "/"
    | "-" :: _ => (m.vars.get? "OLDPWD").getD old
    | path :: _ => path
  let fails := m.complain 2 ("cd: can't cd to " ++ path)
  match m.files.resolve m.directory path with
  | .ok place =>
    if m.files.isDirectory place then
      let m := { m with directory := place, status := 0 }
      let m := (m.set "OLDPWD" old).set "PWD" (Files.pathOf place)
      if args.head? == some "-" then m.print "cd" (Utf8.encode (Files.pathOf place ++ "\n")) else m
    else fails
  | .error _ => fails

/-- Reads a line of the input into variables. -/
def readInput (m : Machine) (args : List String) : Machine :=
  let names := args.filter (·.toList.head? != some '-')
  let line := m.input.takeWhile (· != 10)
  let rest := m.input.drop (line.length + 1)
  let separates (c : Char) : Bool := m.separators.contains c
  let text := (Utf8.decodeLossy line).toList
  let trimmed := ((text.dropWhile Glyph.isSpace).reverse.dropWhile Glyph.isSpace).reverse
  let status := if m.input.isEmpty || line.length = m.input.length then 1 else 0
  let rec assign (m : Machine) : List String → List Char → Machine
    | [], _ => m
    | [n], cs => m.set n (String.ofList cs)
    | n :: ns, cs =>
      let word := cs.takeWhile fun c => !separates c
      let after := cs.drop word.length
      let after := if (after.head?.map Glyph.isSpace).getD false then after.dropWhile Glyph.isSpace
        else after.drop 1
      assign (m.set n (String.ofList word)) ns (after.dropWhile Glyph.isSpace)
  { assign m names trimmed with input := rest, status }

/-- Changes how the shell runs, or the positional parameters. -/
def setOptions (m : Machine) : List String → Machine
  | [] => { m with status := 0 }
  | "--" :: args => { m with positional := args, status := 0 }
  | "-o" :: name :: args => setOptions { m with options := m.options.switchNamed true name } args
  | "+o" :: name :: args => setOptions { m with options := m.options.switchNamed false name } args
  | arg :: args =>
    match arg.toList with
    | '-' :: c :: cs =>
      setOptions { m with options := (c :: cs).foldl (Options.switch true) m.options } args
    | '+' :: c :: cs =>
      setOptions { m with options := (c :: cs).foldl (Options.switch false) m.options } args
    | _ => { m with positional := arg :: args, status := 0 }

/-- Sets or names variables that commands see, or that may not change. -/
def exportNames (constant : Bool) (m : Machine) (args : List String) : Machine :=
  let mark (m : Machine) (name : String) : Machine :=
    if constant then { m with constants := name :: m.constants }
    else { m with exported := name :: m.exported }
  let m := { m with status := 0 }
  (args.filter (· != "-p")).foldl (fun m arg =>
    match assignment? arg with
    | some (x, v) => mark (m.set x v) x
    | none => mark m arg) m

/-- Makes variables those of the current function. -/
def makeLocal (m : Machine) (args : List String) : Machine :=
  match m.saved with
  | none => m.breakOff "local: not in a function"
  | some saved =>
    args.foldl (fun m arg =>
      let name := ((assignment? arg).map (·.1)).getD arg
      let m := { m with saved := some ((name, m.vars.get? name) :: m.saved.getD saved) }
      match assignment? arg with
      | some (x, v) => m.set x v
      | none => m) { m with status := 0 }

/-- The number of a condition that `trap` names. -/
def trapCondition? (s : String) : Option Nat :=
  if s == "EXIT" then some 0 else Signal.number? s

/-- Says what to do at the end or when signals come. -/
def setTraps (m : Machine) (args : List String) : Machine :=
  let args := if args.head? == some "--" then args.tail else args
  let (action, names) := match args with
    | [] => (some "", [])
    | "-" :: names => (none, names)
    | [name] => (none, [name])
    | action :: names => (some action, names)
  match names.find? fun n => (trapCondition? n).isNone with
  | some bad => m.complain 1 ("trap: " ++ bad ++ ": bad trap")
  | none =>
    let numbers := names.filterMap trapCondition?
    let others := m.traps.filter fun (n, _) => !numbers.contains n
    let added := match action with
      | some script => numbers.map (·, script)
      | none => []
    { m with traps := others ++ added, status := 0 }

/-! ## Programs -/

/-- The names of programs that carry out scripts. -/
def shells : List String := ["sh", "dash", "bash"]

/-- The directories in which programs lie. -/
def programDirectories : List String := ["/bin", "/usr/bin", "/usr/local/bin"]

/-- The name of a program that is called by its path. -/
def programName (s : String) : String :=
  match programDirectories.find? fun d => (d ++ "/").toList.isPrefixOf s.toList with
  | some d => String.ofList (s.toList.drop (d.length + 1))
  | none => s

/-- Whether programs can be called by their names alone. -/
def hasPrograms (environment : Env String) : Bool :=
  match environment.get? "PATH" with
  | some path => (path.toList.splitOn ':').any fun d => ["/bin", "/usr/bin"].contains (String.ofList d)
  | none => true

/-- Whether there is a program of a name. -/
def isProgram (environment : Env String) (name : String) : Bool :=
  (shells ++ utilities ++ ["env", "timeout", "nohup"]).contains (programName name)
    && (name.toList.contains '/' || hasPrograms environment)

/-- What `type` and `command` say about a name. -/
def describe (m : Machine) (brief : Bool) (name : String) : Machine :=
  let say (short long : String) : Machine :=
    m.print "type" (Utf8.encode ((if brief then short else name ++ " is " ++ long) ++ "\n"))
  if reservedWords.contains name then say name "a shell keyword"
  else if m.functions.any (·.1 == name) then say name "a shell function"
  else if specialNames.contains name then say name "a special shell builtin"
  else if ownCommands.contains name then say name "a shell builtin"
  else if isProgram m.environment name then say ("/usr/bin/" ++ name) ("/usr/bin/" ++ name)
  else if brief then { m with status := 127 }
  else { m.writeTo m.out (Utf8.encode (name ++ ": not found\n")) with status := 127 }

/-! ## Descriptors -/

/-- Where a descriptor leads. -/
def descriptor (m : Machine) (n : Nat) : Sink :=
  if n = 1 then m.out else if n = 2 then m.err else .nowhere

/-- Lets a descriptor lead elsewhere. -/
def lead (m : Machine) (n : Nat) (sink : Sink) : Machine :=
  if n = 1 then { m with out := sink } else if n = 2 then { m with err := sink } else m

/-- Opens a file for writing, emptied or not. -/
def openSink (m : Machine) (path : String) (append : Bool) : Except Machine (Sink × Machine) :=
  let fails (reason : String) : Except Machine (Sink × Machine) :=
    .error (m.complain 2 ("cannot create " ++ path ++ ": " ++ reason))
  if path == "/dev/null" then .ok (.nowhere, m)
  else if path == "/dev/stdout" then .ok (m.out, m)
  else if path == "/dev/stderr" then .ok (m.err, m)
  else
    match m.files.resolve m.directory path with
    | .error e => fails (if e = .missing then "Directory nonexistent" else reason e)
    | .ok place =>
      match m.files.entry? place with
      | some .directory => fails "Is a directory"
      | some (.file content) =>
        let content := if append then content else []
        .ok (.file place, { m with files := m.files.put place (.file content) })
      | none =>
        if m.files.isDirectory place.dropLast then
          .ok (.file place, { m with files := m.files.put place (.file []) })
        else fails "Directory nonexistent"

end JobMatrix.Shell
