import JobMatrix.Shell.Builtin

/-!
# Carrying out scripts

Commands run one after the other, those in the background beside the others. A bound on the
depth of the evaluation stands in for memory: a script that exceeds it is cut off.
-/

namespace JobMatrix.Shell

/-- The time that the shell needs for a command of its own, in microseconds. -/
def ownTime : Nat := 10

/-- The time that it takes to start another program, in microseconds. -/
def startTime : Nat := 1000

/-- Ends the script if an expansion failed, or goes on. -/
def unlessBroken (m : Machine) (k : Machine → Machine × Flow) : Machine × Flow :=
  if m.broken then ({ m with broken := false, status := 2 }, .exits) else k m

/-- The words of a command with the assignments before them, as they are shown before it runs. -/
def traceLine (words : List String) : List UInt8 :=
  Utf8.encode ("+ " ++ " ".intercalate words ++ "\n")

mutual

/-- Expands characters, in double quotes or not. -/
def expand : Nat → Machine → Bool → List Char → List Glyph × Machine
  | 0, m, _, _ => ([], m)
  | _ + 1, m, _, [] => ([], m)
  | n + 1, m, inQuotes, c :: rest =>
    let andThen (gs : List Glyph) (m : Machine) (rest : List Char) : List Glyph × Machine :=
      let (more, m) := expand n m inQuotes rest
      (gs ++ more, m)
    match c, rest with
    | '\\', '\n' :: rest => andThen [] m rest
    | '\\', d :: rest =>
      if inQuotes && !(['$', '\x60', '"', '\\'].contains d) then
        andThen [.char '\\' true, .char d true] m rest
      else andThen [.char d true] m rest
    | '\'', rest =>
      if inQuotes then andThen [.char '\'' true] m rest
      else
        let inner := rest.takeWhile (· != '\'')
        andThen (Glyph.quoted (String.ofList inner)) m (rest.drop (inner.length + 1))
    | '"', rest =>
      if inQuotes then andThen [] m rest
      else
        match takeNested [.double] [] rest with
        | .ok (inner, rest) =>
          let inner := inner.dropLast
          let (gs, m) := expand n m true inner
          let gs := if inner == ['$', '@'] then gs else .empty :: gs
          andThen gs m rest
        | .error _ => ([], m)
    | '\x60', rest =>
      match takeNested [.back] [] rest with
      | .ok (inner, rest) =>
        let (out, m) := capture n m (String.ofList (unprotected inner.dropLast))
        andThen (Glyph.value inQuotes out) m rest
      | .error _ => ([], m)
    | '$', '(' :: '(' :: rest =>
      match takeNested [.parens, .parens] [] rest with
      | .ok (inner, rest) =>
        let (gs, m) := expand n m true (inner.dropLast.dropLast)
        let text := Glyph.text gs
        match Arithmetic.evaluate m.vars text with
        | .ok (v, vars) => andThen (Glyph.value inQuotes (toString v)) { m with vars } rest
        | .error fault => ([], m.breakOff (fault.message text))
      | .error _ => ([], m)
    | '$', '(' :: rest =>
      match takeNested [.parens] [] rest with
      | .ok (inner, rest) =>
        let (out, m) := capture n m (String.ofList inner.dropLast)
        andThen (Glyph.value inQuotes out) m rest
      | .error _ => ([], m)
    | '$', '{' :: rest =>
      match takeNested [.braces] [] rest with
      | .ok (inner, rest) =>
        match readBraces inner.dropLast with
        | some braces =>
          let (gs, m) := expandBraces n m inQuotes braces
          if m.broken then (gs, m) else andThen gs m rest
        | none => ([], m.breakOff "Bad substitution")
      | .error _ => ([], m)
    | '$', rest =>
      match takeParameter rest with
      | some ("@", rest) => andThen (Glyph.positional inQuotes m.positional) m rest
      | some (name, rest) =>
        match m.parameter? name with
        | some v => andThen (Glyph.value inQuotes v) m rest
        | none =>
          if m.options.nounset && name != "!" then ([], m.breakOff (name ++ ": parameter not set"))
          else andThen [] m rest
      | none => andThen [.char '$' inQuotes] m rest
    | c, rest => andThen [.char c inQuotes] m rest

/-- Expands what stands in braces. -/
def expandBraces : Nat → Machine → Bool → Braces → List Glyph × Machine
  | 0, m, _, _ => ([], m)
  | n + 1, m, inQuotes, b =>
    let current := m.parameter? b.name
    let shown (s : String) : List Glyph := Glyph.value inQuotes s
    let usable := match current with
      | some v => !(v.isEmpty && b.operator.toList.head? == some ':')
      | none => false
    let unset := m.options.nounset && current.isNone && b.name != "@" && b.name != "*"
    let first := b.operator.toList.head?
    let kind := b.operator.toList.getLast?
    if unset && (b.operator.isEmpty || first == some '%' || first == some '#') then
      ([], m.breakOff (b.name ++ ": parameter not set"))
    else if b.isLength then (shown (toString (current.getD "").length), m)
    else if b.name == "@" && b.operator.isEmpty then (Glyph.positional inQuotes m.positional, m)
    else if b.operator.isEmpty then (shown (current.getD ""), m)
    else if first == some '%' || first == some '#' then
      let (gs, m) := expand n m false b.word
      let value := (current.getD "").toList
      let longest := b.operator.length == 2
      let cut := if first == some '%' then Pattern.dropEnd (Glyph.pattern gs) longest value
        else Pattern.dropStart (Glyph.pattern gs) longest value
      (shown (String.ofList cut), m)
    else if kind == some '+' then
      if usable then expand n m inQuotes b.word else ([], m)
    else if usable then (shown (current.getD ""), m)
    else if kind == some '=' then
      let (gs, m) := expand n m inQuotes b.word
      (shown (Glyph.text gs), m.set b.name (Glyph.text gs))
    else if kind == some '-' then expand n m inQuotes b.word
    else
      let (gs, m) := expand n m inQuotes b.word
      let reason := if b.word.isEmpty then "parameter not set" else Glyph.text gs
      ([], m.breakOff (b.name ++ ": " ++ reason))

/-- What a command writes, without the line feeds at its end. -/
def capture : Nat → Machine → String → String × Machine
  | 0, m, _ => ("", m)
  | n + 1, m, script =>
    let child := { m.fork with out := .pipe (m.depth + 1), depth := m.depth + 1, status := 0 }
    let (child, _) := leaveShell n (evaluate n false child (Script.ofText script))
    let (bytes, child) := child.drain (m.depth + 1)
    (Utf8.decodeLossy (chompLines bytes), m.join child)

/-- The fields of words. -/
def expandWords : Nat → Machine → List String → List String × Machine
  | 0, m, _ => ([], m)
  | _ + 1, m, [] => ([], m)
  | n + 1, m, word :: words =>
    let (gs, m) := expand n m false (m.withHome word.toList)
    let fields := (Glyph.fieldsFrom m.separators none false gs).flatMap (globbed m)
    if m.broken then (fields, m)
    else
      let (more, m) := expandWords n m words
      (fields ++ more, m)

/-- The text of a word that is not split. -/
def expandText : Nat → Machine → String → String × Machine
  | 0, m, _ => ("", m)
  | n + 1, m, word =>
    let (gs, m) := expand n m false (m.withHome word.toList)
    (Glyph.text gs, m)

/-- Lets descriptors lead elsewhere, or says why one cannot. -/
def redirect : Nat → Machine → List Redirect → Except Machine Machine
  | 0, m, _ => .error m
  | _ + 1, m, [] => .ok m
  | n + 1, m, r :: rs =>
    match r.target with
    | .write word =>
      let (path, m) := expandText n m word
      match openSink m path false with
      | .ok (sink, m) => redirect n (lead m r.descriptor sink) rs
      | .error m => .error m
    | .append word =>
      let (path, m) := expandText n m word
      match openSink m path true with
      | .ok (sink, m) => redirect n (lead m r.descriptor sink) rs
      | .error m => .error m
    | .read word =>
      let (path, m) := expandText n m word
      match m.files.read m.directory path with
      | .ok content => redirect n { m with input := content } rs
      | .error .isDirectory => redirect n { m with input := [] } rs
      | .error _ => .error (m.complain 2 ("cannot open " ++ path ++ ": No such file"))
    | .duplicate word =>
      let (text, m) := expandText n m word
      if text == "-" then
        if r.descriptor = 0 then redirect n { m with input := [] } rs
        else redirect n (lead m r.descriptor .closed) rs
      else
        match natural? text with
        | some 0 => redirect n m rs
        | some k =>
          if k ≤ 2 then redirect n (lead m r.descriptor (descriptor m k)) rs
          else .error (m.complain 2 (toString k ++ ": Bad file descriptor"))
        | none => .error (m.complain 2 "Syntax error: Bad fd number")
    | .text content expands =>
      let (text, m) :=
        if expands then
          let (gs, m) := expand n m true content.toList
          (Glyph.text gs, m)
        else (content, m)
      redirect n { m with input := Utf8.encode text } rs

/-- Sets variables to expanded words. -/
def assign : Nat → Machine → List (String × String) → Machine
  | 0, m, _ => m
  | _ + 1, m, [] => m
  | n + 1, m, (name, word) :: rest =>
    let (value, m) := expandText n m word
    if m.broken then m else assign n (m.set name value) rest

/-- What a shell does at its end: the action for that, if there is one. -/
def leaveShell : Nat → Machine × Flow → Machine × Flow
  | 0, r => r
  | n + 1, (m, flow) =>
    match flow, m.traps.find? (·.1 == 0) with
    | .cut, _ | .dies _, _ | _, none => (m, flow)
    | _, some (_, action) =>
      let status := m.status
      let (m, after) := evaluate n false { m with traps := m.traps.filter (·.1 != 0) } (Script.ofText action)
      match after with
      | .exits | .cut | .dies _ => (m, after)
      | _ => ({ m with status }, flow)

/-- Runs a shell with arguments, as a part of another one. -/
def runShell : Nat → Machine → String → List String → Machine × Flow
  | 0, m, _, _ => (m, .cut)
  | n + 1, m, name, args =>
    let child := { m.fork with
      vars := m.environment
      constants := []
      saved := none
      functions := []
      verbose := programName name == "bash"
      name
      line := 0 }
    match Start.read ⟨.usual, [], false⟩ args with
    | .error letter => (child.complain 2 ("Illegal option -" ++ String.singleton letter), .exits)
    | .ok start =>
      let child := { child with options := start.options, line := 1 }
      if start.isScript then
        match start.operands with
        | script :: rest =>
          let child := { child with name := rest.head?.getD name, positional := rest.drop 1 }
          leaveShell n (evaluate n false child (Script.ofText script))
        | [] => ({ child with line := 0 }.complain 2 "-c requires an argument", .exits)
      else
        match start.operands with
        | path :: rest =>
          match child.files.readText child.directory path with
          | .ok script =>
            leaveShell n (evaluate n false { child with name := path, positional := rest } (Script.ofText script))
          | .error _ => ({ child with line := 0 }.complain 2 ("cannot open " ++ path ++ ": No such file"), .exits)
        | [] => leaveShell n (evaluate n false child (Script.ofText (Utf8.decodeLossy child.input)))

/-- Runs a program that is not part of the shell. -/
def runProgram : Nat → Machine → List String → Machine
  | 0, m, _ => m
  | _ + 1, m, [] => m
  | n + 1, m, name :: args =>
    let program := programName name
    let m := m.pass startTime
    let missing : Machine :=
      let stands := match m.files.resolve m.directory name with
        | .ok place => (m.files.entry? place).isSome
        | .error _ => false
      if name.toList.contains '/' && stands then m.complain 126 (name ++ ": Permission denied")
      else m.complain 127 (name ++ if m.verbose && !name.toList.contains '/' then ": command not found" else ": not found")
    if !isProgram m.environment name then missing
    else if shells.contains program then
      let (child, flow) := runShell n m name args
      let m := m.join child
      match flow with
      | .dies signal =>
        { m.writeTo m.err (Utf8.encode (Signal.epitaph signal)) with status := 128 + signal }
      | _ => m
    else if program == "env" then
      let (m', args) := match args with
        | "-i" :: args => ({ m with exported := [] }, args)
        | "-" :: args => ({ m with exported := [] }, args)
        | args => (m, args)
      let settings := args.takeWhile fun a => (assignment? a).isSome
      let child := settings.foldl (fun m a =>
        match assignment? a with
        | some (x, v) => { m.set x v with exported := x :: m.exported }
        | none => m) m'
      match args.drop settings.length with
      | [] =>
        let lines := child.environment.entries.map fun (x, v) => x ++ "=" ++ v ++ "\n"
        m.print "env" (Utf8.encode (String.join lines))
      | argv =>
        if isProgram child.environment (argv.headD "") then m.join (runProgram n child.fork argv)
        else
          { m.writeTo m.err (Utf8.encode
            ("env: '" ++ argv.headD "" ++ "': No such file or directory\n")) with status := 127 }
    else if program == "nohup" then runProgram n m args
    else if program == "timeout" then
      match args with
      | time :: argv =>
        match microseconds? time with
        | some t =>
          let limit := m.clock + t
          let child := runProgram n { m.fork with deadline := some (min limit (m.deadline.getD limit)) } argv
          let joined := { m.join child with deadline := m.deadline }
          if limit ≤ child.clock then { joined with clock := limit, status := 124 } else joined
        | none => { m.writeTo m.err (Utf8.encode ("timeout: invalid time interval '" ++ time ++ "'\n")) with status := 125 }
      | [] => { m with status := 125 }
    else
      match utility? m.scene program args with
      | some effect => m.perform effect
      | none => missing

/-- Runs a command by its name. -/
def runCommand : Nat → Machine → List String → Machine × Flow
  | 0, m, _ => (m, .cut)
  | _ + 1, m, [] => (m, .next)
  | n + 1, m, name :: args =>
    let done (m : Machine) : Machine × Flow := unlessBroken m fun m => (m, .next)
    let m := m.pass ownTime
    let count (fallback : Nat) : Nat := ((args.head?.bind natural?).getD fallback)
    match m.functions.find? (·.1 == name) with
    | some (_, body) =>
      let (inner, flow) := evaluate n false { m with positional := args, saved := some [] } body
      let restored := inner.restore (inner.saved.getD [])
      ({ restored with positional := m.positional, saved := m.saved },
        if flow = .returns then .next else flow)
    | none =>
      if name == ":" then done { m with status := 0 }
      else if name == "exit" then
        match args with
        | [] => (m, .exits)
        | arg :: _ =>
          match natural? arg with
          | some k => ({ m with status := k % 256 }, .exits)
          | none => (m.complain 2 ("exit: Illegal number: " ++ arg), .exits)
      else if name == "return" then
        ({ m with status := if args.isEmpty then m.status else count 0 % 256 }, .returns)
      else if name == "break" then ({ m with status := 0 }, .breaks (max 1 (count 1)))
      else if name == "continue" then ({ m with status := 0 }, .continues (max 1 (count 1)))
      else if name == "cd" then done (changeDirectory m args)
      else if name == "set" then done (setOptions m args)
      else if name == "shift" then
        if m.positional.length < count 1 then (m.complain 2 "shift: can't shift that many", .exits)
        else done { m with positional := m.positional.drop (count 1), status := 0 }
      else if name == "unset" then
        done { (args.filter fun a => a != "-v" && a != "-f").foldl Machine.unset m with status := 0 }
      else if name == "export" then done (exportNames false m args)
      else if name == "readonly" then done (exportNames true m args)
      else if name == "local" then done (makeLocal m args)
      else if name == "wait" then done (waitFor m args)
      else if name == "kill" then
        match kill m args with
        | (m, none) => (m, .next)
        | (m, some signal) =>
          match impact m signal with
          | .nothing => (m, .next)
          | .death => (m, .dies signal)
          | .action script =>
            match evaluate n false m (Script.ofText script) with
            | (after, .next) => ({ after with status := m.status }, .next)
            | r => r
      else if name == "read" then done (readInput m args)
      else if name == "trap" then done (setTraps m args)
      else if name == "umask" then
        done (if args.isEmpty then m.print "umask" (Utf8.encode "0022\n") else { m with status := 0 })
      else if ["alias", "unalias", "ulimit", "hash", "jobs"].contains name then done { m with status := 0 }
      else if name == "type" then done (args.foldl (describe · false) { m with status := 0 })
      else if name == "eval" then evaluate n false m (Script.ofText (" ".intercalate args))
      else if name == "." then
        match m.files.readText m.directory (args.headD "") with
        | .ok script =>
          let (m, flow) := evaluate n false m (Script.ofText script)
          (m, if flow = .returns then .next else flow)
        | .error _ => (m.complain 2 (".: cannot open " ++ args.headD "" ++ ": No such file"), .exits)
      else if name == "exec" then
        if args.isEmpty then done { m with status := 0 }
        else if !isProgram m.environment (args.headD "") then
          (m.complain 127 ("exec: " ++ args.headD "" ++ ": not found"), .exits)
        else ({ runProgram n m args with traps := [] }, .exits)
      else if name == "command" then
        match args with
        | "-v" :: names => done (names.foldl (describe · true) { m with status := 0 })
        | "-V" :: names => done (names.foldl (describe · false) { m with status := 0 })
        | args =>
          runCommand n { m with functions := [] } (args.filter fun a => a != "--" && a != "-p") |> fun (inner, flow) =>
            ({ inner with functions := m.functions }, flow)
      else if name == "[" then
        match args.getLast? with
        | some "]" =>
          match testResult m.scene args.dropLast with
          | .ok b => done { m with status := if b then 0 else 1 }
          | .error e => done (m.complain 2 ("[: " ++ e))
        | _ => done (m.complain 2 "[: missing ]")
      else if name == "test" then
        match testResult m.scene args with
        | .ok b => done { m with status := if b then 0 else 1 }
        | .error e => done (m.complain 2 ("test: " ++ e))
      else if name == "echo" then
        done (m.print "echo" (if m.verbose then Format.echoSwitched args else Format.echo true args))
      else if name == "printf" && args.isEmpty then
        done (m.complain 2 "printf: usage: printf format [arg ...]")
      else if ownUtilities.contains name then
        match utility? m.scene name args with
        | some effect =>
          let m := m.writeTo m.err effect.err
          if effect.status = 0 then done (m.print name effect.out)
          else done { m.writeTo m.out effect.out with status := effect.status }
        | none => done m
      else done (runProgram n m (name :: args))

/-- Runs a simple command. -/
def runSimple : Nat → Machine → List (String × String) → List String → List Redirect →
    Machine × Flow
  | 0, m, _, _, _ => (m, .cut)
  | n + 1, m, assignments, words, redirects =>
    let (argv, m) := expandWords n { m with status := if words.isEmpty then 0 else m.status } words
    unlessBroken m fun m =>
    match redirect n m redirects with
    | .error m =>
      if specialNames.contains (argv.headD "") then ({ m with broken := false }, .exits)
      else unlessBroken m fun m => (m, .next)
    | .ok inner => unlessBroken inner fun inner =>
      let shownAssignments := if inner.options.trace then
          assignments.map fun (name, word) => name ++ "=" ++ (expandText n inner word).1
        else []
      let inner := if inner.options.trace && !(shownAssignments ++ argv).isEmpty then
          inner.writeTo m.err (traceLine (shownAssignments ++ argv))
        else inner
      match argv with
      | [] => unlessBroken (assign n inner assignments) fun inner =>
        ({ inner with out := m.out, err := m.err, input := m.input }, .next)
      | argv => unlessBroken (assign n inner assignments) fun inner =>
        let names := assignments.map (·.1)
        let (inner, flow) := runCommand n { inner with exported := names ++ inner.exported } argv
        let restored :=
          if assignments.isEmpty then inner
          else { inner with vars := m.vars, exported := m.exported }
        if argv == ["exec"] then (restored, flow)
        else
          ({ restored with
            out := m.out
            err := m.err
            input := if redirects.isEmpty then restored.input else m.input }, flow)

/-- Carries out a script. `tested` says that what follows looks at its status. -/
def evaluate : Nat → Bool → Machine → Script → Machine × Flow
  | 0, _, m, _ => (m, .cut)
  | n + 1, tested, m, script =>
    let strictly (r : Machine × Flow) : Machine × Flow :=
      if r.2 = .next && r.1.options.strict && !tested && r.1.status != 0 then (r.1, .exits) else r
    if m.isOver then (m, .cut)
    else if m.options.noexec then (m, .next)
    else
      match script with
      | .nothing => (m, .next)
      | .simple line assignments words redirects =>
        let (m, flow) := runSimple n { m with line } assignments words redirects
        if m.isOver then (m, .cut) else strictly (m, flow)
      | .redirected body redirects =>
        match redirect n m redirects with
        | .error m => unlessBroken m fun m => strictly (m, .next)
        | .ok inner => unlessBroken inner fun inner =>
          let (inner, flow) := evaluate n tested inner body
          ({ inner with out := m.out, err := m.err, input := m.input }, flow)
      | .subshell body =>
        let (child, flow) := leaveShell n (evaluate n tested m.fork body)
        strictly (m.join child, Machine.Flow.outside flow)
      | .branch condition yes no =>
        match evaluate n true m condition with
        | (m, .next) =>
          if m.status = 0 then evaluate n tested m yes
          else
            match no with
            | .nothing => ({ m with status := 0 }, .next)
            | no => evaluate n tested m no
        | r => r
      | .loop whileFails condition body => repeatLoop n tested m whileFails 0 condition body
      | .each name words body =>
        let (values, m) := match words with
          | some words => expandWords n m words
          | none => (m.positional, m)
        unlessBroken m fun m => repeatEach n tested { m with status := 0 } name values body
      | .choice word arms =>
        let (text, m) := expandText n m word
        unlessBroken m fun m => chooseArm n tested { m with status := 0 } text arms
      | .arm .. => (m, .next)
      | .pipeline left right =>
        let writer := { m.fork with out := .pipe (m.depth + 1), depth := m.depth + 1 }
        let (writer, first) := leaveShell n (evaluate n true writer left)
        let (bytes, writer) := writer.drain (m.depth + 1)
        let reader := { (m.join writer).fork with clock := m.clock, input := bytes }
        let (reader, second) := leaveShell n (evaluate n true reader right)
        let status :=
          if m.options.pipefail && reader.status = 0 then writer.status else reader.status
        let m := { m.join reader with clock := max writer.clock reader.clock, status }
        let flow := match first, second with
          | .cut, _ | _, .cut => .cut
          | .dies signal, _ | _, .dies signal => .dies signal
          | _, _ => .next
        strictly (m, flow)
      | .inverted body =>
        match evaluate n true m body with
        | (m, .next) => ({ m with status := if m.status = 0 then 1 else 0 }, .next)
        | r => r
      | .both left right =>
        match evaluate n true m left with
        | (m, .next) => if m.status = 0 then evaluate n tested m right else (m, .next)
        | r => r
      | .either left right =>
        match evaluate n true m left with
        | (m, .next) => if m.status = 0 then (m, .next) else evaluate n tested m right
        | r => r
      | .sequence left right =>
        match evaluate n tested m left with
        | (m, .next) => evaluate n tested m right
        | r => r
      | .background body =>
        let (child, _) := leaveShell n (evaluate n false { m.fork with input := [] } body)
        let pid := max m.lastPid child.lastPid + 1
        let redirects := match body with
          | .simple _ _ _ redirects | .redirected _ redirects => redirects
          | _ => []
        let canWrite := match redirect n m redirects with
          | .ok inner => inner.canWrite
          | .error _ => false
        let m := { m with
          files := child.files
          written := child.written
          children := m.children ++ child.children ++ [⟨pid, child.clock, child.status, none, canWrite⟩]
          lastPid := pid
          status := 0 }
        (m, .next)
      | .definition name body =>
        ({ m with functions := (name, body) :: m.functions.filter (·.1 != name), status := 0 }, .next)
      | .malformed line message => ({ m with line }.complain 2 message, .exits)

/-- Repeats a body as long as a condition allows. The status is that of the last body. -/
def repeatLoop : Nat → Bool → Machine → Bool → Nat → Script → Script → Machine × Flow
  | 0, _, m, _, _, _, _ => (m, .cut)
  | n + 1, tested, m, whileFails, status, condition, body =>
    match evaluate n true m condition with
    | (m, .next) =>
      if (m.status = 0) == whileFails then ({ m with status }, .next)
      else
        match evaluate n tested m body with
        | (m, .next) | (m, .continues 1) => repeatLoop n tested m whileFails m.status condition body
        | (m, .breaks 1) => (m, .next)
        | (m, .breaks k) => (m, .breaks (k - 1))
        | (m, .continues k) => (m, .continues (k - 1))
        | r => r
    | (m, .breaks 1) => (m, .next)
    | r => r

/-- Repeats a body for each value of a variable. -/
def repeatEach : Nat → Bool → Machine → String → List String → Script → Machine × Flow
  | 0, _, m, _, _, _ => (m, .cut)
  | _ + 1, _, m, _, [], _ => (m, .next)
  | n + 1, tested, m, name, value :: values, body =>
    match evaluate n tested (m.set name value) body with
    | (m, .next) | (m, .continues 1) => repeatEach n tested m name values body
    | (m, .breaks 1) => (m, .next)
    | (m, .breaks k) => (m, .breaks (k - 1))
    | (m, .continues k) => (m, .continues (k - 1))
    | r => r

/-- Carries out the first arm with a pattern that matches. -/
def chooseArm : Nat → Bool → Machine → String → Script → Machine × Flow
  | 0, _, m, _, _ => (m, .cut)
  | n + 1, tested, m, text, arms =>
    match arms with
    | .arm patterns body next =>
      let (fits, m) := fitsAny n m text patterns
      if fits then evaluate n tested m body else chooseArm n tested m text next
    | _ => (m, .next)

/-- Whether a text matches one of some patterns. -/
def fitsAny : Nat → Machine → String → List String → Bool × Machine
  | 0, m, _, _ => (false, m)
  | _ + 1, m, _, [] => (false, m)
  | n + 1, m, text, p :: ps =>
    let (gs, m) := expand n m false p.toList
    if (Glyph.pattern gs).accepts text.toList then (true, m) else fitsAny n m text ps

end

/-- The bound on the depth of an evaluation. -/
def depthBound : Nat := 1000000

end JobMatrix.Shell
