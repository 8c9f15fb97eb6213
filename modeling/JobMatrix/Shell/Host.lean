import JobMatrix.Run.Timeline
import JobMatrix.Shell.Evaluation

/-!
# A host that runs commands

The host hands each command to a program, which is a shell unless the pipeline names another
one. It starts the program in the directory of the request, with the variables of the
request besides its own, and stops it with all its processes when its time is over or the
run is cancelled.

A program that ended by itself is waited for until all processes that it left behind and
that can still write to its output have ended too.
-/

namespace JobMatrix.Shell

/-- The shell that commands are handed to if the pipeline names none. -/
def defaultShell : List String := ["sh", "-c"]

/-- The surroundings of programs. -/
structure Surroundings where
  /-- The directory that relative directories are seen from. -/
  directory : List String
  environment : Env String
deriving Inhabited

/-- How a program went. -/
structure Course where
  /-- Whether it was stopped. -/
  stopped : Bool
  /-- The exit code, unless a signal ended it. -/
  code : Option Int
  /-- When it ended, and when the last of its processes did, in microseconds. -/
  ended : Nat
  finished : Nat
  stdout : List UInt8
  stderr : List UInt8
  files : Files

/-- A machine at its start. -/
def freshMachine (files : Files) (directory : List String) (environment : Env String)
    (deadline : Option Nat) : Machine where
  files
  directory
  vars := environment.insert "PWD" (Files.pathOf directory)
  exported := "PWD" :: environment.entries.map (·.1)
  constants := []
  saved := none
  name := "sh"
  verbose := false
  positional := []
  functions := []
  traps := []
  line := 0
  status := 0
  clock := 0
  deadline
  written := []
  input := []
  out := .out
  err := .err
  depth := 0
  children := []
  lastPid := Machine.ownPid
  options := .usual
  broken := false

/-- Carries out a program with its arguments. -/
def carryOut (m : Machine) (argv : List String) : Machine × Flow :=
  if shells.contains (programName (argv.headD "")) then
    runShell depthBound m (argv.headD "") (argv.drop 1)
  else
    let m := runProgram depthBound m argv
    (m, if m.isOver then .cut else .next)

/-- What was written to a sink up to some time. -/
def writtenTo (m : Machine) (sink : Sink) (until' : Option Nat) : List UInt8 :=
  let early := m.written.reverse.filter fun (t, s, _) => s = sink && until'.all (t ≤ ·)
  ((early.mergeSort fun a b => a.1 ≤ b.1).map fun (_, _, bytes) => bytes).flatten

/-- How a program goes that is stopped at a deadline unless it has ended by then. One that goes deeper
than the bound counts as one that would go on for ever, and is stopped too. -/
def courseUntil (files : Files) (directory : List String) (environment : Env String)
    (argv : List String) (deadline : Option Nat) : Course :=
  let go (deadline : Option Nat) := carryOut (freshMachine files directory environment deadline) argv
  match go deadline with
  | (m, .cut) =>
    let time := deadline.getD m.clock
    ⟨true, none, time, time, writtenTo m .out deadline, writtenTo m .err deadline, m.files⟩
  | (_, _) =>
    let (m, flow) := go none
    let code : Option Int := match flow with
      | .dies _ => none
      | _ => some m.status
    ⟨false, code, m.clock, m.finish, writtenTo m .out none, writtenTo m .err none, m.files⟩

/-! ## Starting programs -/

/-- Whether a text can be handed to a program. -/
def isPassable (s : String) : Bool :=
  !s.toList.contains (Char.ofNat 0)

/-- Whether there is a program of a name, or what is wrong with it. -/
def findProgram (files : Files) (directory : List String) (environment : Env String) (name : String) :
    Except String Unit :=
  if isProgram environment name then .ok ()
  else if !name.toList.contains '/' then .error FileError.missing.message
  else
    match files.resolve directory name with
    | .error e => .error e.message
    | .ok place =>
      if (files.entry? place).isSome then .error "Permission denied (os error 13)"
      else .error FileError.missing.message

/-- The directory of a request, or why it cannot be entered. -/
def enterDirectory (files : Files) (directory : List String) (path : String) :
    Except String (List String) :=
  match files.resolve directory path with
  | .error e => .error e.message
  | .ok place =>
    match files.entry? place with
    | some .directory => .ok place
    | some (.file _) => .error FileError.notDirectory.message
    | none => .error FileError.missing.message

/-- What is needed to start a program: its directory, or why it cannot be started. -/
def prepare (s : Surroundings) (files : Files) (argv : List String) (request : Request) :
    Except String (List String) := do
  let texts := request.workingDirectory :: argv ++
    request.env.entries.flatMap fun (name, value) => [name, value]
  if !texts.all isPassable then throw "nul byte found in provided data"
  let directory ← enterDirectory files s.directory request.workingDirectory
  findProgram files directory (s.environment.extend request.env) (argv.headD "")
  return directory

/-! ## Replies -/

/-- The least time that a program takes, in microseconds. -/
def leastTime : Nat := 1000

/-- A duration of microseconds. -/
def micros (n : Nat) : Duration := ⟨n * 1000⟩

/-- The output of a program that went in some way. -/
def Course.output (c : Course) (whenStopped : Termination) : CommandOutput where
  termination := if c.stopped then whenStopped else .exited c.code
  stdout := Utf8.decodeLossy c.stdout
  stderr := Utf8.decodeLossy c.stderr
  duration := micros c.finished

/-- The reply for a program with a timeout or without one. Only a timeout stops a program in time; one
that is stopped without could not be followed any further. -/
def Course.reply (c : Course) (timeout : Option Nat) : Reply :=
  if c.stopped && timeout.isNone then .error (.wait "the program does not come to an end")
  else .ok (c.output .timedOut)

/-- How a command goes, and the files after it. -/
def fly (s : Surroundings) (shell : List String) (files : Files) (request : Request)
    (timeout : Option Nat) : Files × Run.Flight :=
  let atOnce (e : CommandError) : Files × Run.Flight :=
    (files, ⟨.zero, some (.error e), fun _ => .error e, false⟩)
  match shell with
  | [] => atOnce .noShell
  | program :: args =>
    let argv := program :: args ++ [request.command]
    match prepare s files argv request with
    | .error cause => atOnce (.launch program cause)
    | .ok directory =>
      let environment := s.environment.extend request.env
      let until' := courseUntil files directory environment argv
      let c := until' timeout
      let length := if c.stopped then c.finished else max leastTime c.finished
      (c.files,
        { length := micros length
          ending := some (c.reply timeout)
          cutShort := fun d => .ok ((until' (some (d.nanos / 1000))).output .cancelled)
          cancels := false })

/-! ## The host -/

/-- The files that a host works on, and the number of workspaces that it has made. -/
structure Disk where
  files : Files
  workspaces : Nat
deriving Inhabited

/-- The path of a workspace. -/
def workspacePath (n : Nat) : String :=
  let digits := Nat.toDigits 10 n
  "/tmp/matrix-ci-job-" ++ String.ofList (List.replicate (6 - digits.length) 'A' ++ digits)

/-- The host for a pipeline. -/
def host (s : Surroundings) (p : Pipeline) : Run.Host Disk where
  enter disk _ :=
    let path := workspacePath disk.workspaces
    match disk.files.resolve [] path with
    | .ok place =>
      if disk.files.isDirectory place.dropLast then
        (⟨disk.files.put place .directory, disk.workspaces + 1⟩, .ok path)
      else (disk, .error (FileError.missing.message ++ " at path \"" ++ path ++ "\""))
    | .error e => (disk, .error (e.message ++ " at path \"" ++ path ++ "\""))
  leave disk path :=
    match disk.files.resolve [] path with
    | .ok place => { disk with files := disk.files.remove place }
    | .error _ => disk
  launch disk call :=
    let (files, flight) := fly s (p.shell.getD defaultShell) disk.files call.request
      (call.request.timeoutSecs.map (· * 1000000))
    ({ disk with files }, flight)

end JobMatrix.Shell
