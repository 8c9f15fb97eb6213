import JobMatrix.Shell.Options
import JobMatrix.Shell.Script
import JobMatrix.Shell.Signal
import JobMatrix.Shell.Utility

/-!
# The machine that carries out scripts

The machine keeps the files, the variables, where the descriptors lead, and the time. What is
written is kept with the time at which it was, so that a script can be stopped at any point.
-/

namespace JobMatrix.Shell

/-- Where a descriptor leads. -/
inductive Sink
  | out
  | err
  | nowhere
  /-- The descriptor is closed. -/
  | closed
  | file (place : List String)
  /-- Into a pipe or a substitution, which are told apart by their depth. -/
  | pipe (depth : Nat)
deriving DecidableEq, Inhabited

/-- How a script goes on after a command. -/
inductive Flow
  | next
  | breaks (loops : Nat)
  | continues (loops : Nat)
  | returns
  | exits
  /-- The shell dies of a signal. -/
  | dies (signal : Nat)
  /-- The time is over. -/
  | cut
deriving DecidableEq, Inhabited

/-- A process in the background: its number, its end, its status, and the signal that ended it. -/
structure Child where
  pid : Nat
  finish : Nat
  status : Nat
  signal : Option Nat
  /-- Whether it can write to the output of the script. -/
  canWrite : Bool
deriving DecidableEq, Inhabited

/-- The state of a shell. -/
structure Machine where
  files : Files
  directory : List String
  vars : Env String
  /-- The names of the variables that commands see. -/
  exported : List String
  /-- The names of the variables that may not change. -/
  constants : List String
  /-- The variables to restore when the current function ends, if one is running. -/
  saved : Option (List (String × Option String))
  name : String
  /-- Whether messages have the form of the larger shell. -/
  verbose : Bool
  positional : List String
  functions : List (String × Script)
  /-- What to do at the end, which has the number 0, or when a signal comes. -/
  traps : List (Nat × String)
  /-- The line of the current command. -/
  line : Nat
  status : Nat
  /-- The time since the start, in microseconds. -/
  clock : Nat
  /-- When the shell is stopped. -/
  deadline : Option Nat
  /-- What was written, the latest first. -/
  written : List (Nat × Sink × List UInt8)
  input : List UInt8
  out : Sink
  err : Sink
  depth : Nat
  children : List Child
  /-- The number of the process started last. -/
  lastPid : Nat
  options : Options
  /-- Whether an expansion failed, which ends the script. -/
  broken : Bool
deriving Inhabited

namespace Machine

/-- The number of the shell's own process. -/
def ownPid : Nat := 100

/-- The variables that commands see. -/
def environment (m : Machine) : Env String :=
  ⟨m.vars.entries.filter fun (n, _) => m.exported.contains n⟩

/-- Whether the time is over. -/
def isOver (m : Machine) : Bool :=
  match m.deadline with
  | some d => d ≤ m.clock
  | none => false

/-- Time passes. -/
def pass (m : Machine) (time : Nat) : Machine :=
  { m with clock := m.clock + time }

/-- Writes bytes to where a descriptor leads. -/
def writeTo (m : Machine) (sink : Sink) (bytes : List UInt8) : Machine :=
  if bytes.isEmpty then m
  else
    match sink with
    | .nowhere | .closed => m
    | .file place =>
      let before := match m.files.entry? place with
        | some (.file content) => content
        | _ => []
      { m with files := m.files.put place (.file (before ++ bytes)) }
    | sink => { m with written := (m.clock, sink, bytes) :: m.written }

/-- A message of the shell about the current line, and a status. -/
def complain (m : Machine) (status : Nat) (message : String) : Machine :=
  let place := if m.verbose then ": line " else ": "
  let text := m.name ++ place ++ toString m.line ++ ": " ++ message ++ "\n"
  { m.writeTo m.err (Utf8.encode text) with status }

/-- A message of the shell that ends the script. -/
def breakOff (m : Machine) (message : String) : Machine :=
  { m.complain 2 message with broken := true }

/-- Writes bytes to the output of a command of the shell, which says so if it has none. -/
def print (m : Machine) (command : String) (bytes : List UInt8) : Machine :=
  if m.out = .closed && !bytes.isEmpty then
    m.complain 1 (command ++ ": " ++ command ++ ": I/O error")
  else { m.writeTo m.out bytes with status := 0 }

/-- Sets a variable, unless it may not change. -/
def set (m : Machine) (name value : String) : Machine :=
  if m.constants.contains name then m.breakOff (name ++ ": is read only")
  else { m with vars := m.vars.insert name value }

/-- Removes a variable. -/
def unset (m : Machine) (name : String) : Machine :=
  { m with
    vars := ⟨m.vars.entries.filter (·.1 != name)⟩
    exported := m.exported.filter (· != name) }

/-- Gives a variable the value that it had, or none. -/
def restore (m : Machine) (saved : List (String × Option String)) : Machine :=
  saved.foldl (fun m (name, value) =>
    match value with
    | some value => { m with vars := m.vars.insert name value }
    | none => m.unset name) m

/-- What a utility sees. -/
def scene (m : Machine) : Scene :=
  ⟨m.files, m.directory, m.environment, m.input⟩

/-- Carries out what a utility does. The time it sleeps ends at the deadline. -/
def perform (m : Machine) (e : Effect) : Machine :=
  let m := { m with files := e.files, status := e.status }
  let m := (m.writeTo m.out e.out).writeTo m.err e.err
  m.pass e.sleeps

/-- The value of a parameter. -/
def parameter? (m : Machine) (name : String) : Option String :=
  if name == "?" then some (toString m.status)
  else if name == "$" then some (toString ownPid)
  else if name == "!" then if m.lastPid = ownPid then none else some (toString m.lastPid)
  else if name == "#" then some (toString m.positional.length)
  else if name == "-" then some m.options.letters
  else if name == "0" then some m.name
  else if name == "@" then some (" ".intercalate m.positional)
  else if name == "*" then
    let separator := String.ofList (((m.vars.get? "IFS").getD " ").toList.take 1)
    some (separator.intercalate m.positional)
  else
    match natural? name with
    | some n => m.positional[n - 1]?
    | none => m.vars.get? name

/-! ## Shells inside of a shell -/

/-- A shell of its own for a part of a script. It forgets what to do at signals that are not ignored. -/
def fork (m : Machine) : Machine :=
  { m with children := [], traps := m.traps.filter fun (_, action) => action.isEmpty }

/-- The shell after a part of the script was carried out by a shell of its own. -/
def join (m child : Machine) : Machine :=
  { m with
    files := child.files
    written := child.written
    clock := child.clock
    status := child.status
    children := m.children ++ child.children
    lastPid := max m.lastPid child.lastPid }

/-- How the outer shell goes on after an inner one. -/
def Flow.outside : Flow → Flow
  | .dies signal => .dies signal
  | .cut => .cut
  | _ => .next

/-- What went into a pipe, and the machine without it. -/
def drain (m : Machine) (depth : Nat) : List UInt8 × Machine :=
  let (inPipe, others) := m.written.partition fun (_, sink, _) => sink == .pipe depth
  ((inPipe.reverse.map fun (_, _, bytes) => bytes).flatten, { m with written := others })

/-- Whether a descriptor leads to the output of the script. -/
def canWrite (m : Machine) : Bool :=
  m.out == .out || m.out == .err || m.err == .out || m.err == .err

/-- The point from which on nothing more can be written. -/
def finish (m : Machine) : Nat :=
  ((m.children.filter Child.canWrite).map Child.finish).foldl max m.clock

end Machine

end JobMatrix.Shell
