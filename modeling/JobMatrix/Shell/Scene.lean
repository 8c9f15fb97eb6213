import JobMatrix.Env
import JobMatrix.Files
import JobMatrix.Shell.Format

/-!
# What utilities see and do

A utility sees its arguments, the files, and what it is given to read. It may write, change
files, wait, and ends with a status.
-/

namespace JobMatrix.Shell

/-- What a utility sees. -/
structure Scene where
  files : Files
  directory : List String
  vars : Env String
  input : List UInt8

/-- What a utility does. -/
structure Effect where
  out : List UInt8
  err : List UInt8
  status : Nat
  files : Files
  /-- The time it sleeps, in microseconds. -/
  sleeps : Nat

namespace Effect

/-- Nothing but a status. -/
def ends (s : Scene) (status : Nat) : Effect :=
  ⟨[], [], status, s.files, 0⟩

/-- Some output. -/
def writes (s : Scene) (out : List UInt8) : Effect :=
  ⟨out, [], 0, s.files, 0⟩

/-- A message about a failure. -/
def fails (s : Scene) (status : Nat) (message : String) : Effect :=
  ⟨[], Utf8.encode (message ++ "\n"), status, s.files, 0⟩

/-- One effect after the other, with the greater status. -/
def andThen (a : Effect) (f : Files → Effect) : Effect :=
  let b := f a.files
  ⟨a.out ++ b.out, a.err ++ b.err, max a.status b.status, b.files, a.sleeps + b.sleeps⟩

end Effect

/-! ## Reading files -/

/-- What is said about a file that cannot be had. -/
def reason (e : FileError) : String :=
  match e with
  | .missing => "No such file or directory"
  | .isDirectory => "Is a directory"
  | .notDirectory => "Not a directory"
  | .nameTooLong => "File name too long"
  | _ => "Invalid argument"

/-- A name in a message: in quotes if it holds characters that a shell would treat. -/
def shownName (name : String) : String :=
  let special := [' ', '\t', '!', '"', '#', '$', '&', '\'', '(', ')', '*', ';', '<', '=', '>', '?',
    '[', '\\', ']', '^', '\x60', '\x7b', '|', '\x7d', '~']
  if name.isEmpty || name.toList.any special.contains then "'" ++ name ++ "'" else name

/-- Does something with each of some files, or with the input if none are named. -/
def eachFile (name : String) (s : Scene) (args : List String) (f : List UInt8 → List UInt8) : Effect :=
  let one (path : String) : Effect :=
    if path == "-" then .writes s (f s.input)
    else
      match s.files.read s.directory path with
      | .ok content => .writes s (f content)
      | .error e => .fails s 1 (name ++ ": " ++ shownName path ++ ": " ++ reason e)
  if args.isEmpty then .writes s (f s.input)
  else (args.map one).foldl (fun a b => a.andThen fun _ => b) (.ends s 0)

/-- The lines of some bytes, each with the line feed that ends it. -/
def byteLines (bs : List UInt8) : List (List UInt8) :=
  bs.splitBy fun a _ => a != 10

/-- A number of decimal digits. -/
def natural? (s : String) : Option Nat :=
  let cs := s.toList
  if cs.isEmpty || !cs.all Char.isDigit then none else some (Format.decimal cs).1

/-- The switches of a command, letter by letter, and its other arguments. -/
def letterSwitches (args : List String) : List Char × List String :=
  let (switches, others) := args.partition fun a => a.toList.head? == some '-' && a != "-"
  (switches.flatMap fun s => s.toList.drop 1, others)

end JobMatrix.Shell
