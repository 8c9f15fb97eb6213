import JobMatrix.App.Engine
import JobMatrix.App.Program
import JobMatrix.CommandLine.Usage
import Std.Time.DateTime.Timestamp

/-!
# The command line program

The program takes the files that its words name into its world, carries the command out
there, and prints what the command prints.
-/

namespace JobMatrix.Program

/-- A world with one more file, if there is something at its path. -/
def takeFile (w : App.World) (path : String) : IO App.World := do
  let place := Files.placeOf w.directory path
  match ← (IO.FS.readBinFile path).toBaseIO with
  | .ok bytes => return { w with files := w.files.putFile place bytes.toList }
  | .error _ =>
    match ← (IO.FS.realPath path).toBaseIO with
    | .ok found =>
      return if ← found.isDir then { w with files := w.files.makeDirectory place } else w
    | .error _ => return w

/-- The variables of the environment that commands see. -/
def environment : IO (Env String) := do
  let known ← ["HOME", "PATH", "USER", "LANG", "XDG_DATA_HOME"].filterMapM fun name => do
    return (← IO.getEnv name).map (name, ·)
  return Env.ofList known

/-- The directory for data of the user. -/
def dataDirectory (directory : List String) (env : Env String) : List String :=
  match env.get? "XDG_DATA_HOME", env.get? "HOME" with
  | some path, _ => Files.placeOf directory path
  | none, some home => Files.placeOf directory (home ++ "/.local/share")
  | none, none => directory

/-- The current time. -/
def currentTime : IO Timestamp := do
  let nanos := (← Std.Time.Timestamp.now).toNanosecondsSinceUnixEpoch.val
  return ⟨nanos / 1000000000, (nanos % 1000000000).toNat⟩

/-- A number of 128 random bits. -/
def randomNumber : IO Nat := do
  return (← IO.getRandomBytes 16).foldl (fun n byte => 256 * n + byte.toNat) 0

/-- Carries a command out and prints. -/
def carryOut (i : CommandLine.Invocation) : IO UInt32 := do
  let env ← environment
  let directory := Files.placeOf [] (← IO.currentDir).toString
  let empty : App.World :=
    ⟨Files.system.makeDirectory directory, directory, dataDirectory directory env, .empty, 0, .zero⟩
  let world ← i.command.files.foldlM takeFile empty
  let seed ← randomNumber
  let engine := App.localEngine ⟨env, fun n => .ofRandom (seed + n), ← currentTime⟩
  let stdout ← IO.getStdout
  let outcome := App.perform (← stdout.isTty) engine world i
  for printed in outcome.printed do
    stdout.putStr printed.render
  match outcome.ending with
  | .exits code => return code.toUInt32
  | .fails message =>
    IO.eprintln ("Error: " ++ message)
    return 1
  | .crashes => return 101

end JobMatrix.Program

open JobMatrix in
/-- The program. -/
def main (words : List String) : IO UInt32 := do
  match CommandLine.parse words with
  | .ok i => Program.carryOut i
  | .error e =>
    if e.isAnswer then IO.print e.text else IO.eprint e.text
    return e.exitCode.toUInt32
