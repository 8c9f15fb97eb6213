import JobMatrix.Env
import JobMatrix.Time.Duration

/-!
# Commands

A job asks for one command at a time and waits for the answer: the command ended in some
way, or it could not be run.
-/

namespace JobMatrix

/-- What to run, where, and for how long at most. -/
structure Request where
  command : String
  workingDirectory : String
  /-- The variables added to the environment of the command. -/
  env : Env String
  timeoutSecs : Option Nat
deriving DecidableEq, Inhabited

/-- How a command ended. -/
inductive Termination
  /-- By itself, with a code unless a signal ended it. -/
  | exited (code : Option Int)
  | timedOut
  | cancelled
deriving DecidableEq, Inhabited

/-- The exit code of a command that ended by itself. -/
def Termination.exitCode : Termination → Option Int
  | .exited code => code
  | _ => none

/-- What a command leaves. -/
structure CommandOutput where
  termination : Termination
  stdout : String
  stderr : String
  duration : Duration
deriving DecidableEq, Inhabited

/-- Whether a command exited with code 0. -/
def CommandOutput.isSuccess (o : CommandOutput) : Bool :=
  o.termination == .exited (some 0)

/-- Why a command has no output. -/
inductive CommandError
  | launch (program cause : String)
  | wait (cause : String)
  | workspace (cause : String)
  | noShell
deriving DecidableEq, Inhabited

/-- What an error says. -/
def CommandError.message : CommandError → String
  | .launch program cause => "failed to launch \x60" ++ program ++ "\x60: " ++ cause
  | .wait cause => "failed to wait for command: " ++ cause
  | .workspace cause => "failed to prepare job workspace: " ++ cause
  | .noShell => "no shell configured"

/-- The answer to a request. -/
abbrev Reply := Except CommandError CommandOutput

end JobMatrix
