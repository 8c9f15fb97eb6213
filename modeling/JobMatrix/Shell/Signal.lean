import JobMatrix.Text.Digit

/-!
# Signals

Signals have numbers, names, and descriptions that a shell gives when one of them ended a
program that it waited for.
-/

namespace JobMatrix.Shell

/-- A signal. -/
structure Signal where
  number : Nat
  name : String
  description : String
deriving DecidableEq, Inhabited

namespace Signal

/-- The known signals. -/
def all : List Signal :=
  [⟨1, "HUP", "Hangup"⟩, ⟨2, "INT", "Interrupt"⟩, ⟨3, "QUIT", "Quit"⟩,
    ⟨4, "ILL", "Illegal instruction"⟩, ⟨5, "TRAP", "Trace/breakpoint trap"⟩,
    ⟨6, "ABRT", "Aborted"⟩, ⟨7, "BUS", "Bus error"⟩, ⟨8, "FPE", "Floating point exception"⟩,
    ⟨9, "KILL", "Killed"⟩, ⟨10, "USR1", "User defined signal 1"⟩,
    ⟨11, "SEGV", "Segmentation fault"⟩, ⟨12, "USR2", "User defined signal 2"⟩,
    ⟨13, "PIPE", "Broken pipe"⟩, ⟨14, "ALRM", "Alarm clock"⟩, ⟨15, "TERM", "Terminated"⟩,
    ⟨17, "CHLD", "Child exited"⟩, ⟨18, "CONT", "Continued"⟩, ⟨19, "STOP", "Stopped (signal)"⟩,
    ⟨20, "TSTP", "Stopped"⟩, ⟨23, "URG", "Urgent I/O condition"⟩, ⟨28, "WINCH", "Window changed"⟩]

/-- The number of a signal that is given by its number or name. -/
def number? (s : String) : Option Nat :=
  let cs := s.toList
  if !cs.isEmpty && cs.all Char.isDigit then Text.number? 10 cs
  else (all.find? fun g => g.name == s || "SIG" ++ g.name == s).map (·.number)

/-- The signal with a number. -/
def ofNumber? (n : Nat) : Option Signal :=
  all.find? (·.number == n)

/-- Whether a signal leaves a program alone that does not ask for it. -/
def isHarmless (n : Nat) : Bool :=
  [0, 17, 18, 23, 28].contains n

/-- What is said when a signal ended a program that was waited for. Interrupts and broken pipes are
passed over. -/
def epitaph (n : Nat) : String :=
  if n = 2 || n = 13 then ""
  else
    match ofNumber? n with
    | some g => g.description ++ "\n"
    | none => "Unknown signal " ++ toString n ++ "\n"

end Signal

end JobMatrix.Shell
