import JobMatrix.Decimal.Rounding

/-!
# Durations

A duration is a whole number of nanoseconds. Its short form shows milliseconds below a
second, tenths of seconds below a minute, and whole seconds with minutes and hours from
there on.
-/

namespace JobMatrix

/-- A span of time. -/
structure Duration where
  nanos : Nat
deriving DecidableEq, Inhabited

namespace Duration

/-- No time. -/
def zero : Duration := ⟨0⟩

/-- Seconds and nanoseconds. -/
def ofParts (secs nanos : Nat) : Duration := ⟨secs * 1000000000 + nanos⟩

/-- Milliseconds. -/
def ofMillis (ms : Nat) : Duration := ⟨ms * 1000000⟩

/-- Seconds. -/
def ofSecs (secs : Nat) : Duration := ⟨secs * 1000000000⟩

/-- One duration after the other. -/
def add (a b : Duration) : Duration := ⟨a.nanos + b.nanos⟩

/-- What `a` lasts longer than `b`; none if it does not. -/
def sub (a b : Duration) : Duration := ⟨a.nanos - b.nanos⟩

/-- The whole seconds. -/
def secs (d : Duration) : Nat := d.nanos / 1000000000

/-- The nanoseconds beyond the whole seconds. -/
def subsecNanos (d : Duration) : Nat := d.nanos % 1000000000

/-- The whole milliseconds. -/
def millis (d : Duration) : Nat := d.nanos / 1000000

/-- The short form. -/
def render (d : Duration) : String :=
  let s := d.secs
  if s = 0 then toString d.millis ++ "ms"
  else if s < 60 then
    Decimal.onePlace (Decimal.addFraction s d.subsecNanos 1000000000) ++ "s"
  else if s < 3600 then toString (s / 60) ++ "m " ++ toString (s % 60) ++ "s"
  else
    toString (s / 3600) ++ "h " ++ toString (s % 3600 / 60) ++ "m " ++ toString (s % 60) ++ "s"

end Duration

end JobMatrix
