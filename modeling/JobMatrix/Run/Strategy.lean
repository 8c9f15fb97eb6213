/-!
# Scheduling strategies

A strategy says how many jobs may run at once. A pipeline may declare a limit of its own,
which counts only if the strategy sets none.
-/

namespace JobMatrix

/-- How many jobs may run at once. -/
inductive Strategy
  | sequential
  | parallel
  | limited (jobs : Nat)
deriving DecidableEq, Inhabited

namespace Strategy

/-- The number of jobs that may run at once, if there is a limit; at least one. -/
def limit (s : Strategy) (declared : Option Nat) : Option Nat :=
  match s with
  | .sequential => some 1
  | .limited n => some (max n 1)
  | .parallel => declared.map (max · 1)

/-- The greatest number of slots that can be handed out. -/
def maxSlots : Nat := 0x1fffffffffffffff

/-- The number of slots under a strategy, unless it is too great. -/
def slots? (s : Strategy) (declared : Option Nat) : Option Nat :=
  let n := (s.limit declared).getD maxSlots
  if n ≤ maxSlots then some n else none

end Strategy

end JobMatrix
