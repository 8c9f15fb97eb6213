import JobMatrix.Decimal.Layout

/-!
# Numbers with one decimal place

A fraction is taken as the double-precision number next to it and then written with one
digit after the point; a tie goes to the even digit.
-/

namespace JobMatrix.Decimal

/-- The size of a finite number as a fraction. -/
def Binary64.fraction : Binary64 → Nat × Nat
  | .finite _ m e => (m * Nat.pow 2 e.toNat, Nat.pow 2 (-e).toNat)
  | _ => (0, 1)

/-- The sum of a whole number and a fraction of it, each taken to double precision. -/
def addFraction (whole numerator denominator : Nat) : Binary64 :=
  if numerator = 0 then
    if whole = 0 then Binary64.zero false else Binary64.ofFraction false whole 1
  else
    let (n, d) := (Binary64.ofFraction false numerator denominator).fraction
    Binary64.ofFraction false (whole * d + n) d

/-- A number with one digit after the point. -/
def onePlace (x : Binary64) : String :=
  let (n, d) := x.fraction
  let tenths := Binary64.roundDiv (10 * n) d
  toString (tenths / 10) ++ "." ++ toString (tenths % 10)

end JobMatrix.Decimal
