/-!
# Double-precision numbers

A number is held as its sign, an integer mantissa below 2^53 and a power of two. A decimal
is rounded to the nearest such number, a tie going to the even mantissa, by exact integer
arithmetic.
-/

namespace JobMatrix.Decimal

/-- A double-precision binary number. -/
inductive Binary64
  /-- The number `mantissa * 2 ^ exponent`, with its sign. -/
  | finite (negative : Bool) (mantissa : Nat) (exponent : Int)
  | infinite (negative : Bool)
  | nan
deriving DecidableEq, Inhabited

namespace Binary64

/-- The least exponent of a number. -/
def minExponent : Int := -1074

/-- The greatest exponent of a number. -/
def maxExponent : Int := 971

/-- The least mantissa of 53 bits. -/
def leastMantissa : Nat := 0x10000000000000

/-- Zero with a sign. -/
def zero (negative : Bool) : Binary64 := .finite negative 0 minExponent

/-- `n / d` rounded to the nearest integer, a tie going to the even one. -/
def roundDiv (n d : Nat) : Nat :=
  let q := n / d
  let r := n % d
  if 2 * r < d then q
  else if d < 2 * r then q + 1
  else if q % 2 = 0 then q
  else q + 1

/-- `n / d * 2 ^ (-e)` as a fraction. -/
def scale (n d : Nat) (e : Int) : Nat × Nat :=
  if e < 0 then (n * Nat.pow 2 (-e).toNat, d) else (n, d * Nat.pow 2 e.toNat)

/-- The exponent that leaves `n / d` a mantissa of 53 bits, or the least one if that is greater. -/
def exponentFor (n d : Nat) : Int :=
  let guess : Int := (n.log2 : Int) - (d.log2 : Int) - 52
  let (n', d') := scale n d guess
  let e := if n' / d' < leastMantissa then guess - 1 else guess
  max e minExponent

/-- The number nearest to `n / d`, for positive `n` and `d`. -/
def ofFraction (negative : Bool) (n d : Nat) : Binary64 :=
  let e := exponentFor n d
  let (n', d') := scale n d e
  let m := roundDiv n' d'
  let (m, e) := if m = 2 * leastMantissa then (leastMantissa, e + 1) else (m, e)
  if maxExponent < e then .infinite negative else .finite negative m e

/-- The number nearest to `digits * 10 ^ exponent`. -/
def ofDecimal (negative : Bool) (digits : Nat) (exponent : Int) : Binary64 :=
  if digits = 0 then zero negative
  else
    let magnitude := exponent + (Nat.toDigits 10 digits).length
    if magnitude < -400 then zero negative
    else if 400 < magnitude then .infinite negative
    else if exponent < 0 then ofFraction negative digits (Nat.pow 10 (-exponent).toNat)
    else ofFraction negative (digits * Nat.pow 10 exponent.toNat) 1

/-- Whether two numbers count as the same: as usual, except that a NaN is the same as a NaN. -/
def same : Binary64 → Binary64 → Bool
  | .nan, .nan => true
  | .infinite a, .infinite b => a == b
  | .finite a m e, .finite b n f => m == n && (m == 0 || (a == b && e == f))
  | _, _ => false

end Binary64

end JobMatrix.Decimal
