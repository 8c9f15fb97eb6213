/-!
# Words

Whole numbers of 64 bits, without a sign or with one.
-/

namespace JobMatrix.Word

/-- The number of words; words without a sign lie below it. -/
def bound : Nat := 0x10000000000000000

/-- Words with a sign lie below this number and not below its negation. -/
def signedBound : Nat := 0x8000000000000000

/-- The word with a sign that agrees with a number in its last 64 bits. -/
def signed (n : Int) : Int := Int.bmod n bound

/-- The word without a sign that agrees with a number in its last 64 bits. -/
def unsigned (n : Int) : Nat := (n % bound).toNat

/-- Whether a number is a word, with a sign or without. -/
def fits (n : Int) : Bool := -signedBound ≤ n && n < bound

end JobMatrix.Word
