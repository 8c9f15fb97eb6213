import JobMatrix.Decimal.Shortest

/-!
# The layout of a number

A layout says where the digits of a decimal are written out around the point and where an
exponent takes over.
-/

namespace JobMatrix.Decimal

/-- The positions of the point, counted from the left end of the digits, that are written out.
Outside of them the decimal gets an exponent. -/
structure Layout where
  least : Option Int
  greatest : Option Int

/-- Numbers from 0.00001 to below 10^16 are written out. -/
def Layout.compact : Layout := ⟨some (-4), some 16⟩

/-- Every number is written out. -/
def Layout.positional : Layout := ⟨none, none⟩

/-- Whether a decimal with this position of the point is written out. -/
def Layout.writesOut (layout : Layout) (point : Int) : Bool :=
  layout.least.all (decide <| · ≤ point) && layout.greatest.all (decide <| point ≤ ·)

/-- The digits of a natural number. -/
def digits (n : Nat) : List Char := Nat.toDigits 10 n

/-- A run of zeros. -/
def zeros (n : Int) : List Char := List.replicate n.toNat '0'

/-- A positive decimal as written. -/
def Layout.render (layout : Layout) (d : Scaled) : List Char :=
  let ds := digits d.digits
  let point : Int := ds.length + d.exponent
  if layout.writesOut point then
    if 0 ≤ d.exponent then ds ++ zeros d.exponent ++ ['.', '0']
    else if 0 < point then ds.take point.toNat ++ '.' :: ds.drop point.toNat
    else '0' :: '.' :: zeros (-point) ++ ds
  else
    let fraction := ds.drop 1
    ds.take 1 ++ (if fraction.isEmpty then [] else '.' :: fraction) ++ 'e' :: (toString (point - 1)).toList

/-- A finite number in its shortest form, with its sign. -/
def Layout.renderFinite (layout : Layout) (negative : Bool) (mantissa : Nat) (exponent : Int) : String :=
  let magnitude :=
    if mantissa = 0 then ['0', '.', '0'] else layout.render (Shortest.decimal mantissa exponent)
  String.ofList (if negative then '-' :: magnitude else magnitude)

end JobMatrix.Decimal
