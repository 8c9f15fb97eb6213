import JobMatrix.Text.Digit

/-!
# Run identifiers

A run is identified by 128 bits, written as 32 digits in base 16 in groups of 8, 4, 4, 4
and 12. They may also be given without hyphens, in braces or behind `urn:uuid:`.
-/

namespace JobMatrix

/-- The identifier of a run. -/
structure RunId where
  bits : Nat
deriving DecidableEq, Inhabited

namespace RunId

/-- The identifier with the mark of a random one: four and two of its bits are fixed. -/
def ofRandom (n : Nat) : RunId :=
  let low := n % 0x4000000000000000 + 0x8000000000000000
  let middle := n / 0x4000000000000000 % 0x1000 + 0x4000
  let high := n / 0x4000000000000000000 % 0x1000000000000
  ⟨(high * 0x10000 + middle) * 0x10000000000000000 + low⟩

/-- The identifier of 32 digits. -/
def ofDigits? (cs : List Char) : Option RunId :=
  if cs.length = 32 then (Text.number? 16 cs).map RunId.mk
  else none

/-- The digits of a text in groups. -/
def groups? (cs : List Char) : Option (List Char) :=
  match cs.splitOn '-' with
  | [a, b, c, d, e] =>
    if a.length = 8 && b.length = 4 && c.length = 4 && d.length = 4 && e.length = 12 then
      some (a ++ b ++ c ++ d ++ e)
    else none
  | _ => none

/-- What braces or the name of the scheme stand around. -/
def unwrapped (cs : List Char) : List Char :=
  let scheme := "urn:uuid:".toList
  if cs.length = 38 && cs.head? == some '\x7b' && cs.getLast? == some '\x7d' then (cs.drop 1).dropLast
  else if cs.length = 45 && scheme.isPrefixOf cs then cs.drop scheme.length
  else cs

/-- The identifier that a text writes. -/
def parse? (s : String) : Option RunId :=
  let cs := s.toList
  if cs.length = 32 then ofDigits? cs else (groups? (unwrapped cs)).bind ofDigits?

/-- The digits of an identifier. -/
def digits (id : RunId) : List Char :=
  let ds := Nat.toDigits 16 id.bits
  List.replicate (32 - ds.length) '0' ++ ds

/-- An identifier as written. -/
def render (id : RunId) : String :=
  let ds := id.digits
  String.ofList (ds.take 8 ++ '-' :: (ds.drop 8).take 4 ++ '-' :: (ds.drop 12).take 4
    ++ '-' :: (ds.drop 16).take 4 ++ '-' :: ds.drop 20)

/-- The first group, which is enough to recognise a run by. -/
def short (id : RunId) : String :=
  String.ofList (id.digits.take 8)

end RunId

end JobMatrix
