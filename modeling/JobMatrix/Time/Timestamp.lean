import JobMatrix.Time.Calendar
import JobMatrix.Time.Duration

/-!
# Points in time

A point in time is a second of universal time and the nanoseconds after it. A leap second
is written as second 60 and kept as the second before it with more than a second of
nanoseconds. Texts follow RFC 3339.
-/

namespace JobMatrix

open Calendar

/-- A point in time. -/
structure Timestamp where
  /-- Seconds since 1970, leap seconds not counted. -/
  seconds : Int
  /-- Nanoseconds after the second; from 10^9 on they lie in a leap second. -/
  nanos : Nat
deriving DecidableEq, Inhabited

namespace Timestamp

/-- The order of points in time. -/
def lt (a b : Timestamp) : Bool :=
  a.seconds < b.seconds || (a.seconds == b.seconds && a.nanos < b.nanos)

/-- The number of the day. -/
def dayNumber (t : Timestamp) : Int := t.seconds / 86400

/-- The second of the day. -/
def secondOfDay (t : Timestamp) : Nat := (t.seconds % 86400).toNat

/-- The date. -/
def date (t : Timestamp) : Date := Date.ofDayNumber t.dayNumber

/-! ## Spans -/

/-- The nanoseconds from `b` to `a`. A leap second counts when the clock time of one lies after it. -/
def nanosSince (a b : Timestamp) : Int :=
  let x := a.secondOfDay
  let y := b.secondOfDay
  let leap : Int :=
    if y < x then (if 1000000000 ≤ b.nanos then 1 else 0)
    else if x < y then (if 1000000000 ≤ a.nanos then -1 else 0)
    else 0
  (a.seconds - b.seconds + leap) * 1000000000 + (a.nanos - b.nanos)

/-- The duration from `b` to `a`, if `a` is not earlier. -/
def since? (a b : Timestamp) : Option Duration :=
  let n := a.nanosSince b
  if n < 0 then none else some ⟨n.toNat⟩

/-- The point in time some nanoseconds later. -/
def add (t : Timestamp) (d : Duration) : Timestamp :=
  let n := t.nanos + d.nanos
  ⟨t.seconds + n / 1000000000, n % 1000000000⟩

/-! ## Writing -/

/-- A number with at least `width` digits. -/
def padded (width n : Nat) : String :=
  let ds := Nat.toDigits 10 n
  String.ofList (List.replicate (width - ds.length) '0' ++ ds)

/-- A year: four digits, or a sign and at least four. -/
def yearText (year : Int) : String :=
  if 0 ≤ year && year ≤ 9999 then padded 4 year.toNat
  else (if year < 0 then "-" else "+") ++ padded 4 year.natAbs

/-- The date, in the order year, month, day. -/
def dateText (t : Timestamp) : String :=
  let d := t.date
  yearText d.year ++ "-" ++ padded 2 d.month ++ "-" ++ padded 2 d.day

/-- The time of day to the second. -/
def timeText (t : Timestamp) : String :=
  let s := t.secondOfDay
  let second := s % 60 + (if 1000000000 ≤ t.nanos then 1 else 0)
  padded 2 (s / 3600) ++ ":" ++ padded 2 (s / 60 % 60) ++ ":" ++ padded 2 second

/-- The fraction of the second: none, or a point and 3, 6 or 9 digits, the fewest that lose nothing. -/
def fractionText (t : Timestamp) : String :=
  let n := t.nanos % 1000000000
  if n = 0 then ""
  else if n % 1000000 = 0 then "." ++ padded 3 (n / 1000000)
  else if n % 1000 = 0 then "." ++ padded 6 (n / 1000)
  else "." ++ padded 9 n

/-- Date and time with the letter for universal time. -/
def render (t : Timestamp) : String :=
  t.dateText ++ "T" ++ t.timeText ++ t.fractionText ++ "Z"

/-- Date and time with the offset of universal time. -/
def renderOffset (t : Timestamp) : String :=
  t.dateText ++ "T" ++ t.timeText ++ t.fractionText ++ "+00:00"

/-- Date and time to the second, with a space between them. -/
def renderSeconds (t : Timestamp) : String :=
  t.dateText ++ " " ++ t.timeText

/-- Date and time with a space between them. -/
def renderPlain (t : Timestamp) : String :=
  t.dateText ++ " " ++ t.timeText ++ t.fractionText

/-! ## Reading -/

/-- A run of exactly `n` digits as a number, and the text after it. -/
def takeDigits (n : Nat) (cs : List Char) : Option (Nat × List Char) :=
  let ds := cs.take n
  if ds.length = n && ds.all Char.isDigit then
    some (ds.foldl (fun m d => 10 * m + (d.toNat - '0'.toNat)) 0, cs.drop n)
  else none

/-- The text after a character. -/
def takeChar (c : Char) : List Char → Option (List Char)
  | d :: rest => if c = d then some rest else none
  | [] => none

/-- A year of four digits, or with a sign and more digits. -/
def takeYear (cs : List Char) : Option (Int × List Char) :=
  match cs with
  | '+' :: rest =>
    let n := (rest.takeWhile Char.isDigit).length
    (takeDigits n rest).map fun (y, rest) => ((y : Int), rest)
  | '-' :: rest =>
    let n := (rest.takeWhile Char.isDigit).length
    (takeDigits n rest).map fun (y, rest) => (-(y : Int), rest)
  | cs => (takeDigits 4 cs).map fun (y, rest) => ((y : Int), rest)

/-- The nanoseconds of an optional fraction, of which nine digits count. -/
def takeFraction (cs : List Char) : Option (Nat × List Char) :=
  match cs with
  | '.' :: rest =>
    let ds := rest.takeWhile Char.isDigit
    if ds.isEmpty then none
    else
      let nine := (ds ++ List.replicate 9 '0').take 9
      (takeDigits 9 nine).map fun (n, _) => (n, rest.drop ds.length)
  | cs => some (0, cs)

/-- The seconds by which a clock is ahead of universal time. -/
def offset? (cs : List Char) : Option Int := do
  match cs with
  | ['Z'] | ['z'] => some 0
  | sign :: rest =>
    let (hours, rest) ← takeDigits 2 rest
    let rest := (takeChar ':' rest).getD rest
    let (minutes, rest) ← takeDigits 2 rest
    if !rest.isEmpty || 59 < minutes || 23 < hours then none
    else if sign = '+' then some (hours * 3600 + minutes * 60 : Nat)
    else if sign = '-' then some (-(hours * 3600 + minutes * 60 : Nat))
    else none
  | [] => none

/-- The point in time that a date and a clock show on either side of a separator, as if the clock were
universal, and the text after them. -/
def takeDateTime (isSeparator : Char → Bool) (cs : List Char) : Option (Timestamp × List Char) := do
  let (year, cs) ← takeYear cs
  let (month, cs) ← takeDigits 2 (← takeChar '-' cs)
  let (day, cs) ← takeDigits 2 (← takeChar '-' cs)
  let separator ← cs.head?
  let (hour, cs) ← takeDigits 2 cs.tail
  let (minute, cs) ← takeDigits 2 (← takeChar ':' cs)
  let (second, cs) ← takeDigits 2 (← takeChar ':' cs)
  let (nanos, cs) ← takeFraction cs
  let date : Date := ⟨year, month, day⟩
  if !isSeparator separator || !date.isValid || 23 < hour || 59 < minute || 60 < second then none
  else
    let clock : Int := hour * 3600 + minute * 60 + min second 59
    let extra := if second = 60 then 1000000000 else 0
    some (⟨date.dayNumber * 86400 + clock, nanos + extra⟩, cs)

/-- The point in time that a text with an offset writes. -/
def parse? (s : String) : Option Timestamp := do
  let (t, cs) ← takeDateTime (fun c => c = 'T' || c = 't' || c = ' ') s.toList
  let offset ← offset? cs
  return { t with seconds := t.seconds - offset }

end Timestamp

end JobMatrix
