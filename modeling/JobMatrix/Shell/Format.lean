import JobMatrix.Shell.Arithmetic
import JobMatrix.Text.Utf8

/-!
# Written arguments

How commands that write their arguments treat backslashes and places for arguments.
-/

namespace JobMatrix.Shell.Format

/-- A number in base 8 of at most some digits, and the text after it. -/
def octal : Nat → Nat → List Char → Nat × List Char
  | 0, value, cs => (value, cs)
  | _ + 1, value, [] => (value, [])
  | n + 1, value, c :: cs =>
    if '0' ≤ c && c ≤ '7' then octal n (8 * value + (c.toNat - '0'.toNat)) cs else (value, c :: cs)

/-- The character that a letter after a backslash stands for. -/
def letter? (c : Char) : Option Nat :=
  if c = '\\' then some 92
  else if c = 'a' then some 7
  else if c = 'b' then some 8
  else if c = 'f' then some 12
  else if c = 'n' then some 10
  else if c = 'r' then some 13
  else if c = 't' then some 9
  else if c = 'v' then some 11
  else none

/-- The bytes of a character. -/
def bytes (c : Char) : List UInt8 :=
  Utf8.encode (String.singleton c)

/-- What follows a backslash: bytes, the text after it, and whether the writing ends there. An argument
has its numbers in base 8 behind a zero of their own. -/
def escape (inArgument : Bool) : List Char → List UInt8 × List Char × Bool
  | [] => ([92], [], false)
  | c :: rest =>
    if inArgument && c = 'c' then ([], [], true)
    else if inArgument && c = '0' then
      let (v, rest) := octal 3 0 rest
      ([v.toUInt8], rest, false)
    else if '0' ≤ c && c ≤ '7' then
      let (v, rest) := octal 3 0 (c :: rest)
      ([v.toUInt8], rest, false)
    else
      match letter? c with
      | some v => ([v.toUInt8], rest, false)
      | none => (92 :: bytes c, rest, false)

/-- A text with what stands behind its backslashes, and whether the writing ends in it. -/
def escaped (inArgument : Bool) : Nat → List Char → List UInt8 × Bool
  | 0, _ => ([], false)
  | _ + 1, [] => ([], false)
  | n + 1, '\\' :: rest =>
    let (out, rest, ends) := escape inArgument rest
    if ends then (out, true)
    else
      let (more, ends) := escaped inArgument n rest
      (out ++ more, ends)
  | n + 1, c :: rest =>
    let (more, ends) := escaped inArgument n rest
    (bytes c ++ more, ends)

/-- What `echo` writes for its arguments, with backslashes or without. -/
def echo (escapes : Bool) (args : List String) : List UInt8 :=
  let (newline, args) := match args with
    | "-n" :: args => (false, args)
    | args => (true, args)
  let text := " ".intercalate args
  let (out, ends) :=
    if escapes then escaped true (text.length + 1) text.toList else (Utf8.encode text, false)
  if newline && !ends then out ++ [10] else out

/-- What `echo` writes where it knows switches: for no line feed, and for backslashes. -/
def echoSwitched (args : List String) : List UInt8 :=
  let isSwitch (arg : String) : Bool :=
    match arg.toList with
    | '-' :: c :: cs => (c :: cs).all fun l => l = 'n' || l = 'e' || l = 'E'
    | _ => false
  let letters := (args.takeWhile isSwitch).flatMap fun s => s.toList.drop 1
  let words := args.dropWhile isSwitch
  let escapes := (letters.filter (· != 'n')).getLast? == some 'e'
  if letters.contains 'n' then echo escapes ("-n" :: words)
  else
    let text := " ".intercalate words
    let (out, ends) :=
      if escapes then escaped true (text.length + 1) text.toList else (Utf8.encode text, false)
    if ends then out else out ++ [10]

/-! ## Places -/

/-- How a place is filled. -/
structure Place where
  left : Bool
  zeros : Bool
  plus : Bool
  space : Bool
  alternate : Bool
  width : Nat
  precision : Option Nat

/-- The flags of a place. -/
def flags (p : Place) : List Char → Place × List Char
  | '-' :: cs => flags { p with left := true } cs
  | '0' :: cs => flags { p with zeros := true } cs
  | '+' :: cs => flags { p with plus := true } cs
  | ' ' :: cs => flags { p with space := true } cs
  | '#' :: cs => flags { p with alternate := true } cs
  | cs => (p, cs)

/-- A number of decimal digits, and the text after it. -/
def decimal (cs : List Char) : Nat × List Char :=
  let ds := cs.takeWhile Char.isDigit
  (ds.foldl (fun n c => 10 * n + (c.toNat - '0'.toNat)) 0, cs.drop ds.length)

/-- The number that an argument writes. -/
def number (arg : String) : Int :=
  match arg.toList with
  | '\'' :: c :: _ => c.toNat
  | '"' :: c :: _ => c.toNat
  | '-' :: ds => -(((Arithmetic.number? ds).getD 0 : Nat) : Int)
  | '+' :: ds => ((Arithmetic.number? ds).getD 0 : Nat)
  | ds => ((Arithmetic.number? ds).getD 0 : Nat)

/-- Some bytes in a field of a width. -/
def field (p : Place) (zeros : Bool) (out : List UInt8) : List UInt8 :=
  let fill := p.width - out.length
  if p.left then out ++ List.replicate fill 32
  else if zeros && p.zeros then
    match out with
    | 45 :: ds => 45 :: List.replicate fill 48 ++ ds
    | ds => List.replicate fill 48 ++ ds
  else List.replicate fill 32 ++ out

/-- The digits of a number with at least as many as the precision asks for. -/
def digits (p : Place) (ds : List Char) : String :=
  String.ofList (List.replicate (p.precision.getD 1 - ds.length) '0' ++ ds)

/-- An argument in a place of a kind, and whether the writing ends in it. -/
def fill (p : Place) (kind : Char) (arg : String) : List UInt8 × Bool :=
  let cut (out : List UInt8) : List UInt8 := match p.precision with
    | some n => out.take n
    | none => out
  if kind = 's' then (field p false (cut (Utf8.encode arg)), false)
  else if kind = 'c' then (field p false ((Utf8.encode arg).take 1), false)
  else if kind = 'b' then
    let (out, ends) := escaped true (arg.length + 1) arg.toList
    (field p false (cut out), ends)
  else
    let n := number arg
    let sign := if n < 0 then "-" else if p.plus then "+" else if p.space then " " else ""
    let unsigned := Word.unsigned n
    let text :=
      if kind = 'x' then digits p (Nat.toDigits 16 unsigned)
      else if kind = 'X' then (digits p (Nat.toDigits 16 unsigned)).map Char.toUpper
      else if kind = 'o' then digits p (Nat.toDigits 8 unsigned)
      else if kind = 'u' then digits p (Nat.toDigits 10 unsigned)
      else sign ++ digits p (Nat.toDigits 10 n.natAbs)
    (field p p.precision.isNone (Utf8.encode text), false)

/-- What a format writes once: the bytes, the arguments left, whether it took any, and whether the writing
ends. -/
def once : Nat → List Char → List String → List UInt8 × List String × Bool × Bool
  | 0, _, args => ([], args, false, false)
  | _ + 1, [], args => ([], args, false, false)
  | n + 1, '\\' :: rest, args =>
    let (out, rest, _) := escape false rest
    let (more, args, took, ends) := once n rest args
    (out ++ more, args, took, ends)
  | n + 1, '%' :: '%' :: rest, args =>
    let (more, args, took, ends) := once n rest args
    (37 :: more, args, took, ends)
  | n + 1, '%' :: rest, args =>
    let (p, rest) := flags ⟨false, false, false, false, false, 0, none⟩ rest
    let (width, rest) := decimal rest
    let (precision, rest) : Option Nat × List Char := match rest with
      | '.' :: rest => ((decimal rest).1, (decimal rest).2)
      | rest => (none, rest)
    match rest with
    | kind :: rest =>
      let (out, ends) := fill { p with width, precision } kind (args.head?.getD "")
      if ends then (out, [], true, true)
      else
        let (more, args, _, ends) := once n rest args.tail
        (out ++ more, args, true, ends)
    | [] => ([], args, false, false)
  | n + 1, c :: rest, args =>
    let (more, args, took, ends) := once n rest args
    (bytes c ++ more, args, took, ends)

/-- What `printf` writes for a format and arguments: the format again until no argument is left. -/
def printf (format : List Char) : Nat → List String → List UInt8
  | 0, _ => []
  | n + 1, args =>
    let (out, left, took, ends) := once (format.length + 1) format args
    if left.isEmpty || !took || ends then out else out ++ printf format n left

end JobMatrix.Shell.Format
