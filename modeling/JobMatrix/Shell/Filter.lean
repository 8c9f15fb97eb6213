import JobMatrix.Shell.Regex
import JobMatrix.Shell.Scene

/-!
# Filters

Utilities that read bytes or lines, of files or of what they are given, and write some of
them or others in their stead.
-/

namespace JobMatrix.Shell

/-! ## Parts of a text -/

/-- The number behind a switch that counts lines or bytes, whether it counts bytes, and the files. -/
def countArguments : List String → Nat × Bool × List String
  | "-n" :: n :: args => ((natural? n).getD 10, false, args)
  | "-c" :: n :: args => ((natural? n).getD 0, true, args)
  | arg :: args =>
    match arg.toList with
    | '-' :: 'n' :: ds => ((natural? (String.ofList ds)).getD 10, false, args)
    | '-' :: 'c' :: ds => ((natural? (String.ofList ds)).getD 0, true, args)
    | '-' :: d :: ds => ((natural? (String.ofList (d :: ds))).getD 10, false, args)
    | _ => (10, false, arg :: args)
  | [] => (10, false, [])

/-- The first lines or bytes of files. -/
def head (s : Scene) (args : List String) : Effect :=
  let (n, inBytes, files) := countArguments args
  if files == ["/dev/zero"] then .writes s (List.replicate (if inBytes then n else 0) 0)
  else
    eachFile "head" s files fun bs =>
      if inBytes then bs.take n else ((byteLines bs).take n).flatten

/-- The last lines or bytes of files, or those from one on. -/
def tail (s : Scene) (args : List String) : Effect :=
  let (fromStart, args) := match args with
    | "-n" :: n :: rest =>
      match n.toList with
      | '+' :: ds => (natural? (String.ofList ds), rest)
      | _ => (none, args)
    | args => (none, args)
  let (n, inBytes, files) := countArguments args
  match fromStart with
  | some k => eachFile "tail" s files fun bs => ((byteLines bs).drop (k - 1)).flatten
  | none =>
  eachFile "tail" s files fun bs =>
    if inBytes then bs.drop (bs.length - n)
    else
      let ls := byteLines bs
      (ls.drop (ls.length - n)).flatten

/-- The number of words between blanks. -/
def wordCount (bs : List UInt8) : Nat :=
  let blank (b : UInt8) : Bool := b == 32 || (9 ≤ b && b ≤ 13)
  ((bs.splitBy fun a b => blank a == blank b).filter fun g => !(g.head?.map blank).getD true).length

/-- The numbers of lines, words and bytes. -/
def wc (s : Scene) (args : List String) : Effect :=
  let (switches, files) := args.partition fun a => a.toList.head? == some '-' && a != "-"
  let wants (c : Char) : Bool := switches.isEmpty || switches.any (·.toList.contains c)
  let content : Except FileError (List UInt8) := match files with
    | [path] => s.files.read s.directory path
    | _ => .ok s.input
  match content with
  | .error e => .fails s 1 ("wc: " ++ files.headD "" ++ ": " ++ reason e)
  | .ok bs =>
    let counts :=
      (if wants 'l' then [bs.count 10] else []) ++ (if wants 'w' then [wordCount bs] else [])
        ++ (if wants 'c' then [bs.length] else [])
    let wide (n : Nat) : String :=
      let t := toString n
      if counts.length = 1 then t else String.ofList (List.replicate (7 - t.length) ' ') ++ t
    let text := " ".intercalate (counts.map wide)
    let names := String.join (files.map (" " ++ ·))
    .writes s (Utf8.encode (text ++ names ++ "\n"))

/-! ## Lines -/

/-- The lines of some bytes without their ends. -/
def plainLines (bs : List UInt8) : List (List UInt8) :=
  (byteLines bs).map fun l => if l.getLast? == some 10 then l.dropLast else l

/-- Lines with their ends. -/
def ofLines (ls : List (List UInt8)) : List UInt8 :=
  ls.flatMap (· ++ [10])

/-- Whether bytes come before others or are the same. -/
def bytesBefore : List UInt8 → List UInt8 → Bool
  | [], _ => true
  | _ :: _, [] => false
  | a :: as, b :: bs => a < b || (a == b && bytesBefore as bs)

/-- The number at the start of a line. -/
def lineNumber (l : List UInt8) : Int :=
  let cs := (Utf8.decodeLossy l).toList.dropWhile (· == ' ')
  match cs with
  | '-' :: ds => -((Format.decimal ds).1 : Int)
  | ds => (Format.decimal ds).1

/-- Sorted lines. -/
def sort (s : Scene) (args : List String) : Effect :=
  let (letters, files) := letterSwitches args
  let before (a b : List UInt8) : Bool :=
    if letters.contains 'n' && lineNumber a != lineNumber b then lineNumber a < lineNumber b
    else bytesBefore a b
  let order (a b : List UInt8) : Bool := if letters.contains 'r' then before b a else before a b
  eachFile "sort" s files fun bs =>
    let ls := (plainLines bs).mergeSort order
    ofLines (if letters.contains 'u' then ls.eraseReps else ls)

/-- Lines without those that are the same as the one before, perhaps with their numbers. -/
def uniq (s : Scene) (args : List String) : Effect :=
  let (letters, files) := letterSwitches args
  eachFile "uniq" s files fun bs =>
    ofLines (((plainLines bs).splitBy (· == ·)).map fun group =>
      let line := group.headD []
      if letters.contains 'c' then
        let n := toString group.length
        Utf8.encode (String.ofList (List.replicate (7 - n.length) ' ') ++ n ++ " ") ++ line
      else line)

/-- Lines backwards. -/
def rev (s : Scene) (args : List String) : Effect :=
  eachFile "rev" s args fun bs =>
    ofLines ((plainLines bs).map fun l =>
      Utf8.encode (String.ofList (Utf8.decodeLossy l).toList.reverse))

/-- The positions that a list of ranges names. -/
def inRanges (text : String) (k : Nat) : Bool :=
  (text.toList.splitOn ',').any fun range =>
    match range.splitOn '-' with
    | [n] => natural? (String.ofList n) == some k
    | [a, b] =>
      (natural? (String.ofList a)).getD 1 ≤ k && (natural? (String.ofList b)).all (k ≤ ·)
    | _ => false

/-- The value of a switch of one letter, behind it or in the next argument. -/
def switchValue? (letter : Char) : List String → Option String
  | [] => none
  | arg :: args =>
    match arg.toList with
    | ['-', l] => if l = letter then args.head? else switchValue? letter args
    | '-' :: l :: value => if l = letter then some (String.ofList value) else switchValue? letter args
    | _ => switchValue? letter args

/-- Parts of lines: fields or characters. -/
def cut (s : Scene) (args : List String) : Effect :=
  let delimiter : UInt8 := (((switchValue? 'd' args).map Utf8.encode).getD [9]).headD 9
  let pick {α : Type} (ranges : String) (xs : List α) : List α :=
    (xs.zipIdx 1).filterMap fun (x, k) => if inRanges ranges k then some x else none
  eachFile "cut" s [] fun bs =>
    ofLines ((plainLines bs).map fun l =>
      match switchValue? 'f' args, (switchValue? 'c' args).or (switchValue? 'b' args) with
      | some ranges, _ =>
        if l.contains delimiter then [delimiter].intercalate (pick ranges (l.splitOn delimiter)) else l
      | none, some ranges => pick ranges l
      | none, none => l)

/-! ## Characters -/

/-- The bytes of a named class. -/
def byteClass? (name : String) : Option (UInt8 → Bool) :=
  let upper (b : UInt8) : Bool := 65 ≤ b && b ≤ 90
  let lower (b : UInt8) : Bool := 97 ≤ b && b ≤ 122
  let digit (b : UInt8) : Bool := 48 ≤ b && b ≤ 57
  if name == "upper" then some upper
  else if name == "lower" then some lower
  else if name == "digit" then some digit
  else if name == "alpha" then some fun b => upper b || lower b
  else if name == "alnum" then some fun b => upper b || lower b || digit b
  else if name == "space" then some fun b => b == 32 || (9 ≤ b && b ≤ 13)
  else if name == "blank" then some fun b => b == 32 || b == 9
  else if name == "punct" then
    some fun b => 33 ≤ b && b ≤ 126 && !(upper b || lower b || digit b)
  else none

/-- The bytes from one to another. -/
def byteRange (a b : UInt8) : List UInt8 :=
  (List.range (b.toNat + 1 - a.toNat)).map fun k => (a.toNat + k).toUInt8

/-- The bytes of a set, in order. -/
def byteSet : Nat → List Char → List UInt8
  | 0, _ => []
  | _ + 1, [] => []
  | n + 1, '[' :: ':' :: rest =>
    let name := rest.takeWhile (· != ':')
    match byteClass? (String.ofList name), rest.drop name.length with
    | some f, ':' :: ']' :: rest => (byteRange 0 255).filter f ++ byteSet n rest
    | _, _ => 91 :: byteSet n (':' :: rest)
  | n + 1, '\\' :: rest =>
    match rest with
    | [] => [92]
    | c :: more =>
      if '0' ≤ c && c ≤ '7' then
        let (v, after) := Format.octal 3 0 rest
        v.toUInt8 :: byteSet n after
      else
        match Format.letter? c with
        | some v => v.toUInt8 :: byteSet n more
        | none => Format.bytes c ++ byteSet n more
  | n + 1, a :: '-' :: b :: rest => byteRange a.toNat.toUInt8 b.toNat.toUInt8 ++ byteSet n rest
  | n + 1, c :: rest => Format.bytes c ++ byteSet n rest

/-- Other bytes in the stead of some, or none. -/
def tr (s : Scene) (args : List String) : Effect :=
  let (letters, sets) := letterSwitches args
  let read (text : String) : List UInt8 := byteSet (text.length + 1) text.toList
  let first := read (sets.headD "")
  let first :=
    if letters.contains 'c' || letters.contains 'C' then (byteRange 0 255).filter fun b => !first.contains b
    else first
  let second := read (sets.tail.headD "")
  let put (b : UInt8) : UInt8 :=
    match first.idxOf? b with
    | some k => (second[k]?).getD (second.getLast?.getD b)
    | none => b
  let squeezed (set : List UInt8) (bs : List UInt8) : List UInt8 :=
    (bs.splitBy fun a b => a == b && set.contains a).flatMap fun g =>
      if set.contains (g.headD 0) then g.take 1 else g
  let out :=
    if letters.contains 'd' then s.input.filter fun b => !first.contains b
    else if sets.length < 2 then s.input
    else s.input.map put
  .writes s (if letters.contains 's' then squeezed (if sets.length < 2 then first else second) out else out)

/-! ## Searching -/

/-- The lines in which an expression occurs. -/
def grep (s : Scene) (args : List String) : Effect :=
  let (letters, others) := letterSwitches args
  let (pattern, files) := (others.headD "", others.drop 1)
  let fold (cs : List Char) : List Char :=
    if letters.contains 'i' then cs.map Char.toLower else cs
  let branches :=
    if letters.contains 'F' then
      [⟨false, (fold pattern.toList).map fun c => (.char c, .one), false⟩]
    else Regex.read (letters.contains 'E') (pattern.length + 1) (fold pattern.toList)
  let branches : List Regex.Branch :=
    if letters.contains 'x' then branches.map fun b => { b with atStart := true, atEnd := true }
    else branches
  let isHit (l : List UInt8) : Bool :=
    (branches.any (·.occurs (fold (Utf8.decodeLossy l).toList))) != letters.contains 'v'
  let content : Except FileError (List UInt8) := match files with
    | [path] => s.files.read s.directory path
    | _ => .ok s.input
  match content with
  | .error e => .fails s 2 ("grep: " ++ files.headD "" ++ ": " ++ reason e)
  | .ok bs =>
    let hits := (plainLines bs).zipIdx 1 |>.filter fun (l, _) => isHit l
    let shown (l : List UInt8) (k : Nat) : List UInt8 :=
      if letters.contains 'n' then Utf8.encode (toString k ++ ":") ++ l else l
    let out :=
      if letters.contains 'q' then []
      else if letters.contains 'c' then Utf8.encode (toString hits.length ++ "\n")
      else ofLines (hits.map fun (l, k) => shown l k)
    { Effect.writes s out with status := if hits.isEmpty then 1 else 0 }

end JobMatrix.Shell
