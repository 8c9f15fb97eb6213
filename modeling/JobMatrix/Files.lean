import JobMatrix.Text.Utf8

/-!
# Trees of files

A tree of files holds directories and files under names. A path is followed from a
directory, piece by piece; every piece but the last must lead to a directory.
-/

namespace JobMatrix

/-- Why a file cannot be had. -/
inductive FileError
  | missing
  | isDirectory
  | notDirectory
  | nameTooLong
  /-- A path that holds the character NUL. -/
  | unusablePath
  | notText
deriving DecidableEq, Inhabited

/-- What an error says. -/
def FileError.message : FileError → String
  | .missing => "No such file or directory (os error 2)"
  | .isDirectory => "Is a directory (os error 21)"
  | .notDirectory => "Not a directory (os error 20)"
  | .nameTooLong => "File name too long (os error 36)"
  | .unusablePath => "file name contained an unexpected NUL byte"
  | .notText => "stream did not contain valid UTF-8"

/-- What a name in a tree stands for. -/
inductive FileEntry
  | directory
  | file (content : List UInt8)
deriving DecidableEq, Inhabited

/-- A tree of files: entries by their places, a place being the names on the way from the root. -/
structure Files where
  entries : List (List String × FileEntry)
deriving DecidableEq, Inhabited

namespace Files

/-- The tree with only the root. -/
def empty : Files := ⟨[]⟩

/-- What is at a place. -/
def entry? (fs : Files) (place : List String) : Option FileEntry :=
  if place.isEmpty then some .directory else (fs.entries.find? (·.1 == place)).map (·.2)

/-- Whether there is a directory at a place. -/
def isDirectory (fs : Files) (place : List String) : Bool :=
  fs.entry? place == some .directory

/-- Puts an entry at a place, in the stead of another. -/
def put (fs : Files) (place : List String) (entry : FileEntry) : Files :=
  ⟨(place, entry) :: fs.entries.filter (·.1 != place)⟩

/-- Removes what is at a place and below. -/
def remove (fs : Files) (place : List String) : Files :=
  ⟨fs.entries.filter fun (p, _) => !place.isPrefixOf p⟩

/-- Makes a directory and those on the way to it. -/
def makeDirectory (fs : Files) (place : List String) : Files :=
  (List.range (place.length + 1)).foldl (fun fs n =>
    if (fs.entry? (place.take n)).isNone then fs.put (place.take n) .directory else fs) fs

/-- Puts a file at a place and makes the directories on the way to it. -/
def putFile (fs : Files) (place : List String) (content : List UInt8) : Files :=
  (fs.makeDirectory place.dropLast).put place (.file content)

/-- The names in a directory, in the order of their code points. -/
def names (fs : Files) (place : List String) : List String :=
  (fs.entries.filterMap fun (p, _) => if p.dropLast == place then p.getLast? else none).mergeSort
    (· ≤ ·)

/-- The tree with the directories that a system has at its root, and some of its files. -/
def system : Files :=
  let root := ["bin", "dev", "etc", "home", "lib", "opt", "proc", "root", "sys", "tmp", "usr", "var"].foldl
    (fun fs name => fs.makeDirectory [name]) empty
  ((root.putFile ["dev", "null"] []).putFile ["dev", "zero"] []).putFile ["etc", "passwd"]
    (Utf8.encode "root:x:0:0:root:/root:/bin/sh\n")

/-! ## Paths -/

/-- The pieces of a path between its slashes. -/
def pieces (path : String) : List String :=
  (path.toList.splitOn '/').map String.ofList

/-- The place that one piece leads to from another place. -/
def enter (fs : Files) (place : List String) (piece : String) : Except FileError (List String) :=
  match fs.entry? place with
  | none => .error .missing
  | some (.file _) => .error .notDirectory
  | some .directory =>
    if piece.isEmpty || piece == "." then .ok place
    else if piece == ".." then .ok place.dropLast
    else if 255 < piece.utf8ByteSize then .error .nameTooLong
    else .ok (place ++ [piece])

/-- The place that a path names, seen from a directory. Nothing needs to be there. -/
def resolve (fs : Files) (directory : List String) (path : String) : Except FileError (List String) :=
  if path.isEmpty then .error .missing
  else if path.toList.contains (Char.ofNat 0) then .error .unusablePath
  else if 4096 ≤ path.utf8ByteSize then .error .nameTooLong
  else
    let start := if path.toList.head? == some '/' then [] else directory
    (pieces path).foldlM (fs.enter ·) start

/-- The place that a path names if every piece of it leads to a directory. -/
def placeOf (directory : List String) (path : String) : List String :=
  (pieces path).foldl (fun place piece =>
    if piece.isEmpty || piece == "." then place
    else if piece == ".." then place.dropLast
    else place ++ [piece]) (if path.toList.head? == some '/' then [] else directory)

/-- The content of the file that a path names. -/
def read (fs : Files) (directory : List String) (path : String) : Except FileError (List UInt8) := do
  match fs.entry? (← fs.resolve directory path) with
  | none => .error .missing
  | some .directory => .error .isDirectory
  | some (.file content) => .ok content

/-- The text of the file that a path names. -/
def readText (fs : Files) (directory : List String) (path : String) : Except FileError String := do
  match Utf8.decode? (← fs.read directory path) with
  | some text => .ok text
  | none => .error .notText

/-- The place as an absolute path. -/
def pathOf (place : List String) : String :=
  "/" ++ "/".intercalate place

end Files

end JobMatrix
