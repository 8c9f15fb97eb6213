import JobMatrix.Files

/-!
# Where a lasting history lies

A lasting history lies in a file, which is made when it is missing. A file with anything
else in it is left alone.
-/

namespace JobMatrix.History

/-- The first bytes of a file with a history. -/
def fileMark : List UInt8 :=
  Utf8.encode "SQLite format 3" ++ [0]

/-- What is said when there can be no file at a place. -/
def noConnection : String := "Failed to connect to database"

/-- What is said when a file holds something else. -/
def notAHistory : String := "error returned from database: (code: 26) file is not a database"

/-- Whether a directory is at a place or can be made there. -/
def canHoldDirectory (fs : Files) (place : List String) : Bool :=
  (List.range (place.length + 1)).all fun n =>
    match fs.entry? (place.take n) with
    | some (.file _) => false
    | _ => true

/-- The files once the history at a place is open, or why it cannot be. -/
def openPlace (fs : Files) (place : List String) : Except String Files :=
  match fs.entry? place with
  | some .directory => .error noConnection
  | some (.file content) =>
    if content.isEmpty || fileMark.isPrefixOf content then .ok (fs.put place (.file fileMark))
    else .error notAHistory
  | none => .ok (fs.put place (.file fileMark))

/-- The name of a history that has no file. -/
def withoutFile : String := ":memory:"

/-- The files once the history at a path is open, or why it cannot be. -/
def openPath (fs : Files) (directory : List String) (path : String) : Except String Files :=
  if path.isEmpty || path == withoutFile then .ok fs
  else
    match fs.resolve directory path with
    | .error _ => .error noConnection
    | .ok place => openPlace fs place

/-- The files once the history in a directory of its own is open, or why it cannot be. -/
def openIn (fs : Files) (directory : List String) (name : String) : Except String Files :=
  if canHoldDirectory fs directory then
    openPlace (fs.makeDirectory directory) (directory ++ [name])
  else .error ("Failed to create " ++ Files.pathOf directory)

end JobMatrix.History
