/-!
# Paths

Paths are texts with `/` between their components. Joining them keeps them as written and
does not resolve `.` or `..`.
-/

namespace JobMatrix.Path

/-- Whether a path starts at the root. -/
def isAbsolute (path : String) : Bool :=
  path.toList.head? == some '/'

/-- `path` seen from `base`: an absolute path stays as it is. -/
def join (base path : String) : String :=
  if isAbsolute path then path
  else if base.isEmpty || base.toList.getLast? == some '/' then base ++ path
  else base ++ "/" ++ path

/-- The pieces of a path between its slashes. -/
def pieces (path : String) : List (List Char) :=
  path.toList.splitOn '/'

/-- Drops pieces that name nothing from the end of a path, last piece first. A leading `.` stays. -/
def trimPieces : List (List Char) → List (List Char)
  | [] => []
  | [p] => [p]
  | [] :: rest => trimPieces rest
  | ['.'] :: rest => trimPieces rest
  | ps => ps

/-- The directory that holds what a path names, if the path has more than one component. -/
def parent? (path : String) : Option String :=
  match trimPieces (pieces path).reverse with
  | [] => none
  | [p] => if p.isEmpty then none else some ""
  | _ :: above =>
    match trimPieces above with
    | [[]] => some "/"
    | kept => some (String.ofList (['/'].intercalate kept.reverse))

/-- The directory that relative paths in the file at `path` start from. -/
def directory (path : String) : String :=
  match parent? path with
  | some parent => if parent.isEmpty then "." else parent
  | none => "."

end JobMatrix.Path
