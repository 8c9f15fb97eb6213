/-!
# Lines of a text

A line ends at a line feed; a carriage return right before it belongs to the line end.
A line feed at the very end of the text opens no further line.
-/

namespace JobMatrix.Text

/-- A line without the carriage return that may end it. -/
def chompReturn (cs : List Char) : List Char :=
  if cs.getLast? = some '\r' then cs.dropLast else cs

/-- The lines of a text, where `line` holds the characters of the current line so far, last first. -/
def linesFrom (line : List Char) : List Char → List (List Char)
  | [] => if line.isEmpty then [] else [line.reverse]
  | '\n' :: rest => chompReturn line.reverse :: linesFrom [] rest
  | c :: rest => linesFrom (c :: line) rest

/-- The lines of a text without their ends. -/
def lines (s : String) : List String :=
  (linesFrom [] s.toList).map String.ofList

end JobMatrix.Text
