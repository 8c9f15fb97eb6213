import JobMatrix.Definition.Source
import JobMatrix.History.Place
import JobMatrix.History.Store

/-!
# The surroundings of a command

A command finds files around it, among them the one with the lasting history. That file
lies in a directory for the data of the user and is made when it is missing.
-/

namespace JobMatrix.App

/-- What a command finds. -/
structure World where
  files : Files
  /-- The current directory. -/
  directory : List String
  /-- The directory for data of the user. -/
  data : List String
  /-- What the file of the lasting history holds, if it holds one. It stands apart from the files, so
  an engine says for itself what its runs make of it. -/
  table : History.Table
  /-- The number of pipelines run so far. -/
  runs : Nat
  /-- The time that they took. -/
  elapsed : Duration
deriving Inhabited

namespace World

/-- The directory of the lasting history. -/
def historyDirectory (w : World) : List String :=
  w.data ++ ["matrix-ci"]

/-- The world with an open history, or why there is none. -/
def openHistory (w : World) : Except String World := do
  return { w with files := ← History.openIn w.files w.historyDirectory "runs.db" }

/-- The pipeline of a file, with only some jobs if any are named. -/
def load (w : World) (jobs : List String) (file : String) : Except Definition.Failure Pipeline := do
  Definition.retain jobs (← Definition.pipelineOfFile w.files w.directory file)

end World

end JobMatrix.App
