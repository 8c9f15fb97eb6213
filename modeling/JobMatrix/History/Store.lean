import JobMatrix.History.Ephemeral
import JobMatrix.History.Table

/-!
# Stores of runs

A store of past runs either lasts or is forgotten when the program ends. Both kinds answer
the same questions.
-/

namespace JobMatrix.History

/-- A store of past runs. -/
inductive Store
  | ephemeral (history : Ephemeral)
  | lasting (table : Table)
deriving Inhabited

namespace Store

/-- Saves a summary in the stead of the one that its run had. -/
def save (s : RunSummary) : Store → Store
  | .ephemeral history => .ephemeral (history.save s)
  | .lasting table => .lasting (table.save s)

/-- The summary of a run. -/
def load? (id : RunId) : Store → Option RunSummary
  | .ephemeral history => history.load? id
  | .lasting table => table.load? id

/-- The summaries of the runs of a pipeline, newest first. -/
def list (pipeline : String) : Store → List RunSummary
  | .ephemeral history => history.list pipeline
  | .lasting table => table.list pipeline

/-- The names of the pipelines in ascending order. -/
def pipelines : Store → List String
  | .ephemeral history => history.pipelines
  | .lasting table => table.pipelines

/-- Saves the summary of a result. -/
def report (r : RunResult) (store : Store) : Store :=
  store.save (.ofResult r)

end Store

end JobMatrix.History
