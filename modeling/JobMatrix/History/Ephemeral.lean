import JobMatrix.History.Summary

/-!
# The history of a session

An ephemeral history is forgotten when the program ends. It keeps the latest summary of each
run, and for each pipeline the runs that were first saved under its name.
-/

namespace JobMatrix.History

/-- A history without a file. -/
structure Ephemeral where
  /-- The latest summaries. -/
  runs : List RunSummary
  /-- The names of pipelines with their runs, both in the order of their first saves. -/
  index : List (String × List RunId)
deriving DecidableEq, Inhabited

namespace Ephemeral

/-- The history without runs. -/
def empty : Ephemeral := ⟨[], []⟩

/-- The summary of a run. -/
def load? (h : Ephemeral) (id : RunId) : Option RunSummary :=
  h.runs.find? (·.runId == id)

/-- Puts a run behind the others of a pipeline. -/
def addToIndex (pipeline : String) (id : RunId) :
    List (String × List RunId) → List (String × List RunId)
  | [] => [(pipeline, [id])]
  | (name, ids) :: rest =>
    if name = pipeline then (name, ids ++ [id]) :: rest
    else (name, ids) :: addToIndex pipeline id rest

/-- Saves a summary in the stead of the one that the run had. Only a new run enters the index. -/
def save (h : Ephemeral) (s : RunSummary) : Ephemeral where
  runs := h.runs.filter (·.runId != s.runId) ++ [s]
  index := if (h.load? s.runId).isNone then addToIndex s.pipeline s.runId h.index else h.index

/-- The runs that the index has for a pipeline. -/
def indexed (h : Ephemeral) (pipeline : String) : List RunId :=
  ((h.index.find? (·.1 == pipeline)).map (·.2)).getD []

/-- The summaries of the runs of a pipeline, newest first. -/
def list (h : Ephemeral) (pipeline : String) : List RunSummary :=
  ((h.indexed pipeline).filterMap h.load?).mergeSort fun a b => !a.startedAt.lt b.startedAt

/-- The names of the pipelines in ascending order. -/
def pipelines (h : Ephemeral) : List String :=
  (h.index.map (·.1)).mergeSort (· ≤ ·)

end Ephemeral

end JobMatrix.History
