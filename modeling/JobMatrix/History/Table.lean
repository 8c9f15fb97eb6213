import JobMatrix.History.Summary
import JobMatrix.Report.Decoding
import JobMatrix.Report.Encoding
import JobMatrix.Word

/-!
# The lasting history

The lasting history is a table with a row for each run. A row holds words, times, signed
numbers of 64 bits, and a document with the results of the jobs. A run that is saved again
loses its row and gets a new one at the end.
-/

namespace JobMatrix.History

/-- A row of the table. -/
structure Row where
  runId : RunId
  pipeline : String
  verdict : String
  cancelled : Int
  startedAt : Timestamp
  finishedAt : Timestamp
  total : Int
  passed : Int
  failed : Int
  skipped : Int
  jobs : Document
deriving Inhabited

namespace Row

/-- The verdict that a text stands for. Any text but that of a passed run stands for a failed one. -/
def verdictOf (text : String) : Verdict :=
  if text = Verdict.passed.name then .passed else .failed

/-- The row of a summary. -/
def ofSummary (s : RunSummary) : Row where
  runId := s.runId
  pipeline := s.pipeline
  verdict := s.verdict.name
  cancelled := if s.cancelled then 1 else 0
  startedAt := s.startedAt
  finishedAt := s.finishedAt
  total := Word.signed s.total
  passed := Word.signed s.passed
  failed := Word.signed s.failed
  skipped := Word.signed s.skipped
  jobs := .list (s.jobs.map JobResult.document)

/-- The summary that a row holds, if its document can be read. -/
def summary? (r : Row) : Option RunSummary := do
  return {
    runId := r.runId
    pipeline := r.pipeline
    verdict := verdictOf r.verdict
    cancelled := r.cancelled != 0
    startedAt := r.startedAt
    finishedAt := r.finishedAt
    total := Word.unsigned r.total
    passed := Word.unsigned r.passed
    failed := Word.unsigned r.failed
    skipped := Word.unsigned r.skipped
    jobs := ← r.jobs.list? JobResult.ofDocument? }

end Row

/-- The rows of the lasting history, the latest one last. -/
structure Table where
  rows : List Row
deriving Inhabited

namespace Table

/-- The table without rows. -/
def empty : Table := ⟨[]⟩

/-- Saves a summary. -/
def save (t : Table) (s : RunSummary) : Table :=
  ⟨t.rows.filter (·.runId != s.runId) ++ [Row.ofSummary s]⟩

/-- The summary of a run. -/
def load? (t : Table) (id : RunId) : Option RunSummary :=
  (t.rows.find? (·.runId == id)).bind Row.summary?

/-- The summaries of the runs of a pipeline, newest first by the texts of their starts. -/
def list (t : Table) (pipeline : String) : List RunSummary :=
  ((t.rows.filter (·.pipeline == pipeline)).mergeSort fun a b =>
    b.startedAt.renderPlain ≤ a.startedAt.renderPlain).filterMap Row.summary?

/-- The names of the pipelines in ascending order. -/
def pipelines (t : Table) : List String :=
  (t.rows.map (·.pipeline)).eraseDups.mergeSort (· ≤ ·)

end Table

end JobMatrix.History
