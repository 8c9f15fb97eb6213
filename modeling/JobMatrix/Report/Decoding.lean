import JobMatrix.Job.Result
import JobMatrix.Report.Document

/-!
# Results from documents

The results of jobs are read back from the documents that they are written as. A value that
may be missing is missing when it is null or when the record does not have it.
-/

namespace JobMatrix

namespace Document

/-! ## Parts of documents -/

/-- The value of a name in a record, null if there is none. -/
def field (name : String) : Document → Document
  | .fields items => ((items.find? (·.1 == name)).map (·.2)).getD .null
  | _ => .null

/-- The text that a document is. -/
def text? : Document → Option String
  | .text s => some s
  | _ => none

/-- The number that a document is. -/
def number? : Document → Option Int
  | .number n => some n
  | _ => none

/-- The natural number that a document is. -/
def nat? (d : Document) : Option Nat :=
  d.number?.bind fun n => if 0 ≤ n then some n.toNat else none

/-- The items of a list, all of which must be readable. -/
def list? {α : Type} (f : Document → Option α) : Document → Option (List α)
  | .list items => items.mapM f
  | _ => none

/-- A value that may be missing. -/
def option? {α : Type} (f : Document → Option α) : Document → Option (Option α)
  | .null => some none
  | d => (f d).map some

end Document

/-! ## Words -/

/-- The status of a word. -/
def StepStatus.ofName? (name : String) : Option StepStatus :=
  [.passed, .failed, .tolerated, .skipped].find? (·.name == name)

/-- The status of a word. -/
def JobStatus.ofName? (name : String) : Option JobStatus :=
  [.passed, .failed, .skipped].find? (·.name == name)

/-- The reason of a word. -/
def SkipReason.ofName? (name : String) : Option SkipReason :=
  [.conditionFalse, .cancelled].find? (·.name == name)

/-! ## Results -/

/-- Seconds, and nanoseconds after them. -/
def Duration.ofDocument? (d : Document) : Option Duration := do
  return .ofParts (← (d.field "secs").nat?) (← (d.field "nanos").nat?)

def Timestamp.ofDocument? (d : Document) : Option Timestamp :=
  d.text?.bind Timestamp.parse?

/-- A pair of texts. -/
def Binding.entryOf? : Document → Option (String × String)
  | .list [.text axis, .text value] => some (axis, value)
  | _ => none

def Binding.ofDocument? (d : Document) : Option Binding :=
  (d.list? Binding.entryOf?).map Binding.mk

def StepRecord.ofDocument? (d : Document) : Option StepRecord := do
  return {
    index := ← (d.field "index").nat?
    label := ← (d.field "label").text?
    command := ← (d.field "command").text?
    status := ← (d.field "status").text?.bind StepStatus.ofName?
    exitCode := ← (d.field "exit_code").option? Document.number?
    duration := ← Duration.ofDocument? (d.field "duration")
    stdout := ← (d.field "stdout").text?
    stderr := ← (d.field "stderr").text?
    error := ← (d.field "error").option? Document.text? }

def JobFailure.ofDocument? : Document → Option JobFailure
  | .text "Cancelled" => some .cancelled
  | .fields [("StepFailed", d)] => do
    return .stepFailed (← (d.field "step").text?) (← (d.field "exit_code").option? Document.number?)
  | .fields [("TimedOut", d)] => do
    return .timedOut (← (d.field "step").text?) (← (d.field "secs").nat?)
  | .fields [("Execution", d)] => do
    return .execution (← (d.field "step").text?) (← (d.field "message").text?)
  | _ => none

def JobResult.ofDocument? (d : Document) : Option JobResult := do
  return {
    id := ← (d.field "id").text?
    job := ← (d.field "job").text?
    binding := ← Binding.ofDocument? (d.field "binding")
    status := ← (d.field "status").text?.bind JobStatus.ofName?
    records := ← (d.field "step_results").list? StepRecord.ofDocument?
    failure := ← (d.field "failure").option? JobFailure.ofDocument?
    skipReason := ← (d.field "skip_reason").option? fun d => d.text?.bind SkipReason.ofName?
    startedAt := ← (d.field "started_at").option? Timestamp.ofDocument?
    finishedAt := ← (d.field "finished_at").option? Timestamp.ofDocument?
    duration := ← Duration.ofDocument? (d.field "duration") }

end JobMatrix
