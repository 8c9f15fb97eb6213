import JobMatrix.Proofs.Time.Text
import JobMatrix.Report.Decoding
import JobMatrix.Report.Encoding

/-!
# Documents read back

The result of a job is read back from its document, provided that a clock can show its times. The
lemmas follow the parts of a document: a field of a record, a value that may be missing, a list.
-/

namespace JobMatrix

/-! ## Parts of documents -/

namespace Document

theorem field_cons_self (name : String) (value : Document) (items : List (String × Document)) :
    (fields ((name, value) :: items)).field name = value := by
  simp [field]

theorem field_cons_of_ne {name other : String} (h : other ≠ name) (value : Document)
    (items : List (String × Document)) :
    (fields ((other, value) :: items)).field name = (fields items).field name := by
  simp [field, h]

@[simp] theorem text?_text (s : String) : (text s).text? = some s := rfl

@[simp] theorem number?_number (n : Int) : (number n).number? = some n := rfl

@[simp] theorem nat?_ofNat (n : Nat) : (ofNat n).nat? = some n := by
  simp [nat?, ofNat]

variable {α : Type} {write : α → Document} {read : Document → Option α}

/-- A list reads back if its items do. -/
theorem list?_map {items : List α} (h : ∀ a ∈ items, read (write a) = some a) :
    (list (items.map write)).list? read = some items := by
  induction items with
  | nil => rfl
  | cons a items ih =>
    have hrest := ih fun b hb => h b (List.mem_cons_of_mem a hb)
    simp only [list?] at hrest
    simp [list?, h a List.mem_cons_self, hrest]

/-- A value that may be missing reads back if it does when it is there. -/
theorem option?_ofOption {a? : Option α} (hnull : ∀ a, write a ≠ null)
    (h : ∀ a ∈ a?, read (write a) = some a) : (ofOption write a?).option? read = some a? := by
  cases a? with
  | none => rfl
  | some a =>
    -- A value that is written as null would be read as missing.
    unfold ofOption option?
    split
    · exact absurd ‹_› (hnull a)
    · rw [h a rfl, Option.map_some]

end Document

/-! ## Words -/

theorem StepStatus.ofName?_name (s : StepStatus) : ofName? s.name = some s := by
  cases s <;> decide

theorem JobStatus.ofName?_name (s : JobStatus) : ofName? s.name = some s := by
  cases s <;> decide

theorem SkipReason.ofName?_name (s : SkipReason) : ofName? s.name = some s := by
  cases s <;> decide

/-! ## Results -/

open Document

theorem Duration.ofDocument?_document (d : Duration) : ofDocument? d.document = some d := by
  have hparts : ofParts d.secs d.subsecNanos = d := by
    unfold ofParts secs subsecNanos
    congr 1
    omega
  simp [ofDocument?, document, field_cons_self, field_cons_of_ne, hparts]

theorem Timestamp.ofDocument?_document {t : Timestamp} (h : t.Proper) :
    ofDocument? t.document = some t := by
  simp [ofDocument?, document, parse_render h]

theorem Binding.ofDocument?_document (b : Binding) : ofDocument? b.document = some b := by
  unfold ofDocument? document
  rw [list?_map]
  · rfl
  · exact fun _ _ => rfl

theorem StepRecord.ofDocument?_document (r : StepRecord) : ofDocument? r.document = some r := by
  have hcode : (ofOption number r.exitCode).option? number? = some r.exitCode :=
    option?_ofOption (fun _ => nofun) fun _ _ => rfl
  have herror : (ofOption text r.error).option? text? = some r.error :=
    option?_ofOption (fun _ => nofun) fun _ _ => rfl
  simp [ofDocument?, document, field_cons_self, field_cons_of_ne, StepStatus.ofName?_name,
    Duration.ofDocument?_document, hcode, herror]

theorem JobFailure.ofDocument?_document (f : JobFailure) : ofDocument? f.document = some f := by
  cases f with
  | stepFailed step code =>
    have hcode : (ofOption number code).option? number? = some code :=
      option?_ofOption (fun _ => nofun) fun _ _ => rfl
    simp [ofDocument?, document, field_cons_self, field_cons_of_ne, hcode]
  | timedOut step secs => simp [ofDocument?, document, field_cons_self, field_cons_of_ne]
  | execution step message => simp [ofDocument?, document, field_cons_self, field_cons_of_ne]
  | cancelled => simp [ofDocument?, document]

/-- A clock can show the times of a job. -/
def JobResult.Proper (r : JobResult) : Prop :=
  (∀ t ∈ r.startedAt, t.Proper) ∧ ∀ t ∈ r.finishedAt, t.Proper

/-- The result of a job is read back from its document. -/
theorem JobResult.ofDocument?_document {r : JobResult} (h : r.Proper) :
    ofDocument? r.document = some r := by
  have hrecords : (list (r.records.map StepRecord.document)).list? StepRecord.ofDocument? =
      some r.records := list?_map fun r _ => r.ofDocument?_document
  have hfailure : (ofOption JobFailure.document r.failure).option? JobFailure.ofDocument? =
      some r.failure :=
    option?_ofOption (fun f => by cases f <;> nofun) fun f _ => f.ofDocument?_document
  have hreason : (ofOption (fun s => text (SkipReason.name s)) r.skipReason).option?
      (fun d => d.text?.bind SkipReason.ofName?) = some r.skipReason :=
    option?_ofOption (fun _ => nofun) fun s _ => s.ofName?_name
  have hstarted : (ofOption Timestamp.document r.startedAt).option? Timestamp.ofDocument? =
      some r.startedAt :=
    option?_ofOption (fun _ => nofun) fun t ht => Timestamp.ofDocument?_document (h.1 t ht)
  have hfinished : (ofOption Timestamp.document r.finishedAt).option? Timestamp.ofDocument? =
      some r.finishedAt :=
    option?_ofOption (fun _ => nofun) fun t ht => Timestamp.ofDocument?_document (h.2 t ht)
  simp [ofDocument?, document, field_cons_self, field_cons_of_ne, JobStatus.ofName?_name,
    Binding.ofDocument?_document, Duration.ofDocument?_document, hrecords, hfailure, hreason,
    hstarted, hfinished]

end JobMatrix
