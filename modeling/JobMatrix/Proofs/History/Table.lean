import JobMatrix.History.Table
import JobMatrix.Proofs.History.Index
import JobMatrix.Proofs.Report.Roundtrip

/-!
# The rows of summaries

A summary that can be stored is read back from its row: its counts pass through words with a sign, and
the results of its jobs through a document. So a table answers from the summaries that its rows were
made of. It sorts rows by the texts of their starts, which is the order of the starts themselves.
-/

namespace JobMatrix.History

/-- The counts are words, the year of the start has four digits, and clocks can show the start of the
run and the times of its jobs. -/
structure Storable (s : RunSummary) : Prop where
  total : s.total < Word.bound
  passed : s.passed < Word.bound
  failed : s.failed < Word.bound
  skipped : s.skipped < Word.bound
  proper : s.startedAt.Proper
  year : s.startedAt.FourDigitYear
  jobs : ∀ r ∈ s.jobs, r.Proper

/-- The counts are words, and clocks can show the times of the jobs. -/
structure Legible (s : RunSummary) : Prop where
  total : s.total < Word.bound
  passed : s.passed < Word.bound
  failed : s.failed < Word.bound
  skipped : s.skipped < Word.bound
  jobs : ∀ r ∈ s.jobs, r.Proper

theorem Storable.legible {s : RunSummary} (h : Storable s) : Legible s :=
  ⟨h.total, h.passed, h.failed, h.skipped, h.jobs⟩

theorem unsigned_signed {n : Nat} (h : n < Word.bound) : Word.unsigned (Word.signed n) = n := by
  have hmod : Int.bmod n Word.bound % Word.bound = (n : Int) % Word.bound := Int.bmod_emod ..
  rw [Word.unsigned, Word.signed, hmod, ← Int.natCast_emod, Int.toNat_natCast, Nat.mod_eq_of_lt h]

theorem Row.verdictOf_name (v : Verdict) : verdictOf v.name = v := by
  cases v <;> decide

/-- A summary is read back from its row. -/
theorem Row.summary?_of_legible {s : RunSummary} (h : Legible s) :
    (Row.ofSummary s).summary? = some s := by
  have hjobs : (Document.list (s.jobs.map JobResult.document)).list? JobResult.ofDocument? =
      some s.jobs := Document.list?_map fun r hr => JobResult.ofDocument?_document (h.jobs r hr)
  have hcancelled : ((if s.cancelled then 1 else 0 : Int) != 0) = s.cancelled := by
    cases s.cancelled <;> rfl
  simp [summary?, ofSummary, hjobs, verdictOf_name, hcancelled, unsigned_signed h.total,
    unsigned_signed h.passed, unsigned_signed h.failed, unsigned_signed h.skipped]

theorem Row.summary?_ofSummary {s : RunSummary} (h : Storable s) :
    (Row.ofSummary s).summary? = some s :=
  summary?_of_legible h.legible

/-- Some summaries are read back from their rows. -/
theorem Row.filterMap_summary? {summaries : List RunSummary} (h : ∀ s ∈ summaries, Legible s) :
    (summaries.map Row.ofSummary).filterMap Row.summary? = summaries := by
  induction summaries with
  | nil => rfl
  | cons s summaries ih =>
    rw [List.map_cons, List.filterMap_cons_some (summary?_of_legible (h s List.mem_cons_self)),
      ih fun s' h' => h s' (List.mem_cons_of_mem s h')]

namespace Table

/-- The table with the rows of some summaries. -/
def ofSummaries (summaries : List RunSummary) : Table := ⟨summaries.map Row.ofSummary⟩

theorem save_ofSummaries (summaries : List RunSummary) (s : RunSummary) :
    (ofSummaries summaries).save s =
      ofSummaries (summaries.filter (·.runId != s.runId) ++ [s]) := by
  simp only [save, ofSummaries, List.filter_map, List.map_append]
  rfl

variable {summaries : List RunSummary}

theorem load?_ofSummaries (h : ∀ s ∈ summaries, Storable s) (id : RunId) :
    (ofSummaries summaries).load? id = summaries.find? (·.runId == id) := by
  have hfind : (ofSummaries summaries).rows.find? (·.runId == id) =
      (summaries.find? (·.runId == id)).map Row.ofSummary := List.find?_map ..
  rw [load?, hfind]
  cases hfound : summaries.find? (·.runId == id) with
  | none => rfl
  | some s => exact Row.summary?_ofSummary (h s (List.mem_of_find?_eq_some hfound))

/-- A table sorts the summaries of a pipeline by their starts. -/
theorem list_ofSummaries (h : ∀ s ∈ summaries, Storable s) (n : String) :
    (ofSummaries summaries).list n =
      (summaries.filter (·.pipeline == n)).mergeSort fun s s' => !s.startedAt.lt s'.startedAt := by
  have hstorable : ∀ s ∈ summaries.filter (·.pipeline == n), Storable s :=
    fun s hs => h s (List.mem_of_mem_filter hs)
  have hfilter : (ofSummaries summaries).rows.filter (·.pipeline == n) =
      (summaries.filter (·.pipeline == n)).map Row.ofSummary := List.filter_map ..
  rw [list, hfilter, ← List.map_mergeSort (r := fun s s' => !s.startedAt.lt s'.startedAt)]
  · exact Row.filterMap_summary? fun s hs => (hstorable s (List.mem_mergeSort.1 hs)).legible
  · intro s hs s' hs'
    have htext := Timestamp.renderPlain_le_iff (hstorable s hs).proper (hstorable s' hs').proper
      (hstorable s hs).year (hstorable s' hs').year
    rw [Bool.eq_iff_iff, decide_eq_true_iff, Bool.not_eq_true']
    exact htext.symm

end Table

end JobMatrix.History
