import JobMatrix.App.Session
import JobMatrix.Proofs.History.Agreement
import JobMatrix.Proofs.History.Place
import Mathlib.Data.List.Induction

/-!
# What the lasting history keeps

A lasting history that was opened once can be opened again, and it still has for each run the summary
that was saved last. Saving a run leaves the others as they are.
-/

namespace JobMatrix

namespace History

/-! ## Saving -/

namespace Table

variable {t : Table} {s : RunSummary} {id : RunId}

theorem load?_save_self (h : Legible s) : (t.save s).load? s.runId = some s := by
  have hrow : (t.save s).rows.find? (·.runId == s.runId) = some (Row.ofSummary s) := by
    have hnone : (t.rows.filter (·.runId != s.runId)).find? (·.runId == s.runId) = none := by simp
    rw [save, List.find?_append, hnone]
    simp [Row.ofSummary]
  rw [load?, hrow]
  exact Row.summary?_of_legible h

/-- Saving a run leaves the others as they are. -/
theorem load?_save_of_ne (h : id ≠ s.runId) : (t.save s).load? id = t.load? id := by
  have hrow : (t.save s).rows.find? (·.runId == id) = t.rows.find? (·.runId == id) := by
    have hrest : (t.rows.filter (·.runId != s.runId)).find? (·.runId == id) =
        t.rows.find? (·.runId == id) := by
      rw [List.find?_filter]
      congr 1
      funext row
      by_cases hid : row.runId = id <;> simp [hid, h]
    rw [save, List.find?_append, hrest]
    simp [Row.ofSummary, h.symm]
  rw [load?, hrow, load?]

/-- A table has for each run the summary that was saved last. -/
theorem load?_saves {saves : List RunSummary} (h : ∀ s ∈ latest? saves id, Legible s) :
    (saves.foldl save t).load? id = (latest? saves id).or (t.load? id) := by
  induction saves using List.reverseRecOn with
  | nil => rfl
  | append_singleton saves s ih =>
    rw [latest?_concat] at h
    rw [List.foldl_append, List.foldl_cons, List.foldl_nil, latest?_concat]
    by_cases hid : s.runId = id
    · subst hid
      rw [if_pos rfl] at h
      rw [if_pos rfl, load?_save_self (h s rfl), Option.some_or]
    · rw [if_neg hid] at h
      rw [if_neg hid, load?_save_of_ne (Ne.symm hid), ih h]

end Table

end History

/-! ## Using a history -/

namespace App

open History

/-- What is done with an open history. -/
inductive Use
  | save (s : RunSummary)
  /-- Closes it and opens it again. -/
  | reopen

/-- The summary that is saved. -/
def Use.saved? : Use → Option RunSummary
  | .save s => some s
  | .reopen => none

namespace World

variable {w w₀ : World}

/-- The world after a use of its history, or why there is none. -/
def use (w : World) : Use → Except String World
  | .save s => .ok (w.keeping (Store.save s (.lasting w.table)))
  | .reopen => w.openHistory

theorem openHistory_eq_ok (h : w₀.openHistory = .ok w) :
    openIn w₀.files w₀.historyDirectory "runs.db" = .ok w.files ∧ w = { w₀ with files := w.files } := by
  unfold openHistory at h
  cases hopen : openIn w₀.files w₀.historyDirectory "runs.db" with
  | error message =>
    rw [hopen] at h
    cases h
  | ok files =>
    rw [hopen] at h
    cases h
    exact ⟨rfl, rfl⟩

theorem openHistory_of_files (h : openIn w.files w.historyDirectory "runs.db" = .ok w.files) :
    w.openHistory = .ok w := by
  rw [openHistory, h]
  rfl

/-- An open history is used without any failure. The uses change the table only. -/
theorem foldlM_use (h : openIn w.files w.historyDirectory "runs.db" = .ok w.files) (uses : List Use) :
    uses.foldlM use w =
      .ok { w with table := (uses.filterMap Use.saved?).foldl Table.save w.table } := by
  induction uses generalizing w with
  | nil => rfl
  | cons u uses ih =>
    cases u with
    | save s => exact ih (w := { w with table := w.table.save s }) h
    | reopen =>
      have hreopen : use w .reopen = .ok w := openHistory_of_files h
      rw [List.foldlM_cons, hreopen]
      exact ih h

/-- Once it is open, a lasting history can always be saved to and opened again, and has for each run the
summary that was saved last, or what it had before. Saving a run leaves the others as they are. -/
theorem history_kept (hopen : w₀.openHistory = .ok w) {uses : List Use}
    (hstorable : ∀ s ∈ uses.filterMap Use.saved?, Storable s) :
    ∃ w', uses.foldlM use w = .ok w' ∧
      (∀ id, w'.table.load? id =
        (latest? (uses.filterMap Use.saved?) id).or (w₀.table.load? id)) ∧
      ∀ s id, id ≠ s.runId → (w'.table.save s).load? id = w'.table.load? id := by
  obtain ⟨hfiles, heq⟩ := openHistory_eq_ok hopen
  have htable : w.table = w₀.table := by rw [heq]
  have hdata : w.historyDirectory = w₀.historyDirectory := by rw [heq]; rfl
  have hagain : openIn w.files w.historyDirectory "runs.db" = .ok w.files := by
    rw [hdata]
    exact openIn_openIn hfiles
  refine ⟨_, foldlM_use hagain uses, fun id => ?_, fun s id hid => Table.load?_save_of_ne hid⟩
  rw [← htable]
  exact Table.load?_saves fun s hs => (hstorable s (mem_of_latest? hs)).legible

end World

end App

end JobMatrix

/-! ## A history that is opened again -/

namespace JobMatrix.Small

open App History

/-- A world without files. -/
def bareWorld : World := ⟨.empty, ["w"], ["w", "data"], .empty, 0, .zero⟩

/-- The bare world with an open history. -/
def openWorld : World :=
  { bareWorld with
    files := ((Files.empty.fill ["w"]).fill ["w", "data"]).fill ["w", "data", "matrix-ci"]
      |>.put ["w", "data", "matrix-ci", "runs.db"] (.file fileMark) }

/-- Two runs, one of which is saved before and after the history is opened again. -/
def reopening : List Use :=
  [.save (emptyRun "ci" false 59), .reopen, .save lateRun, .save (emptyRun "ci" true 60), .reopen]

theorem history_kept_reopened :
    bareWorld.openHistory = .ok openWorld ∧ ∃ w, reopening.foldlM World.use openWorld = .ok w ∧
      w.table.load? ⟨7⟩ = some (emptyRun "ci" true 60) ∧ w.table.load? ⟨8⟩ = some lateRun ∧
      w.table.load? ⟨9⟩ = none := by
  have hopen : bareWorld.openHistory = .ok openWorld := by rfl
  refine ⟨hopen, ?_⟩
  have hstorable : ∀ s ∈ reopening.filterMap Use.saved?, Storable s := by
    intro s hs
    simp only [reopening, Use.saved?, List.filterMap_cons, List.filterMap_nil, List.mem_cons,
      List.not_mem_nil, or_false] at hs
    rcases hs with rfl | rfl | rfl
    · exact storable_emptyRun false (by decide)
    · exact storable_lateRun
    · exact storable_emptyRun true (by decide)
  obtain ⟨w, hw, hload, -⟩ := World.history_kept hopen hstorable
  exact ⟨w, hw, hload _, hload _, hload _⟩

end JobMatrix.Small
