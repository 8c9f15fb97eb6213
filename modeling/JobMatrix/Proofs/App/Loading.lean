import JobMatrix.App.Session
import JobMatrix.Proofs.Definition.Loaded
import Mathlib.Data.List.Forall2

/-!
# Loading for a session

A file is usable if a pipeline can be had from it that has every job asked for. Of this pipeline the named
jobs stay, in the order of the definition, or all if none is named. A session gets a pipeline from each of
its files, or it gets none and says what is wrong with the first that is not usable.
-/

namespace JobMatrix

theorem Definition.retain_eq_ok_iff {names : List String} {p q : Pipeline} :
    retain names p = .ok q ↔ (∀ name ∈ names, name ∈ p.templates.map Template.name) ∧
      { p with templates := p.templates.filter fun t => names = [] ∨ t.name ∈ names } = q := by
  by_cases hnil : names = []
  · simp [retain, hnil]
  · have hretain : retain names p = .ok q ↔ p.retain names = .ok q := by
      cases hchosen : p.retain names <;> simp [retain, hnil, hchosen]
    simp [hretain, Pipeline.retain_eq_ok_iff, hnil]

/-- The pipeline in a file is loaded, and so is the one with only some of its jobs. -/
theorem Definition.loaded_of_pipelineOfFile {files : Files} {directory : List String} {path : String}
    {p : Pipeline} (h : pipelineOfFile files directory path = .ok p) : p.Loaded := by
  unfold pipelineOfFile at h
  split at h
  · cases h
  · rename_i text _
    cases htext : ofText text with
    | error failure =>
      rw [htext] at h
      cases h
    | ok d =>
      rw [htext] at h
      change PipelineDefinition.load? (Path.directory path) d = .ok p at h
      unfold PipelineDefinition.load? at h
      split at h
      · cases h
      · rename_i loaded hload
        cases h
        exact .load hload

namespace App

namespace World

variable {w : World} {jobs files : List String} {file : String} {p : Pipeline} {pipelines : List Pipeline}

/-- The pipeline is the one of a file with the named jobs only, or with all if none is named. -/
def Chosen (w : World) (jobs : List String) (file : String) (p : Pipeline) : Prop :=
  ∃ whole, Definition.pipelineOfFile w.files w.directory file = .ok whole ∧
    (∀ name ∈ jobs, name ∈ whole.templates.map Template.name) ∧
    { whole with templates := whole.templates.filter fun t => jobs = [] ∨ t.name ∈ jobs } = p

/-- There is no pipeline in a file, or it misses a named job. -/
def Unusable (w : World) (jobs : List String) (file : String) : Prop :=
  (∃ failure, Definition.pipelineOfFile w.files w.directory file = .error failure) ∨
    ∃ whole, Definition.pipelineOfFile w.files w.directory file = .ok whole ∧
      ∃ name ∈ jobs, name ∉ whole.templates.map Template.name

theorem load_eq_ok_iff : w.load jobs file = .ok p ↔ w.Chosen jobs file p := by
  unfold load Chosen
  cases Definition.pipelineOfFile w.files w.directory file with
  | error failure => simp [bind, Except.bind]
  | ok whole =>
    simp only [bind, Except.bind, Except.ok.injEq, exists_eq_left']
    exact Definition.retain_eq_ok_iff

theorem load_eq_error_iff :
    (∃ failure, w.load jobs file = .error failure) ↔ w.Unusable jobs file := by
  have hload : (∃ failure, w.load jobs file = .error failure) ↔ ¬ ∃ p, w.load jobs file = .ok p := by
    cases w.load jobs file <;> simp
  rw [hload]
  simp only [load_eq_ok_iff, Chosen, Unusable]
  cases Definition.pipelineOfFile w.files w.directory file <;> simp

theorem Chosen.not_unusable (h : w.Chosen jobs file p) : ¬ w.Unusable jobs file := by
  rw [← load_eq_error_iff, load_eq_ok_iff.2 h]
  simp

theorem Chosen.loaded (h : w.Chosen jobs file p) : p.Loaded := by
  obtain ⟨whole, hwhole, hjobs, rfl⟩ := h
  have hloaded := Definition.loaded_of_pipelineOfFile hwhole
  by_cases hnil : jobs = []
  · simpa [hnil] using hloaded
  · have hretain : whole.retain jobs = .ok { whole with
        templates := whole.templates.filter fun t => jobs = [] ∨ t.name ∈ jobs } :=
      Pipeline.retain_eq_ok_iff.2 ⟨hjobs, by simp [hnil]⟩
    exact .retain hloaded hretain

theorem not_unusable_of_chosen (h : List.Forall₂ (w.Chosen jobs) files pipelines) :
    ∀ file ∈ files, ¬ w.Unusable jobs file :=
  ((List.forall₂_and_left _ _).1 (h.imp fun _ _ hchosen => ⟨hchosen.not_unusable, hchosen⟩)).1

end World

/-- Either all files load, or one fails, after which nothing more is said. -/
theorem loadAll_eq (color : Bool) (w : World) (jobs : List String) (json : Bool) (files : List String) :
    (∃ pipelines, List.Forall₂ (w.Chosen jobs) files pipelines ∧
      loadAll color w jobs json files =
        (some pipelines, if json then [] else pipelines.map (loadedLine color))) ∨
    ∃ file ∈ files, ∃ failure, w.load jobs file = .error failure ∧
      ∃ loaded : List Pipeline, loadAll color w jobs json files =
        (none, (if json then [] else loaded.map (loadedLine color))
          ++ invalidLines color file failure) := by
  -- By induction on the files: what is said about the rest counts only if the first one loads.
  induction files with
  | nil => exact .inl ⟨[], .nil, by simp [loadAll]⟩
  | cons file files ih =>
    cases hload : w.load jobs file with
    | error failure =>
      exact .inr ⟨file, List.mem_cons_self, failure, hload, [], by simp [loadAll, hload]⟩
    | ok p =>
      obtain ⟨pipelines, hchosen, hrest⟩ | ⟨bad, hbad, failure, hfails, loaded, hrest⟩ := ih
      · refine .inl ⟨p :: pipelines, .cons (World.load_eq_ok_iff.1 hload) hchosen, ?_⟩
        cases json <;> simp [loadAll, hload, hrest]
      · refine .inr ⟨bad, List.mem_cons_of_mem _ hbad, failure, hfails, p :: loaded, ?_⟩
        cases json <;> simp [loadAll, hload, hrest]

section

variable {color json : Bool} {w : World} {jobs files : List String} {pipelines : List Pipeline}
  {said : List Printed}

end

end App

end JobMatrix
