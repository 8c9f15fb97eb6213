import JobMatrix.Definition.Source
import JobMatrix.Proofs.Definition.Valid

/-!
# Acceptance

Loading accepts exactly the valid definitions. The base directory has no say in that, nor in which
rule is found broken: it shows in the directories of the pipeline and nowhere else. So a text that
was checked once, for the current directory, loads for the directory of its file as well.
-/

namespace JobMatrix

/-! ## Apart from directories -/

/-- A template in which only whether the job has a directory is left of it. -/
def Template.apartFromDirectory (t : Template) : Template :=
  { t with workingDirectory := t.workingDirectory.map fun _ => "" }

/-- A pipeline in which nothing is left of the directories but which jobs have one. -/
def Pipeline.apartFromDirectories (p : Pipeline) : Pipeline :=
  { p with
    workingDirectory := ""
    templates := p.templates.map Template.apartFromDirectory }

theorem Template.expand_apartFromDirectory (t : Template) :
    t.apartFromDirectory.expand.map Instance.id = t.expand.map Instance.id := by
  simp only [expand, List.map_map]
  rfl

/-- The identities of instances do not depend on directories. -/
theorem ids_apartFromDirectory (templates : List Template) :
    ((templates.map Template.apartFromDirectory).flatMap Template.expand).map Instance.id =
      (templates.flatMap Template.expand).map Instance.id := by
  simp only [List.flatMap_map, List.map_flatMap, Template.expand_apartFromDirectory]

namespace Definition

open JobMatrix.Text

/-! ## Loading for another directory -/

section Views

variable {ε α β γ δ : Type}

/-- Computations with the same faults and the same view of their results go on alike if what comes
next depends on the view only. -/
theorem map_bind_congr {x y : Except ε α} {view : α → β} {f g : α → Except ε γ} {view' : γ → δ}
    (hxy : x.map view = y.map view)
    (hfg : ∀ a b, view a = view b → (f a).map view' = (g b).map view') :
    (x >>= f).map view' = (y >>= g).map view' := by
  cases x with
  | error e =>
    cases y with
    | error e' =>
      cases hxy
      rfl
    | ok b => cases hxy
  | ok a =>
    cases y with
    | error e' => cases hxy
    | ok b => exact hfg a b (Except.ok.inj hxy)

theorem map_bind_congr_right {x : Except ε α} {f g : α → Except ε γ} {view' : γ → δ}
    (hfg : ∀ a, (f a).map view' = (g a).map view') :
    (x >>= f).map view' = (x >>= g).map view' := by
  cases x with
  | error e => rfl
  | ok a => exact hfg a

theorem mapM_map_congr {f g : α → Except ε β} {view : β → γ}
    (hfg : ∀ x, (f x).map view = (g x).map view) (xs : List α) :
    (xs.mapM f).map (List.map view) = (xs.mapM g).map (List.map view) := by
  induction xs with
  | nil => rfl
  | cons x xs ih =>
    rw [List.mapM_cons, List.mapM_cons]
    refine map_bind_congr (hfg x) fun first first' hfirst => ?_
    refine map_bind_congr ih fun rest rest' hrest => ?_
    simp [pure, Except.pure, Except.map, hfirst, hrest]

end Views

theorem loadJob_apartFromDirectory (timeout : Option Nat) (base base' : String) (j : JobDefinition) :
    (loadJob timeout base j).map Template.apartFromDirectory =
      (loadJob timeout base' j).map Template.apartFromDirectory := by
  unfold loadJob
  by_cases hname : isBlankText j.name = true
  · rw [if_pos hname, if_pos hname]
    rfl
  by_cases hsteps : j.steps.isEmpty = true
  · rw [if_neg hname, if_neg hname, if_pos hsteps, if_pos hsteps]
    rfl
  rw [if_neg hname, if_neg hname, if_neg hsteps, if_neg hsteps]
  -- The parts are loaded without a look at the directory, which comes in at the end.
  refine map_bind_congr_right fun axes => ?_
  refine map_bind_congr_right fun condition => ?_
  refine map_bind_congr_right fun steps => ?_
  refine map_bind_congr_right fun env => ?_
  simp [pure, Except.pure, Except.map, Template.apartFromDirectory, Function.comp_def]

/-- Loading for another directory changes nothing but directories: neither whether a definition
loads nor which rule is found broken. -/
theorem load_apartFromDirectories (base base' : String) (d : PipelineDefinition) :
    (d.load base).map Pipeline.apartFromDirectories =
      (d.load base').map Pipeline.apartFromDirectories := by
  have hjobs := mapM_map_congr (loadJob_apartFromDirectory d.defaultTimeoutSecs base base') d.jobs
  unfold PipelineDefinition.load
  by_cases hname : isBlankText d.name = true
  · rw [if_pos hname, if_pos hname]
    rfl
  by_cases hmax : d.maxParallel = some 0
  · rw [if_neg hname, if_neg hname, if_pos hmax, if_pos hmax]
    rfl
  by_cases hshell : (!d.shell.all namesProgram) = true
  · rw [if_neg hname, if_neg hname, if_neg hmax, if_neg hmax, if_pos hshell, if_pos hshell]
    rfl
  rw [if_neg hname, if_neg hname, if_neg hmax, if_neg hmax, if_neg hshell, if_neg hshell]
  cases firstRepeat? (d.jobs.map (·.name)) with
  | some job => rfl
  | none =>
    refine map_bind_congr hjobs fun templates templates' hsame => ?_
    have hids : (templates.flatMap Template.expand).map Instance.id =
        (templates'.flatMap Template.expand).map Instance.id := by
      rw [← ids_apartFromDirectory, hsame, ids_apartFromDirectory]
    rw [hids]
    cases firstRepeat? ((templates'.flatMap Template.expand).map Instance.id) with
    | some id => rfl
    | none =>
      refine map_bind_congr_right fun env => ?_
      simp [pure, Except.pure, Except.map, Pipeline.apartFromDirectories, hsame]

theorem map_eq_error_iff {ε α β : Type} {x : Except ε α} {view : α → β} {e : ε} :
    x.map view = .error e ↔ x = .error e := by
  cases x <;> simp [Except.map]

/-- The fault of a definition is the same for every directory. -/
theorem load_eq_error_iff {base base' : String} {d : PipelineDefinition} {fault : Fault} :
    d.load base = .error fault ↔ d.load base' = .error fault := by
  rw [← map_eq_error_iff, load_apartFromDirectories base base', map_eq_error_iff]

/-! ## Texts -/

/-- What is read from a text is a valid definition. -/
theorem valid_of_ofText {text : String} {d : PipelineDefinition} (h : ofText text = .ok d) :
    d.Valid := by
  unfold ofText at h
  split at h
  · cases h
  · split at h
    · cases h
    · rename_i p hload
      cases h
      exact (PipelineDefinition.load_eq_ok_iff.1 hload).1

/-- A definition loads exactly if it is valid. The base directory does not matter for that nor for
the fault, and shows in the directories only; so a text that was found valid is not refused later,
when the file that it is in is loaded. -/
theorem PipelineDefinition.loads_iff_valid (d : PipelineDefinition) :
    (∀ base, (∃ p, d.load base = .ok p) ↔ d.Valid) ∧
      (∀ base base' fault, d.load base = .error fault ↔ d.load base' = .error fault) ∧
      (∀ base base' p p', d.load base = .ok p → d.load base' = .ok p' →
        p.apartFromDirectories = p'.apartFromDirectories) ∧
      ∀ files directory path text, files.readText directory path = .ok text →
        ofText text = .ok d → ∃ p, pipelineOfFile files directory path = .ok p ∧
          d.load (Path.directory path) = .ok p := by
  refine ⟨fun base => ?_, fun base base' fault => load_eq_error_iff, ?_, ?_⟩
  · constructor
    · rintro ⟨p, hload⟩
      exact (load_eq_ok_iff.1 hload).1
    · intro hvalid
      exact ⟨d.read base, load_eq_ok_iff.2 ⟨hvalid, rfl⟩⟩
  · intro base base' p p' hload hload'
    have hsame := load_apartFromDirectories base base' d
    rw [hload, hload'] at hsame
    exact Except.ok.inj hsame
  · intro files directory path text hfile htext
    have hload : d.load (Path.directory path) = .ok (d.read (Path.directory path)) :=
      load_eq_ok_iff.2 ⟨valid_of_ofText htext, rfl⟩
    refine ⟨_, ?_, hload⟩
    simp only [pipelineOfFile, hfile, htext]
    change PipelineDefinition.load? (Path.directory path) d = _
    simp only [PipelineDefinition.load?, hload]

end Definition

end JobMatrix
