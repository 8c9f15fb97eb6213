import Mathlib.Data.String.Basic
import JobMatrix.Definition.Source
import JobMatrix.Proofs.Definition.Valid
import JobMatrix.Proofs.Job.Environment

/-!
# Environments in order

An environment has its names in order, each with one value. Values are only ever put in at the
places of their names, so this holds of the environments of every definition that is read. It is
shown by following what a reader yields through the ways in which readers are put together.
-/

namespace JobMatrix

/-! ## Putting values in -/

namespace Env

variable {α : Type} {e : Env α}

theorem ascending_empty : (empty : Env α).Ascending :=
  List.Pairwise.nil

/-- The names after a value was put in are those before and its own. -/
theorem mem_insertEntry {name : String} {value : α} {entries : List (String × α)}
    {entry : String × α} (h : entry ∈ insertEntry name value entries) :
    entry = (name, value) ∨ entry ∈ entries := by
  induction entries with
  | nil => exact .inl (List.mem_singleton.1 h)
  | cons first rest ih =>
    simp only [insertEntry] at h
    split at h
    · simpa using h
    · split at h
      · rcases List.mem_cons.1 h with heq | hrest
        · exact .inl heq
        · exact .inr (List.mem_cons_of_mem _ hrest)
      · rcases List.mem_cons.1 h with heq | hrest
        · exact .inr (heq ▸ List.mem_cons_self)
        · exact (ih hrest).imp_right (List.mem_cons_of_mem _)

theorem Ascending.insert (h : e.Ascending) (name : String) (value : α) :
    (e.insert name value).Ascending := by
  obtain ⟨entries⟩ := e
  simp only [Ascending, Env.insert] at h ⊢
  induction entries with
  | nil => exact List.pairwise_singleton ..
  | cons first rest ih =>
    obtain ⟨hfirst, hrest⟩ := List.pairwise_cons.1 h
    simp only [insertEntry]
    split
    · rename_i hlt
      -- The name comes before the first one, and so before all.
      refine List.pairwise_cons.2 ⟨fun entry hentry => ?_, h⟩
      rcases List.mem_cons.1 hentry with rfl | hentry
      · exact hlt
      · exact lt_trans hlt (hfirst entry hentry)
    · rename_i hnlt
      split
      · rename_i heq
        exact List.pairwise_cons.2 ⟨fun entry hentry => heq ▸ hfirst entry hentry, hrest⟩
      · rename_i hne
        refine List.pairwise_cons.2 ⟨fun entry hentry => ?_, ih hrest⟩
        rcases mem_insertEntry hentry with rfl | hentry
        · exact lt_of_le_of_ne (not_lt.1 hnlt) (Ne.symm hne)
        · exact hfirst entry hentry

end Env

/-! ## What readers yield -/

namespace Yaml.Reader

variable {α β σ : Type} {P : α → Prop} {Q : β → Prop} {I : σ → Prop}

/-- Whatever the reader gives has a property. -/
def Yields (r : Reader α) (P : α → Prop) : Prop :=
  ∀ context jumps a jumps', r context jumps = .ok (a, jumps') → P a

theorem yields_pure {a : α} (h : P a) : Yields (pure a) P := by
  rintro context jumps _ _ ⟨⟩
  exact h

theorem yields_throw (fault : ReadFault) : Yields (throw fault : Reader α) P := nofun

theorem Yields.bind {r : Reader β} {f : β → Reader α} (hr : Yields r Q)
    (hf : ∀ b, Q b → Yields (f b) P) : Yields (r >>= f) P := by
  intro context jumps a jumps' h
  obtain ⟨⟨b, mid⟩, hfirst, hrest⟩ := Definition.bind_eq_ok_iff.1 h
  exact hf b (hr _ _ _ _ hfirst) _ _ _ _ hrest

/-- What comes first does not matter to what is given in the end. -/
theorem yields_bind {r : Reader β} {f : β → Reader α} (hf : ∀ b, Yields (f b) P) :
    Yields (r >>= f) P :=
  Yields.bind (Q := fun _ => True) (fun _ _ _ _ _ => trivial) fun b _ => hf b

theorem Yields.placing {r : Reader α} (h : Yields r P) (mark : Mark) :
    Yields (placing mark r) P := by
  intro context jumps a jumps' hread
  unfold Reader.placing at hread
  split at hread
  · cases hread
  · rename_i hok
    cases hread
    exact h _ _ _ _ hok

theorem Yields.within {r : Reader α} (h : Yields r P) (step : PathStep) :
    Yields (within step r) P :=
  fun context => h { context with path := step :: context.path }

theorem Yields.enter {r : Reader α} (h : Yields r P) : Yields (enter r) P := by
  rintro ⟨document, path, depth⟩ jumps a jumps' hread
  cases depth with
  | zero => cases hread
  | succ depth => exact h _ _ _ _ hread

theorem yields_refuse (node : Node) (expected : String) : Yields (refuse node expected) P := by
  cases node with
  | scalar mark tag style text =>
    simp only [refuse]
    cases Meaning.ofScalar tag style text <;> exact yields_throw _
  | _ => exact yields_throw _

theorem yields_items {r : Node → Reader α} (hr : ∀ node, Yields (r node) P) (index : Nat)
    (nodes : List Node) : Yields (items r index nodes) (∀ a ∈ ·, P a) := by
  induction nodes generalizing index with
  | nil => exact yields_pure nofun
  | cons node rest ih =>
    unfold items
    split
    · exact yields_throw _
    · refine ((hr node).within _).bind fun a ha => ?_
      refine (ih (index + 1)).bind fun as has => ?_
      exact yields_pure (List.forall_mem_cons.2 ⟨ha, has⟩)

theorem yields_list {r : Node → Reader α} (hr : ∀ node, Yields (r node) P) (node : Node) :
    Yields (list r node) (∀ a ∈ ·, P a) := by
  refine yields_bind fun node => Yields.placing ?_ _
  split
  · exact (yields_items hr 0 _).enter
  · split
    · exact yields_pure nofun
    · exact yields_refuse _ _

theorem yields_eachEntry {r : σ → Node → Node → Reader σ}
    (hr : ∀ s key value, I s → Yields (r s key value) I) {s : σ} (hs : I s)
    (es : List (Node × Node)) : Yields (eachEntry r s es) I := by
  induction es generalizing s with
  | nil => exact yields_pure hs
  | cons entry rest ih =>
    unfold eachEntry
    split
    · exact yields_throw _
    · exact (hr s _ _ hs).bind fun s' hs' => ih hs'

theorem yields_entries {expected : String} {start : σ} {r : σ → Node → Node → Reader σ}
    (hstart : I start) (hr : ∀ s key value, I s → Yields (r s key value) I) (node : Node) :
    Yields (entries expected start r node) I := by
  refine yields_bind fun node => Yields.placing ?_ _
  split
  · exact (yields_eachEntry hr hstart _).enter
  · split
    · exact yields_pure hstart
    · exact yields_refuse _ _

/-- What every field keeps holds of the fields when they are put together. -/
theorem yields_record {expected : String} {start : σ} {fieldOf : String → Option String}
    {isSet : σ → String → Bool} {readField : σ → String → Node → Reader σ}
    {finish : σ → Reader α} (hstart : I start)
    (hfield : ∀ s field node, I s → Yields (readField s field node) I)
    (hfinish : ∀ s, I s → Yields (finish s) P) (node : Node) :
    Yields (record expected start fieldOf isSet readField finish node) P := by
  refine yields_bind fun node => Yields.placing ?_ _
  -- An unknown field is passed over and a repeated one is a fault; only known ones change anything.
  refine (yields_entries hstart (fun s key value hs => ?_) node).bind hfinish
  refine yields_bind fun name => ?_
  split
  · exact yields_bind fun _ => yields_pure hs
  · split
    · exact yields_throw _
    · exact (hfield s _ value hs).within _

theorem yields_required {a? : Option α} (name : String) (h : ∀ a ∈ a?, P a) :
    Yields (required name a?) P := by
  cases a? with
  | none => exact yields_throw _
  | some a => exact yields_pure (h a rfl)

theorem of_run {r : Node → Reader α} (hr : ∀ node, Yields (r node) P) {text : String} {a : α}
    (h : run r text = .ok a) : P a := by
  simp only [run] at h
  split at h
  · cases h
  · rename_i hread
    split at h
    · cases h
      exact hr _ _ _ _ _ hread
    · cases h

end Yaml.Reader

/-! ## Definitions -/

namespace Definition

open JobMatrix.Yaml JobMatrix.Yaml.Reader

structure JobDefinition.Ascending (j : JobDefinition) : Prop where
  env : j.env.Ascending
  steps : ∀ s ∈ j.steps, s.env.Ascending

/-- All environments of a definition are in order, as they are when values are put in by name. -/
structure PipelineDefinition.Ascending (d : PipelineDefinition) : Prop where
  env : d.env.Ascending
  jobs : ∀ j ∈ d.jobs, j.Ascending

theorem yields_readEnv (node : Node) : Yields (readEnv node) Env.Ascending := by
  refine yields_entries Env.ascending_empty (fun env key value henv => ?_) node
  refine yields_bind fun name => ?_
  exact yields_bind fun value => yields_pure (henv.insert name value)

theorem ascending_getD {env : Option (Env Value)} (h : ∀ e ∈ env, e.Ascending) :
    (env.getD Env.empty).Ascending := by
  cases env with
  | none => exact Env.ascending_empty
  | some e => exact h e rfl

theorem yields_readStep (node : Node) : Yields (readStep node) (·.env.Ascending) := by
  refine yields_record (I := fun s => ∀ e ∈ s.env, e.Ascending) nofun ?_ ?_ node
  · intro s field node hs
    unfold StepFields.readField
    split
    case h_5 =>
      refine (yields_readEnv node).bind fun env henv => yields_pure ?_
      rintro _ ⟨⟩
      exact henv
    all_goals exact yields_bind fun _ => yields_pure hs
  · intro s hs
    exact yields_bind fun _ => yields_pure (ascending_getD hs)

/-- The fields of a job that have been read have their environments in order. -/
structure JobFields.Ascending (s : JobFields) : Prop where
  env : ∀ e ∈ s.env, e.Ascending
  steps : ∀ steps ∈ s.steps, ∀ step ∈ steps, step.env.Ascending

theorem yields_readJob (node : Node) : Yields (readJob node) JobDefinition.Ascending := by
  have hstart : JobFields.Ascending {} := ⟨by simp, by simp⟩
  refine yields_record hstart ?_ ?_ node
  · intro s field node hs
    unfold JobFields.readField
    split
    case h_4 =>
      refine (yields_readEnv node).bind fun env henv => yields_pure ⟨?_, hs.steps⟩
      rintro _ ⟨⟩
      exact henv
    case h_7 =>
      refine (yields_list yields_readStep node).bind fun steps hsteps => yields_pure ⟨hs.env, ?_⟩
      rintro _ ⟨⟩
      exact hsteps
    all_goals exact yields_bind fun _ => yields_pure ⟨hs.env, hs.steps⟩
  · intro s hs
    refine yields_bind fun name => ?_
    refine (yields_required "steps" hs.steps).bind fun steps hsteps => ?_
    exact yields_pure ⟨ascending_getD hs.env, hsteps⟩

/-- The fields of a pipeline that have been read have their environments in order. -/
structure PipelineFields.Ascending (s : PipelineFields) : Prop where
  env : ∀ e ∈ s.env, e.Ascending
  jobs : ∀ jobs ∈ s.jobs, ∀ j ∈ jobs, j.Ascending

theorem yields_readPipeline (node : Node) :
    Yields (readPipeline node) PipelineDefinition.Ascending := by
  have hstart : PipelineFields.Ascending {} := ⟨by simp, by simp⟩
  refine yields_record hstart ?_ ?_ node
  · intro s field node hs
    unfold PipelineFields.readField
    split
    case h_7 =>
      refine (yields_readEnv node).bind fun env henv => yields_pure ⟨?_, hs.jobs⟩
      rintro _ ⟨⟩
      exact henv
    case h_8 =>
      refine (yields_list yields_readJob node).bind fun jobs hjobs => yields_pure ⟨hs.env, ?_⟩
      rintro _ ⟨⟩
      exact hjobs
    all_goals exact yields_bind fun _ => yields_pure ⟨hs.env, hs.jobs⟩
  · intro s hs
    refine yields_bind fun name => ?_
    refine (yields_required "jobs" hs.jobs).bind fun jobs hjobs => ?_
    exact yields_pure ⟨ascending_getD hs.env, hjobs⟩

/-- All environments of a definition that is read from a text are in order. -/
theorem ascending_of_ofText {text : String} {d : PipelineDefinition} (h : ofText text = .ok d) :
    d.Ascending := by
  unfold ofText at h
  split at h
  · cases h
  · rename_i hrun
    split at h
    · cases h
    · cases h
      exact of_run yields_readPipeline hrun

/-! ## The texts of an environment -/

theorem get?_textsOf (env : Env Value) (name : String) :
    (textsOf env).get? name = (env.get? name).map Value.scalarText := by
  simp [textsOf, Env.get?, List.find?_map, Function.comp_def]

theorem ascending_textsOf {env : Env Value} (h : env.Ascending) : (textsOf env).Ascending := by
  simpa [Env.Ascending, textsOf, List.pairwise_map] using h

/-- What an environment in order gives to an outer one is what it has itself. -/
theorem lastValue?_textsOf {env : Env Value} (h : env.Ascending) (name : String) :
    lastValue? (textsOf env).entries name = (env.get? name).map Value.scalarText := by
  rw [← (ascending_textsOf h).get?_eq, get?_textsOf]

end Definition

end JobMatrix
