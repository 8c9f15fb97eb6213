import Mathlib.Data.List.Nodup
import JobMatrix.Definition.Loading

/-!
# Valid definitions

Which definitions load, said without the order in which loading looks at their parts, and what a
definition is read as: every part of a pipeline is a function of the part of the definition that
it stands for. Loading succeeds on the valid definitions and on no others, and gives the pipeline
that they are read as.
-/

namespace JobMatrix

/-! ## Values -/

namespace Yaml.Value

/-- A text, a number or a truth value. A scalar with a tag of its own is none of them. -/
def IsScalar : Value → Prop
  | .text _ | .number _ | .bool _ => True
  | _ => False

/-- A value is the list of some items. A tag leaves a list what it is. -/
inductive IsList : Value → List Value → Prop
  | list (items : List Value) : IsList (.list items) items
  | tagged (tag : String) {value : Value} {items : List Value} (h : IsList value items) :
      IsList (.tagged tag value) items

/-- The text of a scalar. -/
def scalarText (v : Value) : String :=
  v.scalarText?.getD ""

variable {v : Value}

theorem scalarText?_eq_some_iff {text : String} :
    v.scalarText? = some text ↔ v.IsScalar ∧ v.scalarText = text := by
  cases v <;> simp [scalarText?, scalarText, IsScalar]

theorem scalarText?_eq_none_iff : v.scalarText? = none ↔ ¬ v.IsScalar := by
  cases v <;> simp [scalarText?, IsScalar]

theorem IsList.items?_eq {items : List Value} (h : v.IsList items) : v.items? = some items := by
  induction h with
  | list items => rfl
  | tagged tag _ ih => simpa [items?] using ih

theorem isList_of_items? {items : List Value} (h : v.items? = some items) : v.IsList items := by
  fun_induction items? v with
  | case1 items' =>
    cases h
    exact .list items
  | case2 tag value ih => exact .tagged tag (ih h)
  | case3 => cases h

end Yaml.Value

namespace Definition

open JobMatrix.Text JobMatrix.Yaml

/-! ## What a definition is read as -/

/-- The name and the values of an axis. -/
def readAxis (axis : Value × Value) : String × List String :=
  (axis.1.scalarText, (axis.2.items?.getD []).map Value.scalarText)

/-- An environment with the texts of its values. -/
def textsOf (env : Env Value) : Env String :=
  ⟨env.entries.map fun entry => (entry.1, entry.2.scalarText)⟩

/-- The condition that an optional source parses to. -/
def parsed (source : Option String) : Option Condition :=
  source.bind fun text => (Condition.parse text).toOption

namespace StepDefinition

/-- The step that stands at `index` in its job. -/
def read (index : Nat) (s : StepDefinition) : Step where
  label := stepLabel index s
  command := s.run
  continueOnError := s.continueOnError
  condition := parsed s.condition
  env := textsOf s.env
  timeoutSecs := s.timeoutSecs

end StepDefinition

namespace JobDefinition

/-- The names of the axes. -/
def axisNames (j : JobDefinition) : List String :=
  j.axes.map fun axis => axis.1.scalarText

/-- The identities of the instances of a job. -/
def instanceIds (j : JobDefinition) : List String :=
  (Template.bindingsFrom Binding.empty (j.axes.map readAxis)).map (·.instanceId j.name)

/-- The template of a job, with a timeout for want of its own and a base directory. -/
def read (defaultTimeoutSecs : Option Nat) (base : String) (j : JobDefinition) : Template where
  name := j.name
  steps := j.steps.mapIdx StepDefinition.read
  axes := j.axes.map readAxis
  condition := parsed j.condition
  env := textsOf j.env
  workingDirectory := j.workingDirectory.map (Path.join base)
  timeoutSecs := j.timeoutSecs <|> defaultTimeoutSecs

end JobDefinition

namespace PipelineDefinition

/-- The pipeline of a definition for a base directory. -/
def read (base : String) (d : PipelineDefinition) : Pipeline where
  name := d.name
  templates := d.jobs.map (JobDefinition.read d.defaultTimeoutSecs base)
  env := textsOf d.env
  workingDirectory := Path.join base (d.workingDirectory.getD ".")
  shell := d.shell
  maxParallel := d.maxParallel

end PipelineDefinition

/-! ## Which definitions are valid -/

/-- An axis has a name that is not blank and at least one value; its values are different scalars. -/
structure ValidAxis (axis : Value × Value) : Prop where
  name_isScalar : axis.1.IsScalar
  name_not_blank : isBlankText axis.1.scalarText = false
  values : ∃ items, axis.2.IsList items ∧ items ≠ [] ∧ (∀ item ∈ items, item.IsScalar) ∧
    (items.map Value.scalarText).Nodup

/-- Every variable of an environment is a scalar. -/
def ValidEnv (env : Env Value) : Prop :=
  ∀ entry ∈ env.entries, entry.2.IsScalar

/-- A condition, if there is one, parses and reads only some axes. -/
def ValidCondition (axes : List String) (source : Option String) : Prop :=
  ∀ text, source = some text →
    ∃ condition, Condition.parse text = .ok condition ∧ ∀ axis ∈ condition.axes, axis ∈ axes

/-- A step of a job with some axes is valid. -/
structure StepDefinition.Valid (axes : List String) (s : StepDefinition) : Prop where
  command_not_blank : isBlankText s.run = false
  placeholders : ∀ axis ∈ Placeholder.axes s.run, axis ∈ axes
  condition : ValidCondition axes s.condition
  env : ValidEnv s.env

/-- A job is valid by itself. -/
structure JobDefinition.Valid (j : JobDefinition) : Prop where
  name_not_blank : isBlankText j.name = false
  steps_ne_nil : j.steps ≠ []
  axes : ∀ axis ∈ j.axes, ValidAxis axis
  condition : ValidCondition j.axisNames j.condition
  steps : ∀ s ∈ j.steps, s.Valid j.axisNames
  env : ValidEnv j.env

structure PipelineDefinition.Valid (d : PipelineDefinition) : Prop where
  name_not_blank : isBlankText d.name = false
  maxParallel_ne_zero : d.maxParallel ≠ some 0
  shell : ∀ words, d.shell = some words →
    ∃ program arguments, words = program :: arguments ∧ isBlankText program = false
  jobs_distinct : (d.jobs.map JobDefinition.name).Nodup
  jobs : ∀ j ∈ d.jobs, j.Valid
  instances_distinct : (d.jobs.flatMap JobDefinition.instanceIds).Nodup
  env : ValidEnv d.env

theorem validEnv_empty : ValidEnv ⟨[]⟩ :=
  List.forall_mem_nil _

theorem validCondition_none (axes : List String) : ValidCondition axes none := by
  simp [ValidCondition]

/-- An axis of different texts is valid. -/
theorem validAxis_texts (name : String) (texts : List String)
    (hname : isBlankText name = false) (hne : texts ≠ []) (hnodup : texts.Nodup) :
    ValidAxis (.text name, .list (texts.map .text)) where
  name_isScalar := trivial
  name_not_blank := hname
  values := by
    refine ⟨_, .list _, by simpa using hne, by simp [Value.IsScalar], ?_⟩
    simpa [Value.scalarText, Value.scalarText?, Function.comp_def] using hnodup

/-! ## Checks in sequence -/

section Checks

variable {ε α β : Type}

/-- A check leaves the rest to decide if it is passed. -/
theorem check_eq_ok_iff {c : Prop} [Decidable c] {e : ε} {last : PUnit → Except ε α}
    {rest : Except ε α} {a : α} :
    (if c then throw e >>= last else rest) = .ok a ↔ ¬ c ∧ rest = .ok a := by
  split
  · rename_i hc
    exact iff_of_false nofun fun h => h.1 hc
  · rename_i hc
    simp [hc]

theorem bind_eq_ok_iff {x : Except ε α} {rest : α → Except ε β} {b : β} :
    x >>= rest = .ok b ↔ ∃ a, x = .ok a ∧ rest a = .ok b := by
  cases x with
  | error e => exact iff_of_false nofun fun ⟨_, h, _⟩ => nomatch h
  | ok a => exact ⟨fun h => ⟨a, rfl, h⟩, fun ⟨_, h, hrest⟩ => by cases h; exact hrest⟩

theorem map_eq_ok_iff {x : Except ε α} {f : α → β} {b : β} :
    x.map f = .ok b ↔ ∃ a, x = .ok a ∧ f a = b := by
  cases x with
  | error e => exact iff_of_false nofun fun ⟨_, h, _⟩ => nomatch h
  | ok a => simp [Except.map]

/-- What is checked one by one is valid as a whole if each is. -/
theorem mapM_eq_ok_iff {f : α → Except ε β} {valid : α → Prop} {read : α → β}
    (hf : ∀ x y, f x = .ok y ↔ valid x ∧ read x = y) {xs : List α} {ys : List β} :
    xs.mapM f = .ok ys ↔ (∀ x ∈ xs, valid x) ∧ xs.map read = ys := by
  induction xs generalizing ys with
  | nil => simp [pure, Except.pure]
  | cons x xs ih =>
    simp only [List.mapM_cons, bind_eq_ok_iff, hf, ih, List.forall_mem_cons, List.map_cons]
    constructor
    · rintro ⟨y, ⟨hx, rfl⟩, rest, ⟨hxs, rfl⟩, h⟩
      cases h
      exact ⟨⟨hx, hxs⟩, rfl⟩
    · rintro ⟨⟨hx, hxs⟩, rfl⟩
      exact ⟨_, ⟨hx, rfl⟩, _, ⟨hxs, rfl⟩, rfl⟩

end Checks

/-! ## Repeated texts -/

theorem firstRepeat?_go_eq_none_iff (seen : Std.HashSet String) (xs : List String) :
    firstRepeat?.go seen xs = none ↔ (∀ x ∈ xs, x ∉ seen) ∧ xs.Nodup := by
  induction xs generalizing seen with
  | nil => simp [firstRepeat?.go]
  | cons x xs ih =>
    unfold firstRepeat?.go
    by_cases hseen : seen.contains x = true
    · have hmem : x ∈ seen := Std.HashSet.mem_iff_contains.2 hseen
      simp [hseen, hmem]
    · have hmem : x ∉ seen := fun h => hseen (Std.HashSet.mem_iff_contains.1 h)
      simp only [hseen, Bool.false_eq_true, if_false, ih, Std.HashSet.mem_insert, beq_iff_eq,
        not_or, List.forall_mem_cons, List.nodup_cons]
      constructor
      · rintro ⟨hfresh, hnodup⟩
        exact ⟨⟨hmem, fun y hy => (hfresh y hy).2⟩, fun hx => (hfresh x hx).1 rfl, hnodup⟩
      · rintro ⟨⟨-, hfresh⟩, hx, hnodup⟩
        refine ⟨fun y hy => ⟨?_, hfresh y hy⟩, hnodup⟩
        rintro rfl
        exact hx hy

/-- No text of a list is found to stand there twice exactly if they are distinct. -/
theorem firstRepeat?_eq_none_iff (xs : List String) : firstRepeat? xs = none ↔ xs.Nodup := by
  simp [firstRepeat?, firstRepeat?_go_eq_none_iff]

/-! ## Parts of a definition -/

theorem loadEnvEntries_eq_ok_iff {owner : String} {entries : List (String × Value)}
    {loaded : List (String × String)} :
    loadEnvEntries owner entries = .ok loaded ↔
      (∀ entry ∈ entries, entry.2.IsScalar) ∧
        entries.map (fun entry => (entry.1, entry.2.scalarText)) = loaded := by
  induction entries generalizing loaded with
  | nil => simp [loadEnvEntries]
  | cons entry entries ih =>
    obtain ⟨name, value⟩ := entry
    simp only [loadEnvEntries, List.forall_mem_cons, List.map_cons]
    split
    · rename_i hnone
      exact iff_of_false nofun fun h => Value.scalarText?_eq_none_iff.1 hnone h.1.1
    · rename_i text htext
      obtain ⟨hscalar, rfl⟩ := Value.scalarText?_eq_some_iff.1 htext
      simp only [map_eq_ok_iff, ih, hscalar, true_and]
      constructor
      · rintro ⟨rest, ⟨hrest, rfl⟩, rfl⟩
        exact ⟨hrest, rfl⟩
      · rintro ⟨hrest, rfl⟩
        exact ⟨_, ⟨hrest, rfl⟩, rfl⟩

theorem loadEnv_eq_ok_iff {owner : String} {env : Env Value} {loaded : Env String} :
    loadEnv owner env = .ok loaded ↔ ValidEnv env ∧ textsOf env = loaded := by
  simp only [loadEnv, map_eq_ok_iff, loadEnvEntries_eq_ok_iff, ValidEnv, textsOf]
  constructor
  · rintro ⟨_, ⟨hvalid, rfl⟩, rfl⟩
    exact ⟨hvalid, rfl⟩
  · rintro ⟨hvalid, rfl⟩
    exact ⟨_, ⟨hvalid, rfl⟩, rfl⟩

/-- The values of an axis load if they are scalars whose texts are new and differ. -/
theorem loadAxisValues_eq_ok_iff {axis job : String} {seen : List String} {values : List Value}
    {loaded : List String} :
    loadAxisValues axis job seen values = .ok loaded ↔
      ((∀ value ∈ values, value.IsScalar) ∧ (∀ value ∈ values, value.scalarText ∉ seen) ∧
        (values.map Value.scalarText).Nodup) ∧ values.map Value.scalarText = loaded := by
  induction values generalizing seen loaded with
  | nil => simp [loadAxisValues]
  | cons value values ih =>
    simp only [loadAxisValues, List.forall_mem_cons, List.map_cons, List.nodup_cons]
    split
    · rename_i hnone
      exact iff_of_false nofun fun h => Value.scalarText?_eq_none_iff.1 hnone h.1.1.1
    · rename_i text htext
      obtain ⟨hscalar, rfl⟩ := Value.scalarText?_eq_some_iff.1 htext
      split
      · rename_i hseen
        exact iff_of_false nofun fun h => h.1.2.1.1 (by simpa using hseen)
      · rename_i hseen
        have hnew : value.scalarText ∉ seen := by simpa using hseen
        simp only [map_eq_ok_iff, ih, List.mem_cons, not_or, List.mem_map, not_exists, not_and]
        constructor
        · rintro ⟨rest, ⟨⟨hscalars, hfresh, hnodup⟩, rfl⟩, rfl⟩
          exact ⟨⟨⟨hscalar, hscalars⟩, ⟨hnew, fun v hv => (hfresh v hv).2⟩,
            fun v hv => (hfresh v hv).1, hnodup⟩, rfl⟩
        · rintro ⟨⟨⟨-, hscalars⟩, ⟨-, hfresh⟩, hdiffers, hnodup⟩, rfl⟩
          exact ⟨_, ⟨⟨hscalars, fun v hv => ⟨hdiffers v hv, hfresh v hv⟩, hnodup⟩, rfl⟩, rfl⟩

theorem loadAxis_eq_ok_iff {job : String} {axis : Value × Value} {loaded : String × List String} :
    loadAxis job axis.1 axis.2 = .ok loaded ↔ ValidAxis axis ∧ readAxis axis = loaded := by
  unfold loadAxis
  split
  · rename_i hnone
    exact iff_of_false nofun fun h => Value.scalarText?_eq_none_iff.1 hnone h.1.name_isScalar
  · rename_i text htext
    obtain ⟨hscalar, rfl⟩ := Value.scalarText?_eq_some_iff.1 htext
    split
    · rename_i hblank
      exact iff_of_false nofun fun h => by simp [h.1.name_not_blank] at hblank
    · rename_i hblank
      have hname : isBlankText axis.1.scalarText = false := by simpa using hblank
      split
      · rename_i hnone
        refine iff_of_false nofun fun h => ?_
        obtain ⟨items, hitems, -⟩ := h.1.values
        rw [hitems.items?_eq] at hnone
        cases hnone
      · rename_i hnil
        refine iff_of_false nofun fun h => ?_
        obtain ⟨items, hitems, hne, -⟩ := h.1.values
        rw [hitems.items?_eq] at hnil
        exact hne (Option.some.inj hnil)
      · rename_i items hne hitems
        simp only [map_eq_ok_iff, loadAxisValues_eq_ok_iff, List.not_mem_nil, not_false_iff,
          implies_true, true_and]
        have hlist := Value.isList_of_items? hitems
        constructor
        · rintro ⟨_, ⟨⟨hscalars, hnodup⟩, rfl⟩, rfl⟩
          refine ⟨⟨hscalar, hname, items, hlist, fun h => hne h, hscalars, hnodup⟩, ?_⟩
          rw [readAxis, hitems, Option.getD_some]
        · rintro ⟨hvalid, rfl⟩
          obtain ⟨items', hitems', -, hscalars, hnodup⟩ := hvalid.values
          obtain rfl : items = items' := Option.some.inj (hitems.symm.trans hitems'.items?_eq)
          refine ⟨_, ⟨⟨hscalars, hnodup⟩, rfl⟩, ?_⟩
          rw [readAxis, hitems, Option.getD_some]

theorem loadCondition_eq_ok_iff {job source : String} {declared : List String}
    {condition : Condition} :
    loadCondition job declared source = .ok condition ↔
      Condition.parse source = .ok condition ∧ ∀ axis ∈ condition.axes, axis ∈ declared := by
  unfold loadCondition
  split
  · rename_i hparse
    exact iff_of_false nofun fun h => by simp [hparse] at h
  · rename_i other hparse
    split
    · rename_i axis hfound
      refine iff_of_false nofun ?_
      rintro ⟨hsame, hdeclared⟩
      rw [hparse] at hsame
      cases hsame
      -- The axis that was found is one of the condition, and it is not declared.
      have hundeclared := List.find?_some hfound
      simp [hdeclared axis (List.mem_of_find?_eq_some hfound)] at hundeclared
    · rename_i hnone
      simp only [List.find?_eq_none, Bool.not_eq_true', List.contains_eq_mem,
        decide_eq_false_iff_not, not_not] at hnone
      rw [hparse]
      constructor
      · intro h
        cases h
        exact ⟨rfl, hnone⟩
      · rintro ⟨h, -⟩
        cases h
        rfl

theorem loadCondition?_eq_ok_iff {job : String} {declared : List String} {source : Option String}
    {condition : Option Condition} :
    loadCondition? job declared source = .ok condition ↔
      ValidCondition declared source ∧ parsed source = condition := by
  cases source with
  | none => simp [loadCondition?, ValidCondition, parsed]
  | some text =>
    simp only [loadCondition?, map_eq_ok_iff, loadCondition_eq_ok_iff, ValidCondition, parsed,
      Option.some.injEq, forall_eq', Option.bind_some]
    constructor
    · rintro ⟨c, ⟨hparse, haxes⟩, rfl⟩
      exact ⟨⟨c, hparse, haxes⟩, by rw [hparse]; rfl⟩
    · rintro ⟨⟨c, hparse, haxes⟩, rfl⟩
      exact ⟨c, ⟨hparse, haxes⟩, by rw [hparse]; rfl⟩

/-! ## Steps, jobs and pipelines -/

theorem loadStep_eq_ok_iff {job : String} {declared : List String} {index : Nat}
    {s : StepDefinition} {step : Step} :
    loadStep job declared index s = .ok step ↔ s.Valid declared ∧ s.read index = step := by
  have hdeclared : (Placeholder.axes s.run).find? (fun axis => !declared.contains axis) = none ↔
      ∀ axis ∈ Placeholder.axes s.run, axis ∈ declared := by
    simp [List.find?_eq_none]
  unfold loadStep
  simp only [check_eq_ok_iff, Bool.not_eq_true]
  cases hfound : (Placeholder.axes s.run).find? (fun axis => !declared.contains axis) with
  | some axis =>
    refine iff_of_false (fun h => nomatch h.2) fun h => ?_
    rw [hdeclared.2 h.1.placeholders] at hfound
    cases hfound
  | none =>
    simp only [bind_eq_ok_iff, loadCondition?_eq_ok_iff, loadEnv_eq_ok_iff]
    constructor
    · rintro ⟨hcommand, _, ⟨hcondition, rfl⟩, _, ⟨henv, rfl⟩, h⟩
      cases h
      exact ⟨⟨hcommand, hdeclared.1 hfound, hcondition, henv⟩, rfl⟩
    · rintro ⟨hvalid, rfl⟩
      exact ⟨hvalid.command_not_blank, _, ⟨hvalid.condition, rfl⟩, _, ⟨hvalid.env, rfl⟩, rfl⟩

theorem loadSteps_eq_ok_iff {job : String} {declared : List String} {index : Nat}
    {steps : List StepDefinition} {loaded : List Step} :
    loadSteps job declared index steps = .ok loaded ↔
      (∀ s ∈ steps, s.Valid declared) ∧
        steps.mapIdx (fun n s => s.read (index + n)) = loaded := by
  induction steps generalizing index loaded with
  | nil => simp [loadSteps]
  | cons s steps ih =>
    simp only [loadSteps, bind_eq_ok_iff, loadStep_eq_ok_iff, ih, List.forall_mem_cons,
      List.mapIdx_cons, Nat.add_zero, Nat.add_assoc, Nat.add_comm 1]
    constructor
    · rintro ⟨_, ⟨hs, rfl⟩, _, ⟨hsteps, rfl⟩, h⟩
      cases h
      exact ⟨⟨hs, hsteps⟩, rfl⟩
    · rintro ⟨⟨hs, hsteps⟩, rfl⟩
      exact ⟨_, ⟨hs, rfl⟩, _, ⟨hsteps, rfl⟩, rfl⟩

theorem JobDefinition.axisNames_eq (j : JobDefinition) :
    (j.axes.map readAxis).map (·.1) = j.axisNames := by
  simp [axisNames, readAxis]

theorem loadJob_eq_ok_iff {timeout : Option Nat} {base : String} {j : JobDefinition}
    {t : Template} :
    loadJob timeout base j = .ok t ↔ j.Valid ∧ j.read timeout base = t := by
  unfold loadJob
  simp only [check_eq_ok_iff, bind_eq_ok_iff, loadCondition?_eq_ok_iff, loadSteps_eq_ok_iff,
    loadEnv_eq_ok_iff, Bool.not_eq_true, List.isEmpty_eq_false_iff, Nat.zero_add]
  constructor
  · rintro ⟨hname, hsteps, _, hloaded, _, ⟨hcondition, rfl⟩, _, ⟨hvalid, rfl⟩, _, ⟨henv, rfl⟩, h⟩
    obtain ⟨haxes, rfl⟩ := (mapM_eq_ok_iff fun axis loaded => loadAxis_eq_ok_iff).1 hloaded
    cases h
    rw [j.axisNames_eq] at hcondition hvalid
    exact ⟨⟨hname, hsteps, haxes, hcondition, hvalid, henv⟩, rfl⟩
  · rintro ⟨hvalid, rfl⟩
    have hcondition := hvalid.condition
    have hsteps := hvalid.steps
    rw [← j.axisNames_eq] at hcondition hsteps
    refine ⟨hvalid.name_not_blank, hvalid.steps_ne_nil, _, ?_, _, ⟨hcondition, rfl⟩, _,
      ⟨hsteps, rfl⟩, _, ⟨hvalid.env, rfl⟩, rfl⟩
    exact (mapM_eq_ok_iff fun axis loaded => loadAxis_eq_ok_iff).2 ⟨hvalid.axes, rfl⟩

theorem namesProgram_iff {words : List String} :
    namesProgram words = true ↔
      ∃ program arguments, words = program :: arguments ∧ isBlankText program = false := by
  cases words with
  | nil => simp [namesProgram]
  | cons program arguments => simp [namesProgram]

namespace PipelineDefinition

theorem read_instances_ids (base : String) (d : PipelineDefinition) :
    (d.read base).instances.map Instance.id = d.jobs.flatMap JobDefinition.instanceIds := by
  simp only [Pipeline.instances, read, List.flatMap_map, List.map_flatMap]
  refine List.flatMap_congr fun j _ => ?_
  simp only [Template.expand, Template.bindings, List.map_map]
  rfl

/-- Loading gives what the definition is read as, exactly if the definition is valid. -/
theorem load_eq_ok_iff {base : String} {d : PipelineDefinition} {p : Pipeline} :
    d.load base = .ok p ↔ d.Valid ∧ d.read base = p := by
  have hjobs : ∀ templates, d.jobs.mapM (loadJob d.defaultTimeoutSecs base) = .ok templates ↔
      (∀ j ∈ d.jobs, j.Valid) ∧ d.jobs.map (JobDefinition.read d.defaultTimeoutSecs base) =
        templates :=
    fun templates => mapM_eq_ok_iff fun j t => loadJob_eq_ok_iff
  have hids := read_instances_ids base d
  have hshell : (!d.shell.all namesProgram) ≠ true ↔ ∀ words, d.shell = some words →
      ∃ program arguments, words = program :: arguments ∧ isBlankText program = false := by
    cases d.shell <;> simp [namesProgram_iff]
  unfold load
  simp only [check_eq_ok_iff, hshell, Bool.not_eq_true]
  constructor
  · rintro ⟨hname, hmax, hshell, h⟩
    split at h
    · cases h
    · rename_i hnames
      simp only [bind_eq_ok_iff, hjobs] at h
      obtain ⟨_, ⟨hvalid, rfl⟩, h⟩ := h
      split at h
      · cases h
      · rename_i hdistinct
        simp only [bind_eq_ok_iff, loadEnv_eq_ok_iff] at h
        obtain ⟨_, ⟨henv, rfl⟩, h⟩ := h
        cases h
        have hnames := Option.eq_none_iff_forall_ne_some.2 hnames
        have hdistinct := Option.eq_none_iff_forall_ne_some.2 hdistinct
        rw [firstRepeat?_eq_none_iff] at hnames hdistinct
        exact ⟨⟨hname, hmax, hshell, hnames, hvalid, hids ▸ hdistinct, henv⟩, rfl⟩
  · rintro ⟨hvalid, rfl⟩
    have hnames := (firstRepeat?_eq_none_iff _).2 hvalid.jobs_distinct
    have hdistinct := (firstRepeat?_eq_none_iff _).2 (hids ▸ hvalid.instances_distinct)
    refine ⟨hvalid.name_not_blank, hvalid.maxParallel_ne_zero, hvalid.shell, ?_⟩
    simp only [hnames, bind_eq_ok_iff, hjobs]
    refine ⟨_, ⟨hvalid.jobs, rfl⟩, ?_⟩
    simp only [Pipeline.instances, read] at hdistinct
    simp only [hdistinct, bind_eq_ok_iff, loadEnv_eq_ok_iff]
    exact ⟨_, ⟨hvalid.env, rfl⟩, rfl⟩

end PipelineDefinition

end Definition

end JobMatrix
