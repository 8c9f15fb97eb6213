import Mathlib.Data.List.Flatten
import JobMatrix.Proofs.Definition.Valid

/-!
# Loaded pipelines

What loading promises about a pipeline: its instances have distinct identities, and each of its
templates is read from a valid job, so that it has a step. All survive the choice of some of its
jobs.
-/

namespace JobMatrix

/-! ## Pipelines -/

namespace Pipeline

/-- A pipeline that was loaded, or chosen from a loaded one by the names of its jobs. -/
inductive Loaded : Pipeline → Prop
  | load {base : String} {d : Definition.PipelineDefinition} {p : Pipeline}
      (h : d.load base = .ok p) : Loaded p
  | retain {p q : Pipeline} {names : List String} (hp : Loaded p) (h : p.retain names = .ok q) :
      Loaded q

variable {p q : Pipeline} {names : List String} {i : Instance}

theorem mem_instances :
    i ∈ p.instances ↔ i.template ∈ p.templates ∧ i.binding ∈ i.template.bindings := by
  simp only [instances, Template.expand, List.mem_flatMap, List.mem_map]
  constructor
  · rintro ⟨t, ht, b, hb, rfl⟩
    exact ⟨ht, hb⟩
  · rintro ⟨ht, hb⟩
    exact ⟨i.template, ht, i.binding, hb, rfl⟩

/-- A job is missing exactly if no template has its name. -/
theorem isNone_template?_iff {name : String} :
    (p.template? name).isNone ↔ name ∉ p.templates.map Template.name := by
  simp [template?]

/-- A choice needs all of its jobs. The chosen jobs keep their order. -/
theorem retain_eq_ok_iff : p.retain names = .ok q ↔
    (∀ name ∈ names, name ∈ p.templates.map Template.name) ∧
      { p with templates := p.templates.filter fun t => names.contains t.name } = q := by
  unfold retain
  cases hfind : names.find? fun name => (p.template? name).isNone with
  | some missing =>
    have hmem : missing ∈ names := List.mem_of_find?_eq_some hfind
    have hmissing := List.find?_some hfind
    simp only [reduceCtorEq, false_iff, not_and]
    exact fun hall => absurd (hall missing hmem) (isNone_template?_iff.1 hmissing)
  | none =>
    have hall : ∀ name ∈ names, name ∈ p.templates.map Template.name := fun name hname => by
      have hsome := List.find?_eq_none.1 hfind name hname
      rwa [isNone_template?_iff, not_not] at hsome
    rw [and_iff_right hall, Except.ok.injEq]

theorem retain_templates (h : p.retain names = .ok q) : q.templates.Sublist p.templates := by
  rw [← (retain_eq_ok_iff.1 h).2]
  exact List.filter_sublist

/-- The chosen instances keep their order. -/
theorem retain_instances (h : p.retain names = .ok q) : q.instances.Sublist p.instances :=
  (retain_templates h).flatMap _

/-- No two instances of a loaded pipeline have the same identity. -/
theorem Loaded.nodup_ids (h : p.Loaded) : (p.instances.map Instance.id).Nodup := by
  induction h with
  | load h =>
    obtain ⟨hvalid, rfl⟩ := Definition.PipelineDefinition.load_eq_ok_iff.1 h
    rw [Definition.PipelineDefinition.read_instances_ids]
    exact hvalid.instances_distinct
  | retain _ h ih => exact ih.sublist ((retain_instances h).map _)

/-- Every template of a loaded pipeline is read from a valid job. -/
theorem Loaded.exists_job (h : p.Loaded) {t : Template} (ht : t ∈ p.templates) :
    ∃ (j : Definition.JobDefinition) (timeout : Option Nat) (base : String),
      j.Valid ∧ j.read timeout base = t := by
  induction h with
  | @load base d _ h =>
    obtain ⟨hvalid, rfl⟩ := Definition.PipelineDefinition.load_eq_ok_iff.1 h
    obtain ⟨j, hj, rfl⟩ := List.mem_map.1 ht
    exact ⟨j, _, _, hvalid.jobs j hj, rfl⟩
  | retain _ h ih => exact ih ((retain_templates h).subset ht)

/-- Every job of a loaded pipeline has a step. -/
theorem Loaded.steps_ne_nil (h : p.Loaded) (hi : i ∈ p.instances) : i.template.steps ≠ [] := by
  obtain ⟨j, timeout, base, hvalid, hread⟩ := h.exists_job (mem_instances.1 hi).1
  rw [← hread]
  exact fun hnil => hvalid.steps_ne_nil (List.mapIdx_eq_nil_iff.1 hnil)

end Pipeline

/-! ## A small pipeline -/

namespace Small

open Definition

/-- A job with one command on two systems. -/
def job : JobDefinition where
  name := "test"
  axes := [(.text "os", .list [.text "bsd", .text "mac"])]
  condition := none
  env := ⟨[]⟩
  workingDirectory := none
  timeoutSecs := none
  steps := [⟨none, "make", true, none, ⟨[]⟩, none⟩]

def definition : PipelineDefinition where
  name := "small"
  description := none
  workingDirectory := none
  shell := none
  maxParallel := none
  defaultTimeoutSecs := none
  env := ⟨[]⟩
  jobs := [job]

def template : Template where
  name := "test"
  steps := [⟨"step 1", "make", true, none, ⟨[]⟩, none⟩]
  axes := [("os", ["bsd", "mac"])]
  condition := none
  env := ⟨[]⟩
  workingDirectory := none
  timeoutSecs := none

def pipeline : Pipeline where
  name := "small"
  templates := [template]
  env := ⟨[]⟩
  workingDirectory := "/w/."
  shell := none
  maxParallel := none

theorem loadJob_job : loadJob none "/w" job = .ok template := by cbv

theorem pipeline_loaded : pipeline.Loaded := by
  have hnames : firstRepeat? ([job].map (·.name)) = none := by
    rw [firstRepeat?_eq_none_iff]
    decide
  have hjobs : [job].mapM (loadJob none "/w") = .ok [template] := by
    rw [List.mapM_cons, loadJob_job]
    rfl
  have hids : firstRepeat? (([template].flatMap Template.expand).map Instance.id) = none := by
    rw [firstRepeat?_eq_none_iff]
    decide
  have hload : definition.load "/w" = .ok pipeline := by
    unfold PipelineDefinition.load
    rw [if_neg (by decide), if_neg (by decide), if_neg (by decide)]
    simp only [definition, hnames, hjobs, bind, Except.bind, hids]
    rfl
  exact .load hload

end Small

end JobMatrix
