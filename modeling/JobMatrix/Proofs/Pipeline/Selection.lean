import Mathlib.Data.List.Nodup
import JobMatrix.Definition.Source
import JobMatrix.Proofs.Definition.Bound

/-!
# Choosing jobs

To choose jobs of a pipeline by their names changes it as a whole or not at all. If no template has
one of the names, the first such name is the answer and the pipeline stays as it was. Otherwise the
templates with the names stay, in the order of the definition, and with them their instances and
their part of the plan. To choose them again changes nothing.
-/

namespace JobMatrix

namespace Pipeline

variable {p q : Pipeline} {names : List String}

/-! ## Choosing in place -/

/-- To look for templates changes nothing, also where one is missing. -/
theorem run_requireAll (names : List String) (p : Pipeline) :
    (requireAll names).run p =
      match names.find? fun name => (p.template? name).isNone with
      | some name => .error name p
      | none => .ok () p := by
  induction names with
  | nil => rfl
  | cons name names ih =>
    cases hname : p.template? name with
    | none => simp [requireAll, hname]
    | some t => simpa [requireAll, hname] using ih

/-- In place, a choice comes to the same pipeline, and a pipeline without one of the jobs stays. -/
theorem run_retainInPlace (names : List String) (p : Pipeline) :
    (retainInPlace names).run p =
      match p.retain names with
      | .error name => .error name p
      | .ok q => .ok () q := by
  rw [retainInPlace, EStateM.run_bind, run_requireAll, retain]
  cases names.find? fun name => (p.template? name).isNone <;> rfl

/-! ## What is missing -/

/-- A choice fails for the first of its names that no template has. -/
theorem retain_eq_error_iff {missing : String} :
    p.retain names = .error missing ↔ ∃ before after, names = before ++ missing :: after ∧
      (∀ name ∈ before, name ∈ p.templates.map Template.name) ∧
      missing ∉ p.templates.map Template.name := by
  have hfind : p.retain names = .error missing ↔
      names.find? (fun name => (p.template? name).isNone) = some missing := by
    unfold retain
    cases names.find? fun name => (p.template? name).isNone <;> simp
  rw [hfind, List.find?_eq_some_iff_append]
  simp only [isNone_template?_iff, Bool.not_eq_true', Bool.eq_false_iff, ne_eq, not_not]
  constructor
  · rintro ⟨hmissing, before, after, rfl, hbefore⟩
    exact ⟨before, after, rfl, hbefore, hmissing⟩
  · rintro ⟨before, after, rfl, hbefore, hmissing⟩
    exact ⟨hmissing, before, after, rfl, hbefore⟩

/-! ## What stays -/

/-- The jobs of a pipeline have different names. -/
theorem Loaded.nodup_names (h : p.Loaded) : (p.templates.map Template.name).Nodup := by
  induction h with
  | @load base d _ h =>
    obtain ⟨hvalid, rfl⟩ := Definition.PipelineDefinition.load_eq_ok_iff.1 h
    have hnames : (d.read base).templates.map Template.name =
        d.jobs.map Definition.JobDefinition.name := by
      simp only [Definition.PipelineDefinition.read, List.map_map]
      rfl
    rw [hnames]
    exact hvalid.jobs_distinct
  | retain _ h ih => exact ih.sublist ((retain_templates h).map _)

/-- What stays of a pipeline if some jobs are chosen by name. -/
structure IsSelection (p : Pipeline) (names : List String) (q : Pipeline) : Prop where
  mem_templates : ∀ t, t ∈ q.templates ↔ t ∈ p.templates ∧ t.name ∈ names
  /-- The templates stay in the order of the definition. -/
  inOrder : q.templates.Sublist p.templates
  /-- However often it is named, a template stays once. -/
  once : (q.templates.map Template.name).Nodup
  rest : { q with templates := p.templates } = p
  instances : q.instances = p.instances.filter (·.template ∈ q.templates)
  plan : q.plan = p.plan.filter (·.1.template ∈ q.templates)

/-- The instances of some templates are those that belong to them. -/
theorem flatMap_expand_filter (keep : Template → Bool) (templates : List Template) :
    (templates.filter keep).flatMap Template.expand =
      (templates.flatMap Template.expand).filter fun i => keep i.template := by
  induction templates with
  | nil => rfl
  | cons t templates ih =>
    have hexpand : t.expand.filter (fun i => keep i.template) =
        if keep t then t.expand else [] := by
      cases hkeep : keep t <;> simp [Template.expand, hkeep]
    rw [List.flatMap_cons, List.filter_append, hexpand, ← ih]
    cases hkeep : keep t <;> simp [hkeep]

theorem isSelection_of_retain (hp : p.Loaded) (h : p.retain names = .ok q) :
    p.IsSelection names q := by
  obtain ⟨-, hq⟩ := retain_eq_ok_iff.1 h
  have hmem : ∀ t, t ∈ q.templates ↔ t ∈ p.templates ∧ t.name ∈ names := by
    simp [← hq]
  have hinstances : q.instances = p.instances.filter (·.template ∈ q.templates) := by
    have hfilter := flatMap_expand_filter (fun t => names.contains t.name) p.templates
    rw [instances, ← congrArg templates hq, hfilter, instances]
    -- Templates of the old pipeline are in the new one exactly if they are named.
    refine List.filter_congr fun i hi => ?_
    simp [(mem_instances.1 hi).1]
  refine ⟨hmem, retain_templates h, (Loaded.retain hp h).nodup_names, ?_, hinstances, ?_⟩
  · rw [← hq]
  · rw [plan, hinstances, plan, List.filter_map]
    rfl

/-- To make the same choice again changes nothing. -/
theorem retain_retain (h : p.retain names = .ok q) : q.retain names = .ok q := by
  obtain ⟨hnames, hq⟩ := retain_eq_ok_iff.1 h
  rw [retain_eq_ok_iff, ← hq]
  refine ⟨fun name hname => ?_, ?_⟩
  · obtain ⟨t, ht, rfl⟩ := List.mem_map.1 (hnames name hname)
    exact List.mem_map_of_mem (List.mem_filter.2 ⟨ht, by simpa using hname⟩)
  · simp [List.filter_filter]

/-- Jobs are chosen by name all at once or not at all. If a name is missing, the first such name is the
answer and the pipeline stays as it was. Otherwise the named templates stay, each once and with all of
its instances and its part of the plan, and nothing else of the pipeline changes; to choose them again
changes nothing at all. -/
theorem retain_atomic (hp : p.Loaded) (names : List String) :
    (∃ before missing after, names = before ++ missing :: after ∧
      (∀ name ∈ before, name ∈ p.templates.map Template.name) ∧
      missing ∉ p.templates.map Template.name ∧
      p.retain names = .error missing ∧ (retainInPlace names).run p = .error missing p ∧
      Definition.retain names p = .error (.invalid (.unknownJob missing))) ∨
    (∀ name ∈ names, name ∈ p.templates.map Template.name) ∧
      ∃ q, p.retain names = .ok q ∧ (retainInPlace names).run p = .ok () q ∧
        p.IsSelection names q ∧ q.retain names = .ok q ∧ (retainInPlace names).run q = .ok () q := by
  cases hretain : p.retain names with
  | error missing =>
    obtain ⟨before, after, rfl, hbefore, hmissing⟩ := retain_eq_error_iff.1 hretain
    refine .inl ⟨before, missing, after, rfl, hbefore, hmissing, rfl, ?_, ?_⟩
    · rw [run_retainInPlace, hretain]
    · simp [Definition.retain, hretain]
  | ok q =>
    have hagain := retain_retain hretain
    refine .inr ⟨(retain_eq_ok_iff.1 hretain).1, q, rfl, ?_, isSelection_of_retain hp hretain,
      hagain, ?_⟩
    · rw [run_retainInPlace, hretain]
    · rw [run_retainInPlace, hagain]

end Pipeline

end JobMatrix

/-! ## A choice among three jobs -/

namespace JobMatrix.Small

open Definition

/-- The small definition with a guarded job and one more job like its own. -/
def tripleDefinition : PipelineDefinition :=
  { definition with jobs := [job, guardedJob, { job with name := "docs" }] }

theorem tripleDefinition_valid : tripleDefinition.Valid := by
  refine definition_valid (fun j hj => ?_) (by decide) (by decide)
  simp only [List.mem_cons, List.not_mem_nil, or_false] at hj
  rcases hj with rfl | rfl | rfl
  · exact job_valid
  · exact guardedJob_valid
  · exact { job_valid with name_not_blank := by decide }

theorem tripleDefinition_loaded : (tripleDefinition.read "/w").Loaded :=
  .load (PipelineDefinition.load_eq_ok_iff.2 ⟨tripleDefinition_valid, rfl⟩)

theorem retain_atomic_triple :
    let p := tripleDefinition.read "/w"
    (∃ q, (Pipeline.retainInPlace ["docs", "build", "docs"]).run p = .ok () q ∧
      p.IsSelection ["docs", "build", "docs"] q ∧ q.templates.map Template.name = ["build", "docs"] ∧
      q.instances.map Instance.id = ["build (os=bsd, rust=stable)", "build (os=bsd, rust=nightly)",
        "build (os=mac, rust=stable)", "build (os=mac, rust=nightly)", "docs (os=bsd)",
        "docs (os=mac)"]) ∧
    (Pipeline.retainInPlace ["docs", "deploy", "build", "release"]).run p = .error "deploy" p := by
  have hall : ∀ name ∈ ["docs", "build", "docs"],
      name ∈ (tripleDefinition.read "/w").templates.map Template.name := by decide
  refine ⟨?_, ?_⟩
  · obtain ⟨_, missing, _, hnames, -, hmissing, -⟩ | ⟨-, q, hretain, hrun, hselection, -⟩ :=
      Pipeline.retain_atomic tripleDefinition_loaded ["docs", "build", "docs"]
    · exact absurd (hall missing (hnames ▸ List.mem_append_right _ List.mem_cons_self)) hmissing
    · cases hretain
      exact ⟨_, hrun, hselection, by decide, by decide⟩
  · obtain ⟨_, missing, _, -, -, -, hretain, hrun, -⟩ | ⟨hfound, -⟩ :=
      Pipeline.retain_atomic tripleDefinition_loaded ["docs", "deploy", "build", "release"]
    · have hdeploy : (tripleDefinition.read "/w").retain ["docs", "deploy", "build", "release"] =
          .error "deploy" := by rfl
      obtain rfl : missing = "deploy" := Except.error.inj (hretain.symm.trans hdeploy)
      exact hrun
    · exact absurd (hfound "deploy" (by decide)) (by decide)

end JobMatrix.Small
