import JobMatrix.Proofs.Definition.Loaded

/-!
# Bound axes

An axis without a value reads as the empty text in a condition and leaves no text in a command. In
a loaded pipeline that never happens: a binding has one entry for each axis of its template, and a
valid job names no other axes. Said without the axes that are named, a reading that stops at the
first axis without a value always comes to its end, and to the same result.
-/

namespace JobMatrix

/-! ## Reading without a fallback -/

namespace Operand

/-- The text an operand stands for, if its axis has a value. -/
def eval? (b : Binding) : Operand → Option String
  | .axis name => b.get? name
  | .value text => some text

end Operand

namespace Condition

/-- Whether the condition holds, if every axis that it reads has a value. -/
def eval? (b : Binding) : Condition → Option Bool
  | .literal holds => some holds
  | .truthy axis => (b.get? axis).map isTrue
  | .compare left comparison right => do
    return comparison.holds (← left.eval? b) (← right.eval? b)
  | .not inner => (inner.eval? b).map (!·)
  | .and left right => do return (← left.eval? b) && (← right.eval? b)
  | .or left right => do return (← left.eval? b) || (← right.eval? b)

/-- Whether something guarded by an optional condition runs, if every axis that the condition reads
has a value. -/
def allows? (condition : Option Condition) (b : Binding) : Option Bool :=
  match condition with
  | none => some true
  | some c => c.eval? b

end Condition

namespace Placeholder

/-- A segment under a binding, if its axis has a value. -/
def Segment.render? (b : Binding) : Segment → Option (List Char)
  | .char c => some [c]
  | .axis name => (b.get? name).map String.toList

/-- The command with its placeholders replaced, if every axis in them has a value. -/
def render? (command : String) (b : Binding) : Option String :=
  ((segments command.toList).mapM (Segment.render? b)).map fun parts => String.ofList parts.flatten

end Placeholder

/-! ## Readings that need no fallback -/

variable {b : Binding}

/-- The names of the entries of a binding. -/
def Binding.names (b : Binding) : List String :=
  b.entries.map (·.1)

theorem Binding.exists_get?_iff {axis : String} :
    (∃ value, b.get? axis = some value) ↔ axis ∈ b.names := by
  rw [← Option.isSome_iff_exists]
  simp [get?, names]

theorem Operand.eval?_eq {operand : Operand}
    (h : ∀ axis ∈ operand.axis?.toList, axis ∈ b.names) :
    operand.eval? b = some (operand.eval b) := by
  cases operand with
  | axis name =>
    obtain ⟨value, hvalue⟩ := Binding.exists_get?_iff.2 (h name List.mem_cons_self)
    simp [eval?, eval, hvalue]
  | value text => rfl

theorem Condition.eval?_eq {c : Condition} (h : ∀ axis ∈ c.axes, axis ∈ b.names) :
    c.eval? b = some (c.eval b) := by
  induction c with
  | literal holds => rfl
  | truthy axis =>
    obtain ⟨value, hvalue⟩ := Binding.exists_get?_iff.2 (h axis List.mem_cons_self)
    simp [eval?, eval, hvalue]
  | compare left comparison right =>
    have hleft := Operand.eval?_eq fun axis ha => h axis (List.mem_append_left _ ha)
    have hright := Operand.eval?_eq fun axis ha => h axis (List.mem_append_right _ ha)
    simp [eval?, eval, hleft, hright]
  | not inner ih => simp [eval?, eval, ih h]
  | and left right ihleft ihright | or left right ihleft ihright =>
    have hleft := ihleft fun axis ha => h axis (List.mem_append_left _ ha)
    have hright := ihright fun axis ha => h axis (List.mem_append_right _ ha)
    simp [eval?, eval, hleft, hright]

theorem Condition.allows?_eq {condition : Option Condition}
    (h : ∀ c, condition = some c → ∀ axis ∈ c.axes, axis ∈ b.names) :
    allows? condition b = some (allows condition b) := by
  cases condition with
  | none => rfl
  | some c => exact eval?_eq (h c rfl)

theorem Placeholder.mapM_render?_eq {segments : List Segment}
    (h : ∀ axis ∈ segments.filterMap Segment.axis?, axis ∈ b.names) :
    segments.mapM (Segment.render? b) = some (segments.map (Segment.render b)) := by
  induction segments with
  | nil => rfl
  | cons segment segments ih =>
    cases segment with
    | char c =>
      have hrest := ih h
      simp [Segment.render?, Segment.render, hrest]
    | axis name =>
      simp only [List.filterMap_cons, Segment.axis?, List.forall_mem_cons] at h
      obtain ⟨value, hvalue⟩ := Binding.exists_get?_iff.2 h.1
      have hrest := ih h.2
      simp [Segment.render?, Segment.render, hvalue, hrest]

theorem Placeholder.render?_eq {command : String} (h : ∀ axis ∈ axes command, axis ∈ b.names) :
    render? command b = some (render command b) := by
  rw [render?, mapM_render?_eq h, Option.map_some, render, List.flatMap_def]

/-! ## Bindings of a template -/

/-- Entries pick a value for each of some axes, in their order. -/
def Picks (entries : List (String × String)) (axes : List (String × List String)) : Prop :=
  List.Forall₂ (fun entry axis => entry.1 = axis.1 ∧ entry.2 ∈ axis.2) entries axes

theorem Template.picks_of_mem_bindingsFrom {b b' : Binding} {axes : List (String × List String)}
    (h : b' ∈ bindingsFrom b axes) :
    ∃ entries, b'.entries = b.entries ++ entries ∧ Picks entries axes := by
  induction axes generalizing b with
  | nil =>
    obtain rfl := List.mem_singleton.1 h
    exact ⟨[], by rw [List.append_nil], .nil⟩
  | cons axis axes ih =>
    obtain ⟨value, hvalue, hrest⟩ := List.mem_flatMap.1 h
    obtain ⟨entries, hentries, hpicks⟩ := ih hrest
    exact ⟨(axis.1, value) :: entries, by simpa [Binding.push] using hentries,
      .cons ⟨rfl, hvalue⟩ hpicks⟩

theorem Template.picks_of_mem_bindings {t : Template} (h : b ∈ t.bindings) :
    Picks b.entries t.axes := by
  obtain ⟨entries, hentries, hpicks⟩ := picks_of_mem_bindingsFrom h
  rw [hentries]
  exact hpicks

theorem Picks.names_eq {entries : List (String × String)} {axes : List (String × List String)}
    (h : Picks entries axes) : entries.map (·.1) = axes.map (·.1) := by
  induction h with
  | nil => rfl
  | cons hhead _ ih => rw [List.map_cons, List.map_cons, hhead.1, ih]

/-- A binding lists the axes of its template in their order. -/
theorem Template.names_of_mem_bindings {t : Template} (h : b ∈ t.bindings) :
    b.names = t.axisNames :=
  (picks_of_mem_bindings h).names_eq

/-! ## The axes that a job names -/

/-- The axes that a step names, in its condition and in its command. -/
def Step.namedAxes (step : Step) : List String :=
  step.condition.toList.flatMap Condition.axes ++ Placeholder.axes step.command

/-- The axes that a job names. -/
def Template.namedAxes (t : Template) : List String :=
  t.condition.toList.flatMap Condition.axes ++ t.steps.flatMap Step.namedAxes

namespace Definition

theorem ValidCondition.axes_mem {axes : List String} {source : Option String}
    (h : ValidCondition axes source) {c : Condition} (hc : parsed source = some c) :
    ∀ axis ∈ c.axes, axis ∈ axes := by
  obtain ⟨text, rfl, hparsed⟩ := Option.bind_eq_some_iff.1 hc
  obtain ⟨condition, hparse, haxes⟩ := h text rfl
  rw [hparse] at hparsed
  cases hparsed
  exact haxes

theorem StepDefinition.Valid.namedAxes_mem {axes : List String} {s : StepDefinition}
    (h : s.Valid axes) (index : Nat) : ∀ axis ∈ (s.read index).namedAxes, axis ∈ axes := by
  intro axis haxis
  rcases List.mem_append.1 haxis with hcondition | hcommand
  · obtain ⟨c, hc, haxis⟩ := List.mem_flatMap.1 hcondition
    exact h.condition.axes_mem (Option.mem_toList.1 hc) axis haxis
  · exact h.placeholders axis hcommand

/-- A valid job names only its own axes. -/
theorem JobDefinition.Valid.namedAxes_mem {j : JobDefinition} (h : j.Valid)
    (timeout : Option Nat) (base : String) :
    ∀ axis ∈ (j.read timeout base).namedAxes, axis ∈ (j.read timeout base).axisNames := by
  have hnames : (j.read timeout base).axisNames = j.axisNames := j.axisNames_eq
  intro axis haxis
  rw [hnames]
  rcases List.mem_append.1 haxis with hcondition | hsteps
  · obtain ⟨c, hc, haxis⟩ := List.mem_flatMap.1 hcondition
    exact h.condition.axes_mem (Option.mem_toList.1 hc) axis haxis
  · obtain ⟨step, hstep, haxis⟩ := List.mem_flatMap.1 hsteps
    obtain ⟨index, hindex, rfl⟩ := List.mem_mapIdx.1 hstep
    exact (h.steps _ (List.getElem_mem hindex)).namedAxes_mem index axis haxis

end Definition

namespace Pipeline

variable {p : Pipeline} {i : Instance}

/-- Every axis that a job of a loaded pipeline names has an entry in the binding of its instances. -/
theorem Loaded.named_mem_names (h : p.Loaded) (hi : i ∈ p.instances) {axis : String}
    (haxis : axis ∈ i.template.namedAxes) : axis ∈ i.binding.names := by
  obtain ⟨htemplate, hbinding⟩ := mem_instances.1 hi
  obtain ⟨j, timeout, base, hvalid, hread⟩ := h.exists_job htemplate
  rw [Template.names_of_mem_bindings hbinding, ← hread]
  exact hvalid.namedAxes_mem timeout base axis (hread ▸ haxis)

/-- In a loaded pipeline no two instances have the same identity, a binding lists the axes of its
template, and every axis that a job names has a value: conditions and commands are read without a
fallback. -/
theorem Loaded.axes_bound (h : p.Loaded) :
    (p.instances.map Instance.id).Nodup ∧
      ∀ i ∈ p.instances,
        i.binding.names = i.template.axisNames ∧
        (∀ axis ∈ i.template.namedAxes, ∃ value, i.binding.get? axis = some value) ∧
        Condition.allows? i.template.condition i.binding = some i.willRun ∧
        ∀ step ∈ i.template.steps,
          Condition.allows? step.condition i.binding =
              some (Condition.allows step.condition i.binding) ∧
            Placeholder.render? step.command i.binding = some (i.render step) := by
  refine ⟨h.nodup_ids, fun i hi => ?_⟩
  have hnamed : ∀ axis ∈ i.template.namedAxes, axis ∈ i.binding.names :=
    fun axis haxis => h.named_mem_names hi haxis
  refine ⟨Template.names_of_mem_bindings (mem_instances.1 hi).2,
    fun axis haxis => Binding.exists_get?_iff.2 (hnamed axis haxis), ?_, fun step hstep => ⟨?_, ?_⟩⟩
  · refine Condition.allows?_eq fun c hc axis haxis => hnamed axis (List.mem_append_left _ ?_)
    exact List.mem_flatMap.2 ⟨c, Option.mem_toList.2 hc, haxis⟩
  · refine Condition.allows?_eq fun c hc axis haxis => hnamed axis (List.mem_append_right _ ?_)
    refine List.mem_flatMap.2 ⟨step, hstep, List.mem_append_left _ ?_⟩
    exact List.mem_flatMap.2 ⟨c, Option.mem_toList.2 hc, haxis⟩
  · refine Placeholder.render?_eq fun axis haxis => hnamed axis (List.mem_append_right _ ?_)
    exact List.mem_flatMap.2 ⟨step, hstep, List.mem_append_right _ haxis⟩

end Pipeline

end JobMatrix

/-! ## A choice among guarded jobs -/

namespace JobMatrix.Small

open Condition Definition Yaml

/-- A job for two systems and two toolchains that names its axes in a condition, in the condition of
a step and in a command. -/
def guardedJob : JobDefinition where
  name := "build"
  axes := [(.text "os", .list [.text "bsd", .text "mac"]),
    (.text "rust", .tagged "!pinned" (.list [.text "stable", .text "nightly"]))]
  condition := some "matrix.os == 'mac' || matrix.rust != 'nightly'"
  env := ⟨[]⟩
  workingDirectory := none
  timeoutSecs := none
  steps := [⟨none, "cargo +${{ matrix.rust }}", false, some "!(matrix.os == 'bsd')", ⟨[]⟩, none⟩]

/-- The small pipeline with a guarded job beside its own. -/
def guardedDefinition : PipelineDefinition :=
  { definition with jobs := [job, guardedJob] }

/-- The small pipeline with only the guarded job. -/
def guardedPipeline : Pipeline :=
  { guardedDefinition.read "/w" with templates := [guardedJob.read none "/w"] }

theorem scan_stepGuard : Condition.Token.scan "!(matrix.os == 'bsd')" =
    .ok [.not, .open, .word "matrix.os", .equal, .quoted "bsd", .close] := by decide +kernel

theorem parse_stepGuard : Condition.parse "!(matrix.os == 'bsd')" =
    .ok (.not (.compare (.axis "os") .equal (.value "bsd"))) := by
  have haxis : axisName "matrix.os" = "os" := by decide
  rw [Condition.parse, scan_stepGuard]
  simp [ofTokens, parseOr, parseOrTail, parseAnd, parseAndTail, parseUnary, parsePrimary,
    parseComparison, comparison?, Parsed.widen, Except.map, haxis]

theorem scan_jobGuard : Condition.Token.scan "matrix.os == 'mac' || matrix.rust != 'nightly'" =
    .ok [.word "matrix.os", .equal, .quoted "mac", .or, .word "matrix.rust", .different,
      .quoted "nightly"] := by decide +kernel

theorem parse_jobGuard : Condition.parse "matrix.os == 'mac' || matrix.rust != 'nightly'" =
    .ok (.or (.compare (.axis "os") .equal (.value "mac"))
      (.compare (.axis "rust") .different (.value "nightly"))) := by
  have hos : axisName "matrix.os" = "os" := by decide
  have hrust : axisName "matrix.rust" = "rust" := by decide
  rw [Condition.parse, scan_jobGuard]
  simp [ofTokens, parseOr, parseOrTail, parseAnd, parseAndTail, parseUnary, parsePrimary,
    parseComparison, comparison?, Parsed.widen, Except.map, hos, hrust]

theorem axes_guardedCommand : Placeholder.axes "cargo +${{ matrix.rust }}" = ["rust"] := by
  decide +kernel

theorem axes_make : Placeholder.axes "make" = [] := by decide +kernel

theorem job_valid : job.Valid where
  name_not_blank := by decide
  steps_ne_nil := List.cons_ne_nil _ _
  axes := by
    intro axis haxis
    obtain rfl := List.mem_singleton.1 haxis
    exact validAxis_texts "os" ["bsd", "mac"] (by decide) (by decide) (by decide)
  condition := validCondition_none _
  steps := by
    intro s hs
    obtain rfl := List.mem_singleton.1 hs
    exact ⟨by decide, by simp [axes_make], validCondition_none _, validEnv_empty⟩
  env := validEnv_empty

theorem guardedJob_valid : guardedJob.Valid where
  name_not_blank := by decide
  steps_ne_nil := List.cons_ne_nil _ _
  axes := by
    intro axis haxis
    simp only [guardedJob, List.mem_cons, List.not_mem_nil, or_false] at haxis
    rcases haxis with rfl | rfl
    · exact validAxis_texts "os" ["bsd", "mac"] (by decide) (by decide) (by decide)
    · exact ⟨trivial, by decide, _, .tagged _ (.list _), by simp, by simp [Value.IsScalar], by decide⟩
  condition := by
    rintro text ⟨⟩
    exact ⟨_, parse_jobGuard, by decide⟩
  steps := by
    intro s hs
    obtain rfl := List.mem_singleton.1 hs
    refine ⟨by decide, ?_, ?_, validEnv_empty⟩
    · rw [axes_guardedCommand]
      decide
    · rintro text ⟨⟩
      exact ⟨_, parse_stepGuard, by decide⟩
  env := validEnv_empty

/-- The small definition with other jobs is valid if the jobs are. -/
theorem definition_valid {jobs : List JobDefinition} (hjobs : ∀ j ∈ jobs, j.Valid)
    (hnames : (jobs.map JobDefinition.name).Nodup)
    (hids : (jobs.flatMap JobDefinition.instanceIds).Nodup) :
    PipelineDefinition.Valid { definition with jobs } where
  name_not_blank := (by decide : Text.isBlankText definition.name = false)
  maxParallel_ne_zero := by simp [definition]
  shell := by simp [definition]
  jobs_distinct := hnames
  jobs := hjobs
  instances_distinct := hids
  env := validEnv_empty

theorem guardedDefinition_valid : guardedDefinition.Valid := by
  refine definition_valid (fun j hj => ?_) (by decide) (by decide)
  simp only [List.mem_cons, List.not_mem_nil, or_false] at hj
  rcases hj with rfl | rfl
  · exact job_valid
  · exact guardedJob_valid

theorem guardedPipeline_loaded : guardedPipeline.Loaded := by
  have hload : guardedDefinition.load "/w" = .ok (guardedDefinition.read "/w") :=
    PipelineDefinition.load_eq_ok_iff.2 ⟨guardedDefinition_valid, rfl⟩
  have hretain : (guardedDefinition.read "/w").retain ["build"] = .ok guardedPipeline := by rfl
  exact .retain (.load hload) hretain

theorem axes_bound_guarded :
    guardedPipeline.instances.map Instance.id =
        ["build (os=bsd, rust=stable)", "build (os=bsd, rust=nightly)",
          "build (os=mac, rust=stable)", "build (os=mac, rust=nightly)"] ∧
      ∀ i ∈ guardedPipeline.instances, i.binding.names = ["os", "rust"] ∧
        (∃ value, i.binding.get? "rust" = some value) ∧
        Condition.allows? i.template.condition i.binding = some i.willRun := by
  obtain ⟨-, hbound⟩ := Pipeline.Loaded.axes_bound guardedPipeline_loaded
  refine ⟨by decide, fun i hi => ?_⟩
  obtain ⟨hnames, hvalues, hallows, -⟩ := hbound i hi
  have htemplate : i.template = guardedJob.read none "/w" :=
    List.mem_singleton.1 (Pipeline.mem_instances.1 hi).1
  have hnamed : "rust" ∈ i.template.namedAxes := by
    rw [htemplate]
    refine List.mem_append_right _ (List.mem_flatMap.2 ⟨_, List.mem_cons_self, ?_⟩)
    refine List.mem_append_right _ ?_
    change "rust" ∈ Placeholder.axes "cargo +${{ matrix.rust }}"
    rw [axes_guardedCommand]
    exact List.mem_cons_self
  rw [htemplate] at hnames
  exact ⟨hnames, hvalues "rust" hnamed, hallows⟩

end JobMatrix.Small
