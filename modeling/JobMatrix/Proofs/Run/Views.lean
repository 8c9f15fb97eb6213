import JobMatrix.Proofs.Definition.Bound
import JobMatrix.Proofs.Job.Environment
import JobMatrix.Proofs.Run.Calls

/-!
# The views of an axis

Conditions and commands look an axis up by its name and take the first entry for it. The commands
of a job see every entry as a variable, and of entries for one variable the last. So the entry at a
position is what the first view shows if no axis before it has its name, and what the second shows
if no axis after it has its variable. Loading asks for neither: axes with different names may share
a variable, and keys of different kinds may share a name.
-/

namespace JobMatrix

/-! ## Conditions and commands -/

/-- Conditions and placeholders that read an axis read this value. -/
structure Binding.Reads (b : Binding) (axis value : String) : Prop where
  get? : b.get? axis = some value
  operand : (Operand.axis axis).eval b = value
  truthy : (Condition.truthy axis).eval b = Condition.isTrue value
  placeholder : (Placeholder.Segment.axis axis).render b = value.toList

theorem Binding.reads_of_get? {b : Binding} {axis value : String} (h : b.get? axis = some value) :
    b.Reads axis value where
  get? := h
  operand := by simp [Operand.eval, h]
  truthy := by simp [Condition.eval, h]
  placeholder := by simp [Placeholder.Segment.render, h]

/-- An entry that no earlier one hides is the one that is looked up. -/
theorem Binding.get?_of_getElem? {b : Binding} {n : Nat} {axis value : String}
    (h : b.entries[n]? = some (axis, value)) (hfirst : axis ∉ b.names.take n) :
    b.get? axis = some value := by
  have hbefore : (b.entries.take n).find? (·.1 == axis) = none := by
    rw [names, ← List.map_take] at hfirst
    simp only [List.find?_eq_none, beq_iff_eq]
    exact fun entry hmem heq => hfirst (List.mem_map.2 ⟨entry, hmem, heq⟩)
  rw [get?, eq_take_append_of_getElem? h, List.find?_append, hbefore]
  simp

/-! ## Variables -/

/-- The last entry for a variable gives its value. -/
theorem Binding.lastValue?_environment {b : Binding} {n : Nat} {axis value : String}
    (h : b.entries[n]? = some (axis, value))
    (hlast : variableName axis ∉ (b.names.drop (n + 1)).map variableName) :
    lastValue? b.environment (variableName axis) = some value := by
  have hentry : b.environment[n]? = some (variableName axis, value) := by
    simp [environment, h]
  refine lastValue?_of_getElem? hentry ?_
  simpa [environment, names, ← List.map_drop] using hlast

namespace Run

variable {s : Setup} {st : State} {actions : List Action} {k n : Nat} {i : Instance}
  {axis value : String}

/-- Every call of a job is the request of one of its steps. -/
theorem State.request_of_mem_callsOf (h : State.after s actions = some st)
    (hi : s.pipeline.instances[k]? = some i) {call : Call} (hcall : call ∈ callsOf k st.calls) :
    ∃ step path, i.template.steps[call.step]? = some step ∧
      call.request = i.request s.pipeline path step := by
  obtain ⟨phase, hjob⟩ := State.exists_job_of_after h hi
  obtain ⟨step, hstep, path, -, hrequest⟩ := (State.calls_of_after h hjob).asksFor call hcall
  exact ⟨step, path, hstep, hrequest⟩

/-- The entry at a position is that of the axis declared there. Conditions and placeholders read its
value if it is the first of its name, and the commands of the job see its value if it is the last of
its variable, unless a step sets the variable itself. -/
theorem State.axis_views (h : State.after s actions = some st)
    (hi : s.pipeline.instances[k]? = some i) (hentry : i.binding.entries[n]? = some (axis, value)) :
    i.template.axisNames[n]? = some axis ∧
      (axis ∉ i.template.axisNames.take n → i.binding.Reads axis value) ∧
      (Binding.variableName axis ∉
          (i.template.axisNames.drop (n + 1)).map Binding.variableName →
        ∀ call ∈ callsOf k st.calls, ∃ step, i.template.steps[call.step]? = some step ∧
          (step.env.get? (Binding.variableName axis) = none →
            call.request.env.get? (Binding.variableName axis) = some value)) := by
  have hnames : i.binding.names = i.template.axisNames :=
    Template.names_of_mem_bindings (Pipeline.mem_instances.1 (List.mem_of_getElem? hi)).2
  rw [← hnames]
  refine ⟨by simp [Binding.names, hentry], fun hfirst => ?_, fun hlast call hcall => ?_⟩
  · exact Binding.reads_of_get? (Binding.get?_of_getElem? hentry hfirst)
  · obtain ⟨step, path, hstep, hrequest⟩ := State.request_of_mem_callsOf h hi hcall
    refine ⟨step, hstep, fun hunset => ?_⟩
    have hnone : lastValue? step.env.entries (Binding.variableName axis) = none :=
      lastValue?_eq_none_iff.2 (Env.get?_eq_none_iff.1 hunset)
    rw [hrequest, Instance.get?_request, hnone, Instance.ownVariable?_variableName,
      Binding.lastValue?_environment hentry hlast]
    rfl

end Run

end JobMatrix

/-! ## Two axes with one variable -/

namespace JobMatrix.Small

open Definition Run Yaml

/-- A job with two axes whose names differ in a character that no variable has. -/
def clashingJob : JobDefinition where
  name := "build"
  axes := [(.text "a-b", .list [.text "x"]), (.text "a_b", .list [.text "y"])]
  condition := none
  env := ⟨[]⟩
  workingDirectory := none
  timeoutSecs := none
  steps := [⟨none, "make", false, none, ⟨[]⟩, none⟩]

def clashingDefinition : PipelineDefinition :=
  { definition with jobs := [clashingJob] }

def clashingSetup : Setup where
  runId := ⟨7⟩
  startedAt := ⟨0, 0⟩
  pipeline := clashingDefinition.read "/w"
  slots := 1

/-- The only job asks for its command. -/
def asked : List Action :=
  [.dispatch, .begin 0 (.ok "/tmp/0"), .decide 0]

theorem clashingJob_valid : clashingJob.Valid where
  name_not_blank := by decide
  steps_ne_nil := List.cons_ne_nil _ _
  axes := by
    intro axis haxis
    simp only [clashingJob, List.mem_cons, List.not_mem_nil, or_false] at haxis
    rcases haxis with rfl | rfl
    · exact validAxis_texts "a-b" ["x"] (by decide) (by decide) (by decide)
    · exact validAxis_texts "a_b" ["y"] (by decide) (by decide) (by decide)
  condition := validCondition_none _
  steps := by
    intro s hs
    obtain rfl := List.mem_singleton.1 hs
    exact ⟨by decide, by simp [axes_make], validCondition_none _, validEnv_empty⟩
  env := validEnv_empty

theorem clashing_loaded : clashingSetup.pipeline.Loaded := by
  have hvalid : clashingDefinition.Valid :=
    definition_valid (List.forall_mem_singleton.2 clashingJob_valid) (by decide) (by decide)
  have hload : clashingDefinition.load "/w" = .ok (clashingDefinition.read "/w") :=
    PipelineDefinition.load_eq_ok_iff.2 ⟨hvalid, rfl⟩
  exact .load hload

/-- The second of the axes with one variable is what commands see. -/
theorem axis_views_last : ∃ st i, State.after clashingSetup asked = some st ∧
    clashingSetup.pipeline.instances[0]? = some i ∧ i.binding.Reads "a_b" "y" ∧
    ∃ call ∈ callsOf 0 st.calls, call.request.env.get? "MATRIX_A_B" = some "y" := by
  have hafter : State.after clashingSetup asked = some _ := rfl
  obtain ⟨-, hreads, hsees⟩ := State.axis_views hafter (k := 0) (n := 1) rfl rfl
  refine ⟨_, _, hafter, rfl, hreads (by decide), _, List.mem_cons_self, ?_⟩
  obtain ⟨step, hstep, hvalue⟩ := hsees (by decide) _ List.mem_cons_self
  cases hstep
  exact hvalue rfl

/-- The first of them is hidden from commands: conditions read a value for it, and its variable has
another one, which no step has set. -/
theorem axis_views_clash : clashingSetup.pipeline.Loaded ∧ ∃ st i call step,
    State.after clashingSetup asked = some st ∧ clashingSetup.pipeline.instances[0]? = some i ∧
    i.binding.entries[0]? = some ("a-b", "x") ∧ i.binding.get? "a-b" = some "x" ∧
    callsOf 0 st.calls = [call] ∧ i.template.steps[call.step]? = some step ∧
    step.env.get? (Binding.variableName "a-b") = none ∧
    call.request.env.get? (Binding.variableName "a-b") = some "y" := by
  refine ⟨clashing_loaded, _, _, _, _, rfl, rfl, rfl, rfl, rfl, rfl, rfl, ?_⟩
  rw [Instance.get?_request]
  decide

end JobMatrix.Small
