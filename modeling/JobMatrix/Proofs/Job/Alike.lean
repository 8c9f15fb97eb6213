import JobMatrix.Proofs.Definition.Bound
import JobMatrix.Proofs.Job.Records

/-!
# Alike jobs

A condition reads no axes but those that it names, and a command none but those in its placeholders.
So two instances of a job are alike if their bindings give the axes that the job names the same values:
both run or neither does, and as long as their commands get the same replies they run the same steps
with the same commands. Axes that the job does not name may be there, be missing or differ.
-/

namespace JobMatrix

variable {b b' : Binding} {names more : List String}

/-! ## Agreeing bindings -/

namespace Binding

/-- Each of some axes has the same value in two bindings, or has none in both. -/
def AgreeOn (names : List String) (b b' : Binding) : Prop :=
  ∀ axis ∈ names, b.get? axis = b'.get? axis

instance (names : List String) (b b' : Binding) : Decidable (AgreeOn names b b') :=
  inferInstanceAs (Decidable (∀ axis ∈ names, b.get? axis = b'.get? axis))

theorem AgreeOn.symm (h : AgreeOn names b b') : AgreeOn names b' b :=
  fun axis haxis => (h axis haxis).symm

theorem AgreeOn.mono (h : AgreeOn more b b') (hsub : names ⊆ more) : AgreeOn names b b' :=
  fun axis haxis => h axis (hsub haxis)

/-- The entries for some axes, in their order. -/
def only (names : List String) (b : Binding) : List (String × String) :=
  b.entries.filter fun entry => entry.1 ∈ names

theorem get?_eq_find?_only {axis : String} (h : axis ∈ names) :
    b.get? axis = ((b.only names).find? (·.1 == axis)).map (·.2) := by
  rw [get?, only, List.find?_filter]
  congr 2
  funext entry
  by_cases hname : entry.1 = axis <;> simp [hname, h]

/-- Entries for other axes do not matter. -/
theorem agreeOn_of_only_eq (h : b.only names = b'.only names) : AgreeOn names b b' := by
  intro axis haxis
  rw [get?_eq_find?_only haxis, get?_eq_find?_only haxis, h]

end Binding

open Binding (AgreeOn)

/-! ## What is read of a binding -/

theorem Operand.eval_of_agreeOn {operand : Operand} (h : AgreeOn operand.axis?.toList b b') :
    operand.eval b = operand.eval b' := by
  cases operand with
  | axis name => rw [eval, eval, h name List.mem_cons_self]
  | value text => rfl

theorem Condition.eval_of_agreeOn {c : Condition} (h : AgreeOn c.axes b b') :
    c.eval b = c.eval b' := by
  induction c with
  | literal holds => rfl
  | truthy axis => rw [eval, eval, h axis List.mem_cons_self]
  | compare left comparison right =>
    have hleft := Operand.eval_of_agreeOn (h.mono (List.subset_append_left _ _))
    have hright := Operand.eval_of_agreeOn (h.mono (List.subset_append_right _ _))
    rw [eval, eval, hleft, hright]
  | not inner ih => rw [eval, eval, ih h]
  | and left right ihleft ihright | or left right ihleft ihright =>
    have hleft := ihleft (h.mono (List.subset_append_left _ _))
    have hright := ihright (h.mono (List.subset_append_right _ _))
    rw [eval, eval, hleft, hright]

theorem Condition.allows_of_agreeOn {condition : Option Condition}
    (h : AgreeOn (condition.toList.flatMap axes) b b') :
    allows condition b = allows condition b' := by
  cases condition with
  | none => rfl
  | some c => exact eval_of_agreeOn (by simpa using h)

theorem Placeholder.render_of_agreeOn {command : String} (h : AgreeOn (axes command) b b') :
    render command b = render command b' := by
  have hsegment : ∀ segment ∈ segments command.toList, segment.render b = segment.render b' := by
    intro segment hsegment
    cases segment with
    | char c => rfl
    | axis name =>
      have hname : name ∈ axes command := List.mem_filterMap.2 ⟨_, hsegment, rfl⟩
      rw [Segment.render, Segment.render, h name hname]
  rw [render, render, List.flatMap_congr hsegment]

/-! ## Alike instances -/

/-- Two instances of one job whose bindings agree on the axes that the job names. Their templates may
declare other axes. -/
structure Instance.Alike (i i' : Instance) : Prop where
  template : i'.template = { i.template with axes := i'.template.axes }
  binding : AgreeOn i.template.namedAxes i.binding i'.binding

namespace Instance.Alike

variable {i i' : Instance} {step : Step} {done todo : List Step} {records : List StepRecord}
  {given : List Reply} {failure : Option JobFailure} {progress : Progress}

theorem steps (h : i.Alike i') : i'.template.steps = i.template.steps := by
  rw [h.template]

theorem symm (h : i.Alike i') : i'.Alike i where
  template := by rw [h.template]
  binding := by
    rw [h.template]
    exact h.binding.symm

theorem willRun (h : i.Alike i') : i.willRun = i'.willRun := by
  rw [Instance.willRun, Instance.willRun, h.template]
  exact Condition.allows_of_agreeOn (h.binding.mono (List.subset_append_left _ _))

/-- The bindings agree on what a step names. -/
theorem agreeOn_step (h : i.Alike i') (hstep : step ∈ i.template.steps) :
    AgreeOn step.namedAxes i.binding i'.binding :=
  h.binding.mono fun _ haxis => List.mem_append_right _ (List.mem_flatMap.2 ⟨step, hstep, haxis⟩)

theorem allows (h : i.Alike i') (hstep : step ∈ i.template.steps) :
    Condition.allows step.condition i.binding = Condition.allows step.condition i'.binding :=
  Condition.allows_of_agreeOn ((h.agreeOn_step hstep).mono (List.subset_append_left _ _))

theorem render (h : i.Alike i') (hstep : step ∈ i.template.steps) :
    i.render step = i'.render step :=
  Placeholder.render_of_agreeOn ((h.agreeOn_step hstep).mono (List.subset_append_right _ _))

/-- A reply means the same for both. -/
theorem judge (h : i.Alike i') (hstep : step ∈ i.template.steps) (n : Nat) (reply : Reply) :
    i.judge n step reply = i'.judge n step reply := by
  have htimeout : i.timeout step = i'.timeout step := by
    rw [Instance.timeout, Instance.timeout, h.template]
  have houtcome (t : Termination) : i.outcome step t = i'.outcome step t := by
    unfold Instance.outcome
    rw [htimeout]
  cases reply <;> simp only [Instance.judge, h.render hstep, houtcome]

/-- With the same replies, both leave the same records of the steps they have done. -/
theorem took (h : i.Alike i') (htook : i.Took done records given)
    (hsteps : i.template.steps = done ++ todo) : i'.Took done records given := by
  -- The steps to do grow as the steps done are taken apart, so that all of them stay the template's.
  induction htook generalizing todo with
  | nil => exact .nil
  | @pass done records given step _ hcond ih =>
    have hstep : step ∈ i.template.steps := by simp [hsteps]
    have hbefore := ih (hsteps.trans (List.append_assoc done [step] todo))
    rw [h.render hstep]
    exact .pass hbefore (h.allows hstep ▸ hcond)
  | @run done records given step reply record _ hcond hjudge ih =>
    have hstep : step ∈ i.template.steps := by simp [hsteps]
    have hbefore := ih (hsteps.trans (List.append_assoc done [step] todo))
    exact .run hbefore (h.allows hstep ▸ hcond) (h.judge hstep _ _ ▸ hjudge)

theorem ends (h : i.Alike i') (hends : i.Ends records given failure) :
    i'.Ends records given failure := by
  cases hends with
  | finished htook =>
    have hall := h.took htook (List.append_nil _).symm
    exact .finished (h.steps ▸ hall)
  | stopped hsteps htook => exact .stopped (h.steps.trans hsteps) (h.took htook hsteps)
  | @failed done _ _ step _ _ _ _ hsteps htook hcond hjudge =>
    have hstep : step ∈ i.template.steps := by simp [hsteps]
    exact .failed (h.steps.trans hsteps) (h.took htook hsteps) (h.allows hstep ▸ hcond)
      (h.judge hstep _ _ ▸ hjudge)

/-- With the same replies, the one gets wherever the other does. -/
theorem reached (h : i.Alike i') (hreached : i.Reached given progress) :
    i'.Reached given progress := by
  cases progress with
  | ready records todo =>
    obtain ⟨done, hsteps, htook⟩ := hreached
    exact ⟨done, h.steps.trans hsteps, h.took htook hsteps⟩
  | running records step todo =>
    obtain ⟨done, hsteps, htook, hcond⟩ := hreached
    have hstep : step ∈ i.template.steps := by simp [hsteps]
    exact ⟨done, h.steps.trans hsteps, h.took htook hsteps, h.allows hstep ▸ hcond⟩
  | «over» records failure => exact h.ends hreached

end Instance.Alike

/-- The axes that a condition or a command names are all that it reads, and entries for other axes do
not keep bindings from agreeing on them. So instances of a job that are alike both run or neither does,
agree on which steps to run with which commands, and with the same replies get equally far with the
same records. -/
theorem named_axes_suffice :
    (∀ (c : Condition) (b b' : Binding), AgreeOn c.axes b b' → c.eval b = c.eval b') ∧
      (∀ (command : String) (b b' : Binding), AgreeOn (Placeholder.axes command) b b' →
        Placeholder.render command b = Placeholder.render command b') ∧
      (∀ (names : List String) (b b' : Binding), b.only names = b'.only names →
        AgreeOn names b b') ∧
      ∀ i i' : Instance, i.Alike i' →
        i.willRun = i'.willRun ∧
        (∀ step ∈ i.template.steps,
          Condition.allows step.condition i.binding = Condition.allows step.condition i'.binding ∧
            i.render step = i'.render step) ∧
        ∀ given progress, i.Reached given progress ↔ i'.Reached given progress := by
  refine ⟨fun c b b' h => Condition.eval_of_agreeOn h,
    fun command b b' h => Placeholder.render_of_agreeOn h,
    fun names b b' h => Binding.agreeOn_of_only_eq h, fun i i' h => ?_⟩
  exact ⟨h.willRun, fun step hstep => ⟨h.allows hstep, h.render hstep⟩,
    fun given progress => ⟨h.reached, h.symm.reached⟩⟩

end JobMatrix

/-! ## A job with one more axis -/

namespace JobMatrix.Small

/-- A step that names an axis in its condition and another one in its command. -/
def guardedStep : Step :=
  ⟨"step 1", "cargo +${{ matrix.rust }}", false, some (.not (.truthy "nightly")), ⟨[]⟩, none⟩

def onMac : Condition := .compare (.axis "os") .equal (.value "mac")

def narrow : Instance where
  template := { template with condition := some onMac, steps := [guardedStep] }
  binding := ⟨[("os", "mac"), ("rust", "stable")]⟩

/-- The same job with an axis in front that it does not name. -/
def wide : Instance where
  template := { narrow.template with axes := ("arch", ["arm"]) :: narrow.template.axes }
  binding := ⟨[("arch", "arm"), ("os", "mac"), ("rust", "stable")]⟩

theorem named_axes_suffice_wide :
    onMac.eval narrow.binding = onMac.eval ⟨[("os", "mac"), ("os", "bsd")]⟩ ∧
      Placeholder.render guardedStep.command narrow.binding =
        Placeholder.render guardedStep.command wide.binding ∧
      narrow.Alike wide ∧ narrow.willRun = wide.willRun ∧
      wide.Reached [] (.running [] guardedStep []) := by
  obtain ⟨hcondition, hcommand, hentries, halike⟩ := named_axes_suffice
  have hagree : Binding.AgreeOn ["os", "rust", "nightly"] narrow.binding wide.binding :=
    hentries _ _ _ (by decide)
  have haxes : Placeholder.axes guardedStep.command ⊆ ["os", "rust", "nightly"] := by decide +kernel
  have hnamed : narrow.template.namedAxes ⊆ ["os", "rust", "nightly"] := by decide +kernel
  have h : narrow.Alike wide := ⟨rfl, hagree.mono hnamed⟩
  obtain ⟨hrun, -, hreached⟩ := halike _ _ h
  refine ⟨hcondition _ _ _ (by decide), hcommand _ _ _ (hagree.mono haxes), h, hrun, ?_⟩
  exact (hreached _ _).1 ⟨[], rfl, .nil, by decide⟩

end JobMatrix.Small
