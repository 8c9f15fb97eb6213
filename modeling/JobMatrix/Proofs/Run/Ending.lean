import Mathlib
import JobMatrix.Proofs.Run.Capacity

/-!
# Runs that end

A run ends whatever it is given from outside, be it a workspace, a reply or a cancellation: there is
only so much work in it, and until it can end it has something to do, or waits for something that
may turn out in any way.
-/

namespace JobMatrix

namespace Run

variable {s : Setup} {st st' : State} {a : Action} {actions : List Action} {k : Nat} {i : Instance}
  {phase phase' : Phase} {events : List Event} {calls : List Call}

/-! ## Only so much work -/

instance : DecidablePred Action.Works
  | .cancel | .pass _ | .complete => .isFalse id
  | .dispatch | .begin .. | .decide _ | .answer .. | .abort _ | .release _ | .publish _ | .collect =>
    .isTrue trivial

theorem Move.works (h : Move s st k i phase a phase' events calls) : a.Works := by
  cases h <;> trivial

theorem Step.weight_le (h : Step s st a st') : st'.weight + [a].countP (·.Works) ≤ st.weight := by
  by_cases ha : a.Works
  · have hcount : [a].countP (·.Works) = 1 := by simp [ha]
    have hless := h.weight_lt ha
    omega
  · cases h with
    | move _ hmove _ _ => exact absurd hmove.works ha
    | collect _ => exact absurd trivial ha
    | cancel | pass _ | complete _ _ _ => exact Nat.le_refl _

theorem State.weight_start : (State.start s).weight =
    (s.pipeline.instances.map fun i => 4 * i.template.steps.length + 9).sum := by
  have hwork : ∀ instances : List Instance, workOf (instances.map (⟨·, .waiting⟩)) =
      (instances.map fun i => 4 * i.template.steps.length + 9).sum := by
    intro instances
    induction instances with
    | nil => rfl
    | cons i instances ih => simp [workOf, Phase.weight, ih]
  exact hwork _

/-- A run has a number of actions that bring it forward, at most. -/
theorem State.works_le (h : State.after s actions = some st) :
    st.weight + actions.countP (·.Works) ≤
      (s.pipeline.instances.map fun i => 4 * i.template.steps.length + 9).sum := by
  rw [← State.weight_start]
  refine State.after_induction
    (P := fun actions st => st.weight + actions.countP (·.Works) ≤ (State.start s).weight) ?_ ?_ h
  · exact Nat.le_refl _
  · intro actions st a st' _ ih hstep
    have hle := hstep.weight_le
    rw [List.countP_append]
    omega

/-! ## Always something to do -/

/-- An action that needs nothing from outside and does not end a task. -/
def Action.IsOwn : Action → Prop
  | .dispatch | .decide _ | .release _ | .publish _ | .collect => True
  | _ => False

/-- A run has something to do, or it waits for a workspace or a reply and goes on with any. -/
inductive State.GoesOn (s : Setup) (st : State) : Prop
  | own {a : Action} (hown : a.IsOwn) (hpossible : (st.apply s a).isSome = true)
  | workspace {k : Nat}
      (hpossible : ∀ workspace, (st.apply s (.begin k workspace)).isSome = true)
  | reply {k : Nat} (hpossible : ∀ reply, (st.apply s (.answer k reply)).isSome = true)

theorem State.begin_of_isSome {workspace : Except String String}
    (h : (st.apply s (.begin k workspace)).isSome = true) (other : Except String String) :
    (st.apply s (.begin k other)).isSome = true := by
  obtain ⟨st', h⟩ := Option.isSome_iff_exists.1 h
  obtain ⟨⟨i, phase⟩, hjob, h⟩ := Option.bind_eq_some_iff.1 h
  cases phase with
  | spawned => exact State.isSome_begin hjob other
  | _ => cases workspace <;> cases h

/-- The job at a position waits for the answer to a command. -/
def State.HasCommand (st : State) (k : Nat) : Prop :=
  ∃ job, st.jobs[k]? = some job ∧ job.phase.hasCommand = true

theorem State.HasCommand.isSome_answer (h : st.HasCommand k) (reply : Reply) :
    (st.apply s (.answer k reply)).isSome = true := by
  obtain ⟨⟨i, phase⟩, hjob, hcommand⟩ := h
  cases phase with
  | working t path progress =>
    cases progress with
    | running records step todo => exact State.isSome_answer hjob reply
    | _ => cases hcommand
  | _ => cases hcommand

theorem State.hasCommand_of_isSome {reply : Reply}
    (h : (st.apply s (.answer k reply)).isSome = true) : st.HasCommand k := by
  obtain ⟨st', h⟩ := Option.isSome_iff_exists.1 h
  obtain ⟨⟨i, phase⟩, hjob, h⟩ := Option.bind_eq_some_iff.1 h
  refine ⟨⟨i, phase⟩, hjob, ?_⟩
  cases phase with
  | working t path progress =>
    cases progress with
    | running records step todo => rfl
    | _ => cases h
  | _ => cases h

theorem State.goesOn (h : State.after s actions = some st) (hslots : 0 < s.slots)
    (huncompleted : st.completed = none) (hopen : (st.complete s).isSome = false) : st.GoesOn s := by
  -- A runner that answers everything lets no task abort.
  obtain ⟨a, hobeys, hworks, hpossible⟩ := State.exists_action
    (fun _ => some (.ok ⟨.exited (some 0), "", "", .zero⟩)) h hslots huncompleted hopen
  cases a with
  | dispatch | «decide» _ | release _ | publish _ | collect => exact .own (by trivial) hpossible
  | «begin» k workspace => exact .workspace (State.begin_of_isSome hpossible)
  | answer k reply => exact .reply (State.hasCommand_of_isSome hpossible).isSome_answer
  | abort k =>
    obtain ⟨_, -, hnone⟩ := hobeys
    cases hnone
  | cancel | pass _ | complete => exact hworks.elim

/-! ## The end -/

/-- A run that is completed came to a state in which it could end. -/
theorem State.ended_of_completed (h : State.after s actions = some st) {result : RunResult}
    (hcompleted : st.completed = some result) :
    ∃ before last, before ++ [.complete] <+: actions ∧ State.after s before = some last ∧
      (last.complete s).isSome = true ∧ last.result s = result := by
  refine State.after_induction (P := fun actions st => st.completed = some result →
    ∃ before last, before ++ [.complete] <+: actions ∧ State.after s before = some last ∧
      (last.complete s).isSome = true ∧ last.result s = result) ?_ ?_ h hcompleted
  · rintro ⟨⟩
  · intro actions st a st' hafter ih hstep hcompleted
    have hearlier (hsame : st.completed = some result) :
        ∃ before last, before ++ [.complete] <+: actions ++ [a] ∧ State.after s before = some last ∧
          (last.complete s).isSome = true ∧ last.result s = result := by
      obtain ⟨before, last, hprefix, hlast⟩ := ih hsame
      exact ⟨before, last, hprefix.trans (List.prefix_append _ _), hlast⟩
    cases hstep with
    | complete hdone hchannel huncompleted =>
      refine ⟨actions, st, List.prefix_rfl, hafter, ?_, Option.some.inj hcompleted⟩
      simp [State.complete, hchannel, huncompleted]
      exact hdone
    | _ => exact hearlier hcompleted

end Run

open Run in
/-- All runs of a setup come to their end, whatever they are given from outside. -/
structure Setup.Ends (s : Setup) : Prop where
  works_le : ∀ actions st, State.after s actions = some st → actions.countP (·.Works) ≤
    (s.pipeline.instances.map fun i => 4 * i.template.steps.length + 9).sum
  /-- Until a run can end it goes on. -/
  goes_on : ∀ actions st, State.after s actions = some st → st.completed = none →
    (st.complete s).isSome = false → st.GoesOn s
  /-- A run that has not ended can be continued to a whole one, with its result. -/
  whole : ∀ actions st, State.after s actions = some st → st.completed = none →
    ∃ c : Course, c.setup = s ∧ actions <+: c.actions

theorem Setup.ends {s : Setup} {strategy : Strategy} (hloaded : s.pipeline.Loaded)
    (hslots : strategy.slots? s.pipeline.maxParallel = some s.slots) : s.Ends where
  works_le := fun _ _ hafter => by
    have hle := Run.State.works_le hafter
    omega
  goes_on := fun _ _ hafter => Run.State.goesOn hafter (Strategy.slots?_pos hslots)
  whole := fun actions st hafter huncompleted => by
    obtain ⟨c, rest, hsetup, -, hactions, -⟩ :=
      Run.exists_course (fun _ => none) hloaded hslots hafter huncompleted
    exact ⟨c, hsetup, hactions ▸ List.prefix_append actions rest⟩

end JobMatrix
