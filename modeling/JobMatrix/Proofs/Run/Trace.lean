import Mathlib.Data.List.Induction
import JobMatrix.Proofs.Run.Move

/-!
# Traces

A run is a sequence of possible actions, from the start or from any state in order, so a
property of all its states is proved from what one step preserves. Most properties speak of
one job at a time. For those the induction is said here in the form that the later modules
use: a job is in some phase at first, and every action leaves it there or moves it.
-/

namespace JobMatrix.Run

variable {s : Setup} {st st' : State} {a : Action} {actions : List Action}

/-- The state after some actions from another one. -/
def State.run (s : Setup) (st : State) (actions : List Action) : Option State :=
  actions.foldlM (State.apply s) st

theorem State.run_append (st : State) (first rest : List Action) :
    st.run s (first ++ rest) = (st.run s first).bind (State.run s · rest) :=
  List.foldlM_append

theorem State.run_cons (st : State) (a : Action) (rest : List Action) :
    st.run s (a :: rest) = (st.apply s a).bind (State.run s · rest) :=
  List.foldlM_cons

theorem State.run_singleton (st : State) (a : Action) : st.run s [a] = st.apply s a := by
  rw [State.run_cons]
  cases st.apply s a <;> rfl

theorem State.run_concat (st : State) (actions : List Action) (a : Action) :
    st.run s (actions ++ [a]) = (st.run s actions).bind (State.apply s · a) := by
  rw [State.run_append]
  simp only [State.run_singleton]

theorem State.after_append (first rest : List Action) :
    State.after s (first ++ rest) = (State.after s first).bind (State.run s · rest) :=
  State.run_append _ first rest

theorem State.after_concat (actions : List Action) (a : Action) :
    State.after s (actions ++ [a]) = (State.after s actions).bind (State.apply s · a) :=
  State.run_concat _ actions a

/-! ## One step -/

/-- A job after one job was replaced is the new one or was there before. -/
theorem job_of_set {jobs : List Job} {j k : Nat} {new job : Job}
    (h : (jobs.set j new)[k]? = some job) : j = k ∧ job = new ∨ j ≠ k ∧ jobs[k]? = some job := by
  by_cases hk : j = k
  · subst hk
    have hlt : j < jobs.length := by simpa using (List.getElem?_eq_some_iff.1 h).1
    simp only [List.getElem?_set_self hlt, Option.some.injEq] at h
    exact .inl ⟨rfl, h.symm⟩
  · simp only [List.getElem?_set_ne hk] at h
    exact .inr ⟨hk, h⟩

/-- A job after a step was there before, with the same instance, and has stayed or moved. -/
theorem Step.job_back (h : Step s st a st') {k : Nat} {job : Job}
    (hjob : st'.jobs[k]? = some job) :
    ∃ phase, st.jobs[k]? = some ⟨job.inst, phase⟩ ∧
      (phase = job.phase ∧ a.job? ≠ some k ∨
        ∃ events calls, Move s st k job.inst phase a job.phase events calls) := by
  cases h with
  | @move j before _ phase events calls _ _ hbefore hmove hfront _ =>
    rcases job_of_set hjob with ⟨rfl, rfl⟩ | ⟨hk, hsame⟩
    · exact ⟨before.phase, hbefore, .inr ⟨events, calls, hmove⟩⟩
    · refine ⟨job.phase, hsame, .inl ⟨rfl, ?_⟩⟩
      rcases hfront with ⟨rfl, -⟩ | ⟨hnamed, -⟩
      · simp [Action.job?]
      · simpa [hnamed] using hk
  | _ => exact ⟨job.phase, hjob, .inl ⟨rfl, by simp [Action.job?]⟩⟩

theorem Step.insts_eq (h : Step s st a st') : st'.jobs.map Job.inst = st.jobs.map Job.inst := by
  cases h with
  | @move k job _ phase _ _ _ _ hjob _ _ _ =>
    obtain ⟨hlt, rfl⟩ := List.getElem?_eq_some_iff.1 hjob
    have hmap : k < (st.jobs.map Job.inst).length := by simpa using hlt
    rw [List.map_set]
    simpa only [List.getElem_map] using List.set_getElem_self hmap
  | _ => rfl

/-- A job before a step is there after it, with the same instance, and has stayed or moved. -/
theorem Step.job_on (h : Step s st a st') {k : Nat} {job : Job} (hjob : st.jobs[k]? = some job) :
    ∃ phase, st'.jobs[k]? = some ⟨job.inst, phase⟩ ∧
      (job.phase = phase ∧ a.job? ≠ some k ∨
        ∃ events calls, Move s st k job.inst job.phase a phase events calls) := by
  have hinst : (st'.jobs.map Job.inst)[k]? = some job.inst := by
    rw [h.insts_eq, List.getElem?_map, hjob]
    rfl
  rw [List.getElem?_map, Option.map_eq_some_iff] at hinst
  obtain ⟨⟨_, phase⟩, hafter, rfl⟩ := hinst
  refine ⟨phase, hafter, ?_⟩
  obtain ⟨before, hbefore, hrest⟩ := h.job_back hafter
  obtain rfl : job.phase = before := congrArg Job.phase (Option.some.inj (hjob.symm.trans hbefore))
  exact hrest

/-- Moves that start from waiting are those of dispatch, and none leads back there. -/
theorem Move.waiting_iff {k : Nat} {i : Instance} {phase phase' : Phase} {events : List Event}
    {calls : List Call} (h : Move s st k i phase a phase' events calls) :
    (phase = .waiting ↔ a.job? = none) ∧ phase' ≠ .waiting := by
  cases h <;> simp [Action.job?]

theorem State.inOrder_start : (State.start s).InOrder := by
  intro k job hjob
  simp only [State.start, List.getElem?_map, Option.map_eq_some_iff] at hjob
  obtain ⟨i, -, rfl⟩ := hjob
  simp [State.start]

theorem Step.inOrder (h : Step s st a st') (hst : st.InOrder) : st'.InOrder := by
  cases h with
  | @move j before _ phase _ _ dispatched _ hbefore hmove hfront _ =>
    intro k job hjob
    obtain ⟨hdispatch, hmoved⟩ := hmove.waiting_iff
    rcases job_of_set hjob with ⟨rfl, rfl⟩ | ⟨hk, hsame⟩
    · -- The job that moved waits no more, and the count of dispatched jobs has passed it.
      have hafter : ¬ dispatched ≤ j := by
        rcases hfront with ⟨-, rfl, rfl⟩ | ⟨hnamed, rfl⟩
        · omega
        · rw [← hst _ _ hbefore, hdispatch, hnamed]
          simp
      exact iff_of_false hmoved hafter
    · rw [hst k job hsame]
      rcases hfront with ⟨-, rfl, rfl⟩ | ⟨-, rfl⟩
      · simp only
        omega
      · rfl
  | _ => exact hst

/-! ## Possible actions -/

section Possible

variable {k : Nat} {i : Instance} {phase : Phase} {t : Duration} {path : String}
  {records : List StepRecord} {step : JobMatrix.Step} {todo : List JobMatrix.Step}

/-- A job whose task was started can begin. -/
theorem State.isSome_begin (hjob : st.jobs[k]? = some ⟨i, .spawned⟩)
    (workspace : Except String String) : (st.apply s (.begin k workspace)).isSome = true := by
  simp only [State.apply, State.begin, hjob, Option.bind_eq_bind, Option.bind_some]
  cases workspace <;> rfl

/-- A job between two steps can look at the next one. -/
theorem State.isSome_decide (hjob : st.jobs[k]? = some ⟨i, .working t path (.ready records todo)⟩) :
    (st.apply s (.decide k)).isSome = true := by
  simp only [State.apply, State.decide, hjob, Option.bind_eq_bind, Option.bind_some]
  cases i.look st.cancelled records todo <;> rfl

/-- A job that waits for the answer to its command can get any. -/
theorem State.isSome_answer
    (hjob : st.jobs[k]? = some ⟨i, .working t path (.running records step todo)⟩) (reply : Reply) :
    (st.apply s (.answer k reply)).isSome = true := by
  simp [State.apply, State.answer, hjob]

/-- A possible action about a job moves it. -/
theorem State.exists_move (hst : st.InOrder) (hjob : st.jobs[k]? = some ⟨i, phase⟩)
    (hnamed : a.job? = some k) (hpossible : (st.apply s a).isSome = true) :
    ∃ st' phase' events calls, st.apply s a = some st' ∧ st'.InOrder ∧
      st'.jobs[k]? = some ⟨i, phase'⟩ ∧ Move s st k i phase a phase' events calls := by
  obtain ⟨st', happly⟩ := Option.isSome_iff_exists.1 hpossible
  have hstep := Step.of_apply hst happly
  obtain ⟨phase', hafter, ⟨-, hother⟩ | ⟨events, calls, hmove⟩⟩ := hstep.job_on hjob
  · exact absurd hnamed hother
  · exact ⟨st', phase', events, calls, happly, hstep.inOrder hst, hafter, hmove⟩

end Possible

/-! ## Induction over a run -/

theorem State.inOrder_of_run (hst : st.InOrder) (h : st.run s actions = some st') :
    st'.InOrder := by
  -- Actions are steps only in order, so this comes before the induction over steps below.
  induction actions using List.reverseRecOn generalizing st' with
  | nil =>
    cases h
    exact hst
  | append_singleton actions a ih =>
    rw [State.run_concat] at h
    obtain ⟨before, hbefore, happly⟩ := Option.bind_eq_some_iff.1 h
    exact (Step.of_apply (ih hbefore) happly).inOrder (ih hbefore)

/-- What holds of a state in order and is kept by every step holds in every later state. -/
theorem State.run_induction {P : List Action → State → Prop} (hst : st.InOrder) (hstart : P [] st)
    (hstep : ∀ {actions mid a next}, st.run s actions = some mid → P actions mid →
      Step s mid a next → P (actions ++ [a]) next)
    (h : st.run s actions = some st') : P actions st' := by
  induction actions using List.reverseRecOn generalizing st' with
  | nil =>
    cases h
    exact hstart
  | append_singleton actions a ih =>
    rw [State.run_concat] at h
    obtain ⟨before, hbefore, happly⟩ := Option.bind_eq_some_iff.1 h
    exact hstep hbefore (ih hbefore) (.of_apply (State.inOrder_of_run hst hbefore) happly)

/-- What holds of a job in a state in order, is kept by the actions of others and by its own moves,
holds of it in every later state. -/
theorem State.run_job_induction {P : List Action → Phase → Prop} {k : Nat} {i : Instance}
    {phase : Phase} (hst : st.InOrder) (hjob : st.jobs[k]? = some ⟨i, phase⟩) (hstart : P [] phase)
    (hstay : ∀ {actions a phase}, a.job? ≠ some k → P actions phase → P (actions ++ [a]) phase)
    (hmove : ∀ {actions mid a phase phase' events calls}, st.run s actions = some mid →
      mid.jobs[k]? = some ⟨i, phase⟩ → Move s mid k i phase a phase' events calls →
      P actions phase → P (actions ++ [a]) phase')
    (h : st.run s actions = some st') :
    ∃ phase, st'.jobs[k]? = some ⟨i, phase⟩ ∧ P actions phase := by
  refine State.run_induction
    (P := fun actions st' => ∃ phase, st'.jobs[k]? = some ⟨i, phase⟩ ∧ P actions phase)
    hst ⟨phase, hjob, hstart⟩ ?_ h
  rintro actions mid a next hmid ⟨phase, hbefore, hholds⟩ hstep
  obtain ⟨phase', hafter, hmoved⟩ := hstep.job_on hbefore
  refine ⟨phase', hafter, ?_⟩
  rcases hmoved with ⟨rfl, hother⟩ | ⟨events, calls, hown⟩
  · exact hstay hother hholds
  · exact hmove hmid hbefore hown hholds

/-! ## Runs from the start -/

theorem State.inOrder_of_after (h : State.after s actions = some st) : st.InOrder :=
  State.inOrder_of_run State.inOrder_start h

/-- What holds at the start and is kept by every step holds in every state of a run. -/
theorem State.after_induction {P : List Action → State → Prop} (hstart : P [] (State.start s))
    (hstep : ∀ {actions st a st'}, State.after s actions = some st → P actions st →
      Step s st a st' → P (actions ++ [a]) st')
    (h : State.after s actions = some st) : P actions st :=
  State.run_induction State.inOrder_start hstart hstep h

theorem State.insts_of_after (h : State.after s actions = some st) :
    st.jobs.map Job.inst = s.pipeline.instances := by
  refine State.after_induction (P := fun _ st => st.jobs.map Job.inst = s.pipeline.instances)
    ?_ ?_ h
  · simp [State.start, Function.comp_def]
  · intro actions st a st' _ ih hstep
    exact hstep.insts_eq.trans ih

theorem State.instance_of_after (h : State.after s actions = some st) {k : Nat} {job : Job}
    (hjob : st.jobs[k]? = some job) : s.pipeline.instances[k]? = some job.inst := by
  rw [← State.insts_of_after h]
  simp [hjob]

theorem State.exists_job_of_after (h : State.after s actions = some st) {k : Nat} {i : Instance}
    (hi : s.pipeline.instances[k]? = some i) : ∃ phase, st.jobs[k]? = some ⟨i, phase⟩ := by
  rw [← State.insts_of_after h, List.getElem?_map, Option.map_eq_some_iff] at hi
  obtain ⟨⟨_, phase⟩, hjob, rfl⟩ := hi
  exact ⟨phase, hjob⟩

/-- What holds of a job while it waits, is kept by the actions of others and by its own moves,
holds of every job in every state of a run. -/
theorem State.job_induction {P : List Action → Nat → Instance → Phase → Prop}
    (hwaiting : ∀ {k i}, s.pipeline.instances[k]? = some i → P [] k i .waiting)
    (hstay : ∀ {actions a k i phase}, a.job? ≠ some k → P actions k i phase →
      P (actions ++ [a]) k i phase)
    (hmove : ∀ {actions st a k i phase phase' events calls}, State.after s actions = some st →
      st.jobs[k]? = some ⟨i, phase⟩ → Move s st k i phase a phase' events calls →
      P actions k i phase → P (actions ++ [a]) k i phase')
    (h : State.after s actions = some st) {k : Nat} {job : Job} (hjob : st.jobs[k]? = some job) :
    P actions k job.inst job.phase := by
  obtain ⟨i, phase⟩ := job
  have hi := State.instance_of_after h hjob
  have hfirst : (State.start s).jobs[k]? = some ⟨i, .waiting⟩ := by simp [State.start, hi]
  obtain ⟨phase', hsame, hholds⟩ := State.run_job_induction
    (P := fun actions phase => P actions k i phase) State.inOrder_start hfirst (hwaiting hi)
    hstay hmove h
  rw [hjob] at hsame
  cases hsame
  exact hholds

end JobMatrix.Run
