import JobMatrix.Run.State

/-!
# Moves

An action of a run is about one job at most. It moves that job from one phase to the next,
sends the events and makes the calls that belong to the move, and takes or gives back a
slot. The other actions leave all jobs as they are.

Both parts are said once here, as relations, so that an invariant of runs is a case
analysis over moves and never one over the code of an action.
-/

namespace JobMatrix.Run

/-- The position that an action names. Dispatch takes the next waiting job and names none. -/
def Action.job? : Action → Option Nat
  | .begin k _ | .decide k | .answer k _ | .abort k | .release k | .publish k => some k
  | _ => none

/-- The number of slots that a job in a phase has. -/
def slotsOf (phase : Phase) : Nat :=
  if phase.holdsSlot then 1 else 0

/-- A move of the job `i` at position `k`: the phase before, the action, the phase after, the
events sent and the calls made. -/
inductive Move (s : Setup) (st : State) (k : Nat) (i : Instance) :
    Phase → Action → Phase → List Event → List Call → Prop
  | skip (hrun : i.willRun = false) :
      Move s st k i .waiting .dispatch (.skipped (i.skipped .conditionFalse))
        [.jobSkipped (i.skipped .conditionFalse)] []
  | drop (hrun : i.willRun = true) (hcancelled : st.cancelled = true) :
      Move s st k i .waiting .dispatch (.skipped (i.skipped .cancelled))
        [.jobSkipped (i.skipped .cancelled)] []
  | spawn (hrun : i.willRun = true) (hcancelled : st.cancelled = false) :
      Move s st k i .waiting .dispatch .spawned [] []
  | enter (path : String) :
      Move s st k i .spawned (.begin k (.ok path)) (.working st.clock path i.begin)
        [.jobStarted i.id] []
  | bar (cause : String) :
      Move s st k i .spawned (.begin k (.error cause))
        (.settled (st.resultOf s i st.clock [] (some (Instance.workspaceFailure cause))))
        [.jobStarted i.id] []
  /-- All steps are done. -/
  | finish {t path records} :
      Move s st k i (.working t path (.ready records [])) (.decide k)
        (.settled (st.resultOf s i t records none)) [] []
  /-- The run was cancelled before a step. -/
  | stop {t path records step todo} (hcancelled : st.cancelled = true) :
      Move s st k i (.working t path (.ready records (step :: todo))) (.decide k)
        (.settled (st.resultOf s i t records (some .cancelled))) [] []
  /-- The condition of a step is false. -/
  | pass {t path records step todo} (hcancelled : st.cancelled = false)
      (hcond : Condition.allows step.condition i.binding = false) :
      Move s st k i (.working t path (.ready records (step :: todo))) (.decide k)
        (.working t path
          (.ready (records ++ [.skipped records.length step.label (i.render step)]) todo))
        [.stepFinished i.id (.skipped records.length step.label (i.render step))] []
  | ask {t path records step todo} (hcancelled : st.cancelled = false)
      (hcond : Condition.allows step.condition i.binding = true) :
      Move s st k i (.working t path (.ready records (step :: todo))) (.decide k)
        (.working t path (.running records step todo))
        [.stepStarted i.id records.length step.label]
        [⟨st.clock, k, records.length, i.request s.pipeline path step⟩]
  /-- The reply lets the job go on. -/
  | goOn {t path records step todo reply record}
      (hjudge : i.judge records.length step reply = (record, none)) :
      Move s st k i (.working t path (.running records step todo)) (.answer k reply)
        (.working t path (.ready (records ++ [record]) todo)) [.stepFinished i.id record] []
  /-- The reply fails the job. -/
  | giveUp {t path records step todo reply record failure}
      (hjudge : i.judge records.length step reply = (record, some failure)) :
      Move s st k i (.working t path (.running records step todo)) (.answer k reply)
        (.settled (st.resultOf s i t (records ++ [record]) (some failure)))
        [.stepFinished i.id record] []
  | abort {t path records step todo} :
      Move s st k i (.working t path (.running records step todo)) (.abort k) .aborted [] []
  | release {result} : Move s st k i (.settled result) (.release k) (.released result) [] []
  | publish {result} :
      Move s st k i (.released result) (.publish k) (.published result) [.jobFinished result] []

/-- The entries of a run with one more result filled in. -/
def State.entriesWith (st : State) (result : JobResult) : List (Option JobResult) :=
  match st.position? result.id with
  | some k => st.entries.set k (some result)
  | none => st.entries

/-- The entries of a run once an event has reached the log. -/
def State.entriesAfter (st : State) (event : Event) : List (Option JobResult) :=
  match event.result? with
  | some result => st.entriesWith result
  | none => st.entries

/-- What an action makes of a state, as a move of one job or as a change to none. -/
inductive Step (s : Setup) (st : State) : Action → State → Prop
  | move {k job a phase events calls dispatched free} (hjob : st.jobs[k]? = some job)
      (hmove : Move s st k job.inst job.phase a phase events calls)
      (hfront : a = .dispatch ∧ k = st.dispatched ∧ dispatched = st.dispatched + 1 ∨
        a.job? = some k ∧ dispatched = st.dispatched)
      (hfree : free + slotsOf phase = st.free + slotsOf job.phase) :
      Step s st a { st with
        jobs := st.jobs.set k ⟨job.inst, phase⟩
        dispatched, free
        channel := st.channel ++ events
        calls := st.calls ++ calls }
  | collect {event rest} (hchannel : st.channel = event :: rest) :
      Step s st .collect { st with
        channel := rest
        log := st.log ++ [event]
        entries := st.entriesAfter event }
  | cancel : Step s st .cancel { st with cancelled := true }
  | pass (d : Duration) : Step s st (.pass d) { st with clock := st.clock.add d }
  | complete (hdone : ∀ job ∈ st.jobs, job.phase.isDone = true) (hchannel : st.channel = [])
      (hcompleted : st.completed = none) :
      Step s st .complete { st with
        completed := some (st.result s)
        log := st.log ++ [.pipelineCompleted s.runId (st.result s).overall] }

variable {s : Setup} {st st' : State} {a : Action}

/-- A job makes calls in its own name only. -/
theorem Move.calls_job {k : Nat} {i : Instance} {phase phase' : Phase} {events : List Event}
    {calls : List Call} (h : Move s st k i phase a phase' events calls) :
    ∀ call ∈ calls, call.job = k := by
  cases h <;> simp

/-! ## Actions are steps -/

/-- The waiting jobs are those from the next one to dispatch on. -/
def State.InOrder (st : State) : Prop :=
  ∀ k job, st.jobs[k]? = some job → (job.phase = .waiting ↔ st.dispatched ≤ k)

theorem Step.of_dispatch (hst : st.InOrder) (h : st.dispatch = some st') :
    Step s st .dispatch st' := by
  obtain ⟨⟨i, phase⟩, hjob, h⟩ := Option.bind_eq_some_iff.1 h
  -- Dispatch does not look at the phase of the next job; the order says that it waits.
  obtain rfl : phase = .waiting := (hst _ _ hjob).2 (Nat.le_refl _)
  split at h
  · rename_i hrun
    cases h
    have hrun : i.willRun = false := by simpa using hrun
    simpa [State.skip, State.setPhase, State.send] using
      Step.move (s := s) hjob (.skip hrun) (.inl ⟨rfl, rfl, rfl⟩) rfl
  · rename_i hrun
    have hrun : i.willRun = true := by simpa using hrun
    split at h
    · rename_i hcancelled
      cases h
      simpa [State.skip, State.setPhase, State.send] using
        Step.move (s := s) hjob (.drop hrun hcancelled) (.inl ⟨rfl, rfl, rfl⟩) rfl
    · rename_i hcancelled
      have hcancelled : st.cancelled = false := by simpa using hcancelled
      split at h
      · cases h
      · rename_i hfree
        cases h
        have hslots : st.free - 1 + slotsOf .spawned = st.free + slotsOf .waiting := by
          simp only [slotsOf, Phase.holdsSlot, if_true, Bool.false_eq_true, if_false]
          omega
        simpa [State.setPhase] using
          Step.move (s := s) hjob (.spawn hrun hcancelled) (.inl ⟨rfl, rfl, rfl⟩) hslots

theorem Step.of_begin {k : Nat} {workspace : Except String String}
    (h : st.begin s k workspace = some st') : Step s st (.begin k workspace) st' := by
  obtain ⟨⟨i, phase⟩, hjob, h⟩ := Option.bind_eq_some_iff.1 h
  cases phase with
  | spawned =>
    cases workspace with
    | ok path =>
      cases h
      simpa [State.setPhase, State.send] using
        Step.move (s := s) hjob (.enter path) (.inr ⟨rfl, rfl⟩) rfl
    | error cause =>
      cases h
      simpa [State.setPhase, State.send] using
        Step.move (s := s) hjob (.bar cause) (.inr ⟨rfl, rfl⟩) rfl
  | _ => cases workspace <;> cases h

theorem Step.of_decide {k : Nat} (h : st.decide s k = some st') : Step s st (.decide k) st' := by
  obtain ⟨⟨i, phase⟩, hjob, h⟩ := Option.bind_eq_some_iff.1 h
  cases phase with
  | working t path progress =>
    cases progress with
    | ready records todo =>
      cases todo with
      | nil =>
        cases h
        simpa [State.proceed, State.setPhase] using
          Step.move (s := s) hjob .finish (.inr ⟨rfl, rfl⟩) rfl
      | cons step todo =>
        simp only [Instance.look] at h
        cases hcancelled : st.cancelled with
        | true =>
          simp only [hcancelled, if_true] at h
          cases h
          simpa [State.proceed, State.setPhase] using
            Step.move (s := s) hjob (.stop hcancelled) (.inr ⟨rfl, rfl⟩) rfl
        | false =>
          cases hcond : Condition.allows step.condition i.binding with
          | true =>
            simp only [hcancelled, hcond, if_true, Bool.false_eq_true, if_false] at h
            cases h
            simpa [State.proceed, State.setPhase, State.send, hcancelled] using
              Step.move (s := s) hjob (.ask hcancelled hcond) (.inr ⟨rfl, rfl⟩) rfl
          | false =>
            simp only [hcancelled, hcond, Bool.false_eq_true, if_false] at h
            cases h
            simpa [State.proceed, State.setPhase, State.send] using
              Step.move (s := s) hjob (.pass hcancelled hcond) (.inr ⟨rfl, rfl⟩) rfl
    | _ => cases h
  | _ => cases h

theorem Step.of_answer {k : Nat} {reply : Reply} (h : st.answer s k reply = some st') :
    Step s st (.answer k reply) st' := by
  obtain ⟨⟨i, phase⟩, hjob, h⟩ := Option.bind_eq_some_iff.1 h
  cases phase with
  | working t path progress =>
    cases progress with
    | running records step todo =>
      -- The record and the failure come from one verdict, which is named to rewrite both.
      obtain ⟨⟨record, failure⟩, hjudge⟩ :
          ∃ verdict, i.judge records.length step reply = verdict := ⟨_, rfl⟩
      cases failure with
      | none =>
        simp only [Instance.answered, hjudge] at h
        cases h
        simpa [State.proceed, State.setPhase, State.send] using
          Step.move (s := s) hjob (.goOn hjudge) (.inr ⟨rfl, rfl⟩) rfl
      | some failure =>
        simp only [Instance.answered, hjudge] at h
        cases h
        simpa [State.proceed, State.setPhase, State.send, State.resultOf, State.now] using
          Step.move (s := s) hjob (.giveUp hjudge) (.inr ⟨rfl, rfl⟩) rfl
    | _ => cases h
  | _ => cases h

theorem Step.of_abort {k : Nat} (h : st.abort k = some st') : Step s st (.abort k) st' := by
  obtain ⟨⟨i, phase⟩, hjob, h⟩ := Option.bind_eq_some_iff.1 h
  cases phase with
  | working t path progress =>
    cases progress with
    | running records step todo =>
      cases h
      simpa [State.setPhase] using Step.move (s := s) hjob .abort (.inr ⟨rfl, rfl⟩) rfl
    | _ => cases h
  | _ => cases h

theorem Step.of_release {k : Nat} (h : st.release k = some st') : Step s st (.release k) st' := by
  obtain ⟨⟨i, phase⟩, hjob, h⟩ := Option.bind_eq_some_iff.1 h
  cases phase with
  | settled result =>
    cases h
    simpa [State.setPhase] using Step.move (s := s) hjob .release (.inr ⟨rfl, rfl⟩) rfl
  | _ => cases h

theorem Step.of_publish {k : Nat} (h : st.publish k = some st') : Step s st (.publish k) st' := by
  obtain ⟨⟨i, phase⟩, hjob, h⟩ := Option.bind_eq_some_iff.1 h
  cases phase with
  | released result =>
    cases h
    simpa [State.setPhase, State.send] using
      Step.move (s := s) hjob .publish (.inr ⟨rfl, rfl⟩) rfl
  | _ => cases h

theorem State.enter_eq (st : State) (result : JobResult) :
    st.enter result = { st with entries := st.entriesWith result } := by
  unfold State.enter State.entriesWith
  cases st.position? result.id <;> rfl

theorem Step.of_collect (h : st.collect = some st') : Step s st .collect st' := by
  unfold State.collect at h
  split at h
  · cases h
  · rename_i event rest hchannel
    have hstep := Step.collect (s := s) hchannel
    simp only [State.entriesAfter] at hstep
    split at h
    · rename_i result hresult
      cases h
      rw [State.enter_eq]
      simp only [hresult] at hstep
      exact hstep
    · rename_i hresult
      cases h
      simpa only [hresult] using hstep

/-- A run ends when all jobs are over and the channel is empty, and only once. -/
theorem State.complete_eq_some (h : st.complete s = some st') :
    (∀ job ∈ st.jobs, job.phase.isDone = true) ∧ st.channel = [] ∧ st.completed = none ∧
      st' = { st with
        completed := some (st.result s)
        log := st.log ++ [.pipelineCompleted s.runId (st.result s).overall] } := by
  unfold State.complete at h
  split at h
  · rename_i hend
    cases h
    simp only [Bool.and_eq_true, List.all_eq_true, List.isEmpty_iff,
      Option.isNone_iff_eq_none] at hend
    exact ⟨hend.1.1, hend.1.2, hend.2, rfl⟩
  · cases h

theorem Step.of_complete (h : st.complete s = some st') : Step s st .complete st' := by
  obtain ⟨hdone, hchannel, hcompleted, rfl⟩ := State.complete_eq_some h
  exact .complete hdone hchannel hcompleted

/-- Every possible action is a step. -/
theorem Step.of_apply (hst : st.InOrder) (h : st.apply s a = some st') : Step s st a st' := by
  cases a with
  | dispatch => exact .of_dispatch hst h
  | «begin» k workspace => exact .of_begin h
  | «decide» k => exact .of_decide h
  | answer k reply => exact .of_answer h
  | abort k => exact .of_abort h
  | release k => exact .of_release h
  | publish k => exact .of_publish h
  | collect => exact .of_collect h
  | cancel => cases h; exact .cancel
  | pass d => cases h; exact .pass d
  | complete => exact .of_complete h

end JobMatrix.Run
