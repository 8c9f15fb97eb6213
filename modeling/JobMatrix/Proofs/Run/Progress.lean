import JobMatrix.Proofs.Run.Course
import JobMatrix.Proofs.Run.Served
import JobMatrix.Proofs.Run.Slots

/-!
# Progress

No run gets stuck. Every action of a job uses up some of what the job has left to do, priced
so that the event it sends costs less; and until a run can end, some action is possible,
since a job that waits for a slot gets one once the others have given theirs back. So every
run can be brought to its end.
-/

namespace JobMatrix

/-- What a job in a phase has left to do at most. -/
def Phase.weight (i : Instance) : Phase → Nat
  | .waiting => 4 * i.template.steps.length + 9
  | .spawned => 4 * i.template.steps.length + 7
  | .working _ _ (.ready _ todo) => 4 * todo.length + 5
  | .working _ _ (.running _ _ todo) => 4 * todo.length + 7
  | .working _ _ (.over ..) => 0
  | .settled _ => 3
  | .released _ => 2
  | .skipped _ | .published _ | .aborted => 0

theorem Phase.holdsSlot_of_isDone {phase : Phase} (h : phase.isDone = true) :
    phase.holdsSlot = false := by
  cases phase with
  | spawned | working _ _ _ | settled _ => cases h
  | _ => rfl

/-- Every strategy that sets a number of slots sets at least one. -/
theorem Strategy.slots?_pos {strategy : Strategy} {declared : Option Nat} {n : Nat}
    (h : strategy.slots? declared = some n) : 0 < n := by
  simp only [slots?] at h
  split at h
  · cases h
    cases strategy with
    | sequential => exact Nat.one_pos
    | limited m => exact Nat.lt_of_lt_of_le Nat.one_pos (Nat.le_max_right m 1)
    | parallel =>
      cases declared with
      | none => decide
      | some m => exact Nat.lt_of_lt_of_le Nat.one_pos (Nat.le_max_right m 1)
  · cases h

namespace Run

variable {s : Setup} {st st' last : State} {a : Action} {actions before : List Action} {k : Nat}
  {i : Instance} {phase phase' : Phase} {events : List Event} {calls : List Call} {job : Job}

/-! ## Less to do -/

/-- An action that brings a run forward. -/
def Action.Works : Action → Prop
  | .cancel | .pass _ | .complete => False
  | _ => True

/-- What some jobs have left to do at most. -/
def workOf : List Job → Nat
  | [] => 0
  | job :: jobs => job.phase.weight job.inst + workOf jobs

/-- What a run has left to do at most: the work of its jobs, and the events to collect. -/
def State.weight (st : State) : Nat :=
  workOf st.jobs + st.channel.length

/-- The work of some jobs changes by what one of them changes. -/
theorem workOf_set {jobs : List Job} (phase : Phase) (hjob : jobs[k]? = some job) :
    workOf (jobs.set k ⟨job.inst, phase⟩) + job.phase.weight job.inst =
      workOf jobs + phase.weight job.inst := by
  induction jobs generalizing k with
  | nil => cases hjob
  | cons first rest ih =>
    cases k with
    | zero =>
      cases hjob
      simp only [List.set_cons_zero, workOf]
      omega
    | succ k =>
      have hrest := ih hjob
      simp only [List.set_cons_succ, workOf]
      omega

theorem Move.weight_lt (h : Move s st k i phase a phase' events calls) :
    phase'.weight i + events.length < phase.weight i := by
  cases h <;> simp only [Phase.weight, Instance.begin, List.length_cons, List.length_nil] <;> omega

theorem Step.weight_lt (h : Step s st a st') (ha : a.Works) : st'.weight < st.weight := by
  cases h with
  | @move k job _ phase events _ _ _ hjob hmove _ _ =>
    have hwork := workOf_set phase hjob
    have hless := hmove.weight_lt
    simp only [State.weight, List.length_append]
    omega
  | collect hchannel =>
    simp only [State.weight, hchannel, List.length_cons]
    omega
  | cancel | pass d | complete _ _ _ => exact ha.elim

theorem Step.completed_eq (h : Step s st a st') (ha : a.Works) : st'.completed = st.completed := by
  cases h with
  | complete _ _ _ => exact ha.elim
  | _ => rfl

/-! ## Something to do -/

/-- A job leaves the work on its steps as soon as it is over. -/
theorem Move.not_over {t : Duration} {path : String} {records : List StepRecord}
    {failure : Option JobFailure} (h : Move s st k i phase a phase' events calls) :
    phase' ≠ .working t path (.over records failure) := by
  cases h <;> simp [Instance.begin]

theorem State.not_over_of_after (h : State.after s before = some st) (hjob : st.jobs[k]? = some job)
    (t : Duration) (path : String) (records : List StepRecord) (failure : Option JobFailure) :
    job.phase ≠ .working t path (.over records failure) := by
  refine State.job_induction
    (P := fun _ _ _ phase => phase ≠ .working t path (.over records failure)) ?_ ?_ ?_ h hjob
  · intro k i _
    simp
  · intro actions a k i phase _ hbefore
    exact hbefore
  · intro actions st a k i phase phase' events calls _ _ hmove _
    exact hmove.not_over

/-- A job that is neither waiting nor over can do something. -/
theorem State.exists_action_of_busy (answers : Request → Option Reply) (h : State.after s before = some st)
    (hjob : st.jobs[k]? = some ⟨i, phase⟩) (hwaiting : phase ≠ .waiting)
    (hdone : phase.isDone = false) :
    ∃ a, Obeys answers st a ∧ a.Works ∧ (st.apply s a).isSome = true := by
  cases phase with
  | waiting => exact absurd rfl hwaiting
  | skipped result | published result | aborted => cases hdone
  | spawned =>
    exact ⟨.begin k (.ok ""), ⟨"", rfl⟩, trivial, State.isSome_begin hjob _⟩
  | settled result =>
    refine ⟨.release k, trivial, trivial, ?_⟩
    simp [State.apply, State.release, hjob]
  | released result =>
    refine ⟨.publish k, trivial, trivial, ?_⟩
    simp [State.apply, State.publish, hjob]
  | working t path progress =>
    cases progress with
    | «over» records failure =>
      exact absurd rfl (State.not_over_of_after h hjob t path records failure)
    | ready records todo =>
      exact ⟨.decide k, trivial, trivial, State.isSome_decide hjob⟩
    | running records step todo =>
      have hasked := State.asking_of_after h k i t path records step todo hjob
      cases hanswer : answers (i.request s.pipeline path step) with
      | none =>
        refine ⟨.abort k, ⟨_, hasked, hanswer⟩, trivial, ?_⟩
        simp [State.apply, State.abort, hjob]
      | some reply =>
        exact ⟨.answer k reply, ⟨_, _, hasked, hanswer, rfl⟩, trivial,
          State.isSome_answer hjob reply⟩

/-- If no job is busy, the next waiting job can be dispatched: all slots are free. -/
theorem State.exists_action_of_waiting (h : State.after s before = some st) (hslots : 0 < s.slots)
    (hidle : ∀ job ∈ st.jobs, job.phase = .waiting ∨ job.phase.isDone = true)
    (hjob : st.jobs[k]? = some ⟨i, .waiting⟩) : (st.apply s .dispatch).isSome = true := by
  have hst := State.inOrder_of_after h
  have hle : st.dispatched ≤ k := (hst k _ hjob).1 rfl
  have hlt := (List.getElem?_eq_some_iff.1 hjob).1
  have hnext : st.jobs[st.dispatched]? = some st.jobs[st.dispatched] :=
    List.getElem?_eq_getElem (by omega)
  -- Jobs that wait or are over hold no slot, so an aborted task cannot have kept one.
  have hfree : st.free = s.slots := by
    refine State.free_eq_slots h fun job hmem => ?_
    rcases hidle job hmem with hwaiting | hdone
    · rw [hwaiting]
      rfl
    · exact Phase.holdsSlot_of_isDone hdone
  have hsome : st.free ≠ 0 := by omega
  simp only [State.apply, State.dispatch, hnext, Option.bind_eq_bind, Option.bind_some, if_neg hsome]
  split
  · rfl
  · split
    · rfl
    · rfl

/-- Until a run can end, some action brings it forward. -/
theorem State.exists_action (answers : Request → Option Reply) (h : State.after s before = some st)
    (hslots : 0 < s.slots) (huncompleted : st.completed = none)
    (hopen : (st.complete s).isSome = false) :
    ∃ a, Obeys answers st a ∧ a.Works ∧ (st.apply s a).isSome = true := by
  by_cases hbusy : ∃ (k : Nat) (job : Job), st.jobs[k]? = some job ∧ job.phase ≠ .waiting ∧
      job.phase.isDone = false
  · obtain ⟨k, ⟨i, phase⟩, hjob, hwaiting, hdone⟩ := hbusy
    exact State.exists_action_of_busy answers h hjob hwaiting hdone
  · have hidle : ∀ job ∈ st.jobs, job.phase = .waiting ∨ job.phase.isDone = true := by
      intro job hmem
      obtain ⟨k, hjob⟩ := List.getElem?_of_mem hmem
      by_contra hnot
      rw [not_or, Bool.not_eq_true] at hnot
      exact hbusy ⟨k, job, hjob, hnot⟩
    by_cases hwaiting : ∃ (k : Nat) (i : Instance), st.jobs[k]? = some ⟨i, .waiting⟩
    · obtain ⟨k, i, hjob⟩ := hwaiting
      exact ⟨.dispatch, trivial, trivial, State.exists_action_of_waiting h hslots hidle hjob⟩
    · -- All jobs are over, so there is still an event to collect, or else the run could end.
      refine ⟨.collect, trivial, trivial, ?_⟩
      have hall : st.jobs.all (·.phase.isDone) = true := by
        rw [List.all_eq_true]
        intro job hmem
        refine (hidle job hmem).resolve_left fun hphase => ?_
        obtain ⟨k, hjob⟩ := List.getElem?_of_mem hmem
        exact hwaiting ⟨k, job.inst, by rw [hjob, ← hphase]⟩
      cases hchannel : st.channel with
      | nil => simp [State.complete, hall, hchannel, huncompleted] at hopen
      | cons event rest =>
        simp only [State.apply, State.collect, hchannel]
        split
        · rfl
        · rfl

/-! ## To the end -/

/-- Every run can be brought to its end by a fixed runner. -/
theorem State.exists_served (answers : Request → Option Reply) (h : State.after s before = some st)
    (hslots : 0 < s.slots) (huncompleted : st.completed = none) :
    ∃ actions last, Served answers s st actions last ∧ (last.complete s).isSome = true := by
  induction hweight : st.weight using Nat.strongRecOn generalizing st before with
  | ind n ih =>
    subst hweight
    cases hend : (st.complete s).isSome with
    | true => exact ⟨[], st, .nil, hend⟩
    | false =>
      obtain ⟨a, hobeys, hworks, happly⟩ :=
        State.exists_action answers h hslots huncompleted hend
      obtain ⟨st', happly⟩ := Option.isSome_iff_exists.1 happly
      have hstep := Step.of_apply (State.inOrder_of_after h) happly
      have hafter : State.after s (before ++ [a]) = some st' := by
        rw [State.after_concat, h, Option.bind_some, happly]
      obtain ⟨actions, last, hserved, hcomplete⟩ := ih _ (hstep.weight_lt hworks) hafter
        ((hstep.completed_eq hworks).trans huncompleted) rfl
      exact ⟨a :: actions, last, .cons hobeys happly hserved, hcomplete⟩

/-- Every run of a loaded pipeline under a strategy can be continued to a whole one. -/
theorem exists_course (answers : Request → Option Reply) {strategy : Strategy}
    (hloaded : s.pipeline.Loaded)
    (hslots : strategy.slots? s.pipeline.maxParallel = some s.slots)
    (h : State.after s before = some st) (huncompleted : st.completed = none) :
    ∃ (c : Course) (rest : List Action), c.setup = s ∧ c.strategy = strategy ∧
      c.actions = before ++ rest ∧ Served answers s st rest c.last := by
  obtain ⟨rest, last, hserved, hcomplete⟩ :=
    State.exists_served answers h (Strategy.slots?_pos hslots) huncompleted
  exact ⟨⟨s, strategy, before ++ rest, last, hloaded, hslots, hserved.after h, hcomplete⟩, rest,
    rfl, rfl, rfl, hserved⟩

end Run

end JobMatrix
