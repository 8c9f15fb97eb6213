import Mathlib.Data.List.Pairwise
import JobMatrix.Proofs.Run.Dispatch
import JobMatrix.Proofs.Run.Progress

/-!
# Capacity

The slots of a run bound the jobs that are at work and the commands that are in flight. No slot
is lost, whatever the end of the job that had it, and none stays free while a job waits for one.
With a single slot the commands of the jobs follow one another in the order of the plan.
-/

namespace JobMatrix

/-- Whether a job in a phase waits for the answer to a command. -/
def Phase.hasCommand : Phase → Bool
  | .working _ _ (.running ..) => true
  | _ => false

theorem Phase.holdsSlot_of_hasCommand {phase : Phase} (h : phase.hasCommand = true) :
    phase.holdsSlot = true := by
  cases phase with
  | working _ _ _ => rfl
  | _ => cases h

/-- No strategy sets more slots than can be handed out. -/
theorem Strategy.slots?_le {strategy : Strategy} {declared : Option Nat} {n : Nat}
    (h : strategy.slots? declared = some n) : n ≤ maxSlots := by
  simp only [slots?] at h
  split at h
  · rename_i hle
    cases h
    exact hle
  · cases h

namespace Run

/-- Whether an action ends a command. -/
def Action.endsCommand : Action → Bool
  | .answer .. | .abort _ => true
  | _ => false

/-- The number of commands in flight. -/
def State.inFlight (st : State) : Nat :=
  st.jobs.countP (·.phase.hasCommand)

variable {s : Setup} {st st' : State} {a : Action} {actions : List Action} {k : Nat}
  {i : Instance} {phase phase' : Phase} {events : List Event} {calls : List Call} {job : Job}

/-! ## Commands in flight -/

/-- A job with a command in flight holds a slot. -/
theorem State.inFlight_le_held (st : State) : st.inFlight ≤ st.held :=
  List.countP_mono_left fun _ _ h => Phase.holdsSlot_of_hasCommand h

theorem Move.commands (h : Move s st k i phase a phase' events calls) :
    calls.length + (if phase.hasCommand then 1 else 0) =
      (if phase'.hasCommand then 1 else 0) + if a.endsCommand then 1 else 0 := by
  cases h <;> rfl

theorem Step.commands (h : Step s st a st') :
    st'.calls.length + st.inFlight =
      st.calls.length + st'.inFlight + if a.endsCommand then 1 else 0 := by
  cases h with
  | @move k job _ phase _ _ _ _ hjob hmove _ _ =>
    have hcount := countP_set_phase Phase.hasCommand phase hjob
    have hcommands := hmove.commands
    simp only [State.inFlight, List.length_append]
    omega
  | _ => rfl

/-- Every call was answered or lost with its task, or its command is in flight. -/
theorem State.calls_length (h : State.after s actions = some st) :
    st.calls.length = st.inFlight + actions.countP Action.endsCommand := by
  refine State.after_induction
    (P := fun actions st => st.calls.length = st.inFlight + actions.countP Action.endsCommand)
    ?_ ?_ h
  · have hnone : (State.start s).inFlight = 0 := by
      rw [State.inFlight, List.countP_eq_zero]
      intro job hjob
      obtain ⟨i, -, rfl⟩ := List.mem_map.1 hjob
      simp [Phase.hasCommand]
    rw [hnone]
    rfl
  · intro actions st a st' _ ih hstep
    have hcommands := hstep.commands
    rw [List.countP_append, List.countP_singleton]
    omega

/-! ## Waiting for a slot -/

/-- The next job waits only if it is to run, nobody has cancelled, and no slot is free. -/
theorem State.dispatch_eq_none_iff (st : State) :
    st.dispatch = none ↔ st.jobs.length ≤ st.dispatched ∨
      ∃ job, st.jobs[st.dispatched]? = some job ∧ job.inst.willRun = true ∧
        st.cancelled = false ∧ st.free = 0 := by
  cases hjob : st.jobs[st.dispatched]? with
  | none => simpa [State.dispatch, hjob] using List.getElem?_eq_none_iff.1 hjob
  | some job =>
    have hlt : ¬ st.jobs.length ≤ st.dispatched :=
      Nat.not_le_of_lt (List.getElem?_eq_some_iff.1 hjob).1
    cases hrun : job.inst.willRun with
    | false => simp [State.dispatch, hjob, hlt, hrun]
    | true =>
      cases hcancelled : st.cancelled with
      | true => simp [State.dispatch, hjob, hlt, hrun, hcancelled]
      | false => simp [State.dispatch, hjob, hlt, hrun, hcancelled]

/-! ## A single slot -/

/-- At most one job holds a slot if one slot is held at most. -/
theorem State.eq_of_holdsSlot (hheld : st.held ≤ 1) {j : Nat} {other : Job}
    (hjob : st.jobs[j]? = some job) (hother : st.jobs[k]? = some other)
    (hholds : job.phase.holdsSlot = true) (hholds' : other.phase.holdsSlot = true) : j = k := by
  by_contra hne
  -- Without the slot of the first job, that of the other one is still held.
  have hcount := countP_set_phase Phase.holdsSlot .aborted hjob
  have hstays : other ∈ st.jobs.set j ⟨job.inst, .aborted⟩ := by
    refine List.mem_of_getElem? (i := k) ?_
    rw [List.getElem?_set_ne hne, hother]
  have hpos : 0 < (st.jobs.set j ⟨job.inst, .aborted⟩).countP (·.phase.holdsSlot) :=
    List.countP_pos_iff.2 ⟨other, hstays, hholds'⟩
  have hnone : Phase.aborted.holdsSlot = false := rfl
  simp only [hholds, hnone, if_true, Bool.false_eq_true, if_false] at hcount
  simp only [State.held] at hheld
  omega

/-- A job gets its slot out of waiting. -/
theorem Move.waiting_of_holdsSlot (h : Move s st k i phase a phase' events calls)
    (hbefore : phase.holdsSlot = false) (hafter : phase'.holdsSlot = true) : phase = .waiting := by
  cases h with
  | skip _ | drop _ _ | spawn _ _ => rfl
  | release | publish => cases hafter
  | _ => cases hbefore

/-- The calls follow the plan, and none is by a job after one that holds a slot. -/
structure State.InTurn (st : State) : Prop where
  calls : st.calls.Pairwise fun call later => call.job ≤ later.job
  holder : ∀ k job, st.jobs[k]? = some job → job.phase.holdsSlot = true →
    ∀ call ∈ st.calls, call.job ≤ k

theorem Step.inTurn (h : Step s st a st') (hst : st.InOrder) (hheld : st.held ≤ 1)
    (hcalls : ∀ call ∈ st.calls, call.job < st.dispatched) (hturn : st.InTurn) : st'.InTurn := by
  cases h with
  | @move j before _ phase events calls _ _ hbefore hmove _ _ =>
    have hnew : ∀ call ∈ calls, call.job = j ∧ before.phase.holdsSlot = true := by
      intro call hcall
      obtain ⟨hown, hholds, -⟩ := hmove.holdsSlot_of_call hcall
      exact ⟨hown, hholds⟩
    refine ⟨?_, ?_⟩
    · rw [List.pairwise_append]
      refine ⟨hturn.calls, ?_, ?_⟩
      · refine List.pairwise_of_forall_mem_list ?_
        intro call hcall later hlater
        exact Nat.le_of_eq ((hnew call hcall).1.trans (hnew later hlater).1.symm)
      · intro call hcall later hlater
        obtain ⟨rfl, hholds⟩ := hnew later hlater
        exact hturn.holder _ before hbefore hholds call hcall
    · intro k job hjob hholds call hcall
      rcases job_of_set hjob with ⟨rfl, rfl⟩ | ⟨hne, hsame⟩
      · rcases List.mem_append.1 hcall with hold | hcall
        · cases hlong : before.phase.holdsSlot with
          | true => exact hturn.holder _ before hbefore hlong call hold
          | false =>
            -- The job took its slot just now, and waited behind all that made calls.
            have hwaiting := hmove.waiting_of_holdsSlot hlong hholds
            have hle := (hst _ before hbefore).1 hwaiting
            have hlt := hcalls call hold
            omega
        · exact Nat.le_of_eq (hnew call hcall).1
      · rcases List.mem_append.1 hcall with hold | hcall
        · exact hturn.holder k job hsame hholds call hold
        · exact absurd (State.eq_of_holdsSlot hheld hbefore hsame (hnew call hcall).2 hholds) hne
  | _ => exact ⟨hturn.calls, hturn.holder⟩

theorem State.inTurn_of_after (h : State.after s actions = some st) (hone : s.slots = 1) :
    st.InTurn := by
  refine State.after_induction (P := fun _ st => st.InTurn) ?_ ?_ h
  · refine ⟨.nil, ?_⟩
    intro k job _ _ call hcall
    cases hcall
  · intro actions st a st' hafter ih hstep
    have hslots := State.slots_of_after hafter
    exact hstep.inTurn (State.inOrder_of_after hafter) (by omega)
      (fun _ hcall => State.call_lt_dispatched hafter hcall) ih

/-! ## The slots of a run -/

/-- What the slots of a run are good for in a state after some actions. -/
structure State.KeepsSlots (s : Setup) (actions : List Action) (st : State) : Prop where
  slots_pos : 0 < s.slots
  slots_le : s.slots ≤ Strategy.maxSlots
  /-- No more jobs are at work than there are slots. -/
  held_le : st.held ≤ s.slots
  inFlight_le : st.inFlight ≤ s.slots
  /-- The commands in flight are those that were asked for and have not ended. -/
  calls_length : st.calls.length = st.inFlight + actions.countP Action.endsCommand
  /-- No slot is lost. -/
  free_add_held : st.free + st.held = s.slots
  /-- A job that took a slot holds it or has given it back once. -/
  one_each : ∀ k job, st.jobs[k]? = some job →
    slotsOf job.phase + givenBack k actions = if job.phase.tookSlot then 1 else 0
  /-- The next job waits only while it could start and all slots are held. -/
  blocked_iff : st.dispatch = none ↔ st.jobs.length ≤ st.dispatched ∨
    ∃ job, st.jobs[st.dispatched]? = some job ∧ job.inst.willRun = true ∧
      st.cancelled = false ∧ st.held = s.slots
  /-- With a single slot, commands are asked for in the order of the plan. -/
  in_turn : s.slots = 1 → st.calls.Pairwise fun call later => call.job ≤ later.job

/-- In every state of a run, slots bound the work, none is lost, and none is free while a job waits
for one. -/
theorem State.keepsSlots {strategy : Strategy}
    (hslots : strategy.slots? s.pipeline.maxParallel = some s.slots)
    (h : State.after s actions = some st) : st.KeepsSlots s actions := by
  have htotal := State.slots_of_after h
  have hheld : st.held ≤ s.slots := by omega
  have hfree : st.free = 0 ↔ st.held = s.slots := by omega
  constructor
  · exact Strategy.slots?_pos hslots
  · exact Strategy.slots?_le hslots
  · exact hheld
  · exact Nat.le_trans st.inFlight_le_held hheld
  · exact State.calls_length h
  · exact htotal
  · intro k job hjob
    exact State.slot_of_after h hjob
  · rw [← hfree]
    exact st.dispatch_eq_none_iff
  · intro hone
    exact (State.inTurn_of_after h hone).calls

end Run

end JobMatrix

/-! ## A slot handed on -/

namespace JobMatrix.Small

open Run

/-- The only slot comes back from a task that aborts, and the next job takes it. -/
def handedOn : List Action :=
  [.dispatch, .begin 0 (.ok "/tmp/0"), .decide 0, .abort 0, .dispatch,
    .begin 1 (.ok "/tmp/1"), .decide 1]

theorem keepsSlots_handedOn :
    ∃ st, State.after (setup 1) handedOn = some st ∧ st.KeepsSlots (setup 1) handedOn ∧
      st.calls.map Call.job = [0, 1] :=
  ⟨_, rfl, State.keepsSlots slots?_sequential rfl, rfl⟩

end JobMatrix.Small
