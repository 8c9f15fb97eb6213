import Mathlib.Data.List.Forall2
import JobMatrix.Proofs.Run.Account

/-!
# The calls of a job

The calls of all jobs lie mixed in one list, each with the position of its job. Those of one job
depend only on its phase: one call for each record of a step that was not skipped, in the same
order, and one more while a command runs. A call carries the request of its step.
-/

namespace JobMatrix.Run

/-- The calls made by the job at position `k`, in order. -/
def callsOf (k : Nat) (calls : List Call) : List Call :=
  calls.filter (·.job == k)

/-- The records of the steps that asked for their commands, in order. -/
def unskipped (records : List StepRecord) : List StepRecord :=
  records.filter (·.status != .skipped)

variable {s : Setup} {st st' : State} {a : Action} {actions : List Action} {k : Nat} {p : Pipeline}
  {i : Instance} {phase phase' : Phase} {events : List Event} {calls new : List Call}

@[simp] theorem callsOf_append (first rest : List Call) :
    callsOf k (first ++ rest) = callsOf k first ++ callsOf k rest :=
  List.filter_append ..

@[simp] theorem unskipped_concat_skipped (records : List StepRecord) (n : Nat)
    (label command : String) :
    unskipped (records ++ [.skipped n label command]) = unskipped records := by
  simp [unskipped, StepRecord.skipped]

theorem unskipped_concat {records : List StepRecord} {record : StepRecord}
    (h : record.status ≠ .skipped) :
    unskipped (records ++ [record]) = unskipped records ++ [record] := by
  simp [unskipped, h]

/-! ## The calls of a move -/

/-- A step adds to the calls of a job exactly those that the job makes. -/
theorem Step.calls_back (h : Step s st a st') {job : Job} (hjob : st'.jobs[k]? = some job) :
    ∃ phase, st.jobs[k]? = some ⟨job.inst, phase⟩ ∧
      (phase = job.phase ∧ a.job? ≠ some k ∧ callsOf k st'.calls = callsOf k st.calls ∨
        ∃ events calls, Move s st k job.inst phase a job.phase events calls ∧
          callsOf k st'.calls = callsOf k st.calls ++ calls) := by
  cases h with
  | @move j other _ phase events calls _ _ hother hmove hfront _ =>
    have hown := hmove.calls_job
    simp only [callsOf_append]
    rcases job_of_set hjob with ⟨rfl, rfl⟩ | ⟨hk, hsame⟩
    · have hall : callsOf j calls = calls := by simpa [callsOf] using hown
      exact ⟨other.phase, hother, .inr ⟨events, calls, hmove, by rw [hall]⟩⟩
    · -- The calls of another job carry its position, and so are none of this one's.
      have hnone : callsOf k calls = [] := by
        simpa [callsOf] using fun call hcall => (hown call hcall).trans_ne hk
      refine ⟨job.phase, hsame, .inl ⟨rfl, ?_, by rw [hnone, List.append_nil]⟩⟩
      rcases hfront with ⟨rfl, -⟩ | ⟨hnamed, -⟩
      · simp [Action.job?]
      · simpa [hnamed] using hk
  | _ => exact ⟨job.phase, hjob, .inl ⟨rfl, by simp [Action.job?], rfl⟩⟩

/-- What holds of a job and its calls while it waits, and is kept by the actions of others and by
its own moves, holds in every state of a run. -/
theorem State.calls_induction {P : List Action → Nat → Instance → Phase → List Call → Prop}
    (hwaiting : ∀ {k i}, P [] k i .waiting [])
    (hstay : ∀ {actions a k i phase calls}, a.job? ≠ some k → P actions k i phase calls →
      P (actions ++ [a]) k i phase calls)
    (hmove : ∀ {actions st a k i phase phase' events calls new},
      Accounts actions k i phase → Move s st k i phase a phase' events new →
      P actions k i phase calls → P (actions ++ [a]) k i phase' (calls ++ new))
    (h : State.after s actions = some st) {job : Job} (hjob : st.jobs[k]? = some job) :
    P actions k job.inst job.phase (callsOf k st.calls) := by
  refine State.after_induction
    (P := fun actions st => ∀ k job, st.jobs[k]? = some job →
      P actions k job.inst job.phase (callsOf k st.calls)) ?_ ?_ h k job hjob
  · intro k job hjob
    simp only [State.start, List.getElem?_map, Option.map_eq_some_iff] at hjob
    obtain ⟨i, -, rfl⟩ := hjob
    exact hwaiting
  · intro actions st a st' hafter ih hstep k job hjob
    obtain ⟨phase, hbefore, ⟨rfl, hother, hcalls⟩ | ⟨events, calls, hown, hcalls⟩⟩ :=
      hstep.calls_back hjob
    · rw [hcalls]
      exact hstay hother (ih k _ hbefore)
    · have haccounts := State.accounts_of_after hafter hbefore
      rw [hcalls]
      exact hmove haccounts hown (ih k _ hbefore)

/-! ## The calls of a phase -/

/-- A call of the job `i` asks for a step at its position, in the workspace that the job got. -/
def AsksFor (p : Pipeline) (i : Instance) (workspaces : List (Except String String)) (call : Call)
    (step : JobMatrix.Step) : Prop :=
  i.template.steps[call.step]? = some step ∧
    ∃ path, workspaces = [.ok path] ∧ call.request = i.request p path step

/-- A call was made for the step of a record. -/
def Answered (p : Pipeline) (i : Instance) (workspaces : List (Except String String))
    (record : StepRecord) (call : Call) : Prop :=
  ∃ step, AsksFor p i workspaces call step ∧ record.IsOf i call.step step

/-- The calls of the job `i` in a phase. -/
inductive Calls (p : Pipeline) (i : Instance) (workspaces : List (Except String String)) :
    Phase → List Call → Prop
  | waiting : Calls p i workspaces .waiting []
  | skipped {result} : Calls p i workspaces (.skipped result) []
  | spawned : Calls p i workspaces .spawned []
  | ready {t path records todo calls}
      (hcalls : List.Forall₂ (Answered p i workspaces) (unskipped records) calls) :
      Calls p i workspaces (.working t path (.ready records todo)) calls
  | running {t path records step todo calls call}
      (hcalls : List.Forall₂ (Answered p i workspaces) (unskipped records) calls)
      (hcall : AsksFor p i workspaces call step) (hstep : call.step = records.length) :
      Calls p i workspaces (.working t path (.running records step todo)) (calls ++ [call])
  | settled {result calls}
      (hcalls : List.Forall₂ (Answered p i workspaces) (unskipped result.records) calls) :
      Calls p i workspaces (.settled result) calls
  | released {result calls}
      (hcalls : List.Forall₂ (Answered p i workspaces) (unskipped result.records) calls) :
      Calls p i workspaces (.released result) calls
  | published {result calls}
      (hcalls : List.Forall₂ (Answered p i workspaces) (unskipped result.records) calls) :
      Calls p i workspaces (.published result) calls
  /-- The last call was never answered. -/
  | aborted {records step calls call}
      (hcalls : List.Forall₂ (Answered p i workspaces) (unskipped records) calls)
      (hcall : AsksFor p i workspaces call step) :
      Calls p i workspaces .aborted (calls ++ [call])

/-- The reply to a call leaves its record. -/
theorem answered_concat {records : List StepRecord} {step : JobMatrix.Step} {reply : Reply}
    {record : StepRecord} {failure : Option JobFailure} {call : Call}
    {ws : List (Except String String)}
    (hcalls : List.Forall₂ (Answered p i ws) (unskipped records) calls)
    (hcall : AsksFor p i ws call step) (hstep : call.step = records.length)
    (hjudge : i.judge records.length step reply = (record, failure)) :
    List.Forall₂ (Answered p i ws) (unskipped (records ++ [record])) (calls ++ [call]) := by
  rw [unskipped_concat (Instance.judge_ne_skipped hjudge)]
  refine List.rel_append hcalls (.cons ⟨step, hcall, ?_⟩ .nil)
  rw [hstep]
  exact Instance.judge_isOf hjudge

/-- A move makes the calls that its job lacks for the next phase. -/
theorem Calls.move (hmove : Move s st k i phase a phase' events new)
    (haccounts : Accounts actions k i phase)
    (h : Calls s.pipeline i (workspaces k actions) phase calls) :
    Calls s.pipeline i (workspaces k (actions ++ [a])) phase' (calls ++ new) := by
  rw [workspaces_concat]
  cases hmove with
  | skip _ | drop _ _ => cases h; exact .skipped
  | spawn _ _ => cases h; exact .spawned
  -- No call was made without a workspace, so there is none to check against the one given now.
  | enter path => cases h; exact .ready .nil
  | bar cause => cases h; exact .settled .nil
  | finish | stop _ =>
    cases h with | ready hcalls => simpa [Action.workspace?] using Calls.settled hcalls
  | pass _ _ =>
    cases h with | ready hcalls =>
    refine .ready ?_
    simpa [Action.workspace?] using hcalls
  | @ask t path records step todo _ _ =>
    cases h with | ready hcalls =>
    obtain ⟨-, hworkspaces, -, done, hsteps, htook⟩ := haccounts
    -- Every step done has left a record, so their number is the position of the step asked for.
    refine .running (by simpa [Action.workspace?] using hcalls) ⟨?_, path, ?_, rfl⟩ rfl
    · simp [hsteps, htook.length_eq]
    · simpa [Action.workspace?] using hworkspaces
  | goOn hjudge =>
    cases h with | running hcalls hcall hstep =>
    simpa [Action.workspace?] using Calls.ready (answered_concat hcalls hcall hstep hjudge)
  | giveUp hjudge =>
    cases h with | running hcalls hcall hstep =>
    simpa [Action.workspace?] using Calls.settled (answered_concat hcalls hcall hstep hjudge)
  | abort =>
    cases h with | running hcalls hcall _ =>
    simpa [Action.workspace?] using Calls.aborted hcalls hcall
  | release =>
    cases h with | settled hcalls => simpa [Action.workspace?] using Calls.released hcalls
  | publish =>
    cases h with | released hcalls => simpa [Action.workspace?] using Calls.published hcalls

/-- In every state of a run the calls of a job are those of its phase. -/
theorem State.calls_of_after (h : State.after s actions = some st) {job : Job}
    (hjob : st.jobs[k]? = some job) :
    Calls s.pipeline job.inst (workspaces k actions) job.phase (callsOf k st.calls) := by
  refine State.calls_induction
    (P := fun actions k i phase calls => Calls s.pipeline i (workspaces k actions) phase calls)
    ?_ ?_ ?_ h hjob
  · intro k i
    exact .waiting
  · intro actions a k i phase calls hother hbefore
    simpa [Action.workspace?_eq_none hother] using hbefore
  · intro actions st a k i phase phase' events calls new haccounts hmove hbefore
    exact hbefore.move hmove haccounts

theorem asksFor_of_answered {ws : List (Except String String)} {records : List StepRecord}
    (h : List.Forall₂ (Answered p i ws) records calls) :
    ∀ call ∈ calls, ∃ step, AsksFor p i ws call step := by
  induction h with
  | nil => nofun
  | cons hanswered _ ih =>
    obtain ⟨step, hasks, -⟩ := hanswered
    exact List.forall_mem_cons.2 ⟨⟨step, hasks⟩, ih⟩

/-- Every call of a job asks for one of its steps, whether it is answered or not. -/
theorem Calls.asksFor {ws : List (Except String String)} (h : Calls p i ws phase calls) :
    ∀ call ∈ calls, ∃ step, AsksFor p i ws call step := by
  cases h with
  | waiting | skipped | spawned => nofun
  | ready hcalls | settled hcalls | released hcalls | published hcalls =>
    exact asksFor_of_answered hcalls
  | running hcalls hcall _ | aborted hcalls hcall =>
    exact List.forall_mem_append.2 ⟨asksFor_of_answered hcalls, by simpa using ⟨_, hcall⟩⟩

end JobMatrix.Run
