import JobMatrix.Proofs.Job.Alone
import JobMatrix.Proofs.Run.Account

/-!
# Runs with a fixed runner

The runner of the commands may be a function: the request fixes the reply, except for the
time it takes, or that the task of the job aborts. In a served run every command is answered
by such a function, every workspace can be created, and nobody cancels.
-/

namespace JobMatrix.Run

variable {s : Setup} {st st' last : State} {a : Action} {actions : List Action} {k : Nat}
  {i : Instance} {phase phase' : Phase} {events : List Event} {calls : List Call}
  {answers : Request → Option Reply}

/-! ## The request that a job waits for -/

/-- The last request of the job at position `k`. -/
def State.asked? (st : State) (k : Nat) : Option Request :=
  (st.calls.filter (·.job == k)).getLast?.map Call.request

/-- A move to a running command makes the call for it. -/
theorem Move.calls_of_running {t : Duration} {path : String} {records : List StepRecord}
    {step : JobMatrix.Step} {todo : List JobMatrix.Step}
    (h : Move s st k i phase a (.working t path (.running records step todo)) events calls) :
    calls = [⟨st.clock, k, records.length, i.request s.pipeline path step⟩] := by
  cases h
  rfl

/-- A job whose command runs waits for its last request. -/
def State.Asking (s : Setup) (st : State) : Prop :=
  ∀ k i t path records step todo,
    st.jobs[k]? = some ⟨i, .working t path (.running records step todo)⟩ →
      st.asked? k = some (i.request s.pipeline path step)

theorem Step.asking (h : Step s st a st') (hst : st.Asking s) : st'.Asking s := by
  cases h with
  | @move j job _ _ events calls _ _ hjob hmove _ _ =>
    intro k i t path records step todo hrunning
    rcases job_of_set hrunning with ⟨rfl, heq⟩ | ⟨hk, hsame⟩
    · cases heq
      simp [State.asked?, hmove.calls_of_running]
    · -- The calls of another job are not among those of this one.
      have hothers : calls.filter (·.job == k) = [] := by
        rw [List.filter_eq_nil_iff]
        intro call hcall
        simpa [hmove.calls_job call hcall] using hk
      simpa [State.asked?, hothers] using hst k i t path records step todo hsame
  | _ => exact hst

theorem State.asking_of_after (h : State.after s actions = some st) : st.Asking s := by
  refine State.after_induction (P := fun _ st => st.Asking s) ?_ ?_ h
  · intro k i t path records step todo hrunning
    simp [State.start] at hrunning
  · intro actions st a st' _ ih hstep
    exact hstep.asking ih

/-! ## Served runs -/

/-- What may happen in a state of a served run. -/
def Obeys (answers : Request → Option Reply) (st : State) : Action → Prop
  | .begin _ workspace => ∃ path, workspace = .ok path
  | .answer k reply => ∃ request given, st.asked? k = some request ∧ answers request = some given ∧
      untimedReply reply = untimedReply given
  | .abort k => ∃ request, st.asked? k = some request ∧ answers request = none
  | .cancel => False
  | _ => True

/-- A served run from one state to another. -/
inductive Served (answers : Request → Option Reply) (s : Setup) : State → List Action → State → Prop
  | nil {st : State} : Served answers s st [] st
  | cons {st st' last : State} {a : Action} {actions : List Action}
      (hobeys : Obeys answers st a) (happly : st.apply s a = some st')
      (hrest : Served answers s st' actions last) : Served answers s st (a :: actions) last

theorem Served.run_eq (h : Served answers s st actions last) : st.run s actions = some last := by
  induction h with
  | nil => rfl
  | cons _ happly _ ih => rw [State.run_cons, happly, Option.bind_some, ih]

theorem Served.append {rest : List Action} (h : Served answers s st actions st')
    (hrest : Served answers s st' rest last) : Served answers s st (actions ++ rest) last := by
  induction h with
  | nil => exact hrest
  | cons hobeys happly _ ih => exact .cons hobeys happly (ih hrest)

theorem Served.after {before : List Action} (hst : State.after s before = some st)
    (h : Served answers s st actions last) : State.after s (before ++ actions) = some last := by
  rw [State.after_append, hst, Option.bind_some, h.run_eq]

end JobMatrix.Run
