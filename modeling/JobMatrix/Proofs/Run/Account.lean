import JobMatrix.Proofs.Job.Records
import JobMatrix.Proofs.Run.Trace

/-!
# What the actions of a run account for

The phase of a job is accounted for by the actions that were about it: the workspace that it
got, the replies to its commands in their order, and whether its task aborted. A result says
how the job ended, and no job is skipped or stopped for the sake of a cancellation that did
not happen.
-/

namespace JobMatrix

/-- Whether a job in a phase has ever taken a slot. -/
def Phase.tookSlot : Phase → Bool
  | .waiting | .skipped _ => false
  | _ => true

namespace Run

/-! ## The actions about one job -/

/-- The workspace that an action gives to the job at position `k`. -/
def Action.workspace? (k : Nat) : Action → Option (Except String String)
  | .begin j workspace => if j = k then some workspace else none
  | _ => none

/-- The reply that an action gives to the job at position `k`. -/
def Action.reply? (k : Nat) : Action → Option Reply
  | .answer j reply => if j = k then some reply else none
  | _ => none

/-- What the job at position `k` got for a workspace, once for each begin. -/
def workspaces (k : Nat) (actions : List Action) : List (Except String String) :=
  actions.filterMap (Action.workspace? k)

/-- The replies to the commands of the job at position `k`, in order. -/
def replies (k : Nat) (actions : List Action) : List Reply :=
  actions.filterMap (Action.reply? k)

variable {s : Setup} {st st' : State} {a : Action} {actions : List Action} {k : Nat}

@[simp] theorem workspaces_nil : workspaces k [] = [] := rfl

@[simp] theorem replies_nil : replies k [] = [] := rfl

@[simp] theorem workspaces_concat :
    workspaces k (actions ++ [a]) = workspaces k actions ++ (a.workspace? k).toList := by
  cases h : a.workspace? k <;> simp [workspaces, h]

@[simp] theorem replies_concat :
    replies k (actions ++ [a]) = replies k actions ++ (a.reply? k).toList := by
  cases h : a.reply? k <;> simp [replies, h]

theorem workspaces_cons :
    workspaces k (a :: actions) = (a.workspace? k).toList ++ workspaces k actions := by
  cases h : a.workspace? k <;> simp [workspaces, h]

theorem replies_cons : replies k (a :: actions) = (a.reply? k).toList ++ replies k actions := by
  cases h : a.reply? k <;> simp [replies, h]

theorem Action.workspace?_eq_none (h : a.job? ≠ some k) : a.workspace? k = none := by
  cases a <;> simp_all [Action.job?, Action.workspace?]

theorem Action.reply?_eq_none (h : a.job? ≠ some k) : a.reply? k = none := by
  cases a <;> simp_all [Action.job?, Action.reply?]

theorem Action.ne_abort (h : a.job? ≠ some k) : Action.abort k ≠ a := by
  rintro rfl
  exact h rfl

/-! ## Cancellation -/

theorem Move.ne_cancel {i : Instance} {phase phase' : Phase} {events : List Event}
    {calls : List Call} (h : Move s st k i phase a phase' events calls) : a ≠ .cancel := by
  cases h <;> simp

theorem State.cancelled_iff_of_run (hst : st.InOrder) (h : st.run s actions = some st') :
    st'.cancelled = true ↔ st.cancelled = true ∨ .cancel ∈ actions := by
  refine State.run_induction
    (P := fun actions st' => st'.cancelled = true ↔ st.cancelled = true ∨ .cancel ∈ actions)
    hst (by simp) ?_ h
  intro actions mid a next _ ih hstep
  cases hstep with
  | move _ hmove _ _ => simpa [hmove.ne_cancel.symm] using ih
  | collect _ => simpa using ih
  | cancel => simp
  | pass d => simpa using ih
  | complete _ _ _ => simpa using ih

theorem State.cancelled_iff_of_after (h : State.after s actions = some st) :
    st.cancelled = true ↔ .cancel ∈ actions := by
  have hrun := State.cancelled_iff_of_run State.inOrder_start h
  simpa [State.start] using hrun

/-! ## Phases -/

/-- Nothing happened to a job but that it was dispatched. -/
structure Untouched (actions : List Action) (k : Nat) : Prop where
  workspaces : workspaces k actions = []
  replies : replies k actions = []
  abort : .abort k ∉ actions

/-- The end of the job `i` at position `k` that its result tells of. -/
inductive Ended (actions : List Action) (k : Nat) (i : Instance) : JobResult → Prop
  | worked {path records failure t t' d} (hworkspaces : workspaces k actions = [.ok path])
      (hends : i.Ends records (replies k actions) failure) :
      Ended actions k i (i.finished records failure t t' d)
  | barred {cause t t' d} (hworkspaces : workspaces k actions = [.error cause])
      (hreplies : replies k actions = []) :
      Ended actions k i (i.finished [] (some (Instance.workspaceFailure cause)) t t' d)

/-- What some actions have to tell about the job `i` at position `k` for it to be in a phase since it
took a slot. -/
def Traced (actions : List Action) (k : Nat) (i : Instance) : Phase → Prop
  | .waiting | .skipped _ => False
  | .spawned => Untouched actions k
  | .working _ path progress =>
    workspaces k actions = [.ok path] ∧ .abort k ∉ actions ∧ i.Reached (replies k actions) progress
  | .settled result | .released result | .published result =>
    .abort k ∉ actions ∧ Ended actions k i result
  | .aborted => .abort k ∈ actions ∧ ∃ path, workspaces k actions = [.ok path]

/-- What some actions have to tell about the job `i` at position `k` for it to be in a phase. -/
def Accounts (actions : List Action) (k : Nat) (i : Instance) : Phase → Prop
  | .waiting => Untouched actions k
  | .skipped result =>
    Untouched actions k ∧
      (i.willRun = false ∧ result = i.skipped .conditionFalse ∨
        i.willRun = true ∧ .cancel ∈ actions ∧ result = i.skipped .cancelled)
  | .spawned => Untouched actions k ∧ i.willRun = true
  | .working _ path progress =>
    i.willRun = true ∧ workspaces k actions = [.ok path] ∧ .abort k ∉ actions ∧
      i.Reached (replies k actions) progress
  | .settled result | .released result | .published result =>
    i.willRun = true ∧ .abort k ∉ actions ∧ Ended actions k i result
  | .aborted =>
    i.willRun = true ∧ .abort k ∈ actions ∧ ∃ path, workspaces k actions = [.ok path]

variable {i : Instance} {phase phase' : Phase} {events : List Event} {calls : List Call}

theorem Untouched.concat (h : Untouched actions k) (hworkspace : a.workspace? k = none)
    (hreply : a.reply? k = none) (habort : .abort k ≠ a) : Untouched (actions ++ [a]) k where
  workspaces := by simp [h.workspaces, hworkspace]
  replies := by simp [h.replies, hreply]
  abort := by simp [h.abort, habort]

theorem Ended.concat {result : JobResult} (h : Ended actions k i result)
    (hworkspace : a.workspace? k = none) (hreply : a.reply? k = none) :
    Ended (actions ++ [a]) k i result := by
  cases h with
  | worked hworkspaces hends =>
    exact .worked (by simpa [hworkspace] using hworkspaces) (by simpa [hreply] using hends)
  | barred hworkspaces hreplies =>
    exact .barred (by simpa [hworkspace] using hworkspaces) (by simpa [hreply] using hreplies)

/-- An action with neither a workspace nor a reply nor an abort for a job changes no trace. -/
theorem Traced.concat (h : Traced actions k i phase) (hworkspace : a.workspace? k = none)
    (hreply : a.reply? k = none) (habort : .abort k ≠ a) :
    Traced (actions ++ [a]) k i phase := by
  cases phase with
  | waiting | skipped result => exact h.elim
  | spawned => exact Untouched.concat h hworkspace hreply habort
  | working t path progress =>
    obtain ⟨hworkspaces, hnone, hreached⟩ := h
    refine ⟨?_, ?_, ?_⟩
    · simpa [hworkspace] using hworkspaces
    · simp [hnone, habort]
    · simpa [hreply] using hreached
  | settled result | released result | published result =>
    obtain ⟨hnone, hended⟩ := h
    exact ⟨by simp [hnone, habort], hended.concat hworkspace hreply⟩
  | aborted =>
    obtain ⟨haborted, path, hworkspaces⟩ := h
    exact ⟨List.mem_append_left _ haborted, path, by simpa [hworkspace] using hworkspaces⟩

/-- A move keeps the trace of its job. -/
theorem Traced.move (hmove : Move s st k i phase a phase' events calls)
    (h : Traced actions k i phase) : Traced (actions ++ [a]) k i phase' := by
  cases hmove with
  | skip _ | drop _ _ | spawn _ _ => exact h.elim
  | enter path =>
    have huntouched : Untouched actions k := h
    refine ⟨?_, ?_, [], rfl, ?_⟩
    · simp [huntouched.workspaces, Action.workspace?]
    · simp [huntouched.abort]
    · simpa [huntouched.replies, Action.reply?] using Instance.Took.nil
  | bar cause =>
    have huntouched : Untouched actions k := h
    refine ⟨?_, .barred ?_ ?_⟩
    · simp [huntouched.abort]
    · simp [huntouched.workspaces, Action.workspace?]
    · simp [huntouched.replies, Action.reply?]
  -- A look at the next step is no reply, so the trace of the steps before stands.
  | finish =>
    obtain ⟨hworkspaces, hnone, done, hsteps, htook⟩ := h.concat (a := .decide k) rfl rfl nofun
    rw [List.append_nil] at hsteps
    exact ⟨hnone, .worked hworkspaces (.finished (hsteps ▸ htook))⟩
  | stop _ =>
    obtain ⟨hworkspaces, hnone, done, hsteps, htook⟩ := h.concat (a := .decide k) rfl rfl nofun
    exact ⟨hnone, .worked hworkspaces (.stopped hsteps htook)⟩
  | pass _ hcond =>
    obtain ⟨hworkspaces, hnone, done, hsteps, htook⟩ := h.concat (a := .decide k) rfl rfl nofun
    exact ⟨hworkspaces, hnone, done ++ [_], by simpa using hsteps, htook.pass hcond⟩
  | ask _ hcond =>
    obtain ⟨hworkspaces, hnone, done, hsteps, htook⟩ := h.concat (a := .decide k) rfl rfl nofun
    exact ⟨hworkspaces, hnone, done, hsteps, htook, hcond⟩
  | goOn hjudge =>
    obtain ⟨hworkspaces, hnone, done, hsteps, htook, hcond⟩ := h
    refine ⟨?_, ?_, done ++ [_], by simpa using hsteps, ?_⟩
    · simpa [Action.workspace?] using hworkspaces
    · simpa using hnone
    · simpa [Action.reply?] using htook.run hcond hjudge
  | @giveUp _ path _ _ _ reply _ _ hjudge =>
    obtain ⟨hworkspaces, hnone, done, hsteps, htook, hcond⟩ := h
    have hsame : workspaces k (actions ++ [.answer k reply]) = [.ok path] := by
      simpa [Action.workspace?] using hworkspaces
    refine ⟨?_, .worked hsame ?_⟩
    · simpa using hnone
    · simpa [Action.reply?] using Instance.Ends.failed hsteps htook hcond hjudge
  | abort =>
    -- What the job has done so far is lost with its task.
    obtain ⟨hworkspaces, -, -⟩ := h
    exact ⟨by simp, _, by simpa [Action.workspace?] using hworkspaces⟩
  | release => exact h.concat rfl rfl nofun
  | publish => exact h.concat rfl rfl nofun

/-- A job with a trace is accounted for if it was to run. -/
theorem Traced.accounts (h : Traced actions k i phase) (hrun : i.willRun = true) :
    Accounts actions k i phase := by
  cases phase with
  | waiting | skipped result => exact h.elim
  | spawned => exact ⟨h, hrun⟩
  | working t path progress | settled result | released result | published result | aborted =>
    exact ⟨hrun, h⟩

/-- A job that took a slot was to run and has a trace. -/
theorem Accounts.traced (h : Accounts actions k i phase) (htook : phase.tookSlot = true) :
    i.willRun = true ∧ Traced actions k i phase := by
  cases phase with
  | waiting | skipped result => cases htook
  | spawned => exact h.symm
  | working t path progress | settled result | released result | published result | aborted =>
    exact h

/-- An action with neither a workspace nor a reply nor an abort for a job changes no account. -/
theorem Accounts.concat (h : Accounts actions k i phase) (hworkspace : a.workspace? k = none)
    (hreply : a.reply? k = none) (habort : .abort k ≠ a) :
    Accounts (actions ++ [a]) k i phase := by
  cases phase with
  | waiting => exact Untouched.concat h hworkspace hreply habort
  | skipped result =>
    obtain ⟨huntouched, hskipped | ⟨hrun, hcancel, hresult⟩⟩ := h
    · exact ⟨huntouched.concat hworkspace hreply habort, .inl hskipped⟩
    · exact ⟨huntouched.concat hworkspace hreply habort,
        .inr ⟨hrun, List.mem_append_left _ hcancel, hresult⟩⟩
  | spawned | working t path progress | settled result | released result | published result
  | aborted =>
    obtain ⟨hrun, htraced⟩ := h.traced rfl
    exact (htraced.concat hworkspace hreply habort).accounts hrun

/-- A move keeps the account of its job. -/
theorem Accounts.move (hmove : Move s st k i phase a phase' events calls)
    (hcancel : st.cancelled = true → .cancel ∈ actions) (h : Accounts actions k i phase) :
    Accounts (actions ++ [a]) k i phase' := by
  have hkept : Traced actions k i phase → Traced (actions ++ [a]) k i phase' := Traced.move hmove
  cases hmove with
  | skip hrun => exact ⟨Untouched.concat h rfl rfl nofun, .inl ⟨hrun, rfl⟩⟩
  | drop hrun hcancelled =>
    exact ⟨Untouched.concat h rfl rfl nofun,
      .inr ⟨hrun, List.mem_append_left _ (hcancel hcancelled), rfl⟩⟩
  | spawn hrun _ => exact ⟨Untouched.concat h rfl rfl nofun, hrun⟩
  | enter | bar | finish | stop | pass | ask | goOn | giveUp | abort | release | publish =>
    obtain ⟨hrun, htraced⟩ := h.traced rfl
    exact (hkept htraced).accounts hrun

/-- Every phase in a run is accounted for by the actions before. -/
theorem State.accounts_of_after (h : State.after s actions = some st) {job : Job}
    (hjob : st.jobs[k]? = some job) : Accounts actions k job.inst job.phase := by
  refine State.job_induction (P := Accounts) ?_ ?_ ?_ h hjob
  · intro k i _
    exact ⟨rfl, rfl, by simp⟩
  · intro actions a k i phase hother hbefore
    exact hbefore.concat (Action.workspace?_eq_none hother) (Action.reply?_eq_none hother)
      (Action.ne_abort hother)
  · intro actions st a k i phase phase' events calls hafter _ hmove hbefore
    exact hbefore.move hmove (State.cancelled_iff_of_after hafter).1

end Run

end JobMatrix
