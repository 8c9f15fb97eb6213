import JobMatrix.Proofs.Job.Outcome
import JobMatrix.Proofs.Run.Course

/-!
# The executor

What becomes of a job whose task has been started, in any state and whatever the other jobs do. If
its commands are answered the job comes to a result, and every result that it comes to tells of its
workspace, of the replies and of the cancellation.
-/

namespace JobMatrix

/-- The result that a job in a phase has come to. -/
def Phase.result? : Phase → Option JobResult
  | .settled result | .released result | .published result => some result
  | _ => none

/-- A result tells of a cancellation between two steps: no record shows why the job failed. -/
def JobResult.Stopped (result : JobResult) : Prop :=
  result.failure = some .cancelled ∧ ∀ record ∈ result.records, record.status ≠ .failed

namespace Run

variable {s : Setup} {st st' last : State} {a : Action} {actions : List Action} {k : Nat}
  {i : Instance} {phase phase' : Phase} {events : List Event} {calls : List Call}
  {result : JobResult} {t : Duration} {path : String} {records : List StepRecord}
  {todo : List JobMatrix.Step} {given : List Reply}

/-! ## Results tell the outcome -/

theorem Ended.exists_outcome (h : Ended actions k i result) :
    ∃ workspace, workspaces k actions = [workspace] ∧
      i.Outcome workspace (replies k actions) result := by
  cases h with
  | worked hworkspaces hends => exact ⟨_, hworkspaces, hends.outcome⟩
  | barred hworkspaces hreplies => exact ⟨_, hworkspaces, hreplies ▸ i.outcome_barred _⟩

theorem Traced.ended (h : Traced actions k i phase) (hresult : phase.result? = some result) :
    Ended actions k i result := by
  cases phase with
  | settled _ | released _ | published _ =>
    cases hresult
    exact h.2
  | waiting | skipped _ | spawned | working _ _ _ | aborted => cases hresult

/-- From the start of its task on, the actions that are about a job tell its phase. -/
theorem State.traced_of_run (hst : st.InOrder) (hjob : st.jobs[k]? = some ⟨i, .spawned⟩)
    (h : st.run s actions = some st') :
    ∃ phase, st'.jobs[k]? = some ⟨i, phase⟩ ∧ Traced actions k i phase := by
  refine State.run_job_induction (P := fun actions phase => Traced actions k i phase) hst hjob
    ⟨rfl, rfl, by simp⟩ ?_ ?_ h
  · intro actions a phase hother hbefore
    exact hbefore.concat (Action.workspace?_eq_none hother) (Action.reply?_eq_none hother)
      (Action.ne_abort hother)
  · intro actions mid a phase phase' events calls _ _ hmove hbefore
    exact hbefore.move hmove

/-! ## Cancellation -/

/-- A move to a result that was stopped is made while the run is cancelled. -/
theorem Move.cancelled_of_stopped (h : Move s st k i phase a phase' events calls)
    (hbefore : phase.result? ≠ some result) (hresult : phase'.result? = some result)
    (hstopped : result.Stopped) : st.cancelled = true := by
  cases h with
  | stop hcancelled => exact hcancelled
  | finish | bar _ =>
    cases hresult
    cases hstopped.1
  | giveUp hjudge =>
    cases hresult
    have hnot := hstopped.2 _ (List.mem_append_right _ List.mem_cons_self)
    exact absurd (Instance.judge_some hjudge) hnot
  | release | publish => exact absurd hresult hbefore
  | skip _ | drop _ _ | spawn _ _ | enter _ | pass _ _ | ask _ _ | goOn _ | abort => cases hresult

/-- No job is stopped for the sake of a cancellation that did not happen. -/
theorem State.cancelled_of_stopped (hst : st.InOrder) (hjob : st.jobs[k]? = some ⟨i, .spawned⟩)
    (h : st.run s actions = some last) (hlast : last.jobs[k]? = some ⟨i, phase⟩)
    (hresult : phase.result? = some result) (hstopped : result.Stopped) :
    last.cancelled = true := by
  have hkept : ∃ phase, last.jobs[k]? = some ⟨i, phase⟩ ∧
      (phase.result? = some result → st.cancelled = true ∨ .cancel ∈ actions) := by
    refine State.run_job_induction
      (P := fun actions phase =>
        phase.result? = some result → st.cancelled = true ∨ .cancel ∈ actions)
      hst hjob nofun ?_ ?_ h
    · intro actions a phase _ hbefore hresult
      exact (hbefore hresult).imp id (List.mem_append_left _)
    · intro actions mid a phase phase' events calls hmid _ hmove hbefore hresult
      -- Only the move that settles the job is of interest, the later ones keep its result.
      refine Or.imp id (List.mem_append_left _) ?_
      by_cases hsame : phase.result? = some result
      · exact hbefore hsame
      · exact (State.cancelled_iff_of_run hst hmid).1
          (hmove.cancelled_of_stopped hsame hresult hstopped)
  obtain ⟨phase', hsame, hcancelled⟩ := hkept
  rw [hlast] at hsame
  cases hsame
  exact (State.cancelled_iff_of_run hst h).2 (hcancelled hresult)

/-! ## Jobs come to a result -/

/-- The job `i` at position `k` can come to a result with the first of some replies. -/
def State.Settles (s : Setup) (st : State) (k : Nat) (i : Instance) (given : List Reply) : Prop :=
  ∃ actions last result, st.run s actions = some last ∧
    last.jobs[k]? = some ⟨i, .settled result⟩ ∧ workspaces k actions = [] ∧
    replies k actions <+: given

theorem State.Settles.of_settled (given : List Reply)
    (hjob : st.jobs[k]? = some ⟨i, .settled result⟩) : st.Settles s k i given :=
  ⟨[], st, result, rfl, hjob, rfl, List.nil_prefix⟩

theorem State.Settles.of_apply (h : st'.Settles s k i given) (happly : st.apply s a = some st')
    (hworkspace : a.workspace? k = none) : st.Settles s k i ((a.reply? k).toList ++ given) := by
  obtain ⟨actions, last, result, hrun, hjob, hworkspaces, hreplies⟩ := h
  refine ⟨a :: actions, last, result, ?_, hjob, ?_, ?_⟩
  · rw [State.run_cons, happly]
    exact hrun
  · rw [workspaces_cons, hworkspace, Option.toList_none, List.nil_append]
    exact hworkspaces
  · rw [replies_cons]
    exact (List.prefix_append_right_inj _).2 hreplies

/-- A job comes to a result if there are replies for all its steps to do. -/
theorem State.settles_of_ready (hst : st.InOrder)
    (hjob : st.jobs[k]? = some ⟨i, .working t path (.ready records todo)⟩)
    (henough : todo.length ≤ given.length) : st.Settles s k i given := by
  induction todo generalizing st records given with
  | nil =>
    obtain ⟨st', _, _, _, happly, -, hafter, hmove⟩ :=
      State.exists_move (s := s) hst hjob rfl (State.isSome_decide hjob)
    cases hmove with
    | finish => exact (State.Settles.of_settled given hafter).of_apply happly rfl
  | cons step todo ih =>
    obtain ⟨st', _, _, _, happly, horder, hafter, hmove⟩ :=
      State.exists_move (s := s) hst hjob rfl (State.isSome_decide hjob)
    cases hmove with
    | stop _ => exact (State.Settles.of_settled given hafter).of_apply happly rfl
    | pass _ _ => exact (ih horder hafter (Nat.le_of_succ_le henough)).of_apply happly rfl
    | ask _ _ =>
      -- The command takes one reply, and no other step has taken it yet.
      obtain ⟨reply, rest, rfl⟩ := List.exists_cons_of_length_pos (Nat.zero_lt_of_lt henough)
      refine State.Settles.of_apply (a := .decide k) ?_ happly rfl
      obtain ⟨st'', _, _, _, happly', horder', hafter', hmove'⟩ :=
        State.exists_move (s := s) horder hafter rfl (State.isSome_answer hafter reply)
      cases hmove' with
      | goOn _ =>
        have hrest := ih horder' hafter' (Nat.le_of_succ_le_succ henough)
        simpa [Action.reply?] using hrest.of_apply happly' rfl
      | giveUp _ =>
        have hrest := State.Settles.of_settled (s := s) rest hafter'
        simpa [Action.reply?] using hrest.of_apply happly' rfl

/-- A job whose task was started comes to a result if there are replies for all its steps. -/
theorem State.exists_result (hst : st.InOrder) (hjob : st.jobs[k]? = some ⟨i, .spawned⟩)
    (workspace : Except String String) (henough : i.template.steps.length ≤ given.length) :
    ∃ actions last result, st.run s actions = some last ∧
      last.jobs[k]? = some ⟨i, .settled result⟩ ∧ workspaces k actions = [workspace] ∧
      replies k actions <+: given := by
  obtain ⟨st', _, _, _, happly, horder, hafter, hmove⟩ :=
    State.exists_move (s := s) hst hjob rfl (State.isSome_begin hjob workspace)
  have hsettles : st'.Settles s k i given := by
    cases hmove with
    | enter path => exact State.settles_of_ready horder hafter henough
    | bar cause => exact .of_settled given hafter
  obtain ⟨actions, last, result, hrun, hlast, hworkspaces, hreplies⟩ := hsettles
  refine ⟨.begin k workspace :: actions, last, result, ?_, hlast, ?_, hreplies⟩
  · rw [State.run_cons, happly]
    exact hrun
  · simp [workspaces_cons, Action.workspace?, hworkspaces]

/-- A job whose task is started in a state comes to a result for every workspace and all replies, and
every result that it comes to in a run from there tells the outcome. A job is stopped between two
steps only if the run is cancelled. -/
theorem State.outcome_of_run (hst : st.InOrder) (hjob : st.jobs[k]? = some ⟨i, .spawned⟩) :
    (∀ workspace given, i.template.steps.length ≤ given.length →
      ∃ actions last result, st.run s actions = some last ∧
        last.jobs[k]? = some ⟨i, .settled result⟩ ∧ workspaces k actions = [workspace] ∧
        replies k actions <+: given) ∧
      ∀ actions last phase result, st.run s actions = some last →
        last.jobs[k]? = some ⟨i, phase⟩ → phase.result? = some result →
          (∃ workspace, workspaces k actions = [workspace] ∧
            i.Outcome workspace (replies k actions) result) ∧
          (result.Stopped → last.cancelled = true) := by
  refine ⟨fun workspace given henough => State.exists_result hst hjob workspace henough, ?_⟩
  intro actions last phase result hrun hlast hresult
  refine ⟨?_, State.cancelled_of_stopped hst hjob hrun hlast hresult⟩
  obtain ⟨phase', hsame, htraced⟩ := State.traced_of_run hst hjob hrun
  rw [hlast] at hsame
  cases hsame
  exact (htraced.ended hresult).exists_outcome

end Run

end JobMatrix

/-! ## An uneven job -/

namespace JobMatrix.Small

open Run

/-- A job that skips a step, tolerates the failure of the next, and runs out of time in the last. -/
def uneven : Instance where
  template := { template with
    steps := [
      ⟨"lint", "make lint", false, some (.compare (.axis "os") .equal (.value "mac")), ⟨[]⟩, none⟩,
      ⟨"test", "make test", true, none, ⟨[]⟩, none⟩,
      ⟨"docs", "make docs", false, none, ⟨[]⟩, some 30⟩] }
  binding := ⟨[("os", "bsd")]⟩

/-- The task of the only job has been started. -/
def started : State :=
  { State.start (setup 1) with jobs := [⟨uneven, .spawned⟩], dispatched := 1, free := 0 }

def unevenRun : List Action :=
  [.begin 0 (.ok "/tmp/0"), .decide 0, .decide 0, .answer 0 (.ok ⟨.exited (some 2), "", "", ⟨5⟩⟩),
    .decide 0, .answer 0 (.ok ⟨.timedOut, "", "", ⟨30000⟩⟩)]

theorem inOrder_started : started.InOrder := by
  intro k job hjob
  cases k with
  | zero =>
    cases hjob
    simp [started]
  | succ k => cases hjob

theorem outcome_of_run_uneven :
    ∃ last result, started.run (setup 1) unevenRun = some last ∧
      last.jobs[0]? = some ⟨uneven, .settled result⟩ ∧
      uneven.Outcome (.ok "/tmp/0") (replies 0 unevenRun) result ∧
      result.records.map StepRecord.status = [.skipped, .tolerated, .failed] ∧
      result.failure = some (.timedOut "docs" 30) := by
  obtain ⟨-, houtcome⟩ := State.outcome_of_run (s := setup 1) inOrder_started (k := 0) (i := uneven) rfl
  obtain ⟨⟨workspace, hworkspaces, hresult⟩, -⟩ := houtcome unevenRun _ _ _ rfl rfl rfl
  obtain rfl : Except.ok "/tmp/0" = workspace := List.head_eq_of_cons_eq hworkspaces
  exact ⟨_, _, rfl, rfl, hresult, rfl, rfl⟩

/-- A job with nothing to do. -/
def idle : Instance where
  template := { template with steps := [] }
  binding := ⟨[("os", "bsd")]⟩

/-- The task of a job with nothing to do has been started. -/
def startedIdle : State :=
  { started with jobs := [⟨idle, .spawned⟩] }

/-- A job with nothing to do fails if it gets no workspace, although every step of it has a record and
none of these is failed. -/
theorem not_complete_iff_idle :
    startedIdle.InOrder ∧ startedIdle.jobs[0]? = some ⟨idle, .spawned⟩ ∧
      ∃ last result, startedIdle.run (setup 1) [.begin 0 (.error "no space")] = some last ∧
        last.jobs[0]? = some ⟨idle, .settled result⟩ ∧ result.status = .failed ∧
        ¬ (result.failure = none ↔ result.records.length = idle.template.steps.length ∧
          ∀ record ∈ result.records, record.status ≠ .failed) := by
  refine ⟨fun k job hjob => ?_, rfl, _, _, rfl, rfl, rfl, fun hcomplete => ?_⟩
  · cases k with
    | zero =>
      cases hjob
      simp [startedIdle, started]
    | succ k => cases hjob
  · cases hcomplete.2 ⟨rfl, nofun⟩

end JobMatrix.Small
