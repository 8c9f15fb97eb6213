import Mathlib.Logic.ExistsUnique
import JobMatrix.Proofs.Job.Clean

/-!
# Outcomes

What the result of a job tells. Its records are those of the first steps, each with the status
that its condition and the reply to its command give it. Its status says whether it has a failure,
and a failure has one of three causes: there was no workspace, the last step failed, or the run was
cancelled between two steps.
-/

namespace JobMatrix

/-! ## Records -/

/-- What the record of the step at position `n` tells, for the reply to its command if there was
one. -/
structure Instance.Tells (i : Instance) (n : Nat) (step : Step) (reply : Option Reply)
    (record : StepRecord) : Prop where
  isOf : record.IsOf i n step
  asked_iff : reply.isSome = true ↔ Condition.allows step.condition i.binding = true
  skipped_iff : record.status = .skipped ↔ Condition.allows step.condition i.binding = false
  passed_iff : record.status = .passed ↔
    ∃ output, reply = some (.ok output) ∧ output.termination = .exited (some 0)
  /-- Any other exit, a signal and a timeout are tolerated if the step says so. -/
  tolerated_iff : record.status = .tolerated ↔ step.continueOnError = true ∧
    ∃ output, reply = some (.ok output) ∧ output.termination.Tolerable
  /-- A command that could not be run is not tolerated. -/
  failed_of_error : ∀ e, reply = some (.error e) → record.status = .failed
  /-- Neither is one that was cancelled. -/
  failed_of_cancelled : ∀ output, reply = some (.ok output) → output.termination = .cancelled →
    record.status = .failed

/-- Each of some steps has a record, in order. The replies are those to the commands that were asked
for. -/
inductive Instance.Recorded (i : Instance) : List Step → List StepRecord → List Reply → Prop
  | nil : Recorded i [] [] []
  | concat {done : List Step} {records : List StepRecord} {replies : List Reply} {step : Step}
      {reply : Option Reply} {record : StepRecord} (hrecorded : Recorded i done records replies)
      (htells : i.Tells records.length step reply record) :
      Recorded i (done ++ [step]) (records ++ [record]) (replies ++ reply.toList)

/-! ## Failures -/

/-- A failure agrees with the record of the step that failed and with the reply to its command. -/
inductive Instance.Agrees (i : Instance) (step : Step) (record : StepRecord) :
    Reply → JobFailure → Prop
  | stepFailed {output : CommandOutput} {code : Option Int}
      (hexit : output.termination = .exited code) (hcode : record.exitCode = code) :
      Agrees i step record (.ok output) (.stepFailed record.label code)
  /-- Without a timeout of its own or of its job, a step counts as timed out after no time. -/
  | timedOut {output : CommandOutput} (htimeout : output.termination = .timedOut) :
      Agrees i step record (.ok output) (.timedOut record.label ((i.timeout step).getD 0))
  | execution {e : CommandError} (herror : record.error = some e.message) :
      Agrees i step record (.error e) (.execution record.label e.message)
  | cancelled {output : CommandOutput} (hcancelled : output.termination = .cancelled)
      (herror : record.error = some "cancelled") :
      Agrees i step record (.ok output) .cancelled

/-- Why a job failed. -/
inductive Cause
  | workspace
  | step
  | cancellation
deriving DecidableEq

/-- A cause explains a failure of the job `i` with what it got for a workspace, its records and the
replies to its commands. -/
def Cause.Explains (i : Instance) (workspace : Except String String) (records : List StepRecord)
    (replies : List Reply) (failure : JobFailure) : Cause → Prop
  | .workspace =>
    (∃ text, workspace = .error text ∧ failure = Instance.workspaceFailure text) ∧ records = []
  | .step =>
    ∃ step record reply, i.template.steps[records.length - 1]? = some step ∧
      records.getLast? = some record ∧ replies.getLast? = some reply ∧
      record.status = .failed ∧ i.Agrees step record reply failure
  | .cancellation =>
    failure = .cancelled ∧ records.length < i.template.steps.length ∧
      ∀ record ∈ records, record.status ≠ .failed

/-- The cause that is read off the records and the failure. -/
def Cause.of (records : List StepRecord) (failure : JobFailure) : Cause :=
  if records.any (·.status == .failed) then .step
  else if failure = .cancelled then .cancellation
  else .workspace

variable {i : Instance} {workspace : Except String String} {path : String} {n : Nat} {step : Step}
  {reply : Reply} {record : StepRecord} {done : List Step} {records : List StepRecord}
  {replies : List Reply} {t t' : Timestamp} {d : Duration}

theorem Cause.Explains.eq_of {failure : JobFailure} {cause : Cause}
    (h : cause.Explains i workspace records replies failure) : cause = .of records failure := by
  -- A failed record tells the step from the other causes, and the failure tells those apart.
  cases cause with
  | workspace =>
    obtain ⟨⟨text, -, rfl⟩, rfl⟩ := h
    rfl
  | step =>
    obtain ⟨-, record, -, -, hlast, -, hstatus, -⟩ := h
    have hfailed : records.any (·.status == .failed) = true := by
      rw [List.any_eq_true]
      exact ⟨record, List.mem_of_getLast? hlast, by simp [hstatus]⟩
    rw [of, if_pos hfailed]
  | cancellation =>
    obtain ⟨rfl, -, hnone⟩ := h
    have hfine : ¬ records.any (·.status == .failed) = true := by
      simpa [List.any_eq_true] using hnone
    rw [of, if_neg hfine, if_pos rfl]

/-- No failure has two causes. -/
theorem Cause.Explains.unique {failure : JobFailure} {cause : Cause}
    (h : cause.Explains i workspace records replies failure) :
    ∃! cause : Cause, cause.Explains i workspace records replies failure :=
  ⟨cause, h, fun _ hother => hother.eq_of.trans h.eq_of.symm⟩

/-! ## Results -/

/-- What the result of the job `i` tells, for what it got for a workspace and the replies to its
commands. -/
structure Instance.Outcome (i : Instance) (workspace : Except String String)
    (replies : List Reply) (result : JobResult) : Prop where
  names : result.id = i.id ∧ result.job = i.template.name ∧ result.binding = i.binding
  /-- The records are those of the first steps. -/
  recorded : ∃ done todo, i.template.steps = done ++ todo ∧ i.Recorded done result.records replies
  /-- Only the last record may be failed. -/
  not_failed_before : ∀ record ∈ result.records.dropLast, record.status ≠ .failed
  passed_iff : result.status = .passed ↔ result.failure = none
  failed_iff : result.status = .failed ↔ result.failure ≠ none
  /-- Without steps and without a workspace a job fails although it has nothing left to do; no job
  of a loaded pipeline is without steps. -/
  complete_iff : i.template.steps ≠ [] ∨ (∃ path, workspace = .ok path) →
    (result.failure = none ↔ result.records.length = i.template.steps.length ∧
      ∀ record ∈ result.records, record.status ≠ .failed)
  cause : ∀ failure, result.failure = some failure →
    ∃! cause : Cause, cause.Explains i workspace result.records replies failure

/-! ## Single steps -/

theorem Termination.Tolerable.ne_success {t : Termination} (h : t.Tolerable) :
    t ≠ .exited (some 0) := by
  rintro rfl
  exact h rfl

theorem Termination.Tolerable.ne_cancelled {t : Termination} (h : t.Tolerable) :
    t ≠ .cancelled := by
  rintro rfl
  exact h

namespace Instance

theorem skipped_tells (hcond : Condition.allows step.condition i.binding = false) :
    i.Tells n step none (.skipped n step.label (i.render step)) := by
  constructor
  case isOf => exact ⟨rfl, rfl, rfl⟩
  all_goals simp [StepRecord.skipped, hcond]

/-- The record of a reply tells of it. -/
theorem judge_tells {failure : Option JobFailure}
    (hcond : Condition.allows step.condition i.binding = true)
    (h : i.judge n step reply = (record, failure)) : i.Tells n step (some reply) record := by
  have hof := judge_isOf h
  -- The kind of the reply fixes the status of the record, and every clause follows from that.
  cases reply with
  | error e =>
    have hstatus := (judge_error h).1
    constructor
    case isOf => exact hof
    all_goals simp [hstatus, hcond]
  | ok output =>
    rcases output.termination.kind with hexit | htolerable | hcancelled
    · have hstatus := (judge_success hexit h).1
      constructor
      case isOf => exact hof
      all_goals simp [hstatus, hcond, hexit, Termination.Tolerable]
    · have hexit := htolerable.ne_success
      have hcancelled := htolerable.ne_cancelled
      rcases judge_tolerable htolerable h with ⟨hcontinue, hstatus, -⟩ | ⟨hcontinue, hstatus, -⟩
      · constructor
        case isOf => exact hof
        all_goals simp [hstatus, hcond, hcontinue, hexit, htolerable, hcancelled]
      · constructor
        case isOf => exact hof
        all_goals simp [hstatus, hcond, hcontinue, hexit]
    · have hstatus := (judge_cancelled hcancelled h).1
      constructor
      case isOf => exact hof
      all_goals simp [hstatus, hcond, hcancelled, Termination.Tolerable]

/-- An exit with another code than 0, or by a signal, is a failure of its step. -/
theorem outcome_exited {code : Option Int} (i : Instance) (step : Step) (hcode : code ≠ some 0) :
    (i.outcome step (.exited code)).2 = (none, some (.stepFailed step.label code)) := by
  cases code with
  | none => rfl
  | some code =>
    -- The match tells 0 from the other codes, which the hypothesis decides.
    simp [outcome]

/-- The failure of a command that ran is what its output means, and no tolerance has hidden it. -/
theorem judge_ok_some {output : CommandOutput} {failure : JobFailure}
    (h : i.judge n step (.ok output) = (record, some failure)) :
    (i.outcome step output.termination).2 = (record.error, some failure) ∧
      record.label = step.label ∧ record.exitCode = output.termination.exitCode := by
  obtain ⟨⟨status, error, hard⟩, houtcome⟩ :
      ∃ verdict, i.outcome step output.termination = verdict := ⟨_, rfl⟩
  simp only [judge, houtcome] at h
  split at h
  · cases h
  · cases h
    exact ⟨by rw [houtcome], rfl, rfl⟩

/-- The failure that ends a job agrees with the reply and the record of its last step. -/
theorem judge_agrees {failure : JobFailure} (h : i.judge n step reply = (record, some failure)) :
    i.Agrees step record reply failure := by
  cases reply with
  | error e =>
    obtain ⟨-, herror, hfailure⟩ := judge_error h
    cases hfailure
    exact .execution herror
  | ok output =>
    obtain ⟨houtcome, hlabel, hcode⟩ := judge_ok_some h
    cases ht : output.termination with
    | exited code =>
      rw [ht] at houtcome hcode
      -- A success is no failure, so the code is another one.
      have hsuccess : code ≠ some 0 := by
        rintro rfl
        cases congrArg Prod.snd houtcome
      rw [outcome_exited i step hsuccess] at houtcome
      cases congrArg Prod.snd houtcome
      rw [← hlabel]
      exact .stepFailed ht hcode
    | timedOut =>
      rw [ht] at houtcome
      cases congrArg Prod.snd houtcome
      rw [← hlabel]
      exact .timedOut ht
    | cancelled =>
      rw [ht] at houtcome
      cases congrArg Prod.snd houtcome
      exact .cancelled ht (congrArg Prod.fst houtcome).symm

/-! ## Several steps -/

/-- The records of steps that did not end their job tell of them. -/
theorem Took.recorded (h : i.Took done records replies) : i.Recorded done records replies := by
  induction h with
  | nil => exact .nil
  | @pass done records replies step _ hcond ih =>
    have hrecorded := ih.concat (skipped_tells (n := records.length) hcond)
    rwa [Option.toList_none, List.append_nil] at hrecorded
  | run _ hcond hjudge ih => exact ih.concat (judge_tells hcond hjudge)

variable {failure : Option JobFailure}

theorem Ends.recorded (h : i.Ends records replies failure) :
    ∃ done todo, i.template.steps = done ++ todo ∧ i.Recorded done records replies := by
  cases h with
  | finished htook => exact ⟨_, [], by rw [List.append_nil], htook.recorded⟩
  | stopped hsteps htook => exact ⟨_, _, hsteps, htook.recorded⟩
  | @failed done _ _ step todo _ _ _ hsteps htook hcond hjudge =>
    exact ⟨done ++ [step], todo, by simpa using hsteps,
      htook.recorded.concat (judge_tells hcond hjudge)⟩

/-- Only the last record of a job may be failed. -/
theorem Ends.not_failed_before (h : i.Ends records replies failure) :
    ∀ record ∈ records.dropLast, record.status ≠ .failed := by
  cases h with
  | finished htook | stopped _ htook =>
    intro record hmem
    exact htook.clean.not_failed record (List.dropLast_subset _ hmem)
  | failed _ htook _ _ =>
    rw [List.dropLast_concat]
    exact htook.clean.not_failed

/-- A job with a workspace fails by its last step or by a cancellation. -/
theorem Ends.cause {failure : JobFailure} (h : i.Ends records replies (some failure)) :
    ∃ cause : Cause, cause.Explains i workspace records replies failure := by
  cases h with
  | stopped hsteps htook =>
    exact ⟨.cancellation, rfl, htook.length_lt hsteps, htook.clean.not_failed⟩
  | @failed done records replies step todo reply record _ hsteps htook _ hjudge =>
    have hposition : (records ++ [record]).length - 1 = done.length := by
      rw [List.length_append, List.length_singleton, Nat.add_sub_cancel, htook.length_eq]
    refine ⟨.step, step, record, reply, ?_, by simp, by simp, judge_some hjudge,
      judge_agrees hjudge⟩
    rw [hposition, hsteps]
    simp

/-! ## Jobs -/

/-- The result of a job with a workspace tells how it ended. -/
theorem Ends.outcome (h : i.Ends records replies failure) :
    i.Outcome (.ok path) replies (i.finished records failure t t' d) where
  names := ⟨rfl, rfl, rfl⟩
  recorded := h.recorded
  not_failed_before := h.not_failed_before
  passed_iff := by cases failure <;> simp [Instance.finished]
  failed_iff := by cases failure <;> simp [Instance.finished]
  complete_iff := fun _ => h.complete_iff
  cause := by
    rintro failure rfl
    obtain ⟨cause, hcause⟩ := h.cause
    exact hcause.unique

/-- The result of a job without a workspace tells why it has none. -/
theorem outcome_barred (i : Instance) (text : String) :
    i.Outcome (.error text) [] (i.finished [] (some (workspaceFailure text)) t t' d) where
  names := ⟨rfl, rfl, rfl⟩
  recorded := ⟨[], i.template.steps, rfl, .nil⟩
  not_failed_before := by simp [finished]
  passed_iff := by simp [finished]
  failed_iff := by simp [finished]
  complete_iff := by
    rintro (hsteps | ⟨path, hpath⟩)
    · have hlength : 0 ≠ i.template.steps.length :=
        fun h => hsteps (List.length_eq_zero_iff.1 h.symm)
      simp [finished, hlength]
    · cases hpath
  cause := by
    rintro failure hfailure
    cases hfailure
    have hcause : Cause.Explains i (.error text) [] [] (workspaceFailure text) .workspace :=
      ⟨⟨text, rfl, rfl⟩, rfl⟩
    exact hcause.unique

end Instance

end JobMatrix
