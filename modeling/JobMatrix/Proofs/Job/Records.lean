import JobMatrix.Job.Progress

/-!
# The records of a job

What a job leaves is fixed by its steps and the replies to its commands. `Took` says which
records some steps leave as long as no reply ends the job, and `Ends` in which ways a job
that has a workspace comes to its end. Both grow at the end of their lists, as the job does.
-/

namespace JobMatrix

/-- A failure of a command that its step may tolerate. -/
def Termination.Tolerable : Termination → Prop
  | .exited code => code ≠ some 0
  | .timedOut => True
  | .cancelled => False

/-- The three kinds of terminations. -/
theorem Termination.kind (t : Termination) :
    t = .exited (some 0) ∨ t.Tolerable ∨ t = .cancelled := by
  cases t with
  | exited code =>
    by_cases hcode : code = some 0
    · exact .inl (by rw [hcode])
    · exact .inr (.inl hcode)
  | timedOut => exact .inr (.inl trivial)
  | cancelled => exact .inr (.inr rfl)

/-- A record is that of a step at a position. -/
def StepRecord.IsOf (record : StepRecord) (i : Instance) (n : Nat) (step : Step) : Prop :=
  record.index = n ∧ record.label = step.label ∧ record.command = i.render step

namespace Instance

variable {i : Instance} {n : Nat} {step : Step} {reply : Reply} {record : StepRecord}
  {failure : JobFailure} {records : List StepRecord}

/-! ## Single replies -/

theorem outcome_success (i : Instance) (step : Step) :
    i.outcome step (.exited (some 0)) = (.passed, none, none) := rfl

theorem outcome_cancelled (i : Instance) (step : Step) :
    i.outcome step .cancelled = (.failed, some "cancelled", some .cancelled) := rfl

theorem outcome_tolerable {t : Termination} (i : Instance) (step : Step) (ht : t.Tolerable) :
    ∃ error failure, i.outcome step t =
      (if step.continueOnError then .tolerated else .failed, error, some failure) := by
  cases t with
  | exited code =>
    cases code with
    | none => exact ⟨_, _, rfl⟩
    | some code =>
      have hcode : code ≠ 0 := fun h => ht (congrArg some h)
      exact ⟨none, .stepFailed step.label (some code), by simp [outcome, hcode]⟩
  | timedOut => exact ⟨_, _, rfl⟩
  | cancelled => exact ht.elim

/-- The record of a reply is that of its step, whatever the reply is. -/
theorem judge_isOf {failure : Option JobFailure} (h : i.judge n step reply = (record, failure)) :
    record.IsOf i n step := by
  cases reply with
  | error e =>
    cases h
    exact ⟨rfl, rfl, rfl⟩
  | ok output =>
    cases h
    exact ⟨rfl, rfl, rfl⟩

/-- A command that could not be run ends its job, also where its step tolerates failures. -/
theorem judge_error {e : CommandError} {failure : Option JobFailure}
    (h : i.judge n step (.error e) = (record, failure)) :
    record.status = .failed ∧ record.error = some e.message ∧
      failure = some (.execution record.label e.message) := by
  cases h
  exact ⟨rfl, rfl, rfl⟩

theorem judge_success {output : CommandOutput} {failure : Option JobFailure}
    (ht : output.termination = .exited (some 0))
    (h : i.judge n step (.ok output) = (record, failure)) :
    record.status = .passed ∧ failure = none := by
  simp only [judge, ht, outcome_success] at h
  cases h
  exact ⟨rfl, rfl⟩

/-- A failure of a command ends its job unless its step tolerates that. -/
theorem judge_tolerable {output : CommandOutput} {failure : Option JobFailure}
    (ht : output.termination.Tolerable) (h : i.judge n step (.ok output) = (record, failure)) :
    step.continueOnError = true ∧ record.status = .tolerated ∧ failure = none ∨
      step.continueOnError = false ∧ record.status = .failed ∧ failure ≠ none := by
  obtain ⟨error, soft, houtcome⟩ := i.outcome_tolerable step ht
  simp only [judge, houtcome] at h
  cases hcontinue : step.continueOnError with
  | true =>
    rw [hcontinue] at h
    cases h
    exact .inl ⟨rfl, rfl, rfl⟩
  | false =>
    rw [hcontinue] at h
    cases h
    exact .inr ⟨rfl, rfl, nofun⟩

/-- A cancelled command ends its job, also where its step tolerates failures. -/
theorem judge_cancelled {output : CommandOutput} {failure : Option JobFailure}
    (ht : output.termination = .cancelled) (h : i.judge n step (.ok output) = (record, failure)) :
    record.status = .failed ∧ record.error = some "cancelled" ∧ failure = some .cancelled := by
  simp only [judge, ht, outcome_cancelled] at h
  cases h
  exact ⟨rfl, rfl, rfl⟩

/-- A job goes on after success and after what its step tolerates. -/
theorem judge_none (h : i.judge n step reply = (record, none)) :
    ∃ output, reply = .ok output ∧
      (record.status = .passed ∧ output.termination = .exited (some 0) ∨
        record.status = .tolerated ∧ step.continueOnError = true ∧
          output.termination.Tolerable) := by
  cases reply with
  | error e => cases (judge_error h).2.2
  | ok output =>
    refine ⟨output, rfl, ?_⟩
    rcases output.termination.kind with hexit | htolerable | hcancelled
    · exact .inl ⟨(judge_success hexit h).1, hexit⟩
    · rcases judge_tolerable htolerable h with ⟨hcontinue, hstatus, -⟩ | ⟨-, -, hfailure⟩
      · exact .inr ⟨hstatus, hcontinue, htolerable⟩
      · exact absurd rfl hfailure
    · cases (judge_cancelled hcancelled h).2.2

/-- The reply that ends a job leaves a failed record. -/
theorem judge_some (h : i.judge n step reply = (record, some failure)) :
    record.status = .failed := by
  cases reply with
  | error e => exact (judge_error h).1
  | ok output =>
    rcases output.termination.kind with hexit | htolerable | hcancelled
    · cases (judge_success hexit h).2
    · rcases judge_tolerable htolerable h with ⟨-, -, hfailure⟩ | ⟨-, hstatus, -⟩
      · cases hfailure
      · exact hstatus
    · exact (judge_cancelled hcancelled h).1

/-- A step whose command was asked for does not count as skipped. -/
theorem judge_ne_skipped {failure : Option JobFailure}
    (h : i.judge n step reply = (record, failure)) : record.status ≠ .skipped := by
  cases failure with
  | none =>
    obtain ⟨_, -, ⟨hstatus, -⟩ | ⟨hstatus, -, -⟩⟩ := judge_none h
    · simp [hstatus]
    · simp [hstatus]
  | some failure => simp [judge_some h]

/-! ## Several steps -/

/-- The records of some steps with the replies to their commands, if no reply ends the job. -/
inductive Took (i : Instance) : List Step → List StepRecord → List Reply → Prop
  | nil : Took i [] [] []
  | pass {done records replies step} (htook : Took i done records replies)
      (hcond : Condition.allows step.condition i.binding = false) :
      Took i (done ++ [step])
        (records ++ [.skipped records.length step.label (i.render step)]) replies
  | run {done records replies step reply record} (htook : Took i done records replies)
      (hcond : Condition.allows step.condition i.binding = true)
      (hjudge : i.judge records.length step reply = (record, none)) :
      Took i (done ++ [step]) (records ++ [record]) (replies ++ [reply])

theorem Took.length_eq {done : List Step} {replies : List Reply}
    (h : Took i done records replies) : records.length = done.length := by
  induction h with
  | nil => rfl
  | pass _ _ ih => simp [ih]
  | run _ _ _ ih => simp [ih]

/-- As long as a step is left to do there are fewer records than steps. -/
theorem Took.length_lt {done todo : List Step} {replies : List Reply}
    (h : Took i done records replies) (hsteps : i.template.steps = done ++ step :: todo) :
    records.length < i.template.steps.length := by
  rw [h.length_eq, hsteps, List.length_append, List.length_cons]
  omega

/-- How a job with a workspace ends: its records, the replies to its commands and its failure. -/
inductive Ends (i : Instance) : List StepRecord → List Reply → Option JobFailure → Prop
  | finished {records replies} (htook : Took i i.template.steps records replies) :
      Ends i records replies none
  /-- Cancelled between two steps. -/
  | stopped {done records replies step todo} (hsteps : i.template.steps = done ++ step :: todo)
      (htook : Took i done records replies) : Ends i records replies (some .cancelled)
  /-- Failed by the reply to the command of a step. -/
  | failed {done records replies step todo reply record failure}
      (hsteps : i.template.steps = done ++ step :: todo) (htook : Took i done records replies)
      (hcond : Condition.allows step.condition i.binding = true)
      (hjudge : i.judge records.length step reply = (record, some failure)) :
      Ends i (records ++ [record]) (replies ++ [reply]) (some failure)

/-- A job with a workspace has got so far with some replies. -/
def Reached (i : Instance) (replies : List Reply) : Progress → Prop
  | .ready records todo =>
    ∃ done, i.template.steps = done ++ todo ∧ Took i done records replies
  | .running records step todo =>
    ∃ done, i.template.steps = done ++ step :: todo ∧ Took i done records replies ∧
      Condition.allows step.condition i.binding = true
  | .over records failure => Ends i records replies failure

end Instance

end JobMatrix
