import JobMatrix.Proofs.Job.Records

/-!
# A job alone

What a job comes to if each of its commands is answered by a function and nothing else
happens. Times are left out, since they are not the answers' to decide: a job that goes on
from records and answers that differ in nothing but times comes to the same result.
-/

namespace JobMatrix

/-! ## Without times -/

/-- An output without the time it took. -/
def CommandOutput.untimed (output : CommandOutput) : CommandOutput :=
  { output with duration := .zero }

/-- A reply without the time it took. -/
def untimedReply : Reply → Reply
  | .ok output => .ok output.untimed
  | .error e => .error e

/-- A record without the time it took. -/
def StepRecord.untimed (record : StepRecord) : StepRecord :=
  { record with duration := .zero }

/-- A result without times, except for whether it has a start and an end. -/
def JobResult.untimed (result : JobResult) : JobResult :=
  { result with
    records := result.records.map StepRecord.untimed
    startedAt := result.startedAt.map fun _ => default
    finishedAt := result.finishedAt.map fun _ => default
    duration := .zero }

namespace Instance

variable {i : Instance} {answer : Step → Option Reply} {n : Nat} {step : Step}
  {todo : List Step} {records : List StepRecord} {reply given : Reply} {record : StepRecord}
  {failure : Option JobFailure}

@[simp] theorem untimed_finished (i : Instance) (records : List StepRecord)
    (failure : Option JobFailure) (t t' : Timestamp) (d : Duration) :
    (i.finished records failure t t' d).untimed =
      i.finished (records.map StepRecord.untimed) failure default default .zero := rfl

@[simp] theorem untimed_skipped (i : Instance) (reason : SkipReason) :
    (i.skipped reason).untimed = i.skipped reason := rfl

@[simp] theorem untimed_aborted (i : Instance) : i.aborted.untimed = i.aborted := rfl

/-- A reply without times leads to the record without times and to the same failure. -/
theorem judge_untimed (i : Instance) (n : Nat) (step : Step) (reply : Reply) :
    i.judge n step (untimedReply reply) =
      ((i.judge n step reply).1.untimed, (i.judge n step reply).2) := by
  cases reply <;> rfl

/-! ## Going on alone -/

/-- The result of a job with some records and some steps to do, if `answer` tells the reply to the
command of a step, or none where the task aborts. -/
def goOn (i : Instance) (answer : Step → Option Reply) (records : List StepRecord) :
    List Step → JobResult
  | [] => i.finished records none default default .zero
  | step :: todo =>
    if Condition.allows step.condition i.binding then
      match answer step with
      | none => i.aborted
      | some reply =>
        match i.judge records.length step reply with
        | (record, none) => goOn i answer (records ++ [record]) todo
        | (record, some failure) =>
          i.finished (records ++ [record]) (some failure) default default .zero
    else goOn i answer (records ++ [.skipped records.length step.label (i.render step)]) todo

/-- The result of a job in a run of its own. -/
def alone (i : Instance) (answer : Step → Option Reply) : JobResult :=
  if i.willRun then i.goOn answer [] i.template.steps else i.skipped .conditionFalse

theorem goOn_aborts (hcond : Condition.allows step.condition i.binding = true)
    (hanswer : answer step = none) : i.goOn answer records (step :: todo) = i.aborted := by
  simp [goOn, hcond, hanswer]

theorem goOn_passes (hcond : Condition.allows step.condition i.binding = false) :
    i.goOn answer records (step :: todo) =
      i.goOn answer (records ++ [.skipped records.length step.label (i.render step)]) todo := by
  simp [goOn, hcond]

theorem goOn_continues (hcond : Condition.allows step.condition i.binding = true)
    (hanswer : answer step = some reply) (hjudge : i.judge records.length step reply = (record, none)) :
    i.goOn answer records (step :: todo) = i.goOn answer (records ++ [record]) todo := by
  simp [goOn, hcond, hanswer, hjudge]

theorem goOn_fails {failure : JobFailure} (hcond : Condition.allows step.condition i.binding = true)
    (hanswer : answer step = some reply)
    (hjudge : i.judge records.length step reply = (record, some failure)) :
    i.goOn answer records (step :: todo) =
      i.finished (records ++ [record]) (some failure) default default .zero := by
  simp [goOn, hcond, hanswer, hjudge]

/-- Without times, the result depends on records and answers without times. -/
theorem untimed_goOn (i : Instance) (answer : Step → Option Reply) (records : List StepRecord)
    (todo : List Step) :
    (i.goOn answer records todo).untimed =
      i.goOn (fun step => (answer step).map untimedReply) (records.map StepRecord.untimed) todo := by
  induction todo generalizing records with
  | nil => rfl
  | cons step todo ih =>
    cases hcond : Condition.allows step.condition i.binding with
    | false =>
      rw [goOn_passes hcond, goOn_passes hcond, ih, List.map_append, List.length_map]
      rfl
    | true =>
      -- The verdict reads no times, so it is the same one for replies with and without them.
      cases hanswer : answer step with
      | none =>
        rw [goOn_aborts hcond hanswer, goOn_aborts hcond (by rw [hanswer]; rfl)]
        rfl
      | some reply =>
        have hgiven : (answer step).map untimedReply = some (untimedReply reply) := by
          rw [hanswer]
          rfl
        obtain ⟨⟨record, failure⟩, hjudge⟩ :
            ∃ verdict, i.judge records.length step reply = verdict := ⟨_, rfl⟩
        have huntimed : i.judge (records.map StepRecord.untimed).length step (untimedReply reply) =
            (record.untimed, failure) := by
          rw [List.length_map, judge_untimed, hjudge]
        cases failure with
        | none =>
          rw [goOn_continues hcond hanswer hjudge, goOn_continues hcond hgiven huntimed, ih,
            List.map_append]
          rfl
        | some failure =>
          rw [goOn_fails hcond hanswer hjudge, goOn_fails hcond hgiven huntimed, untimed_finished,
            List.map_append]
          rfl

/-- Replies that differ in nothing but times leave records that do so, and the same failure. -/
theorem judge_congr (h : untimedReply reply = untimedReply given)
    (hjudge : i.judge n step reply = (record, failure)) :
    ∃ record', i.judge n step given = (record', failure) ∧ record'.untimed = record.untimed := by
  have hreply := i.judge_untimed n step reply
  have hgiven := i.judge_untimed n step given
  rw [h, hgiven, hjudge] at hreply
  obtain ⟨hrecord, hfailure⟩ := Prod.mk.inj hreply
  exact ⟨(i.judge n step given).1, Prod.ext rfl hfailure, hrecord⟩

theorem untimed_goOn_congr {records' : List StepRecord}
    (h : records.map StepRecord.untimed = records'.map StepRecord.untimed) :
    (i.goOn answer records todo).untimed = (i.goOn answer records' todo).untimed := by
  rw [untimed_goOn, untimed_goOn, h]

end Instance

end JobMatrix
