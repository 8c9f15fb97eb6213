import JobMatrix.Proofs.Job.Records

/-!
# Clean records

A job that comes through all its steps leaves clean records: each step was skipped by its
condition, succeeded, or failed in a way that it tolerates. As long as no reply ends a job, its
records are clean, and a job ends without a failure exactly if they are clean to the last step.
-/

namespace JobMatrix

/-- A step of the job `i` ended with a record that does not fail the job. The replies are none, or
the one to its command. -/
inductive Instance.Fine (i : Instance) (step : Step) (record : StepRecord) : List Reply → Prop
  | skipped (hstatus : record.status = .skipped)
      (hcond : Condition.allows step.condition i.binding = false) : Fine i step record []
  | passed {output : CommandOutput} (hstatus : record.status = .passed)
      (hcond : Condition.allows step.condition i.binding = true)
      (hexit : output.termination = .exited (some 0)) : Fine i step record [.ok output]
  | tolerated {output : CommandOutput} (hstatus : record.status = .tolerated)
      (hcond : Condition.allows step.condition i.binding = true)
      (hcontinue : step.continueOnError = true) (htolerable : output.termination.Tolerable) :
      Fine i step record [.ok output]

/-- Each of some steps has a record, in order, and none failed the job. The replies are those to
the commands of the steps whose condition holds. -/
inductive Instance.Clean (i : Instance) : List Step → List StepRecord → List Reply → Prop
  | nil : Clean i [] [] []
  | concat {done : List Step} {records : List StepRecord} {replies new : List Reply} {step : Step}
      {record : StepRecord} (hclean : Clean i done records replies)
      (hof : record.IsOf i records.length step) (hfine : i.Fine step record new) :
      Clean i (done ++ [step]) (records ++ [record]) (replies ++ new)

namespace Instance

variable {i : Instance} {step : Step} {record : StepRecord} {new : List Reply} {done : List Step}
  {records : List StepRecord} {replies : List Reply} {failure : Option JobFailure}

theorem Fine.not_failed (h : i.Fine step record new) : record.status ≠ .failed := by
  cases h with
  | skipped hstatus _ | passed hstatus _ _ | tolerated hstatus _ _ _ => simp [hstatus]

theorem Clean.length_eq (h : i.Clean done records replies) : records.length = done.length := by
  induction h with
  | nil => rfl
  | concat _ _ _ ih => simp [ih]

theorem Clean.not_failed (h : i.Clean done records replies) :
    ∀ record ∈ records, record.status ≠ .failed := by
  induction h with
  | nil => simp
  | concat _ _ hfine ih =>
    rw [List.forall_mem_append, List.forall_mem_singleton]
    exact ⟨ih, hfine.not_failed⟩

/-- Steps that do not end their job leave clean records. -/
theorem Took.clean (h : i.Took done records replies) : i.Clean done records replies := by
  induction h with
  | nil => exact .nil
  | @pass done records replies step _ hcond ih =>
    have hfine : i.Fine step (.skipped records.length step.label (i.render step)) [] :=
      .skipped rfl hcond
    have hclean := ih.concat ⟨rfl, rfl, rfl⟩ hfine
    rwa [List.append_nil] at hclean
  | run _ hcond hjudge ih =>
    have hof := judge_isOf hjudge
    obtain ⟨output, rfl, ⟨hstatus, hexit⟩ | ⟨hstatus, hcontinue, htolerable⟩⟩ := judge_none hjudge
    · exact .concat ih hof (.passed hstatus hcond hexit)
    · exact .concat ih hof (.tolerated hstatus hcond hcontinue htolerable)

/-- A job ends without a failure exactly if all its steps have records and none is failed. -/
theorem Ends.complete_iff (h : i.Ends records replies failure) :
    failure = none ↔ records.length = i.template.steps.length ∧
      ∀ record ∈ records, record.status ≠ .failed := by
  cases h with
  | finished htook => exact iff_of_true rfl ⟨htook.length_eq, htook.clean.not_failed⟩
  | stopped hsteps htook =>
    refine iff_of_false nofun fun hcomplete => ?_
    exact Nat.ne_of_lt (htook.length_lt hsteps) hcomplete.1
  | failed _ _ _ hjudge =>
    -- The reply that ended the job left a failed record.
    refine iff_of_false nofun fun hcomplete => ?_
    exact hcomplete.2 _ (by simp) (judge_some hjudge)

/-- A job ends without a failure exactly if all its steps are clean. -/
theorem Ends.clean_iff (h : i.Ends records replies failure) :
    i.Clean i.template.steps records replies ↔ failure = none := by
  constructor
  · intro hclean
    exact h.complete_iff.2 ⟨hclean.length_eq, hclean.not_failed⟩
  · rintro rfl
    cases h with
    | finished htook => exact htook.clean

end Instance

end JobMatrix
