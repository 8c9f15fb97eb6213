import JobMatrix.Proofs.Job.Clean
import JobMatrix.Proofs.Run.Course

/-!
# Verdicts

The exit code of some runs is 0 exactly if none was cancelled and every job that was to run
came through all its steps: each was skipped by its condition, succeeded, or failed in a way
that it tolerates. No other path leads to a green run, neither a missing result nor one of an
aborted task.
-/

namespace JobMatrix

theorem RunResult.overall_eq_passed_iff (r : RunResult) :
    r.overall = .passed ↔ r.cancelled = false ∧ ∀ job ∈ r.jobs, job.status ≠ .failed := by
  cases hcancelled : r.cancelled <;> simp [RunResult.overall, hcancelled]

theorem exitCode_eq_zero_iff (results : List RunResult) :
    exitCode results = 0 ↔ ∀ r ∈ results, r.overall = .passed := by
  simp [exitCode]

theorem exitCode_eq_one_iff (results : List RunResult) :
    exitCode results = 1 ↔ ¬ exitCode results = 0 := by
  unfold exitCode
  split <;> simp

namespace Run

/-- A run in which nothing went wrong: it was not cancelled, and every job that was to run got a
workspace, did not abort, and has a clean record for each of its steps. -/
structure Course.Green (c : Course) : Prop where
  uncancelled : .cancel ∉ c.actions
  clean : ∀ k i, c.instances[k]? = some i → i.willRun = true →
    (∃ path, workspaces k c.actions = [.ok path]) ∧ .abort k ∉ c.actions ∧
      ∃ entry, c.result.jobs[k]? = some entry ∧
        i.Clean i.template.steps entry.records (replies k c.actions)

variable {actions : List Action} {k : Nat} {i : Instance}

/-- The result of a job that ran is not failed exactly if it got a workspace and its records are
clean. -/
theorem Ended.not_failed_iff {result : JobResult} (h : Ended actions k i result) :
    result.status ≠ .failed ↔ (∃ path, workspaces k actions = [.ok path]) ∧
      i.Clean i.template.steps result.records (replies k actions) := by
  cases h with
  | @worked path records failure _ _ _ hworkspaces hends =>
    have hstatus : (if failure.isSome then JobStatus.failed else .passed) ≠ .failed ↔
        failure = none := by
      cases failure <;> simp
    exact hstatus.trans (hends.clean_iff.symm.trans (and_iff_right ⟨path, hworkspaces⟩).symm)
  | barred hworkspaces _ =>
    simp [Instance.finished, hworkspaces]

/-- What the phase of a job that is over says about its entry. -/
theorem Accounts.not_failed_iff {phase : Phase} (h : Accounts actions k i phase)
    (hdone : phase.isDone = true) (huncancelled : .cancel ∉ actions) :
    (Job.entry ⟨i, phase⟩).status ≠ .failed ↔ (i.willRun = true →
      (∃ path, workspaces k actions = [.ok path]) ∧ .abort k ∉ actions ∧
        i.Clean i.template.steps (Job.entry ⟨i, phase⟩).records (replies k actions)) := by
  cases phase with
  | skipped result =>
    obtain ⟨-, ⟨hrun, rfl⟩ | ⟨-, hcancel, -⟩⟩ := h
    · simp [Instance.skipped, hrun]
    · exact absurd hcancel huncancelled
  | published result =>
    obtain ⟨hrun, hnone, hended⟩ := h
    simpa [hrun, hnone] using hended.not_failed_iff
  | aborted =>
    obtain ⟨hrun, haborted, -⟩ := h
    simp [Instance.aborted, hrun, haborted]
  | waiting | spawned | working _ _ _ | settled _ | released _ => cases hdone

theorem Course.overall_eq_passed_iff (c : Course) : c.result.overall = .passed ↔ c.Green := by
  rw [RunResult.overall_eq_passed_iff]
  constructor
  · rintro ⟨hcancelled, hjobs⟩
    have huncancelled : .cancel ∉ c.actions := by simp [← c.result_cancelled, hcancelled]
    refine ⟨huncancelled, fun k i hi hrun => ?_⟩
    obtain ⟨phase, -, hdone, haccounts, hentry⟩ := c.exists_job hi
    have hok := hjobs _ (List.mem_of_getElem? hentry)
    obtain ⟨hworkspace, hnone, hclean⟩ := (haccounts.not_failed_iff hdone huncancelled).1 hok hrun
    exact ⟨hworkspace, hnone, _, hentry, hclean⟩
  · rintro ⟨huncancelled, hclean⟩
    have hcancelled : c.result.cancelled = false := by
      rwa [← Bool.not_eq_true, c.result_cancelled]
    refine ⟨hcancelled, fun entry hmem => ?_⟩
    obtain ⟨k, hentry⟩ := List.getElem?_of_mem hmem
    obtain ⟨i, hi⟩ := c.exists_instance hentry
    obtain ⟨phase, -, hdone, haccounts, hown⟩ := c.exists_job hi
    obtain rfl : Job.entry ⟨i, phase⟩ = entry := by simpa [hown] using hentry
    refine (haccounts.not_failed_iff hdone huncancelled).2 fun hrun => ?_
    obtain ⟨hworkspace, hnone, entry, hsame, hrecords⟩ := hclean k i hi hrun
    obtain rfl : Job.entry ⟨i, phase⟩ = entry := by simpa [hown] using hsame
    exact ⟨hworkspace, hnone, hrecords⟩

/-- The exit code of some runs is 0 exactly if all are green, and 1 otherwise. -/
theorem exitCode_of_courses (courses : List Course) :
    (exitCode (courses.map Course.result) = 0 ↔ ∀ c ∈ courses, c.Green) ∧
      (exitCode (courses.map Course.result) = 1 ↔ ¬ ∀ c ∈ courses, c.Green) := by
  have hzero : exitCode (courses.map Course.result) = 0 ↔ ∀ c ∈ courses, c.Green := by
    rw [exitCode_eq_zero_iff, List.forall_mem_map]
    exact forall₂_congr fun c _ => c.overall_eq_passed_iff
  exact ⟨hzero, by rw [exitCode_eq_one_iff, hzero]⟩

end Run

end JobMatrix
