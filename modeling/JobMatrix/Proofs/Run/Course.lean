import JobMatrix.Proofs.Definition.Loaded
import JobMatrix.Proofs.Run.Entries

/-!
# Whole runs

A course is a run of a loaded pipeline under a strategy from the start to a state in which it
can end. The actions in between are free: any order of the jobs and of the events in the
channel, any replies, any moment of cancellation, any tasks that abort.
-/

namespace JobMatrix.Run

/-- A run of a loaded pipeline that can end. -/
structure Course where
  setup : Setup
  strategy : Strategy
  actions : List Action
  last : State
  loaded : setup.pipeline.Loaded
  slots : strategy.slots? setup.pipeline.maxParallel = some setup.slots
  reached : State.after setup actions = some last
  ended : (last.complete setup).isSome = true

namespace Course

/-- The instances of the pipeline, in the order of the plan. -/
def instances (c : Course) : List Instance :=
  c.setup.pipeline.instances

/-- The result of the run. -/
def result (c : Course) : RunResult :=
  c.last.result c.setup

variable {c : Course} {k : Nat} {i : Instance}

theorem nodup_ids (c : Course) : (c.instances.map Instance.id).Nodup :=
  c.loaded.nodup_ids

/-- All jobs are over, and no event is on its way. -/
theorem all_done (c : Course) :
    (∀ job ∈ c.last.jobs, job.phase.isDone = true) ∧ c.last.channel = [] := by
  obtain ⟨st, hst⟩ := Option.isSome_iff_exists.1 c.ended
  obtain ⟨hdone, hchannel, -, -⟩ := State.complete_eq_some hst
  exact ⟨hdone, hchannel⟩

/-- The run ends with its result. -/
theorem complete_result (c : Course) :
    ∃ st, c.last.complete c.setup = some st ∧ st.completed = some c.result := by
  obtain ⟨st, hst⟩ := Option.isSome_iff_exists.1 c.ended
  obtain ⟨-, -, -, rfl⟩ := State.complete_eq_some hst
  exact ⟨_, hst, rfl⟩

theorem result_cancelled : c.result.cancelled = true ↔ .cancel ∈ c.actions :=
  State.cancelled_iff_of_after c.reached

theorem result_jobs (c : Course) : c.result.jobs = c.last.jobs.map Job.entry :=
  State.result_jobs c.nodup_ids c.reached c.all_done.2

theorem result_jobs_length (c : Course) : c.result.jobs.length = c.instances.length := by
  have hinsts := congrArg List.length (State.insts_of_after c.reached)
  rw [List.length_map] at hinsts
  rw [c.result_jobs, List.length_map]
  exact hinsts

theorem exists_instance (c : Course) {entry : JobResult} (h : c.result.jobs[k]? = some entry) :
    ∃ i, c.instances[k]? = some i := by
  have hlt := (List.getElem?_eq_some_iff.1 h).1
  rw [c.result_jobs_length] at hlt
  exact ⟨c.instances[k], List.getElem?_eq_getElem hlt⟩

/-- Every instance has a job, which is over and accounted for, and its entry. -/
theorem exists_job (c : Course) (hi : c.instances[k]? = some i) :
    ∃ phase, c.last.jobs[k]? = some ⟨i, phase⟩ ∧ phase.isDone = true ∧
      Accounts c.actions k i phase ∧ c.result.jobs[k]? = some (Job.entry ⟨i, phase⟩) := by
  obtain ⟨phase, hjob⟩ := State.exists_job_of_after c.reached hi
  refine ⟨phase, hjob, c.all_done.1 _ (List.mem_of_getElem? hjob),
    State.accounts_of_after c.reached hjob, ?_⟩
  rw [c.result_jobs, List.getElem?_map, hjob]
  rfl

/-- The results in the log for an identity are the one that the phase of its job has published. -/
theorem resultsOf_log (c : Course) {phase : Phase} (hjob : c.last.jobs[k]? = some ⟨i, phase⟩) :
    resultsOf i.id c.last.log = phase.published?.toList :=
  State.resultsOf_of_after c.nodup_ids c.reached c.all_done.2 hjob

/-- An instance whose condition is false is skipped for that reason, whatever else happens. -/
theorem entry_of_not_willRun (c : Course) (hi : c.instances[k]? = some i)
    (hrun : i.willRun = false) : c.result.jobs[k]? = some (i.skipped .conditionFalse) := by
  obtain ⟨phase, -, hdone, haccounts, hentry⟩ := c.exists_job hi
  rw [hentry]
  cases phase with
  | skipped result =>
    obtain ⟨-, ⟨-, rfl⟩ | ⟨hruns, -, -⟩⟩ := haccounts
    · rfl
    · simp [hrun] at hruns
  | published result | aborted =>
    have hruns := haccounts.1
    simp [hrun] at hruns
  | waiting | spawned | working _ _ _ | settled _ | released _ => cases hdone

/-- What is recorded for a job whose task aborted: a failure to execute, and nothing else. -/
def Lost (entry : JobResult) : Prop :=
  entry.status = .failed ∧ (∃ step message, entry.failure = some (.execution step message)) ∧
    entry.records = [] ∧ entry.startedAt = none ∧ entry.finishedAt = none

/-- The result of a run has one entry for each instance, at its position. It is the one result in
the log for the instance, or there is none as the task of the job aborted. -/
theorem entries_in_place (c : Course) :
    c.result.jobs.length = c.instances.length ∧
      ∀ k i, c.instances[k]? = some i → ∃ entry, c.result.jobs[k]? = some entry ∧
        entry.id = i.id ∧ entry.job = i.template.name ∧ entry.binding = i.binding ∧
        (resultsOf i.id c.last.log = [entry] ∧ .abort k ∉ c.actions ∨
          resultsOf i.id c.last.log = [] ∧ .abort k ∈ c.actions ∧ Lost entry) := by
  refine ⟨c.result_jobs_length, fun k i hi => ?_⟩
  obtain ⟨phase, hjob, hdone, haccounts, hentry⟩ := c.exists_job hi
  have hresults := c.resultsOf_log hjob
  refine ⟨_, hentry, ?_⟩
  cases phase with
  | skipped result =>
    obtain ⟨huntouched, ⟨-, rfl⟩ | ⟨-, -, rfl⟩⟩ := haccounts
    · exact ⟨rfl, rfl, rfl, .inl ⟨hresults, huntouched.abort⟩⟩
    · exact ⟨rfl, rfl, rfl, .inl ⟨hresults, huntouched.abort⟩⟩
  | published result =>
    obtain ⟨-, hnone, hended⟩ := haccounts
    obtain ⟨hid, hname, hbinding⟩ := hended.names
    exact ⟨hid, hname, hbinding, .inl ⟨hresults, hnone⟩⟩
  | aborted =>
    obtain ⟨-, haborted, -⟩ := haccounts
    exact ⟨rfl, rfl, rfl, .inr ⟨hresults, haborted, rfl, ⟨_, _, rfl⟩, rfl, rfl, rfl⟩⟩
  | waiting | spawned | working _ _ _ | settled _ | released _ => cases hdone

end Course

end JobMatrix.Run

namespace JobMatrix.Small

open Run

/-- A run of the small pipeline with some slots. -/
def setup (slots : Nat) : Setup where
  runId := ⟨7⟩
  startedAt := ⟨0, 0⟩
  pipeline
  slots

theorem slots?_sequential : Strategy.sequential.slots? none = some 1 := rfl

/-- The course of some actions that can end. -/
def course (slots : Nat) (strategy : Strategy) (actions : List Action)
    (hslots : strategy.slots? none = some slots)
    (hlast : (State.after (setup slots) actions).isSome = true)
    (hended : (((State.after (setup slots) actions).get hlast).complete (setup slots)).isSome = true) :
    Course where
  setup := setup slots
  strategy
  actions
  last := (State.after (setup slots) actions).get hlast
  loaded := pipeline_loaded
  slots := hslots
  reached := (Option.some_get hlast).symm
  ended := hended

end JobMatrix.Small
