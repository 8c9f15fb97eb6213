import JobMatrix.Proofs.Run.Course
import JobMatrix.Proofs.Run.Dispatch

/-!
# Plans and runs

A run keeps to its plan. The jobs that the plan does not mark to run are those that are skipped
for their condition, and of the others the first ones run and the rest is dropped. A cancellation
decides only where the line between the two lies.
-/

namespace JobMatrix

/-- A job is recorded as skipped for a reason. -/
def JobResult.SkippedFor (result : JobResult) (reason : SkipReason) : Prop :=
  result.status = .skipped ∧ result.skipReason = some reason

instance (result : JobResult) (reason : SkipReason) : Decidable (result.SkippedFor reason) :=
  inferInstanceAs (Decidable (_ ∧ _))

namespace Run

variable {s : Setup} {st st' : State} {a : Action} {actions : List Action} {k : Nat}
  {i : Instance} {phase : Phase} {result : JobResult} {stream : List Event}

/-! ## What is recorded for a phase -/

/-- A job that is over was skipped for its condition, dropped for a cancellation, or it ran. -/
theorem Accounts.fates (h : Accounts actions k i phase) (hdone : phase.isDone = true) :
    i.willRun = false ∧ phase = .skipped (i.skipped .conditionFalse) ∨
      i.willRun = true ∧ .cancel ∈ actions ∧ phase = .skipped (i.skipped .cancelled) ∨
      i.willRun = true ∧ phase.tookSlot = true ∧ (Job.entry ⟨i, phase⟩).status ≠ .skipped := by
  cases phase with
  | skipped result =>
    obtain ⟨-, ⟨hrun, rfl⟩ | ⟨hrun, hcancel, rfl⟩⟩ := h
    · exact .inl ⟨hrun, rfl⟩
    · exact .inr (.inl ⟨hrun, hcancel, rfl⟩)
  | published result =>
    obtain ⟨hrun, -, hended⟩ := h
    exact .inr (.inr ⟨hrun, rfl, hended.not_skipped⟩)
  | aborted => exact .inr (.inr ⟨h.1, rfl, nofun⟩)
  | waiting | spawned | working _ _ _ | settled _ | released _ => cases hdone

theorem Accounts.entry_skipped_iff (h : Accounts actions k i phase) (hdone : phase.isDone = true) :
    (Job.entry ⟨i, phase⟩).status = .skipped ↔ phase.tookSlot = false := by
  rcases h.fates hdone with ⟨-, rfl⟩ | ⟨-, -, rfl⟩ | ⟨-, htook, hran⟩
  · exact iff_of_true rfl rfl
  · exact iff_of_true rfl rfl
  · exact iff_of_false hran (by simp [htook])

theorem Accounts.entry_conditionFalse_iff (h : Accounts actions k i phase)
    (hdone : phase.isDone = true) :
    (Job.entry ⟨i, phase⟩).SkippedFor .conditionFalse ↔ i.willRun = false := by
  rcases h.fates hdone with ⟨hrun, rfl⟩ | ⟨hrun, -, rfl⟩ | ⟨hrun, -, hran⟩
  · exact iff_of_true ⟨rfl, rfl⟩ hrun
  · exact iff_of_false (fun hskipped => nomatch hskipped.2) (by simp [hrun])
  · exact iff_of_false (fun hskipped => hran hskipped.1) (by simp [hrun])

theorem Accounts.entry_cancelled_iff (h : Accounts actions k i phase)
    (hdone : phase.isDone = true) :
    (Job.entry ⟨i, phase⟩).SkippedFor .cancelled ↔ i.willRun = true ∧ phase.tookSlot = false := by
  rcases h.fates hdone with ⟨hrun, rfl⟩ | ⟨hrun, -, rfl⟩ | ⟨-, htook, hran⟩
  · exact iff_of_false (fun hskipped => nomatch hskipped.2) (by simp [hrun])
  · exact iff_of_true ⟨rfl, rfl⟩ ⟨hrun, rfl⟩
  · exact iff_of_false (fun hskipped => hran hskipped.1) (by simp [htook])

/-- The begin of a job is told once it took a slot and has begun. -/
theorem Streams.begin_mem_iff (h : Streams i phase stream) (hspawned : phase ≠ .spawned) :
    .jobStarted i.id ∈ stream ↔ phase.tookSlot = true := by
  cases h with
  | waiting | skipped => simp [Phase.tookSlot]
  | spawned => exact absurd rfl hspawned
  | ready | running | settled | released | published | aborted =>
    simp [Phase.tookSlot, startedEvents]

namespace Course

variable {c : Course} {job : Job}

/-- The instances whose jobs have begun, in the order of the plan. -/
def executed (c : Course) : List Instance :=
  c.instances.filter fun i => decide (.jobStarted i.id ∈ c.last.log)

/-- The instances that are recorded as skipped for a cancellation, in the order of the plan. -/
def dropped (c : Course) : List Instance :=
  ((c.instances.zip c.result.jobs).filter fun x => decide (x.2.SkippedFor .cancelled)).map (·.1)

theorem instances_eq (c : Course) : c.instances = c.last.jobs.map Job.inst :=
  (State.insts_of_after c.reached).symm

theorem accounts_of_mem (hmem : job ∈ c.last.jobs) :
    ∃ k, c.last.jobs[k]? = some job ∧ Accounts c.actions k job.inst job.phase ∧
      job.phase.isDone = true := by
  obtain ⟨k, hjob⟩ := List.getElem?_of_mem hmem
  exact ⟨k, hjob, State.accounts_of_after c.reached hjob, c.all_done.1 job hmem⟩

/-- The jobs that took a slot are those that have begun. -/
theorem executed_eq (c : Course) : c.executed = c.last.handedOut := by
  rw [executed, instances_eq, State.handedOut, List.filter_map]
  refine congrArg _ (List.filter_congr ?_)
  intro job hmem
  obtain ⟨k, hjob, -, hdone⟩ := accounts_of_mem hmem
  have hstream := State.streams_of_after c.nodup_ids c.reached hjob
  rw [State.events, c.all_done.2, List.append_nil] at hstream
  have hspawned : job.phase ≠ .spawned := by
    intro hspawned
    rw [hspawned] at hdone
    cases hdone
  have hbegan := hstream.begin_mem_iff hspawned
  simp only [eventsOf, List.mem_filter, Event.id?, beq_self_eq_true, and_true] at hbegan
  simp [hbegan]

/-- The jobs that are recorded as dropped are those that were to run and took no slot. -/
theorem dropped_eq (c : Course) :
    c.dropped = (c.last.jobs.filter fun job => job.inst.willRun && !job.phase.tookSlot).map
      Job.inst := by
  rw [dropped, instances_eq, c.result_jobs, List.zip_map', List.filter_map, List.map_map]
  refine congrArg _ (List.filter_congr ?_)
  intro job hmem
  obtain ⟨k, hjob, haccounts, hdone⟩ := accounts_of_mem hmem
  have hdropped := haccounts.entry_cancelled_iff hdone
  simp [hdropped]

theorem executed_append_dropped (c : Course) :
    c.executed ++ c.dropped = c.setup.pipeline.planned := by
  rw [executed_eq, dropped_eq]
  exact State.handedOut_append c.reached

/-- No job is dropped unless the run was cancelled. -/
theorem dropped_eq_nil (huncancelled : .cancel ∉ c.actions) : c.dropped = [] := by
  rw [dropped_eq, List.map_eq_nil_iff, List.filter_eq_nil_iff]
  intro job hmem hdropped
  obtain ⟨k, hjob, haccounts, hdone⟩ := accounts_of_mem hmem
  have hwaiting : job.phase ≠ .waiting := by
    intro hwaiting
    rw [hwaiting] at hdone
    cases hdone
  simp only [Bool.and_eq_true, Bool.not_eq_true'] at hdropped
  exact huncancelled (haccounts.dropped hdropped.1 hdropped.2 hwaiting).1

/-- A run does what its plan says. An instance is skipped for its condition exactly if the plan does
not mark it to run. At every moment the instances that were given a slot are the first of the
planned ones, in the end the others are those that a cancellation dropped, and without one there
are none. No command is asked for by a job that is recorded as skipped. -/
theorem plan_predicts (c : Course) :
    (∀ k i runs, c.setup.pipeline.plan[k]? = some (i, runs) →
      ∃ entry, c.result.jobs[k]? = some entry ∧
        (entry.SkippedFor .conditionFalse ↔ runs = false) ∧
        (entry.status = .skipped → ∀ call ∈ c.last.calls, call.job ≠ k)) ∧
      (∀ before st, State.after c.setup before = some st →
        st.handedOut <+: c.setup.pipeline.planned) ∧
      c.last.handedOut = c.executed ∧
      c.executed ++ c.dropped = c.setup.pipeline.planned ∧
      (.cancel ∉ c.actions → c.executed = c.setup.pipeline.planned) := by
  refine ⟨?_, ?_, c.executed_eq.symm, c.executed_append_dropped, ?_⟩
  · intro k i runs hplan
    simp only [Pipeline.plan, List.getElem?_map, Option.map_eq_some_iff, Prod.mk.injEq] at hplan
    obtain ⟨_, hi, rfl, rfl⟩ := hplan
    obtain ⟨phase, hjob, hdone, haccounts, hentry⟩ := c.exists_job hi
    refine ⟨_, hentry, haccounts.entry_conditionFalse_iff hdone, ?_⟩
    intro hskipped call hcall hown
    obtain ⟨job, hcaller, htook⟩ := State.tookSlot_of_call c.reached call hcall
    rw [hown, hjob] at hcaller
    cases hcaller
    rw [haccounts.entry_skipped_iff hdone, htook] at hskipped
    cases hskipped
  · intro before st hst
    exact State.handedOut_prefix_planned hst
  · intro huncancelled
    rw [← c.executed_append_dropped, dropped_eq_nil huncancelled, List.append_nil]

end Course

end Run

end JobMatrix
