import JobMatrix.History.Summary
import JobMatrix.Proofs.Job.Outcome
import JobMatrix.Proofs.Run.Cancellation
import JobMatrix.Proofs.Run.Ending

/-!
# Tallies

Counts, verdict, summary and exit code are worked out apart from each other, and they agree. A run
with a job that blames a cancellation was cancelled, so it does not pass: such results are made only
once the run is cancelled, and a cancellation is not taken back.
-/

namespace JobMatrix

/-! ## Counts -/

/-- Every job is counted once, by how it ended. -/
theorem RunResult.count_add_count (r : RunResult) :
    r.count .passed + r.count .failed + r.count .skipped = r.jobs.length := by
  unfold count
  induction r.jobs with
  | nil => rfl
  | cons job jobs ih =>
    rw [List.length_cons, ← ih]
    cases hstatus : job.status <;> simp only [List.countP_cons, hstatus] <;> simp <;> omega

theorem RunResult.count_failed_eq_zero_iff (r : RunResult) :
    r.count .failed = 0 ↔ ∀ job ∈ r.jobs, job.status ≠ .failed := by
  simp [count, List.countP_eq_zero]

theorem exitCode_perm {results results' : List RunResult} (h : results.Perm results') :
    exitCode results = exitCode results' := by
  rw [exitCode, exitCode, h.all_eq]

/-! ## Blame -/

/-- The job was skipped or failed because the run was cancelled. -/
def JobResult.BlamesCancellation (r : JobResult) : Prop :=
  r.skipReason = some .cancelled ∨ r.failure = some .cancelled

namespace Instance

variable {i : Instance}

@[simp] theorem blamesCancellation_skipped {reason : SkipReason} :
    (i.skipped reason).BlamesCancellation ↔ reason = .cancelled := by
  simp [JobResult.BlamesCancellation, skipped]

@[simp] theorem blamesCancellation_finished {records : List StepRecord} {failure : Option JobFailure}
    {t t' : Timestamp} {d : Duration} :
    (i.finished records failure t t' d).BlamesCancellation ↔ failure = some .cancelled := by
  simp [JobResult.BlamesCancellation, finished]

@[simp] theorem not_blamesCancellation_aborted : ¬ i.aborted.BlamesCancellation := by
  simp [JobResult.BlamesCancellation, aborted]

/-- A job fails as cancelled only by the reply of a cancelled command. -/
theorem cancelled_of_judge {n : Nat} {step : Step} {reply : Reply} {record : StepRecord}
    (h : i.judge n step reply = (record, some .cancelled)) :
    ∃ output, reply = .ok output ∧ output.termination = .cancelled := by
  cases judge_agrees h with
  | cancelled htermination _ => exact ⟨_, rfl, htermination⟩

end Instance

/-- A job in the phase has the result. -/
inductive Phase.Has (r : JobResult) : Phase → Prop
  | skipped : Has r (.skipped r)
  | settled : Has r (.settled r)
  | released : Has r (.released r)
  | published : Has r (.published r)

namespace Run

/-- Somewhere in the state there is a result: with its job, in the channel or among the entries. -/
inductive State.Has (st : State) (r : JobResult) : Prop
  | job {job : Job} (hjob : job ∈ st.jobs) (hphase : job.phase.Has r)
  | event {event : Event} (hevent : event ∈ st.channel) (hresult : event.result? = some r)
  | entry (hentry : some r ∈ st.entries)

/-- A command is answered as cancelled only once the run is cancelled. -/
def Honest (actions : List Action) : Prop :=
  ∀ before k output, before ++ [.answer k (.ok output)] <+: actions →
    output.termination = .cancelled → .cancel ∈ before

variable {s : Setup} {st st' : State} {a : Action} {actions before : List Action} {k : Nat}
  {i : Instance} {phase phase' : Phase} {events : List Event} {calls : List Call} {r : JobResult}

/-! ## Honest runners -/

theorem Honest.of_prefix (h : Honest actions) (hbefore : before <+: actions) : Honest before :=
  fun first k output hfirst => h first k output (hfirst.trans hbefore)

/-- Once a run is cancelled the runner may answer anything. -/
theorem Honest.append_cancel (h : Honest before) (after : List Action) :
    Honest (before ++ .cancel :: after) := by
  intro first k output hfirst htermination
  have hcancel : before ++ [.cancel] <+: before ++ .cancel :: after := by simp
  rcases List.prefix_or_prefix_of_prefix hfirst hcancel with hwithin | hbeyond
  · rcases List.prefix_concat_iff.1 hwithin with hlast | hwithin
    · simp at hlast
    · exact h first k output hwithin htermination
  · rcases List.prefix_concat_iff.1 hbeyond with hlast | hbeyond
    · simp at hlast
    · exact hbeyond.subset (by simp)

/-! ## Where results come from -/

/-- A move sends no result but the one that its job has by then. -/
theorem Move.has_of_event (h : Move s st k i phase a phase' events calls) {event : Event}
    (hevent : event ∈ events) (hresult : event.result? = some r) : phase'.Has r := by
  cases h with
  | skip _ | drop _ _ =>
    obtain rfl := List.mem_singleton.1 hevent
    cases hresult
    exact .skipped
  | publish =>
    obtain rfl := List.mem_singleton.1 hevent
    cases hresult
    exact .published
  | enter _ | bar _ | pass _ _ | ask _ _ | goOn _ | giveUp _ =>
    obtain rfl := List.mem_singleton.1 hevent
    cases hresult
  | spawn _ _ | finish | stop _ | abort | release => cases hevent

/-- A move makes a result that blames a cancellation only once the run is cancelled, or when a command
is answered as cancelled. -/
theorem Move.blames (h : Move s st k i phase a phase' events calls) (hhas : phase'.Has r)
    (hblames : r.BlamesCancellation) :
    phase.Has r ∨ st.cancelled = true ∨
      ∃ k output, a = .answer k (.ok output) ∧ output.termination = .cancelled := by
  cases h with
  | drop _ hcancelled | stop hcancelled => exact .inr (.inl hcancelled)
  | giveUp hjudge =>
    cases hhas
    obtain rfl := Option.some.inj (Instance.blamesCancellation_finished.1 hblames)
    obtain ⟨output, rfl, htermination⟩ := Instance.cancelled_of_judge hjudge
    exact .inr (.inr ⟨k, output, rfl, htermination⟩)
  | skip _ =>
    cases hhas
    cases Instance.blamesCancellation_skipped.1 hblames
  | bar _ | finish =>
    cases hhas
    cases Instance.blamesCancellation_finished.1 hblames
  | release =>
    cases hhas
    exact .inl .settled
  | publish =>
    cases hhas
    exact .inl .released
  | spawn _ _ | enter _ | pass _ _ | ask _ _ | goOn _ | abort => cases hhas

theorem State.mem_entriesAfter {event : Event} (h : some r ∈ st.entriesAfter event) :
    some r ∈ st.entries ∨ event.result? = some r := by
  unfold State.entriesAfter at h
  cases hresult : event.result? with
  | none =>
    rw [hresult] at h
    exact .inl h
  | some result =>
    simp only [hresult, State.entriesWith] at h
    split at h
    · rcases List.mem_or_eq_of_mem_set h with hmem | heq
      · exact .inl hmem
      · exact .inr heq.symm
    · exact .inl h

theorem Step.blames (h : Step s st a st') (hhas : st'.Has r) (hblames : r.BlamesCancellation) :
    st.Has r ∨ st.cancelled = true ∨
      ∃ k output, a = .answer k (.ok output) ∧ output.termination = .cancelled := by
  cases h with
  | move hjob hmove _ _ =>
    have hmoved := fun hphase => (hmove.blames hphase hblames).imp_left
      (State.Has.job (List.mem_of_getElem? hjob))
    cases hhas with
    | job hmem hphase =>
      rcases List.mem_or_eq_of_mem_set hmem with hmem | rfl
      · exact .inl (.job hmem hphase)
      · exact hmoved hphase
    | event hmem hresult =>
      rcases List.mem_append.1 hmem with hmem | hmem
      · exact .inl (.event hmem hresult)
      · exact hmoved (hmove.has_of_event hmem hresult)
    | entry hentry => exact .inl (.entry hentry)
  | collect hchannel =>
    refine .inl ?_
    cases hhas with
    | job hmem hphase => exact .job hmem hphase
    | event hmem hresult => exact .event (hchannel ▸ List.mem_cons_of_mem _ hmem) hresult
    | entry hentry =>
      rcases State.mem_entriesAfter hentry with hentry | hresult
      · exact .entry hentry
      · exact .event (hchannel ▸ List.mem_cons_self) hresult
  | cancel | pass _ | complete _ _ _ =>
    refine .inl ?_
    cases hhas with
    | job hmem hphase => exact .job hmem hphase
    | event hmem hresult => exact .event hmem hresult
    | entry hentry => exact .entry hentry

/-! ## Over a run -/

/-- A result that blames a cancellation is nowhere in a run that is not cancelled. -/
theorem State.cancelled_of_blames (h : State.after s actions = some st) (hhonest : Honest actions)
    (hhas : st.Has r) (hblames : r.BlamesCancellation) : st.cancelled = true := by
  refine State.after_induction
    (P := fun actions st => Honest actions → st.Has r → st.cancelled = true) ?_ ?_ h hhonest hhas
  · rintro - hhas
    cases hhas with
    | job hmem hphase =>
      obtain ⟨i, -, rfl⟩ := List.mem_map.1 hmem
      cases hphase
    | event hmem _ => cases hmem
    | entry hentry => simp [State.start] at hentry
  · intro actions st a st' hafter ih hstep hhonest hhas
    refine hstep.cancelled_mono ?_
    rcases hstep.blames hhas hblames with hhad | hcancelled | ⟨k, output, rfl, htermination⟩
    · exact ih (hhonest.of_prefix (List.prefix_append _ _)) hhad
    · exact hcancelled
    · have hcancel := hhonest actions k output List.prefix_rfl htermination
      exact (State.cancelled_iff_of_after hafter).2 hcancel

/-- The entries of a result are results of the run, or stand for jobs that aborted. -/
theorem State.has_of_mem_result {entry : JobResult} (h : entry ∈ (st.result s).jobs) :
    st.Has entry ∨ ∃ i : Instance, entry = i.aborted := by
  rw [State.result, ← List.map_uncurry_zip_eq_zipWith, List.mem_map] at h
  obtain ⟨⟨given, job⟩, hmem, rfl⟩ := h
  cases given with
  | none => exact .inr ⟨job.inst, rfl⟩
  | some given => exact .inl (.entry (List.of_mem_zip hmem).1)

/-- In the result of a run no job blames a cancellation that there was not. -/
theorem State.completed_cancelled (h : State.after s actions = some st) (hhonest : Honest actions)
    {result : RunResult} (hcompleted : st.completed = some result) {entry : JobResult}
    (hentry : entry ∈ result.jobs) (hblames : entry.BlamesCancellation) :
    result.cancelled = true := by
  obtain ⟨before, last, hprefix, hlast, -, rfl⟩ := State.ended_of_completed h hcompleted
  have hbefore : Honest before := hhonest.of_prefix ((List.prefix_append _ _).trans hprefix)
  rcases State.has_of_mem_result hentry with hhas | ⟨i, rfl⟩
  · exact State.cancelled_of_blames hlast hbefore hhas hblames
  · exact absurd hblames Instance.not_blamesCancellation_aborted

end Run

/-! ## Summaries -/

/-- The numbers of a summary and its verdict are those of its jobs. -/
structure RunSummary.Tallies (summary : RunSummary) : Prop where
  total_eq : summary.total = summary.jobs.length
  total_eq_add : summary.total = summary.passed + summary.failed + summary.skipped
  passed_iff : summary.verdict = .passed ↔ summary.cancelled = false ∧ summary.failed = 0

theorem RunSummary.tallies_ofResult (r : RunResult) : (RunSummary.ofResult r).Tallies where
  total_eq := rfl
  total_eq_add := r.count_add_count.symm
  passed_iff := by
    refine r.overall_eq_passed_iff.trans (and_congr_right fun _ => ?_)
    exact r.count_failed_eq_zero_iff.symm

namespace Run

/-- The summary of any result is consistent and keeps its verdict, the exit code is 0 exactly if all
summaries say passed, in whatever order, and a run in which a job blames a cancellation was cancelled
and did not pass. -/
theorem tallies_agree :
    (∀ r : RunResult, (RunSummary.ofResult r).Tallies ∧
      (RunSummary.ofResult r).jobs = r.jobs ∧ (RunSummary.ofResult r).cancelled = r.cancelled ∧
      (RunSummary.ofResult r).verdict = r.overall) ∧
    (∀ results : List RunResult,
      exitCode results = 0 ↔ ∀ r ∈ results, (RunSummary.ofResult r).verdict = .passed) ∧
    (∀ results results' : List RunResult, results.Perm results' →
      exitCode results = exitCode results') ∧
    ∀ s actions st r, State.after s actions = some st → st.completed = some r → Honest actions →
      ∀ entry ∈ r.jobs, entry.BlamesCancellation →
        r.cancelled = true ∧ (RunSummary.ofResult r).verdict = .failed := by
  refine ⟨fun r => ⟨RunSummary.tallies_ofResult r, rfl, rfl, rfl⟩, exitCode_eq_zero_iff,
    fun _ _ => exitCode_perm, ?_⟩
  intro s actions st r hafter hcompleted hhonest entry hentry hblames
  have hcancelled := State.completed_cancelled hafter hhonest hcompleted hentry hblames
  exact ⟨hcancelled, by simp [RunSummary.ofResult, RunResult.overall, hcancelled]⟩

end Run

end JobMatrix

namespace JobMatrix.Small

open Run

theorem honest_beforeCut : Honest beforeCut := by
  intro before k output hbefore
  have hanswer := hbefore.subset (List.mem_append_right before List.mem_cons_self)
  simp [beforeCut] at hanswer

/-- In the run cut short the second job blames the cancellation, and the run does not pass. -/
theorem tallies_agree_cut :
    ∃ entry ∈ cut.result.jobs, entry.BlamesCancellation ∧ cut.result.cancelled = true ∧
      (RunSummary.ofResult cut.result).verdict = .failed := by
  obtain ⟨-, -, -, hblame⟩ := tallies_agree
  obtain ⟨st, hcomplete, hcompleted⟩ := cut.complete_result
  have hafter : State.after cut.setup (cut.actions ++ [.complete]) = some st := by
    rw [State.after_concat, cut.reached]
    exact hcomplete
  have hhonest : Honest (cut.actions ++ [.complete]) :=
    honest_beforeCut.append_cancel (afterCut ++ [Action.complete])
  obtain ⟨entry, hentry, hblames⟩ : ∃ entry ∈ cut.result.jobs, entry.BlamesCancellation :=
    ⟨_, List.mem_of_getElem? (rfl : cut.result.jobs[1]? = some _), .inl rfl⟩
  exact ⟨entry, hentry, hblames, hblame _ _ _ _ hafter hcompleted hhonest entry hentry hblames⟩

end JobMatrix.Small
