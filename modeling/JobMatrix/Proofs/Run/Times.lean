import JobMatrix.Proofs.History.Table
import JobMatrix.Proofs.Run.Course
import JobMatrix.Proofs.Run.Executor

/-!
# Times of results

The clock of a run counts from its start on, so a clock can show every time in its result, even if the
start was a leap second. So the lasting history gives the summary of any run back, unless the run has
more jobs than a word can count.
-/

namespace JobMatrix

theorem Timestamp.proper_add (t : Timestamp) (d : Duration) : (t.add d).Proper :=
  .inl (Nat.mod_lt _ (by decide))

/-- A clock can show the times of a result that a job has in a phase. -/
def Phase.Timely (phase : Phase) : Prop :=
  ∀ r, phase = .skipped r ∨ phase.result? = some r → r.Proper

namespace Run

variable {s : Setup} {st : State} {a : Action} {k : Nat} {i : Instance} {phase phase' : Phase}
  {events : List Event} {calls : List Call}

theorem State.proper_resultOf (st : State) (startedAt : Duration) (records : List StepRecord)
    (failure : Option JobFailure) : (st.resultOf s i startedAt records failure).Proper := by
  refine ⟨?_, ?_⟩
  · rintro t ⟨⟩
    exact Timestamp.proper_add ..
  · rintro t ⟨⟩
    exact Timestamp.proper_add ..

theorem Move.timely (h : Move s st k i phase a phase' events calls) (hphase : phase.Timely) :
    phase'.Timely := by
  intro r hr
  cases h with
  | skip | drop =>
    obtain ⟨⟨⟩⟩ | ⟨⟨⟩⟩ := hr
    exact ⟨nofun, nofun⟩
  | bar | finish | stop | giveUp =>
    obtain ⟨⟨⟩⟩ | ⟨⟨⟩⟩ := hr
    exact State.proper_resultOf ..
  | release | publish =>
    obtain ⟨⟨⟩⟩ | ⟨⟨⟩⟩ := hr
    exact hphase _ (.inr rfl)
  | spawn | enter | pass | ask | goOn | abort => obtain ⟨⟨⟩⟩ | ⟨⟨⟩⟩ := hr

/-- A clock can show all times in the result of a run. -/
theorem Course.proper_result (c : Course) : ∀ r ∈ c.result.jobs, r.Proper := by
  intro r hr
  rw [c.result_jobs] at hr
  obtain ⟨⟨i, phase⟩, hjob, rfl⟩ := List.mem_map.1 hr
  obtain ⟨k, hk⟩ := List.mem_iff_getElem?.1 hjob
  have htimely : phase.Timely := State.job_induction (P := fun _ _ _ phase => phase.Timely)
    (fun _ => nofun) (fun _ h => h) (fun _ _ hmove h => hmove.timely h) c.reached hk
  cases phase with
  | skipped r => exact htimely r (.inl rfl)
  | published r => exact htimely r (.inr rfl)
  | _ => exact ⟨nofun, nofun⟩

/-- The summary of a run is read back from the history, as long as its jobs can be counted. -/
theorem Course.legible (c : Course) (h : c.result.jobs.length < Word.bound) :
    History.Legible (.ofResult c.result) where
  total := h
  passed := List.countP_le_length.trans_lt h
  failed := List.countP_le_length.trans_lt h
  skipped := List.countP_le_length.trans_lt h
  jobs := c.proper_result

end Run

end JobMatrix
