import JobMatrix.Proofs.Run.Stream

/-!
# The entries of a run

A result that reaches the log fills the entry at the position that its identity belongs to.
As identities are distinct, the entry of a job always holds the last result in the log that
carries its identity, whatever the order in which results arrive. Once the channel is empty
that is the result which the phase of the job has published, if it has any.
-/

namespace JobMatrix

/-- The result that a job in a phase has sent. -/
def Phase.published? : Phase → Option JobResult
  | .skipped result | .published result => some result
  | _ => none

/-- What a run that ends records for a job. -/
def Job.entry (job : Job) : JobResult :=
  job.phase.published?.getD job.inst.aborted

@[simp] theorem Job.entry_skipped (i : Instance) (result : JobResult) :
    Job.entry ⟨i, .skipped result⟩ = result := rfl

@[simp] theorem Job.entry_published (i : Instance) (result : JobResult) :
    Job.entry ⟨i, .published result⟩ = result := rfl

@[simp] theorem Job.entry_aborted (i : Instance) : Job.entry ⟨i, .aborted⟩ = i.aborted := rfl

namespace Run

variable {s : Setup} {st st' : State} {a : Action} {actions : List Action} {k : Nat} {job : Job}

/-! ## Positions -/

theorem State.ids_of_after (h : State.after s actions = some st) :
    st.jobs.map (·.inst.id) = s.pipeline.instances.map Instance.id := by
  rw [← State.insts_of_after h, List.map_map]
  rfl

theorem State.position?_eq_some {id : String} (h : st.position? id = some k) :
    ∃ job, st.jobs[k]? = some job ∧ job.inst.id = id := by
  obtain ⟨hlt, hid, -⟩ := List.findIdx?_eq_some_iff_getElem.1 h
  exact ⟨st.jobs[k], List.getElem?_eq_getElem hlt, by simpa using hid⟩

/-- Distinct identities lead to the positions of their jobs. -/
theorem State.position?_of_nodup (hids : (st.jobs.map (·.inst.id)).Nodup)
    (hjob : st.jobs[k]? = some job) : st.position? job.inst.id = some k := by
  cases hfound : st.position? job.inst.id with
  | none =>
    have hall := List.findIdx?_eq_none_iff.1 hfound job (List.mem_of_getElem? hjob)
    simp at hall
  | some j =>
    obtain ⟨other, hother, hid⟩ := State.position?_eq_some hfound
    have hlt : j < (st.jobs.map (·.inst.id)).length := by
      simpa using (List.getElem?_eq_some_iff.1 hother).1
    have hsame : j = k := (List.getElem?_inj hlt hids).1 (by simp [hjob, hother, hid])
    rw [hsame]

/-! ## Filling -/

/-- The entry of every job is the last result in the log for its identity. -/
structure State.Filled (st : State) : Prop where
  length : st.entries.length = st.jobs.length
  entry : ∀ (k : Nat) (job : Job), st.jobs[k]? = some job →
    st.entries[k]? = some (resultsOf job.inst.id st.log).getLast?

theorem resultsOf_concat (id : String) (events : List Event) (event : Event) :
    resultsOf id (events ++ [event]) =
      resultsOf id events ++ (event.result?.toList.filter (·.id == id)) := by
  cases hresult : event.result? <;> simp [resultsOf, hresult]

theorem State.filled_start : (State.start s).Filled where
  length := by simp [State.start]
  entry := by
    intro k job hjob
    simp only [State.start, List.getElem?_map, Option.map_eq_some_iff] at hjob ⊢
    obtain ⟨i, hi, rfl⟩ := hjob
    exact ⟨i, hi, rfl⟩

/-- A result fills the entry of its job and leaves the others. -/
theorem State.entriesWith_get (hids : (st.jobs.map (·.inst.id)).Nodup) (h : st.Filled)
    (hjob : st.jobs[k]? = some job) (result : JobResult) :
    (st.entriesWith result)[k]? =
      if result.id = job.inst.id then some (some result) else st.entries[k]? := by
  have hlt : k < st.entries.length := by
    rw [h.length]
    exact (List.getElem?_eq_some_iff.1 hjob).1
  unfold State.entriesWith
  split
  · rename_i j hfound
    split
    · rename_i hid
      rw [hid, State.position?_of_nodup hids hjob] at hfound
      cases hfound
      exact List.getElem?_set_self hlt
    · -- A result of another identity goes to the position of another job.
      rename_i hid
      obtain ⟨other, hother, hnamed⟩ := State.position?_eq_some hfound
      have hne : j ≠ k := by
        rintro rfl
        rw [hjob] at hother
        cases hother
        exact hid hnamed.symm
      exact List.getElem?_set_ne hne
  · rename_i hfound
    rw [if_neg]
    intro hid
    rw [hid, State.position?_of_nodup hids hjob] at hfound
    cases hfound

theorem State.entriesWith_length (st : State) (result : JobResult) :
    (st.entriesWith result).length = st.entries.length := by
  unfold State.entriesWith
  split <;> simp

/-- An event on its way to the log fills what it tells of. -/
theorem State.Filled.collect (hids : (st.jobs.map (·.inst.id)).Nodup) (h : st.Filled)
    (event : Event) (rest : List Event) :
    State.Filled { st with
      channel := rest
      log := st.log ++ [event]
      entries := st.entriesAfter event } := by
  unfold State.entriesAfter
  cases hresult : event.result? with
  | none =>
    refine ⟨h.length, fun k job hjob => ?_⟩
    simp only [resultsOf_concat, hresult, Option.toList_none, List.filter_nil, List.append_nil]
    exact h.entry k job hjob
  | some result =>
    refine ⟨(st.entriesWith_length result).trans h.length, fun k job hjob => ?_⟩
    simp only [resultsOf_concat, hresult, Option.toList_some,
      State.entriesWith_get hids h hjob]
    split
    · rename_i hid
      simp [hid]
    · rename_i hid
      simpa [hid] using h.entry k job hjob

theorem Step.filled (hids : (st.jobs.map (·.inst.id)).Nodup) (h : Step s st a st')
    (hst : st.Filled) : st'.Filled := by
  cases h with
  | @move j before _ phase _ _ _ _ hbefore _ _ _ =>
    refine ⟨by simpa using hst.length, fun k job hjob => ?_⟩
    rcases job_of_set hjob with ⟨rfl, rfl⟩ | ⟨-, hsame⟩
    · exact hst.entry _ before hbefore
    · exact hst.entry k job hsame
  | @collect event rest _ => exact hst.collect hids event rest
  | cancel | pass d => exact ⟨hst.length, hst.entry⟩
  -- The last event carries no result.
  | complete _ _ _ =>
    refine ⟨hst.length, fun k job hjob => ?_⟩
    simpa [resultsOf_concat, Event.result?] using hst.entry k job hjob

theorem State.filled_of_after (hids : (s.pipeline.instances.map Instance.id).Nodup)
    (h : State.after s actions = some st) : st.Filled := by
  refine State.after_induction (P := fun _ st => st.Filled) ?_ ?_ h
  · exact State.filled_start
  · intro actions st a st' hafter ih hstep
    exact hstep.filled (by rwa [State.ids_of_after hafter]) ih

/-! ## Results -/

theorem startedEvents_results (id : String) (records : List StepRecord) :
    (startedEvents id records).filterMap Event.result? = [] := by
  rw [List.filterMap_eq_nil_iff]
  intro event hevent
  rcases List.mem_cons.1 hevent with rfl | hevent
  · rfl
  · obtain ⟨record, -, hevent⟩ := List.mem_flatMap.1 hevent
    unfold recordEvents at hevent
    split at hevent
    · obtain rfl := List.mem_singleton.1 hevent
      rfl
    · simp only [List.mem_cons, List.not_mem_nil, or_false] at hevent
      rcases hevent with rfl | rfl
      · rfl
      · rfl

/-- The stream of a job holds the one result that its phase has published. -/
theorem Streams.results {i : Instance} {phase : Phase} {stream : List Event}
    (h : Streams i phase stream) :
    stream.filterMap Event.result? = phase.published?.toList := by
  cases h with
  | waiting | skipped | spawned => rfl
  | ready | settled | released => exact startedEvents_results ..
  | running | published | aborted =>
    rw [List.filterMap_append, startedEvents_results]
    rfl

theorem State.resultsOf_of_after (hids : (s.pipeline.instances.map Instance.id).Nodup)
    (h : State.after s actions = some st) (hchannel : st.channel = [])
    (hjob : st.jobs[k]? = some job) :
    resultsOf job.inst.id st.log = job.phase.published?.toList := by
  have hstream := (State.streams_of_after hids h hjob).results
  rwa [State.events, hchannel, List.append_nil, ← resultsOf_eq] at hstream

/-- The result of a run that ends has for each job what its phase has published. -/
theorem State.result_jobs (hids : (s.pipeline.instances.map Instance.id).Nodup)
    (h : State.after s actions = some st) (hchannel : st.channel = []) :
    (st.result s).jobs = st.jobs.map Job.entry := by
  have hfilled := State.filled_of_after hids h
  refine List.ext_getElem? fun k => ?_
  simp only [State.result, List.getElem?_zipWith, List.getElem?_map]
  cases hjob : st.jobs[k]? with
  | none => cases st.entries[k]? <;> rfl
  | some job =>
    rw [hfilled.entry k job hjob, State.resultsOf_of_after hids h hchannel hjob]
    simp only [Job.entry, Option.map_some]
    cases job.phase.published? <;> rfl

end Run

end JobMatrix
