import JobMatrix.Proofs.Run.Trace

/-!
# Slots

A job takes one slot at most and gives back what it took. So the slots that are free and
those that jobs hold always make up the number of slots of the run.
-/

namespace JobMatrix.Run

variable {s : Setup} {st st' : State} {a : Action} {actions : List Action}

/-- The number of jobs that hold a slot. -/
def State.held (st : State) : Nat :=
  st.jobs.countP (·.phase.holdsSlot)

theorem State.held_eq_zero (h : ∀ job ∈ st.jobs, job.phase.holdsSlot = false) : st.held = 0 := by
  rw [State.held, List.countP_eq_zero]
  intro job hjob
  simp [h job hjob]

/-- The number of jobs in phases of a kind changes by what one of them changes. -/
theorem countP_set_phase {jobs : List Job} {k : Nat} {job : Job} (kind : Phase → Bool) (phase : Phase)
    (hjob : jobs[k]? = some job) :
    (jobs.set k ⟨job.inst, phase⟩).countP (kind ·.phase) + (if kind job.phase then 1 else 0) =
      jobs.countP (kind ·.phase) + (if kind phase then 1 else 0) := by
  obtain ⟨hlt, rfl⟩ := List.getElem?_eq_some_iff.1 hjob
  have hone : (if kind jobs[k].phase then 1 else 0) ≤ jobs.countP (kind ·.phase) :=
    List.boole_getElem_le_countP (p := fun job : Job => kind job.phase) hlt
  have hset : (jobs.set k ⟨jobs[k].inst, phase⟩).countP (kind ·.phase) =
      jobs.countP (kind ·.phase) - (if kind jobs[k].phase then 1 else 0) +
        (if kind phase then 1 else 0) :=
    List.countP_set hlt
  omega

theorem Step.slots (h : Step s st a st') : st'.free + st'.held = st.free + st.held := by
  cases h with
  | @move k job _ phase _ _ _ free hjob _ _ hfree =>
    -- What the job takes or gives back is what the free slots lose or gain.
    have hheld := countP_set_phase Phase.holdsSlot phase hjob
    simp only [slotsOf] at hfree
    simp only [State.held]
    omega
  | _ => rfl

/-- Free slots and held slots are all slots. -/
theorem State.slots_of_after (h : State.after s actions = some st) : st.free + st.held = s.slots := by
  refine State.after_induction (P := fun _ st => st.free + st.held = s.slots) ?_ ?_ h
  · have hheld : (State.start s).held = 0 := by
      refine State.held_eq_zero fun job hjob => ?_
      obtain ⟨i, -, rfl⟩ := List.mem_map.1 hjob
      rfl
    rw [hheld]
    rfl
  · intro actions st a st' _ ih hstep
    exact hstep.slots.trans ih

/-- Every slot is free while no job holds one. -/
theorem State.free_eq_slots (h : State.after s actions = some st)
    (hnone : ∀ job ∈ st.jobs, job.phase.holdsSlot = false) : st.free = s.slots := by
  have hslots := State.slots_of_after h
  rwa [State.held_eq_zero hnone] at hslots

end JobMatrix.Run
