import JobMatrix.Proofs.Run.Account
import JobMatrix.Proofs.Run.Slots

/-!
# Dispatched jobs

A job that is dispatched takes one slot and gives it back once; a job that is skipped takes
none. Slots are taken in the order of the plan, and after the first job that is dropped for a
cancellation no job takes one. So at every moment the jobs that took a slot are the first of
those that the plan marks to run, and only they ask for commands.
-/

namespace JobMatrix

/-- The instances that a plan marks to run, in its order. -/
def Pipeline.planned (p : Pipeline) : List Instance :=
  (p.plan.filter (·.2)).map (·.1)

theorem Pipeline.planned_eq (p : Pipeline) : p.planned = p.instances.filter Instance.willRun := by
  simp [planned, plan, List.filter_map, Function.comp_def]

namespace Run

/-- The instances whose jobs have taken a slot, in the order of the plan. -/
def State.handedOut (st : State) : List Instance :=
  (st.jobs.filter (·.phase.tookSlot)).map Job.inst

/-- Whether an action gives back the slot of the job at position `k`. -/
def Action.givesBack (k : Nat) : Action → Bool
  | .release j | .abort j => j == k
  | _ => false

/-- How often the job at position `k` gave a slot back. -/
def givenBack (k : Nat) (actions : List Action) : Nat :=
  actions.countP (Action.givesBack k)

variable {s : Setup} {st st' : State} {a : Action} {actions : List Action} {k : Nat}
  {i : Instance} {phase phase' : Phase} {events : List Event} {calls : List Call} {job : Job}

/-! ## One slot for a job -/

theorem givenBack_concat :
    givenBack k (actions ++ [a]) = givenBack k actions + if a.givesBack k then 1 else 0 := by
  simp [givenBack, List.countP_cons]

theorem Action.givesBack_eq_false (h : a.job? ≠ some k) : a.givesBack k = false := by
  cases a <;> simp_all [Action.job?, Action.givesBack]

/-- What a job takes in a move it holds, and what it does not hold any more it gives back. -/
theorem Move.slots (h : Move s st k i phase a phase' events calls) :
    slotsOf phase' + (if a.givesBack k then 1 else 0) + (if phase.tookSlot then 1 else 0) =
      slotsOf phase + if phase'.tookSlot then 1 else 0 := by
  cases h <;> simp [slotsOf, Phase.holdsSlot, Phase.tookSlot, Action.givesBack]

/-- A job that took a slot holds it or has given it back once, and no other job has done either. -/
theorem State.slot_of_after (h : State.after s actions = some st) (hjob : st.jobs[k]? = some job) :
    slotsOf job.phase + givenBack k actions = if job.phase.tookSlot then 1 else 0 := by
  refine State.job_induction
    (P := fun actions k _ phase =>
      slotsOf phase + givenBack k actions = if phase.tookSlot then 1 else 0) ?_ ?_ ?_ h hjob
  · intro k i _
    rfl
  · intro actions a k i phase hother hbefore
    rw [givenBack_concat, Action.givesBack_eq_false hother]
    exact hbefore
  · intro actions st a k i phase phase' events calls _ _ hmove hbefore
    have hmoved := hmove.slots
    rw [givenBack_concat]
    omega

theorem Move.tookSlot_mono (h : Move s st k i phase a phase' events calls)
    (htook : phase.tookSlot = true) : phase'.tookSlot = true := by
  cases h with
  | skip _ | drop _ _ | spawn _ _ => cases htook
  | _ => rfl

/-- A job that took a slot had its turn. -/
theorem State.InOrder.lt_of_tookSlot (hst : st.InOrder) (hjob : st.jobs[k]? = some job)
    (htook : job.phase.tookSlot = true) : k < st.dispatched := by
  by_contra hnot
  rw [(hst k job hjob).2 (Nat.le_of_not_lt hnot)] at htook
  cases htook

/-- No job takes a slot once the run is cancelled. -/
theorem Move.uncancelled_of_tookSlot (h : Move s st k i phase a phase' events calls)
    (hbefore : phase.tookSlot = false) (hafter : phase'.tookSlot = true) :
    st.cancelled = false := by
  cases h with
  | spawn _ hcancelled => exact hcancelled
  | skip _ | drop _ _ => cases hafter
  | _ => cases hbefore

/-- A job that was to run and is past its turn without a slot was dropped for a cancellation. -/
theorem Accounts.dropped (h : Accounts actions k i phase) (hrun : i.willRun = true)
    (htook : phase.tookSlot = false) (hwaiting : phase ≠ .waiting) :
    .cancel ∈ actions ∧ phase = .skipped (i.skipped .cancelled) := by
  cases phase with
  | waiting => exact absurd rfl hwaiting
  | skipped result =>
    obtain ⟨-, ⟨hnot, -⟩ | ⟨-, hcancel, rfl⟩⟩ := h
    · rw [hrun] at hnot
      cases hnot
    · exact ⟨hcancel, rfl⟩
  | spawned | working t path progress | settled result | released result | published result
  | aborted => cases htook

/-! ## In the order of the plan -/

theorem Step.dispatched_le (h : Step s st a st') : st'.dispatched ≤ st.dispatched + 1 := by
  cases h with
  | move _ _ hfront _ =>
    simp only
    omega
  | _ => exact Nat.le_succ _

/-- While nobody has cancelled, a job that is to run takes a slot at its turn. -/
theorem State.tookSlot_of_uncancelled (h : State.after s actions = some st)
    (huncancelled : st.cancelled = false) (hjob : st.jobs[k]? = some job)
    (hturn : k < st.dispatched) (hrun : job.inst.willRun = true) : job.phase.tookSlot = true := by
  by_contra hnot
  have hwaiting : job.phase ≠ .waiting := by
    intro hwaiting
    have hle := (State.inOrder_of_after h k job hjob).1 hwaiting
    omega
  obtain ⟨hcancel, -⟩ := (State.accounts_of_after h hjob).dropped hrun (by simpa using hnot) hwaiting
  rw [← State.cancelled_iff_of_after h, huncancelled] at hcancel
  cases hcancel

/-- Before a job that took a slot, all jobs that were to run took one. -/
theorem State.tookSlot_before (h : State.after s actions = some st) {j : Nat} {later : Job}
    (hlt : j < k) (hjob : st.jobs[j]? = some job) (hlater : st.jobs[k]? = some later)
    (hrun : job.inst.willRun = true) (htook : later.phase.tookSlot = true) :
    job.phase.tookSlot = true := by
  refine State.after_induction
    (P := fun _ st => ∀ j k job later, j < k → st.jobs[j]? = some job → st.jobs[k]? = some later →
      job.inst.willRun = true → later.phase.tookSlot = true → job.phase.tookSlot = true)
    ?_ ?_ h j k job later hlt hjob hlater hrun htook
  · intro j k job later _ _ hlater _ htook
    simp only [State.start, List.getElem?_map, Option.map_eq_some_iff] at hlater
    obtain ⟨i, -, rfl⟩ := hlater
    cases htook
  · intro actions st a st' hafter ih hstep j k job later hlt hjob hlater hrun htook
    obtain ⟨before, hbefore, hkept⟩ := hstep.job_back hjob
    obtain ⟨phase, hphase, hmoved⟩ := hstep.job_back hlater
    have hfirst : before.tookSlot = true := by
      cases hlong : phase.tookSlot with
      | true => exact ih j k _ _ hlt hbefore hphase hrun hlong
      | false =>
        -- The later job takes its slot just now, at its turn, and nobody has cancelled.
        have huncancelled : st.cancelled = false := by
          rcases hmoved with ⟨rfl, -⟩ | ⟨events, calls, hmove⟩
          · rw [hlong] at htook
            cases htook
          · exact hmove.uncancelled_of_tookSlot hlong htook
        have hpast : k < st'.dispatched :=
          (hstep.inOrder (State.inOrder_of_after hafter)).lt_of_tookSlot hlater htook
        have hle := hstep.dispatched_le
        exact State.tookSlot_of_uncancelled hafter huncancelled hbefore (by omega) hrun
    rcases hkept with ⟨rfl, -⟩ | ⟨events, calls, hmove⟩
    · exact hfirst
    · exact hmove.tookSlot_mono hfirst

/-- If among the elements of a kind those of a narrower kind come first, they are a prefix. -/
theorem filter_append_filter {α : Type} {p q : α → Bool} {xs : List α}
    (hnarrow : ∀ x ∈ xs, p x = true → q x = true)
    (hfirst : xs.Pairwise fun x y => q x = true → p y = true → p x = true) :
    xs.filter p ++ xs.filter (fun x => q x && !p x) = xs.filter q := by
  induction xs with
  | nil => rfl
  | cons x xs ih =>
    obtain ⟨hx, hfirst⟩ := List.pairwise_cons.1 hfirst
    obtain ⟨hown, hnarrow⟩ := List.forall_mem_cons.1 hnarrow
    have hrest := ih hnarrow hfirst
    cases hq : q x with
    | false =>
      have hp : p x = false := by
        cases hp : p x with
        | false => rfl
        | true => rw [← hq, hown hp]
      simpa [hp, hq] using hrest
    | true =>
      cases hp : p x with
      | true => simpa [hp, hq] using hrest
      | false =>
        -- Nothing of the narrower kind comes after an element that is not of it.
        have hnone : xs.filter p = [] := by
          rw [List.filter_eq_nil_iff]
          intro y hy htrue
          rw [hx y hy hq htrue] at hp
          cases hp
        rw [hnone, List.nil_append] at hrest
        simp [hp, hq, hnone, hrest]

/-- The jobs that took a slot are the first of those that are to run. -/
theorem State.handedOut_append (h : State.after s actions = some st) :
    st.handedOut ++
        (st.jobs.filter fun job => job.inst.willRun && !job.phase.tookSlot).map Job.inst =
      s.pipeline.planned := by
  have hnarrow : ∀ job ∈ st.jobs, job.phase.tookSlot = true → job.inst.willRun = true := by
    intro job hmem htook
    obtain ⟨k, hjob⟩ := List.getElem?_of_mem hmem
    exact ((State.accounts_of_after h hjob).traced htook).1
  have hfirst : st.jobs.Pairwise fun job later =>
      job.inst.willRun = true → later.phase.tookSlot = true → job.phase.tookSlot = true := by
    rw [List.pairwise_iff_getElem]
    intro j k hj hk hlt hrun htook
    exact State.tookSlot_before h hlt (List.getElem?_eq_getElem hj) (List.getElem?_eq_getElem hk)
      hrun htook
  rw [State.handedOut, ← List.map_append, filter_append_filter hnarrow hfirst,
    Pipeline.planned_eq, ← State.insts_of_after h, List.filter_map]
  rfl

/-- At every moment the jobs that took a slot are the first of those that are to run. -/
theorem State.handedOut_prefix_planned (h : State.after s actions = some st) :
    st.handedOut <+: s.pipeline.planned :=
  ⟨_, State.handedOut_append h⟩

/-! ## Calls -/

/-- A job that makes a call has a slot. -/
theorem Move.holdsSlot_of_call {call : Call} (h : Move s st k i phase a phase' events calls)
    (hcall : call ∈ calls) :
    call.job = k ∧ phase.holdsSlot = true ∧ phase'.tookSlot = true := by
  cases h with
  | ask _ _ =>
    obtain rfl := List.mem_singleton.1 hcall
    exact ⟨rfl, rfl, rfl⟩
  | _ => cases hcall

/-- Only jobs that took a slot make calls. -/
theorem State.tookSlot_of_call (h : State.after s actions = some st) :
    ∀ call ∈ st.calls, ∃ job, st.jobs[call.job]? = some job ∧ job.phase.tookSlot = true := by
  refine State.after_induction
    (P := fun _ st => ∀ call ∈ st.calls,
      ∃ job, st.jobs[call.job]? = some job ∧ job.phase.tookSlot = true) ?_ ?_ h
  · intro call hcall
    cases hcall
  · intro actions st a st' _ ih hstep call hcall
    have hkept : call ∈ st.calls →
        ∃ job, st'.jobs[call.job]? = some job ∧ job.phase.tookSlot = true := by
      intro hold
      obtain ⟨job, hjob, htook⟩ := ih call hold
      obtain ⟨phase, hafter, ⟨hsame, -⟩ | ⟨events, calls, hmove⟩⟩ := hstep.job_on hjob
      · exact ⟨_, hafter, hsame ▸ htook⟩
      · exact ⟨_, hafter, hmove.tookSlot_mono htook⟩
    cases hstep with
    | @move k job _ phase _ calls _ _ hjob hmove _ _ =>
      rcases List.mem_append.1 hcall with hold | hnew
      · exact hkept hold
      · obtain ⟨rfl, -, htook⟩ := hmove.holdsSlot_of_call hnew
        have hlt := (List.getElem?_eq_some_iff.1 hjob).1
        exact ⟨_, List.getElem?_set_self hlt, htook⟩
    | _ => exact hkept hcall

/-- A job that waits has made no call. -/
theorem State.call_lt_dispatched (h : State.after s actions = some st) {call : Call}
    (hcall : call ∈ st.calls) : call.job < st.dispatched := by
  obtain ⟨job, hjob, htook⟩ := State.tookSlot_of_call h call hcall
  exact (State.inOrder_of_after h).lt_of_tookSlot hjob htook

end Run

end JobMatrix
