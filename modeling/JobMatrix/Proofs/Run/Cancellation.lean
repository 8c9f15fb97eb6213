import JobMatrix.Proofs.Run.Verdict

/-!
# Cancellation

From the moment a run is cancelled, the end of each job is fixed by where it stands. Jobs
that wait are skipped, jobs that have something left to do fail as cancelled, and jobs that
are through with their steps keep what they have. No more commands are asked for.
-/

namespace JobMatrix.Run

variable {s : Setup} {st st' last : State} {a : Action} {actions : List Action} {k : Nat}
  {i : Instance} {phase phase' : Phase} {events : List Event} {calls : List Call}
  {entry : JobResult}

/-! ## The end of a job -/

/-- How the job `i` ends if the run is cancelled while it is in a phase. If it has asked for a
command, `ended` is the answer of a command that has ended by then, and none says that it is in
flight. -/
inductive CutShort (i : Instance) (ended : Option Reply) : Phase → JobResult → Prop
  | unwanted (hrun : i.willRun = false) : CutShort i ended .waiting (i.skipped .conditionFalse)
  | dropped (hrun : i.willRun = true) : CutShort i ended .waiting (i.skipped .cancelled)
  | notBegun {t t' d} : CutShort i ended .spawned (i.finished [] (some .cancelled) t t' d)
  | between {started path records step todo t t' d} :
      CutShort i ended (.working started path (.ready records (step :: todo)))
        (i.finished records (some .cancelled) t t' d)
  | done {started path records t t' d} :
      CutShort i ended (.working started path (.ready records []))
        (i.finished records none t t' d)
  /-- The command is cut short, and its record is failed whatever the step tolerates. -/
  | inFlight {started path records step todo record t t' d} (hended : ended = none)
      (hof : record.IsOf i records.length step) (hstatus : record.status = .failed)
      (herror : record.error = some "cancelled") :
      CutShort i ended (.working started path (.running records step todo))
        (i.finished (records ++ [record]) (some .cancelled) t t' d)
  | gaveUp {started path records step todo reply record failure t t' d}
      (hended : ended = some reply)
      (hjudge : i.judge records.length step reply = (record, some failure)) :
      CutShort i ended (.working started path (.running records step todo))
        (i.finished (records ++ [record]) (some failure) t t' d)
  | wentOn {started path records step next todo reply record t t' d} (hended : ended = some reply)
      (hjudge : i.judge records.length step reply = (record, none)) :
      CutShort i ended (.working started path (.running records step (next :: todo)))
        (i.finished (records ++ [record]) (some .cancelled) t t' d)
  | cameThrough {started path records step reply record t t' d} (hended : ended = some reply)
      (hjudge : i.judge records.length step reply = (record, none)) :
      CutShort i ended (.working started path (.running records step []))
        (i.finished (records ++ [record]) none t t' d)
  | skipped {result} : CutShort i ended (.skipped result) result
  | settled {result} : CutShort i ended (.settled result) result
  | released {result} : CutShort i ended (.released result) result
  | published {result} : CutShort i ended (.published result) result
  | aborted : CutShort i ended .aborted i.aborted

/-- What may happen after the cancellation: workspaces can be created, no task aborts, and the
commands in flight end as cancelled. -/
def Orderly (ended : Nat → Option Reply) : Action → Prop
  | .begin _ workspace => ∃ path, workspace = .ok path
  | .answer k reply =>
    match ended k with
    | some given => reply = given
    | none => ∃ output, reply = .ok output ∧ output.termination = .cancelled
  | .abort _ => False
  | _ => True

theorem CutShort.of_done {ended : Option Reply} (h : phase.isDone = true) :
    CutShort i ended phase (Job.entry ⟨i, phase⟩) := by
  cases phase with
  | skipped result => exact .skipped
  | published result => exact .published
  | aborted => exact .aborted
  | waiting | spawned | working _ _ _ | settled _ | released _ => cases h

/-- A move after the cancellation leads to no other end than the phase before. -/
theorem CutShort.move {ended : Nat → Option Reply} (hsteps : i.template.steps ≠ [])
    (hcancelled : st.cancelled = true) (horderly : Orderly ended a)
    (hmove : Move s st k i phase a phase' events calls) (h : CutShort i (ended k) phase' entry) :
    CutShort i (ended k) phase entry := by
  cases hmove with
  | skip hrun => cases h; exact .unwanted hrun
  | drop hrun _ => cases h; exact .dropped hrun
  | spawn _ hnot | pass hnot _ | ask hnot _ =>
    rw [hcancelled] at hnot
    cases hnot
  | enter path =>
    -- A job that has just begun has its first step to do, so it does not pass.
    obtain ⟨step, todo, hcons⟩ := List.exists_cons_of_ne_nil hsteps
    rw [Instance.begin, hcons] at h
    cases h
    exact .notBegun
  | bar cause =>
    obtain ⟨path, hpath⟩ := horderly
    cases hpath
  | finish => cases h; exact .done
  | stop _ => cases h; exact .between
  | @goOn _ _ _ _ todo reply record hjudge =>
    simp only [Orderly] at horderly
    split at horderly
    · -- The command had ended by then, so its own answer decides.
      rename_i given hended
      subst horderly
      cases todo with
      | nil => cases h; exact .cameThrough hended hjudge
      | cons next todo => cases h; exact .wentOn hended hjudge
    · -- A command that was cut short lets no job go on.
      obtain ⟨output, rfl, htermination⟩ := horderly
      cases (Instance.judge_cancelled htermination hjudge).2.2
  | giveUp hjudge =>
    simp only [Orderly] at horderly
    split at horderly
    · rename_i given hended
      subst horderly
      cases h
      exact .gaveUp hended hjudge
    · rename_i hended
      obtain ⟨output, rfl, htermination⟩ := horderly
      have hof := Instance.judge_isOf hjudge
      obtain ⟨hstatus, herror, hfailure⟩ := Instance.judge_cancelled htermination hjudge
      cases hfailure
      cases h
      exact .inFlight hended hof hstatus herror
  | abort => exact horderly.elim
  | release => cases h; exact .settled
  | publish => cases h; exact .released

/-! ## The rest of the run -/

theorem Step.cancelled_mono (h : Step s st a st') (hcancelled : st.cancelled = true) :
    st'.cancelled = true := by
  cases h with
  | cancel => rfl
  | _ => exact hcancelled

/-- No command is asked for once the run is cancelled. -/
theorem Move.calls_of_cancelled (h : Move s st k i phase a phase' events calls)
    (hcancelled : st.cancelled = true) : calls = [] := by
  cases h with
  | ask hnot _ =>
    rw [hcancelled] at hnot
    cases hnot
  | _ => rfl

theorem Step.calls_of_cancelled (h : Step s st a st') (hcancelled : st.cancelled = true) :
    st'.calls = st.calls := by
  cases h with
  | move _ hmove _ _ => simp [hmove.calls_of_cancelled hcancelled]
  | _ => rfl

/-- What is left of a run after the cancellation leads each job to the end that it has coming. -/
theorem State.run_cancelled {ended : Nat → Option Reply} (hst : st.InOrder)
    (hcancelled : st.cancelled = true) (horderly : ∀ a ∈ actions, Orderly ended a)
    (h : st.run s actions = some last) :
    last.calls = st.calls ∧ ∀ k i phase, i.template.steps ≠ [] → st.jobs[k]? = some ⟨i, phase⟩ →
      ∃ phase', last.jobs[k]? = some ⟨i, phase'⟩ ∧
        ∀ entry, CutShort i (ended k) phase' entry → CutShort i (ended k) phase entry := by
  -- From the front: the ends that are open to a job after an action were open to it before.
  induction actions generalizing st with
  | nil =>
    cases h
    exact ⟨rfl, fun k i phase _ hjob => ⟨phase, hjob, fun _ hentry => hentry⟩⟩
  | cons a actions ih =>
    rw [State.run_cons] at h
    obtain ⟨st', happly, h⟩ := Option.bind_eq_some_iff.1 h
    have hstep := Step.of_apply hst happly
    obtain ⟨hown, hrest⟩ := List.forall_mem_cons.1 horderly
    obtain ⟨hcalls, hjobs⟩ := ih (hstep.inOrder hst) (hstep.cancelled_mono hcancelled) hrest h
    refine ⟨hcalls.trans (hstep.calls_of_cancelled hcancelled), fun k i phase hsteps hjob => ?_⟩
    obtain ⟨phase', hafter, hmoved⟩ := hstep.job_on hjob
    obtain ⟨phase'', hlast, hends⟩ := hjobs k i phase' hsteps hafter
    refine ⟨phase'', hlast, fun entry hentry => ?_⟩
    rcases hmoved with ⟨rfl, -⟩ | ⟨events, calls, hmove⟩
    · exact hends entry hentry
    · exact (hends entry hentry).move hsteps hcancelled hown hmove

/-- A run that is cancelled at some moment asks for no more commands from then on, each of its jobs
ends as its phase at that moment says, and its result counts as cancelled. -/
theorem Course.cancelled_at {c : Course} {before after : List Action} {st : State}
    {ended : Nat → Option Reply} (hactions : c.actions = before ++ .cancel :: after)
    (hst : State.after c.setup before = some st) (horderly : ∀ a ∈ after, Orderly ended a) :
    c.last.calls = st.calls ∧ c.result.cancelled = true ∧
      ∀ k i phase, st.jobs[k]? = some ⟨i, phase⟩ →
        ∃ entry, c.result.jobs[k]? = some entry ∧ CutShort i (ended k) phase entry := by
  have hreached := c.reached
  have hcancel : st.apply c.setup .cancel = some { st with cancelled := true } := rfl
  rw [hactions, State.after_append, hst, Option.bind_some, State.run_cons, hcancel,
    Option.bind_some] at hreached
  have horder := (Step.cancel (s := c.setup)).inOrder (State.inOrder_of_after hst)
  obtain ⟨hcalls, hjobs⟩ := State.run_cancelled horder rfl horderly hreached
  refine ⟨hcalls, c.result_cancelled.2 (by simp [hactions]), fun k i phase hjob => ?_⟩
  have hi : c.instances[k]? = some i := State.instance_of_after hst hjob
  have hsteps := c.loaded.steps_ne_nil (List.mem_of_getElem? hi)
  obtain ⟨phase', hlast, hends⟩ := hjobs k i phase hsteps hjob
  obtain ⟨phase'', hsame, hdone, -, hentry⟩ := c.exists_job hi
  rw [hlast] at hsame
  cases hsame
  exact ⟨_, hentry, hends _ (.of_done hdone)⟩

end JobMatrix.Run

/-! ## A run cut short -/

namespace JobMatrix.Small

open Run

/-- The command of the first of two jobs runs, and the only slot is taken. -/
def beforeCut : List Action :=
  [.dispatch, .begin 0 (.ok "/tmp/0"), .decide 0]

def afterCut : List Action :=
  [.dispatch, .answer 0 (.ok ⟨.cancelled, "", "", ⟨5⟩⟩), .release 0, .publish 0,
    .collect, .collect, .collect, .collect, .collect]

def cut : Course :=
  course 1 .sequential (beforeCut ++ .cancel :: afterCut) slots?_sequential rfl rfl

/-- The first job fails with a record although its step tolerates failures, the second is skipped. -/
theorem cancelled_at_cut :
    cut.last.calls.length = 1 ∧
      (∃ entry, cut.result.jobs[0]? = some entry ∧ entry.failure = some .cancelled ∧
        entry.records.length = 1) ∧
      ∃ entry, cut.result.jobs[1]? = some entry ∧ entry.skipReason = some .cancelled := by
  have horderly : ∀ a ∈ afterCut, Orderly (fun _ => none) a := by simp [afterCut, Orderly]
  obtain ⟨hcalls, -, hjobs⟩ := Course.cancelled_at (c := cut) rfl rfl horderly
  obtain ⟨first, hfirst, hends⟩ := hjobs 0 _ _ rfl
  obtain ⟨second, hsecond, hskips⟩ := hjobs 1 _ _ rfl
  refine ⟨congrArg List.length hcalls, ⟨first, hfirst, ?_⟩, second, hsecond, ?_⟩
  · cases hends with
    | inFlight _ _ _ _ => exact ⟨rfl, rfl⟩
    | gaveUp hended _ | cameThrough hended _ => cases hended
  · cases hskips with
    | unwanted hrun => cases hrun
    | dropped _ => rfl

end JobMatrix.Small
