import JobMatrix.Proofs.Job.Request
import JobMatrix.Proofs.Run.Progress

/-!
# Isolation

With a fixed runner the schedule decides nothing but times. From every phase of a job the
result that it is heading for can be foreseen from its own steps and the answers to its own
requests, and no action of any job changes what is foreseen. So the entry of an instance is
that of the job alone, whatever the other jobs do and in whatever order.
-/

namespace JobMatrix.Run

variable {s : Setup} {st st' last : State} {a : Action} {actions before : List Action} {k : Nat}
  {i : Instance} {phase phase' : Phase} {events : List Event} {calls : List Call}
  {answers : Request → Option Reply} {answer : JobMatrix.Step → Option Reply}

/-- The runner treats the commands of a pipeline alike in all workspaces. -/
def IgnoresWorkspaces (p : Pipeline) (answers : Request → Option Reply) : Prop :=
  ∀ i ∈ p.instances, ∀ step ∈ i.template.steps, ∀ path path',
    answers (i.request p path step) = answers (i.request p path' step)

/-- A runner that reads nothing else of a request than what it shows apart from the path does. -/
theorem IgnoresWorkspaces.of_apartFromPath (p : Pipeline)
    (h : ∀ r r' : Request, r.apartFromPath = r'.apartFromPath → answers r = answers r') :
    IgnoresWorkspaces p answers := by
  intro i _ step _ path path'
  exact h _ _ (i.request_apartFromPath p path path' step)

/-- The result that a job in a phase is heading for. -/
def foresee (i : Instance) (answer : JobMatrix.Step → Option Reply) : Phase → JobResult
  | .waiting => i.alone answer
  | .spawned => i.goOn answer [] i.template.steps
  | .working _ _ (.ready records todo) => i.goOn answer records todo
  | .working _ _ (.running records step todo) => i.goOn answer records (step :: todo)
  | .working _ _ (.over records failure) => i.finished records failure default default .zero
  | .skipped result | .settled result | .released result | .published result => result
  | .aborted => i.aborted

theorem foresee_of_done (h : phase.isDone = true) : foresee i answer phase = Job.entry ⟨i, phase⟩ := by
  cases phase with
  | skipped result | published result | aborted => rfl
  | waiting | spawned | working _ _ _ | settled _ | released _ => cases h

section Pending

variable {t : Duration} {path : String} {records : List StepRecord} {step : JobMatrix.Step}
  {todo : List JobMatrix.Step}

/-- A reply to a pending request is the answer for its step. -/
theorem Obeys.answer_of_running {reply : Reply} (hobeys : Obeys answers st (.answer k reply))
    (hasking : st.Asking s)
    (hjob : st.jobs[k]? = some ⟨i, .working t path (.running records step todo)⟩)
    (hanswer : answers (i.request s.pipeline path step) = answer step) :
    ∃ given, answer step = some given ∧ untimedReply reply = untimedReply given := by
  obtain ⟨request, given, hasked, hgiven, hsame⟩ := hobeys
  rw [hasking k i t path records step todo hjob] at hasked
  cases hasked
  exact ⟨given, hanswer ▸ hgiven, hsame⟩

/-- A task aborts where there is no answer for its step. -/
theorem Obeys.abort_of_running (hobeys : Obeys answers st (.abort k)) (hasking : st.Asking s)
    (hjob : st.jobs[k]? = some ⟨i, .working t path (.running records step todo)⟩)
    (hanswer : answers (i.request s.pipeline path step) = answer step) : answer step = none := by
  obtain ⟨request, hasked, hnone⟩ := hobeys
  rw [hasking k i t path records step todo hjob] at hasked
  cases hasked
  exact hanswer ▸ hnone

end Pending

/-- A move of a served run leads to no other result. -/
theorem Move.untimed_foresee (hmove : Move s st k i phase a phase' events calls)
    (hjob : st.jobs[k]? = some ⟨i, phase⟩) (huncancelled : st.cancelled = false)
    (hasking : st.Asking s) (haccounts : Accounts before k i phase)
    (hanswer : ∀ step ∈ i.template.steps, ∀ path,
      answers (i.request s.pipeline path step) = answer step)
    (hobeys : Obeys answers st a) :
    (foresee i answer phase').untimed = (foresee i answer phase).untimed := by
  cases hmove with
  | skip hrun => simp [foresee, Instance.alone, hrun]
  | drop _ hcancelled | stop hcancelled =>
    rw [huncancelled] at hcancelled
    cases hcancelled
  | spawn hrun _ => simp [foresee, Instance.alone, hrun]
  | enter path => rfl
  | bar cause =>
    obtain ⟨path, hpath⟩ := hobeys
    cases hpath
  | finish => rfl
  | pass _ hcond => simp only [foresee, Instance.goOn_passes hcond]
  | ask _ _ => rfl
  | @goOn _ path _ step _ _ _ hjudge =>
    obtain ⟨-, -, -, done, hsteps, -, hcond⟩ := haccounts
    have hstep := hanswer step (by simp [hsteps]) path
    obtain ⟨given, hgiven, hsame⟩ := hobeys.answer_of_running hasking hjob hstep
    -- The reply may have taken another time than the answer, and so the record differs in that.
    obtain ⟨record', hjudge', hrecord⟩ := Instance.judge_congr hsame hjudge
    simp only [foresee, Instance.goOn_continues hcond hgiven hjudge']
    exact Instance.untimed_goOn_congr (by simp [hrecord])
  | @giveUp _ path _ step _ _ _ _ hjudge =>
    obtain ⟨-, -, -, done, hsteps, -, hcond⟩ := haccounts
    have hstep := hanswer step (by simp [hsteps]) path
    obtain ⟨given, hgiven, hsame⟩ := hobeys.answer_of_running hasking hjob hstep
    obtain ⟨record', hjudge', hrecord⟩ := Instance.judge_congr hsame hjudge
    simp only [foresee, Instance.goOn_fails hcond hgiven hjudge', State.resultOf,
      Instance.untimed_finished]
    simp [hrecord]
  | @abort _ path _ step _ =>
    obtain ⟨-, -, -, done, hsteps, -, hcond⟩ := haccounts
    have hstep := hanswer step (by simp [hsteps]) path
    have hnone := hobeys.abort_of_running hasking hjob hstep
    simp only [foresee, Instance.goOn_aborts hcond hnone]
  | release | publish => rfl

theorem Step.cancelled_of_obeys (h : Step s st a st') (hobeys : Obeys answers st a) :
    st'.cancelled = st.cancelled := by
  cases h with
  | cancel => exact hobeys.elim
  | _ => rfl

/-- A served run leads each job to the result that could be foreseen. -/
theorem Served.untimed_foresee (h : Served answers s st actions last)
    (hafter : State.after s before = some st) (huncancelled : st.cancelled = false)
    (hanswer : ∀ step ∈ i.template.steps, ∀ path,
      answers (i.request s.pipeline path step) = answer step)
    (hjob : st.jobs[k]? = some ⟨i, phase⟩) :
    ∃ phase', last.jobs[k]? = some ⟨i, phase'⟩ ∧
      (foresee i answer phase').untimed = (foresee i answer phase).untimed := by
  -- The actions before are kept along, since they account for the phase of the job.
  induction h generalizing before phase with
  | nil => exact ⟨phase, hjob, rfl⟩
  | @cons st st' last a actions hobeys happly _ ih =>
    have hstep := Step.of_apply (State.inOrder_of_after hafter) happly
    have hnext : State.after s (before ++ [a]) = some st' := by
      rw [State.after_concat, hafter, Option.bind_some, happly]
    obtain ⟨phase', hjob', hmoved⟩ := hstep.job_on hjob
    obtain ⟨phase'', hlast, hrest⟩ :=
      ih hnext ((hstep.cancelled_of_obeys hobeys).trans huncancelled) hjob'
    refine ⟨phase'', hlast, hrest.trans ?_⟩
    rcases hmoved with ⟨rfl, -⟩ | ⟨events, calls, hmove⟩
    · rfl
    · exact hmove.untimed_foresee hjob huncancelled (State.asking_of_after hafter)
        (State.accounts_of_after hafter hjob) hanswer hobeys

namespace Course

/-- The whole run is served by a fixed runner. -/
def ServedBy (c : Course) (answers : Request → Option Reply) : Prop :=
  Served answers c.setup (State.start c.setup) c.actions c.last

variable {c c' : Course}

theorem ServedBy.of_actions (h : Served answers c.setup (State.start c.setup) c.actions last) :
    c.ServedBy answers := by
  obtain rfl : last = c.last := Option.some.inj (h.run_eq.symm.trans c.reached)
  exact h

/-- The entry of an instance is that of the job alone. -/
theorem entry_alone (hignores : IgnoresWorkspaces c.setup.pipeline answers)
    (hserved : c.ServedBy answers) (hi : c.instances[k]? = some i) :
    ∃ entry, c.result.jobs[k]? = some entry ∧ entry.untimed =
      (i.alone fun step => answers (i.request c.setup.pipeline "" step)).untimed := by
  obtain ⟨phase, hjob, hdone, -, hentry⟩ := c.exists_job hi
  have hstart : (State.start c.setup).jobs[k]? = some ⟨i, .waiting⟩ := by
    have hinstance : c.setup.pipeline.instances[k]? = some i := hi
    simp [State.start, hinstance]
  have hanswer : ∀ step ∈ i.template.steps, ∀ path,
      answers (i.request c.setup.pipeline path step) =
        answers (i.request c.setup.pipeline "" step) :=
    fun step hstep path => hignores i (List.mem_of_getElem? hi) step hstep path ""
  have hafter : State.after c.setup [] = some (State.start c.setup) := rfl
  obtain ⟨phase', hlast, hforesee⟩ := Served.untimed_foresee hserved hafter rfl hanswer hstart
  rw [hjob] at hlast
  cases hlast
  rw [foresee_of_done hdone] at hforesee
  exact ⟨_, hentry, hforesee⟩

/-- Without times, the entries of a served run are those of the jobs alone. -/
theorem jobs_alone (hignores : IgnoresWorkspaces c.setup.pipeline answers)
    (hserved : c.ServedBy answers) :
    c.result.jobs.map JobResult.untimed = c.instances.map fun i =>
      (i.alone fun step => answers (i.request c.setup.pipeline "" step)).untimed := by
  refine List.ext_getElem? fun k => ?_
  rw [List.getElem?_map, List.getElem?_map]
  cases hi : c.instances[k]? with
  | none =>
    have hjob : c.result.jobs[k]? = none := by
      rw [List.getElem?_eq_none_iff, c.result_jobs_length]
      exact List.getElem?_eq_none_iff.1 hi
    rw [hjob]
    rfl
  | some i =>
    obtain ⟨entry, hentry, halone⟩ := entry_alone hignores hserved hi
    rw [hentry, Option.map_some, halone]
    rfl

/-- Two runs of a pipeline that are served by the same runner have the same results up to times,
whatever their strategies and the order of their actions. An entry is that of the job alone, and no
job keeps another from its end: what is left of such a run can always be served. -/
theorem schedule_irrelevant (hpipeline : c'.setup.pipeline = c.setup.pipeline)
    (hignores : IgnoresWorkspaces c.setup.pipeline answers) (hserved : c.ServedBy answers)
    (hserved' : c'.ServedBy answers) :
    c.result.jobs.map JobResult.untimed = c'.result.jobs.map JobResult.untimed ∧
      (∀ (k : Nat) (i : Instance), c.instances[k]? = some i → ∃ entry : JobResult,
        c.result.jobs[k]? = some entry ∧
        (i.willRun = false → entry = i.skipped .conditionFalse) ∧ entry.untimed =
          (i.alone fun step => answers (i.request c.setup.pipeline "" step)).untimed) ∧
      ∀ before st, Served answers c.setup (State.start c.setup) before st → st.completed = none →
        ∃ whole : Course, whole.setup = c.setup ∧ whole.strategy = c.strategy ∧
          before <+: whole.actions ∧ whole.ServedBy answers := by
  refine ⟨?_, fun k i hi => ?_, fun before st hbefore huncompleted => ?_⟩
  · have hinstances : c'.instances = c.instances := congrArg Pipeline.instances hpipeline
    rw [jobs_alone hignores hserved, jobs_alone (hpipeline ▸ hignores) hserved', hinstances,
      hpipeline]
  · obtain ⟨entry, hentry, halone⟩ := entry_alone hignores hserved hi
    refine ⟨entry, hentry, fun hrun => ?_, halone⟩
    rw [c.entry_of_not_willRun hi hrun] at hentry
    exact (Option.some.inj hentry).symm
  · have hafter : State.after c.setup before = some st := hbefore.run_eq
    obtain ⟨whole, rest, hsetup, hstrategy, hactions, hrest⟩ :=
      exists_course answers c.loaded c.slots hafter huncompleted
    refine ⟨whole, hsetup, hstrategy, hactions ▸ List.prefix_append _ _, ?_⟩
    rw [ServedBy, hsetup, hactions]
    exact hbefore.append hrest

end Course

end JobMatrix.Run

/-! ## Two schedules -/

namespace JobMatrix.Small

open Run

/-- A runner under which the job on one of the systems aborts. -/
def answers (request : Request) : Option Reply :=
  if request.env.get? "MATRIX_OS" = some "bsd" then none
  else some (.ok ⟨.exited (some 0), "", "", ⟨1⟩⟩)

theorem answers_ignoresWorkspaces : IgnoresWorkspaces pipeline answers := by
  refine .of_apartFromPath pipeline fun r r' h => ?_
  have henv := congrFun (congrArg (·.2.2.2) h) "MATRIX_OS"
  simp only [Request.apartFromPath, if_neg (by decide : ¬ ("MATRIX_OS" = "PIPELINE_JOB_DIR" ∨
    "MATRIX_OS" = "TMPDIR"))] at henv
  rw [answers, answers, henv]

/-- The second job begins after the first has aborted. -/
def inTurn : Course :=
  course 1 .sequential
    [.dispatch, .begin 0 (.ok "/tmp/0"), .decide 0, .abort 0, .collect, .collect,
      .dispatch, .begin 1 (.ok "/tmp/1"), .decide 1,
      .answer 1 (.ok ⟨.exited (some 0), "", "", ⟨1⟩⟩), .decide 1, .release 1, .publish 1,
      .collect, .collect, .collect, .collect] slots?_sequential rfl rfl

/-- The second job has ended before the command of the first is asked for. -/
def atOnce : Course :=
  course 2 (.limited 2)
    [.dispatch, .dispatch, .begin 1 (.ok "/tmp/0"), .decide 1, .begin 0 (.ok "/tmp/1"),
      .pass ⟨8⟩, .answer 1 (.ok ⟨.exited (some 0), "", "", ⟨8⟩⟩), .decide 1, .release 1,
      .decide 0, .abort 0, .publish 1,
      .collect, .collect, .collect, .collect, .collect, .collect] rfl rfl rfl

theorem inTurn_servedBy : inTurn.ServedBy answers :=
  .of_actions <| .cons trivial rfl <| .cons ⟨_, rfl⟩ rfl <| .cons trivial rfl <|
    .cons ⟨_, rfl, by decide⟩ rfl <| .cons trivial rfl <| .cons trivial rfl <|
    .cons trivial rfl <| .cons ⟨_, rfl⟩ rfl <| .cons trivial rfl <|
    .cons ⟨_, _, rfl, by decide, rfl⟩ rfl <| .cons trivial rfl <| .cons trivial rfl <|
    .cons trivial rfl <| .cons trivial rfl <| .cons trivial rfl <| .cons trivial rfl <|
    .cons trivial rfl .nil

theorem atOnce_servedBy : atOnce.ServedBy answers :=
  .of_actions <| .cons trivial rfl <| .cons trivial rfl <| .cons ⟨_, rfl⟩ rfl <| .cons trivial rfl <|
    .cons ⟨_, rfl⟩ rfl <| .cons trivial rfl <|
    .cons ⟨_, .ok ⟨.exited (some 0), "", "", ⟨1⟩⟩, rfl, by decide, rfl⟩ rfl <|
    .cons trivial rfl <| .cons trivial rfl <| .cons trivial rfl <|
    .cons ⟨_, rfl, by decide⟩ rfl <| .cons trivial rfl <| .cons trivial rfl <|
    .cons trivial rfl <| .cons trivial rfl <| .cons trivial rfl <| .cons trivial rfl <|
    .cons trivial rfl .nil

theorem schedule_irrelevant_atOnce :
    inTurn.result.jobs.map JobResult.untimed = atOnce.result.jobs.map JobResult.untimed := by
  -- Each pipeline is looked up by itself, since comparing the runs would carry them out.
  have hinTurn : inTurn.setup.pipeline = pipeline := rfl
  have hatOnce : atOnce.setup.pipeline = pipeline := rfl
  have hignores : IgnoresWorkspaces inTurn.setup.pipeline answers := answers_ignoresWorkspaces
  exact (Course.schedule_irrelevant (hatOnce.trans hinTurn.symm) hignores inTurn_servedBy
    atOnce_servedBy).1

end JobMatrix.Small
