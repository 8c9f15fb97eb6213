import JobMatrix.Proofs.Run.Course

/-!
# Logs

The log of a run tells all of its result and nothing else. It opens with the number of jobs and
closes with the verdict, and in between each event is about one of the jobs. The events of a job
that ended are fixed by its entry in the result: its begin, its records, its end. Those of a job
whose task aborted break off at the command that was running.
-/

namespace JobMatrix.Run

variable {s : Setup} {st st' : State} {a : Action} {actions : List Action} {k : Nat}
  {i : Instance} {phase phase' : Phase} {events stream : List Event} {calls : List Call}
  {id : String}

/-! ## The whole log -/

/-- The log of a run that goes on: it opens with the start of the run, and all else in it or on its
way to it is about an instance. -/
def State.Opened (s : Setup) (st : State) : Prop :=
  ∃ told, st.log = .pipelineStarted s.runId s.pipeline.name s.pipeline.instances.length :: told ∧
    ∀ event ∈ told ++ st.channel, ∃ i ∈ s.pipeline.instances, event.id? = some i.id

theorem Step.opened (h : Step s st a st') (hafter : State.after s actions = some st)
    (hst : st.completed = none → st.Opened s) (hgoing : st'.completed = none) : st'.Opened s := by
  cases h with
  | @move k job a phase events calls dispatched free hjob hmove _ _ =>
    obtain ⟨told, hlog, habout⟩ := hst hgoing
    refine ⟨told, hlog, ?_⟩
    intro event hevent
    rw [← List.append_assoc] at hevent
    rcases List.mem_append.1 hevent with hold | hnew
    · exact habout event hold
    · have hi := State.instance_of_after hafter hjob
      have hown := hmove.id?_eq (State.accounts_of_after hafter hjob) event hnew
      exact ⟨job.inst, List.mem_of_getElem? hi, hown⟩
  | @collect event rest hchannel =>
    -- The event has left the channel for the log, so that the same events are told or on their way.
    obtain ⟨told, hlog, habout⟩ := hst hgoing
    refine ⟨told ++ [event], by simp [hlog], ?_⟩
    rwa [hchannel, List.append_cons] at habout
  | cancel | pass d => exact hst hgoing
  | complete _ _ _ => cases hgoing

theorem State.opened_of_after (h : State.after s actions = some st) (hgoing : st.completed = none) :
    st.Opened s := by
  refine State.after_induction (P := fun _ st => st.completed = none → st.Opened s) ?_ ?_ h hgoing
  · intro _
    exact ⟨[], rfl, by simp [State.start]⟩
  · intro actions st a st' hafter ih hstep hgoing
    exact hstep.opened hafter ih hgoing

/-! ## The events of one job -/

/-- The events of a job that reached its result. -/
def jobEvents (id : String) (result : JobResult) : List Event :=
  startedEvents id result.records ++ [.jobFinished result]

/-- The events of the job `i` whose task aborted after some replies: those of the steps before, and
the begin of the step whose command was running. -/
def BrokenOff (i : Instance) (replies : List Reply) (stream : List Event) : Prop :=
  ∃ done step todo records, i.template.steps = done ++ step :: todo ∧
    i.Took done records replies ∧ Condition.allows step.condition i.binding = true ∧
    stream = startedEvents i.id records ++ [.stepStarted i.id records.length step.label]

/-- A task that aborts breaks off the events of its job. -/
theorem BrokenOff.move (hmove : Move s st k i phase a .aborted events calls)
    (haccounts : Accounts actions k i phase) (h : Streams i phase stream) :
    BrokenOff i (replies k (actions ++ [a])) (stream ++ events) := by
  cases hmove with
  | abort =>
    obtain ⟨-, -, -, done, hsteps, htook, hcond⟩ := haccounts
    cases h with
    | running => exact ⟨done, _, _, _, hsteps, by simpa [Action.reply?] using htook, hcond, by simp⟩

theorem State.brokenOff_of_after (hids : (s.pipeline.instances.map Instance.id).Nodup)
    (h : State.after s actions = some st) (hjob : st.jobs[k]? = some ⟨i, .aborted⟩) :
    BrokenOff i (replies k actions) (eventsOf i.id st.events) := by
  have hboth := State.stream_induction
    (P := fun actions k i phase stream => Streams i phase stream ∧
      (phase = .aborted → BrokenOff i (replies k actions) stream)) hids ?_ ?_ ?_ h hjob
  · exact hboth.2 rfl
  · intro k i
    exact ⟨.waiting, nofun⟩
  · intro actions a k i phase stream hother hbefore
    rwa [replies_concat, Action.reply?_eq_none hother, Option.toList_none, List.append_nil]
  · intro actions st a k i phase phase' events calls stream haccounts hmove hbefore
    refine ⟨hbefore.1.move hmove, ?_⟩
    rintro rfl
    exact BrokenOff.move hmove haccounts hbefore.1

/-- Events that break off are those that a failing command would have gone on from. -/
theorem BrokenOff.prefix_jobEvents {replies : List Reply} (h : BrokenOff i replies stream) :
    ∃ result reply, i.Ends result.records (replies ++ [reply]) result.failure ∧
      result.id = i.id ∧ stream <+: jobEvents i.id result ∧
      stream.length < (jobEvents i.id result).length := by
  obtain ⟨done, step, todo, records, hsteps, htook, hcond, rfl⟩ := h
  obtain ⟨record, failure, hjudge⟩ : ∃ record failure,
      i.judge records.length step (.error .noShell) = (record, some failure) := ⟨_, _, rfl⟩
  refine ⟨i.finished (records ++ [record]) (some failure) default default .zero, .error .noShell,
    .failed hsteps htook hcond hjudge, rfl, ?_, ?_⟩
  · simp [jobEvents, Instance.finished, startedEvents_concat, recordEvents_judge hjudge]
  · simp [jobEvents, Instance.finished, startedEvents_concat, recordEvents_judge hjudge]

/-- Events that break off begin with the begin of the job and have no result. -/
theorem BrokenOff.unfinished {replies : List Reply} (h : BrokenOff i replies stream) :
    stream.head? = some (.jobStarted i.id) ∧ stream.filterMap Event.result? = [] := by
  obtain ⟨done, step, todo, records, -, -, -, rfl⟩ := h
  refine ⟨rfl, ?_⟩
  rw [List.filterMap_append, startedEvents_results]
  rfl

/-- What the events of the job `i` at position `k` are, given its entry in the result of a run. -/
inductive Told (actions : List Action) (k : Nat) (i : Instance) (entry : JobResult) :
    List Event → Prop
  | skipped (hstatus : entry.status = .skipped) (hnone : .abort k ∉ actions) :
      Told actions k i entry [.jobSkipped entry]
  | finished (hstatus : entry.status ≠ .skipped) (hnone : .abort k ∉ actions) :
      Told actions k i entry (jobEvents i.id entry)
  /-- Proper beginnings of the events of a result that the job could have come to. -/
  | aborted {stream : List Event} {result : JobResult} {reply : Reply}
      (haborted : .abort k ∈ actions) (hid : result.id = i.id)
      (hstart : stream.head? = some (.jobStarted i.id))
      (hopen : stream.filterMap Event.result? = [])
      (hends : i.Ends result.records (replies k actions ++ [reply]) result.failure)
      (hbegins : stream <+: jobEvents i.id result)
      (hproper : stream.length < (jobEvents i.id result).length) :
      Told actions k i entry stream

namespace Course

/-- What a handler has seen once a run has ended. -/
def seen (c : Course) : List Event :=
  ((c.last.complete c.setup).get c.ended).log

theorem seen_eq (c : Course) :
    c.seen = c.last.log ++ [.pipelineCompleted c.setup.runId c.result.overall] := by
  obtain ⟨st, hst⟩ := Option.isSome_iff_exists.1 c.ended
  obtain ⟨-, -, -, rfl⟩ := State.complete_eq_some hst
  simp only [seen, hst, Option.get_some]
  rfl

theorem last_uncompleted (c : Course) : c.last.completed = none := by
  obtain ⟨st, hst⟩ := Option.isSome_iff_exists.1 c.ended
  exact (State.complete_eq_some hst).2.2.1

/-- The closing event is about no job. -/
theorem eventsOf_seen (c : Course) (id : String) :
    eventsOf id c.seen = eventsOf id c.last.events := by
  rw [seen_eq, State.events, c.all_done.2, List.append_nil]
  simp [eventsOf, Event.id?]

/-- The log of a run opens with the number of its jobs, closes with its verdict, and is about its
jobs in between; and of each job it tells what the entry of the job in the result says. -/
theorem log_faithful (c : Course) :
    (∃ told, c.seen =
        .pipelineStarted c.setup.runId c.setup.pipeline.name c.instances.length ::
          (told ++ [.pipelineCompleted c.setup.runId c.result.overall]) ∧
      ∀ event ∈ told, ∃ i ∈ c.instances, event.id? = some i.id) ∧
      ∀ k i, c.instances[k]? = some i → ∃ entry, c.result.jobs[k]? = some entry ∧
        Told c.actions k i entry (eventsOf i.id c.seen) := by
  refine ⟨?_, fun k i hi => ?_⟩
  · obtain ⟨told, hlog, habout⟩ := State.opened_of_after c.reached c.last_uncompleted
    rw [c.all_done.2, List.append_nil] at habout
    exact ⟨told, by rw [seen_eq, hlog]; rfl, habout⟩
  · obtain ⟨phase, hjob, hdone, haccounts, hentry⟩ := c.exists_job hi
    have hstream := State.streams_of_after c.nodup_ids c.reached hjob
    refine ⟨_, hentry, ?_⟩
    rw [c.eventsOf_seen]
    cases phase with
    | skipped result =>
      obtain ⟨huntouched, hreason⟩ := haccounts
      have hstatus : result.status = .skipped := by
        rcases hreason with ⟨-, rfl⟩ | ⟨-, -, rfl⟩
        · rfl
        · rfl
      generalize eventsOf i.id c.last.events = stream at hstream
      cases hstream
      exact .skipped hstatus huntouched.abort
    | published result =>
      obtain ⟨-, hnone, hended⟩ := haccounts
      generalize eventsOf i.id c.last.events = stream at hstream
      cases hstream
      exact .finished hended.not_skipped hnone
    | aborted =>
      have hbroken := State.brokenOff_of_after c.nodup_ids c.reached hjob
      obtain ⟨hstart, hopen⟩ := hbroken.unfinished
      obtain ⟨result, reply, hends, hid, hbegins, hproper⟩ := hbroken.prefix_jobEvents
      exact .aborted haccounts.2.1 hid hstart hopen hends hbegins hproper
    | waiting | spawned | working _ _ _ | settled _ | released _ => cases hdone

end Course

end JobMatrix.Run
