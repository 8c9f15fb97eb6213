import JobMatrix.Proofs.Run.Account

/-!
# The events of a job

The events of all jobs go through one channel and lie mixed in the log. Instances have
distinct identities, so the events of one job can be told from those of the others, and
what they are depends only on its phase: a begin, the events of its records, an end.
-/

namespace JobMatrix

/-- The identity of the job that an event is about. -/
def Event.id? : Event → Option String
  | .pipelineStarted .. | .pipelineCompleted .. => none
  | .jobStarted id | .stepStarted id .. | .stepFinished id _ => some id
  | .jobSkipped result | .jobFinished result => some result.id

namespace Run

/-- The events about the job with an identity, in order. -/
def eventsOf (id : String) (events : List Event) : List Event :=
  events.filter (·.id? == some id)

/-- The results published for an identity, in order. -/
def resultsOf (id : String) (events : List Event) : List JobResult :=
  (events.filterMap Event.result?).filter (·.id == id)

/-- The events of a run so far, whether they have reached the log or not. -/
def State.events (st : State) : List Event :=
  st.log ++ st.channel

variable {s : Setup} {st st' : State} {a : Action} {actions : List Action} {k : Nat}
  {i : Instance} {phase phase' : Phase} {events : List Event} {calls : List Call} {id : String}

@[simp] theorem eventsOf_append (first rest : List Event) :
    eventsOf id (first ++ rest) = eventsOf id first ++ eventsOf id rest :=
  List.filter_append ..

theorem eventsOf_eq_nil (h : ∀ event ∈ events, event.id? ≠ some id) : eventsOf id events = [] := by
  simpa [eventsOf] using h

theorem eventsOf_eq_self (h : ∀ event ∈ events, event.id? = some id) :
    eventsOf id events = events := by
  simpa [eventsOf] using h

theorem resultsOf_eq (id : String) (events : List Event) :
    resultsOf id events = (eventsOf id events).filterMap Event.result? := by
  rw [resultsOf, eventsOf, List.filter_filterMap, List.filterMap_filter]
  congr
  funext event
  cases event <;> simp [Event.result?, Event.id?, Option.filter]

/-! ## The events of a move -/

/-- The result of a job that ended is about its instance. -/
theorem Ended.names {result : JobResult} (h : Ended actions k i result) :
    result.id = i.id ∧ result.job = i.template.name ∧ result.binding = i.binding := by
  cases h <;> exact ⟨rfl, rfl, rfl⟩

/-- A job that ran is not recorded as skipped. -/
theorem Ended.not_skipped {result : JobResult} (h : Ended actions k i result) :
    result.status ≠ .skipped := by
  cases h with
  | @worked _ _ failure _ _ _ _ _ => cases failure <;> simp [Instance.finished]
  | barred _ _ => simp [Instance.finished]

/-- A job sends events about itself only. -/
theorem Move.id?_eq (h : Move s st k i phase a phase' events calls)
    (haccounts : Accounts actions k i phase) : ∀ event ∈ events, event.id? = some i.id := by
  cases h with
  | publish =>
    obtain ⟨-, -, hended⟩ := haccounts
    simpa [Event.id?] using hended.names.1
  | _ => simp [Event.id?, Instance.skipped]

/-- Jobs at different positions have different identities. -/
theorem id_ne_of_nodup {instances : List Instance} (hids : (instances.map Instance.id).Nodup)
    {j : Nat} {i' : Instance} (hi : instances[k]? = some i) (hi' : instances[j]? = some i')
    (hne : j ≠ k) : i'.id ≠ i.id := by
  intro hid
  have hlt : j < (instances.map Instance.id).length := by
    simpa using (List.getElem?_eq_some_iff.1 hi').1
  exact hne ((List.getElem?_inj hlt hids).1 (by simp [hi, hi', hid]))

/-- A step adds to the events about a job exactly those that the job sends. -/
theorem Step.stream_back (h : Step s st a st') (hids : (s.pipeline.instances.map Instance.id).Nodup)
    (hafter : State.after s actions = some st) {job : Job} (hjob : st'.jobs[k]? = some job) :
    ∃ phase, st.jobs[k]? = some ⟨job.inst, phase⟩ ∧
      (phase = job.phase ∧ a.job? ≠ some k ∧
          eventsOf job.inst.id st'.events = eventsOf job.inst.id st.events ∨
        ∃ events calls, Move s st k job.inst phase a job.phase events calls ∧
          eventsOf job.inst.id st'.events = eventsOf job.inst.id st.events ++ events) := by
  cases h with
  | @move j other _ phase events calls _ _ hother hmove hfront _ =>
    have hsent := hmove.id?_eq (State.accounts_of_after hafter hother)
    simp only [State.events, ← List.append_assoc, eventsOf_append]
    rcases job_of_set hjob with ⟨rfl, rfl⟩ | ⟨hk, hsame⟩
    · exact ⟨other.phase, hother, .inr ⟨events, calls, hmove, by rw [eventsOf_eq_self hsent]⟩⟩
    · -- The events of another job carry its identity, and so are none of this one's.
      have hne := id_ne_of_nodup hids (State.instance_of_after hafter hsame)
        (State.instance_of_after hafter hother) hk
      have hnone : eventsOf job.inst.id events = [] :=
        eventsOf_eq_nil fun event hevent => by simp [hsent event hevent, hne]
      refine ⟨job.phase, hsame, .inl ⟨rfl, ?_, by rw [hnone, List.append_nil]⟩⟩
      rcases hfront with ⟨rfl, -⟩ | ⟨hnamed, -⟩
      · simp [Action.job?]
      · simpa [hnamed] using hk
  | collect hchannel =>
    -- An event that goes from the channel to the log stays at its place among all events.
    exact ⟨job.phase, hjob, .inl ⟨rfl, by simp [Action.job?], by simp [State.events, hchannel]⟩⟩
  | cancel => exact ⟨job.phase, hjob, .inl ⟨rfl, by simp [Action.job?], rfl⟩⟩
  | pass d => exact ⟨job.phase, hjob, .inl ⟨rfl, by simp [Action.job?], rfl⟩⟩
  | complete _ hchannel _ =>
    refine ⟨job.phase, hjob, .inl ⟨rfl, by simp [Action.job?], ?_⟩⟩
    simp [State.events, hchannel, eventsOf, Event.id?]

/-- What holds of a job and the events about it while it waits, and is kept by the actions of
others and by its own moves, holds in every state of a run. -/
theorem State.stream_induction {P : List Action → Nat → Instance → Phase → List Event → Prop}
    (hids : (s.pipeline.instances.map Instance.id).Nodup)
    (hwaiting : ∀ {k i}, P [] k i .waiting [])
    (hstay : ∀ {actions a k i phase stream}, a.job? ≠ some k → P actions k i phase stream →
      P (actions ++ [a]) k i phase stream)
    (hmove : ∀ {actions st a k i phase phase' events calls stream},
      Accounts actions k i phase → Move s st k i phase a phase' events calls →
      P actions k i phase stream → P (actions ++ [a]) k i phase' (stream ++ events))
    (h : State.after s actions = some st) {job : Job} (hjob : st.jobs[k]? = some job) :
    P actions k job.inst job.phase (eventsOf job.inst.id st.events) := by
  refine State.after_induction
    (P := fun actions st => ∀ k job, st.jobs[k]? = some job →
      P actions k job.inst job.phase (eventsOf job.inst.id st.events)) ?_ ?_ h k job hjob
  · intro k job hjob
    simp only [State.start, List.getElem?_map, Option.map_eq_some_iff] at hjob
    obtain ⟨i, -, rfl⟩ := hjob
    exact hwaiting
  · intro actions st a st' hafter ih hstep k job hjob
    obtain ⟨phase, hbefore, ⟨rfl, hother, hstream⟩ | ⟨events, calls, hown, hstream⟩⟩ :=
      hstep.stream_back hids hafter hjob
    · rw [hstream]
      exact hstay hother (ih k _ hbefore)
    · have haccounts := State.accounts_of_after hafter hbefore
      have hprev := ih k _ hbefore
      rw [hstream]
      exact hmove haccounts hown hprev

/-! ## The stream of a phase -/

/-- The events of a record: the step starts unless it is skipped, and it ends. -/
def recordEvents (id : String) (record : StepRecord) : List Event :=
  if record.status = .skipped then [.stepFinished id record]
  else [.stepStarted id record.index record.label, .stepFinished id record]

/-- The events of a job that began and left some records. -/
def startedEvents (id : String) (records : List StepRecord) : List Event :=
  .jobStarted id :: records.flatMap (recordEvents id)

/-- The events about the job `i` in a phase. -/
inductive Streams (i : Instance) : Phase → List Event → Prop
  | waiting : Streams i .waiting []
  | skipped {result} : Streams i (.skipped result) [.jobSkipped result]
  | spawned : Streams i .spawned []
  | ready {t path records todo} :
      Streams i (.working t path (.ready records todo)) (startedEvents i.id records)
  | running {t path records step todo} :
      Streams i (.working t path (.running records step todo))
        (startedEvents i.id records ++ [.stepStarted i.id records.length step.label])
  | settled {result} : Streams i (.settled result) (startedEvents i.id result.records)
  | released {result} : Streams i (.released result) (startedEvents i.id result.records)
  | published {result} :
      Streams i (.published result) (startedEvents i.id result.records ++ [.jobFinished result])
  | aborted {records : List StepRecord} {step : JobMatrix.Step} :
      Streams i .aborted
        (startedEvents i.id records ++ [.stepStarted i.id records.length step.label])

theorem startedEvents_concat (id : String) (records : List StepRecord) (record : StepRecord) :
    startedEvents id (records ++ [record]) = startedEvents id records ++ recordEvents id record := by
  simp [startedEvents]

/-- The events of a step that a job asked a command for. -/
theorem recordEvents_judge {n : Nat} {step : JobMatrix.Step} {reply : Reply} {record : StepRecord}
    {failure : Option JobFailure} (h : i.judge n step reply = (record, failure)) :
    recordEvents id record = [.stepStarted id n step.label, .stepFinished id record] := by
  have hne : record.status ≠ .skipped := Instance.judge_ne_skipped h
  obtain ⟨hindex, hlabel, -⟩ := Instance.judge_isOf h
  simp [recordEvents, hne, hindex, hlabel]

theorem recordEvents_skipped (id : String) (n : Nat) (label command : String) :
    recordEvents id (.skipped n label command) =
      [.stepFinished id (.skipped n label command)] := rfl

/-- A move sends what the stream of its job lacks for the next phase. -/
theorem Streams.move {stream : List Event} (hmove : Move s st k i phase a phase' events calls)
    (h : Streams i phase stream) : Streams i phase' (stream ++ events) := by
  cases hmove with
  | skip _ | drop _ _ => cases h; exact .skipped
  | spawn _ _ => cases h; exact .spawned
  | enter path => cases h; exact @Streams.ready i _ _ [] _
  | bar cause => cases h; exact .settled
  | finish | stop _ => cases h; rw [List.append_nil]; exact .settled
  | pass _ _ =>
    cases h
    rw [← recordEvents_skipped, ← startedEvents_concat]
    exact .ready
  | ask _ _ => cases h; exact .running
  | goOn hjudge =>
    cases h
    rw [List.append_assoc, List.singleton_append, ← recordEvents_judge hjudge,
      ← startedEvents_concat]
    exact .ready
  | giveUp hjudge =>
    cases h
    rw [List.append_assoc, List.singleton_append, ← recordEvents_judge hjudge,
      ← startedEvents_concat]
    exact .settled
  | abort => cases h; rw [List.append_nil]; exact .aborted
  | release => cases h; rw [List.append_nil]; exact .released
  | publish => cases h; exact .published

/-- In every state of a run the events about a job are those of its phase. -/
theorem State.streams_of_after (hids : (s.pipeline.instances.map Instance.id).Nodup)
    (h : State.after s actions = some st) {job : Job} (hjob : st.jobs[k]? = some job) :
    Streams job.inst job.phase (eventsOf job.inst.id st.events) := by
  refine State.stream_induction (P := fun _ _ i phase stream => Streams i phase stream)
    hids ?_ ?_ ?_ h hjob
  · intro k i
    exact .waiting
  · intro actions a k i phase stream _ hbefore
    exact hbefore
  · intro actions st a k i phase phase' events calls stream _ hmove hbefore
    exact hbefore.move hmove

end Run

end JobMatrix
