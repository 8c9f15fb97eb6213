import JobMatrix.Job.Progress
import JobMatrix.Run.Event
import JobMatrix.Run.Strategy

/-!
# The state of a run

A run starts its jobs in the order of the plan. A job whose condition holds takes a slot
when it is dispatched and gives it back when it has its result or its task aborts. Progress
goes as events through a channel to the log; the results in it fill the entries of the run.

The runner of the commands, the clock and the one who may cancel are outside of the state:
they show as actions. An action that is not possible in a state has no result, and every
run is a sequence of possible actions from the start.
-/

namespace JobMatrix

/-- Where a job of a run stands. -/
inductive Phase
  /-- Not dispatched yet. -/
  | waiting
  | skipped (result : JobResult)
  /-- Dispatched, but its task has not begun. -/
  | spawned
  | working (startedAt : Duration) (workspace : String) (progress : Progress)
  /-- Ended, but with the slot still taken. -/
  | settled (result : JobResult)
  /-- Ended, and the slot given back. -/
  | released (result : JobResult)
  | published (result : JobResult)
  /-- Ended without a result. -/
  | aborted
deriving DecidableEq, Inhabited

namespace Phase

/-- Whether a job has a slot. -/
def holdsSlot : Phase → Bool
  | .spawned | .working .. | .settled _ => true
  | _ => false

/-- Whether a job is over for the run. -/
def isDone : Phase → Bool
  | .skipped _ | .published _ | .aborted => true
  | _ => false

end Phase

/-- A job of a run. -/
structure Job where
  inst : Instance
  phase : Phase
deriving DecidableEq, Inhabited

/-- A request as made: when, by the job at which position, for its step at which position. -/
structure Call where
  time : Duration
  job : Nat
  step : Nat
  request : Request
deriving DecidableEq, Inhabited

/-- What does not change during a run. -/
structure Setup where
  runId : RunId
  startedAt : Timestamp
  pipeline : Pipeline
  /-- The number of slots. -/
  slots : Nat
deriving DecidableEq, Inhabited

namespace Run

/-- The state of a run. -/
structure State where
  /-- One job for each instance of the plan, in its order. -/
  jobs : List Job
  /-- The number of jobs that are no longer waiting; they are the first ones. -/
  dispatched : Nat
  /-- The number of slots that no job has. -/
  free : Nat
  cancelled : Bool
  /-- The time since the start. -/
  clock : Duration
  /-- The events that have not reached the log. -/
  channel : List Event
  log : List Event
  /-- The results that have reached the log, by the position of their jobs. -/
  entries : List (Option JobResult)
  /-- The requests made so far. -/
  calls : List Call
  completed : Option RunResult
deriving DecidableEq, Inhabited

/-- Something that can happen in a run. Jobs are named by their positions. -/
inductive Action
  /-- The next waiting job is skipped or gets a slot. -/
  | dispatch
  /-- A dispatched job begins, with the path of its workspace or why it has none. -/
  | begin (job : Nat) (workspace : Except String String)
  /-- A job looks at its next step. -/
  | decide (job : Nat)
  /-- A job gets the answer to its command. -/
  | answer (job : Nat) (reply : Reply)
  /-- The task of a job aborts while its command runs. -/
  | abort (job : Nat)
  /-- A job that ended gives its slot back. -/
  | release (job : Nat)
  /-- A job that ended sends its result. -/
  | publish (job : Nat)
  /-- An event goes from the channel to the log. -/
  | collect
  | cancel
  /-- Time passes. -/
  | pass (d : Duration)
  /-- The run ends. -/
  | complete
deriving Inhabited

namespace State

/-- The state at the start. -/
def start (s : Setup) : State where
  jobs := s.pipeline.instances.map (⟨·, .waiting⟩)
  dispatched := 0
  free := s.slots
  cancelled := false
  clock := .zero
  channel := []
  log := [.pipelineStarted s.runId s.pipeline.name s.pipeline.instances.length]
  entries := s.pipeline.instances.map fun _ => none
  calls := []
  completed := none

/-- Puts a job into a phase. -/
def setPhase (st : State) (k : Nat) (job : Job) (phase : Phase) : State :=
  { st with jobs := st.jobs.set k { job with phase } }

/-- Sends an event. -/
def send (st : State) (event : Event) : State :=
  { st with channel := st.channel ++ [event] }

/-- The point in time that the clock shows. -/
def now (s : Setup) (st : State) : Timestamp :=
  s.startedAt.add st.clock

/-- The result of a job that ends now. -/
def resultOf (s : Setup) (st : State) (i : Instance) (startedAt : Duration)
    (records : List StepRecord) (failure : Option JobFailure) : JobResult :=
  i.finished records failure (s.startedAt.add startedAt) (st.now s) (st.clock.sub startedAt)

/-- Keeps the progress of a job, or settles its result if it is over. -/
def proceed (s : Setup) (st : State) (k : Nat) (job : Job) (startedAt : Duration)
    (workspace : String) : Progress → State
  | .over records failure =>
    st.setPhase k job (.settled (st.resultOf s job.inst startedAt records failure))
  | progress => st.setPhase k job (.working startedAt workspace progress)

/-! ## Dispatch -/

/-- Sends the result of a job that is not started. -/
def skip (st : State) (k : Nat) (job : Job) (reason : SkipReason) : State :=
  let result := job.inst.skipped reason
  { (st.setPhase k job (.skipped result)).send (.jobSkipped result) with
    dispatched := st.dispatched + 1 }

/-- The condition of a job is looked at before cancellation, and a slot is asked for last. -/
def dispatch (st : State) : Option State := do
  let job ← st.jobs[st.dispatched]?
  if !job.inst.willRun then
    return st.skip st.dispatched job .conditionFalse
  else if st.cancelled then
    return st.skip st.dispatched job .cancelled
  else if st.free = 0 then
    none
  else
    return { st.setPhase st.dispatched job .spawned with
      dispatched := st.dispatched + 1, free := st.free - 1 }

/-! ## Jobs -/

/-- A dispatched job begins. -/
def begin (s : Setup) (st : State) (k : Nat) (workspace : Except String String) :
    Option State := do
  let job ← st.jobs[k]?
  match job.phase, workspace with
  | .spawned, .ok path =>
    return (st.send (.jobStarted job.inst.id)).setPhase k job (.working st.clock path job.inst.begin)
  | .spawned, .error cause =>
    let result := st.resultOf s job.inst st.clock [] (some (Instance.workspaceFailure cause))
    return (st.send (.jobStarted job.inst.id)).setPhase k job (.settled result)
  | _, _ => none

/-- A job looks at its next step. -/
def decide (s : Setup) (st : State) (k : Nat) : Option State := do
  let job ← st.jobs[k]?
  match job.phase with
  | .working startedAt workspace (.ready records todo) =>
    match job.inst.look st.cancelled records todo with
    | .stop failure => return st.proceed s k job startedAt workspace (.over records failure)
    | .skip record rest =>
      return (st.send (.stepFinished job.inst.id record)).proceed s k job startedAt workspace
        (.ready (records ++ [record]) rest)
    | .ask step rest =>
      let request := job.inst.request s.pipeline workspace step
      let call : Call := ⟨st.clock, k, records.length, request⟩
      let st := { st with calls := st.calls ++ [call] }
      return (st.send (.stepStarted job.inst.id records.length step.label)).proceed s k job
        startedAt workspace (.running records step rest)
  | _ => none

/-- A job gets the answer to its command. -/
def answer (s : Setup) (st : State) (k : Nat) (reply : Reply) : Option State := do
  let job ← st.jobs[k]?
  match job.phase with
  | .working startedAt workspace (.running records step todo) =>
    let record := (job.inst.judge records.length step reply).1
    return (st.send (.stepFinished job.inst.id record)).proceed s k job startedAt workspace
      (job.inst.answered records step todo reply)
  | _ => none

/-- The task of a job aborts, which gives its slot back. -/
def abort (st : State) (k : Nat) : Option State := do
  let job ← st.jobs[k]?
  match job.phase with
  | .working _ _ (.running ..) =>
    return { st.setPhase k job .aborted with free := st.free + 1 }
  | _ => none

/-- A job that ended gives its slot back. -/
def release (st : State) (k : Nat) : Option State := do
  let job ← st.jobs[k]?
  match job.phase with
  | .settled result => return { st.setPhase k job (.released result) with free := st.free + 1 }
  | _ => none

/-- A job that ended sends its result. -/
def publish (st : State) (k : Nat) : Option State := do
  let job ← st.jobs[k]?
  match job.phase with
  | .released result => return (st.setPhase k job (.published result)).send (.jobFinished result)
  | _ => none

/-! ## Results -/

/-- The position of the job with an identity. -/
def position? (st : State) (id : String) : Option Nat :=
  st.jobs.findIdx? (·.inst.id == id)

/-- Fills the entry of a result. -/
def enter (st : State) (result : JobResult) : State :=
  match st.position? result.id with
  | some k => { st with entries := st.entries.set k (some result) }
  | none => st

/-- An event reaches the log. -/
def collect (st : State) : Option State :=
  match st.channel with
  | [] => none
  | event :: rest =>
    let st := { st with channel := rest, log := st.log ++ [event] }
    match event.result? with
    | some result => some (st.enter result)
    | none => some st

/-- The result of a run that ends now. A job without an entry aborted. -/
def result (s : Setup) (st : State) : RunResult where
  runId := s.runId
  pipeline := s.pipeline.name
  jobs := List.zipWith (fun entry job => entry.getD job.inst.aborted) st.entries st.jobs
  cancelled := st.cancelled
  startedAt := s.startedAt
  finishedAt := st.now s

/-- A run ends when all its jobs are over and every event has reached the log. -/
def complete (s : Setup) (st : State) : Option State :=
  if st.jobs.all (·.phase.isDone) && st.channel.isEmpty && st.completed.isNone then
    let result := st.result s
    some { st with
      completed := some result
      log := st.log ++ [.pipelineCompleted s.runId result.overall] }
  else none

/-! ## Runs -/

/-- What an action makes of a state, if it is possible there. -/
def apply (s : Setup) (st : State) : Action → Option State
  | .dispatch => st.dispatch
  | .begin k workspace => st.begin s k workspace
  | .decide k => st.decide s k
  | .answer k reply => st.answer s k reply
  | .abort k => st.abort k
  | .release k => st.release k
  | .publish k => st.publish k
  | .collect => st.collect
  | .cancel => some { st with cancelled := true }
  | .pass d => some { st with clock := st.clock.add d }
  | .complete => st.complete s

/-- The state after some actions from the start. -/
def after (s : Setup) (actions : List Action) : Option State :=
  actions.foldlM (apply s) (start s)

end State

end Run

end JobMatrix
