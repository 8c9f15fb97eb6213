import JobMatrix.Run.State

/-!
# The timeline of a run

A timeline lays the actions of a run out in time, for commands of which it is known how
long they take. Everything but the commands happens at once. Jobs go on in the order of
their positions, each until it waits for a command or is over; between two jobs as many
others are dispatched as there are slots for.
-/

namespace JobMatrix.Run

/-- How a command goes. -/
structure Flight where
  /-- The time it takes. -/
  length : Duration
  /-- The reply at its end; none if the task of its job aborts. -/
  ending : Option Reply
  /-- The reply if the run is cancelled after some of that time. -/
  cutShort : Duration → Reply
  /-- Whether its end cancels the run. -/
  cancels : Bool
deriving Inhabited

/-- The surroundings of a run, which change from job to job and from command to command. -/
structure Host (World : Type) where
  /-- Makes a workspace for the job at a position. -/
  enter : World → Nat → World × Except String String
  /-- Removes a workspace. -/
  leave : World → String → World
  /-- Starts a command. -/
  launch : World → Call → World × Flight

/-- A run that has come to some point. -/
structure Timeline (World : Type) where
  state : State
  world : World
  /-- The commands that are running, by the positions of their jobs, with their starts. -/
  flights : List (Nat × Duration × Flight)
  /-- When the run is going to be cancelled, if it is. -/
  cancelAt : Option Duration

namespace Timeline

variable {World : Type}

/-- The workspace of a job. -/
def workspace? (st : State) (k : Nat) : Option String :=
  match st.jobs[k]? with
  | some ⟨_, .working _ path _⟩ => some path
  | _ => none

/-- A state after a job went on: its workspace goes away when it ends. -/
def moved (host : Host World) (t : Timeline World) (k : Nat) (st : State) : Timeline World :=
  match workspace? t.state k, workspace? st k with
  | some path, none => { t with state := st, world := host.leave t.world path }
  | _, _ => { t with state := st }

/-- A job begins in a new workspace. -/
def begin (s : Setup) (host : Host World) (t : Timeline World) (k : Nat) :
    Option (Timeline World) := do
  let (world, workspace) := host.enter t.world k
  let state ← t.state.apply s (.begin k workspace)
  return { t with state, world }

/-- A job looks at its next step, and a command that it asks for starts. -/
def decide (s : Setup) (host : Host World) (t : Timeline World) (k : Nat) :
    Option (Timeline World) := do
  let state ← t.state.apply s (.decide k)
  match state.calls.drop t.state.calls.length with
  | call :: _ =>
    let (world, flight) := host.launch t.world call
    return { t with state, world, flights := t.flights ++ [(k, state.clock, flight)] }
  | [] => return t.moved host k state

/-- The command of a job is over with a reply, or its task aborts. -/
def land (s : Setup) (host : Host World) (t : Timeline World) (k : Nat) (reply : Option Reply) :
    Option (Timeline World) := do
  let state ← t.state.apply s (match reply with
    | some r => .answer k r
    | none => .abort k)
  return { t.moved host k state with flights := t.flights.filter (·.1 != k) }

/-- A command comes to its end. -/
def finish (s : Setup) (host : Host World) (t : Timeline World) (k : Nat) (flight : Flight) :
    Option (Timeline World) := do
  if flight.cancels && !t.state.cancelled then
    return { t with state := ← t.state.apply s .cancel }
  else
    t.land s host k flight.ending

/-- What a job can do at once. -/
def goOn (s : Setup) (host : Host World) (t : Timeline World) (k : Nat) : Option (Timeline World) := do
  let job ← t.state.jobs[k]?
  match job.phase with
  | .working _ _ (.ready ..) => t.decide s host k
  | .settled _ => return { t with state := ← t.state.apply s (.release k) }
  | .released _ => return { t with state := ← t.state.apply s (.publish k) }
  | .working _ _ (.running ..) =>
    let (_, _, flight) ← t.flights.find? fun (j, _, flight) => j = k && flight.length.nanos = 0
    t.finish s host k flight
  | _ => none

/-- The first of some jobs that can do something. -/
def firstJob (f : Nat → Option (Timeline World)) (t : Timeline World) : Option (Timeline World) :=
  (List.range t.state.jobs.length).findSome? f

/-- A command that is due ends; once the run is cancelled every command does. -/
def endFlight (s : Setup) (host : Host World) (t : Timeline World) : Option (Timeline World) :=
  t.flights.findSome? fun (k, start, flight) =>
    if (start.add flight.length).nanos ≤ t.state.clock.nanos then t.finish s host k flight
    else if t.state.cancelled then t.land s host k (some (flight.cutShort (t.state.clock.sub start)))
    else none

/-- The run is cancelled from outside. -/
def cancelDue (s : Setup) (t : Timeline World) : Option (Timeline World) := do
  let at' ← t.cancelAt
  if t.state.cancelled || t.state.clock.nanos < at'.nanos then none
  else return { t with state := ← t.state.apply s .cancel }

/-- Time goes on to the next end of a command or to the cancellation. -/
def wait (s : Setup) (t : Timeline World) : Option (Timeline World) := do
  let ends := t.flights.map fun (_, start, flight) => (start.add flight.length).nanos
  let next ← (if t.state.cancelled then ends
    else (t.cancelAt.map Duration.nanos).toList ++ ends).min?
  return { t with state := ← t.state.apply s (.pass ⟨next - t.state.clock.nanos⟩) }

/-- The next action. -/
def step (s : Setup) (host : Host World) (t : Timeline World) : Option (Timeline World) :=
  let plain (action : Action) : Option (Timeline World) :=
    (t.state.apply s action).map fun state => { t with state }
  plain .collect
    <|> t.firstJob (t.goOn s host)
    <|> plain .dispatch
    <|> t.firstJob (t.begin s host)
    <|> t.cancelDue s
    <|> t.endFlight s host
    <|> plain .complete
    <|> (if t.flights.isEmpty then none else t.wait s)

/-- At most `n` actions. -/
def steps (s : Setup) (host : Host World) : Nat → Timeline World → Timeline World
  | 0, t => t
  | n + 1, t =>
    match t.step s host with
    | some t => steps s host n t
    | none => t

/-- More actions than a run of a pipeline has: seven for each job and six for each step, if the passing
of time before the end of a command is counted with its step. -/
def bound (p : Pipeline) : Nat :=
  8 * (p.instances.map fun i => i.template.steps.length + 1).foldr (· + ·) 0 + 8

end Timeline

/-- The state in which a run ends, and its surroundings then. -/
def play {World : Type} (s : Setup) (host : Host World) (world : World) (cancelledBefore : Bool)
    (cancelAt : Option Duration) : State × World :=
  let start := { State.start s with cancelled := cancelledBefore }
  let t := Timeline.steps s host (Timeline.bound s.pipeline) ⟨start, world, [], cancelAt⟩
  (t.state, t.world)

end JobMatrix.Run
