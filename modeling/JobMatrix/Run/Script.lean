import JobMatrix.Run.Timeline

/-!
# Rehearsals

In a rehearsal the replies to commands are scripted: a line of the script says how long a
command takes and how it ends. A command without a line exits with code 0 at once.
-/

namespace JobMatrix.Run

/-- How a scripted command ends. -/
inductive Ending
  | exits (code : Option Int)
  | fails (error : CommandError)
  /-- The task of the job aborts. -/
  | aborts
deriving DecidableEq, Inhabited

/-- A line of a script. -/
structure Cue where
  command : String
  ending : Ending
  stdout : String
  stderr : String
  delay : Duration
  /-- Whether the end of the command cancels the run. -/
  cancels : Bool
deriving DecidableEq, Inhabited

namespace Cue

/-- The line for a command without one. -/
def silent (command : String) : Cue :=
  ⟨command, .exits (some 0), "", "", .zero, false⟩

/-- What the command leaves if it ends in a way after some time. -/
def output (cue : Cue) (termination : Termination) (duration : Duration) : Reply :=
  .ok ⟨termination, cue.stdout, cue.stderr, duration⟩

/-- How a request goes. A command that takes longer than the timeout ends at the timeout; one that
fails or aborts does so at once. -/
def flight (cue : Cue) (request : Request) : Flight :=
  let cutShort := cue.output .cancelled
  match cue.ending with
  | .aborts => ⟨.zero, none, cutShort, false⟩
  | .fails e => ⟨.zero, some (.error e), cutShort, false⟩
  | .exits code =>
    match request.timeoutSecs.map Duration.ofSecs with
    | some limit =>
      if limit.nanos < cue.delay.nanos then
        ⟨limit, some (cue.output .timedOut limit), cutShort, cue.cancels⟩
      else ⟨cue.delay, some (cue.output (.exited code) cue.delay), cutShort, cue.cancels⟩
    | none => ⟨cue.delay, some (cue.output (.exited code) cue.delay), cutShort, cue.cancels⟩

end Cue

/-- The surroundings of a rehearsal: a workspace for every job, or none for any, and the first line
of the script for a command. -/
def rehearsal (script : List Cue) (workspace : Except String String) : Host Unit where
  enter _ _ := ((), workspace)
  leave _ _ := ()
  launch _ call :=
    let command := call.request.command
    let cue := (script.find? (·.command == command)).getD (.silent command)
    ((), cue.flight call.request)

end JobMatrix.Run
