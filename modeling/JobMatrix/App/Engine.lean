import JobMatrix.App.Session
import JobMatrix.Shell.Host

/-!
# Running pipelines on a host

An engine plays each pipeline on a host, which works on a part of the world. The engine of the program
has a host that runs commands on the files, and its runs are not cancelled.
-/

namespace JobMatrix.App

/-- What an engine needs besides the world. -/
structure EngineSettings where
  environment : Env String
  /-- The identifier of the run with a number. -/
  runId : Nat → RunId
  /-- When the first run starts. -/
  startedAt : Timestamp

/-- Where pipelines are played. Every command that a host starts comes to an end there. -/
structure Stage (Part : Type) where
  /-- The host for a pipeline. -/
  host : World → Pipeline → Run.Host Part
  /-- The part of the world that hosts work on. -/
  enter : World → Part
  /-- The world after a run that has left something of its part. -/
  leave : World → Part → World
  /-- Whether a run is cancelled before it starts. -/
  cancelledBefore : World → Pipeline → Bool
  /-- When a run is going to be cancelled, if it is. -/
  cancelAt : World → Pipeline → Option Duration

/-- The state in which a run on a stage ends, and what it leaves of its part of the world. -/
def Stage.play {Part : Type} (stage : Stage Part) (w : World) (s : Setup) : Run.State × Part :=
  Run.play s (stage.host w s.pipeline) (stage.enter w) (stage.cancelledBefore w s.pipeline)
    (stage.cancelAt w s.pipeline)

/-- The engine that plays pipelines on a stage. A run with more slots than can be handed out crashes right
after its start. -/
def Stage.engine {Part : Type} (stage : Stage Part) (e : EngineSettings) : Engine := fun w p strategy =>
  let runId := e.runId w.runs
  match strategy.slots? p.maxParallel with
  | none =>
    ({ w with runs := w.runs + 1 }, ⟨none, [.pipelineStarted runId p.name p.instances.length]⟩)
  | some slots =>
    let setup : Setup := ⟨runId, e.startedAt.add w.elapsed, p, slots⟩
    let (st, part) := stage.play w setup
    ({ stage.leave w part with runs := w.runs + 1, elapsed := w.elapsed.add st.clock },
      ⟨some (st.completed.getD (st.result setup)), st.log⟩)

/-- The stage on which commands work on the files. They are taken to leave the one with the lasting
history alone. -/
def shellStage (environment : Env String) : Stage Shell.Disk where
  host w p := Shell.host ⟨w.directory, environment⟩ p
  enter w := ⟨w.files, w.runs * 1000000⟩
  leave w disk := { w with files := disk.files }
  cancelledBefore _ _ := false
  cancelAt _ _ := none

/-- The engine of the program. -/
def localEngine (e : EngineSettings) : Engine :=
  (shellStage e.environment).engine e

end JobMatrix.App
