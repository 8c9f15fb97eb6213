import JobMatrix.App.Preview
import JobMatrix.CommandLine.Command
import JobMatrix.Report.Console
import JobMatrix.Report.Encoding
import JobMatrix.Run.Strategy

/-!
# Running pipelines

All files are loaded before the first pipeline runs. Then the pipelines run one after the
other, and each result is handed to the reporters: one prints it, and one puts it into a
history, which is the lasting one, or, if that is unwanted or cannot be had, one that is
forgotten. A reporter that fails stops neither the others nor the session.
-/

namespace JobMatrix.App

open CommandLine (RunOptions)
open Report

/-- A run as it went: its result, unless it crashed, and its log. -/
structure Execution where
  result : Option RunResult
  log : List Event

/-- Runs a pipeline by a strategy, which may change the world. -/
abbrev Engine := World → Pipeline → Strategy → World × Execution

/-! ## Loading -/

/-- The line about a pipeline that is loaded. -/
def loadedLine (color : Bool) (p : Pipeline) : Printed :=
  .line (infoSign ++ " Loaded pipeline: " ++ paint color [.bold] p.name)

/-- Loads files up to the first that fails: the pipelines if none does, and what is printed. -/
def loadAll (color : Bool) (w : World) (jobs : List String) (json : Bool) :
    List String → Option (List Pipeline) × List Printed
  | [] => (some [], [])
  | file :: files =>
    match w.load jobs file with
    | .error failure => (none, invalidLines color file failure)
    | .ok p =>
      let (rest, printed) := loadAll color w jobs json files
      (rest.map (p :: ·), if json then printed else loadedLine color p :: printed)

/-! ## Histories -/

/-- The store for results, and the world once it is open. -/
def storeFor (w : World) (noHistory : Bool) : History.Store × World :=
  if noHistory then (.ephemeral .empty, w)
  else
    match w.openHistory with
    | .ok w => (.lasting w.table, w)
    | .error _ => (.ephemeral .empty, w)

/-- The world after results were put into a store. -/
def World.keeping (w : World) : History.Store → World
  | .lasting table => { w with table }
  | .ephemeral _ => w

/-! ## Running -/

/-- The number of lines shown of the output of a step as it ends. -/
def streamLines : Nat := 50

/-- What is printed about an event. -/
def eventLines (color stream : Bool) (event : Event) : List Printed :=
  match event with
  | .stepStarted .. => if stream then [.line (eventLine color event)] else []
  | .stepFinished _ record =>
    .line (eventLine color event)
      :: if stream then
          (Text.lines (stepOutput color streamLines record)).map fun l => .line ("      " ++ l)
        else []
  | _ => [.line (eventLine color event)]

/-- What is printed about a run while it goes on. -/
def progressLines (color stream json : Bool) (log : List Event) : List Printed :=
  if json then [] else .line "" :: log.flatMap (eventLines color stream)

/-! ## Reporters -/

/-- Where results go: a store, and what is printed. -/
structure Outlet where
  store : History.Store
  printed : List Printed

/-- The outlet with more printed. -/
def Outlet.print (out : Outlet) (printed : List Printed) : Outlet :=
  { out with printed := out.printed ++ printed }

/-- Takes a result in, and answers, perhaps that it failed. -/
abbrev Reporter := RunResult → Outlet → Outlet × Except String Unit

/-- Prints results. -/
def printer (color json : Bool) : Reporter := fun r out =>
  (out.print [if json then .document r.document else .line (console color true r)], .ok ())

/-- Puts the summaries of results into the store. -/
def historian : Reporter := fun r out =>
  ({ out with store := out.store.report r }, .ok ())

/-- The reporters of a session. -/
def usualReporters (color json : Bool) : List Reporter :=
  [printer color json, historian]

/-- Hands a result to all reporters, whatever they answer. -/
def Outlet.hand (out : Outlet) (reporters : List Reporter) (r : RunResult) : Outlet :=
  reporters.foldl (fun out report => (report r out).1) out

/-! ## Sessions -/

/-- The line that says that a run is kept. -/
def savedLine (color : Bool) (id : RunId) : Printed :=
  .line (infoSign ++ " Run saved to history (ID: " ++ paint color [.dim] id.short ++ ")")

/-- What is printed about a run after its result was handed on. -/
def closingLines (color : Bool) (o : RunOptions) (id : RunId) : List Printed :=
  if o.json || o.noHistory then [] else [savedLine color id]

/-- A sequence of runs that has come to some point. -/
structure Session where
  world : World
  outlet : Outlet
  results : List RunResult
  crashed : Bool

/-- Runs one more pipeline, unless the run before it crashed. -/
def Session.runOne (color stream : Bool) (engine : Engine) (reporters : List Reporter)
    (o : RunOptions) (s : Session) (p : Pipeline) : Session :=
  if s.crashed then s
  else
    let (world, e) := engine s.world p o.strategy
    let outlet := s.outlet.print (progressLines color stream o.json e.log)
    match e.result with
    | none => { s with world, outlet, crashed := true }
    | some r =>
      { s with
        world, outlet := (outlet.hand reporters r).print (closingLines color o r.runId)
        results := s.results ++ [r] }

/-- Runs the pipelines of some files: the exit code if the session does not crash, the world after it,
and what is printed. -/
def session (color stream : Bool) (engine : Engine) (reporters : List Reporter) (w : World)
    (o : RunOptions) : Option Nat × World × List Printed :=
  match loadAll color w o.jobs o.json o.files with
  | (none, printed) => (some invalidDefinitionExitCode, w, printed)
  | (some pipelines, printed) =>
    let (store, world) := storeFor w o.noHistory
    let s := pipelines.foldl (Session.runOne color stream engine reporters o)
      ⟨world, ⟨store, printed⟩, [], false⟩
    (if s.crashed then none else some (exitCode s.results), s.world.keeping s.outlet.store,
      s.outlet.printed)

end JobMatrix.App
