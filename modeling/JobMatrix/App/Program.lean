import JobMatrix.App.Archive
import JobMatrix.App.Session

/-!
# The program

The program reads its words as a command line and carries the command out.
-/

namespace JobMatrix.App

open CommandLine (Invocation)

/-- How the program ends. -/
inductive Ending
  | exits (code : Nat)
  | fails (message : String)
  | crashes
deriving DecidableEq, Inhabited

/-- What a command does. -/
structure Outcome where
  ending : Ending
  world : World
  printed : List Printed

/-- Carries a command out. -/
def perform (color : Bool) (engine : Engine) (w : World) (i : Invocation) : Outcome :=
  match i.command with
  | .run o =>
    let (code, world, printed) := session color i.stream engine (usualReporters color o.json) w o
    ⟨code.elim .crashes .exits, world, printed⟩
  | .validate file json =>
    let (code, printed) := validate color w file json
    ⟨.exits code, w, printed⟩
  | .plan file json =>
    let (code, printed) := plan color w file json
    ⟨.exits code, w, printed⟩
  | .history o =>
    match w.openHistory with
    | .error message => ⟨.fails message, w, []⟩
    | .ok w =>
      match archive color w.table o with
      | .error message => ⟨.fails message, w, []⟩
      | .ok printed => ⟨.exits 0, w, printed⟩

end JobMatrix.App
