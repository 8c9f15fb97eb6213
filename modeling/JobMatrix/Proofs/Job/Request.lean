import JobMatrix.Proofs.Job.Environment

/-!
# Requests

A request shows the path of its workspace in two variables, and nothing else in it depends
on the path.
-/

namespace JobMatrix

/-- What a request shows apart from the path of its workspace: the command, the directory, the
timeout and the other variables. -/
def Request.apartFromPath (r : Request) :
    String × String × Option Nat × (String → Option String) :=
  (r.command, r.workingDirectory, r.timeoutSecs, fun name =>
    if name = "PIPELINE_JOB_DIR" ∨ name = "TMPDIR" then none else r.env.get? name)

theorem Instance.request_apartFromPath (i : Instance) (p : Pipeline) (path path' : String)
    (step : Step) :
    (i.request p path step).apartFromPath = (i.request p path' step).apartFromPath := by
  have henv : ∀ name, ¬ (name = "PIPELINE_JOB_DIR" ∨ name = "TMPDIR") →
      (i.request p path step).env.get? name = (i.request p path' step).env.get? name := by
    intro name hname
    simp only [Instance.get?_request, Instance.ownVariable?, if_neg hname]
  simp only [Request.apartFromPath, Prod.mk.injEq]
  refine ⟨rfl, rfl, rfl, ?_⟩
  funext name
  split
  · rfl
  · exact henv name ‹_›

end JobMatrix
