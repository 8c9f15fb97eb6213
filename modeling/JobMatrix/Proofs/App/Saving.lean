import JobMatrix.Proofs.App.Crash
import JobMatrix.Proofs.History.Keeping
import JobMatrix.Proofs.Run.Times

/-!
# What is said to be saved

After each run a session says that it is saved, unless it was asked for documents or for no history.
It says so without a look at what became of the result. If the runs leave it alone, the lasting history
has a run only if it could be opened and did not refuse to save the result; then the run can be shown
from it later.
-/

namespace JobMatrix

namespace App

open CommandLine (HistoryOptions RunOptions)
open History Report

/-! ## A history that may refuse -/

/-- The store after a result was handed to the historian. -/
def keep (refuses : RunResult → Option String) (store : Store) (r : RunResult) : Store :=
  if refuses r = none then store.report r else store

/-! ## The runs of a session -/

/-- A run that came to a result. -/
structure Ran where
  log : List Event
  result : RunResult

/-- What is printed about a run from its begin until its result was handed on. -/
def Ran.lines (color stream : Bool) (o : RunOptions) (run : Ran) : List Printed :=
  progressLines color stream o.json run.log ++
    (if o.json then .document run.result.document else .line (console color true run.result)) ::
      closingLines color o run.result.runId

section

variable (color stream : Bool) (engine : Engine) (refuses : RunResult → Option String)
  (o : RunOptions)

/-- From one session to another some pipelines run, up to one that crashes. For each that does not
there is a run, and what is printed about the one that crashes is broken off. -/
inductive Goes : Session → List Pipeline → List Ran → List Printed → Session → Prop
  | nil {s : Session} (hcrashed : s.crashed = false) : Goes s [] [] [] s
  | ran {s final : Session} {p : Pipeline} {pipelines : List Pipeline} {runs : List Ran}
      {broken : List Printed} {world : World} {r : RunResult} {log : List Event}
      (hengine : engine s.world p o.strategy = (world, ⟨some r, log⟩))
      (hrest : Goes ⟨world, ⟨keep refuses s.outlet.store r,
          s.outlet.printed ++ Ran.lines color stream o ⟨log, r⟩⟩, s.results ++ [r], false⟩
        pipelines runs broken final) :
      Goes s (p :: pipelines) (⟨log, r⟩ :: runs) broken final
  | crashed {s : Session} {p : Pipeline} {pipelines : List Pipeline} {world : World}
      {log : List Event} (hengine : engine s.world p o.strategy = (world, ⟨none, log⟩)) :
      Goes s (p :: pipelines) [] (progressLines color stream o.json log)
        { s with
          world, outlet := s.outlet.print (progressLines color stream o.json log), crashed := true }

end

variable {color stream : Bool} {engine : Engine} {refuses : RunResult → Option String}
  {o : RunOptions} {s final : Session} {p : Pipeline} {pipelines : List Pipeline} {runs : List Ran}
  {broken : List Printed}

section

variable {world : World} {log : List Event}

end

/-- The first characters of a line, enough to tell the lines of a session by what they say. -/
def Printed.opening : Printed → List Char
  | .line text => text.toList.take 6
  | .document _ => []

/-- An engine that leaves the lasting history alone. -/
def Engine.SparesHistory (engine : Engine) : Prop :=
  ∀ w p strategy, (engine w p strategy).1.table = w.table

/-- The engine came to a run with a pipeline. -/
def Engine.CameTo (engine : Engine) (o : RunOptions) (p : Pipeline) (run : Ran) : Prop :=
  ∃ w world, engine w p o.strategy = (world, ⟨some run.result, run.log⟩)

/-- The summaries of the runs that the history does not refuse to save. -/
def summariesKept (refuses : RunResult → Option String) (runs : List Ran) : List RunSummary :=
  (runs.filter fun run => refuses run.result = none).map fun run => .ofResult run.result

theorem latest?_summariesKept (refuses : RunResult → Option String) {run : Ran}
    (hnodup : (runs.map fun run => run.result.runId).Nodup)
    (hrun : run ∈ runs) :
    latest? (summariesKept refuses runs) run.result.runId =
      if refuses run.result = none then some (.ofResult run.result) else none := by
  -- What is kept is looked for from the latest on, but there is at most one summary of a run.
  have hids : ((summariesKept refuses runs).reverse.map RunSummary.runId).Nodup := by
    rw [List.map_reverse, List.nodup_reverse, summariesKept, List.map_map]
    exact hnodup.sublist (List.filter_sublist.map _)
  split
  case isTrue hkept =>
    have hmem : RunSummary.ofResult run.result ∈ (summariesKept refuses runs).reverse :=
      List.mem_reverse.2 (List.mem_map.2 ⟨run, List.mem_filter.2 ⟨hrun, by simpa using hkept⟩, rfl⟩)
    exact find?_of_mem hids hmem
  case isFalse hrefused =>
    -- Another run that is kept has another identifier.
    rw [latest?, List.find?_eq_none]
    intro s hs hid
    obtain ⟨other, hother, rfl⟩ := List.mem_map.1 (List.mem_reverse.1 hs)
    obtain ⟨hmem, hkept⟩ := List.mem_filter.1 hother
    obtain rfl := List.inj_on_of_nodup_map hnodup hmem hrun (eq_of_beq hid)
    exact hrefused (by simpa using hkept)

theorem Goes.table_eq (h : Goes color stream engine refuses o s pipelines runs broken final)
    (hengine : engine.SparesHistory) : final.world.table = s.world.table := by
  induction h with
  | nil _ => rfl
  | @ran s _ p _ _ _ world _ _ hrun _ ih =>
    have hspared := hengine s.world p o.strategy
    rw [hrun] at hspared
    rw [ih, hspared]
  | @crashed s p _ world _ hrun =>
    have hspared := hengine s.world p o.strategy
    rwa [hrun] at hspared

/-- A lasting store has the results that were not refused. -/
theorem Goes.store_lasting (h : Goes color stream engine refuses o s pipelines runs broken final)
    {t : Table} (hstore : s.outlet.store = .lasting t) :
    final.outlet.store = .lasting ((summariesKept refuses runs).foldl Table.save t) := by
  induction h generalizing t with
  | nil _ => exact hstore
  | @ran s _ _ _ _ _ _ r _ _ _ ih =>
    by_cases hrefuses : refuses r = none
    · have hkept : keep refuses s.outlet.store r = .lasting (t.save (.ofResult r)) := by
        rw [keep, if_pos hrefuses, hstore]
        rfl
      rw [ih hkept]
      simp [summariesKept, hrefuses]
    · have hkept : keep refuses s.outlet.store r = .lasting t := by
        rw [keep, if_neg hrefuses, hstore]
      rw [ih hkept]
      simp [summariesKept, hrefuses]
  | crashed _ => exact hstore

/-- A store that is forgotten stays one. -/
theorem Goes.store_ephemeral (h : Goes color stream engine refuses o s pipelines runs broken final)
    (hstore : ∃ history, s.outlet.store = .ephemeral history) :
    ∃ history, final.outlet.store = .ephemeral history := by
  induction h with
  | nil _ => exact hstore
  | @ran s _ _ _ _ _ _ r _ _ _ ih =>
    obtain ⟨history, hhistory⟩ := hstore
    refine ih ?_
    simp only [keep, hhistory]
    split
    · exact ⟨_, rfl⟩
    · exact ⟨_, rfl⟩
  | crashed _ => exact hstore

/-! ## The history of a session -/

/-- The lasting history is wanted and can be opened. -/
def World.OpensFor (w : World) (o : RunOptions) : Prop :=
  o.noHistory = false ∧ ∃ opened, w.openHistory = .ok opened

/-- The session before the first of some pipelines runs, after some lines. -/
def Session.begun (w : World) (o : RunOptions) (said : List Printed) : Session where
  world := (storeFor w o.noHistory).2
  outlet := ⟨(storeFor w o.noHistory).1, said⟩
  results := []
  crashed := false

variable {w : World} {said : List Printed}

theorem storeFor_of_opensFor (h : w.OpensFor o) :
    (storeFor w o.noHistory).1 = .lasting w.table ∧ (storeFor w o.noHistory).2.table = w.table := by
  obtain ⟨hwanted, opened, hopen⟩ := h
  have htable : opened.table = w.table := by rw [(World.openHistory_eq_ok hopen).2]
  simp [storeFor, hwanted, hopen, htable]

theorem storeFor_of_not_opensFor (h : ¬ w.OpensFor o) :
    storeFor w o.noHistory = (.ephemeral .empty, w) := by
  unfold storeFor
  split
  · rfl
  · rename_i hwanted
    split
    · rename_i opened hopen
      exact absurd ⟨by simpa using hwanted, opened, hopen⟩ h
    · rfl

/-- The table after the session has the runs that were not refused, if the history was opened for it. -/
theorem Goes.table_of_opensFor
    (h : Goes color stream engine refuses o (.begun w o said) pipelines runs broken final)
    (hopens : w.OpensFor o) :
    (final.world.keeping final.outlet.store).table =
      (summariesKept refuses runs).foldl Table.save w.table := by
  rw [h.store_lasting (storeFor_of_opensFor hopens).1]
  rfl

theorem Goes.table_of_not_opensFor
    (h : Goes color stream engine refuses o (.begun w o said) pipelines runs broken final)
    (hengine : engine.SparesHistory) (hopens : ¬ w.OpensFor o) :
    (final.world.keeping final.outlet.store).table = w.table := by
  have hstore := storeFor_of_not_opensFor hopens
  obtain ⟨history, hfinal⟩ := h.store_ephemeral ⟨.empty, congrArg Prod.fst hstore⟩
  rw [hfinal]
  exact (h.table_eq hengine).trans (congrArg (fun start => start.2.table) hstore)

theorem Goes.load?_eq
    (h : Goes color stream engine refuses o (.begun w o said) pipelines runs broken final)
    (hengine : engine.SparesHistory) (hnodup : (runs.map fun run => run.result.runId).Nodup)
    {run : Ran} (hrun : run ∈ runs) (hnew : w.table.load? run.result.runId = none)
    (hlegible : Legible (.ofResult run.result)) :
    (final.world.keeping final.outlet.store).table.load? run.result.runId =
        some (.ofResult run.result) ↔ w.OpensFor o ∧ refuses run.result = none := by
  by_cases hopens : w.OpensFor o
  · -- What the table has of the run is what was saved of it last, if anything was.
    have hlatest := latest?_summariesKept refuses hnodup hrun
    rw [h.table_of_opensFor hopens, Table.load?_saves, hlatest, hnew, Option.or_none]
    · by_cases hrefuses : refuses run.result = none <;> simp [hrefuses, hopens]
    · intro s hs
      rw [hlatest] at hs
      split at hs
      · cases hs
        exact hlegible
      · cases hs
  · -- The runs went to a store that is forgotten.
    rw [h.table_of_not_opensFor hengine hopens, hnew]
    simp [hopens]

/-! ## Results of whole runs -/

/-- An engine whose results are those of whole runs. -/
def Engine.PlaysCourses (engine : Engine) : Prop :=
  ∀ w p strategy, p.Loaded → ∀ r ∈ (engine w p strategy).2.result,
    ∃ c : Run.Course, c.setup.pipeline = p ∧ c.result = r

theorem Engine.CameTo.exists_course {run : Ran} (h : engine.CameTo o p run)
    (hplays : engine.PlaysCourses) (hloaded : p.Loaded) :
    ∃ c : Run.Course, c.setup.pipeline = p ∧ c.result = run.result := by
  obtain ⟨w, world, hrun⟩ := h
  exact hplays w p o.strategy hloaded run.result (by rw [hrun]; rfl)

/-- The history can give the summary of a run back. -/
theorem Engine.CameTo.legible {run : Ran} (h : engine.CameTo o p run) (hplays : engine.PlaysCourses)
    (hloaded : p.Loaded) (hcount : run.result.jobs.length < Word.bound) :
    Legible (.ofResult run.result) := by
  obtain ⟨c, -, hresult⟩ := h.exists_course hplays hloaded
  rw [← hresult] at hcount ⊢
  exact c.legible hcount

/-! ## Whole sessions -/

/-- If the history can be opened, it shows a run to those who ask for it. -/
def World.Shows (color : Bool) (w : World) (s : RunSummary) : Prop :=
  ∀ opened text (h : HistoryOptions), w.openHistory = .ok opened → h.runId = some text →
    RunId.parse? text = some s.runId →
    archive color opened.table h =
      .ok (if h.json then [.document s.document] else detailLines color h.details s)

end App

end JobMatrix

/-! ## A history that opens and one that does not -/

namespace JobMatrix.Small

open App CommandLine Definition

end JobMatrix.Small
