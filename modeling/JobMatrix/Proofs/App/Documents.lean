import JobMatrix.Proofs.App.Session
import JobMatrix.Proofs.Report.Json

/-!
# Documents on request

A command that is asked for documents writes JSON values and nothing else, but for what it says in lines all
the same: that a pipeline which is to run or to be planned does not load, and that there is no run to show.
-/

namespace JobMatrix.App

open CommandLine (Command HistoryOptions Invocation RunOptions)

/-! ## What is written -/

/-- The characters that pieces are written with. -/
def written (printed : List Printed) : List Char :=
  printed.flatMap fun piece => piece.render.toList

variable {printed : List Printed}

theorem values_written (h : ∀ piece ∈ printed, ∃ d, .document d = piece) :
    Json.Values (written printed) := by
  induction printed with
  | nil => exact .nil
  | cons piece printed ih =>
    obtain ⟨⟨d, rfl⟩, hrest⟩ := List.forall_mem_cons.1 h
    have hvalue := Json.value_renderAt 0 d ('\n' :: written printed)
    have hwritten : written (.document d :: printed) =
        (d.renderAt 0).toList ++ '\n' :: written printed := by
      simp [written, Printed.render, Document.render]
    rw [hwritten]
    exact .cons (.intro .nil hvalue (.cons (by decide) .nil)) (ih hrest)

/-- What begins with a sign that is no ASCII character is not JSON. -/
theorem not_values_written {text : String} {c : Char} {cs : List Char} (htext : text.toList = c :: cs)
    (hc : 128 ≤ c.toNat) : ¬ Json.Values (written (.line text :: printed)) := by
  intro h
  have hwritten : written (.line text :: printed) = c :: (cs ++ '\n' :: written printed) := by
    simp [written, Printed.render, htext]
  rw [hwritten] at h
  exact absurd h.head (Nat.not_lt.2 hc)

theorem not_values_invalidLines (color : Bool) (file : String) (failure : Definition.Failure) :
    ¬ Json.Values (written (invalidLines color file failure)) :=
  not_values_written (c := '❌') (by simp [Report.crossMark]; rfl) (by decide)

/-! ## Sessions -/

section

variable {color stream : Bool} {engine : Engine} {o : RunOptions} {s : Session} {p : Pipeline}

theorem Outlet.printed_hand (out : Outlet) (r : RunResult) :
    (out.hand (usualReporters color true) r).printed = out.printed ++ [.document r.document] := rfl

/-- A run that is asked for documents prints its result and nothing else. -/
theorem Session.documents_runOne (hjson : o.json = true)
    (h : ∀ piece ∈ s.outlet.printed, ∃ d, .document d = piece) :
    ∀ piece ∈ (s.runOne color stream engine (usualReporters color o.json) o p).outlet.printed,
      ∃ d, .document d = piece := by
  unfold runOne
  split
  · exact h
  · obtain ⟨world, result, log⟩ := engine s.world p o.strategy
    cases result with
    | none => simpa [hjson, progressLines, Outlet.print] using h
    | some r =>
      have hprinted : ∀ piece ∈ s.outlet.printed ++ [.document r.document],
          ∃ d, .document d = piece :=
        List.forall_mem_append.2 ⟨h, List.forall_mem_singleton.2 ⟨_, rfl⟩⟩
      simpa [hjson, progressLines, closingLines, Outlet.print, Outlet.printed_hand] using hprinted

theorem Session.documents_foldl_runOne (hjson : o.json = true) {pipelines : List Pipeline}
    (h : ∀ piece ∈ s.outlet.printed, ∃ d, .document d = piece) :
    ∀ piece ∈ (pipelines.foldl (runOne color stream engine (usualReporters color o.json) o)
      s).outlet.printed, ∃ d, .document d = piece := by
  induction pipelines generalizing s with
  | nil => exact h
  | cons p pipelines ih => exact ih (documents_runOne hjson h)

theorem values_session_iff (color stream : Bool) (engine : Engine) (w : World) (hjson : o.json = true) :
    Json.Values (written (session color stream engine (usualReporters color o.json) w o).2.2) ↔
      ∀ file ∈ o.files, ¬ w.Unusable o.jobs file := by
  by_cases h : ∃ file ∈ o.files, w.Unusable o.jobs file
  · obtain ⟨file, failure, _, hsession⟩ := session_of_unusable color h
    have hlines := not_values_invalidLines color file failure
    simpa [hsession, hjson, hlines] using h
  · have husable : ∀ file ∈ o.files, ¬ w.Unusable o.jobs file :=
      fun file hfile hunusable => h ⟨file, hfile, hunusable⟩
    obtain ⟨pipelines, -, hsession⟩ := session_of_usable color husable
    rw [hsession]
    have hstart : ∀ piece ∈ (Session.start color w o pipelines).outlet.printed,
        ∃ d, .document d = piece := by
      simp [Session.start, hjson]
    exact iff_of_true (values_written (Session.documents_foldl_runOne hjson hstart)) husable

end

/-! ## All commands -/

/-- What a command says in lines although it is asked for documents. -/
inductive SaysInLines (w : World) : Command → Prop
  /-- A file is not usable, so that nothing runs. -/
  | run {o : RunOptions} {file : String} (hfile : file ∈ o.files) (h : w.Unusable o.jobs file) :
      SaysInLines w (.run o)
  /-- There is no pipeline to plan. -/
  | plan {file : String} {json : Bool} (h : w.Unusable [] file) : SaysInLines w (.plan file json)
  /-- There is no run of an identifier. -/
  | history {o : HistoryOptions} {text : String} {id : RunId} {opened : World}
      (hopen : w.openHistory = .ok opened) (htext : o.runId = some text)
      (hid : RunId.parse? text = some id) (hnone : opened.table.load? id = none) :
      SaysInLines w (.history o)

theorem values_validate (color : Bool) (w : World) (file : String) :
    Json.Values (written (validate color w file true).2) := by
  unfold validate
  refine values_written ?_
  cases w.load [] file <;> simp

theorem values_plan_iff (color : Bool) (w : World) (file : String) :
    Json.Values (written (plan color w file true).2) ↔ ¬ w.Unusable [] file := by
  rw [← World.load_eq_error_iff, plan]
  cases w.load [] file with
  | error failure =>
    simpa using not_values_invalidLines color file failure
  | ok p =>
    have hdocument : Json.Values (written [.document (planDocument p)]) := values_written (by simp)
    simpa using hdocument

/-- Without an answer there is nothing to write. -/
theorem values_archive_iff (color : Bool) (t : History.Table) {o : HistoryOptions}
    (hjson : o.json = true) :
    Json.Values (written ((archive color t o).toOption.getD [])) ↔
      ¬ ∃ text id, o.runId = some text ∧ RunId.parse? text = some id ∧ t.load? id = none := by
  unfold archive
  cases htext : o.runId with
  | none => exact iff_of_true (values_written (by simp [hjson, Except.toOption])) (by simp)
  | some text =>
    cases hid : RunId.parse? text with
    | none => exact iff_of_true (values_written (by simp [hid, Except.toOption])) (by simp [hid])
    | some id =>
      cases hload : t.load? id with
      | none =>
        have hline : ¬ Json.Values (written [.line (Report.warningSign ++ " Run not found")]) :=
          not_values_written (c := '⚠') (by simp [Report.warningSign]; rfl) (by decide)
        simpa [hid, hload, Except.toOption] using hline
      | some s =>
        exact iff_of_true (values_written (by simp [hid, hload, hjson, Except.toOption]))
          (by simp [hid, hload])

theorem saysInLines_run_iff {w : World} {o : RunOptions} :
    SaysInLines w (.run o) ↔ ∃ file ∈ o.files, w.Unusable o.jobs file := by
  constructor
  · intro hsays
    cases hsays with
    | run hfile h => exact ⟨_, hfile, h⟩
  · rintro ⟨file, hfile, h⟩
    exact .run hfile h

theorem saysInLines_plan_iff {w : World} {file : String} {json : Bool} :
    SaysInLines w (.plan file json) ↔ w.Unusable [] file := by
  constructor
  · intro hsays
    cases hsays with
    | plan h => exact h
  · exact .plan

theorem saysInLines_history_iff {w : World} {o : HistoryOptions} :
    SaysInLines w (.history o) ↔ ∃ opened, w.openHistory = .ok opened ∧
      ∃ text id, o.runId = some text ∧ RunId.parse? text = some id ∧ opened.table.load? id = none := by
  constructor
  · intro hsays
    cases hsays with
    | history hopen htext hid hnone => exact ⟨_, hopen, _, _, htext, hid, hnone⟩
  · rintro ⟨opened, hopen, text, id, htext, hid, hnone⟩
    exact .history hopen htext hid hnone

/-- A command that is asked for documents writes JSON values and nothing else, unless it says in lines that
it cannot do what it should. -/
theorem values_perform_iff (color : Bool) (engine : Engine) (w : World) {i : Invocation}
    (hjson : i.command.json = true) :
    Json.Values (written (perform color engine w i).printed) ↔ ¬ SaysInLines w i.command := by
  obtain ⟨command, verbose, stream⟩ := i
  -- For each command but to validate, what it says in lines is the only thing that is not a document.
  cases command with
  | run o =>
    rw [saysInLines_run_iff, not_exists]
    simpa [perform] using values_session_iff color stream engine w hjson
  | validate file json =>
    obtain rfl : json = true := hjson
    exact iff_of_true (values_validate color w file) nofun
  | plan file json =>
    obtain rfl : json = true := hjson
    rw [saysInLines_plan_iff]
    exact values_plan_iff color w file
  | history o =>
    rw [saysInLines_history_iff]
    cases hopen : w.openHistory with
    | error message =>
      have hnothing : Json.Values (written []) := .nil
      simpa [perform, hopen] using hnothing
    | ok opened =>
      have hprinted : (perform color engine w ⟨.history o, verbose, stream⟩).printed =
          (archive color opened.table o).toOption.getD [] := by
        simp only [perform, hopen]
        cases archive color opened.table o <;> rfl
      rw [hprinted]
      simpa using values_archive_iff color opened.table hjson

end JobMatrix.App

/-! ## A file that is not there -/

namespace JobMatrix.Small

open App CommandLine

/-- If the file is validated, the command says in a document what is wrong. -/
theorem values_perform_validate :
    let outcome := perform false (localEngine settings) smallWorld
      ⟨.validate "absent.yml" true, false, false⟩
    outcome.ending = .exits 2 ∧ Json.Values (written outcome.printed) := by
  refine ⟨?_, (values_perform_iff false (localEngine settings) smallWorld rfl).2 nofun⟩
  simp [perform, validate_code, unusable_absent]

/-- If the file is planned, the command says so in lines. -/
theorem not_values_perform_plan :
    let outcome := perform false (localEngine settings) smallWorld ⟨.plan "absent.yml" true, false, false⟩
    outcome.ending = .exits 2 ∧ ¬ Json.Values (written outcome.printed) := by
  have hcode : (plan false smallWorld "absent.yml" true).1 = 2 := by
    simp [plan_code, unusable_absent]
  exact ⟨congrArg Ending.exits hcode,
    fun h => (values_plan_iff false smallWorld "absent.yml").1 h (unusable_absent [])⟩

end JobMatrix.Small
