import Mathlib
import JobMatrix.App.Engine
import JobMatrix.App.Program
import JobMatrix.Proofs.App.Loading
import JobMatrix.Proofs.Definition.Bound
import JobMatrix.Proofs.Run.Verdict

/-!
# Sessions

A session runs all of its pipelines or none. If one of its files is not usable, nothing has happened but
that this is said. Otherwise the pipelines run one after the other, once each, every reporter gets every
result once, and the exit code comes from the results alone.
-/

namespace JobMatrix

theorem Strategy.slots?_ne_none {strategy : Strategy} {declared : Option Nat}
    (h : ∀ n ∈ strategy.limit declared, n ≤ 2 ^ 61 - 1) : strategy.slots? declared ≠ none := by
  unfold Strategy.slots?
  cases hlimit : strategy.limit declared with
  | none => simp
  | some n =>
    have hn : n ≤ Strategy.maxSlots := h n hlimit
    simp [hn]

theorem exitCode_ne_two (results : List RunResult) : exitCode results ≠ 2 := by
  unfold exitCode
  split <;> decide

namespace App

open CommandLine (RunOptions)

/-! ## Reporting -/

/-- Each reporter in turn gets a result once, whatever it answers. -/
inductive Handed (r : RunResult) : List Reporter → Outlet → Outlet → Prop
  | nil {out : Outlet} : Handed r [] out out
  | cons {report : Reporter} {reporters : List Reporter} {out next final : Outlet}
      {answer : Except String Unit} (hreport : report r out = (next, answer))
      (hrest : Handed r reporters next final) :
      Handed r (report :: reporters) out final

theorem Outlet.handed_hand (out : Outlet) (reporters : List Reporter) (r : RunResult) :
    Handed r reporters out (out.hand reporters r) := by
  induction reporters generalizing out with
  | nil => exact .nil
  | cons report reporters ih => exact .cons rfl (ih (report r out).1)

/-! ## Running -/

/-- An engine that comes to a result unless more slots are asked for than can be handed out. -/
def Engine.Finishes (engine : Engine) : Prop :=
  ∀ w p strategy, strategy.slots? p.maxParallel ≠ none →
    ∃ world r log, engine w p strategy = (world, ⟨some r, log⟩)

/-- Whatever the stage, a run comes to no result exactly if it gets no slots. -/
theorem Stage.engine_result_eq_none_iff {Part : Type} (stage : Stage Part) (e : EngineSettings)
    (w : World) (p : Pipeline) (strategy : Strategy) :
    (stage.engine e w p strategy).2.result = none ↔ strategy.slots? p.maxParallel = none := by
  unfold engine
  cases strategy.slots? p.maxParallel <;> simp

theorem Stage.engine_finishes {Part : Type} (stage : Stage Part) (e : EngineSettings) :
    (stage.engine e).Finishes := by
  intro w p strategy hslots
  rw [ne_eq, ← stage.engine_result_eq_none_iff e w] at hslots
  obtain ⟨r, hr⟩ := Option.ne_none_iff_exists'.1 hslots
  exact ⟨_, r, (stage.engine e w p strategy).2.log, by rw [← hr]⟩

theorem localEngine_finishes (e : EngineSettings) : (localEngine e).Finishes :=
  (shellStage e.environment).engine_finishes e

section

variable (color stream : Bool) (engine : Engine) (reporters : List Reporter) (o : RunOptions)

/-- A pipeline runs once and comes to a result, which each reporter gets once. -/
inductive Executes (s : Session) (p : Pipeline) : Session → Prop
  | intro {world : World} {r : RunResult} {log : List Event} {out : Outlet}
      (hengine : engine s.world p o.strategy = (world, ⟨some r, log⟩))
      (hhanded : Handed r reporters (s.outlet.print (progressLines color stream o.json log)) out) :
      Executes s p ⟨world, out.print (closingLines color o r.runId), s.results ++ [r], false⟩

/-- Pipelines run one after the other, once each. -/
inductive ExecutesAll : Session → List Pipeline → Session → Prop
  | nil {s : Session} : ExecutesAll s [] s
  | cons {s next final : Session} {p : Pipeline} {pipelines : List Pipeline}
      (hfirst : Executes color stream engine reporters o s p next)
      (hrest : ExecutesAll next pipelines final) : ExecutesAll s (p :: pipelines) final

end

/-- The session before the first of its pipelines runs. -/
def Session.start (color : Bool) (w : World) (o : RunOptions) (pipelines : List Pipeline) : Session where
  world := (storeFor w o.noHistory).2
  outlet := ⟨(storeFor w o.noHistory).1, if o.json then [] else pipelines.map (loadedLine color)⟩
  results := []
  crashed := false

section

variable (color stream : Bool) {engine : Engine} (reporters : List Reporter) {o : RunOptions}
variable {s : Session} {p : Pipeline} {pipelines : List Pipeline}

theorem Session.runOne_executes (hengine : engine.Finishes) (hcrashed : s.crashed = false)
    (hslots : o.strategy.slots? p.maxParallel ≠ none) :
    Executes color stream engine reporters o s p (s.runOne color stream engine reporters o p) ∧
      (s.runOne color stream engine reporters o p).crashed = false := by
  obtain ⟨world, r, log, hrun⟩ := hengine s.world p o.strategy hslots
  have heq : s.runOne color stream engine reporters o p =
      ⟨world, ((s.outlet.print (progressLines color stream o.json log)).hand reporters r).print
        (closingLines color o r.runId), s.results ++ [r], false⟩ := by
    simp [runOne, hcrashed, hrun]
  -- The result that counts is the one of the engine, whatever the reporters answer.
  rw [heq]
  exact ⟨.intro hrun (Outlet.handed_hand _ reporters r), rfl⟩

theorem Session.foldl_runOne_executesAll (hengine : engine.Finishes) (hcrashed : s.crashed = false)
    (hslots : ∀ p ∈ pipelines, o.strategy.slots? p.maxParallel ≠ none) :
    ExecutesAll color stream engine reporters o s pipelines
        (pipelines.foldl (runOne color stream engine reporters o) s) ∧
      (pipelines.foldl (runOne color stream engine reporters o) s).crashed = false := by
  induction pipelines generalizing s with
  | nil => exact ⟨.nil, hcrashed⟩
  | cons p pipelines ih =>
    obtain ⟨hp, hslots⟩ := List.forall_mem_cons.1 hslots
    obtain ⟨hfirst, hnext⟩ := runOne_executes color stream reporters hengine hcrashed hp
    obtain ⟨hrest, hfinal⟩ := ih hnext hslots
    exact ⟨.cons hfirst hrest, hfinal⟩

end

/-! ## Whole sessions -/

section

variable {w : World} {o : RunOptions} {pipelines : List Pipeline}

/-- If a file is not usable, the session says so and ends without a change to the world. No engine and no
reporter makes a difference. -/
theorem session_of_unusable (color : Bool) (h : ∃ file ∈ o.files, w.Unusable o.jobs file) :
    ∃ file failure, ∃ loaded : List Pipeline, ∀ stream engine reporters,
      session color stream engine reporters w o =
        (some 2, w, (if o.json then [] else loaded.map (loadedLine color))
          ++ invalidLines color file failure) := by
  obtain ⟨file, hfile, hunusable⟩ := h
  obtain ⟨_, hchosen, -⟩ | ⟨bad, -, failure, -, loaded, hload⟩ :=
    loadAll_eq color w o.jobs o.json o.files
  · exact absurd hunusable (World.not_unusable_of_chosen hchosen file hfile)
  · refine ⟨bad, failure, loaded, fun stream engine reporters => ?_⟩
    rw [session, hload]
    rfl

theorem session_of_usable (color : Bool) (h : ∀ file ∈ o.files, ¬ w.Unusable o.jobs file) :
    ∃ pipelines, List.Forall₂ (w.Chosen o.jobs) o.files pipelines ∧
      ∀ stream engine reporters, session color stream engine reporters w o =
        let s := pipelines.foldl (Session.runOne color stream engine reporters o)
          (Session.start color w o pipelines)
        (if s.crashed then none else some (exitCode s.results), s.world.keeping s.outlet.store,
          s.outlet.printed) := by
  obtain ⟨pipelines, hchosen, hload⟩ | ⟨file, hfile, failure, hfails, _⟩ :=
    loadAll_eq color w o.jobs o.json o.files
  · refine ⟨pipelines, hchosen, fun stream engine reporters => ?_⟩
    rw [session, hload]
    rfl
  · exact absurd (World.load_eq_error_iff.1 ⟨failure, hfails⟩) (h file hfile)

theorem session_code_eq_two_iff (color stream : Bool) (engine : Engine) (reporters : List Reporter)
    (w : World) (o : RunOptions) :
    (session color stream engine reporters w o).1 = some 2 ↔
      ∃ file ∈ o.files, w.Unusable o.jobs file := by
  by_cases h : ∃ file ∈ o.files, w.Unusable o.jobs file
  · obtain ⟨_, _, _, hsession⟩ := session_of_unusable color h
    simp [hsession, h]
  · obtain ⟨pipelines, -, hsession⟩ :=
      session_of_usable color fun file hfile hunusable => h ⟨file, hfile, hunusable⟩
    simp [hsession, h, exitCode_ne_two]

open Classical in
theorem validate_code (color : Bool) (w : World) (file : String) (json : Bool) :
    (validate color w file json).1 = if w.Unusable [] file then 2 else 0 := by
  rw [← World.load_eq_error_iff, validate]
  cases w.load [] file <;> simp [invalidDefinitionExitCode]

open Classical in
theorem plan_code (color : Bool) (w : World) (file : String) (json : Bool) :
    (plan color w file json).1 = if w.Unusable [] file then 2 else 0 := by
  rw [← World.load_eq_error_iff, plan]
  cases w.load [] file <;> simp [invalidDefinitionExitCode]

/-- If a file is not usable, a session ends with the code 2, whatever its engine would do, and nothing has
run or is kept. If all are and no pipeline asks for more slots than can be handed out, all pipelines run,
and the code is 0 or 1, by their results. A file is validated and planned with the code 2 if a session
of it ends with that, and with 0 otherwise. -/
theorem session_all_or_nothing (color stream : Bool) {engine : Engine} (hengine : engine.Finishes)
    (reporters : List Reporter) (w : World) (o : RunOptions) :
    ((∃ file ∈ o.files, w.Unusable o.jobs file) → ∃ printed, ∀ stream engine reporters,
      session color stream engine reporters w o = (some 2, w, printed)) ∧
    ((∀ file ∈ o.files, ¬ w.Unusable o.jobs file) →
      ∃ pipelines, List.Forall₂ (w.Chosen o.jobs) o.files pipelines ∧
        ((∀ p ∈ pipelines, ∀ n ∈ o.strategy.limit p.maxParallel, n ≤ 2 ^ 61 - 1) →
          ∃ s code, ExecutesAll color stream engine reporters o (Session.start color w o pipelines)
              pipelines s ∧
            session color stream engine reporters w o =
              (some code, s.world.keeping s.outlet.store, s.outlet.printed) ∧
            (code = 0 ∨ code = 1) ∧ (code = 0 ↔ ∀ r ∈ s.results, r.overall = .passed))) ∧
    ∀ file json, let one := { o with files := [file], jobs := [] }
      (validate color w file json).1 =
          (if (session color stream engine reporters w one).1 = some 2 then 2 else 0) ∧
        (plan color w file json).1 =
          if (session color stream engine reporters w one).1 = some 2 then 2 else 0 := by
  refine ⟨fun hunusable => ?_, fun husable => ?_, fun file json => ?_⟩
  · obtain ⟨_, _, _, hsession⟩ := session_of_unusable color hunusable
    exact ⟨_, hsession⟩
  · obtain ⟨pipelines, hchosen, hsession⟩ := session_of_usable color husable
    refine ⟨pipelines, hchosen, fun hlimits => ?_⟩
    obtain ⟨hall, hcrashed⟩ := Session.foldl_runOne_executesAll color stream reporters hengine
      (s := Session.start color w o pipelines) rfl
      fun p hp => Strategy.slots?_ne_none (hlimits p hp)
    refine ⟨_, _, hall, ?_, ?_, exitCode_eq_zero_iff _⟩
    · rw [hsession]
      simp [hcrashed]
    · exact (em _).imp_right (exitCode_eq_one_iff _).2
  · have hone := session_code_eq_two_iff color stream engine reporters w
      { o with files := [file], jobs := [] }
    by_cases hunusable : w.Unusable [] file <;> simp [hone, hunusable, validate_code, plan_code]

end

end App

end JobMatrix

/-! ## A file that is there and one that is not -/

namespace JobMatrix.Small

open App CommandLine Definition

/-- The small definition as a text. -/
def smallText : String :=
  "name: small
jobs:
- name: test
  matrix:
    os: [bsd, mac]
  steps:
  - run: make
    continue_on_error: true
"

/-- Whether a text was read as the small definition. -/
def isSmall : Except Yaml.ReadFault PipelineDefinition → Bool
  | .ok ⟨"small", none, none, none, none, none, ⟨[]⟩,
      [⟨"test", [(.text "os", .list [.text "bsd", .text "mac"])], none, ⟨[]⟩, none, none,
        [⟨none, "make", true, none, ⟨[]⟩, none⟩]⟩]⟩ => true
  | _ => false

theorem eq_of_isSmall {read : Except Yaml.ReadFault PipelineDefinition} (h : isSmall read) :
    read = .ok definition := by
  unfold isSmall at h
  split at h
  · rfl
  · cases h

/-- A world with the small definition in its only file. -/
def smallWorld : World where
  files := Files.empty.putFile ["w", "small.yml"] (Utf8.encode smallText)
  directory := ["w"]
  data := ["data"]
  table := .empty
  runs := 0
  elapsed := .zero

theorem pipelineOfFile_small :
    pipelineOfFile smallWorld.files smallWorld.directory "small.yml" = .ok (definition.read ".") := by
  have htext : smallWorld.files.readText smallWorld.directory "small.yml" = .ok smallText := by
    decide +kernel
  have hread : Yaml.Reader.run readPipeline smallText = .ok definition :=
    eq_of_isSmall (by decide +kernel)
  have hload : definition.load "." = .ok (definition.read ".") :=
    PipelineDefinition.load_eq_ok_iff.2
      ⟨definition_valid (List.forall_mem_singleton.2 job_valid) (by decide) (by decide), rfl⟩
  have hbase : Path.directory "small.yml" = "." := by decide +kernel
  have hof : ofText smallText = .ok definition := by
    unfold ofText
    rw [hread]
    simp only [hload]
  unfold pipelineOfFile
  rw [htext, hbase]
  simp only [hof, bind, Except.bind, PipelineDefinition.load?, hload]

/-- To run the job of the small definition from some files. -/
def testing (files : List String) : RunOptions where
  files := files
  choice := .parallel
  maxParallel := none
  jobs := ["test"]
  noHistory := false
  json := true

theorem chosen_small : smallWorld.Chosen ["test"] "small.yml" (definition.read ".") :=
  ⟨_, pipelineOfFile_small, by decide, by decide⟩

theorem unusable_absent (jobs : List String) : smallWorld.Unusable jobs "absent.yml" := by
  have habsent : smallWorld.files.readText smallWorld.directory "absent.yml" = .error .missing := by
    decide +kernel
  exact .inl ⟨.unread "absent.yml" .missing, by rw [pipelineOfFile, habsent]⟩

/-- What the engine of a session needs. -/
def settings : EngineSettings := ⟨⟨[]⟩, RunId.mk, ⟨0, 0⟩⟩

/-- With a file that is not there nothing runs. Without it, the pipeline of the other runs. -/
theorem session_all_or_nothing_absent :
    (∃ printed, session false false (localEngine settings) (usualReporters false true) smallWorld
      (testing ["small.yml", "absent.yml"]) = (some 2, smallWorld, printed)) ∧
    ∃ s code, ExecutesAll false false (localEngine settings) (usualReporters false true)
        (testing ["small.yml"])
        (Session.start false smallWorld (testing ["small.yml"]) [definition.read "."])
        [definition.read "."] s ∧
      (session false false (localEngine settings) (usualReporters false true) smallWorld
        (testing ["small.yml"])).1 = some code ∧
      (code = 0 ↔ ∀ r ∈ s.results, r.overall = .passed) := by
  obtain ⟨hnothing, -⟩ := session_all_or_nothing false false (localEngine_finishes settings)
    (usualReporters false true) smallWorld (testing ["small.yml", "absent.yml"])
  obtain ⟨-, hall, -⟩ := session_all_or_nothing false false (localEngine_finishes settings)
    (usualReporters false true) smallWorld (testing ["small.yml"])
  refine ⟨?_, ?_⟩
  · obtain ⟨printed, hsession⟩ :=
      hnothing ⟨"absent.yml", List.mem_cons_of_mem _ List.mem_cons_self, unusable_absent _⟩
    exact ⟨printed, hsession false (localEngine settings) (usualReporters false true)⟩
  · obtain ⟨pipelines, hchosen, hruns⟩ :=
      hall (List.forall_mem_singleton.2 chosen_small.not_unusable)
    obtain ⟨p, rest, hp, hrest, rfl⟩ := List.forall₂_cons_left_iff.1 hchosen
    obtain rfl := List.forall₂_nil_left_iff.1 hrest
    obtain rfl : definition.read "." = p :=
      Except.ok.inj ((World.load_eq_ok_iff.2 chosen_small).symm.trans (World.load_eq_ok_iff.2 hp))
    obtain ⟨s, code, hexecutes, hsession, -, hcode⟩ := hruns (by
      intro p hp n hn
      obtain rfl := List.mem_singleton.1 hp
      cases hn)
    exact ⟨s, code, hexecutes, by rw [hsession], hcode⟩

end JobMatrix.Small
