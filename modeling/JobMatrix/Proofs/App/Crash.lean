import JobMatrix.Proofs.App.Session
import JobMatrix.Proofs.Run.Playing

/-!
# Runs that crash

No definition and no command line is refused for too great a number of slots. A run for which more are
asked for than can be handed out crashes at once, and every other run of a loaded pipeline ends, on
whatever stage.
-/

namespace JobMatrix

open CommandLine (RunOptions)

/-! ## Slots asked for -/

theorem Strategy.slots?_eq_none_iff {strategy : Strategy} {declared : Option Nat} :
    strategy.slots? declared = none ↔ ∃ n ∈ strategy.limit declared, 2 ^ 61 - 1 < n := by
  constructor
  · intro hnone
    by_contra hall
    push Not at hall
    exact slots?_ne_none hall hnone
  · rintro ⟨n, hlimit, hn⟩
    have hn : ¬ n ≤ maxSlots := Nat.not_le_of_lt hn
    rw [Option.mem_def] at hlimit
    simp [slots?, hlimit, hn]

/-- More slots are asked for than can be handed out: on the command line, or by the pipeline where the
command line leaves the number to it. -/
inductive CommandLine.RunOptions.Overasks (o : RunOptions) (p : Pipeline) : Prop
  | asked {n : Nat} (hchoice : o.choice ≠ .sequential) (hasked : o.maxParallel = some n)
      (hn : 2 ^ 61 - 1 < n)
  | declared {n : Nat} (hchoice : o.choice = .parallel) (hunasked : o.maxParallel = none)
      (hdeclared : p.maxParallel = some n) (hn : 2 ^ 61 - 1 < n)

theorem CommandLine.RunOptions.slots?_eq_none_iff {o : RunOptions} {p : Pipeline} :
    o.strategy.slots? p.maxParallel = none ↔ o.Overasks p := by
  obtain ⟨_, choice, asked, _, _, _⟩ := o
  rw [Strategy.slots?_eq_none_iff]
  constructor
  · rintro ⟨n, hlimit, hn⟩
    -- A limit that is too great is the number asked for or declared, not the one that stands in for it.
    cases choice with
    | sequential =>
      cases hlimit
      omega
    | parallel =>
      cases asked with
      | some m =>
        cases hlimit
        exact .asked nofun rfl (by omega)
      | none =>
        obtain ⟨m, hdeclared, rfl⟩ := Option.map_eq_some_iff.1 hlimit
        exact .declared rfl rfl hdeclared (by omega)
    | parallelLimited =>
      cases asked with
      | some m =>
        cases hlimit
        exact .asked nofun rfl (by omega)
      | none =>
        cases hlimit
        simp [StrategyChoice.defaultLimit] at hn
  · rintro (@⟨n, hchoice, hasked, hn⟩ | @⟨n, hchoice, hunasked, hdeclared, hn⟩)
    · cases hasked
      refine ⟨max n 1, ?_, by omega⟩
      cases choice with
      | sequential => exact absurd rfl hchoice
      | parallel | parallelLimited => rfl
    · cases hchoice
      cases hunasked
      exact ⟨max n 1, Option.map_eq_some_iff.2 ⟨n, hdeclared, rfl⟩, by omega⟩

namespace App

theorem World.rightUnique_chosen {w : World} {jobs : List String} :
    Relator.RightUnique (w.Chosen jobs) := fun _ _ _ h h' =>
  Except.ok.inj ((load_eq_ok_iff.2 h).symm.trans (load_eq_ok_iff.2 h'))

section

variable {Part : Type} (stage : Stage Part) (e : EngineSettings) (color stream : Bool)
  (reporters : List Reporter) {w : World} {o : RunOptions} {pipelines : List Pipeline}

theorem Session.runOne_crashed_iff {s : Session} {p : Pipeline} :
    (s.runOne color stream (stage.engine e) reporters o p).crashed = true ↔
      s.crashed = true ∨ o.Overasks p := by
  have hcrashes := (stage.engine_result_eq_none_iff e s.world p o.strategy).trans
    RunOptions.slots?_eq_none_iff
  unfold runOne
  cases hcrashed : s.crashed with
  | true => simp [hcrashed]
  | false =>
    rw [← hcrashes]
    cases hresult : (stage.engine e s.world p o.strategy).2.result <;> simp [hresult]

theorem Session.foldl_runOne_crashed_iff (s : Session) :
    (pipelines.foldl (runOne color stream (stage.engine e) reporters o) s).crashed = true ↔
      s.crashed = true ∨ ∃ p ∈ pipelines, o.Overasks p := by
  induction pipelines generalizing s with
  | nil => simp
  | cons p pipelines ih =>
    rw [List.foldl_cons, ih, runOne_crashed_iff]
    simp [or_assoc]

/-- A session of usable files crashes exactly if one of its pipelines does. -/
theorem session_code_eq_none_iff (hchosen : List.Forall₂ (w.Chosen o.jobs) o.files pipelines) :
    (session color stream (stage.engine e) reporters w o).1 = none ↔
      ∃ p ∈ pipelines, o.Overasks p := by
  obtain ⟨others, hothers, hsession⟩ :=
    session_of_usable color (World.not_unusable_of_chosen hchosen)
  obtain rfl := List.right_unique_forall₂' World.rightUnique_chosen hchosen hothers
  have hcrashed : (pipelines.foldl (Session.runOne color stream (stage.engine e) reporters o)
      (Session.start color w o pipelines)).crashed = true ↔ ∃ p ∈ pipelines, o.Overasks p := by
    simp [Session.foldl_runOne_crashed_iff, Session.start]
  simpa [hsession] using hcrashed

end

/-- What an engine plays is a whole run, under the next identifier, on whatever stage. -/
theorem Stage.engine_plays {Part : Type} (stage : Stage Part) (e : EngineSettings) (w : World)
    {p : Pipeline} {strategy : Strategy} {slots : Nat} (hloaded : p.Loaded)
    (hslots : strategy.slots? p.maxParallel = some slots) :
    ∃ c : Run.Course, c.setup = ⟨e.runId w.runs, e.startedAt.add w.elapsed, p, slots⟩ ∧
      (stage.play w c.setup).1.completed = some c.result ∧
      (stage.engine e w p strategy).2.result = some c.result := by
  obtain ⟨c, hsetup, -, hcompleted, -⟩ :=
    Run.play_course (s := ⟨e.runId w.runs, e.startedAt.add w.elapsed, p, slots⟩) (stage.host w p)
      (stage.enter w) (stage.cancelledBefore w p) (stage.cancelAt w p) hloaded hslots
  refine ⟨c, hsetup, by rw [hsetup]; exact hcompleted, ?_⟩
  simp only [engine, hslots, play, hcompleted, Option.getD_some]

/-- A loaded pipeline crashes exactly if more slots are asked for than can be handed out. Otherwise its
runs end, with whatever number of slots the command line and the pipeline come to, and on every stage
one of them is played to its end, whatever the workspaces, the commands and the cancellation there. -/
theorem ends_unless_overasked {p : Pipeline} (hloaded : p.Loaded) (o : RunOptions) :
    (∀ (Part : Type) (stage : Stage Part) e w,
        (stage.engine e w p o.strategy).2.result = none ↔ o.Overasks p) ∧
      (¬ o.Overasks p → ∃ slots, o.strategy.slots? p.maxParallel = some slots ∧
        (∀ runId startedAt, (⟨runId, startedAt, p, slots⟩ : Setup).Ends) ∧
        ∀ (Part : Type) (stage : Stage Part) e w, ∃ c : Run.Course,
          c.setup = ⟨e.runId w.runs, e.startedAt.add w.elapsed, p, slots⟩ ∧
            (stage.play w c.setup).1.completed = some c.result ∧
            (stage.engine e w p o.strategy).2.result = some c.result) := by
  refine ⟨fun Part stage e w => ?_, fun hfits => ?_⟩
  · rw [stage.engine_result_eq_none_iff, RunOptions.slots?_eq_none_iff]
  · rw [← RunOptions.slots?_eq_none_iff] at hfits
    obtain ⟨slots, hslots⟩ := Option.ne_none_iff_exists'.1 hfits
    refine ⟨slots, hslots, fun _ _ => Setup.ends hloaded hslots, fun Part stage e w => ?_⟩
    exact stage.engine_plays e w hloaded hslots

end App

end JobMatrix

/-! ## Too many slots -/

namespace JobMatrix.Small

open App CommandLine Definition

theorem ends_unless_overasked_small :
    ∃ slots, (testing ["small.yml"]).strategy.slots? pipeline.maxParallel = some slots ∧
      (⟨⟨7⟩, ⟨0, 0⟩, pipeline, slots⟩ : Setup).Ends ∧
      ∃ c : Run.Course, c.setup.pipeline = pipeline ∧ (localEngine settings smallWorld pipeline
        (testing ["small.yml"]).strategy).2.result = some c.result := by
  have hfits : ¬ (testing ["small.yml"]).Overasks pipeline := by
    rintro (@⟨n, -, hasked, -⟩ | @⟨n, -, -, hdeclared, -⟩)
    · cases hasked
    · cases hdeclared
  obtain ⟨slots, hslots, hends, hplayed⟩ :=
    (ends_unless_overasked pipeline_loaded (testing ["small.yml"])).2 hfits
  obtain ⟨c, hsetup, -, hresult⟩ :=
    hplayed _ (shellStage settings.environment) settings smallWorld
  exact ⟨slots, hslots, hends _ _, c, by rw [hsetup], hresult⟩

/-- To run the job of the small definition with one slot too many. -/
def crowding : RunOptions :=
  { testing ["small.yml"] with maxParallel := some (2 ^ 61) }

/-- The small definition with one slot too many. -/
def crowded : PipelineDefinition :=
  { definition with maxParallel := some (2 ^ 61) }

theorem crowded_valid : crowded.Valid where
  __ := definition_valid (List.forall_mem_singleton.2 job_valid) (by decide) (by decide)
  maxParallel_ne_zero := by decide

/-- The command line and the file are fine, and so is a definition that declares the number itself, but
neither run gets off the ground. -/
theorem crashes_crowded :
    (CommandLine.parse ["run", "-f", "small.yml", "--job", "test", "--json", "--max-parallel",
        "2305843009213693952"] = .ok ⟨.run crowding, false, false⟩ ∧
      smallWorld.load ["test"] "small.yml" = .ok (definition.read ".") ∧
      (localEngine settings smallWorld (definition.read ".") crowding.strategy).2.result = none ∧
      (session false false (localEngine settings) (usualReporters false true) smallWorld
        crowding).1 = none) ∧
    (CommandLine.parse ["run", "-f", "small.yml", "--job", "test", "--json"] =
        .ok ⟨.run (testing ["small.yml"]), false, false⟩ ∧
      crowded.load "." = .ok (crowded.read ".") ∧
      (localEngine settings smallWorld (crowded.read ".")
        (testing ["small.yml"]).strategy).2.result = none) := by
  have hasked : crowding.Overasks (definition.read ".") := .asked nofun rfl (by decide)
  have hdeclared : (testing ["small.yml"]).Overasks (crowded.read ".") :=
    .declared rfl rfl rfl (by decide)
  have hcrashes {p : Pipeline} {strategy : Strategy} (h : strategy.slots? p.maxParallel = none) :
      (localEngine settings smallWorld p strategy).2.result = none :=
    ((shellStage _).engine_result_eq_none_iff settings smallWorld p strategy).2 h
  refine ⟨⟨?_, ?_, ?_, ?_⟩, ?_, ?_, ?_⟩
  · decide +kernel
  · exact World.load_eq_ok_iff.2 chosen_small
  · exact hcrashes (RunOptions.slots?_eq_none_iff.2 hasked)
  · exact (session_code_eq_none_iff (shellStage _) settings false false (usualReporters false true)
      (.cons chosen_small .nil)).2 ⟨_, List.mem_singleton_self _, hasked⟩
  · decide +kernel
  · exact PipelineDefinition.load_eq_ok_iff.2 ⟨crowded_valid, rfl⟩
  · exact hcrashes (RunOptions.slots?_eq_none_iff.2 hdeclared)

end JobMatrix.Small
