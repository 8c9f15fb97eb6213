import JobMatrix.Proofs.Definition.Ascending
import JobMatrix.Proofs.Definition.Bound
import JobMatrix.Proofs.Run.Calls
import JobMatrix.Proofs.Run.Course

/-!
# What a definition asks for

A request is put together in three places: loading merges timeouts and directories, an instance
brings its binding, and a run adds the workspace. Read off the definition it is a choice of the
innermost setting for each of its parts. A job makes one such request for each step that it
reaches and does not skip, in the order of the steps.
-/

namespace JobMatrix

namespace Definition

open JobMatrix.Yaml

variable {base : String} {d : PipelineDefinition} {j : JobDefinition} {s : StepDefinition}
  {i : Instance}

/-- The value of a variable for the commands of a step: the first one of those that the step sets,
that tell of the job, that show an axis, that the job sets and that the pipeline sets. -/
def valueFor? (d : PipelineDefinition) (j : JobDefinition) (s : StepDefinition) (i : Instance)
    (path name : String) : Option String :=
  (s.env.get? name).map Value.scalarText
    <|> i.ownVariable? path name
    <|> lastValue? i.binding.environment name
    <|> (j.env.get? name).map Value.scalarText
    <|> (d.env.get? name).map Value.scalarText

/-- A request is the one that a definition describes for a step of a job and a binding. -/
structure Describes (base : String) (d : PipelineDefinition) (j : JobDefinition)
    (s : StepDefinition) (i : Instance) (path : String) (r : Request) : Prop where
  command : r.command = Placeholder.render s.run i.binding
  timeoutSecs : r.timeoutSecs = (s.timeoutSecs <|> j.timeoutSecs <|> d.defaultTimeoutSecs)
  workingDirectory :
    r.workingDirectory = Path.join base ((j.workingDirectory <|> d.workingDirectory).getD ".")
  env : ∀ name, r.env.get? name = valueFor? d j s i path name

/-- The request of an instance of a job that was read is the one that its definition describes. -/
theorem describes_request (hd : d.Ascending) (hj : j ∈ d.jobs) (hs : s ∈ j.steps)
    (htemplate : i.template = j.read d.defaultTimeoutSecs base) (index : Nat) (path : String) :
    Describes base d j s i path (i.request (d.read base) path (s.read index)) where
  command := rfl
  timeoutSecs := by
    simp only [Instance.request, Instance.timeout, htemplate]
    rfl
  workingDirectory := by
    simp only [Instance.request, htemplate, JobDefinition.read, PipelineDefinition.read]
    cases j.workingDirectory <;> rfl
  env := by
    intro name
    have hjob := hd.jobs j hj
    have henv : i.template.env = textsOf j.env := by rw [htemplate]; rfl
    have hpipeline : (d.read base).env.get? name = (d.env.get? name).map Value.scalarText :=
      get?_textsOf d.env name
    have hstep := lastValue?_textsOf (hjob.steps s hs) name
    rw [Instance.get?_request, henv, lastValue?_textsOf hjob.env, hpipeline]
    simp only [StepDefinition.read, hstep, valueFor?, Option.orElse_eq_orElse, Option.orElse_eq_or]

end Definition

namespace Run

open Definition

variable {k : Nat} {i : Instance}

/-- The records of a job that does not abort and the calls that it made are in line. -/
theorem Course.answered (c : Course) (hi : c.instances[k]? = some i) (hkept : .abort k ∉ c.actions) :
    ∃ entry, c.result.jobs[k]? = some entry ∧
      List.Forall₂ (Answered c.setup.pipeline i (workspaces k c.actions)) (unskipped entry.records)
        (callsOf k c.last.calls) := by
  obtain ⟨phase, hjob, hdone, haccounts, hentry⟩ := c.exists_job hi
  have hcalls := State.calls_of_after c.reached hjob
  refine ⟨_, hentry, ?_⟩
  generalize callsOf k c.last.calls = calls at hcalls ⊢
  cases phase with
  -- A job that is not started has no records and makes no calls.
  | skipped result =>
    cases hcalls
    obtain ⟨-, ⟨-, rfl⟩ | ⟨-, -, rfl⟩⟩ := haccounts
    · exact .nil
    · exact .nil
  | published result => cases hcalls with | published hcalls => exact hcalls
  | aborted => exact absurd haccounts.2.1 hkept
  | waiting | spawned | working _ _ _ | settled _ | released _ => cases hdone

/-- A job that does not abort asks for the commands of the steps that it reaches and does not skip,
once for each in their order, with the requests that the definition describes. Environments in order
are all that a definition can have; the values behind them carry no proof of it. -/
theorem Course.requests_described (c : Course) {base : String} {d : PipelineDefinition}
    (hload : d.load base = .ok c.setup.pipeline) (hd : d.Ascending)
    (hi : c.instances[k]? = some i) (hkept : .abort k ∉ c.actions) :
    ∃ j ∈ d.jobs, j.name = i.template.name ∧ ∃ entry, c.result.jobs[k]? = some entry ∧
      List.Forall₂
        (fun record call => record.index = call.step ∧ record.command = call.request.command ∧
          ∃ s path, j.steps[call.step]? = some s ∧ workspaces k c.actions = [.ok path] ∧
            Describes base d j s i path call.request)
        (unskipped entry.records) (callsOf k c.last.calls) := by
  obtain ⟨-, hread⟩ := PipelineDefinition.load_eq_ok_iff.1 hload
  have htemplate : i.template ∈ (d.read base).templates := by
    rw [hread]
    exact (Pipeline.mem_instances.1 (List.mem_of_getElem? hi)).1
  obtain ⟨j, hj, hjob⟩ := List.mem_map.1 htemplate
  obtain ⟨entry, hentry, hanswered⟩ := c.answered hi hkept
  refine ⟨j, hj, by rw [← hjob]; rfl, entry, hentry, hanswered.imp ?_⟩
  rintro record call ⟨step, ⟨hstep, path, hworkspaces, hrequest⟩, hindex, -, hcommand⟩
  have hsteps : i.template.steps = j.steps.mapIdx StepDefinition.read := by rw [← hjob]; rfl
  rw [hsteps, List.getElem?_mapIdx, Option.map_eq_some_iff] at hstep
  obtain ⟨s, hs, rfl⟩ := hstep
  refine ⟨hindex, ?_, s, path, hs, hworkspaces, ?_⟩
  · rw [hcommand, hrequest]
    rfl
  · rw [hrequest, ← hread]
    exact describes_request hd hj (List.mem_of_getElem? hs) hjob.symm _ path

end Run

end JobMatrix

/-! ## A job with settings at every level -/

namespace JobMatrix.Small

open Definition Run Yaml

/-- A job that skips its first step on the system it runs on. -/
def layeredJob : JobDefinition where
  name := "build"
  axes := [(.text "os", .list [.text "bsd"])]
  condition := none
  env := ⟨[("CC", .text "cc"), ("MATRIX_OS", .text "any")]⟩
  workingDirectory := none
  timeoutSecs := some 60
  steps := [⟨some "lint", "make", false, some "!(matrix.os == 'bsd')", ⟨[]⟩, none⟩,
    ⟨none, "make", false, none, ⟨[("CC", .text "clang"), ("TMPDIR", .text "/scratch")]⟩, none⟩]

/-- A pipeline whose settings are overruled in part by those of its job and of a step. -/
def layeredDefinition : PipelineDefinition :=
  { definition with
    workingDirectory := some "src"
    defaultTimeoutSecs := some 90
    env := ⟨[("CC", .text "gcc"), ("LANG", .text "C")]⟩
    jobs := [layeredJob] }

def layeredTemplate : Template where
  name := "build"
  steps := [
    ⟨"lint", "make", false, some (.not (.compare (.axis "os") .equal (.value "bsd"))), ⟨[]⟩, none⟩,
    ⟨"step 2", "make", false, none, ⟨[("CC", "clang"), ("TMPDIR", "/scratch")]⟩, none⟩]
  axes := [("os", ["bsd"])]
  condition := none
  env := ⟨[("CC", "cc"), ("MATRIX_OS", "any")]⟩
  workingDirectory := none
  timeoutSecs := some 60

def layeredPipeline : Pipeline where
  name := "small"
  templates := [layeredTemplate]
  env := ⟨[("CC", "gcc"), ("LANG", "C")]⟩
  workingDirectory := "/w/src"
  shell := none
  maxParallel := none

theorem layeredJob_valid : layeredJob.Valid where
  name_not_blank := by decide
  steps_ne_nil := List.cons_ne_nil _ _
  axes := by
    intro axis haxis
    obtain rfl := List.mem_singleton.1 haxis
    exact validAxis_texts "os" ["bsd"] (by decide) (by decide) (by decide)
  condition := validCondition_none _
  steps := by
    intro s hs
    simp only [layeredJob, List.mem_cons, List.not_mem_nil, or_false] at hs
    rcases hs with rfl | rfl
    · refine ⟨by decide, by simp [axes_make], ?_, validEnv_empty⟩
      rintro text ⟨⟩
      exact ⟨_, parse_stepGuard, by decide⟩
    · refine ⟨by decide, by simp [axes_make], validCondition_none _, ?_⟩
      simp [ValidEnv, Value.IsScalar]
  env := by simp [layeredJob, ValidEnv, Value.IsScalar]

theorem layered_load : layeredDefinition.load "/w" = .ok layeredPipeline := by
  refine PipelineDefinition.load_eq_ok_iff.2 ⟨?_, ?_⟩
  · exact {
      name_not_blank := by decide
      maxParallel_ne_zero := by simp [layeredDefinition, definition]
      shell := by simp [layeredDefinition, definition]
      jobs_distinct := by decide
      jobs := List.forall_mem_singleton.2 layeredJob_valid
      instances_distinct := by decide
      env := by simp [layeredDefinition, ValidEnv, Value.IsScalar] }
  · have hguard : parsed (some "!(matrix.os == 'bsd')") =
        some (.not (.compare (.axis "os") .equal (.value "bsd"))) := by
      simp [parsed, parse_stepGuard, Except.toOption]
    have hjob : layeredJob.read (some 90) "/w" = layeredTemplate := by
      simp only [JobDefinition.read, layeredJob, List.mapIdx_cons, List.mapIdx_nil,
        StepDefinition.read, hguard]
      rfl
    simp only [PipelineDefinition.read, layeredDefinition, List.map_cons, List.map_nil, hjob]
    rfl

theorem layered_ascending : layeredDefinition.Ascending where
  env := by decide
  jobs := by
    intro j hj
    obtain rfl := List.mem_singleton.1 hj
    refine ⟨by decide, fun s hs => ?_⟩
    simp only [layeredJob, List.mem_cons, List.not_mem_nil, or_false] at hs
    rcases hs with rfl | rfl
    · decide
    · decide

def layeredRun : List Action :=
  [.dispatch, .begin 0 (.ok "/tmp/0"), .decide 0, .decide 0,
    .answer 0 (.ok ⟨.exited (some 0), "", "", ⟨5⟩⟩), .decide 0, .release 0, .publish 0,
    .collect, .collect, .collect, .collect, .collect]

def layeredSetup : Setup where
  runId := ⟨7⟩
  startedAt := ⟨0, 0⟩
  pipeline := layeredPipeline
  slots := 1

theorem layeredRun_possible : (State.after layeredSetup layeredRun).isSome = true := rfl

def layered : Course where
  setup := layeredSetup
  strategy := .sequential
  actions := layeredRun
  last := (State.after layeredSetup layeredRun).get layeredRun_possible
  loaded := .load layered_load
  slots := slots?_sequential
  reached := (Option.some_get layeredRun_possible).symm
  ended := rfl

/-- The step that is not skipped makes the only request, with the innermost setting for each part. -/
theorem requests_described_layered : ∃ entry call, layered.result.jobs[0]? = some entry ∧
    entry.records.map StepRecord.status = [.skipped, .passed] ∧
    callsOf 0 layered.last.calls = [call] ∧ call.step = 1 ∧ call.request.timeoutSecs = some 60 ∧
    call.request.workingDirectory = "/w/src" ∧ call.request.env.get? "CC" = some "clang" ∧
    call.request.env.get? "TMPDIR" = some "/scratch" ∧
    call.request.env.get? "PIPELINE_JOB_DIR" = some "/tmp/0" ∧
    call.request.env.get? "MATRIX_OS" = some "bsd" ∧ call.request.env.get? "LANG" = some "C" ∧
    call.request.env.get? "PATH" = none := by
  obtain ⟨j, hj, -, entry, hentry, hlined⟩ := Course.requests_described layered layered_load
    layered_ascending (k := 0) rfl (by simp [layered, layeredRun])
  obtain rfl := List.mem_singleton.1 hj
  have hcalls : callsOf 0 layered.last.calls = [_] := rfl
  rw [hcalls] at hlined
  obtain ⟨record, rest, ⟨-, -, s, path, hs, hpath, hdescribes⟩, -, -⟩ :=
    List.forall₂_cons_right_iff.1 hlined
  cases hs
  cases hpath
  cases hentry
  refine ⟨_, _, rfl, rfl, hcalls, rfl, hdescribes.timeoutSecs, hdescribes.workingDirectory,
    ?_, ?_, ?_, ?_, ?_, ?_⟩
  · exact (hdescribes.env "CC").trans (by decide)
  · exact (hdescribes.env "TMPDIR").trans (by decide)
  · exact (hdescribes.env "PIPELINE_JOB_DIR").trans (by decide)
  · exact (hdescribes.env "MATRIX_OS").trans (by decide)
  · exact (hdescribes.env "LANG").trans (by decide)
  · exact (hdescribes.env "PATH").trans (by decide)

end JobMatrix.Small
