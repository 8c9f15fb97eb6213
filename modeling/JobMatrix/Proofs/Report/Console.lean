import JobMatrix.Proofs.Run.Executor
import JobMatrix.Proofs.Text.Lines
import JobMatrix.Report.Console

/-!
# What the report shows of a failure

The report shows the output of a step below a job that failed exactly if one of its records is
failed and there is something to show. This record is then the last one of the job, and the failure
of the job is about it. Of each stream the report shows all lines or the last ones, and says how many
it leaves out.
-/

namespace JobMatrix.Report

open JobMatrix.Text

variable {color : Bool} {limit : Nat} {text : String} {result : JobResult} {record : StepRecord}

/-! ## Streams -/

/-- The header in place of the first lines of a text. -/
def hiddenHeader (color : Bool) (hidden : Nat) : String :=
  paint color [.dim] "[truncated]" ++ "... (" ++ toString hidden ++ " earlier lines)\n"

/-- The pieces that a stream adds to the output of a step, with at most `limit` of its lines. -/
inductive ShowsStream (color : Bool) (limit : Nat) (text : String) : List String → Prop
  /-- A blank stream is not shown. -/
  | blank (hblank : ∀ c ∈ text.toList, isBlank c = true) : ShowsStream color limit text []
  | whole {shown : List Char} {lines : List (List Char)} (htext : ∃ c ∈ text.toList, isBlank c = false)
      (hshown : IsTrimmed text.toList shown) (hlines : IsLines shown lines)
      (hfits : lines.length ≤ limit) : ShowsStream color limit text [String.ofList shown]
  | ending {shown : List Char} {hidden kept : List (List Char)}
      (htext : ∃ c ∈ text.toList, isBlank c = false) (hshown : IsTrimmed text.toList shown)
      (hlines : IsLines shown (hidden ++ kept)) (hhidden : hidden ≠ []) (hkept : kept.length = limit) :
      ShowsStream color limit text
        [hiddenHeader color hidden.length ++ "\n".intercalate (kept.map String.ofList)]

/-- The pieces that a stream makes. -/
def streamPieces (color : Bool) (limit : Nat) (text : String) : List String :=
  if isBlankText text then [] else [tail color limit (String.ofList (trimEnd text.toList))]

theorem tail_of_le (h : (lines text).length ≤ limit) : tail color limit text = text :=
  if_pos h

theorem tail_of_lt (h : limit < (lines text).length) :
    tail color limit text = hiddenHeader color ((lines text).length - limit) ++
      "\n".intercalate ((lines text).drop ((lines text).length - limit)) :=
  if_neg (Nat.not_le_of_lt h)

theorem showsStream_streamPieces (color : Bool) (limit : Nat) (text : String) :
    ShowsStream color limit text (streamPieces color limit text) := by
  unfold streamPieces
  split
  case isTrue hblank => exact .blank (List.all_eq_true.1 hblank)
  case isFalse hblank =>
    have htext : ∃ c ∈ text.toList, isBlank c = false := by
      simpa [isBlankText] using hblank
    have hshown := isTrimmed_trimEnd text.toList
    have hlines := linesFrom_eq_iff.1 (Eq.refl (linesFrom [] (trimEnd text.toList)))
    have hof : lines (String.ofList (trimEnd text.toList)) =
        (linesFrom [] (trimEnd text.toList)).map String.ofList := by
      rw [lines, String.toList_ofList]
    generalize linesFrom [] (trimEnd text.toList) = all at hlines hof
    by_cases hfits : all.length ≤ limit
    · rw [tail_of_le (by rwa [hof, List.length_map])]
      exact .whole htext hshown hlines hfits
    · -- The lines fall into those that are counted and the last ones, as many as may be shown.
      have hlt : limit < all.length := Nat.lt_of_not_le hfits
      rw [tail_of_lt (by rwa [hof, List.length_map]), hof, List.length_map, ← List.map_drop]
      have hhidden : (all.take (all.length - limit)).length = all.length - limit := by
        rw [List.length_take]
        omega
      have hkept : (all.drop (all.length - limit)).length = limit := by
        rw [List.length_drop]
        omega
      rw [← List.take_append_drop (all.length - limit) all] at hlines
      generalize all.take (all.length - limit) = hidden at hlines hhidden
      generalize all.drop (all.length - limit) = kept at hlines hkept
      rw [← hhidden]
      refine .ending htext hshown hlines ?_ hkept
      rintro rfl
      simp only [List.length_nil] at hhidden
      omega

/-- What a step wrote is shown stream by stream, and its error last. -/
def ShowsStep (color : Bool) (limit : Nat) (record : StepRecord) (shown : String) : Prop :=
  ∃ out err, ShowsStream color limit record.stdout out ∧
    ShowsStream color limit record.stderr err ∧
    shown = "\n".intercalate (out ++ err ++ (record.error.map (paint color [.red])).toList)

theorem showsStep_stepOutput (color : Bool) (limit : Nat) (record : StepRecord) :
    ShowsStep color limit record (stepOutput color limit record) :=
  ⟨_, _, showsStream_streamPieces color limit record.stdout,
    showsStream_streamPieces color limit record.stderr, rfl⟩

/-! ## Failures -/

theorem lines_eq_nil_iff : lines text = [] ↔ text = "" := by
  rw [lines, List.map_eq_nil_iff, linesFrom_eq_iff, ← String.toList_eq_nil_iff]
  generalize text.toList = cs
  constructor
  · intro h
    cases h
    rfl
  · rintro rfl
    exact .nil

/-- If only the last record of a job may be failed, the report finds it there or nowhere. -/
theorem failedRecord?_eq_some_iff
    (hbefore : ∀ record ∈ result.records.dropLast, record.status ≠ .failed) :
    failedRecord? result = some record ↔
      result.records.getLast? = some record ∧ record.status = .failed := by
  unfold failedRecord?
  generalize result.records = records at hbefore
  cases records using List.reverseRecOn with
  | nil => simp
  | append_singleton before final =>
    rw [List.dropLast_concat] at hbefore
    rw [List.reverse_append, List.reverse_singleton, List.singleton_append, List.getLast?_concat]
    -- The search meets the final record first, and finds nothing behind it.
    have hnone : before.reverse.find? (·.status == .failed) = none := by
      simpa [List.find?_eq_none] using hbefore
    by_cases hfinal : final.status = .failed
    · rw [List.find?_cons_of_pos (by simpa using hfinal)]
      constructor
      · rintro ⟨⟩
        exact ⟨rfl, hfinal⟩
      · exact And.left
    · rw [List.find?_cons_of_neg (by simpa using hfinal), hnone]
      refine iff_of_false nofun ?_
      rintro ⟨⟨⟩, hfailed⟩
      exact hfinal hfailed

/-- No two records of a job are failed. -/
theorem eq_of_failed {other : StepRecord}
    (hbefore : ∀ record ∈ result.records.dropLast, record.status ≠ .failed)
    (hlast : result.records.getLast? = some record) (hmem : other ∈ result.records)
    (hother : other.status = .failed) : other = record := by
  rw [← List.dropLast_append_getLast? record hlast] at hmem
  rcases List.mem_append.1 hmem with hmem | hmem
  · exact absurd hother (hbefore other hmem)
  · exact List.mem_singleton.1 hmem

variable {i : Instance} {workspace : Except String String} {given : List Reply}

/-- A failed record of a job that failed is the one that its failure is about. -/
theorem exists_agrees (h : i.Outcome workspace given result) (hfailed : result.status = .failed)
    (hlast : result.records.getLast? = some record) (hstatus : record.status = .failed) :
    ∃ failure step reply, result.failure = some failure ∧
      i.template.steps[result.records.length - 1]? = some step ∧ given.getLast? = some reply ∧
      i.Agrees step record reply failure := by
  obtain ⟨failure, hfailure⟩ := Option.ne_none_iff_exists'.1 (h.failed_iff.1 hfailed)
  obtain ⟨cause, hcause, -⟩ := h.cause failure hfailure
  have hmem : record ∈ result.records := List.mem_of_getLast? hlast
  -- Without a workspace there is no record, and before a cancellation between steps none is failed.
  cases cause with
  | workspace =>
    rw [hcause.2] at hmem
    cases hmem
  | step =>
    obtain ⟨step, other, reply, hstep, hother, hreply, -, hagrees⟩ := hcause
    rw [hlast] at hother
    cases hother
    exact ⟨failure, step, reply, hfailure, hstep, hreply, hagrees⟩
  | cancellation => exact absurd hstatus (hcause.2.2 record hmem)

/-- What the report shows of a job that failed: below its line, the lines of some output. -/
structure ShowsFailure (color : Bool) (i : Instance) (given : List Reply) (result : JobResult)
    (output : List String) : Prop where
  lines : jobLines color true result =
    ("  " ++ jobLine color result) :: output.map ("      " ++ ·)
  shown_iff : output ≠ [] ↔ ∃ record ∈ result.records, record.status = .failed ∧
    stepOutput color failureLines record ≠ ""
  /-- The output is that of the last record, and the failure of the job is about this record. -/
  described : output ≠ [] → ∃ record, result.records.getLast? = some record ∧
    output = Text.lines (stepOutput color failureLines record) ∧
    ∃ failure step reply, result.failure = some failure ∧
      i.template.steps[result.records.length - 1]? = some step ∧ given.getLast? = some reply ∧
      i.Agrees step record reply failure

theorem showsFailure_failureOutput (color : Bool) (h : i.Outcome workspace given result)
    (hfailed : result.status = .failed) :
    ShowsFailure color i given result (failureOutput color result) := by
  have hfind : ∀ record, failedRecord? result = some record ↔
      result.records.getLast? = some record ∧ record.status = .failed :=
    fun _ => failedRecord?_eq_some_iff h.not_failed_before
  have hlines : jobLines color true result =
      ("  " ++ jobLine color result) :: (failureOutput color result).map ("      " ++ ·) := by
    simp [jobLines, hfailed]
  cases hrecord : failedRecord? result with
  | none =>
    have houtput : failureOutput color result = [] := by
      rw [failureOutput, hrecord]
    refine ⟨hlines, ?_, fun hne => absurd houtput hne⟩
    rw [houtput]
    refine iff_of_false (fun hne => hne rfl) ?_
    rintro ⟨record, hmem, hstatus, -⟩
    -- The search goes over all records.
    have hnone := List.find?_eq_none.1 hrecord record (List.mem_reverse.2 hmem)
    simp [hstatus] at hnone
  | some record =>
    obtain ⟨hlast, hstatus⟩ := (hfind record).1 hrecord
    have houtput : failureOutput color result =
        Text.lines (stepOutput color failureLines record) := by
      rw [failureOutput, hrecord]
    refine ⟨hlines, ?_, fun _ => ⟨record, hlast, houtput, exists_agrees h hfailed hlast hstatus⟩⟩
    rw [houtput, ne_eq, lines_eq_nil_iff]
    constructor
    · intro hne
      exact ⟨record, List.mem_of_getLast? hlast, hstatus, hne⟩
    · rintro ⟨other, hmem, hother, hne⟩
      -- No other record is failed.
      rwa [eq_of_failed h.not_failed_before hlast hmem hother] at hne

/-- The report of a run has the lines of each of its jobs in a row. -/
theorem exists_console_eq (color showFailures : Bool) {run : RunResult} (h : result ∈ run.jobs) :
    ∃ before after, console color showFailures run =
      "\n".intercalate (before ++ jobLines color showFailures result ++ after) := by
  obtain ⟨jobs, jobs', hjobs⟩ := List.append_of_mem h
  have hlines : run.jobs.flatMap (jobLines color showFailures) =
      jobs.flatMap (jobLines color showFailures) ++ jobLines color showFailures result ++
        jobs'.flatMap (jobLines color showFailures) := by
    rw [hjobs, List.flatMap_append, List.flatMap_cons, List.append_assoc]
  obtain ⟨head, rest, hconsole⟩ : ∃ head rest, console color showFailures run =
      "\n".intercalate (head :: run.jobs.flatMap (jobLines color showFailures) ++ rest) :=
    ⟨_, _, by rw [console, List.append_assoc]⟩
  refine ⟨head :: jobs.flatMap (jobLines color showFailures),
    jobs'.flatMap (jobLines color showFailures) ++ rest, ?_⟩
  rw [hconsole, hlines]
  simp only [List.cons_append, List.append_assoc]

end JobMatrix.Report

namespace JobMatrix.Run

open Report

variable {s : Setup} {st last : State} {actions : List Action} {k : Nat} {i : Instance}
  {phase : Phase} {result : JobResult}

/-- The report shows output of a step below a job that failed exactly if one of its records is failed
and has output. It is the output of the last record, which the failure of the job is about. Of each
stream that is not blank it shows all lines, without blanks at the end, or the last ones below their
number; first of the output, then of the error output, and then the error. -/
theorem State.report_of_run (color : Bool) (hst : st.InOrder) (hjob : st.jobs[k]? = some ⟨i, .spawned⟩)
    (hrun : st.run s actions = some last) (hlast : last.jobs[k]? = some ⟨i, phase⟩)
    (hresult : phase.result? = some result) (hfailed : result.status = .failed) :
    (∃ output, ShowsFailure color i (replies k actions) result output ∧
      ∀ run : RunResult, result ∈ run.jobs → ∃ before after, console color true run =
        "\n".intercalate (before ++ jobLines color true result ++ after)) ∧
      ∀ limit record, ShowsStep color limit record (stepOutput color limit record) := by
  obtain ⟨phase', hsame, htraced⟩ := State.traced_of_run hst hjob hrun
  rw [hlast] at hsame
  cases hsame
  obtain ⟨workspace, -, houtcome⟩ := (htraced.ended hresult).exists_outcome
  refine ⟨⟨failureOutput color result, ?_, ?_⟩, ?_⟩
  · exact showsFailure_failureOutput color houtcome hfailed
  · intro run hmem
    exact exists_console_eq color true hmem
  · intro limit record
    exact showsStep_stepOutput color limit record

end JobMatrix.Run

/-! ## A job that ran out of time -/

namespace JobMatrix.Small

open Run Report

/-- The uneven run, in which the last command writes lines in different ways before it runs out of time. -/
def verboseRun : List Action :=
  unevenRun.dropLast ++ [.answer 0 (.ok ⟨.timedOut, "one\r\n\ntwo \n \n", "\t", ⟨30000⟩⟩)]

theorem report_of_run_verbose :
    ∃ last result, started.run (setup 1) verboseRun = some last ∧
      last.jobs[0]? = some ⟨uneven, .settled result⟩ ∧
      ShowsFailure false uneven (replies 0 verboseRun) result
        ["one", "", "two", "timed out after 30s"] := by
  have hrun : started.run (setup 1) verboseRun = some _ := rfl
  obtain ⟨⟨output, hshows, -⟩, -⟩ := State.report_of_run false inOrder_started
    (k := 0) (i := uneven) rfl hrun rfl rfl rfl
  refine ⟨_, _, rfl, rfl, ?_⟩
  have hne : output ≠ [] :=
    hshows.shown_iff.2 ⟨_, List.mem_of_getLast? rfl, rfl, by decide +kernel⟩
  obtain ⟨record, hrecord, houtput, -⟩ := hshows.described hne
  cases hrecord
  have hlines : output = ["one", "", "two", "timed out after 30s"] := by
    rw [houtput]
    decide +kernel
  rwa [hlines] at hshows

end JobMatrix.Small
