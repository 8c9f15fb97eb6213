import JobMatrix.History.Ephemeral
import Mathlib.Data.List.Basic
import Mathlib.Data.List.Nodup
import Mathlib.Data.String.Basic

/-!
# Runs and their index

An ephemeral history keeps the latest summary of each run, but its index keeps the pipeline under
which a run was first saved. So a pipeline lists the runs that were first saved under its name, each
once and with its latest summary, which may name another pipeline by then. As long as no run moves to
another pipeline, the index stays in step with the summaries.
-/

namespace JobMatrix.History

/-! ## What was saved -/

/-- The latest of some saved summaries of a run. -/
def latest? (saves : List RunSummary) (id : RunId) : Option RunSummary :=
  saves.reverse.find? (·.runId == id)

/-- The pipeline under which a run was first saved. -/
def home? (saves : List RunSummary) (id : RunId) : Option String :=
  (saves.find? (·.runId == id)).map (·.pipeline)

/-- No run is saved under two pipelines. -/
def Steady (saves : List RunSummary) : Prop :=
  ∀ s ∈ saves, ∀ s' ∈ saves, s.runId = s'.runId → s.pipeline = s'.pipeline

/-- No summary is of a run that started after that of an earlier one in the list. -/
def NewestFirst (summaries : List RunSummary) : Prop :=
  summaries.Pairwise fun s s' => s.startedAt.lt s'.startedAt = false

instance (saves : List RunSummary) : Decidable (Steady saves) :=
  inferInstanceAs (Decidable (∀ s ∈ saves, ∀ s' ∈ saves, _))

variable {saves : List RunSummary} {s : RunSummary} {id : RunId} {n : String}

theorem latest?_concat (saves : List RunSummary) (s : RunSummary) (id : RunId) :
    latest? (saves ++ [s]) id = if s.runId = id then some s else latest? saves id := by
  by_cases hid : s.runId = id <;> simp [latest?, hid]

theorem home?_concat (saves : List RunSummary) (s : RunSummary) (id : RunId) :
    home? (saves ++ [s]) id =
      (home? saves id).or (if s.runId = id then some s.pipeline else none) := by
  rw [home?, List.find?_append]
  by_cases hid : s.runId = id
  · cases hfound : saves.find? (·.runId == id) <;> simp [home?, hfound, hid]
  · simp [home?, hid]

/-- A run has a latest summary exactly if it has a first one. -/
theorem latest?_eq_none_iff : latest? saves id = none ↔ home? saves id = none := by
  simp [latest?, home?]

theorem mem_of_latest? (h : latest? saves id = some s) : s ∈ saves :=
  List.mem_reverse.1 (List.mem_of_find?_eq_some h)

/-- In a steady history, a run is at home where its latest summary says. -/
theorem Steady.home?_eq (hsteady : Steady saves) (h : latest? saves s.runId = some s) :
    home? saves s.runId = some s.pipeline := by
  cases hhome : saves.find? (·.runId == s.runId) with
  | none =>
    have hnone : home? saves s.runId = none := by rw [home?, hhome, Option.map_none]
    rw [latest?_eq_none_iff.2 hnone] at h
    contradiction
  | some first =>
    rw [home?, hhome, Option.map_some]
    exact congrArg some (hsteady first (List.mem_of_find?_eq_some hhome) s (mem_of_latest? h)
      (by simpa using List.find?_some hhome))

/-! ## Sorting -/

theorem newestFirst_mergeSort (summaries : List RunSummary) :
    NewestFirst (summaries.mergeSort fun s s' => !s.startedAt.lt s'.startedAt) := by
  have htrans : ∀ s₁ s₂ s₃ : RunSummary, (!s₁.startedAt.lt s₂.startedAt) = true →
      (!s₂.startedAt.lt s₃.startedAt) = true → (!s₁.startedAt.lt s₃.startedAt) = true := by
    intro s₁ s₂ s₃
    simp only [Timestamp.lt, Bool.not_eq_true', Bool.or_eq_false_iff, Bool.and_eq_false_iff,
      decide_eq_false_iff_not, beq_eq_false_iff_ne]
    omega
  have htotal : ∀ s₁ s₂ : RunSummary,
      (!s₁.startedAt.lt s₂.startedAt || !s₂.startedAt.lt s₁.startedAt) = true := by
    intro s₁ s₂
    simp only [Timestamp.lt, Bool.or_eq_true, Bool.not_eq_true', Bool.or_eq_false_iff,
      Bool.and_eq_false_iff, decide_eq_false_iff_not, beq_eq_false_iff_ne]
    omega
  exact (List.pairwise_mergeSort htrans htotal summaries).imp fun h => by simpa using h

theorem ascending_mergeSort (names : List String) :
    (names.mergeSort (· ≤ ·)).Pairwise (· ≤ ·) := by
  have hsorted : (names.mergeSort (· ≤ ·)).Pairwise fun n n' => decide (n ≤ n') = true :=
    List.pairwise_mergeSort (by simpa using fun _ _ _ => le_trans) (by simpa using le_total) names
  exact hsorted.imp of_decide_eq_true

namespace Ephemeral

/-! ## The index -/

theorem indexed_addToIndex (runs : List RunSummary) (index : List (String × List RunId))
    (pipeline : String) (id : RunId) (n : String) :
    indexed ⟨runs, addToIndex pipeline id index⟩ n =
      indexed ⟨runs, index⟩ n ++ if pipeline = n then [id] else [] := by
  -- The entry that grows and the entry that is looked up may be found at different places.
  induction index with
  | nil => by_cases hn : pipeline = n <;> simp [indexed, addToIndex, hn]
  | cons entry index ih =>
    obtain ⟨name, ids⟩ := entry
    by_cases hname : name = pipeline
    · subst hname
      by_cases hn : name = n <;> simp [indexed, addToIndex, hn]
    · by_cases hn : name = n
      · subst hn
        simp [indexed, addToIndex, hname, Ne.symm hname]
      · simpa [indexed, addToIndex, hname, hn] using ih

theorem names_addToIndex (index : List (String × List RunId)) (pipeline : String) (id : RunId) :
    (addToIndex pipeline id index).map (·.1) =
      if pipeline ∈ index.map (·.1) then index.map (·.1) else index.map (·.1) ++ [pipeline] := by
  induction index with
  | nil => rfl
  | cons entry index ih =>
    obtain ⟨name, ids⟩ := entry
    by_cases hname : name = pipeline
    · simp [addToIndex, hname]
    · rw [addToIndex, if_neg hname, List.map_cons, ih]
      by_cases hmem : pipeline ∈ index.map (·.1) <;> simp [hmem, Ne.symm hname]

/-! ## Saving -/

/-- The history has the latest summaries, and its index has the runs at home in each pipeline. -/
structure Keeps (saves : List RunSummary) (h : Ephemeral) : Prop where
  ids_nodup : (h.runs.map (·.runId)).Nodup
  load?_eq : ∀ id, h.load? id = latest? saves id
  names_nodup : (h.index.map (·.1)).Nodup
  mem_names : ∀ n, n ∈ h.index.map (·.1) ↔ h.indexed n ≠ []
  indexed_nodup : ∀ n, (h.indexed n).Nodup
  mem_indexed : ∀ n id, id ∈ h.indexed n ↔ home? saves id = some n

theorem Keeps.empty : Keeps [] empty where
  ids_nodup := List.nodup_nil
  load?_eq _ := rfl
  names_nodup := List.nodup_nil
  mem_names _ := by simp [Ephemeral.empty, indexed]
  indexed_nodup _ := List.nodup_nil
  mem_indexed _ _ := by simp [Ephemeral.empty, indexed, home?]

theorem load?_save (h : Ephemeral) (s : RunSummary) (id : RunId) :
    (h.save s).load? id = if s.runId = id then some s else h.load? id := by
  have hkept : (h.runs.filter (·.runId != s.runId)).find? (·.runId == id) =
      if s.runId = id then none else h.load? id := by
    rw [List.find?_filter]
    split
    case isTrue hid => simp [hid]
    case isFalse hid =>
      unfold load?
      congr 1
      funext run
      by_cases hrun : run.runId = id <;> simp [hrun, Ne.symm hid]
  rw [load?, save, List.find?_append, hkept]
  by_cases hid : s.runId = id <;> simp [hid]

theorem ids_nodup_save {h : Ephemeral} (hnodup : (h.runs.map (·.runId)).Nodup) (s : RunSummary) :
    ((h.save s).runs.map (·.runId)).Nodup := by
  rw [save, List.map_append, List.nodup_append]
  refine ⟨hnodup.sublist (List.filter_sublist.map _), List.nodup_singleton _, ?_⟩
  simp only [List.mem_map, List.mem_filter, bne_iff_ne, ne_eq, List.mem_singleton]
  rintro _ ⟨run, ⟨-, hne⟩, rfl⟩ _ ⟨_, rfl, rfl⟩
  exact hne

theorem indexed_save (h : Ephemeral) (s : RunSummary) (n : String) :
    (h.save s).indexed n =
      h.indexed n ++ if h.load? s.runId = none ∧ s.pipeline = n then [s.runId] else [] := by
  cases hload : h.load? s.runId with
  | none =>
    have hindexed := indexed_addToIndex (h.save s).runs h.index s.pipeline s.runId n
    simpa [save, hload, indexed] using hindexed
  | some _ => simp [save, hload, indexed]

theorem mem_indexed_save (h : Ephemeral) (s : RunSummary) (n : String) (id : RunId) :
    id ∈ (h.save s).indexed n ↔
      id ∈ h.indexed n ∨ h.load? s.runId = none ∧ s.pipeline = n ∧ s.runId = id := by
  rw [indexed_save, List.mem_append]
  by_cases hnew : h.load? s.runId = none ∧ s.pipeline = n
  · simp [hnew, eq_comm]
  · rw [if_neg hnew, ← and_assoc]
    simp [hnew]

theorem names_nodup_save {h : Ephemeral} (hnodup : (h.index.map (·.1)).Nodup) (s : RunSummary) :
    ((h.save s).index.map (·.1)).Nodup := by
  cases hload : h.load? s.runId with
  | none =>
    simp only [save, hload, Option.isNone_none, if_true, names_addToIndex]
    split
    case isTrue => exact hnodup
    case isFalse hmem => simpa using hnodup.concat hmem
  | some _ => simpa [save, hload] using hnodup

theorem mem_names_save (h : Ephemeral) (s : RunSummary) (n : String) :
    n ∈ (h.save s).index.map (·.1) ↔
      n ∈ h.index.map (·.1) ∨ h.load? s.runId = none ∧ s.pipeline = n := by
  cases hload : h.load? s.runId with
  | none =>
    simp only [save, hload, Option.isNone_none, if_true, names_addToIndex]
    split
    case isTrue hmem => exact ⟨.inl, fun hn => hn.elim id fun heq => heq.2 ▸ hmem⟩
    case isFalse => simp [eq_comm]
  | some _ => simp [save, hload]

/-- Saving keeps the index, whether the run is new or not. -/
theorem Keeps.save {h : Ephemeral} (hkeeps : Keeps saves h) (s : RunSummary) :
    Keeps (saves ++ [s]) (h.save s) := by
  -- A run has a summary exactly if it has a home, so the index grows by the runs without one.
  have hnew : h.load? s.runId = none ↔ home? saves s.runId = none := by
    rw [hkeeps.load?_eq, latest?_eq_none_iff]
  refine ⟨ids_nodup_save hkeeps.ids_nodup s, fun id => ?_, names_nodup_save hkeeps.names_nodup s,
    fun n => ?_, fun n => ?_, fun n id => ?_⟩
  · rw [load?_save, latest?_concat, hkeeps.load?_eq]
  · rw [mem_names_save, hkeeps.mem_names, indexed_save]
    split <;> simp_all
  · rw [indexed_save]
    split
    case isTrue h' =>
      have hfresh : s.runId ∉ h.indexed n := by
        rw [hkeeps.mem_indexed, hnew.1 h'.1]
        nofun
      simpa using (hkeeps.indexed_nodup n).concat hfresh
    case isFalse => simpa using hkeeps.indexed_nodup n
  · rw [mem_indexed_save, hkeeps.mem_indexed, hnew, home?_concat]
    by_cases hid : s.runId = id
    · subst hid
      cases home? saves s.runId <;> simp
    · simp [hid]

theorem Keeps.foldl {h : Ephemeral} (hkeeps : Keeps saves h) (more : List RunSummary) :
    Keeps (saves ++ more) (more.foldl Ephemeral.save h) := by
  induction more generalizing saves h with
  | nil => simpa using hkeeps
  | cons s more ih => simpa using ih (hkeeps.save s)

/-! ## Listing -/

theorem runId_of_load? {h : Ephemeral} (hload : h.load? id = some s) : s.runId = id := by
  simpa using List.find?_some hload

/-- The summaries of some runs that all have one are theirs in order. -/
theorem ids_filterMap_load? {h : Ephemeral} {ids : List RunId}
    (hloads : ∀ id ∈ ids, h.load? id ≠ none) : (ids.filterMap h.load?).map (·.runId) = ids := by
  induction ids with
  | nil => rfl
  | cons id ids ih =>
    obtain ⟨s, hload⟩ := Option.ne_none_iff_exists'.1 (hloads id List.mem_cons_self)
    rw [List.filterMap_cons_some hload, List.map_cons, runId_of_load? hload,
      ih fun id' h' => hloads id' (List.mem_cons_of_mem id h')]

variable {h : Ephemeral}

theorem Keeps.mem_list (hkeeps : Keeps saves h) :
    s ∈ h.list n ↔ h.load? s.runId = some s ∧ home? saves s.runId = some n := by
  simp only [list, List.mem_mergeSort, List.mem_filterMap, hkeeps.mem_indexed]
  constructor
  · rintro ⟨id, hhome, hload⟩
    obtain rfl := runId_of_load? hload
    exact ⟨hload, hhome⟩
  · rintro ⟨hload, hhome⟩
    exact ⟨s.runId, hhome, hload⟩

/-- In a steady history, a pipeline lists the latest summaries that name it. -/
theorem Keeps.mem_list_of_steady (hkeeps : Keeps saves h) (hsteady : Steady saves) :
    s ∈ h.list n ↔ h.load? s.runId = some s ∧ s.pipeline = n := by
  rw [hkeeps.mem_list]
  refine and_congr_right fun hload => ?_
  rw [hkeeps.load?_eq] at hload
  rw [hsteady.home?_eq hload, Option.some_inj]

/-- A pipeline lists the runs that the index has for it. -/
theorem Keeps.ids_list (hkeeps : Keeps saves h) (n : String) :
    ((h.list n).map (·.runId)).Perm (h.indexed n) := by
  have hloads : ∀ id ∈ h.indexed n, h.load? id ≠ none := by
    intro id hid
    rw [hkeeps.mem_indexed] at hid
    rw [hkeeps.load?_eq, ne_eq, latest?_eq_none_iff, hid]
    nofun
  have hsorted := (List.mergeSort_perm ((h.indexed n).filterMap h.load?)
    fun s s' => !s.startedAt.lt s'.startedAt).map (·.runId)
  rwa [ids_filterMap_load? hloads] at hsorted

theorem Keeps.ids_nodup_list (hkeeps : Keeps saves h) (n : String) :
    ((h.list n).map (·.runId)).Nodup :=
  (hkeeps.ids_list n).nodup_iff.2 (hkeeps.indexed_nodup n)

theorem Keeps.mem_pipelines (hkeeps : Keeps saves h) : n ∈ h.pipelines ↔ h.list n ≠ [] := by
  have hlength := (hkeeps.ids_list n).length_eq
  rw [List.length_map] at hlength
  rw [pipelines, List.mem_mergeSort, hkeeps.mem_names, ← List.length_pos_iff, ← List.length_pos_iff,
    hlength]

theorem Keeps.pipelines_ascending (hkeeps : Keeps saves h) : h.pipelines.Pairwise (· < ·) := by
  have hdistinct : h.pipelines.Nodup :=
    (List.mergeSort_perm _ _).nodup_iff.2 hkeeps.names_nodup
  exact ((ascending_mergeSort _).and hdistinct).imp fun hle => lt_of_le_of_ne hle.1 hle.2

/-- A pipeline lists the runs that were first saved under its name, each once, with its latest summary
and newest first. The pipelines are those that list runs, in ascending order. If no run is saved under
two pipelines, a pipeline lists the latest summaries that name it. -/
theorem list_after_saves (saves : List RunSummary) (n : String) :
    let h := saves.foldl Ephemeral.save empty
    (∀ s, s ∈ h.list n ↔ h.load? s.runId = some s ∧ home? saves s.runId = some n) ∧
      ((h.list n).map (·.runId)).Nodup ∧ NewestFirst (h.list n) ∧
      h.pipelines.Pairwise (· < ·) ∧ (n ∈ h.pipelines ↔ h.list n ≠ []) ∧
      (Steady saves → ∀ s, s ∈ h.list n ↔ h.load? s.runId = some s ∧ s.pipeline = n) := by
  have hkeeps := Keeps.empty.foldl saves
  rw [List.nil_append] at hkeeps
  refine ⟨fun s => hkeeps.mem_list, hkeeps.ids_nodup_list n, newestFirst_mergeSort _,
    hkeeps.pipelines_ascending, hkeeps.mem_pipelines, fun hsteady s => ?_⟩
  exact hkeeps.mem_list_of_steady hsteady

end Ephemeral

end JobMatrix.History

/-! ## A run that moves -/

namespace JobMatrix.Small

open History

/-- A run of a pipeline without jobs. -/
def emptyRun (pipeline : String) (cancelled : Bool) (seconds : Int) : RunSummary where
  runId := ⟨7⟩
  pipeline := pipeline
  verdict := if cancelled then .failed else .passed
  cancelled := cancelled
  startedAt := ⟨seconds, 0⟩
  finishedAt := ⟨seconds + 1, 0⟩
  total := 0
  passed := 0
  failed := 0
  skipped := 0
  jobs := []

/-- A run that is saved again, cancelled by then, is listed as it was saved last. -/
theorem list_after_saves_resaved :
    let saves := [emptyRun "ci" false 5, emptyRun "ci" true 9]
    let h := saves.foldl Ephemeral.save Ephemeral.empty
    Steady saves ∧ emptyRun "ci" true 9 ∈ h.list "ci" ∧ emptyRun "ci" false 5 ∉ h.list "ci" := by
  intro saves h
  have hsteady : Steady saves := by decide
  obtain ⟨-, -, -, -, -, hlist⟩ := Ephemeral.list_after_saves saves "ci"
  refine ⟨hsteady, (hlist hsteady _).2 (by decide), fun hmem => ?_⟩
  exact absurd ((hlist hsteady _).1 hmem) (by decide)

/-- A run that is saved again under another pipeline is still listed under the first one only. -/
theorem list_after_saves_moved :
    let h := [emptyRun "ci" false 5, emptyRun "nightly" false 5].foldl Ephemeral.save Ephemeral.empty
    h.load? ⟨7⟩ = some (emptyRun "nightly" false 5) ∧ h.list "nightly" = [] ∧
      h.list "ci" = [emptyRun "nightly" false 5] ∧ h.pipelines = ["ci"] := by
  exact ⟨by decide, List.mergeSort_nil, List.mergeSort_singleton _, List.mergeSort_singleton _⟩

end JobMatrix.Small
