import JobMatrix.App.Archive
import JobMatrix.Proofs.History.Agreement

/-!
# The newest runs

The runs that a history shows are taken from a table that answers by the names of pipelines only. Its
rows are split by these names, each row in one part, so the listings of all pipelines together have
every run once; sorted again and cut off, they leave out no run that is newer than one they have.
-/

namespace JobMatrix

/-- The parts of a list by a key are together the list. -/
theorem perm_flatMap_filter {α β : Type} [DecidableEq β] {f : α → β} {l : List α} {keys : List β}
    (hl : l.Nodup) (hkeys : keys.Nodup) (hcover : ∀ a ∈ l, f a ∈ keys) :
    (keys.flatMap fun b => l.filter (f · == b)).Perm l := by
  have hparts : (keys.flatMap fun b => l.filter (f · == b)).Nodup := by
    rw [List.nodup_flatMap]
    refine ⟨fun b _ => hl.filter _, hkeys.imp fun hne => ?_⟩
    intro a ha ha'
    simp only [List.mem_filter, beq_iff_eq] at ha ha'
    exact hne (ha.2.symm.trans ha'.2)
  refine (List.perm_ext_iff_of_nodup hparts hl).2 fun a => ?_
  simp only [List.mem_flatMap, List.mem_filter, beq_iff_eq]
  constructor
  · rintro ⟨_, -, ha, -⟩
    exact ha
  · intro ha
    exact ⟨f a, hcover a ha, ha, rfl⟩

namespace History

/-! ## The newest of some runs -/

/-- The newest of some stored runs, so many of them as there are up to a limit: each once, in the order of
their starts, and none that is left out is newer. -/
structure Newest (limit : Nat) (stored runs : List RunSummary) : Prop where
  length_eq : runs.length = min limit stored.length
  subset : ∀ s ∈ runs, s ∈ stored
  ids_nodup : (runs.map (·.runId)).Nodup
  newestFirst : NewestFirst runs
  left_out : ∀ s ∈ stored, s ∉ runs → ∀ s' ∈ runs, s'.startedAt.lt s.startedAt = false

/-- The first ones of runs that are sorted are the newest. -/
theorem newest_take {stored sorted : List RunSummary} (hperm : sorted.Perm stored)
    (hnodup : (stored.map (·.runId)).Nodup) (hsorted : NewestFirst sorted) (limit : Nat) :
    Newest limit stored (sorted.take limit) where
  length_eq := by rw [List.length_take, hperm.length_eq]
  subset s hs := hperm.mem_iff.1 (List.mem_of_mem_take hs)
  ids_nodup :=
    ((hperm.map (·.runId)).nodup_iff.2 hnodup).sublist ((List.take_sublist limit sorted).map _)
  newestFirst := hsorted.sublist (List.take_sublist limit sorted)
  left_out s hs hout s' hs' := by
    have hmem : s ∈ sorted.take limit ++ sorted.drop limit := by
      rw [List.take_append_drop]
      exact hperm.mem_iff.2 hs
    have hdrop : s ∈ sorted.drop limit := (List.mem_append.1 hmem).resolve_left hout
    rw [NewestFirst, ← List.take_append_drop limit sorted, List.pairwise_append] at hsorted
    exact hsorted.2.2 s' hs' s hdrop

/-! ## Listings of a table -/

namespace Table

variable {summaries : List RunSummary}

/-- The rows of a table are those of the latest summaries, in the order in which they were saved. -/
theorem foldl_save_eq (saves : List RunSummary) :
    saves.foldl save empty = ofSummaries (saves.foldl Ephemeral.save .empty).runs := by
  induction saves using List.reverseRecOn with
  | nil => rfl
  | append_singleton saves s ih =>
    simp only [List.foldl_append, List.foldl_cons, List.foldl_nil, ih, save_ofSummaries]
    rfl

theorem list_perm (h : ∀ s ∈ summaries, Legible s) (n : String) :
    ((ofSummaries summaries).list n).Perm (summaries.filter (·.pipeline == n)) := by
  have hfilter : (ofSummaries summaries).rows.filter (·.pipeline == n) =
      (summaries.filter (·.pipeline == n)).map Row.ofSummary := List.filter_map ..
  have hlegible : ∀ s ∈ summaries.filter (·.pipeline == n), Legible s :=
    fun s hs => h s (List.mem_of_mem_filter hs)
  have hread := (List.mergeSort_perm ((summaries.filter (·.pipeline == n)).map Row.ofSummary)
    fun a b => b.startedAt.renderPlain ≤ a.startedAt.renderPlain).filterMap Row.summary?
  rw [Row.filterMap_summary? hlegible] at hread
  rwa [list, hfilter]

/-- The listings of all pipelines have every run once. -/
theorem flatMap_list_perm (h : ∀ s ∈ summaries, Legible s) (hnodup : summaries.Nodup) :
    ((ofSummaries summaries).pipelines.flatMap (ofSummaries summaries).list).Perm summaries := by
  have hnames : (ofSummaries summaries).rows.map (·.pipeline) = summaries.map (·.pipeline) :=
    List.map_map ..
  have hdistinct : (ofSummaries summaries).pipelines.Nodup :=
    (List.mergeSort_perm _ _).nodup_iff.2 (nodup_eraseDups _)
  have hcover : ∀ s ∈ summaries, s.pipeline ∈ (ofSummaries summaries).pipelines := by
    intro s hs
    rw [pipelines, hnames, List.mem_mergeSort, List.mem_eraseDups]
    exact List.mem_map_of_mem hs
  exact (List.Perm.flatMap_left _ fun n _ => list_perm h n).trans
    (perm_flatMap_filter hnodup hdistinct hcover)

end Table

end History

/-! ## Selected runs -/

namespace App

open History

theorem selectRuns_newest {summaries : List RunSummary} (h : ∀ s ∈ summaries, Legible s)
    (hnodup : (summaries.map (·.runId)).Nodup) (pipeline : Option String) (limit : Nat) :
    Newest limit (summaries.filter fun s => pipeline.all (s.pipeline == ·))
      (selectRuns (Table.ofSummaries summaries) pipeline limit) := by
  unfold selectRuns
  refine newest_take ((List.mergeSort_perm _ _).trans ?_)
    (hnodup.sublist (List.filter_sublist.map _)) (newestFirst_mergeSort _) limit
  cases pipeline with
  | some n => exact Table.list_perm h n
  | none => simpa using Table.flatMap_list_perm h hnodup.of_map

/-- After any saves, the runs that a history shows are the newest of those that are stored with their latest
summaries, of one pipeline or of all. -/
theorem selectRuns_after_saves {saves : List RunSummary} (h : ∀ s ∈ saves, Legible s)
    (pipeline : Option String) (limit : Nat) :
    ∃ stored : List RunSummary,
      (∀ s, s ∈ stored ↔ latest? saves s.runId = some s ∧ ∀ n ∈ pipeline, s.pipeline = n) ∧
      (stored.map (·.runId)).Nodup ∧
      Newest limit stored (selectRuns (saves.foldl Table.save .empty) pipeline limit) := by
  have hkeeps := Ephemeral.Keeps.empty.foldl saves
  rw [List.nil_append] at hkeeps
  have hmem : ∀ s, s ∈ (saves.foldl Ephemeral.save .empty).runs ↔ latest? saves s.runId = some s :=
    fun s => by rw [hkeeps.mem_runs, hkeeps.load?_eq]
  have hlegible : ∀ s ∈ (saves.foldl Ephemeral.save .empty).runs, Legible s :=
    fun s hs => h s (mem_of_latest? ((hmem s).1 hs))
  refine ⟨_, fun s => ?_, hkeeps.ids_nodup.sublist (List.filter_sublist.map _),
    Table.foldl_save_eq saves ▸ selectRuns_newest hlegible hkeeps.ids_nodup pipeline limit⟩
  rw [List.mem_filter, hmem]
  simp [Option.all_eq_true]

end App

end JobMatrix

/-! ## A run that is saved again -/

namespace JobMatrix.Small

open App History

/-- A run, another one, and the first again under another pipeline, later than both. -/
def moving : List RunSummary :=
  [emptyRun "ci" false 59, lateRun, emptyRun "nightly" true 61]

/-- The run that was saved again is the newest one. -/
theorem selectRuns_after_saves_moving :
    selectRuns (moving.foldl Table.save .empty) none 1 = [emptyRun "nightly" true 61] := by
  have hlegible : ∀ s ∈ moving, Legible s := by
    intro s hs
    simp only [moving, List.mem_cons, List.not_mem_nil, or_false] at hs
    rcases hs with rfl | rfl | rfl
    · exact (storable_emptyRun false (by decide)).legible
    · exact storable_lateRun.legible
    · exact ⟨by decide, by decide, by decide, by decide, nofun⟩
  obtain ⟨stored, hmem, -, hnewest⟩ := selectRuns_after_saves hlegible none 1
  have hstored : emptyRun "nightly" true 61 ∈ stored := (hmem _).2 ⟨by decide, nofun⟩
  have hlength : (selectRuns (moving.foldl Table.save .empty) none 1).length = 1 := by
    have hpos := List.length_pos_of_mem hstored
    have hmin := hnewest.length_eq
    omega
  obtain ⟨s, hruns⟩ := List.length_eq_one_iff.1 hlength
  rw [hruns] at hnewest ⊢
  -- The run shown is a stored one, and the other stored run is older than the one that would be left out.
  have hs := (hmem s).1 (hnewest.subset s (List.mem_singleton_self s))
  have hsaved := mem_of_latest? hs.1
  simp only [moving, List.mem_cons, List.not_mem_nil, or_false] at hsaved
  rcases hsaved with rfl | rfl | rfl
  · exact absurd hs.1 (by decide)
  · have hout := hnewest.left_out _ hstored (by decide) _ (List.mem_singleton_self _)
    exact absurd hout (by decide)
  · rfl

end JobMatrix.Small
