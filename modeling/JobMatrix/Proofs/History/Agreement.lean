import JobMatrix.History.Store
import JobMatrix.Proofs.History.Table

/-!
# The agreement of the stores

A store that lasts and one that is forgotten answer alike, whatever is saved and asked in whatever
order, as long as the summaries can be stored and no run moves to another pipeline. The rows of the
table are those of the summaries that the ephemeral history has, in the same order. Only runs that
started at the same time may be listed in different orders, because the index has the runs in the
order of their first saves and the table in that of their last ones.
-/

namespace JobMatrix.History

/-! ## Questions and answers -/

/-- What a store is used for. -/
inductive Operation
  | save (s : RunSummary)
  | load (id : RunId)
  | list (pipeline : String)
  | pipelines
deriving DecidableEq

/-- What a store answers. -/
inductive Answer
  | saved
  | loaded (s? : Option RunSummary)
  | listed (summaries : List RunSummary)
  | named (pipelines : List String)
deriving DecidableEq

/-- The summary that an operation saves. -/
def Operation.saved? : Operation → Option RunSummary
  | .save s => some s
  | .load _ | .list _ | .pipelines => none

namespace Store

/-- The answer of a store. -/
def answer (store : Store) : Operation → Answer
  | .save _ => .saved
  | .load id => .loaded (store.load? id)
  | .list n => .listed (store.list n)
  | .pipelines => .named store.pipelines

/-- The store after an operation. -/
def next (store : Store) : Operation → Store
  | .save s => store.save s
  | .load _ | .list _ | .pipelines => store

/-- The answers of a store to some operations, one after the other. -/
def answers (store : Store) : List Operation → List Answer
  | [] => []
  | op :: ops => store.answer op :: (store.next op).answers ops

end Store

/-! ## Listings that agree -/

/-- The same summaries, newest first in both lists. -/
structure SameListing (summaries summaries' : List RunSummary) : Prop where
  perm : summaries.Perm summaries'
  newestFirst : NewestFirst summaries
  newestFirst' : NewestFirst summaries'

/-- If all start times are distinct, there is one way to list summaries. -/
theorem SameListing.eq {summaries summaries' : List RunSummary}
    (h : SameListing summaries summaries') (hdistinct : (summaries.map (·.startedAt)).Nodup) :
    summaries = summaries' := by
  refine h.perm.eq_of_pairwise (fun s s' hs hs' hlt hlt' => ?_) h.newestFirst h.newestFirst'
  have hstart : s.startedAt = s'.startedAt := by
    rcases Timestamp.lt_trichotomy s.startedAt s'.startedAt with hbefore | heq | hafter
    · rw [hbefore] at hlt
      contradiction
    · exact heq
    · rw [hafter] at hlt'
      contradiction
  exact List.inj_on_of_nodup_map hdistinct hs (h.perm.mem_iff.2 hs') hstart

/-- Two stores give the same answer; a listing may only differ in the order of runs that started at the
same time. -/
inductive Answer.Agrees : Answer → Answer → Prop
  | saved : Agrees .saved .saved
  | loaded (s? : Option RunSummary) : Agrees (.loaded s?) (.loaded s?)
  | listed {summaries summaries' : List RunSummary} (same : SameListing summaries summaries')
      (eq : (summaries.map (·.startedAt)).Nodup → summaries = summaries') :
      Agrees (.listed summaries) (.listed summaries')
  | named (pipelines : List String) : Agrees (.named pipelines) (.named pipelines)

/-! ## The runs of a history -/

theorem find?_of_mem {α β : Type} [DecidableEq β] {f : α → β} {l : List α} (h : (l.map f).Nodup)
    {a : α} (ha : a ∈ l) : l.find? (f · == f a) = some a := by
  induction l with
  | nil => nomatch ha
  | cons b l ih =>
    rw [List.map_cons, List.nodup_cons] at h
    rcases List.mem_cons.1 ha with rfl | ha
    · simp
    · have hne : f b ≠ f a := fun heq => h.1 (heq ▸ List.mem_map_of_mem ha)
      rw [List.find?_cons_of_neg (by simpa using hne), ih h.2 ha]

theorem nodup_eraseDups {α : Type} [DecidableEq α] : ∀ l : List α, l.eraseDups.Nodup
  | [] => List.nodup_nil
  | a :: l => by
    rw [List.eraseDups_cons, List.nodup_cons]
    refine ⟨by simp, nodup_eraseDups _⟩
termination_by l => l.length
decreasing_by exact Nat.lt_succ_of_le (List.length_filter_le ..)

/-- Names in ascending order depend only on which names there are. -/
theorem mergeSort_eq_of_perm {names names' : List String} (h : names.Perm names') :
    names.mergeSort (· ≤ ·) = names'.mergeSort (· ≤ ·) := by
  have hperm : (names.mergeSort (· ≤ ·)).Perm (names'.mergeSort (· ≤ ·)) :=
    (List.mergeSort_perm ..).trans (h.trans (List.mergeSort_perm ..).symm)
  exact hperm.eq_of_pairwise (fun n n' _ _ => le_antisymm) (ascending_mergeSort names)
    (ascending_mergeSort names')

namespace Ephemeral

variable {saves : List RunSummary} {h : Ephemeral} {n : String}

theorem Keeps.mem_runs (hkeeps : Keeps saves h) {s : RunSummary} :
    s ∈ h.runs ↔ h.load? s.runId = some s :=
  ⟨find?_of_mem hkeeps.ids_nodup, List.mem_of_find?_eq_some⟩

/-- In a steady history, a pipeline lists the runs whose summaries name it. -/
theorem Keeps.list_perm (hkeeps : Keeps saves h) (hsteady : Steady saves) (n : String) :
    (h.list n).Perm (h.runs.filter (·.pipeline == n)) := by
  refine (List.perm_ext_iff_of_nodup (hkeeps.ids_nodup_list n).of_map
    (hkeeps.ids_nodup.of_map.filter _)).2 fun s => ?_
  rw [hkeeps.mem_list_of_steady hsteady, List.mem_filter, hkeeps.mem_runs, beq_iff_eq]

theorem Keeps.names_perm (hkeeps : Keeps saves h) (hsteady : Steady saves) :
    (h.index.map (·.1)).Perm (h.runs.map (·.pipeline)).eraseDups := by
  refine (List.perm_ext_iff_of_nodup hkeeps.names_nodup (nodup_eraseDups _)).2 fun n => ?_
  have hlist : n ∈ h.index.map (·.1) ↔ h.list n ≠ [] := by
    rw [← hkeeps.mem_pipelines, pipelines, List.mem_mergeSort]
  have hfilter : h.list n ≠ [] ↔ h.runs.filter (·.pipeline == n) ≠ [] := by
    rw [ne_eq, ne_eq, ← List.length_eq_zero_iff, (hkeeps.list_perm hsteady n).length_eq,
      List.length_eq_zero_iff]
  rw [hlist, hfilter, List.mem_eraseDups, List.mem_map]
  simp [List.filter_eq_nil_iff]

end Ephemeral

/-! ## The stores -/

/-- The table has the rows of the summaries of the history, all of which can be stored. -/
structure Coupled (saves : List RunSummary) (h : Ephemeral) (t : Table) : Prop where
  keeps : h.Keeps saves
  table : t = Table.ofSummaries h.runs
  storable : ∀ s ∈ h.runs, Storable s

theorem Coupled.empty : Coupled [] .empty .empty :=
  ⟨.empty, rfl, fun _ hs => nomatch hs⟩

variable {saves : List RunSummary} {h : Ephemeral} {t : Table}

theorem Coupled.save (hcoupled : Coupled saves h t) {s : RunSummary} (hs : Storable s) :
    Coupled (saves ++ [s]) (h.save s) (t.save s) where
  keeps := hcoupled.keeps.save s
  table := by
    rw [hcoupled.table, Table.save_ofSummaries]
    rfl
  storable s' h' := by
    rcases List.mem_append.1 h' with hkept | hnew
    · exact hcoupled.storable s' (List.mem_of_mem_filter hkept)
    · exact List.mem_singleton.1 hnew ▸ hs

/-- Coupled stores give the same answer. -/
theorem Coupled.agrees (hcoupled : Coupled saves h t) (hsteady : Steady saves) (op : Operation) :
    ((Store.ephemeral h).answer op).Agrees ((Store.lasting t).answer op) := by
  obtain ⟨hkeeps, rfl, hstorable⟩ := hcoupled
  cases op with
  | save => exact .saved
  | load id =>
    have hload : h.load? id = (Table.ofSummaries h.runs).load? id :=
      (Table.load?_ofSummaries hstorable id).symm
    simp only [Store.answer, Store.load?, hload]
    exact .loaded _
  | list n =>
    -- Both sort the same summaries, but not from the same order, so runs with one start may differ.
    have hlist := Table.list_ofSummaries hstorable n
    have hsame : SameListing (h.list n) ((Table.ofSummaries h.runs).list n) := by
      refine ⟨?_, newestFirst_mergeSort _, hlist ▸ newestFirst_mergeSort _⟩
      rw [hlist]
      exact (hkeeps.list_perm hsteady n).trans (List.mergeSort_perm ..).symm
    exact .listed hsame hsame.eq
  | pipelines =>
    have hpipelines : h.pipelines = (Table.ofSummaries h.runs).pipelines := by
      have hnames : (Table.ofSummaries h.runs).rows.map (·.pipeline) = h.runs.map (·.pipeline) :=
        List.map_map ..
      rw [Table.pipelines, hnames]
      exact mergeSort_eq_of_perm (hkeeps.names_perm hsteady)
    simp only [Store.answer, Store.pipelines, hpipelines]
    exact .named _

/-- Coupled stores agree on whatever is saved and asked next. -/
theorem Coupled.answers_forall₂ (hcoupled : Coupled saves h t) {ops : List Operation}
    (hstorable : ∀ s ∈ ops.filterMap Operation.saved?, Storable s)
    (hsteady : Steady (saves ++ ops.filterMap Operation.saved?)) :
    List.Forall₂ Answer.Agrees ((Store.ephemeral h).answers ops) ((Store.lasting t).answers ops) := by
  -- By induction on the operations, with all that was saved before as the history that is steady.
  induction ops generalizing saves h t with
  | nil => exact .nil
  | cons op ops ih =>
    have hbefore : Steady saves := fun s hs s' hs' =>
      hsteady s (List.mem_append_left _ hs) s' (List.mem_append_left _ hs')
    refine .cons (hcoupled.agrees hbefore op) ?_
    cases op with
    | save s =>
      have hsaves : (Operation.save s :: ops).filterMap Operation.saved? =
          s :: ops.filterMap Operation.saved? := rfl
      rw [hsaves] at hstorable hsteady
      refine ih (hcoupled.save (hstorable s List.mem_cons_self))
        (fun s' h' => hstorable s' (List.mem_cons_of_mem s h')) ?_
      rwa [List.append_assoc, List.singleton_append]
    | _ => exact ih hcoupled hstorable hsteady

/-- The stores agree on whatever is saved and asked, if the summaries can be stored and no run is saved
under two pipelines. -/
theorem Store.answers_agree {ops : List Operation}
    (hstorable : ∀ s ∈ ops.filterMap Operation.saved?, Storable s)
    (hsteady : Steady (ops.filterMap Operation.saved?)) :
    List.Forall₂ Answer.Agrees ((Store.ephemeral .empty).answers ops)
      ((Store.lasting .empty).answers ops) :=
  Coupled.empty.answers_forall₂ hstorable hsteady

end JobMatrix.History

/-! ## A run that is saved again -/

namespace JobMatrix.Small

open History

/-- The result of a job that ended in a leap second. -/
def lateJob : JobResult where
  id := "build"
  job := "build"
  binding := .empty
  status := .passed
  records := []
  failure := none
  skipReason := none
  startedAt := some ⟨58, 250000000⟩
  finishedAt := some ⟨59, 1500000000⟩
  duration := ⟨2250000000⟩

/-- A run that starts in a leap second, with one job. -/
def lateRun : RunSummary :=
  { emptyRun "ci" false 59 with
    runId := ⟨8⟩, startedAt := ⟨59, 1000000000⟩, total := 1, passed := 1, jobs := [lateJob] }

/-- Two runs, the first of which is saved again later, and what they are asked for. -/
def resaving : List Operation :=
  [.save (emptyRun "ci" false 59), .save lateRun, .list "ci", .save (emptyRun "ci" true 60),
    .load ⟨7⟩, .list "ci", .pipelines]

theorem storable_emptyRun (cancelled : Bool) {seconds : Int}
    (hyear : Timestamp.FourDigitYear ⟨seconds, 0⟩) : Storable (emptyRun "ci" cancelled seconds) :=
  have hzero : 0 < Word.bound := by decide
  have hproper : Timestamp.Proper ⟨seconds, 0⟩ := .inl (Nat.succ_pos _)
  ⟨hzero, hzero, hzero, hzero, hproper, hyear, fun _ hr => nomatch hr⟩

theorem storable_lateRun : Storable lateRun where
  total := by decide
  passed := by decide
  failed := by decide
  skipped := by decide
  proper := by decide
  year := by decide
  jobs := by
    intro r hr
    obtain rfl := List.mem_singleton.1 hr
    refine ⟨fun t ht => ?_, fun t ht => ?_⟩ <;> cases ht <;> decide

/-- The stores agree on a run that is saved again and on a run in a leap second. -/
theorem answers_agree_resaving :
    Steady (resaving.filterMap Operation.saved?) ∧
      List.Forall₂ Answer.Agrees ((Store.ephemeral .empty).answers resaving)
        ((Store.lasting .empty).answers resaving) := by
  have hsteady : Steady (resaving.filterMap Operation.saved?) := by decide
  refine ⟨hsteady, Store.answers_agree (fun s hs => ?_) hsteady⟩
  simp only [resaving, Operation.saved?, List.filterMap_cons, List.filterMap_nil,
    List.mem_cons, List.not_mem_nil, or_false] at hs
  rcases hs with rfl | rfl | rfl
  · exact storable_emptyRun false (by decide)
  · exact storable_lateRun
  · exact storable_emptyRun true (by decide)

end JobMatrix.Small
