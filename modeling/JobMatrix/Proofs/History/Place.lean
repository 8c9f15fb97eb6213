import JobMatrix.History.Place
import Mathlib.Tactic.Common

/-!
# Opening a history again

To open a lasting history makes its directory and its file where they are missing. After that there is
nothing left to make: a history that was opened can be opened again, and the files stay as they are.
-/

namespace JobMatrix

/-! ## Making directories -/

namespace Files

variable {fs : Files} {place other : List String} {entry : FileEntry} {places : List (List String)}

theorem entry?_put_self (h : place ≠ []) : Files.entry? (fs.put place entry) place = some entry := by
  simp [ entry?, put, h]

theorem entry?_put_of_ne (h : other ≠ place) :
    Files.entry? (fs.put place entry) other = fs.entry? other := by
  have hfilter : (fs.entries.filter (·.1 != place)).find? (·.1 == other) =
      fs.entries.find? (·.1 == other) := by
    rw [List.find?_filter]
    congr 1
    funext e
    by_cases he : e.1 = other <;> simp [he, h]
  simp [ entry?, put, Ne.symm h, hfilter]

theorem put_put (fs : Files) (place : List String) (entry : FileEntry) :
    (fs.put place entry).put place entry = fs.put place entry := by
  simp [put]

/-- The tree with a directory at a place if nothing is there. -/
def fill (fs : Files) (place : List String) : Files :=
  if (fs.entry? place).isNone then fs.put place .directory else fs

theorem entry?_fill_self (fs : Files) (place : List String) :
    Files.entry? (fs.fill place) place = some ((fs.entry? place).getD .directory) := by
  cases hentry : fs.entry? place with
  | some e => simp [fill, hentry]
  | none =>
    -- The root is always there.
    have hplace : place ≠ [] := by
      rintro rfl
      cases hentry
    simp [fill, hentry, entry?_put_self hplace]

theorem entry?_fill_of_ne (h : other ≠ place) :
    Files.entry? (fs.fill place) other = fs.entry? other := by
  unfold fill
  split
  · exact entry?_put_of_ne h
  · rfl

theorem entry?_fill_of_some (h : fs.entry? other = some entry) :
    Files.entry? (fs.fill place) other = some entry := by
  by_cases hother : other = place
  · rw [← hother, entry?_fill_self, h, Option.getD_some]
  · rw [entry?_fill_of_ne hother, h]

theorem entry?_fills_of_some (h : fs.entry? other = some entry) :
    Files.entry? (places.foldl fill fs) other = some entry := by
  induction places generalizing fs with
  | nil => exact h
  | cons place places ih => exact ih (entry?_fill_of_some h)

/-- Directories are made where no files are. -/
theorem entry?_fills_of_mem (h : ∀ p ∈ places, (fs.entry? p).getD .directory = .directory) :
    ∀ p ∈ places, Files.entry? (places.foldl fill fs) p = some .directory := by
  induction places generalizing fs with
  | nil => nofun
  | cons place places ih =>
    have hplace : Files.entry? (fs.fill place) place = some .directory := by
      rw [entry?_fill_self, h place List.mem_cons_self]
    rw [List.foldl_cons]
    refine List.forall_mem_cons.2 ⟨entry?_fills_of_some hplace, ih fun p hp => ?_⟩
    by_cases heq : p = place
    · rw [heq, hplace, Option.getD_some]
    · rw [entry?_fill_of_ne heq, h p (List.mem_cons_of_mem _ hp)]

theorem fills_of_directories (h : ∀ p ∈ places, fs.entry? p = some .directory) :
    places.foldl fill fs = fs := by
  induction places with
  | nil => rfl
  | cons place places ih =>
    obtain ⟨hplace, hrest⟩ := List.forall_mem_cons.1 h
    rw [List.foldl_cons, fill, hplace]
    exact ih hrest

/-- The places on the way to a place, from the root to the place itself. -/
def wayTo (place : List String) : List (List String) :=
  (List.range (place.length + 1)).map place.take

theorem makeDirectory_eq (fs : Files) (place : List String) :
    fs.makeDirectory place = (wayTo place).foldl fill fs := by
  rw [wayTo, List.foldl_map]
  rfl

theorem ne_of_mem_wayTo {name : String} (h : other ∈ wayTo place) : other ≠ place ++ [name] := by
  obtain ⟨n, -, rfl⟩ := List.mem_map.1 h
  intro heq
  have hlength := congrArg List.length heq
  rw [List.length_take, List.length_append, List.length_singleton] at hlength
  omega

end Files

/-! ## Opening -/

namespace History

variable {fs fs' : Files} {directory place : List String} {name : String}

theorem canHoldDirectory_iff :
    canHoldDirectory fs directory = true ↔
      ∀ p ∈ Files.wayTo directory, (fs.entry? p).getD .directory = .directory := by
  simp only [canHoldDirectory, Files.wayTo, List.all_eq_true, List.forall_mem_map]
  refine forall₂_congr fun n _ => ?_
  cases fs.entry? (directory.take n) with
  | none => simp
  | some entry => cases entry <;> simp

theorem openPlace_eq_ok (h : openPlace fs place = .ok fs') :
    fs' = fs.put place (.file fileMark) ∧ place ≠ [] := by
  unfold openPlace at h
  have hplace : place ≠ [] := by
    rintro rfl
    cases h
  split at h
  · cases h
  · split at h
    · cases h
      exact ⟨rfl, hplace⟩
    · cases h
  · cases h
    exact ⟨rfl, hplace⟩

theorem openPlace_put (h : place ≠ []) :
    openPlace (fs.put place (.file fileMark)) place = .ok (fs.put place (.file fileMark)) := by
  have hmark : fileMark.isPrefixOf fileMark = true := List.isPrefixOf_iff_prefix.2 List.prefix_rfl
  simp [openPlace, Files.entry?_put_self h, hmark, Files.put_put]

/-- A history that was opened can be opened again, which changes nothing. -/
theorem openIn_openIn (h : openIn fs directory name = .ok fs') :
    openIn fs' directory name = .ok fs' := by
  unfold openIn at h
  split at h
  case isFalse => cases h
  case isTrue hhold =>
    obtain ⟨rfl, hplace⟩ := openPlace_eq_ok h
    -- The file of the history does not lie on the way to its own directory.
    have hway : ∀ p ∈ Files.wayTo directory,
        Files.entry? ((fs.makeDirectory directory).put (directory ++ [name]) (.file fileMark)) p =
          some .directory := by
      intro p hp
      rw [Files.entry?_put_of_ne (Files.ne_of_mem_wayTo hp), Files.makeDirectory_eq]
      exact Files.entry?_fills_of_mem (canHoldDirectory_iff.1 hhold) p hp
    have hagain := canHoldDirectory_iff.2 fun p hp => by rw [hway p hp, Option.getD_some]
    rw [openIn, if_pos hagain, Files.makeDirectory_eq, Files.fills_of_directories hway,
      openPlace_put hplace]

end History

end JobMatrix
