import Mathlib.Data.List.Basic
import JobMatrix.Job.Progress

/-!
# The environment of a request

A request merges the environment of its pipeline, that of its job, the variables of the binding,
those about the job itself and the environment of its step. Each of these layers counts where the
inner ones have no value, so a variable has the first value that is found from the inside.
-/

namespace JobMatrix

/-- The value of the last entry for a name. -/
def lastValue? {α : Type} (entries : List (String × α)) (name : String) : Option α :=
  (entries.reverse.find? (·.1 == name)).map (·.2)

theorem eq_take_append_of_getElem? {α : Type} {l : List α} {n : Nat} {a : α}
    (h : l[n]? = some a) : l = l.take n ++ a :: l.drop (n + 1) := by
  obtain ⟨hlt, rfl⟩ := List.getElem?_eq_some_iff.1 h
  rw [List.getElem_cons_drop, List.take_append_drop]

section LastValue

variable {α : Type} {entries : List (String × α)} {name : String}

theorem lastValue?_cons (entry : String × α) (entries : List (String × α)) (name : String) :
    lastValue? (entry :: entries) name =
      (lastValue? entries name).or (if entry.1 = name then some entry.2 else none) := by
  simp only [lastValue?, List.reverse_cons, List.find?_append, Option.map_or]
  by_cases hname : entry.1 = name <;> simp [hname]

theorem lastValue?_eq_none_iff : lastValue? entries name = none ↔ name ∉ entries.map (·.1) := by
  simp only [lastValue?, Option.map_eq_none_iff, List.find?_eq_none, List.mem_reverse, beq_iff_eq,
    List.mem_map, not_exists, not_and]

/-- An entry that no later one replaces counts. -/
theorem lastValue?_of_getElem? {n : Nat} {value : α} (h : entries[n]? = some (name, value))
    (hlast : name ∉ (entries.drop (n + 1)).map (·.1)) : lastValue? entries name = some value := by
  have hrest : (entries.drop (n + 1)).reverse.find? (·.1 == name) = none := by
    simpa [lastValue?] using lastValue?_eq_none_iff.2 hlast
  rw [lastValue?, eq_take_append_of_getElem? h]
  simp only [List.reverse_append, List.reverse_cons, List.find?_append, hrest]
  simp

end LastValue

namespace Env

variable {α : Type} {e : Env α} {name : String}

/-- No name has two values, and the names are in order. -/
def Ascending (e : Env α) : Prop :=
  e.entries.Pairwise (·.1 < ·.1)

instance (e : Env α) : Decidable e.Ascending :=
  inferInstanceAs (Decidable (e.entries.Pairwise (·.1 < ·.1)))

theorem get?_eq_none_iff : e.get? name = none ↔ name ∉ e.entries.map (·.1) := by
  simp only [get?, Option.map_eq_none_iff, List.find?_eq_none, beq_iff_eq, List.mem_map,
    not_exists, not_and]

/-- Where no name has two values it does not matter from which end one looks. -/
theorem Ascending.get?_eq (h : e.Ascending) (name : String) :
    e.get? name = lastValue? e.entries name := by
  obtain ⟨entries⟩ := e
  simp only [Ascending, get?] at h ⊢
  induction entries with
  | nil => rfl
  | cons entry entries ih =>
    obtain ⟨hfirst, hrest⟩ := List.pairwise_cons.1 h
    rw [lastValue?_cons, ← ih hrest]
    by_cases hname : entry.1 = name
    · subst hname
      -- The names behind are greater, so none of them is this one again.
      have hnone : entries.find? (·.1 == entry.1) = none := by
        rw [List.find?_eq_none]
        intro other hother
        have hlt := hfirst other hother
        simpa using fun heq : other.1 = entry.1 => String.lt_irrefl _ (heq ▸ hlt)
      simp [hnone]
    · simp [hname]

theorem get?_insertMany (e : Env α) (entries : List (String × α)) (name : String) :
    (e.insertMany entries).get? name = (lastValue? entries name).or (e.get? name) := by
  induction entries generalizing e with
  | nil => rfl
  | cons entry entries ih =>
    have hnext : (e.insertMany (entry :: entries)).get? name =
        ((e.insert entry.1 entry.2).insertMany entries).get? name := rfl
    -- The entry at the front is put in first, so it counts only where the others have no value.
    rw [hnext, ih, get?_insert, lastValue?_cons, Option.or_assoc]
    by_cases hname : entry.1 = name <;> simp [hname]

theorem get?_extend (e inner : Env α) (name : String) :
    (e.extend inner).get? name = (lastValue? inner.entries name).or (e.get? name) :=
  get?_insertMany ..

end Env

/-! ## Layers -/

namespace Instance

variable (i : Instance) (p : Pipeline) (path : String) (step : Step) (name : String)

/-- The variables that tell a command about its job: who it is, and where it may put its files. -/
def ownVariable? : Option String :=
  if name = "PIPELINE_JOB_ID" then some i.id
  else if name = "PIPELINE_JOB_DIR" ∨ name = "TMPDIR" then some path
  else none

theorem get?_env (shared : Env String) :
    (i.env shared path).get? name =
      (i.ownVariable? path name).or
        ((lastValue? i.binding.environment name).or
          ((lastValue? i.template.env.entries name).or (shared.get? name))) := by
  simp only [env, ownVariable?, Env.get?_insert, Env.get?_insertMany, Env.get?_extend]
  -- The variables about the job are put in last and hide those of the layers below.
  by_cases hid : name = "PIPELINE_JOB_ID"
  · simp [hid]
  · by_cases hdir : name = "PIPELINE_JOB_DIR"
    · simp [hdir]
    · by_cases htemp : name = "TMPDIR"
      · simp [htemp]
      · simp [hid, hdir, htemp, Ne.symm hid, Ne.symm hdir, Ne.symm htemp]

/-- A variable of a request has the value from the innermost layer that has one. -/
theorem get?_request :
    (i.request p path step).env.get? name =
      (lastValue? step.env.entries name).or
        ((i.ownVariable? path name).or
          ((lastValue? i.binding.environment name).or
            ((lastValue? i.template.env.entries name).or (p.env.get? name)))) := by
  rw [request, Env.get?_extend, get?_env]

/-- The variable of an axis is none of those about the job. -/
theorem ownVariable?_variableName (axis : String) :
    i.ownVariable? path (Binding.variableName axis) = none := by
  have hne : ∀ own : String, own.toList.head? ≠ some 'M' → Binding.variableName axis ≠ own := by
    rintro own hown rfl
    simp [Binding.variableName] at hown
  rw [ownVariable?, if_neg (hne _ (by decide)), if_neg]
  rintro (heq | heq)
  · exact hne _ (by decide) heq
  · exact hne _ (by decide) heq

end Instance

end JobMatrix
