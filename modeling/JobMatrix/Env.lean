/-!
# Environments

An environment gives each name at most one value and lists its names in the order of their
code points. A later value for a name replaces the earlier one.
-/

namespace JobMatrix

/-- Values by name, in ascending order of the names. -/
structure Env (α : Type) where
  entries : List (String × α)
deriving DecidableEq, Inhabited

namespace Env

variable {α β : Type}

/-- The environment without names. -/
def empty : Env α := ⟨[]⟩

/-- The value of a name. -/
def get? (e : Env α) (name : String) : Option α :=
  (e.entries.find? (·.1 == name)).map (·.2)

/-- Puts a value into ascending entries. -/
def insertEntry (name : String) (value : α) : List (String × α) → List (String × α)
  | [] => [(name, value)]
  | (n, v) :: rest =>
    if name < n then (name, value) :: (n, v) :: rest
    else if name = n then (name, value) :: rest
    else (n, v) :: insertEntry name value rest

/-- The environment in which `name` has this value. -/
def insert (e : Env α) (name : String) (value : α) : Env α :=
  ⟨insertEntry name value e.entries⟩

/-- The environment with further values put in from left to right. -/
def insertMany (e : Env α) (entries : List (String × α)) : Env α :=
  entries.foldl (fun e (name, value) => e.insert name value) e

/-- The environment of a list of entries, the last one for a name counting. -/
def ofList (entries : List (String × α)) : Env α :=
  empty.insertMany entries

/-- The values of `inner` where it has them, and those of `e` elsewhere. -/
def extend (e inner : Env α) : Env α :=
  e.insertMany inner.entries

theorem get?_insert (e : Env α) (name other : String) (value : α) :
    (e.insert name value).get? other = if name = other then some value else e.get? other := by
  obtain ⟨entries⟩ := e
  simp only [insert, get?]
  induction entries with
  | nil => by_cases h : name = other <;> simp [insertEntry, h]
  | cons entry rest ih =>
    obtain ⟨n, v⟩ := entry
    simp only [insertEntry]
    by_cases h₁ : name < n
    · rw [if_pos h₁]
      by_cases h : name = other <;> simp [h]
    · rw [if_neg h₁]
      by_cases h₂ : name = n
      · subst h₂
        by_cases h : name = other <;> simp [h]
      · rw [if_neg h₂]
        by_cases h₃ : n = other
        · subst h₃
          simp [h₂]
        · simpa [List.find?_cons, h₃] using ih

end Env

end JobMatrix
