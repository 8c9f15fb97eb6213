import Mathlib
import JobMatrix.Proofs.Definition.Bound

/-!
# Expansions

A template expands into the combinations of its axis values in lexicographic order. An instance is
found by its number, which is read as a number with one digit for each axis: the digit of an axis
counts the combinations of the axes after it, and says which of its values the axis has.
-/

namespace JobMatrix

variable {axes : List (String × List String)} {entries : List (String × String)} {b : Binding}
  {axis : String} {values : List String} {j k : Nat}

/-! ## Counting combinations -/

/-- The number of combinations of the values of some axes. -/
def combinationsOf (axes : List (String × List String)) : Nat :=
  (axes.map (·.2.length)).prod

@[simp] theorem combinationsOf_nil : combinationsOf [] = 1 := rfl

@[simp] theorem combinationsOf_cons (axis : String × List String)
    (axes : List (String × List String)) :
    combinationsOf (axis :: axes) = axis.2.length * combinationsOf axes := by
  simp [combinationsOf]

theorem Template.combinations_eq (t : Template) : t.combinations = combinationsOf t.axes :=
  List.prod_eq_foldl.symm

/-- The combinations of the axes after one of them go into those of all axes. -/
theorem exists_combinationsOf_eq (h : axes[j]? = some (axis, values)) :
    ∃ n, combinationsOf axes = combinationsOf (axes.drop (j + 1)) * (values.length * n) := by
  induction axes generalizing j with
  | nil => simp at h
  | cons first axes ih =>
    cases j with
    | zero =>
      obtain rfl : first = (axis, values) := by simpa using h
      exact ⟨1, by simp [Nat.mul_comm]⟩
    | succ j =>
      obtain ⟨n, hn⟩ := ih (by simpa using h)
      refine ⟨first.2.length * n, ?_⟩
      rw [combinationsOf_cons, hn, List.drop_succ_cons]
      ac_rfl

/-- The digit of an axis in a number, which counts the combinations of the axes after it. -/
def digitOf (axes : List (String × List String)) (k j base : Nat) : Nat :=
  k / combinationsOf (axes.drop (j + 1)) % base

/-- A digit does not see the combinations of all axes. -/
theorem digitOf_mod (h : axes[j]? = some (axis, values)) :
    digitOf axes (k % combinationsOf axes) j values.length = digitOf axes k j values.length := by
  obtain ⟨n, hn⟩ := exists_combinationsOf_eq h
  rw [digitOf, hn, Nat.mod_mul_right_div_self, Nat.mod_mul_right_mod, digitOf]

/-! ## Numbered bindings -/

/-- Entries give each axis the value at its digit in a number. -/
structure Shows (axes : List (String × List String)) (k : Nat) (entries : List (String × String)) :
    Prop where
  length : entries.length = axes.length
  value : ∀ j axis values, axes[j]? = some (axis, values) →
    ∃ value, values[digitOf axes k j values.length]? = some value ∧
      entries[j]? = some (axis, value)

/-- The digits of the axes after the first one are those of the rest of the number. -/
theorem Shows.cons {value : String}
    (hvalue : values[k / combinationsOf axes]? = some value)
    (h : Shows axes (k % combinationsOf axes) entries) :
    Shows ((axis, values) :: axes) k ((axis, value) :: entries) where
  length := by rw [List.length_cons, List.length_cons, h.length]
  value j axis' values' haxis := by
    cases j with
    | zero =>
      obtain ⟨rfl, rfl⟩ : axis = axis' ∧ values = values' := by simpa using haxis
      have hlt := (List.getElem?_eq_some_iff.1 hvalue).1
      have hdigit : digitOf ((axis, values) :: axes) k 0 values.length =
          k / combinationsOf axes := Nat.mod_eq_of_lt hlt
      exact ⟨value, by rw [hdigit, hvalue], rfl⟩
    | succ j =>
      rw [List.getElem?_cons_succ] at haxis
      obtain ⟨value', hvalue', hentry⟩ := h.value j axis' values' haxis
      rw [digitOf_mod haxis] at hvalue'
      exact ⟨value', hvalue', hentry⟩

/-- In a row of blocks of the same length, an index is one of a block and one inside of it. -/
theorem exists_getElem?_flatMap {α β : Type} {l : List α} {f : α → List β} {n : Nat}
    (hlength : ∀ a, (f a).length = n) (hk : k < l.length * n) :
    ∃ a, l[k / n]? = some a ∧ (l.flatMap f)[k]? = (f a)[k % n]? := by
  induction l generalizing k with
  | nil => simp at hk
  | cons a l ih =>
    rw [List.flatMap_cons]
    by_cases hfirst : k < n
    · refine ⟨a, ?_, ?_⟩
      · rw [Nat.div_eq_of_lt hfirst, List.getElem?_cons_zero]
      · rw [List.getElem?_append_left (by rwa [hlength]), Nat.mod_eq_of_lt hfirst]
    · have hle : n ≤ k := Nat.le_of_not_lt hfirst
      have hrest : k - n < l.length * n := by
        rw [List.length_cons, Nat.succ_mul] at hk
        omega
      have hpos : 0 < n := Nat.pos_of_mul_pos_left (Nat.zero_lt_of_lt hrest)
      obtain ⟨a', ha', hget⟩ := ih hrest
      refine ⟨a', ?_, ?_⟩
      · rw [Nat.div_eq_sub_div hpos hle, List.getElem?_cons_succ, ha']
      · rw [List.getElem?_append_right (by rwa [hlength]), hlength, hget, Nat.mod_eq_sub_mod hle]

namespace Template

theorem length_bindingsFrom (b : Binding) (axes : List (String × List String)) :
    (bindingsFrom b axes).length = combinationsOf axes := by
  induction axes generalizing b with
  | nil => rfl
  | cons axis axes ih => simp [bindingsFrom, List.length_flatMap, ih]

theorem exists_getElem?_bindingsFrom (hk : k < combinationsOf axes) :
    ∃ entries, (bindingsFrom b axes)[k]? = some ⟨b.entries ++ entries⟩ ∧ Shows axes k entries := by
  -- By induction on the axes: the first one chooses a block, and the rest of the number leads on in it.
  induction axes generalizing b k with
  | nil =>
    obtain rfl : k = 0 := Nat.lt_one_iff.1 hk
    exact ⟨[], by simp [bindingsFrom], ⟨rfl, nofun⟩⟩
  | cons axis axes ih =>
    obtain ⟨axis, values⟩ := axis
    rw [combinationsOf_cons] at hk
    have hpos : 0 < combinationsOf axes := Nat.pos_of_mul_pos_left (Nat.zero_lt_of_lt hk)
    obtain ⟨value, hvalue, hget⟩ := exists_getElem?_flatMap
      (fun value => length_bindingsFrom (b.push axis value) axes) hk
    obtain ⟨entries, hentries, hshows⟩ := ih (b := b.push axis value) (Nat.mod_lt k hpos)
    refine ⟨(axis, value) :: entries, ?_, hshows.cons hvalue⟩
    rw [bindingsFrom, hget, hentries]
    simp [Binding.push]

/-! ## All combinations, each once -/

theorem mem_bindingsFrom_of_picks (h : Picks entries axes) :
    (⟨b.entries ++ entries⟩ : Binding) ∈ bindingsFrom b axes := by
  induction h generalizing b with
  | nil => simp [bindingsFrom]
  | @cons entry axis entries axes hhead _ ih =>
    obtain ⟨name, value⟩ := entry
    obtain ⟨rfl, hvalue⟩ := hhead
    refine List.mem_flatMap.2 ⟨value, hvalue, ?_⟩
    have hrest := ih (b := b.push axis.1 value)
    rwa [Binding.push, List.append_assoc, List.singleton_append] at hrest

theorem nodup_bindingsFrom (h : ∀ axis ∈ axes, axis.2.Nodup) : (bindingsFrom b axes).Nodup := by
  induction axes generalizing b with
  | nil => exact List.nodup_singleton _
  | cons axis axes ih =>
    obtain ⟨axis, values⟩ := axis
    refine List.nodup_flatMap.2 ⟨fun value _ => ih fun a ha => h a (List.mem_cons_of_mem _ ha), ?_⟩
    refine (h _ List.mem_cons_self).imp fun {value value'} hne b' hmem hmem' => hne ?_
    -- A binding that goes on from two values has both of them at the same position.
    obtain ⟨entries, hentries, -⟩ := picks_of_mem_bindingsFrom hmem
    obtain ⟨entries', hentries', -⟩ := picks_of_mem_bindingsFrom hmem'
    have hsame := hentries.symm.trans hentries'
    simp only [Binding.push, List.append_assoc, List.singleton_append,
      List.append_cancel_left_eq, List.cons.injEq, Prod.mk.injEq] at hsame
    exact hsame.1.2

/-- Instances are the combinations of the axis values of a template in lexicographic order. -/
structure IsProduct (t : Template) (instances : List Instance) : Prop where
  length : instances.length = t.combinations
  product : t.combinations = (t.axes.map (·.2.length)).prod
  value : ∀ k < t.combinations, ∃ entries,
    instances[k]? = some ⟨t, ⟨entries⟩⟩ ∧ Shows t.axes k entries
  distinct : (∀ axis ∈ t.axes, axis.2.Nodup) → (instances.map Instance.binding).Nodup
  picked : ∀ i ∈ instances, Picks i.binding.entries t.axes
  once : (∀ axis ∈ t.axes, axis.2.Nodup) →
    ∀ entries, Picks entries t.axes → instances.count ⟨t, ⟨entries⟩⟩ = 1

theorem bindings_expand (t : Template) : t.expand.map Instance.binding = t.bindings := by
  simp [expand, Function.comp_def]

theorem length_expand (t : Template) : t.expand.length = t.combinations := by
  rw [expand, List.length_map, combinations_eq, bindings, length_bindingsFrom]

theorem isProduct_expand (t : Template) : t.IsProduct t.expand where
  length := t.length_expand
  product := t.combinations_eq
  value k hk := by
    rw [combinations_eq] at hk
    obtain ⟨entries, hget, hshows⟩ := exists_getElem?_bindingsFrom (b := .empty) hk
    exact ⟨entries, by rw [expand, List.getElem?_map, bindings, hget]; rfl, hshows⟩
  distinct h := by
    rw [bindings_expand]
    exact nodup_bindingsFrom h
  picked i hi := by
    obtain ⟨b, hb, rfl⟩ := List.mem_map.1 hi
    exact picks_of_mem_bindings hb
  once h entries hpicks := by
    have hnodup : t.expand.Nodup := List.Nodup.of_map Instance.binding <| by
      rw [bindings_expand]
      exact nodup_bindingsFrom h
    have hmem : (⟨entries⟩ : Binding) ∈ t.bindings := mem_bindingsFrom_of_picks (b := .empty) hpicks
    exact List.count_eq_one_of_mem hnodup (List.mem_map_of_mem hmem)

end Template

/-- A template expands into the combinations of its axis values in lexicographic order, and the
instances of a pipeline are those of its templates, one template after the other. -/
theorem Pipeline.instances_lexicographic :
    (∀ t : Template, t.IsProduct t.expand) ∧
      ∀ p : Pipeline, p.instances = p.templates.flatMap Template.expand ∧
        p.instances.length = (p.templates.map Template.combinations).sum := by
  refine ⟨Template.isProduct_expand, fun p => ⟨rfl, ?_⟩⟩
  rw [instances, List.length_flatMap]
  exact congrArg List.sum (List.map_congr_left fun t _ => t.length_expand)

end JobMatrix
