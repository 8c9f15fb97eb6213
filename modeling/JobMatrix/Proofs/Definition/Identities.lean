import JobMatrix.Proofs.Pipeline.Expansion

/-!
# Identities

An identity is written without escapes: the name of a job, and behind it, in parentheses, the values
of its axes with commas between them. If no name has a blank and an opening parenthesis in a row, and
no value with its axis a comma and a blank, then each identity can be taken apart again in only one
way, whatever else the texts hold. So a definition with such texts, in which nothing else is wrong,
is not refused for the identities of its instances.
-/

namespace JobMatrix

/-! ## Taking texts apart -/

namespace Text

variable {a b : Char} {s t rest rest' : List Char} {xs ys : List (List Char)}

/-- What begins with a separator does not begin with a text that goes up to its first occurrence. -/
theorem ne_append_separator {c : Char} (hab : a ≠ b) (ht : ¬ [a, b] <:+: c :: t) :
    a :: b :: rest ≠ c :: t ++ a :: b :: rest' := by
  intro h
  cases t with
  | nil =>
    simp only [List.singleton_append, List.cons.injEq] at h
    exact hab h.2.1.symm
  | cons d t =>
    simp only [List.cons_append, List.cons.injEq] at h
    obtain ⟨rfl, rfl, -⟩ := h
    exact ht ⟨[], t, rfl⟩

/-- The first occurrence of a separator of two different characters divides a text. -/
theorem eq_of_append_separator (hab : a ≠ b) (hs : ¬ [a, b] <:+: s) (ht : ¬ [a, b] <:+: t)
    (h : s ++ a :: b :: rest = t ++ a :: b :: rest') : s = t ∧ rest = rest' := by
  induction s generalizing t with
  | nil =>
    cases t with
    | nil => simpa using h
    | cons c t => exact absurd h (ne_append_separator hab ht)
  | cons c s ih =>
    cases t with
    | nil => exact absurd h.symm (ne_append_separator hab hs)
    | cons d t =>
      simp only [List.cons_append, List.cons.injEq] at h
      obtain ⟨rfl, h⟩ := h
      obtain ⟨rfl, hrest⟩ := ih (fun hin => hs (List.infix_cons hin))
        (fun hin => ht (List.infix_cons hin)) h
      exact ⟨rfl, hrest⟩

/-- Texts without the separator between them are found again. -/
theorem eq_of_intercalate (hab : a ≠ b) (hxs : ∀ x ∈ xs, ¬ [a, b] <:+: x)
    (hys : ∀ y ∈ ys, ¬ [a, b] <:+: y) (hxs_ne : xs ≠ []) (hys_ne : ys ≠ [])
    (h : [a, b].intercalate xs = [a, b].intercalate ys) : xs = ys := by
  induction xs generalizing ys with
  | nil => exact absurd rfl hxs_ne
  | cons x xs ih =>
    obtain ⟨y, ys, rfl⟩ := List.exists_cons_of_ne_nil hys_ne
    obtain ⟨hx, hxs_rest⟩ := List.forall_mem_cons.1 hxs
    obtain ⟨hy, hys_rest⟩ := List.forall_mem_cons.1 hys
    cases xs with
    | nil =>
      cases ys with
      | nil => simpa using h
      | cons y' ys =>
        -- The separator of the pieces on the right would lie in the only one on the left.
        refine absurd ⟨y, [a, b].intercalate (y' :: ys), ?_⟩ hx
        simpa using h.symm
    | cons x' xs =>
      cases ys with
      | nil =>
        refine absurd ⟨x, [a, b].intercalate (x' :: xs), ?_⟩ hy
        simpa using h
      | cons y' ys =>
        simp only [List.intercalate_cons_cons, List.append_assoc, List.cons_append,
          List.nil_append] at h
        obtain ⟨rfl, hrest⟩ := eq_of_append_separator hab hx hy h
        have hothers : x' :: xs = y' :: ys := ih hxs_rest hys_rest nofun nofun hrest
        rw [hothers]

end Text

/-! ## Taking identities apart -/

namespace Binding

variable {binding binding' : Binding} {name name' : String} {entries entries' : List (String × String)}

/-- An axis with its value, as an identity shows them. -/
def shown (entry : String × String) : List Char :=
  (entry.1 ++ "=" ++ entry.2).toList

/-- A name can be told from the values behind it. -/
def PlainName (name : String) : Prop :=
  ¬ [' ', '('] <:+: name.toList

/-- An axis with its value can be told from those behind it. -/
def PlainEntry (entry : String × String) : Prop :=
  ¬ [',', ' '] <:+: shown entry

instance (name : String) : Decidable (PlainName name) :=
  inferInstanceAs (Decidable (¬ [' ', '('] <:+: name.toList))

instance (entry : String × String) : Decidable (PlainEntry entry) :=
  inferInstanceAs (Decidable (¬ [',', ' '] <:+: shown entry))

theorem toList_instanceId_of_ne_nil (h : binding.entries ≠ []) (name : String) :
    (binding.instanceId name).toList = name.toList ++
      ' ' :: '(' :: ([',', ' '].intercalate (binding.entries.map shown) ++ [')']) := by
  rw [instanceId, if_neg (by simpa using h)]
  have hshown : binding.entries.map (String.toList ∘ fun entry => entry.1 ++ "=" ++ entry.2) =
      binding.entries.map shown := rfl
  simp only [String.toList_append, String.toList_intercalate, List.map_map, hshown]
  simp

theorem instanceId_of_eq_nil (h : binding.entries = []) (name : String) :
    binding.instanceId name = name := by
  rw [instanceId, if_pos (by simpa using h)]

/-- An identity of plain texts tells the name and each axis with its value. -/
theorem eq_of_instanceId (hname : PlainName name) (hname' : PlainName name')
    (hentries : ∀ entry ∈ binding.entries, PlainEntry entry)
    (hentries' : ∀ entry ∈ binding'.entries, PlainEntry entry)
    (h : binding.instanceId name = binding'.instanceId name') :
    name = name' ∧ binding.entries.map shown = binding'.entries.map shown := by
  have hlist := congrArg String.toList h
  by_cases hnil : binding.entries = [] <;> by_cases hnil' : binding'.entries = []
  · rw [instanceId_of_eq_nil hnil, instanceId_of_eq_nil hnil'] at h
    rw [hnil, hnil']
    exact ⟨h, rfl⟩
  · -- An identity with values has the mark behind its name in it, and a plain name has not.
    rw [instanceId_of_eq_nil hnil, toList_instanceId_of_ne_nil hnil'] at hlist
    exact absurd ⟨name'.toList, _, by rw [hlist, List.append_assoc]; rfl⟩ hname
  · rw [toList_instanceId_of_ne_nil hnil, instanceId_of_eq_nil hnil'] at hlist
    exact absurd ⟨name.toList, _, by rw [← hlist, List.append_assoc]; rfl⟩ hname'
  · -- The first mark ends the name, and what is left are the values and one closing parenthesis.
    rw [toList_instanceId_of_ne_nil hnil, toList_instanceId_of_ne_nil hnil'] at hlist
    obtain ⟨hnames, hrest⟩ := Text.eq_of_append_separator (by decide) hname hname' hlist
    refine ⟨String.toList_inj.1 hnames, ?_⟩
    exact Text.eq_of_intercalate (by decide) (List.forall_mem_map.2 hentries)
      (List.forall_mem_map.2 hentries') (by simpa using hnil) (by simpa using hnil')
      (List.append_cancel_right hrest)

/-- Entries of the same axes that are shown alike are the same. -/
theorem eq_of_map_shown (hnames : entries.map (·.1) = entries'.map (·.1))
    (h : entries.map shown = entries'.map shown) : entries = entries' := by
  induction entries generalizing entries' with
  | nil => simpa [eq_comm] using h
  | cons entry entries ih =>
    cases entries' with
    | nil => cases h
    | cons entry' entries' =>
      obtain ⟨axis, value⟩ := entry
      obtain ⟨axis', value'⟩ := entry'
      simp only [List.map_cons, List.cons.injEq, shown, String.toList_inj] at hnames h
      obtain ⟨rfl, hnames⟩ := hnames
      obtain ⟨hfirst, hrest⟩ := h
      rw [ih hnames hrest, (String.append_right_inj _).1 hfirst]

end Binding

/-- What is picked is the value of an axis. -/
theorem Picks.exists_axis {entries : List (String × String)} {axes : List (String × List String)}
    {entry : String × String} (h : Picks entries axes) (hentry : entry ∈ entries) :
    ∃ axis ∈ axes, entry.1 = axis.1 ∧ entry.2 ∈ axis.2 := by
  induction h with
  | nil => cases hentry
  | @cons _ axis _ _ hhead _ ih =>
    rcases List.mem_cons.1 hentry with rfl | hentry
    · exact ⟨axis, List.mem_cons_self, hhead⟩
    · obtain ⟨axis, haxis, hpicked⟩ := ih hentry
      exact ⟨axis, List.mem_cons_of_mem _ haxis, hpicked⟩

/-! ## Identities of a definition -/

namespace Definition

variable {j : JobDefinition} {d : PipelineDefinition}

/-- Everything that a valid definition needs but different identities of its instances. -/
structure PipelineDefinition.ValidApartFromIds (d : PipelineDefinition) : Prop where
  name_not_blank : Text.isBlankText d.name = false
  maxParallel_ne_zero : d.maxParallel ≠ some 0
  shell : ∀ words, d.shell = some words →
    ∃ program arguments, words = program :: arguments ∧ Text.isBlankText program = false
  jobs_distinct : (d.jobs.map JobDefinition.name).Nodup
  jobs : ∀ j ∈ d.jobs, j.Valid
  env : ValidEnv d.env

theorem PipelineDefinition.valid_iff :
    d.Valid ↔ d.ValidApartFromIds ∧ (d.jobs.flatMap JobDefinition.instanceIds).Nodup :=
  ⟨fun h => ⟨⟨h.1, h.2, h.3, h.4, h.5, h.7⟩, h.6⟩, fun ⟨h, hids⟩ => ⟨h.1, h.2, h.3, h.4, h.5, hids, h.6⟩⟩

/-- In the identities of a job its name and its values can be told apart. -/
structure JobDefinition.Plain (j : JobDefinition) : Prop where
  name : Binding.PlainName j.name
  entries : ∀ axis ∈ j.axes.map readAxis, ∀ value ∈ axis.2, Binding.PlainEntry (axis.1, value)

theorem ValidAxis.nodup_values {axis : Yaml.Value × Yaml.Value} (h : ValidAxis axis) :
    (readAxis axis).2.Nodup := by
  obtain ⟨items, hitems, -, -, hnodup⟩ := h.values
  rw [readAxis, hitems.items?_eq]
  exact hnodup

/-- The bindings of a job pick a value for each of its axes. -/
theorem JobDefinition.picks_of_mem {binding : Binding}
    (h : binding ∈ Template.bindingsFrom .empty (j.axes.map readAxis)) :
    Picks binding.entries (j.axes.map readAxis) :=
  Template.picks_of_mem_bindings (t := j.read none "") h

theorem JobDefinition.Plain.plainEntry (h : j.Plain) {binding : Binding}
    (hbinding : binding ∈ Template.bindingsFrom .empty (j.axes.map readAxis)) :
    ∀ entry ∈ binding.entries, Binding.PlainEntry entry := by
  intro entry hentry
  obtain ⟨axis, haxis, hname, hvalue⟩ := (picks_of_mem hbinding).exists_axis hentry
  have hplain := h.entries axis haxis entry.2 hvalue
  rwa [← hname] at hplain

/-- A job of plain texts has an identity for each of its instances. -/
theorem JobDefinition.Valid.nodup_instanceIds (h : j.Valid) (hplain : j.Plain) :
    j.instanceIds.Nodup := by
  have hbindings : (Template.bindingsFrom .empty (j.axes.map readAxis)).Nodup :=
    Template.nodup_bindingsFrom <| List.forall_mem_map.2 fun axis haxis =>
      (h.axes axis haxis).nodup_values
  refine hbindings.map_on fun binding hbinding binding' hbinding' heq => ?_
  have hshown := (Binding.eq_of_instanceId hplain.name hplain.name (hplain.plainEntry hbinding)
    (hplain.plainEntry hbinding') heq).2
  -- What is shown may be divided at another sign of equality, but the axes are those of the job.
  have hnames : binding.entries.map (·.1) = binding'.entries.map (·.1) := by
    rw [(picks_of_mem hbinding).names_eq, (picks_of_mem hbinding').names_eq]
  exact congrArg Binding.mk (Binding.eq_of_map_shown hnames hshown)

/-- Jobs of plain texts with different names share no identity. -/
theorem disjoint_instanceIds {j' : JobDefinition} (hplain : j.Plain) (hplain' : j'.Plain)
    (hname : j.name ≠ j'.name) : j.instanceIds.Disjoint j'.instanceIds := by
  intro id hid hid'
  obtain ⟨binding, hbinding, rfl⟩ := List.mem_map.1 hid
  obtain ⟨binding', hbinding', heq⟩ := List.mem_map.1 hid'
  exact hname (Binding.eq_of_instanceId hplain.name hplain'.name (hplain.plainEntry hbinding)
    (hplain'.plainEntry hbinding') heq.symm).1

/-- A definition is not refused for its identities if no name has a blank and an opening parenthesis
in a row and no axis with its value a comma and a blank: if nothing else is wrong with it, all its
instances have different identities, and it loads. -/
theorem PipelineDefinition.loads_of_plain (h : d.ValidApartFromIds)
    (hplain : ∀ j ∈ d.jobs, j.Plain) :
    (d.jobs.flatMap JobDefinition.instanceIds).Nodup ∧
      ∀ base, ∃ p, d.load base = .ok p ∧
        p.instances.map Instance.id = d.jobs.flatMap JobDefinition.instanceIds := by
  have hids : (d.jobs.flatMap JobDefinition.instanceIds).Nodup := by
    rw [List.nodup_flatMap]
    refine ⟨fun j hj => (h.jobs j hj).nodup_instanceIds (hplain j hj), ?_⟩
    refine (List.pairwise_map.1 h.jobs_distinct).imp_of_mem fun hj hj' hname => ?_
    exact disjoint_instanceIds (hplain _ hj) (hplain _ hj') hname
  refine ⟨hids, fun base => ⟨d.read base, ?_, d.read_instances_ids base⟩⟩
  exact load_eq_ok_iff.2 ⟨valid_iff.2 ⟨h, hids⟩, rfl⟩

end Definition

end JobMatrix

/-! ## Texts close to the marks -/

namespace JobMatrix.Small

open Definition

/-- The job of the small definition under another name and with other axes. -/
def jobWith (name : String) (axes : List (String × List String)) : JobDefinition :=
  { job with name, axes := axes.map fun axis => (.text axis.1, .list (axis.2.map .text)) }

theorem jobWith_valid {name : String} {axes : List (String × List String)}
    (hname : Text.isBlankText name = false)
    (haxes : ∀ axis ∈ axes, Text.isBlankText axis.1 = false ∧ axis.2 ≠ [] ∧ axis.2.Nodup) :
    (jobWith name axes).Valid where
  name_not_blank := hname
  steps_ne_nil := List.cons_ne_nil _ _
  axes := List.forall_mem_map.2 fun axis haxis => by
    obtain ⟨hblank, hne, hnodup⟩ := haxes axis haxis
    exact validAxis_texts axis.1 axis.2 hblank hne hnodup
  condition := validCondition_none _
  steps := by
    intro s hs
    obtain rfl := List.mem_singleton.1 hs
    exact ⟨by decide, by simp [axes_make], validCondition_none _, validEnv_empty⟩
  env := validEnv_empty

/-- Names and values that begin or end like the marks of an identity. -/
def closeDefinition : PipelineDefinition :=
  { definition with
    jobs := [jobWith "a" [("x", ["", ",", "1,"]), ("y", [" 2", ""])], jobWith "a " [("x", [""])],
      jobWith "a(x=, y=)" []] }

theorem loads_of_plain_close :
    closeDefinition.jobs.flatMap JobDefinition.instanceIds =
      ["a (x=, y= 2)", "a (x=, y=)", "a (x=,, y= 2)", "a (x=,, y=)", "a (x=1,, y= 2)",
        "a (x=1,, y=)", "a  (x=)", "a(x=, y=)"] ∧
    (closeDefinition.jobs.flatMap JobDefinition.instanceIds).Nodup ∧
    ∃ p, closeDefinition.load "/w" = .ok p := by
  have hapart : closeDefinition.ValidApartFromIds := by
    refine ⟨by decide, by decide, nofun, by decide, ?_, validEnv_empty⟩
    simp only [closeDefinition, List.forall_mem_cons, List.not_mem_nil, false_implies, implies_true,
      and_true]
    refine ⟨jobWith_valid ?_ ?_, jobWith_valid ?_ ?_, jobWith_valid ?_ ?_⟩ <;> decide
  have hplain : ∀ j ∈ closeDefinition.jobs, j.Plain := by
    simp only [closeDefinition, List.forall_mem_cons, List.not_mem_nil, false_implies, implies_true,
      and_true]
    refine ⟨⟨?_, ?_⟩, ⟨?_, ?_⟩, ⟨?_, ?_⟩⟩ <;> decide
  obtain ⟨hids, hload⟩ := PipelineDefinition.loads_of_plain hapart hplain
  obtain ⟨p, hp, -⟩ := hload "/w"
  exact ⟨by decide, hids, p, hp⟩

end JobMatrix.Small
