import JobMatrix.Placeholder
import JobMatrix.Proofs.Condition.Lexing

/-!
# Splitting at placeholders

A command splits in exactly one way into texts and placeholders if each placeholder is taken where
one first begins. The axes that a command names and the text that it renders to are both read off
that split, so they speak of the same placeholders. What stands for a placeholder is not looked at
again, and a command without one is left as it is.
-/

namespace JobMatrix.Placeholder

open JobMatrix.Text
open JobMatrix.Condition.Token (isWordChar isBlank_of_isWordChar head?_dropWhile takeWhile_append)

/-! ## Placeholders as they are written -/

/-- A placeholder as it is written, with the blanks in front of `matrix.` and behind the name. -/
@[ext] structure Mark where
  lead : List Char
  name : List Char
  trail : List Char
  lead_blank : ∀ c ∈ lead, isBlank c = true
  name_ne_nil : name ≠ []
  name_chars : ∀ c ∈ name, isNameChar c = true
  trail_blank : ∀ c ∈ trail, isBlank c = true

namespace Mark

/-- The axis that a placeholder names. -/
def axis (m : Mark) : String := String.ofList m.name

def text (m : Mark) : List Char :=
  ['$', '{', '{'] ++ m.lead ++ "matrix.".toList ++ m.name ++ m.trail ++ ['}', '}']

end Mark

/-- A placeholder stands at the front of the text. -/
def Begins (cs : List Char) : Prop :=
  ∃ (m : Mark) (rest : List Char), cs = m.text ++ rest

/-- No placeholder begins in `before` when `after` follows it. -/
def NoneIn (before after : List Char) : Prop :=
  ∀ v, v <:+ before → v ≠ [] → ¬ Begins (v ++ after)

/-! ## Splits -/

/-- A text cut at some of its placeholders. -/
inductive Split
  | plain (text : List Char)
  | marked (before : List Char) (m : Mark) (after : Split)

namespace Split

/-- The text that is cut. -/
def text : Split → List Char
  | .plain t => t
  | .marked t m s => t ++ (m.text ++ s.text)

/-- The axes that the placeholders name, in order and with repeats. -/
def axes : Split → List String
  | .plain _ => []
  | .marked _ m s => m.axis :: s.axes

/-- The text with the value of its axis in the stead of each placeholder. -/
def fill (b : Binding) : Split → List Char
  | .plain t => t
  | .marked t m s => t ++ (((b.get? m.axis).getD "").toList ++ s.fill b)

/-- Each placeholder stands where one first begins, and none is left. -/
def Leftmost : Split → Prop
  | .plain t => NoneIn t []
  | .marked t m s => NoneIn t (m.text ++ s.text) ∧ s.Leftmost

/-- The split is one of a command, with its placeholders taken from left to right. -/
structure Of (s : Split) (command : String) : Prop where
  text : s.text = command.toList
  leftmost : s.Leftmost

/-- The segments of a text that is cut. -/
def segments : Split → List Segment
  | .plain t => t.map .char
  | .marked t m s => t.map .char ++ .axis m.axis :: s.segments

/-- The split with one more character in front. -/
def push (c : Char) : Split → Split
  | .plain t => .plain (c :: t)
  | .marked t m s => .marked (c :: t) m s

end Split

/-! ## Reading a placeholder -/

variable {c : Char} {cs rest rest' before after : List Char} {axis command : String} {m m' : Mark}
  {s s' : Split} {b : Binding}

theorem isBlank_of_isNameChar (h : isNameChar c = true) : isBlank c = false := by
  refine isBlank_of_isWordChar ?_
  simp only [isNameChar, Bool.or_eq_true] at h
  simp only [isWordChar, Bool.or_eq_true, h, true_or]

theorem after?_eq_some_iff {word : List Char} : after? word cs = some rest ↔ cs = word ++ rest := by
  unfold after?
  split
  case isTrue hprefix =>
    obtain ⟨tail, rfl⟩ := List.isPrefixOf_iff_prefix.1 hprefix
    simp
  case isFalse hprefix =>
    refine ⟨nofun, fun h => absurd ?_ hprefix⟩
    exact List.isPrefixOf_iff_prefix.2 ⟨rest, h.symm⟩

/-- A run of some characters and what follows it are determined by the text that they make up. -/
theorem run_inj {p : Char → Bool} {run run' : List Char} (hrun : ∀ c ∈ run, p c = true)
    (hrun' : ∀ c ∈ run', p c = true) (hends : ∀ c ∈ rest.head?, p c = false)
    (hends' : ∀ c ∈ rest'.head?, p c = false) (h : run ++ rest = run' ++ rest') :
    run = run' ∧ rest = rest' := by
  have hsame : run = run' := by
    rw [← takeWhile_append hrun hends, h, takeWhile_append hrun' hends']
  subst hsame
  exact ⟨rfl, List.append_cancel_left h⟩

theorem dropWhile_append {p : Char → Bool} {run : List Char} (hrun : ∀ c ∈ run, p c = true)
    (hends : ∀ c ∈ rest.head?, p c = false) : (run ++ rest).dropWhile p = rest := by
  have hsplit := List.takeWhile_append_dropWhile (p := p) (l := run ++ rest)
  rw [takeWhile_append hrun hends] at hsplit
  exact List.append_cancel_left hsplit

namespace Mark

theorem text_append (m : Mark) (rest : List Char) :
    m.text ++ rest = ['$', '{', '{'] ++
      (m.lead ++ ("matrix.".toList ++ (m.name ++ (m.trail ++ (['}', '}'] ++ rest))))) := by
  simp [text]

/-! Each run in a placeholder is as long as it can be: what follows it is of another kind. -/

theorem lead_ends (tail : List Char) : ∀ c ∈ ("matrix.".toList ++ tail).head?, isBlank c = false := by
  intro c hc
  obtain rfl : 'm' = c := by simpa using hc
  decide

theorem name_ends (m : Mark) (rest : List Char) :
    ∀ c ∈ (m.trail ++ (['}', '}'] ++ rest)).head?, isNameChar c = false := by
  intro c hc
  cases htrail : m.trail with
  | nil =>
    obtain rfl : '}' = c := by simpa [htrail] using hc
    decide
  | cons d trail =>
    obtain rfl : d = c := by simpa [htrail] using hc
    have hblank := m.trail_blank d (by simp [htrail])
    by_contra hname
    rw [Bool.not_eq_false] at hname
    simp [isBlank_of_isNameChar hname] at hblank

theorem trail_ends (rest : List Char) : ∀ c ∈ (['}', '}'] ++ rest).head?, isBlank c = false := by
  intro c hc
  obtain rfl : '}' = c := by simpa using hc
  decide

theorem text_append_inj (h : m.text ++ rest = m'.text ++ rest') : m = m' ∧ rest = rest' := by
  rw [text_append, text_append] at h
  obtain ⟨hlead, h⟩ := run_inj m.lead_blank m'.lead_blank (lead_ends _) (lead_ends _)
    (List.append_cancel_left h)
  obtain ⟨hname, h⟩ := run_inj m.name_chars m'.name_chars (m.name_ends rest) (m'.name_ends rest')
    (List.append_cancel_left h)
  obtain ⟨htrail, h⟩ := run_inj m.trail_blank m'.trail_blank (trail_ends rest) (trail_ends rest') h
  exact ⟨Mark.ext hlead hname htrail, List.append_cancel_left h⟩

theorem text_ne_nil (m : Mark) : m.text ≠ [] := by
  simp [text]

end Mark

/-- A placeholder is found at the front of a text exactly if it is written there. -/
theorem match?_eq_some_iff :
    match? cs = some (axis, rest) ↔ ∃ m : Mark, m.axis = axis ∧ cs = m.text ++ rest := by
  simp only [match?, Option.bind_eq_bind, Option.bind_eq_some_iff, after?_eq_some_iff]
  constructor
  · rintro ⟨inner, rfl, named, hnamed, h⟩
    split at h
    · cases h
    · rename_i hname
      obtain ⟨_, hclose, h⟩ := Option.bind_eq_some_iff.1 h
      cases h
      refine ⟨⟨inner.takeWhile isBlank, named.takeWhile isNameChar,
        (named.dropWhile isNameChar).takeWhile isBlank, fun _ => List.mem_takeWhile_imp,
        by simpa using hname, fun _ => List.mem_takeWhile_imp,
        fun _ => List.mem_takeWhile_imp⟩, rfl, ?_⟩
      rw [Mark.text_append, ← after?_eq_some_iff.1 hclose, List.takeWhile_append_dropWhile,
        List.takeWhile_append_dropWhile, ← hnamed, List.takeWhile_append_dropWhile]
  · rintro ⟨m, rfl, rfl⟩
    refine ⟨_, m.text_append rest, _, dropWhile_append m.lead_blank (Mark.lead_ends _), ?_⟩
    have hname := m.name_ends rest
    rw [takeWhile_append m.name_chars hname, dropWhile_append m.name_chars hname,
      dropWhile_append m.trail_blank (Mark.trail_ends rest), if_neg (by simpa using m.name_ne_nil),
      after?_eq_some_iff.2 rfl]
    rfl

theorem begins_iff : Begins cs ↔ (match? cs).isSome = true := by
  simp only [Begins, Option.isSome_iff_exists, Prod.exists, match?_eq_some_iff]
  constructor
  · rintro ⟨m, rest, h⟩
    exact ⟨m.axis, rest, m, rfl, h⟩
  · rintro ⟨_, rest, m, -, h⟩
    exact ⟨m, rest, h⟩

instance (cs : List Char) : Decidable (Begins cs) :=
  decidable_of_iff _ begins_iff.symm

/-! ## Texts without placeholders -/

instance (before after : List Char) : Decidable (NoneIn before after) :=
  decidable_of_iff (∀ v ∈ before.tails, v ≠ [] → ¬ Begins (v ++ after)) (by simp [NoneIn])

theorem noneIn_nil : NoneIn [] after := by
  intro v hv hne
  exact absurd (List.suffix_nil.1 hv) hne

theorem noneIn_cons_iff : NoneIn (c :: before) after ↔
    ¬ Begins (c :: (before ++ after)) ∧ NoneIn before after := by
  simp only [NoneIn, List.suffix_cons_iff, or_imp, forall_and]
  refine and_congr_left' ⟨fun h => ?_, ?_⟩
  · exact h _ rfl (List.cons_ne_nil c before)
  · rintro h _ rfl -
    exact h

/-- A placeholder that begins behind a text without one does not begin in it. -/
theorem NoneIn.eq_nil {v : List Char} (h : NoneIn (before ++ v) after) (hbegins : Begins (v ++ after)) :
    v = [] := by
  by_contra hne
  exact h v (List.suffix_append before v) hne hbegins

/-! ## The split of a command -/

namespace Split

theorem text_push (c : Char) (s : Split) : (s.push c).text = c :: s.text := by
  cases s <;> rfl

theorem segments_push (c : Char) (s : Split) : (s.push c).segments = .char c :: s.segments := by
  cases s <;> rfl

theorem leftmost_push_iff : (s.push c).Leftmost ↔ ¬ Begins (c :: s.text) ∧ s.Leftmost := by
  cases s with
  | plain t =>
    rw [push, Leftmost, Leftmost, noneIn_cons_iff, text, List.append_nil]
  | marked t m s => rw [push, Leftmost, Leftmost, noneIn_cons_iff, and_assoc, text]

/-- Two splits of one text that take the placeholders from left to right are the same. -/
theorem Leftmost.unique (h : s.Leftmost) (h' : s'.Leftmost) (htext : s.text = s'.text) : s = s' := by
  induction s generalizing s' with
  | plain t =>
    cases s' with
    | plain t' => exact congrArg plain htext
    | marked t' m' s' =>
      obtain rfl : t = t' ++ (m'.text ++ s'.text) := htext
      have hnil := NoneIn.eq_nil h (by rw [List.append_nil]; exact ⟨m', _, rfl⟩)
      simp [m'.text_ne_nil] at hnil
  | marked t m s ih =>
    cases s' with
    | plain t' =>
      obtain rfl : t ++ (m.text ++ s.text) = t' := htext
      have hnil := NoneIn.eq_nil h' (by rw [List.append_nil]; exact ⟨m, _, rfl⟩)
      simp [m.text_ne_nil] at hnil
    | marked t' m' s' =>
      obtain ⟨hnone, hrest⟩ := h
      obtain ⟨hnone', hrest'⟩ := h'
      -- The text in front that is shorter ends at a placeholder, so the other ends there as well.
      have hbefore : t = t' := by
        rcases List.append_eq_append_iff.1 htext with ⟨v, rfl, heq⟩ | ⟨v, rfl, heq⟩
        · have hnil := hnone'.eq_nil (heq ▸ ⟨m, _, rfl⟩)
          simp [hnil]
        · have hnil := hnone.eq_nil (heq ▸ ⟨m', _, rfl⟩)
          simp [hnil]
      subst hbefore
      obtain ⟨rfl, hafter⟩ := Mark.text_append_inj (List.append_cancel_left htext)
      rw [ih hrest hrest' hafter]

/-- Every text has a split that takes the placeholders from left to right. -/
theorem exists_leftmost (cs : List Char) :
    ∃ s : Split, s.text = cs ∧ s.Leftmost ∧ s.segments = Placeholder.segments cs := by
  fun_induction Placeholder.segments cs with
  | case1 => exact ⟨.plain [], rfl, noneIn_nil, rfl⟩
  | case2 c cs axis after hmatch ih =>
    obtain ⟨s, htext, hleftmost, hsegments⟩ := ih
    obtain ⟨m, rfl, hcs⟩ := match?_eq_some_iff.1 hmatch
    refine ⟨.marked [] m s, ?_, ⟨noneIn_nil, hleftmost⟩, ?_⟩
    · rw [text, htext, hcs, List.nil_append]
    · rw [segments, hsegments]
      rfl
  | case3 c cs hmatch ih =>
    obtain ⟨s, rfl, hleftmost, hsegments⟩ := ih
    refine ⟨s.push c, s.text_push c, leftmost_push_iff.2 ⟨?_, hleftmost⟩, ?_⟩
    · rw [begins_iff, hmatch]
      nofun
    · rw [segments_push, hsegments]

theorem filterMap_segments (s : Split) : s.segments.filterMap Segment.axis? = s.axes := by
  induction s with
  | plain t => simp [segments, axes, List.filterMap_map, Function.comp_def, Segment.axis?]
  | marked t m s ih =>
    have htext : (t.map Segment.char).filterMap Segment.axis? = [] := by
      simp [List.filterMap_map, Function.comp_def, Segment.axis?]
    rw [segments, axes, List.filterMap_append, htext, List.nil_append, List.filterMap_cons, ih]
    rfl

theorem flatMap_segments (b : Binding) (s : Split) :
    s.segments.flatMap (Segment.render b) = s.fill b := by
  have htext (t : List Char) : (t.map Segment.char).flatMap (Segment.render b) = t := by
    simp [List.flatMap_map, Segment.render]
  induction s with
  | plain t => exact htext t
  | marked t m s ih =>
    rw [segments, fill, List.flatMap_append, htext, List.flatMap_cons, ih]
    rfl

end Split

/-- A command has exactly one split that takes its placeholders from left to right. It names the axes
of that split, and renders to its texts with the values of the axes between them. Without a
placeholder it renders to itself. -/
theorem splits_uniquely (command : String) :
    ∃ s : Split, s.Of command ∧ (∀ s' : Split, s'.Of command → s' = s) ∧
      axes command = s.axes ∧ (∀ b, render command b = String.ofList (s.fill b)) ∧
      (NoneIn command.toList [] → ∀ b, render command b = command) := by
  obtain ⟨s, htext, hleftmost, hsegments⟩ := Split.exists_leftmost command.toList
  have hrender (b : Binding) : render command b = String.ofList (s.fill b) := by
    rw [render, ← hsegments, Split.flatMap_segments]
  refine ⟨s, ⟨htext, hleftmost⟩, fun s' hs' => ?_, ?_, hrender, fun hnone b => ?_⟩
  · exact hs'.leftmost.unique hleftmost (hs'.text.trans htext.symm)
  · rw [axes, ← hsegments, Split.filterMap_segments]
  · obtain rfl : .plain command.toList = s := Split.Leftmost.unique hnone hleftmost htext.symm
    rw [hrender, Split.fill, String.ofList_toList]

/-- A value that looks like a placeholder is not looked at again. -/
example : render "echo $${{matrix.a}}!" ⟨[("a", "$1 ${{ matrix.b }}"), ("b", "x")]⟩ =
    "echo $$1 ${{ matrix.b }}!" := by decide +kernel

end JobMatrix.Placeholder

namespace JobMatrix.Small

open Placeholder

/-- A blank in front of the name and a missing brace keep a text from being a placeholder. -/
def nearMisses : String := "echo ${{ matrix. os }} $\x7b\x7b matrix.os \x7d"

theorem splits_uniquely_nearMisses :
    NoneIn nearMisses.toList [] ∧ ∀ b, render nearMisses b = nearMisses := by
  have hnone : NoneIn nearMisses.toList [] := by decide +kernel
  obtain ⟨s, -, -, -, -, hself⟩ := splits_uniquely nearMisses
  exact ⟨hnone, hself hnone⟩

end JobMatrix.Small
