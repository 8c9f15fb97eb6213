import Mathlib
import JobMatrix.Condition.Printer
import JobMatrix.Proofs.Condition.Lexing
import JobMatrix.Proofs.Condition.Parsing

/-!
# Reading a written condition

A condition is written with the tokens of a derivation of its own, as long as its axes are words and
no value holds a single quote. A value that holds one is written without any mark on it. Such a text
can still be read, but never to the same condition: the text has two single quotes for each value
besides those inside of values, and a text has no more single quotes than its tokens allow, where a
quoted string that holds one cannot stand between two others.
-/

namespace JobMatrix

/-! ## Values -/

/-- The value that an operand is. -/
def Operand.value? : Operand → Option String
  | .axis _ => none
  | .value text => some text

/-- The values in a condition, from left to right and with repeats. -/
def Condition.values : Condition → List String
  | .literal _ => []
  | .truthy _ => []
  | .compare left _ right => left.value?.toList ++ right.value?.toList
  | .not inner => inner.values
  | .and left right => left.values ++ right.values
  | .or left right => left.values ++ right.values

namespace Condition

open Token (Lexeme Lexes isWordChar scan_eq_ok_iff)

/-! ## The derivation of a written condition -/

/-- An operand as a side of a comparison, with the mark on every axis. -/
def side : Operand → Side
  | .axis name => .name (.marked name)
  | .value text => .quoted text

theorem left_side (operand : Operand) : (side operand).left = operand := by
  cases operand <;> rfl

theorem right_side (operand : Operand) : (side operand).right = operand := by
  cases operand <;> rfl

theorem marked_ne_true (axis : String) : "matrix." ++ axis ≠ "true" := by
  intro h
  simpa using congrArg String.toList h

theorem marked_ne_false (axis : String) : "matrix." ++ axis ≠ "false" := by
  intro h
  simpa using congrArg String.toList h

/-- The derivation with the tokens that a condition is written with. -/
def written : Condition → Unary
  | .literal holds => .primary (.lone (.literal holds))
  | .truthy axis =>
    .primary (.lone (.test (.marked axis) (marked_ne_true axis) (marked_ne_false axis)))
  | .compare left comparison right => .primary (.compare (side left) comparison (side right))
  | .not inner => .not (.primary (.group (.mk (.mk inner.written .nil) .nil)))
  | .and left right =>
    .primary (.group (.mk (.mk left.written (.cons right.written .nil)) .nil))
  | .or left right =>
    .primary (.group (.mk (.mk left.written .nil) (.cons (.mk right.written .nil) .nil)))

theorem condition_written (c : Condition) : c.written.condition = c := by
  induction c with
  | literal holds => rfl
  | truthy axis => rfl
  | compare left comparison right =>
    simp only [written, Unary.condition, Primary.condition, left_side, right_side]
  | not inner ih =>
    simp only [written, Unary.condition, Primary.condition, Disjunction.condition,
      Conjunction.condition, Alternatives.onto, Members.onto, ih]
  | and left right ihleft ihright | or left right ihleft ihright =>
    simp only [written, Unary.condition, Primary.condition, Disjunction.condition,
      Conjunction.condition, Alternatives.onto, Members.onto, ihleft, ihright]

theorem tokens_written_not (inner : Condition) :
    (Condition.not inner).written.tokens = .not :: .open :: (inner.written.tokens ++ [.close]) := by
  simp [written, Unary.tokens, Primary.tokens, Disjunction.tokens, Conjunction.tokens,
    Alternatives.tokens, Members.tokens]

theorem tokens_written_and (left right : Condition) : (Condition.and left right).written.tokens =
    .open :: (left.written.tokens ++ .and :: (right.written.tokens ++ [.close])) := by
  simp [written, Unary.tokens, Primary.tokens, Disjunction.tokens, Conjunction.tokens,
    Alternatives.tokens, Members.tokens]

theorem tokens_written_or (left right : Condition) : (Condition.or left right).written.tokens =
    .open :: (left.written.tokens ++ .or :: (right.written.tokens ++ [.close])) := by
  simp [written, Unary.tokens, Primary.tokens, Disjunction.tokens, Conjunction.tokens,
    Alternatives.tokens, Members.tokens]

/-! ## Lexing a written condition -/

/-- Every character may stand in a word. -/
def WordChars (text : String) : Prop := ∀ c ∈ text.toList, isWordChar c = true

/-- A single quote occurs in the text. -/
def HoldsQuote (text : String) : Prop := '\'' ∈ text.toList

variable {cs : List Char} {ts : List Token}

theorem lexes_word (word : String) (hne : word ≠ "") (hword : WordChars word)
    (hends : ∀ c ∈ cs.head?, isWordChar c = false) (h : Lexes cs ts) :
    Lexes (word.toList ++ cs) (.word word :: ts) := by
  have hlexeme : Lexeme (.word (String.ofList word.toList)) word.toList cs :=
    .word (by simpa using hne) hword hends
  rw [String.ofList_toList] at hlexeme
  exact .token hlexeme h

theorem lexes_quoted {text : String} (hquote : ¬ HoldsQuote text) (h : Lexes cs ts) :
    Lexes ('\'' :: (text.toList ++ '\'' :: cs)) (.quoted text :: ts) := by
  have hlexeme : Lexeme (.quoted (String.ofList text.toList)) ('\'' :: text.toList ++ ['\'']) cs :=
    .quoted (.inl rfl) hquote
  rw [String.ofList_toList] at hlexeme
  simpa using Lexes.token hlexeme h

theorem wordChars_marked {axis : String} (h : WordChars axis) : WordChars ("matrix." ++ axis) := by
  intro c hc
  rw [toList_mark_append, List.mem_append] at hc
  exact hc.elim (fun hmark => List.all_eq_true.1 (by decide : axisMark.all isWordChar) c hmark) (h c)

theorem lexes_marked {axis : String} (haxis : WordChars axis)
    (hends : ∀ c ∈ cs.head?, isWordChar c = false) (h : Lexes cs ts) :
    Lexes (("matrix." ++ axis).toList ++ cs) (.word ("matrix." ++ axis) :: ts) :=
  lexes_word _ (by simp) (wordChars_marked haxis) hends h

theorem lexes_operand {operand : Operand} (haxis : ∀ axis ∈ operand.axis?.toList, WordChars axis)
    (hvalue : ∀ value ∈ operand.value?.toList, ¬ HoldsQuote value)
    (hends : ∀ c ∈ cs.head?, isWordChar c = false) (h : Lexes cs ts) :
    Lexes (operand.render.toList ++ cs) ((side operand).token :: ts) := by
  cases operand with
  | axis name => exact lexes_marked (haxis name List.mem_cons_self) hends h
  | value text =>
    have hquoted := lexes_quoted (hvalue text List.mem_cons_self) h
    simpa [Operand.render, side, Side.token] using hquoted

theorem lexes_sign (comparison : Comparison) (h : Lexes cs ts) :
    Lexes (comparison.render.toList ++ cs) (sign comparison :: ts) := by
  cases comparison with
  | equal => exact .token .equal h
  | different => exact .token .different h

theorem lexes_render {c : Condition} (haxes : ∀ axis ∈ c.axes, WordChars axis)
    (hvalues : ∀ value ∈ c.values, ¬ HoldsQuote value)
    (hends : ∀ c ∈ cs.head?, isWordChar c = false) (h : Lexes cs ts) :
    Lexes (c.render.toList ++ cs) (c.written.tokens ++ ts) := by
  induction c generalizing cs ts with
  | literal holds =>
    cases holds with
    | true => exact lexes_word "true" (by simp) (List.all_eq_true.1 rfl) hends h
    | false => exact lexes_word "false" (by simp) (List.all_eq_true.1 rfl) hends h
  | truthy axis => exact lexes_marked (haxes axis List.mem_cons_self) hends h
  | compare left comparison right =>
    simp only [axes, values, List.mem_append, or_imp, forall_and] at haxes hvalues
    have hright := lexes_operand haxes.2 hvalues.2 hends h
    have hsign := lexes_sign comparison (.blank (by decide : Text.isBlank ' ' = true) hright)
    have hleft := lexes_operand haxes.1 hvalues.1 (by simp; decide)
      (.blank (by decide : Text.isBlank ' ' = true) hsign)
    simpa [render, written, Unary.tokens, Primary.tokens] using hleft
  | not inner ih =>
    have hinner := ih haxes hvalues (by simp; decide) (.token .close h)
    have hnot := Lexes.token (.not (by simp)) (.token .open hinner)
    rw [tokens_written_not]
    simpa [render] using hnot
  | and left right ihleft ihright =>
    simp only [axes, values, List.mem_append, or_imp, forall_and] at haxes hvalues
    have hright := ihright haxes.2 hvalues.2 (by simp; decide) (.token .close h)
    have hand := Lexes.token .and (.blank (by decide : Text.isBlank ' ' = true) hright)
    have hleft := ihleft haxes.1 hvalues.1 (by simp; decide)
      (.blank (by decide : Text.isBlank ' ' = true) hand)
    rw [tokens_written_and]
    simpa [render] using Lexes.token .open hleft
  | or left right ihleft ihright =>
    simp only [axes, values, List.mem_append, or_imp, forall_and] at haxes hvalues
    have hright := ihright haxes.2 hvalues.2 (by simp; decide) (.token .close h)
    have hor := Lexes.token .or (.blank (by decide : Text.isBlank ' ' = true) hright)
    have hleft := ihleft haxes.1 hvalues.1 (by simp; decide)
      (.blank (by decide : Text.isBlank ' ' = true) hor)
    rw [tokens_written_or]
    simpa [render] using Lexes.token .open hleft

/-! ## The axes of a condition that was read -/

theorem wordChars_of_lexes (h : Lexes cs ts) {word : String} (hword : .word word ∈ ts) :
    WordChars word := by
  induction h with
  | nil => nomatch hword
  | blank _ _ ih => exact ih hword
  | token lexeme _ ih =>
    rcases List.mem_cons.1 hword with rfl | hmem
    · cases lexeme with
      | word nonempty chars ends => exact fun c hc => chars c (by simpa using hc)
    · exact ih hmem

theorem Name.wordChars_axis {n : Name} (h : WordChars n.word) : WordChars n.axis := by
  cases n with
  | marked axis =>
    intro c hc
    exact h c (by rw [Name.word, toList_mark_append]; exact List.mem_append_right _ hc)
  | plain word unmarked => exact h

/-- The axes of a derived condition are made of the characters of its words. -/
theorem kept_axes : Kept fun ts c =>
    (∀ word, .word word ∈ ts → WordChars word) → ∀ axis ∈ c.axes, WordChars axis where
  lone l hwords := by
    cases l with
    | literal holds => simp [Lone.condition, axes]
    | test name not_true not_false =>
      intro axis haxis
      obtain rfl := List.mem_singleton.1 haxis
      exact Name.wordChars_axis (hwords _ List.mem_cons_self)
  compare left comparison right hwords := by
    intro axis haxis
    rcases List.mem_append.1 haxis with hleft | hright
    · cases left with
      | name n =>
        obtain rfl := List.mem_singleton.1 hleft
        exact Name.wordChars_axis (hwords _ List.mem_cons_self)
      | quoted text => cases hleft
    · cases right with
      | name n =>
        cases n with
        | marked name =>
          obtain rfl := List.mem_singleton.1 hright
          exact Name.wordChars_axis (n := .marked axis) (hwords _ (by simp [Side.token]))
        | plain word unmarked => cases hright
      | quoted text => cases hright
  group ih hwords := ih fun word hword => hwords word (by simp [hword])
  not ih hwords := ih fun word hword => hwords word (by simp [hword])
  and ih ih' hwords axis haxis := by
    rcases List.mem_append.1 haxis with h | h
    · exact ih (fun word hword => hwords word (by simp [hword])) axis h
    · exact ih' (fun word hword => hwords word (by simp [hword])) axis h
  or ih ih' hwords axis haxis := by
    rcases List.mem_append.1 haxis with h | h
    · exact ih (fun word hword => hwords word (by simp [hword])) axis h
    · exact ih' (fun word hword => hwords word (by simp [hword])) axis h

/-! ## Counting single quotes -/

/-- The number of single quotes in a text. -/
def quotes (text : String) : Nat := text.toList.count '\''

/-- The most single quotes that a quoted string is written with: the two around it, or those in it if
they keep it from standing between two others. -/
def room (text : String) : Nat := if quotes text = 0 then 2 else quotes text

/-- The most single quotes that a token is written with. -/
def tokenRoom : Token → Nat
  | .quoted text => room text
  | _ => 0

theorem quotes_eq_zero {text : String} : quotes text = 0 ↔ ¬ HoldsQuote text :=
  List.count_eq_zero

theorem room_le (text : String) : room text ≤ quotes text + 2 := by
  unfold room
  split <;> omega

theorem room_lt {text : String} (h : HoldsQuote text) : room text < quotes text + 2 := by
  have hne : quotes text ≠ 0 := fun hzero => quotes_eq_zero.1 hzero h
  rw [room, if_neg hne]
  omega

theorem count_le_tokenRoom {t : Token} {lexeme : List Char} (h : Lexeme t lexeme cs) :
    lexeme.count '\'' ≤ tokenRoom t := by
  cases h with
  | word nonempty chars ends =>
    have hzero : '\'' ∉ lexeme := fun hmem => absurd (chars _ hmem) (by decide)
    rw [List.count_eq_zero.2 hzero]
    exact Nat.zero_le _
  | @quoted quote text rest isQuote ends =>
    have hquotes : quotes (String.ofList text) = text.count '\'' := by simp [quotes]
    rcases isQuote with rfl | rfl
    · have hzero : text.count '\'' = 0 := List.count_eq_zero.2 ends
      simp [tokenRoom, room, hquotes, hzero]
    · simp only [tokenRoom, room, hquotes, List.count_append, List.count_cons]
      simp
      split <;> omega
  | _ => simp [tokenRoom]

/-- A text has no more single quotes than its tokens allow. -/
theorem count_le_of_lexes (h : Lexes cs ts) : cs.count '\'' ≤ (ts.map tokenRoom).sum := by
  induction h with
  | nil => simp
  | @blank c cs ts hblank _ ih =>
    have hne : c ≠ '\'' := by rintro rfl; exact absurd hblank (by decide)
    simpa [hne] using ih
  | token lexeme _ ih =>
    have hlexeme := count_le_tokenRoom lexeme
    simp only [List.count_append, List.map_cons, List.sum_cons]
    omega

theorem tokenRoom_left_le (s : Side) : tokenRoom s.token ≤ (s.left.value?.toList.map room).sum := by
  cases s <;> simp [Side.token, Side.left, tokenRoom, Operand.value?]

theorem tokenRoom_right_le (s : Side) : tokenRoom s.token ≤ (s.right.value?.toList.map room).sum := by
  match s with
  | .name (.marked axis) => simp [Side.token, tokenRoom]
  | .name (.plain word unmarked) => simp [Side.token, tokenRoom]
  | .quoted text => simp [Side.token, Side.right, tokenRoom, Operand.value?]

/-- Every quoted string becomes a value. -/
theorem kept_room : Kept fun ts c => (ts.map tokenRoom).sum ≤ (c.values.map room).sum where
  lone l := by simp [tokenRoom]
  compare left comparison right := by
    have hleft := tokenRoom_left_le left
    have hright := tokenRoom_right_le right
    have hsign : tokenRoom (sign comparison) = 0 := by cases comparison <;> rfl
    simp only [List.map_cons, List.map_nil, List.sum_cons, List.sum_nil, values, List.map_append,
      List.sum_append, hsign]
    omega
  group ih := by simpa [tokenRoom] using ih
  not ih := by simpa [tokenRoom, values] using ih
  and ih ih' := by
    simp only [List.map_append, List.map_cons, List.sum_append, List.sum_cons, tokenRoom, values]
    omega
  or ih ih' := by
    simp only [List.map_append, List.map_cons, List.sum_append, List.sum_cons, tokenRoom, values]
    omega

theorem quotes_le_render_operand (operand : Operand) :
    (operand.value?.toList.map (quotes · + 2)).sum ≤ operand.render.toList.count '\'' := by
  cases operand with
  | axis name => simp [Operand.value?]
  | value text =>
    simp [Operand.value?, Operand.render, quotes, List.count_append]

/-- Each value is written between two single quotes. -/
theorem quotes_le_render (c : Condition) :
    (c.values.map (quotes · + 2)).sum ≤ c.render.toList.count '\'' := by
  induction c with
  | literal holds => simp [values]
  | truthy axis => simp [values]
  | compare left comparison right =>
    have hleft := quotes_le_render_operand left
    have hright := quotes_le_render_operand right
    simp only [values, render, List.map_append, List.sum_append, String.toList_append,
      List.count_append]
    omega
  | not inner ih =>
    simp only [values, render, String.toList_append, List.count_append]
    omega
  | and left right ihleft ihright | or left right ihleft ihright =>
    simp only [values, render, List.map_append, List.sum_append, String.toList_append,
      List.count_append]
    omega

theorem sum_room_le (texts : List String) :
    (texts.map room).sum ≤ (texts.map (quotes · + 2)).sum := by
  induction texts with
  | nil => simp
  | cons text texts ih =>
    have htext := room_le text
    simp only [List.map_cons, List.sum_cons]
    omega

theorem not_holdsQuote_of_sum_le {texts : List String}
    (h : (texts.map (quotes · + 2)).sum ≤ (texts.map room).sum) :
    ∀ text ∈ texts, ¬ HoldsQuote text := by
  induction texts with
  | nil => simp
  | cons text texts ih =>
    simp only [List.map_cons, List.sum_cons] at h
    have hrest := sum_room_le texts
    have htext := room_le text
    refine List.forall_mem_cons.2 ⟨fun hquote => ?_, ih (by omega)⟩
    have hlt := room_lt hquote
    omega

/-! ## Both directions -/

theorem parse_render {c : Condition} (haxes : ∀ axis ∈ c.axes, WordChars axis)
    (hvalues : ∀ value ∈ c.values, ¬ HoldsQuote value) : parse c.render = .ok c := by
  have hlexes := lexes_render haxes hvalues (by simp) .nil
  rw [List.append_nil, List.append_nil] at hlexes
  refine parse_eq_ok_iff.2 ⟨.mk (.mk c.written .nil) .nil, ?_, condition_written c⟩
  simpa [Disjunction.tokens, Conjunction.tokens, Alternatives.tokens, Members.tokens] using
    scan_eq_ok_iff.2 hlexes

theorem not_holdsQuote_of_parse {c : Condition} (h : parse c.render = .ok c) :
    ∀ value ∈ c.values, ¬ HoldsQuote value := by
  obtain ⟨d, hscan, hc⟩ := parse_eq_ok_iff.1 h
  apply not_holdsQuote_of_sum_le
  calc (c.values.map (quotes · + 2)).sum
      ≤ c.render.toList.count '\'' := quotes_le_render c
    _ ≤ (d.tokens.map tokenRoom).sum := count_le_of_lexes (scan_eq_ok_iff.1 hscan)
    _ ≤ (d.condition.values.map room).sum := kept_room.disjunction d
    _ = (c.values.map room).sum := by rw [hc]

/-- A condition that was read from a text and is written out is read back as itself exactly if none
of its values holds a single quote. -/
theorem parse_render_iff {source : String} {c : Condition} (h : parse source = .ok c) :
    parse c.render = .ok c ↔ ∀ value ∈ c.values, '\'' ∉ value.toList := by
  refine ⟨not_holdsQuote_of_parse, fun hvalues => parse_render ?_ hvalues⟩
  obtain ⟨d, hscan, rfl⟩ := parse_eq_ok_iff.1 h
  exact kept_axes.disjunction d fun word hword =>
    wordChars_of_lexes (scan_eq_ok_iff.1 hscan) hword

end Condition

end JobMatrix

/-! ## A value between double quotes -/

namespace JobMatrix.Small

open Condition

/-- A comparison with a value that a single quote ends too early. -/
def noted : Condition :=
  .and (.compare (.value "") .equal (.axis "")) (.compare (.axis "note") .different (.value "don't"))

theorem parse_noted : parse "('' == matrix. && matrix.note != \"don't\")" = .ok noted := by
  refine parse_eq_ok_iff.2 ⟨.mk (.mk noted.written .nil) .nil, ?_, condition_written noted⟩
  decide +kernel

theorem parse_render_noted :
    parse "('' == matrix. && matrix.note != \"don't\")" = .ok noted ∧
      noted.render = "('' == matrix. && matrix.note != 'don't')" ∧
      parse noted.render ≠ .ok noted := by
  refine ⟨parse_noted, by decide, fun h => ?_⟩
  exact (parse_render_iff parse_noted).1 h "don't" (by decide) (by decide)

end JobMatrix.Small
