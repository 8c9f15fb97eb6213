import Mathlib.Data.List.TakeWhile
import JobMatrix.Text.Blank
import JobMatrix.Text.Lines

/-!
# What lines are

The lines of a text and the text without the blank characters at its end, as relations that do not
look at how either is found. A text has exactly one list of lines, and the function finds it.
-/

namespace JobMatrix.Text

variable {text line rest shown : List Char} {lines : List (List Char)}

/-! ## Lines -/

/-- A text has some lines. Each ends at a line feed, or at a carriage return and a line feed. Only
the last one may go without an end, and then it is not empty. -/
inductive IsLines : List Char → List (List Char) → Prop
  | nil : IsLines [] []
  /-- A carriage return at the very end of the text belongs to the last line. -/
  | last {line : List Char} (hne : line ≠ []) (hline : '\n' ∉ line) : IsLines line [line]
  | lineFeed {line rest : List Char} {lines : List (List Char)} (hline : '\n' ∉ line)
      (hreturn : line.getLast? ≠ some '\r') (hrest : IsLines rest lines) :
      IsLines (line ++ '\n' :: rest) (line :: lines)
  | returned {line rest : List Char} {lines : List (List Char)} (hline : '\n' ∉ line)
      (hrest : IsLines rest lines) : IsLines (line ++ '\r' :: '\n' :: rest) (line :: lines)

theorem chompReturn_of_ne (h : line.getLast? ≠ some '\r') : chompReturn line = line :=
  if_neg h

theorem chompReturn_concat (line : List Char) : chompReturn (line ++ ['\r']) = line := by
  simp [chompReturn]

/-- What is in front of a line feed is a line, without the carriage return that it may end with. -/
theorem IsLines.cons (hline : '\n' ∉ line) (hrest : IsLines rest lines) :
    IsLines (line ++ '\n' :: rest) (chompReturn line :: lines) := by
  by_cases hreturn : line.getLast? = some '\r'
  · obtain ⟨begin, rfl⟩ := List.getLast?_eq_some_iff.1 hreturn
    rw [chompReturn_concat, List.append_assoc]
    exact .returned (fun h => hline (List.mem_append_left _ h)) hrest
  · rw [chompReturn_of_ne hreturn]
    exact .lineFeed hline hreturn hrest

/-- The line so far has no line feed in it, and goes on with the rest of the text. -/
theorem isLines_linesFrom (hline : '\n' ∉ line) :
    IsLines (line.reverse ++ text) (linesFrom line text) := by
  fun_induction linesFrom line text with
  | case1 line hempty =>
    rw [List.isEmpty_iff.1 hempty]
    exact .nil
  | case2 line hempty =>
    rw [List.append_nil]
    exact .last (by simpa using hempty) (by simpa using hline)
  | case3 line rest ih => exact .cons (by simpa using hline) (ih List.not_mem_nil)
  | case4 line c rest hc ih =>
    have hgoes := ih (by simpa [List.mem_cons, hline] using fun h => hc h.symm)
    rwa [List.reverse_cons, List.append_assoc] at hgoes

/-- A text without line feeds goes on with the line so far. -/
theorem linesFrom_append (hline : '\n' ∉ line) (before rest : List Char) :
    linesFrom before (line ++ rest) = linesFrom (line.reverse ++ before) rest := by
  induction line generalizing before with
  | nil => rfl
  | cons c line ih =>
    rw [List.mem_cons, not_or] at hline
    have hgoes : linesFrom before (c :: (line ++ rest)) = linesFrom (c :: before) (line ++ rest) :=
      linesFrom.eq_3 before c (line ++ rest) fun h => hline.1 h.symm
    rw [List.cons_append, hgoes, ih hline.2, List.reverse_cons, List.append_assoc]
    rfl

theorem linesFrom_lineFeed (before rest : List Char) :
    linesFrom before ('\n' :: rest) = chompReturn before.reverse :: linesFrom [] rest := rfl

/-- The lines of a text are those that the function finds. -/
theorem linesFrom_eq_iff : linesFrom [] text = lines ↔ IsLines text lines := by
  constructor
  · rintro rfl
    exact isLines_linesFrom List.not_mem_nil
  · intro h
    induction h with
    | nil => rfl
    | @last line hne hline =>
      have hgoes := linesFrom_append hline [] []
      rw [List.append_nil, List.append_nil] at hgoes
      rw [hgoes, linesFrom, if_neg (by simpa using hne), List.reverse_reverse]
    | lineFeed hline hreturn _ ih =>
      rw [linesFrom_append hline, linesFrom_lineFeed, ih, List.append_nil, List.reverse_reverse,
        chompReturn_of_ne hreturn]
    | @returned line rest _ hline _ ih =>
      have hreturn : '\n' ∉ line ++ ['\r'] := by simp [hline]
      rw [List.append_cons, linesFrom_append hreturn, linesFrom_lineFeed, ih, List.append_nil,
        List.reverse_reverse, chompReturn_concat]

/-! ## Trimmed texts -/

/-- A text without the blank characters at its end. -/
structure IsTrimmed (text shown : List Char) : Prop where
  rest_blank : ∃ rest, text = shown ++ rest ∧ ∀ c ∈ rest, isBlank c = true
  last_not_blank : ∀ c ∈ shown.getLast?, isBlank c = false

theorem isTrimmed_trimEnd (text : List Char) : IsTrimmed text (trimEnd text) where
  rest_blank := by
    refine ⟨(text.reverse.takeWhile isBlank).reverse, ?_, fun c hc => ?_⟩
    · rw [trimEnd, ← List.reverse_append, List.takeWhile_append_dropWhile, List.reverse_reverse]
    · exact List.mem_takeWhile_imp (List.mem_reverse.1 hc)
  last_not_blank c hc := by
    rw [trimEnd, List.getLast?_reverse] at hc
    have hhead := List.head?_dropWhile_not isBlank text.reverse
    rw [hc] at hhead
    exact hhead

end JobMatrix.Text
