import Mathlib
import JobMatrix.Condition.Token

/-!
# Lexemes of conditions

A token is written as a lexeme. A text lexes to tokens if, blanks apart, it is made up of their
lexemes in order, where a lexeme that could go on is followed by something it cannot go on with.
Scanning a text comes to tokens exactly if it lexes to them.
-/

namespace JobMatrix.Condition.Token

open JobMatrix.Text

/-- The token is written this way in front of the rest of a text. -/
inductive Lexeme : Token → List Char → List Char → Prop
  | open {rest : List Char} : Lexeme .open ['('] rest
  | close {rest : List Char} : Lexeme .close [')'] rest
  | equal {rest : List Char} : Lexeme .equal ['=', '='] rest
  | different {rest : List Char} : Lexeme .different ['!', '='] rest
  | and {rest : List Char} : Lexeme .and ['&', '&'] rest
  | or {rest : List Char} : Lexeme .or ['|', '|'] rest
  | not {rest : List Char} (ends : rest.head? ≠ some '=') : Lexeme .not ['!'] rest
  | word {text rest : List Char} (nonempty : text ≠ []) (chars : ∀ c ∈ text, isWordChar c = true)
      (ends : ∀ c ∈ rest.head?, isWordChar c = false) : Lexeme (.word (String.ofList text)) text rest
  | quoted {quote : Char} {text rest : List Char} (isQuote : quote = '\'' ∨ quote = '"')
      (ends : quote ∉ text) : Lexeme (.quoted (String.ofList text)) (quote :: text ++ [quote]) rest

/-- The text is made up of the lexemes of the tokens and of blanks. -/
inductive Lexes : List Char → List Token → Prop
  | nil : Lexes [] []
  | blank {c : Char} {cs : List Char} {ts : List Token} (blank : isBlank c = true)
      (rest : Lexes cs ts) : Lexes (c :: cs) ts
  | token {t : Token} {written rest : List Char} {ts : List Token} (lexeme : Lexeme t written rest)
      (others : Lexes rest ts) : Lexes (written ++ rest) (t :: ts)

/-! ## Characters -/

/-- A character of a word has a code above every sign and among no blanks. -/
theorem bounds_of_isWordChar {c : Char} (h : isWordChar c = true) :
    (43 ≤ c.toNat ∧ c.toNat ≤ 57) ∨ (65 ≤ c.toNat ∧ c.toNat ≤ 122) := by
  simp only [isWordChar, Char.isAlphanum, Char.isAlpha, Char.isUpper, Char.isLower, Char.isDigit,
    Bool.or_eq_true, Bool.and_eq_true, decide_eq_true_eq, beq_iff_eq, UInt32.le_iff_toNat_le,
    ge_iff_le] at h
  change (((((((65 ≤ c.toNat ∧ c.toNat ≤ 90) ∨ (97 ≤ c.toNat ∧ c.toNat ≤ 122)) ∨
    (48 ≤ c.toNat ∧ c.toNat ≤ 57)) ∨ c = '_') ∨ c = '-') ∨ c = '.') ∨ c = '+') ∨ c = '/' at h
  rcases h with ((((((h | h) | h) | rfl) | rfl) | rfl) | rfl) | rfl
  · omega
  · omega
  · omega
  all_goals decide

theorem isBlank_of_isWordChar {c : Char} (h : isWordChar c = true) : isBlank c = false := by
  have hbounds := bounds_of_isWordChar h
  simp only [isBlank, Bool.or_eq_false_iff, Bool.and_eq_false_iff, decide_eq_false_iff_not,
    beq_eq_false_iff_ne]
  omega

variable {t : Token} {c : Char} {cs rest written : List Char} {ts : List Token} {offset : Nat}

/-- A character of a word begins no other lexeme. -/
theorem ne_of_isWordChar (h : isWordChar c = true) :
    c ≠ '(' ∧ c ≠ ')' ∧ c ≠ '=' ∧ c ≠ '!' ∧ c ≠ '&' ∧ c ≠ '|' ∧ c ≠ '\'' ∧ c ≠ '"' := by
  refine ⟨?_, ?_, ?_, ?_, ?_, ?_, ?_, ?_⟩ <;> rintro rfl <;> exact absurd h (by decide)

/-! ## The front of a text -/

/-- What follows the longest run of some characters does not begin with one. -/
theorem head?_dropWhile (p : Char → Bool) (cs : List Char) :
    ∀ c ∈ (cs.dropWhile p).head?, p c = false := by
  intro c hc
  have hnot := List.head?_dropWhile_not p cs
  rw [Option.mem_def.1 hc] at hnot
  exact hnot

/-- A run of some characters is the longest one if none of them follows it. -/
theorem takeWhile_append {p : Char → Bool} {text rest : List Char} (h : ∀ c ∈ text, p c = true)
    (ends : ∀ c ∈ rest.head?, p c = false) : (text ++ rest).takeWhile p = text := by
  rw [List.takeWhile_append_of_pos h]
  cases rest with
  | nil => simp
  | cons c rest => simp [ends c rfl]

/-- A run up to a character that is shorter than the text ends at that character. -/
theorem exists_eq_append_of_length_lt (h : (cs.takeWhile (· != c)).length < cs.length) :
    ∃ rest, cs = cs.takeWhile (· != c) ++ c :: rest := by
  have hsplit := List.takeWhile_append_dropWhile (p := (· != c)) (l := cs)
  have hends := head?_dropWhile (· != c) cs
  cases hdrop : cs.dropWhile (· != c) with
  | nil =>
    rw [hdrop, List.append_nil] at hsplit
    rw [hsplit] at h
    exact absurd h (Nat.lt_irrefl _)
  | cons d rest =>
    rw [hdrop] at hsplit hends
    obtain rfl : d = c := by simpa using hends d rfl
    exact ⟨rest, hsplit.symm⟩

/-- A sign of two characters is taken if its second one follows. -/
theorem eq_cons_of_pair {second : Char} {sign : Token} {fault : Fault}
    (h : (if cs.head? = some second then Step.token sign [c, second] else .fault fault) =
      .token t written) :
    ∃ rest, cs = second :: rest ∧ t = sign ∧ written = [c, second] := by
  split at h
  · next hnext =>
    obtain ⟨rest, rfl⟩ := List.head?_eq_some_iff.1 hnext
    obtain ⟨rfl, rfl⟩ := by simpa using h
    exact ⟨rest, rfl, rfl, rfl⟩
  · nomatch h

/-- A token found at the front of a text is written there. -/
theorem lexeme_of_step (h : step offset c cs = .token t written) :
    ∃ rest, c :: cs = written ++ rest ∧ Lexeme t written rest := by
  by_cases hblank : isBlank c = true
  · rw [step, if_pos hblank] at h
    nomatch h
  rw [step, if_neg hblank] at h
  by_cases hopen : c = '('
  · rw [if_pos hopen, hopen] at h
    obtain ⟨rfl, rfl⟩ := Step.token.inj h
    exact ⟨cs, by rw [hopen]; rfl, .open⟩
  rw [if_neg hopen] at h
  by_cases hclose : c = ')'
  · rw [if_pos hclose, hclose] at h
    obtain ⟨rfl, rfl⟩ := Step.token.inj h
    exact ⟨cs, by rw [hclose]; rfl, .close⟩
  rw [if_neg hclose] at h
  by_cases hequal : c = '='
  · rw [if_pos hequal] at h
    obtain ⟨rest, rfl, rfl, rfl⟩ := eq_cons_of_pair h
    exact ⟨rest, by rw [hequal]; rfl, .equal⟩
  rw [if_neg hequal] at h
  by_cases hnot : c = '!'
  · rw [if_pos hnot] at h
    by_cases hnext : cs.head? = some '='
    · rw [if_pos hnext] at h
      obtain ⟨rest, rfl⟩ := List.head?_eq_some_iff.1 hnext
      obtain ⟨rfl, rfl⟩ := Step.token.inj h
      exact ⟨rest, by rw [hnot]; rfl, .different⟩
    · rw [if_neg hnext, hnot] at h
      obtain ⟨rfl, rfl⟩ := Step.token.inj h
      exact ⟨cs, by rw [hnot]; rfl, .not hnext⟩
  rw [if_neg hnot] at h
  by_cases hand : c = '&'
  · rw [if_pos hand] at h
    obtain ⟨rest, rfl, rfl, rfl⟩ := eq_cons_of_pair h
    exact ⟨rest, by rw [hand]; rfl, .and⟩
  rw [if_neg hand] at h
  by_cases hor : c = '|'
  · rw [if_pos hor] at h
    obtain ⟨rest, rfl, rfl, rfl⟩ := eq_cons_of_pair h
    exact ⟨rest, by rw [hor]; rfl, .or⟩
  rw [if_neg hor] at h
  by_cases hquote : c = '\'' ∨ c = '"'
  · rw [if_pos hquote] at h
    by_cases hlt : (cs.takeWhile (· != c)).length < cs.length
    · obtain ⟨rfl, rfl⟩ := Step.token.inj ((if_pos hlt).symm.trans h)
      obtain ⟨rest, hrest⟩ := exists_eq_append_of_length_lt hlt
      refine ⟨rest, ?_, .quoted hquote fun hc => ?_⟩
      · simpa using hrest
      · simpa using List.all_eq_true.1 List.all_takeWhile c hc
    · nomatch (if_neg hlt).symm.trans h
  rw [if_neg hquote] at h
  by_cases hword : isWordChar c = true
  · rw [if_pos hword] at h
    obtain ⟨rfl, rfl⟩ := Step.token.inj h
    refine ⟨cs.dropWhile isWordChar, by simp, .word (List.cons_ne_nil _ _) ?_ (head?_dropWhile _ _)⟩
    exact List.forall_mem_cons.2 ⟨hword, List.all_eq_true.1 List.all_takeWhile⟩
  · rw [if_neg hword] at h
    nomatch h

theorem Lexeme.step (h : Lexeme t written rest) (heq : written ++ rest = c :: cs) :
    Token.step offset c cs = .token t written := by
  cases h with
  | «open» => obtain ⟨rfl, rfl⟩ := List.cons.inj heq; rfl
  | close => obtain ⟨rfl, rfl⟩ := List.cons.inj heq; rfl
  | equal => obtain ⟨rfl, rfl⟩ := List.cons.inj heq; rfl
  | different => obtain ⟨rfl, rfl⟩ := List.cons.inj heq; rfl
  | and => obtain ⟨rfl, rfl⟩ := List.cons.inj heq; rfl
  | or => obtain ⟨rfl, rfl⟩ := List.cons.inj heq; rfl
  | not ends =>
    obtain ⟨rfl, rfl⟩ := List.cons.inj heq
    have hblank : isBlank '!' = false := by decide
    simp [Token.step, ends, hblank]
  | word nonempty chars ends =>
    obtain ⟨c', text, rfl⟩ := List.exists_cons_of_ne_nil nonempty
    obtain ⟨rfl, rfl⟩ := List.cons.inj heq
    obtain ⟨hword, htext⟩ := List.forall_mem_cons.1 chars
    obtain ⟨h₁, h₂, h₃, h₄, h₅, h₆, h₇, h₈⟩ := ne_of_isWordChar hword
    have hrun := takeWhile_append htext ends
    simp [Token.step, isBlank_of_isWordChar hword, hword, h₁, h₂, h₃, h₄, h₅, h₆, h₇, h₈, hrun]
  | @quoted quote text rest isQuote ends =>
    simp only [List.cons_append, List.cons.injEq] at heq
    obtain ⟨rfl, rfl⟩ := heq
    have hrun : (text ++ [quote] ++ rest).takeWhile (· != quote) = text := by
      rw [List.append_assoc]
      exact takeWhile_append (fun d hd => by simpa using ne_of_mem_of_not_mem hd ends) (by simp)
    have hlt : text.length < (text ++ [quote] ++ rest).length := by simp
    rcases isQuote with rfl | rfl <;> simp only [Token.step, hrun, if_pos hlt] <;> rfl

theorem step_eq_blank_iff : step offset c cs = .blank ↔ isBlank c = true := by
  by_cases hblank : isBlank c = true
  · rw [step, if_pos hblank, hblank]
    simp
  refine ⟨fun h => absurd h ?_, fun h => absurd h hblank⟩
  rw [step, if_neg hblank]
  repeat' apply iteInduction (motive := (· ≠ Step.blank)) <;> intro
  all_goals exact fun h => nomatch h

theorem Lexeme.ne_nil (h : Lexeme t written rest) : written ≠ [] := by
  cases h with
  | word nonempty _ _ => exact nonempty
  | _ => exact List.cons_ne_nil _ _

/-- What is left after a lexeme. -/
theorem drop_of_append (h : c :: cs = written ++ rest) (hne : written ≠ []) :
    cs.drop (written.length - 1) = rest := by
  obtain ⟨d, text, rfl⟩ := List.exists_cons_of_ne_nil hne
  obtain ⟨-, rfl⟩ := List.cons.inj h
  simp

/-! ## Whole texts -/

theorem lexes_of_scanFrom (h : scanFrom offset cs = .ok ts) : Lexes cs ts := by
  fun_induction scanFrom offset cs generalizing ts with
  | case1 offset =>
    obtain rfl := Except.ok.inj h
    exact .nil
  | case2 offset c cs hstep ih => exact .blank (step_eq_blank_iff.1 hstep) (ih h)
  | case3 offset c cs t written hstep us hothers ih =>
    obtain rfl := Except.ok.inj h
    obtain ⟨rest, heq, lexeme⟩ := lexeme_of_step hstep
    have hdrop := drop_of_append heq lexeme.ne_nil
    rw [heq]
    exact .token lexeme (hdrop ▸ ih hothers)
  | case4 => nomatch h
  | case5 => nomatch h

theorem scanFrom_of_lexes (h : Lexes cs ts) (offset : Nat) : scanFrom offset cs = .ok ts := by
  induction h generalizing offset with
  | nil => unfold scanFrom; rfl
  | @blank c cs ts hblank _ ih =>
    unfold scanFrom
    simp only [step_eq_blank_iff.2 hblank]
    exact ih _
  | @token t written rest ts lexeme _ ih =>
    obtain ⟨c, text, htext⟩ := List.exists_cons_of_ne_nil lexeme.ne_nil
    have heq : written ++ rest = c :: (text ++ rest) := by rw [htext]; rfl
    rw [heq]
    unfold scanFrom
    simp only [lexeme.step heq, drop_of_append heq.symm lexeme.ne_nil, ih]

theorem scan_eq_ok_iff {source : String} : scan source = .ok ts ↔ Lexes source.toList ts :=
  ⟨lexes_of_scanFrom, fun h => scanFrom_of_lexes h 0⟩

end JobMatrix.Condition.Token
