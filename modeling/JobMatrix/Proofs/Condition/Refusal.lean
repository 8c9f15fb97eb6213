import Mathlib
import JobMatrix.Condition.Parser
import JobMatrix.Proofs.Condition.Lexing

/-!
# Refused texts

Scanning goes on from the left as long as a blank or a lexeme comes next, and a text is refused at the
first character where neither does. What stands before that character lexes in front of it, and so it
lexes by itself. The message of a refusal names the character and its offset in bytes, unless it is a
quote that is never closed. Main statement: a text has the tokens that it lexes to, and a message tells
the truth about the place where it has none.
-/

namespace JobMatrix.Condition.Token

open JobMatrix.Text

variable {t : Token} {c : Char} {cs rest more before written : List Char} {ts : List Token}
  {offset : Nat} {e : Fault}

/-! ## Texts in front of a rest -/

/-- The text is made up of the lexemes of the tokens and of blanks if `rest` comes after it. -/
inductive LexesBefore (rest : List Char) : List Char → List Token → Prop
  | nil : LexesBefore rest [] []
  | blank {c : Char} {cs : List Char} {ts : List Token} (blank : isBlank c = true)
      (others : LexesBefore rest cs ts) : LexesBefore rest (c :: cs) ts
  | token {t : Token} {written cs : List Char} {ts : List Token}
      (lexeme : Lexeme t written (cs ++ rest)) (others : LexesBefore rest cs ts) :
      LexesBefore rest (written ++ cs) (t :: ts)

/-- A lexeme that cannot go on in front of a longer text cannot go on in front of a shorter one. -/
theorem Lexeme.of_append (h : Lexeme t written (rest ++ more)) : Lexeme t written rest := by
  have hhead (d : Char) (hd : d ∈ rest.head?) : d ∈ (rest ++ more).head? := by
    rw [List.head?_append, Option.mem_def.1 hd]
    rfl
  cases h with
  | «open» | close | equal | different | and | or => constructor
  | not ends => exact .not fun hnext => ends (hhead '=' hnext)
  | word nonempty chars ends => exact .word nonempty chars fun d hd => ends d (hhead d hd)
  | quoted isQuote ends => exact .quoted isQuote ends

/-- What lexes in front of a rest lexes by itself. -/
theorem LexesBefore.lexes (h : LexesBefore rest before ts) : Lexes before ts := by
  induction h with
  | nil => exact .nil
  | blank blank _ ih => exact .blank blank ih
  | token lexeme _ ih => exact .token lexeme.of_append ih

/-! ## Where nothing begins -/

/-- Neither a blank nor a lexeme begins at the character `c` in front of `cs`. -/
structure Stuck (c : Char) (cs : List Char) : Prop where
  not_blank : isBlank c = false
  no_lexeme : ∀ t written rest, written ++ rest = c :: cs → ¬ Lexeme t written rest

/-- The fault of a text in which nothing begins at a character: a quote is not closed, and any other
character does not belong there. -/
def faultAt (offset : Nat) (c : Char) : Fault :=
  if c = '\'' ∨ c = '"' then .unterminated else .unexpected c offset

theorem eq_faultAt_of_step (h : step offset c cs = .fault e) : e = faultAt offset c := by
  by_cases hquote : c = '\'' ∨ c = '"'
  · have hopen : step offset c cs =
        if (cs.takeWhile (· != c)).length < cs.length then
          .token (.quoted (String.ofList (cs.takeWhile (· != c)))) (c :: cs.takeWhile (· != c) ++ [c])
        else .fault .unterminated := by
      rcases hquote with rfl | rfl <;> rfl
    rw [hopen] at h
    rw [faultAt, if_pos hquote]
    split at h
    · cases h
    · cases h
      rfl
  · -- Quotes apart, every refusal is one of the character itself.
    rw [step, if_neg hquote] at h
    rw [faultAt, if_neg hquote]
    repeat' split at h
    all_goals cases h <;> rfl

/-- A fault is found exactly at the characters where nothing begins. -/
theorem step_eq_fault_iff : step offset c cs = .fault e ↔ Stuck c cs ∧ e = faultAt offset c := by
  constructor
  · intro h
    refine ⟨⟨?_, fun t written rest heq lexeme => ?_⟩, eq_faultAt_of_step h⟩
    · refine Bool.eq_false_iff.2 fun hblank => ?_
      rw [step_eq_blank_iff.2 hblank] at h
      cases h
    · rw [lexeme.step heq] at h
      cases h
  · rintro ⟨hstuck, rfl⟩
    cases hstep : step offset c cs with
    | blank =>
      rw [step_eq_blank_iff, hstuck.not_blank] at hstep
      cases hstep
    | token t written =>
      obtain ⟨rest, heq, lexeme⟩ := lexeme_of_step hstep
      exact absurd lexeme (hstuck.no_lexeme t written rest heq.symm)
    | fault e => rw [eq_faultAt_of_step hstep]

/-! ## Where scanning stops -/

@[simp] theorem byteLength_nil : byteLength [] = 0 := rfl

@[simp] theorem byteLength_cons (c : Char) (cs : List Char) :
    byteLength (c :: cs) = c.utf8Size + byteLength cs := rfl

@[simp] theorem byteLength_append (cs more : List Char) :
    byteLength (cs ++ more) = byteLength cs + byteLength more := by
  induction cs with
  | nil => simp
  | cons c cs ih => rw [List.cons_append, byteLength_cons, byteLength_cons, ih, Nat.add_assoc]

theorem utf8ByteSize_ofList (cs : List Char) : (String.ofList cs).utf8ByteSize = byteLength cs := by
  induction cs with
  | nil => rfl
  | cons c cs ih =>
    rw [String.ofList_cons, String.utf8ByteSize_append, String.utf8ByteSize_singleton, ih,
      byteLength_cons]

/-- Scanning that fails has come to a character where nothing begins. -/
theorem stuck_of_scanFrom (h : scanFrom offset cs = .error e) :
    ∃ before c rest ts, cs = before ++ c :: rest ∧ LexesBefore (c :: rest) before ts ∧ Stuck c rest ∧
      e = faultAt (offset + byteLength before) c := by
  fun_induction scanFrom offset cs with
  | case1 => cases h
  | case2 offset c cs hstep ih =>
    obtain ⟨before, d, rest, ts, rfl, hbefore, hstuck, rfl⟩ := ih h
    refine ⟨c :: before, d, rest, ts, rfl, .blank (step_eq_blank_iff.1 hstep) hbefore, hstuck, ?_⟩
    rw [byteLength_cons, Nat.add_assoc]
  | case3 => cases h
  | case4 offset c cs t written hstep e' hothers ih =>
    cases h
    obtain ⟨before, d, rest, ts, hrest, hbefore, hstuck, rfl⟩ := ih hothers
    obtain ⟨tail, heq, lexeme⟩ := lexeme_of_step hstep
    -- The lexeme was found in front of all that is left, the refused character included.
    rw [drop_of_append heq lexeme.ne_nil] at hrest
    subst hrest
    refine ⟨written ++ before, d, rest, t :: ts, ?_, .token lexeme hbefore, hstuck, ?_⟩
    · rw [heq, List.append_assoc]
    · rw [byteLength_append, Nat.add_assoc]
  | case5 offset c cs e' hstep =>
    cases h
    obtain ⟨hstuck, rfl⟩ := step_eq_fault_iff.1 hstep
    exact ⟨[], c, cs, [], rfl, .nil, hstuck, rfl⟩

/-- Scanning goes on up to a character where nothing begins, and fails there. -/
theorem scanFrom_of_stuck (h : LexesBefore (c :: rest) before ts) (hstuck : Stuck c rest)
    (offset : Nat) : scanFrom offset (before ++ c :: rest) =
      .error (faultAt (offset + byteLength before) c) := by
  induction h generalizing offset with
  | nil =>
    unfold scanFrom
    simp only [List.nil_append, step_eq_fault_iff.2 ⟨hstuck, rfl⟩]
    rfl
  | @blank d cs ts hblank _ ih =>
    rw [List.cons_append]
    unfold scanFrom
    simp only [step_eq_blank_iff.2 hblank, ih, byteLength_cons, Nat.add_assoc]
  | @token t written cs ts lexeme _ ih =>
    obtain ⟨d, text, htext⟩ := List.exists_cons_of_ne_nil lexeme.ne_nil
    have heq : written ++ (cs ++ c :: rest) = d :: (text ++ (cs ++ c :: rest)) := by rw [htext]; rfl
    rw [List.append_assoc, heq]
    unfold scanFrom
    simp only [lexeme.step heq, drop_of_append heq.symm lexeme.ne_nil, ih, byteLength_append,
      Nat.add_assoc]

/-- Scanning fails exactly if it comes to a character where nothing begins, and tells where that is. -/
theorem scan_eq_error_iff {source : String} : scan source = .error e ↔
    ∃ before c rest ts, source.toList = before ++ c :: rest ∧ LexesBefore (c :: rest) before ts ∧
      Stuck c rest ∧ e = faultAt (byteLength before) c := by
  constructor
  · intro h
    obtain ⟨before, c, rest, ts, hsource, hbefore, hstuck, he⟩ := stuck_of_scanFrom h
    rw [Nat.zero_add] at he
    exact ⟨before, c, rest, ts, hsource, hbefore, hstuck, he⟩
  · rintro ⟨before, c, rest, ts, hsource, hbefore, hstuck, rfl⟩
    rw [scan, hsource, scanFrom_of_stuck hbefore hstuck, Nat.zero_add]

/-! ## Messages -/

theorem message_unexpected (source : String) (c : Char) (offset : Nat) :
    (Condition.Fault.token (.unexpected c offset)).message source = "unexpected '" ++ c.toString ++
      "' at offset " ++ toString offset ++ " in condition '" ++ source ++ "'" := by
  have hwithin : (Condition.Fault.token (.unexpected c offset)).message source = "unexpected '" ++
      c.toString ++ "' at offset " ++ toString offset ++ (" in condition '" ++ source ++ "'") := rfl
  rw [hwithin, ← String.append_assoc, ← String.append_assoc]

/-- The message for a text tells which fault it has. -/
theorem message_injective {source : String} {e e' : Fault}
    (h : (Condition.Fault.token e).message source = (Condition.Fault.token e').message source) :
    e = e' := by
  cases e with
  | unterminated =>
    cases e' with
    | unterminated => rfl
    | unexpected c offset =>
      have htext := (String.append_left_inj _).1 h
      simp [← String.toList_inj] at htext
  | unexpected c offset =>
    cases e' with
    | unterminated =>
      have htext := (String.append_left_inj _).1 h
      simp [← String.toList_inj] at htext
    | unexpected c' offset' =>
      -- All messages end in the text itself, so what stands in front of it is the same.
      have htext := (String.append_left_inj _).1 h
      simp only [← String.toList_inj, String.toList_append, List.append_assoc,
        List.append_cancel_left_eq, Char.toString_eq_singleton, String.toList_singleton,
        List.singleton_append] at htext
      obtain ⟨rfl, hrest⟩ := List.cons.inj htext
      have hdigits := String.toList_inj.1 (List.append_cancel_left hrest)
      rw [Nat.repr_inj.1 hdigits]

/-! ## Exactness -/

/-- A text has the tokens that it lexes to. If it has none, and the message names a character and an
offset, then that character stands at that offset in bytes and the text before it has tokens by
itself. -/
theorem scan_exact (source : String) :
    (∀ ts, scan source = .ok ts ↔ Lexes source.toList ts) ∧
      ∀ (e : Fault) (c : Char) (offset : Nat), scan source = .error e →
        (Condition.Fault.token e).message source = "unexpected '" ++ c.toString ++ "' at offset " ++
          toString offset ++ " in condition '" ++ source ++ "'" →
        ∃ before after ts, source = before ++ c.toString ++ after ∧ before.utf8ByteSize = offset ∧
          scan before = .ok ts := by
  refine ⟨fun ts => scan_eq_ok_iff, fun e c offset hscan hmessage => ?_⟩
  obtain rfl := message_injective (hmessage.trans (message_unexpected source c offset).symm)
  obtain ⟨before, d, rest, ts, hsource, hbefore, -, he⟩ := scan_eq_error_iff.1 hscan
  unfold faultAt at he
  split at he
  · cases he
  · obtain ⟨rfl, rfl⟩ := Fault.unexpected.inj he
    refine ⟨String.ofList before, String.ofList rest, ts, ?_, utf8ByteSize_ofList before, ?_⟩
    · rw [← String.toList_inj, hsource]
      simp
    · rw [scan_eq_ok_iff, String.toList_ofList]
      exact hbefore.lexes

end JobMatrix.Condition.Token

namespace JobMatrix.Small

open Condition

/-- The sign stands behind four characters that take five bytes. -/
theorem scan_exact_accented :
    Token.scan "'é' = x" = .error (.unexpected '=' 5) ∧
      (Fault.token (.unexpected '=' 5)).message "'é' = x" =
        "unexpected '=' at offset 5 in condition ''é' = x'" ∧
      ∃ before after ts, "'é' = x" = before ++ "=" ++ after ∧ before.utf8ByteSize = 5 ∧
        Token.scan before = .ok ts := by
  have hscan : Token.scan "'é' = x" = .error (.unexpected '=' 5) := by decide +kernel
  have hmessage : (Fault.token (.unexpected '=' 5)).message "'é' = x" =
      "unexpected '=' at offset 5 in condition ''é' = x'" := by decide +kernel
  obtain ⟨-, hplace⟩ := Token.scan_exact "'é' = x"
  exact ⟨hscan, hmessage, hplace _ '=' 5 hscan (hmessage.trans (by decide +kernel))⟩

end JobMatrix.Small
