import JobMatrix.Report.Document
import JobMatrix.Text.Digit
import Mathlib.Tactic.SplitIfs

/-!
# JSON

The grammar of RFC 8259. Each rule relates a text to what is left of it behind something that the rule
allows. Every document is written as a value of the grammar.
-/

namespace JobMatrix.Json

/-! ## Numbers -/

/-- Any number of characters of a kind. -/
inductive Many (kind : Char → Prop) : List Char → List Char → Prop
  | nil {rest : List Char} : Many kind rest rest
  | cons {c : Char} {cs rest : List Char} (hc : kind c) (hrest : Many kind cs rest) :
      Many kind (c :: cs) rest

/-- At least one digit. -/
inductive Digits : List Char → List Char → Prop
  | intro {c : Char} {cs rest : List Char} (hc : c.isDigit) (hrest : Many (·.isDigit) cs rest) :
      Digits (c :: cs) rest

/-- Digits that do not start with a zero unless it is the only one. -/
inductive Whole : List Char → List Char → Prop
  | zero {rest : List Char} : Whole ('0' :: rest) rest
  | digits {c : Char} {cs rest : List Char} (hne : c ≠ '0') (h : Digits (c :: cs) rest) :
      Whole (c :: cs) rest

/-- A point and digits, or nothing. -/
inductive Fraction : List Char → List Char → Prop
  | none {rest : List Char} : Fraction rest rest
  | some {cs rest : List Char} (h : Digits cs rest) : Fraction ('.' :: cs) rest

/-- A power of ten, with or without a sign, or nothing. -/
inductive Exponent : List Char → List Char → Prop
  | none {rest : List Char} : Exponent rest rest
  | unsigned {e : Char} {cs rest : List Char} (he : e ∈ ['e', 'E']) (h : Digits cs rest) :
      Exponent (e :: cs) rest
  | signed {e sign : Char} {cs rest : List Char} (he : e ∈ ['e', 'E']) (hsign : sign ∈ ['+', '-'])
      (h : Digits cs rest) : Exponent (e :: sign :: cs) rest

inductive Unsigned : List Char → List Char → Prop
  | intro {cs fraction exponent rest : List Char} (hwhole : Whole cs fraction)
      (hfraction : Fraction fraction exponent) (hexponent : Exponent exponent rest) : Unsigned cs rest

/-! ## Texts -/

/-- The rest of a quoted text, with its closing quote. -/
inductive Quoted : List Char → List Char → Prop
  | close {rest : List Char} : Quoted ('"' :: rest) rest
  | plain {c : Char} {cs rest : List Char} (hc : 0x20 ≤ c.toNat) (hquote : c ≠ '"')
      (hescape : c ≠ '\\') (h : Quoted cs rest) : Quoted (c :: cs) rest
  | escape {c : Char} {cs rest : List Char} (hc : c ∈ ['"', '\\', '/', 'b', 'f', 'n', 'r', 't'])
      (h : Quoted cs rest) : Quoted ('\\' :: c :: cs) rest
  | code {code cs rest : List Char} (hlength : code.length = 4)
      (hcode : ∀ c ∈ code, (Text.digitValue? c).isSome) (h : Quoted cs rest) :
      Quoted ('\\' :: 'u' :: (code ++ cs)) rest

/-! ## Values -/

/-- Space around values and names. -/
abbrev Blank : List Char → List Char → Prop :=
  Many (· ∈ [' ', '\t', '\n', '\r'])

/-- The name of a field with its colon, and space around it. -/
inductive Name : List Char → List Char → Prop
  | intro {cs name after rest : List Char} (hbefore : Blank cs ('"' :: name)) (h : Quoted name after)
      (hafter : Blank after (':' :: rest)) : Name cs rest

mutual

inductive Value : List Char → List Char → Prop
  | null {rest : List Char} : Value ('n' :: 'u' :: 'l' :: 'l' :: rest) rest
  | false {rest : List Char} : Value ('f' :: 'a' :: 'l' :: 's' :: 'e' :: rest) rest
  | true {rest : List Char} : Value ('t' :: 'r' :: 'u' :: 'e' :: rest) rest
  | unsigned {cs rest : List Char} (h : Unsigned cs rest) : Value cs rest
  | negative {cs rest : List Char} (h : Unsigned cs rest) : Value ('-' :: cs) rest
  | text {cs rest : List Char} (h : Quoted cs rest) : Value ('"' :: cs) rest
  | emptyList {cs rest : List Char} (h : Blank cs (']' :: rest)) : Value ('[' :: cs) rest
  | list {cs rest : List Char} (h : Items cs rest) : Value ('[' :: cs) rest
  | emptyRecord {cs rest : List Char} (h : Blank cs ('\x7d' :: rest)) : Value ('\x7b' :: cs) rest
  | record {cs rest : List Char} (h : Members cs rest) : Value ('\x7b' :: cs) rest

/-- A value with space around it. -/
inductive Element : List Char → List Char → Prop
  | intro {cs value after rest : List Char} (hbefore : Blank cs value) (h : Value value after)
      (hafter : Blank after rest) : Element cs rest

/-- The items of a list with its closing bracket. -/
inductive Items : List Char → List Char → Prop
  | last {cs rest : List Char} (h : Element cs (']' :: rest)) : Items cs rest
  | cons {cs items rest : List Char} (h : Element cs (',' :: items)) (hrest : Items items rest) :
      Items cs rest

/-- The fields of a record with its closing brace. -/
inductive Members : List Char → List Char → Prop
  | last {cs value rest : List Char} (hname : Name cs value) (h : Element value ('\x7d' :: rest)) :
      Members cs rest
  | cons {cs value members rest : List Char} (hname : Name cs value)
      (h : Element value (',' :: members)) (hrest : Members members rest) : Members cs rest

end

/-- Values one after the other, and nothing else. -/
inductive Values : List Char → Prop
  | nil : Values []
  | cons {cs rest : List Char} (h : Element cs rest) (hrest : Values rest) : Values cs

/-! ## How values begin -/

variable {c : Char} {cs rest : List Char}

theorem isAscii_of_isDigit (h : c.isDigit) : c.toNat < 128 := by
  have hbound : c.val ≤ '9'.val := by simpa using (Bool.and_eq_true_iff.1 h).2
  exact Nat.lt_of_le_of_lt (UInt32.le_iff_toNat_le.1 hbound) (by decide)

theorem Unsigned.head (h : Unsigned (c :: cs) rest) : c.toNat < 128 := by
  obtain ⟨hwhole, -, -⟩ := h
  cases hwhole with
  | zero => decide
  | digits _ h =>
    obtain ⟨hc, -⟩ := h
    exact isAscii_of_isDigit hc

theorem Value.head (h : Value (c :: cs) rest) : c.toNat < 128 := by
  cases h with
  | unsigned h => exact h.head
  | _ => decide

/-- Values begin with an ASCII character, if there are any. -/
theorem Values.head (h : Values (c :: cs)) : c.toNat < 128 := by
  cases h with
  | cons h _ =>
    obtain ⟨hbefore, hvalue, -⟩ := h
    cases hbefore with
    | nil => exact hvalue.head
    | cons hc _ =>
      simp only [List.mem_cons, List.not_mem_nil, or_false] at hc
      rcases hc with rfl | rfl | rfl | rfl <;> decide

/-! ## Documents -/

section

open Document

theorem Many.of_forall {kind : Char → Prop} {cs : List Char} (h : ∀ c ∈ cs, kind c) (rest : List Char) :
    Many kind (cs ++ rest) rest := by
  induction cs with
  | nil => exact .nil
  | cons c cs ih =>
    obtain ⟨hc, hcs⟩ := List.forall_mem_cons.1 h
    exact .cons hc (ih hcs)

theorem blank_newline (depth : Nat) (rest : List Char) :
    Blank ((newline depth).toList ++ rest) rest := by
  refine Many.of_forall (fun c hc => ?_) rest
  have hspace : c = '\n' ∨ c = ' ' := by
    simp only [newline, String.toList_append, String.toList_ofList, List.mem_append,
      List.mem_replicate] at hc
    exact hc.imp (by simp) And.right
  rcases hspace with rfl | rfl <;> decide

/-- The digits of a number do not start with a zero unless it is zero. -/
theorem digits_toDigits {n : Nat} (h : 0 < n) : ∃ c cs, Nat.toDigits 10 n = c :: cs ∧ c ≠ '0' := by
  -- By induction along the digits: the first one is that of the number without its last digit.
  induction n using Nat.strongRecOn with
  | ind n ih =>
    by_cases hn : n < 10
    · refine ⟨_, [], Nat.toDigits_of_lt_base hn, ?_⟩
      have hdigit : ∀ d < 10, 0 < d → Nat.digitChar d ≠ '0' := by decide
      exact hdigit n hn h
    · obtain ⟨c, cs, hcs, hc⟩ := ih (n / 10) (by omega) (by omega)
      exact ⟨c, _, by rw [Nat.toDigits_of_base_le (by decide) (by omega), hcs, List.cons_append], hc⟩

theorem whole_toDigits (n : Nat) (rest : List Char) : Whole (Nat.toDigits 10 n ++ rest) rest := by
  obtain rfl | hn := Nat.eq_zero_or_pos n
  · exact .zero
  · obtain ⟨c, cs, hcs, hne⟩ := digits_toDigits hn
    have hdigits : ∀ d ∈ c :: cs, d.isDigit := fun d hd =>
      Nat.isDigit_of_mem_toDigits (by decide) (by decide) (hcs ▸ hd)
    obtain ⟨hc, hcs'⟩ := List.forall_mem_cons.1 hdigits
    rw [hcs]
    exact .digits hne (.intro hc (.of_forall hcs' rest))

theorem value_number (n : Int) (rest : List Char) : Value ((toString n).toList ++ rest) rest := by
  cases n with
  | ofNat n =>
    have htext : (toString (Int.ofNat n)).toList = Nat.toDigits 10 n := String.toList_ofList
    rw [htext]
    exact .unsigned (.intro (whole_toDigits n rest) .none .none)
  | negSucc n =>
    have htext : (toString (Int.negSucc n)).toList = '-' :: Nat.toDigits 10 (n + 1) := by
      change ("-" ++ String.ofList (Nat.toDigits 10 (n + 1))).toList = _
      simp
    rw [htext]
    exact .negative (.intro (whole_toDigits (n + 1) rest) .none .none)

theorem Quoted.quotedChar (h : Quoted cs rest) (c : Char) : Quoted (quotedChar c ++ cs) rest := by
  unfold Document.quotedChar
  split_ifs with hquote hescape _ _ _ _ _ hcontrol
  · exact .escape (by decide) h
  · exact .escape (by decide) h
  · exact .escape (by decide) h
  · exact .escape (by decide) h
  · exact .escape (by decide) h
  · exact .escape (by decide) h
  · exact .escape (by decide) h
  · have hhex : ∀ d < 16, (Text.digitValue? (Nat.digitChar d)).isSome := by decide
    have hcode : ∀ d ∈ ['0', '0'] ++ hexPair c.toNat, (Text.digitValue? d).isSome := by
      simp only [hexPair, List.cons_append, List.nil_append, List.forall_mem_cons]
      exact ⟨by decide, by decide, hhex _ (Nat.mod_lt _ (by decide)), hhex _ (Nat.mod_lt _ (by decide)),
        List.forall_mem_nil _⟩
    exact .code rfl hcode h
  · exact .plain (Nat.not_lt.1 hcontrol) hquote hescape h

theorem quoted_toList (s : String) (rest : List Char) :
    ∃ cs, (quoted s).toList ++ rest = '"' :: cs ∧ Quoted cs rest := by
  have hchars : ∀ cs : List Char, Quoted (cs.flatMap Document.quotedChar ++ '"' :: rest) rest := by
    intro cs
    induction cs with
    | nil => exact .close
    | cons c cs ih =>
      rw [List.flatMap_cons, List.append_assoc]
      exact ih.quotedChar c
  exact ⟨_, by simp [quoted], hchars s.toList⟩

theorem value_quoted (s : String) (rest : List Char) : Value ((quoted s).toList ++ rest) rest := by
  obtain ⟨cs, hcs, h⟩ := quoted_toList s rest
  rw [hcs]
  exact .text h

/-- A name is written on a new line, with a space before its value. -/
theorem name_quoted (depth : Nat) (s : String) (rest : List Char) :
    Name ((newline depth).toList ++ ((quoted s).toList ++ (':' :: ' ' :: rest))) (' ' :: rest) := by
  obtain ⟨cs, hcs, h⟩ := quoted_toList s (':' :: ' ' :: rest)
  rw [hcs]
  exact .intro (blank_newline depth _) h .nil

-- What follows a value stays open, as it is a comma or a closing bracket for an item.
mutual

/-- A document is written as a value, whatever follows it. -/
theorem value_renderAt (depth : Nat) (d : Document) (rest : List Char) :
    Value ((renderAt depth d).toList ++ rest) rest := by
  match d with
  | .null => simpa [renderAt] using Value.null
  | .flag true => simpa [renderAt] using Value.true
  | .flag false => simpa [renderAt] using Value.false
  | .number n => exact value_number n rest
  | .text s => exact value_quoted s rest
  | .list [] => simpa [renderAt] using Value.emptyList .nil
  | .list (item :: items) =>
    have h := items_renderItems (depth + 1) depth items (value_renderAt (depth + 1) item) rest
    simpa [renderAt] using Value.list h
  | .fields [] => simpa [renderAt] using Value.emptyRecord .nil
  | .fields ((name, value) :: items) =>
    have h := members_renderFields (depth + 1) depth items name (value_renderAt (depth + 1) value) rest
    simpa [renderAt] using Value.record h

theorem items_renderItems (depth outer : Nat) (items : List Document) {item : List Char}
    (hitem : ∀ rest, Value (item ++ rest) rest) (rest : List Char) :
    Items ((newline depth).toList ++ (item ++
      ((renderItems depth items).toList ++ ((newline outer).toList ++ ']' :: rest)))) rest := by
  match items with
  | [] => exact .last (.intro (blank_newline depth _) (hitem _) (blank_newline outer _))
  | next :: items =>
    have h := items_renderItems depth outer items (value_renderAt depth next) rest
    simpa [renderItems] using Items.cons (.intro (blank_newline depth _) (hitem _) .nil) h

theorem members_renderFields (depth outer : Nat) (items : List (String × Document)) (name : String)
    {value : List Char} (hvalue : ∀ rest, Value (value ++ rest) rest) (rest : List Char) :
    Members ((newline depth).toList ++ ((quoted name).toList ++ (':' :: ' ' :: (value ++
      ((renderFields depth items).toList ++ ((newline outer).toList ++ '\x7d' :: rest)))))) rest := by
  match items with
  | [] =>
    exact .last (name_quoted depth name _)
      (.intro (.cons (by decide) .nil) (hvalue _) (blank_newline outer _))
  | (next, nextValue) :: items =>
    have h := members_renderFields depth outer items next (value_renderAt depth nextValue) rest
    simpa [renderFields] using Members.cons (name_quoted depth name _)
      (.intro (.cons (by decide) .nil) (hvalue _) .nil) h

end

end

end JobMatrix.Json
