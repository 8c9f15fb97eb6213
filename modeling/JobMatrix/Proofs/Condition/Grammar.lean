import JobMatrix.Condition.Basic
import JobMatrix.Condition.Token

/-!
# The grammar of conditions

    or      := and ('||' and)*
    and     := unary ('&&' unary)*
    unary   := '!' unary | primary
    primary := '(' or ')' | WORD | side ('==' | '!=') side
    side    := WORD | QUOTED

A derivation is the tree of the rules by which tokens make up a condition: it is written with
certain tokens, and it means a condition. Both repetitions group to the left. No list of tokens has
two derivations, since a token that goes on a repetition or a comparison never follows one that is
over.
-/

namespace JobMatrix.Condition

/-! ## Words -/

/-- Words that start with the mark of an axis. -/
def Marked (word : String) : Prop := ∃ axis, word = "matrix." ++ axis

/-- A word, taken apart into the mark and the axis after it if it has the mark. -/
inductive Name
  | marked (axis : String)
  | plain (word : String) (unmarked : ¬ Marked word)

namespace Name

def word : Name → String
  | .marked axis => "matrix." ++ axis
  | .plain word _ => word

/-- The axis that a word names where only an axis can stand. -/
def axis : Name → String
  | .marked axis => axis
  | .plain word _ => word

theorem word_injective {n n' : Name} (h : n.word = n'.word) : n = n' := by
  cases n with
  | marked axis =>
    cases n' with
    | marked axis' =>
      have heq : axis = axis' := by
        simpa [word, ← String.toList_inj] using h
      rw [heq]
    | plain word' unmarked => exact absurd ⟨axis, h.symm⟩ unmarked
  | plain word unmarked =>
    cases n' with
    | marked axis' => exact absurd ⟨axis', h⟩ unmarked
    | plain word' unmarked' => simpa [Name.word] using h

/-- Every word is one of the two. -/
theorem exists_word_eq (word : String) : ∃ n : Name, n.word = word := by
  by_cases h : Marked word
  · obtain ⟨axis, rfl⟩ := h
    exact ⟨.marked axis, rfl⟩
  · exact ⟨.plain word h, rfl⟩

end Name

/-- A word on its own. The words of the two literals test no axis. -/
inductive Lone
  | literal (holds : Bool)
  | test (name : Name) (not_true : name.word ≠ "true") (not_false : name.word ≠ "false")

namespace Lone

def word : Lone → String
  | .literal true => "true"
  | .literal false => "false"
  | .test name _ _ => name.word

def condition : Lone → Condition
  | .literal holds => .literal holds
  | .test name _ _ => .truthy name.axis

theorem word_injective {l l' : Lone} (h : l.word = l'.word) : l = l' := by
  cases l with
  | literal holds =>
    cases l' with
    | literal holds' => cases holds <;> cases holds' <;> first | rfl | simp [word] at h
    | test name' not_true' not_false' =>
      cases holds with
      | true => exact absurd h.symm not_true'
      | false => exact absurd h.symm not_false'
  | test name not_true not_false =>
    cases l' with
    | literal holds' =>
      cases holds' with
      | true => exact absurd h not_true
      | false => exact absurd h not_false
    | test name' not_true' not_false' =>
      obtain rfl := Name.word_injective h
      rfl

end Lone

/-- A side of a comparison. -/
inductive Side
  | name (name : Name)
  | quoted (text : String)

namespace Side

def token : Side → Token
  | .name n => .word n.word
  | .quoted text => .quoted text

/-- To the left every word is an axis. -/
def left : Side → Operand
  | .name n => .axis n.axis
  | .quoted text => .value text

/-- To the right only a marked word is one. -/
def right : Side → Operand
  | .name (.marked axis) => .axis axis
  | .name (.plain word _) => .value word
  | .quoted text => .value text

theorem token_injective {s s' : Side} (h : s.token = s'.token) : s = s' := by
  cases s with
  | name n =>
    cases s' with
    | name n' => rw [Name.word_injective (Token.word.inj h)]
    | quoted text' => nomatch h
  | quoted text =>
    cases s' with
    | name n' => nomatch h
    | quoted text' => rw [Token.quoted.inj h]

end Side

/-- The sign of a comparison. -/
def sign : Comparison → Token
  | .equal => .equal
  | .different => .different

theorem sign_injective {comparison comparison' : Comparison}
    (h : sign comparison = sign comparison') : comparison = comparison' := by
  cases comparison <;> cases comparison' <;> first | rfl | nomatch h

/-! ## Derivations -/

mutual

/-- A derivation of `or`. -/
inductive Disjunction
  | mk (first : Conjunction) (others : Alternatives)

/-- The repetition in `or`. -/
inductive Alternatives
  | nil
  | cons (next : Conjunction) (others : Alternatives)

/-- A derivation of `and`. -/
inductive Conjunction
  | mk (first : Unary) (others : Members)

/-- The repetition in `and`. -/
inductive Members
  | nil
  | cons (next : Unary) (others : Members)

/-- A derivation of `unary`. -/
inductive Unary
  | not (inner : Unary)
  | primary (primary : Primary)

/-- A derivation of `primary`. -/
inductive Primary
  | group (inner : Disjunction)
  | lone (word : Lone)
  | compare (left : Side) (comparison : Comparison) (right : Side)

end

mutual

/-- The tokens that a derivation is written with. -/
def Disjunction.tokens : Disjunction → List Token
  | .mk first others => first.tokens ++ others.tokens

def Alternatives.tokens : Alternatives → List Token
  | .nil => []
  | .cons next others => .or :: (next.tokens ++ others.tokens)

def Conjunction.tokens : Conjunction → List Token
  | .mk first others => first.tokens ++ others.tokens

def Members.tokens : Members → List Token
  | .nil => []
  | .cons next others => .and :: (next.tokens ++ others.tokens)

def Unary.tokens : Unary → List Token
  | .not inner => .not :: inner.tokens
  | .primary primary => primary.tokens

def Primary.tokens : Primary → List Token
  | .group inner => .open :: (inner.tokens ++ [.close])
  | .lone word => [.word word.word]
  | .compare left comparison right => [left.token, sign comparison, right.token]

end

mutual

/-- The condition that a derivation means. -/
def Disjunction.condition : Disjunction → Condition
  | .mk first others => others.onto first.condition

/-- The condition with further alternatives to the right of it. -/
def Alternatives.onto : Alternatives → Condition → Condition
  | .nil, c => c
  | .cons next others, c => others.onto (.or c next.condition)

def Conjunction.condition : Conjunction → Condition
  | .mk first others => others.onto first.condition

/-- The condition with further members of a conjunction to the right of it. -/
def Members.onto : Members → Condition → Condition
  | .nil, c => c
  | .cons next others, c => others.onto (.and c next.condition)

def Unary.condition : Unary → Condition
  | .not inner => .not inner.condition
  | .primary primary => primary.condition

def Primary.condition : Primary → Condition
  | .group inner => inner.condition
  | .lone word => word.condition
  | .compare left comparison right => .compare left.left comparison right.right

end

/-! ## What follows a derivation -/

/-- The tokens do not go on with a comparison. -/
def NoSign (rest : List Token) : Prop :=
  ∀ comparison, rest.head? ≠ some (sign comparison)

/-- The tokens do not go on with a comparison or another member of a conjunction. -/
structure NoMember (rest : List Token) : Prop where
  noSign : NoSign rest
  no_and : rest.head? ≠ some .and

/-- The tokens do not go on with anything that belongs to a condition before them. -/
structure NoAlternative (rest : List Token) : Prop where
  noMember : NoMember rest
  no_or : rest.head? ≠ some .or

theorem noAlternative_nil : NoAlternative [] where
  noMember := ⟨fun _ => by simp, by simp⟩
  no_or := by simp

theorem noAlternative_close (rest : List Token) : NoAlternative (.close :: rest) where
  noMember := ⟨fun comparison => by cases comparison <;> simp [sign], by simp⟩
  no_or := by simp

theorem Members.noSign (m : Members) {rest : List Token} (h : NoMember rest) :
    NoSign (m.tokens ++ rest) := by
  cases m with
  | nil => exact h.noSign
  | cons next others => intro comparison; cases comparison <;> simp [tokens, sign]

theorem Alternatives.noMember (a : Alternatives) {rest : List Token} (h : NoAlternative rest) :
    NoMember (a.tokens ++ rest) := by
  cases a with
  | nil => exact h.noMember
  | cons next others =>
    exact ⟨fun comparison => by cases comparison <;> simp [tokens, sign], by simp [tokens]⟩

/-! ## Unambiguity -/

theorem Primary.head?_tokens_ne_not (p : Primary) (rest : List Token) :
    (p.tokens ++ rest).head? ≠ some .not := by
  cases p with
  | compare left comparison right => cases left <;> simp [tokens, Side.token]
  | group inner | lone word => simp [tokens]

mutual

theorem Disjunction.tokens_append_inj {d d' : Disjunction} {rest rest' : List Token}
    (h : d.tokens ++ rest = d'.tokens ++ rest') (hrest : NoAlternative rest)
    (hrest' : NoAlternative rest') : d = d' ∧ rest = rest' := by
  match d, d' with
  | .mk first others, .mk first' others' =>
    simp only [Disjunction.tokens, List.append_assoc] at h
    obtain ⟨rfl, hothers⟩ :=
      Conjunction.tokens_append_inj h (others.noMember hrest) (others'.noMember hrest')
    obtain ⟨rfl, rfl⟩ := Alternatives.tokens_append_inj hothers hrest hrest'
    exact ⟨rfl, rfl⟩

theorem Alternatives.tokens_append_inj {a a' : Alternatives} {rest rest' : List Token}
    (h : a.tokens ++ rest = a'.tokens ++ rest') (hrest : NoAlternative rest)
    (hrest' : NoAlternative rest') : a = a' ∧ rest = rest' := by
  match a, a' with
  | .nil, .nil => exact ⟨rfl, h⟩
  | .nil, .cons next' others' => exact absurd (congrArg List.head? h) hrest.no_or
  | .cons next others, .nil => exact absurd (congrArg List.head? h.symm) hrest'.no_or
  | .cons next others, .cons next' others' =>
    simp only [Alternatives.tokens, List.cons_append, List.append_assoc, List.cons.injEq,
      true_and] at h
    obtain ⟨rfl, hothers⟩ :=
      Conjunction.tokens_append_inj h (others.noMember hrest) (others'.noMember hrest')
    obtain ⟨rfl, rfl⟩ := Alternatives.tokens_append_inj hothers hrest hrest'
    exact ⟨rfl, rfl⟩

theorem Conjunction.tokens_append_inj {c c' : Conjunction} {rest rest' : List Token}
    (h : c.tokens ++ rest = c'.tokens ++ rest') (hrest : NoMember rest)
    (hrest' : NoMember rest') : c = c' ∧ rest = rest' := by
  match c, c' with
  | .mk first others, .mk first' others' =>
    simp only [Conjunction.tokens, List.append_assoc] at h
    obtain ⟨rfl, hothers⟩ := Unary.tokens_append_inj h (others.noSign hrest) (others'.noSign hrest')
    obtain ⟨rfl, rfl⟩ := Members.tokens_append_inj hothers hrest hrest'
    exact ⟨rfl, rfl⟩

theorem Members.tokens_append_inj {m m' : Members} {rest rest' : List Token}
    (h : m.tokens ++ rest = m'.tokens ++ rest') (hrest : NoMember rest)
    (hrest' : NoMember rest') : m = m' ∧ rest = rest' := by
  match m, m' with
  | .nil, .nil => exact ⟨rfl, h⟩
  | .nil, .cons next' others' => exact absurd (congrArg List.head? h) hrest.no_and
  | .cons next others, .nil => exact absurd (congrArg List.head? h.symm) hrest'.no_and
  | .cons next others, .cons next' others' =>
    simp only [Members.tokens, List.cons_append, List.append_assoc, List.cons.injEq,
      true_and] at h
    obtain ⟨rfl, hothers⟩ := Unary.tokens_append_inj h (others.noSign hrest) (others'.noSign hrest')
    obtain ⟨rfl, rfl⟩ := Members.tokens_append_inj hothers hrest hrest'
    exact ⟨rfl, rfl⟩

theorem Unary.tokens_append_inj {u u' : Unary} {rest rest' : List Token}
    (h : u.tokens ++ rest = u'.tokens ++ rest') (hrest : NoSign rest)
    (hrest' : NoSign rest') : u = u' ∧ rest = rest' := by
  match u, u' with
  | .not inner, .not inner' =>
    simp only [Unary.tokens, List.cons_append, List.cons.injEq, true_and] at h
    obtain ⟨rfl, rfl⟩ := Unary.tokens_append_inj h hrest hrest'
    exact ⟨rfl, rfl⟩
  | .not inner, .primary p' =>
    exact absurd (congrArg List.head? h.symm) (p'.head?_tokens_ne_not rest')
  | .primary p, .not inner' =>
    exact absurd (congrArg List.head? h) (p.head?_tokens_ne_not rest)
  | .primary p, .primary p' =>
    obtain ⟨rfl, rfl⟩ := Primary.tokens_append_inj h hrest hrest'
    exact ⟨rfl, rfl⟩

theorem Primary.tokens_append_inj {p p' : Primary} {rest rest' : List Token}
    (h : p.tokens ++ rest = p'.tokens ++ rest') (hrest : NoSign rest)
    (hrest' : NoSign rest') : p = p' ∧ rest = rest' := by
  match p, p' with
  | .group inner, .group inner' =>
    simp only [Primary.tokens, List.cons_append, List.append_assoc, List.cons.injEq, true_and] at h
    obtain ⟨rfl, hclose⟩ :=
      Disjunction.tokens_append_inj h (noAlternative_close _) (noAlternative_close _)
    exact ⟨rfl, by simpa using hclose⟩
  | .lone word, .lone word' =>
    obtain ⟨hword, hrest⟩ := List.cons.inj h
    rw [Lone.word_injective (Token.word.inj hword)]
    exact ⟨rfl, hrest⟩
  | .compare left comparison right, .compare left' comparison' right' =>
    simp only [Primary.tokens, List.cons_append, List.nil_append, List.cons.injEq] at h
    obtain ⟨hleft, hsign, hright, hrest⟩ := h
    rw [Side.token_injective hleft, sign_injective hsign, Side.token_injective hright]
    exact ⟨rfl, hrest⟩
  | .lone word, .compare left' comparison' right' =>
    exact absurd (congrArg List.head? (List.cons.inj h).2) (hrest comparison')
  | .compare left comparison right, .lone word' =>
    exact absurd (congrArg List.head? (List.cons.inj h).2.symm) (hrest' comparison)
  | .group inner, .lone word' => nomatch h
  | .lone word, .group inner' => nomatch h
  | .group inner, .compare left' comparison' right' => cases left' <;> nomatch h
  | .compare left comparison right, .group inner' => cases left <;> nomatch h

end

/-- A list of tokens has at most one derivation. -/
theorem Disjunction.tokens_injective : Function.Injective Disjunction.tokens := by
  intro d d' h
  have happend : d.tokens ++ [] = d'.tokens ++ [] := by rw [h]
  exact (tokens_append_inj happend noAlternative_nil noAlternative_nil).1

/-! ## Induction over derivations -/

/-- A property of tokens and a condition that every rule of the grammar keeps. -/
structure Kept (P : List Token → Condition → Prop) : Prop where
  lone (word : Lone) : P [.word word.word] word.condition
  compare (left : Side) (comparison : Comparison) (right : Side) :
    P [left.token, sign comparison, right.token] (.compare left.left comparison right.right)
  group {ts : List Token} {c : Condition} (h : P ts c) : P (.open :: (ts ++ [.close])) c
  not {ts : List Token} {c : Condition} (h : P ts c) : P (.not :: ts) (.not c)
  and {ts us : List Token} {c d : Condition} (h : P ts c) (h' : P us d) :
    P (ts ++ .and :: us) (.and c d)
  or {ts us : List Token} {c d : Condition} (h : P ts c) (h' : P us d) :
    P (ts ++ .or :: us) (.or c d)

mutual

/-- What every rule keeps holds of the tokens and the meaning of a derivation. -/
theorem Kept.disjunction {P : List Token → Condition → Prop} (hP : Kept P) (d : Disjunction) :
    P d.tokens d.condition := by
  match d with
  | .mk first others => exact hP.alternatives others (hP.conjunction first)

theorem Kept.alternatives {P : List Token → Condition → Prop} (hP : Kept P) (a : Alternatives)
    {ts : List Token} {c : Condition} (h : P ts c) : P (ts ++ a.tokens) (a.onto c) := by
  match a with
  | .nil => exact (List.append_nil ts).symm ▸ h
  | .cons next others =>
    have hnext := hP.alternatives others (hP.or h (hP.conjunction next))
    rwa [List.append_assoc] at hnext

theorem Kept.conjunction {P : List Token → Condition → Prop} (hP : Kept P) (d : Conjunction) :
    P d.tokens d.condition := by
  match d with
  | .mk first others => exact hP.members others (hP.unary first)

theorem Kept.members {P : List Token → Condition → Prop} (hP : Kept P) (m : Members)
    {ts : List Token} {c : Condition} (h : P ts c) : P (ts ++ m.tokens) (m.onto c) := by
  match m with
  | .nil => exact (List.append_nil ts).symm ▸ h
  | .cons next others =>
    have hnext := hP.members others (hP.and h (hP.unary next))
    rwa [List.append_assoc] at hnext

theorem Kept.unary {P : List Token → Condition → Prop} (hP : Kept P) (u : Unary) :
    P u.tokens u.condition := by
  match u with
  | .not inner => exact hP.not (hP.unary inner)
  | .primary p => exact hP.primary p

theorem Kept.primary {P : List Token → Condition → Prop} (hP : Kept P) (p : Primary) :
    P p.tokens p.condition := by
  match p with
  | .group inner => exact hP.group (hP.disjunction inner)
  | .lone word => exact hP.lone word
  | .compare left comparison right => exact hP.compare left comparison right

end

end JobMatrix.Condition
