import Mathlib
import JobMatrix.Condition.Parser
import JobMatrix.Proofs.Condition.Grammar

/-!
# Parsing by the grammar

Reading takes the tokens of a derivation off the front of a list, and what it returns is what the
derivation means. Whatever it takes off is derived, and a derivation is taken off whole if nothing
behind it belongs to it. So a list of tokens is read exactly if it is derived.
-/

namespace JobMatrix.Condition

/-! ## Words -/

theorem toList_mark_append (axis : String) :
    ("matrix." ++ axis).toList = axisMark ++ axis.toList :=
  String.toList_append

theorem marked?_eq_some_iff {word axis : String} :
    marked? word = some axis ↔ word = "matrix." ++ axis := by
  rw [marked?, ← @String.toList_inj word, toList_mark_append]
  split
  · next hprefix =>
    obtain ⟨rest, hrest⟩ := List.isPrefixOf_iff_prefix.1 hprefix
    rw [← hrest, List.drop_left, Option.some.injEq, List.append_cancel_left_eq,
      ← String.toList_inj, String.toList_ofList]
  · next hprefix =>
    refine ⟨fun h => absurd h (by simp), fun h => absurd ?_ hprefix⟩
    exact List.isPrefixOf_iff_prefix.2 ⟨axis.toList, h.symm⟩

theorem marked?_plain {word : String} (h : ¬ Marked word) : marked? word = none := by
  rw [Option.eq_none_iff_forall_ne_some]
  exact fun axis heq => h ⟨axis, marked?_eq_some_iff.1 heq⟩

theorem Name.axisName_word (n : Name) : axisName n.word = n.axis := by
  cases n with
  | marked axis => rw [axisName, Name.word, marked?_eq_some_iff.2 rfl]; rfl
  | plain word unmarked => rw [axisName, Name.word, marked?_plain unmarked]; rfl

theorem Side.right_name (n : Name) : (Side.name n).right = Operand.ofWord n.word := by
  cases n with
  | marked axis => rw [Operand.ofWord, Name.word, marked?_eq_some_iff.2 rfl]; rfl
  | plain word unmarked => rw [Operand.ofWord, Name.word, marked?_plain unmarked]; rfl

theorem Lone.ofWord_word (l : Lone) : ofWord l.word = l.condition := by
  cases l with
  | literal holds => cases holds <;> rfl
  | test name not_true not_false =>
    rw [ofWord, Lone.word, if_neg not_true, if_neg not_false, name.axisName_word]
    rfl

/-- Every word is a word on its own. -/
theorem Lone.exists_word_eq (word : String) : ∃ l : Lone, l.word = word := by
  by_cases htrue : word = "true"
  · exact ⟨.literal true, htrue.symm⟩
  by_cases hfalse : word = "false"
  · exact ⟨.literal false, hfalse.symm⟩
  · obtain ⟨name, rfl⟩ := Name.exists_word_eq word
    exact ⟨.test name htrue hfalse, rfl⟩

theorem comparison?_eq_some_iff {t : Token} {comparison : Comparison} :
    comparison? t = some comparison ↔ t = sign comparison := by
  cases t <;> cases comparison <;> simp [comparison?, sign]

/-! ## What each reader does -/

/-- Reading comes to a condition and leaves these tokens over. -/
def Gives {P : List Token → Prop} (result : Except Fault (Condition × { rest : List Token // P rest }))
    (c : Condition) (rest : List Token) : Prop :=
  ∃ h, result = .ok (c, ⟨rest, h⟩)

variable {ts rest : List Token} {c left : Condition}

theorem Gives.length_lt {result : Except Fault (Parsed ts)} (h : Gives result c rest) :
    rest.length < ts.length :=
  h.1

theorem gives_ok {P : List Token → Prop} {a : Condition} {r : { rest : List Token // P rest }} :
    Gives (.ok (a, r)) c rest ↔ c = a ∧ rest = r.1 := by
  constructor
  · rintro ⟨h, heq⟩
    obtain ⟨rfl, rfl⟩ := by simpa using heq
    exact ⟨rfl, rfl⟩
  · rintro ⟨rfl, rfl⟩
    exact ⟨r.2, rfl⟩

theorem gives_parseOr : Gives (parseOr ts) c rest ↔
    ∃ first mid, Gives (parseAnd ts) first mid ∧ Gives (parseOrTail first mid) c rest := by
  constructor
  · rintro ⟨h, heq⟩
    rw [parseOr] at heq
    split at heq
    · cases heq
    · next first mid hfirst =>
      split at heq
      · cases heq
      · next c' rest' hothers =>
        obtain ⟨rfl, rfl⟩ := by simpa using heq
        exact ⟨first, mid.1, ⟨mid.2, hfirst⟩, ⟨rest'.2, hothers⟩⟩
  · rintro ⟨first, mid, ⟨hmid, hfirst⟩, ⟨hrest, hothers⟩⟩
    refine ⟨Nat.lt_of_le_of_lt hrest hmid, ?_⟩
    rw [parseOr, hfirst]
    simp [hothers]

theorem gives_parseOrTail_or : Gives (parseOrTail left (.or :: ts)) c rest ↔
    ∃ next mid, Gives (parseAnd ts) next mid ∧ Gives (parseOrTail (.or left next) mid) c rest := by
  constructor
  · rintro ⟨h, heq⟩
    rw [parseOrTail] at heq
    split at heq
    · cases heq
    · next next mid hnext =>
      split at heq
      · cases heq
      · next c' rest' hothers =>
        obtain ⟨rfl, rfl⟩ := by simpa using heq
        exact ⟨next, mid.1, ⟨mid.2, hnext⟩, ⟨rest'.2, hothers⟩⟩
  · rintro ⟨next, mid, ⟨hmid, hnext⟩, ⟨hrest, hothers⟩⟩
    refine ⟨Nat.le_trans hrest (Nat.le_of_lt (Nat.lt_succ_of_lt hmid)), ?_⟩
    rw [parseOrTail, hnext]
    simp [hothers]

theorem gives_parseOrTail_of_ne (hts : ts.head? ≠ some .or) :
    Gives (parseOrTail left ts) c rest ↔ c = left ∧ rest = ts := by
  have heq : parseOrTail left ts = .ok (left, ⟨ts, Nat.le_refl _⟩) := by
    rw [parseOrTail]
    rintro us rfl
    exact hts rfl
  rw [heq]
  exact gives_ok

theorem gives_parseAnd : Gives (parseAnd ts) c rest ↔
    ∃ first mid, Gives (parseUnary ts) first mid ∧ Gives (parseAndTail first mid) c rest := by
  constructor
  · rintro ⟨h, heq⟩
    rw [parseAnd] at heq
    split at heq
    · cases heq
    · next first mid hfirst =>
      split at heq
      · cases heq
      · next c' rest' hothers =>
        obtain ⟨rfl, rfl⟩ := by simpa using heq
        exact ⟨first, mid.1, ⟨mid.2, hfirst⟩, ⟨rest'.2, hothers⟩⟩
  · rintro ⟨first, mid, ⟨hmid, hfirst⟩, ⟨hrest, hothers⟩⟩
    refine ⟨Nat.lt_of_le_of_lt hrest hmid, ?_⟩
    rw [parseAnd, hfirst]
    simp [hothers]

theorem gives_parseAndTail_and : Gives (parseAndTail left (.and :: ts)) c rest ↔
    ∃ next mid, Gives (parseUnary ts) next mid ∧ Gives (parseAndTail (.and left next) mid) c rest := by
  constructor
  · rintro ⟨h, heq⟩
    rw [parseAndTail] at heq
    split at heq
    · cases heq
    · next next mid hnext =>
      split at heq
      · cases heq
      · next c' rest' hothers =>
        obtain ⟨rfl, rfl⟩ := by simpa using heq
        exact ⟨next, mid.1, ⟨mid.2, hnext⟩, ⟨rest'.2, hothers⟩⟩
  · rintro ⟨next, mid, ⟨hmid, hnext⟩, ⟨hrest, hothers⟩⟩
    refine ⟨Nat.le_trans hrest (Nat.le_of_lt (Nat.lt_succ_of_lt hmid)), ?_⟩
    rw [parseAndTail, hnext]
    simp [hothers]

theorem gives_parseAndTail_of_ne (hts : ts.head? ≠ some .and) :
    Gives (parseAndTail left ts) c rest ↔ c = left ∧ rest = ts := by
  have heq : parseAndTail left ts = .ok (left, ⟨ts, Nat.le_refl _⟩) := by
    rw [parseAndTail]
    rintro us rfl
    exact hts rfl
  rw [heq]
  exact gives_ok

theorem gives_parseUnary_not : Gives (parseUnary (.not :: ts)) c rest ↔
    ∃ inner, Gives (parseUnary ts) inner rest ∧ c = .not inner := by
  constructor
  · rintro ⟨h, heq⟩
    rw [parseUnary] at heq
    split at heq
    · cases heq
    · next inner rest' hinner =>
      obtain ⟨rfl, rfl⟩ := by simpa using heq
      exact ⟨inner, ⟨rest'.2, hinner⟩, rfl⟩
  · rintro ⟨inner, ⟨hrest, hinner⟩, rfl⟩
    refine ⟨Nat.lt_succ_of_lt hrest, ?_⟩
    rw [parseUnary, hinner]

theorem parseUnary_of_ne (hts : ts.head? ≠ some .not) : parseUnary ts = parsePrimary ts := by
  rw [parseUnary]
  rintro us rfl
  exact hts rfl

theorem gives_parseComparison {side : Operand} : Gives (parseComparison side ts) c rest ↔
    ∃ comparison right, ts = sign comparison :: Side.token right :: rest ∧
      c = .compare side comparison right.right := by
  constructor
  · rintro ⟨h, heq⟩
    unfold parseComparison at heq
    split at heq
    · cases heq
    · next t us =>
      split at heq
      · cases heq
      · next comparison hsign =>
        rw [comparison?_eq_some_iff.1 hsign]
        split at heq
        · next word vs =>
          obtain ⟨rfl, rfl⟩ := by simpa using heq
          obtain ⟨name, rfl⟩ := Name.exists_word_eq word
          exact ⟨comparison, .name name, rfl, by rw [Side.right_name]⟩
        · next text vs =>
          obtain ⟨rfl, rfl⟩ := by simpa using heq
          exact ⟨comparison, .quoted text, rfl, rfl⟩
        · cases heq
  · rintro ⟨comparison, right, rfl, rfl⟩
    have hsign : comparison? (sign comparison) = some comparison := comparison?_eq_some_iff.2 rfl
    refine ⟨by simp only [List.length_cons]; omega, ?_⟩
    cases right with
    | name n => simp [parseComparison, hsign, Side.token, Side.right_name]
    | quoted text => simp [parseComparison, hsign, Side.token, Side.right]

theorem gives_parsePrimary_open : Gives (parsePrimary (.open :: ts)) c rest ↔
    Gives (parseOr ts) c (.close :: rest) := by
  constructor
  · rintro ⟨h, heq⟩
    rw [parsePrimary] at heq
    split at heq
    · cases heq
    · next inner rest' hlt hinner =>
      obtain ⟨rfl, rfl⟩ := by simpa using heq
      exact ⟨hlt, hinner⟩
    · cases heq
  · rintro ⟨h, hinner⟩
    refine ⟨by simp only [List.length_cons] at h ⊢; omega, ?_⟩
    rw [parsePrimary, hinner]

theorem gives_widen {us : List Token} {result : Except Fault (Parsed ts)}
    (hle : ts.length ≤ us.length) :
    Gives (result.map (Parsed.widen hle)) c rest ↔ Gives result c rest := by
  constructor
  · rintro ⟨h, heq⟩
    cases result with
    | error e => cases heq
    | ok p =>
      obtain ⟨rfl, rfl⟩ : p.1 = c ∧ p.2.1 = rest := by simpa [Except.map, Parsed.widen] using heq
      exact ⟨p.2.2, rfl⟩
  · rintro ⟨h, rfl⟩
    exact ⟨Nat.lt_of_lt_of_le h hle, rfl⟩

theorem gives_parsePrimary_quoted {text : String} : Gives (parsePrimary (.quoted text :: ts)) c rest ↔
    ∃ comparison right, ts = sign comparison :: Side.token right :: rest ∧
      c = .compare (.value text) comparison right.right := by
  rw [parsePrimary, gives_widen, gives_parseComparison]

theorem gives_parsePrimary_word {word : String} : Gives (parsePrimary (.word word :: ts)) c rest ↔
    (NoSign ts ∧ c = ofWord word ∧ rest = ts) ∨
      ∃ comparison right, ts = sign comparison :: Side.token right :: rest ∧
        c = .compare (.axis (axisName word)) comparison right.right := by
  rw [parsePrimary]
  split
  · next hnone =>
    have hsign : NoSign ts := by
      intro comparison hhead
      rw [hhead, Option.bind_some, comparison?_eq_some_iff.2 rfl] at hnone
      cases hnone
    rw [gives_ok]
    refine ⟨fun h => .inl ⟨hsign, h⟩, fun h => h.elim And.right ?_⟩
    rintro ⟨comparison, right, rfl, -⟩
    exact absurd rfl (hsign comparison)
  · next comparison hsome =>
    obtain ⟨t, hhead, ht⟩ := Option.bind_eq_some_iff.1 hsome
    rw [comparison?_eq_some_iff.1 ht] at hhead
    rw [gives_widen, gives_parseComparison]
    exact ⟨.inr, fun h => h.elim (fun hno => absurd hhead (hno.1 comparison)) id⟩

/-- Nothing else begins a primary. -/
theorem Gives.begins (h : Gives (parsePrimary ts) c rest) :
    ∃ us, ts = .open :: us ∨ (∃ word, ts = .word word :: us) ∨ ∃ text, ts = .quoted text :: us := by
  obtain ⟨hlt, heq⟩ := h
  cases ts with
  | nil => cases hlt
  | cons t us =>
    refine ⟨us, ?_⟩
    cases t with
    | «open» => exact .inl rfl
    | word word => exact .inr (.inl ⟨word, rfl⟩)
    | quoted text => exact .inr (.inr ⟨text, rfl⟩)
    | equal | different | and | or | not | close => simp [parsePrimary] at heq

/-! ## Soundness -/

mutual

/-- What is read is derived from the tokens taken off. -/
theorem exists_disjunction {ts rest : List Token} {c : Condition} (h : Gives (parseOr ts) c rest) :
    ∃ d : Disjunction, ts = d.tokens ++ rest ∧ c = d.condition := by
  -- The proofs call each other as the readers do: for fewer tokens, or for the next level.
  obtain ⟨left, mid, hfirst, hothers⟩ := gives_parseOr.1 h
  have hlt := hfirst.length_lt
  obtain ⟨first, rfl, rfl⟩ := exists_conjunction hfirst
  obtain ⟨others, rfl, rfl⟩ := exists_alternatives hothers
  exact ⟨.mk first others, by simp [Disjunction.tokens], rfl⟩
termination_by (ts.length, 3)

theorem exists_alternatives {ts rest : List Token} {left c : Condition}
    (h : Gives (parseOrTail left ts) c rest) :
    ∃ a : Alternatives, ts = a.tokens ++ rest ∧ c = a.onto left := by
  by_cases hor : ts.head? = some .or
  · obtain ⟨us, rfl⟩ : ∃ us, ts = .or :: us := List.head?_eq_some_iff.1 hor
    obtain ⟨right, mid, hnext, hothers⟩ := gives_parseOrTail_or.1 h
    have hlt := hnext.length_lt
    obtain ⟨next, rfl, rfl⟩ := exists_conjunction hnext
    obtain ⟨others, rfl, rfl⟩ := exists_alternatives hothers
    exact ⟨.cons next others, by simp [Alternatives.tokens], rfl⟩
  · obtain ⟨rfl, rfl⟩ := (gives_parseOrTail_of_ne hor).1 h
    exact ⟨.nil, rfl, rfl⟩
termination_by (ts.length, 3)

theorem exists_conjunction {ts rest : List Token} {c : Condition} (h : Gives (parseAnd ts) c rest) :
    ∃ d : Conjunction, ts = d.tokens ++ rest ∧ c = d.condition := by
  obtain ⟨left, mid, hfirst, hothers⟩ := gives_parseAnd.1 h
  have hlt := hfirst.length_lt
  obtain ⟨first, rfl, rfl⟩ := exists_unary hfirst
  obtain ⟨others, rfl, rfl⟩ := exists_members hothers
  exact ⟨.mk first others, by simp [Conjunction.tokens], rfl⟩
termination_by (ts.length, 2)

theorem exists_members {ts rest : List Token} {left c : Condition}
    (h : Gives (parseAndTail left ts) c rest) :
    ∃ m : Members, ts = m.tokens ++ rest ∧ c = m.onto left := by
  by_cases hand : ts.head? = some .and
  · obtain ⟨us, rfl⟩ : ∃ us, ts = .and :: us := List.head?_eq_some_iff.1 hand
    obtain ⟨right, mid, hnext, hothers⟩ := gives_parseAndTail_and.1 h
    have hlt := hnext.length_lt
    obtain ⟨next, rfl, rfl⟩ := exists_unary hnext
    obtain ⟨others, rfl, rfl⟩ := exists_members hothers
    exact ⟨.cons next others, by simp [Members.tokens], rfl⟩
  · obtain ⟨rfl, rfl⟩ := (gives_parseAndTail_of_ne hand).1 h
    exact ⟨.nil, rfl, rfl⟩
termination_by (ts.length, 2)

theorem exists_unary {ts rest : List Token} {c : Condition} (h : Gives (parseUnary ts) c rest) :
    ∃ u : Unary, ts = u.tokens ++ rest ∧ c = u.condition := by
  by_cases hnot : ts.head? = some .not
  · obtain ⟨us, rfl⟩ : ∃ us, ts = .not :: us := List.head?_eq_some_iff.1 hnot
    obtain ⟨operand, hinner, rfl⟩ := gives_parseUnary_not.1 h
    obtain ⟨inner, rfl, rfl⟩ := exists_unary hinner
    exact ⟨.not inner, rfl, rfl⟩
  · rw [parseUnary_of_ne hnot] at h
    obtain ⟨p, rfl, rfl⟩ := exists_primary h
    exact ⟨.primary p, rfl, rfl⟩
termination_by (ts.length, 1)

theorem exists_primary {ts rest : List Token} {c : Condition} (h : Gives (parsePrimary ts) c rest) :
    ∃ p : Primary, ts = p.tokens ++ rest ∧ c = p.condition := by
  obtain ⟨us, rfl | ⟨word, rfl⟩ | ⟨text, rfl⟩⟩ := h.begins
  · obtain ⟨inner, rfl, rfl⟩ := exists_disjunction (gives_parsePrimary_open.1 h)
    exact ⟨.group inner, by simp [Primary.tokens], rfl⟩
  · rcases gives_parsePrimary_word.1 h with ⟨-, rfl, rfl⟩ | ⟨comparison, right, rfl, rfl⟩
    · obtain ⟨lone, rfl⟩ := Lone.exists_word_eq word
      exact ⟨.lone lone, rfl, lone.ofWord_word⟩
    · obtain ⟨name, rfl⟩ := Name.exists_word_eq word
      rw [name.axisName_word]
      exact ⟨.compare (.name name) comparison right, rfl, rfl⟩
  · obtain ⟨comparison, right, rfl, rfl⟩ := gives_parsePrimary_quoted.1 h
    exact ⟨.compare (.quoted text) comparison right, rfl, rfl⟩
termination_by (ts.length, 0)

end

/-! ## Completeness -/

mutual

/-- A derivation is read off the front of a list whose rest does not belong to it. -/
theorem Disjunction.gives (d : Disjunction) {rest : List Token} (h : NoAlternative rest) :
    Gives (parseOr (d.tokens ++ rest)) d.condition rest := by
  match d with
  | .mk first others =>
    rw [Disjunction.tokens, List.append_assoc]
    exact gives_parseOr.2 ⟨_, _, first.gives (others.noMember h), others.gives _ h⟩

theorem Alternatives.gives (a : Alternatives) (left : Condition) {rest : List Token}
    (h : NoAlternative rest) : Gives (parseOrTail left (a.tokens ++ rest)) (a.onto left) rest := by
  match a with
  | .nil => exact (gives_parseOrTail_of_ne h.no_or).2 ⟨rfl, rfl⟩
  | .cons next others =>
    rw [Alternatives.tokens, List.cons_append, List.append_assoc]
    exact gives_parseOrTail_or.2 ⟨_, _, next.gives (others.noMember h), others.gives _ h⟩

theorem Conjunction.gives (d : Conjunction) {rest : List Token} (h : NoMember rest) :
    Gives (parseAnd (d.tokens ++ rest)) d.condition rest := by
  match d with
  | .mk first others =>
    rw [Conjunction.tokens, List.append_assoc]
    exact gives_parseAnd.2 ⟨_, _, first.gives (others.noSign h), others.gives _ h⟩

theorem Members.gives (m : Members) (left : Condition) {rest : List Token}
    (h : NoMember rest) : Gives (parseAndTail left (m.tokens ++ rest)) (m.onto left) rest := by
  match m with
  | .nil => exact (gives_parseAndTail_of_ne h.no_and).2 ⟨rfl, rfl⟩
  | .cons next others =>
    rw [Members.tokens, List.cons_append, List.append_assoc]
    exact gives_parseAndTail_and.2 ⟨_, _, next.gives (others.noSign h), others.gives _ h⟩

theorem Unary.gives (u : Unary) {rest : List Token} (h : NoSign rest) :
    Gives (parseUnary (u.tokens ++ rest)) u.condition rest := by
  match u with
  | .not inner => exact gives_parseUnary_not.2 ⟨_, inner.gives h, rfl⟩
  | .primary p =>
    rw [Unary.tokens, parseUnary_of_ne (p.head?_tokens_ne_not rest)]
    exact p.gives h

theorem Primary.gives (p : Primary) {rest : List Token} (h : NoSign rest) :
    Gives (parsePrimary (p.tokens ++ rest)) p.condition rest := by
  match p with
  | .group inner =>
    rw [Primary.tokens, List.cons_append, List.append_assoc]
    exact gives_parsePrimary_open.2 (inner.gives (noAlternative_close rest))
  | .lone word => exact gives_parsePrimary_word.2 (.inl ⟨h, word.ofWord_word.symm, rfl⟩)
  | .compare (.name name) comparison right =>
    refine gives_parsePrimary_word.2 (.inr ⟨comparison, right, rfl, ?_⟩)
    rw [name.axisName_word]
    rfl
  | .compare (.quoted text) comparison right =>
    exact gives_parsePrimary_quoted.2 ⟨comparison, right, rfl, rfl⟩

end

/-! ## Whole lists -/

theorem Disjunction.tokens_ne_nil (d : Disjunction) : d.tokens ≠ [] := by
  intro hnil
  obtain ⟨h, -⟩ := d.gives noAlternative_nil
  simp [hnil] at h

theorem ofTokens_eq_ok_iff : ofTokens ts = .ok c ↔
    ∃ d : Disjunction, d.tokens = ts ∧ d.condition = c := by
  constructor
  · intro h
    unfold ofTokens at h
    split at h
    · cases h
    · split at h
      · cases h
      · next c' hlt hread =>
        obtain rfl := Except.ok.inj h
        obtain ⟨d, hts, hc⟩ := exists_disjunction ⟨hlt, hread⟩
        exact ⟨d, by simpa using hts.symm, hc.symm⟩
      · cases h
  · rintro ⟨d, rfl, rfl⟩
    obtain ⟨hlt, hread⟩ : Gives (parseOr d.tokens) d.condition [] :=
      List.append_nil d.tokens ▸ d.gives noAlternative_nil
    rw [ofTokens, if_neg (by simpa using d.tokens_ne_nil), hread]

theorem parse_eq_ok_iff {source : String} : parse source = .ok c ↔
    ∃ d : Disjunction, Token.scan source = .ok d.tokens ∧ d.condition = c := by
  unfold parse
  split
  · next e hscan => simp [hscan]
  · next ts hscan =>
    rw [ofTokens_eq_ok_iff, hscan]
    simp only [Except.ok.injEq, eq_comm]

/-- A text is a condition exactly if its tokens derive it. A list of tokens has at most one
derivation, and every list comes to an end: to what its derivation means, or to a fault if it has
none. -/
theorem parse_derives :
    (∀ source c, parse source = .ok c ↔
      ∃ ts, Token.scan source = .ok ts ∧ ts ≠ [] ∧
        ∃ d : Disjunction, d.tokens = ts ∧ d.condition = c) ∧
    Function.Injective Disjunction.tokens ∧
    ∀ ts, (∃ d : Disjunction, d.tokens = ts ∧ ofTokens ts = .ok d.condition) ∨
      (¬ ∃ d : Disjunction, d.tokens = ts) ∧ ∃ e, ofTokens ts = .error e := by
  refine ⟨fun source c => ?_, Disjunction.tokens_injective, fun ts => ?_⟩
  · rw [parse_eq_ok_iff]
    constructor
    · rintro ⟨d, hscan, hc⟩
      exact ⟨_, hscan, d.tokens_ne_nil, d, rfl, hc⟩
    · rintro ⟨_, hscan, -, d, rfl, hc⟩
      exact ⟨d, hscan, hc⟩
  · cases hread : ofTokens ts with
    | ok c =>
      obtain ⟨d, hts, rfl⟩ := ofTokens_eq_ok_iff.1 hread
      exact .inl ⟨d, hts, rfl⟩
    | error e =>
      refine .inr ⟨?_, e, rfl⟩
      rintro ⟨d, hts⟩
      rw [ofTokens_eq_ok_iff.2 ⟨d, hts, rfl⟩] at hread
      cases hread

end JobMatrix.Condition
