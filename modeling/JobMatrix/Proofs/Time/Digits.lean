import Mathlib
import JobMatrix.Time.Timestamp

/-!
# Numbers of fixed width

A number that is written with a fixed number of digits reads back, and texts that begin with such
numbers are ordered as the numbers are. The digits after a point are ordered as the fractions that
they stand for, however many there are.
-/

namespace JobMatrix.Timestamp

/-! ## Digits -/

theorem toList_padded (width n : Nat) : (padded width n).toList =
    List.replicate (width - (Nat.toDigits 10 n).length) '0' ++ Nat.toDigits 10 n := by
  simp [padded]

/-- The last digit of a number stands behind the digits of the others. -/
theorem padded_succ {width : Nat} (h : 0 < width) (n : Nat) :
    (padded (width + 1) n).toList =
      (padded width (n / 10)).toList ++ [Nat.digitChar (n % 10)] := by
  rw [toList_padded, toList_padded]
  by_cases hn : n < 10
  · rw [Nat.div_eq_of_lt hn, Nat.mod_eq_of_lt hn, Nat.toDigits_of_lt_base hn,
      Nat.toDigits_of_lt_base (by decide)]
    obtain ⟨w, rfl⟩ := Nat.exists_eq_add_of_lt h
    simp [List.replicate_succ']
  · rw [Nat.toDigits_of_base_le (by decide) (by omega)]
    simp

theorem padded_one {n : Nat} (h : n < 10) : (padded 1 n).toList = [Nat.digitChar n] := by
  rw [toList_padded, Nat.toDigits_of_lt_base h]
  rfl

theorem length_padded {width n : Nat} (h : 0 < width) (hn : n < 10 ^ width) :
    (padded width n).toList.length = width := by
  have hlength := (Nat.length_toDigits_le_iff (b := 10) (by decide) h).mpr hn
  rw [toList_padded, List.length_append, List.length_replicate]
  omega

theorem isDigit_of_mem_padded {width n : Nat} {c : Char} (h : c ∈ (padded width n).toList) :
    c.isDigit = true := by
  rw [toList_padded, List.mem_append] at h
  rcases h with hzero | hdigit
  · rw [List.eq_of_mem_replicate hzero]
    rfl
  · exact Nat.isDigit_of_mem_toDigits (by decide) (by decide) hdigit

/-- The first digits of a number are those of the number without the other ones. -/
theorem padded_add {width : Nat} (h : 0 < width) (more n : Nat) :
    ∃ tail, tail.length = more ∧
      (padded (width + more) n).toList = (padded width (n / 10 ^ more)).toList ++ tail := by
  induction more generalizing n with
  | zero => exact ⟨[], rfl, by simp⟩
  | succ more ih =>
    obtain ⟨tail, hlength, htail⟩ := ih (n / 10)
    refine ⟨tail ++ [Nat.digitChar (n % 10)], by simp [hlength], ?_⟩
    rw [← Nat.add_assoc, padded_succ (by omega), htail, Nat.div_div_eq_div_mul, Nat.pow_succ,
      Nat.mul_comm 10, List.append_assoc]

/-! ## Reading -/

theorem foldl_toDigits (n : Nat) (zeros : Nat) :
    (List.replicate zeros '0' ++ Nat.toDigits 10 n).foldl
      (fun m d => 10 * m + (d.toNat - '0'.toNat)) 0 = n := by
  induction zeros with
  | zero => exact Nat.ofDigitChars_toDigits (by decide) (by decide)
  | succ zeros ih => exact ih

theorem takeDigits_append {digits : List Char} (h : ∀ c ∈ digits, c.isDigit = true)
    (rest : List Char) : takeDigits digits.length (digits ++ rest) =
      some (digits.foldl (fun m d => 10 * m + (d.toNat - '0'.toNat)) 0, rest) := by
  simp [takeDigits, List.all_eq_true.mpr h]

/-- A number reads back. -/
theorem takeDigits_padded (width n : Nat) (rest : List Char) :
    takeDigits (padded width n).toList.length ((padded width n).toList ++ rest) =
      some (n, rest) := by
  rw [takeDigits_append fun c => isDigit_of_mem_padded, toList_padded, foldl_toDigits]

theorem takeDigits_fixed {width n : Nat} (h : 0 < width) (hn : n < 10 ^ width) (rest : List Char) :
    takeDigits width ((padded width n).toList ++ rest) = some (n, rest) := by
  have hread := takeDigits_padded width n rest
  rwa [length_padded h hn] at hread

theorem foldl_zeros (zeros m : Nat) :
    (List.replicate zeros '0').foldl (fun m d => 10 * m + (d.toNat - '0'.toNat)) m =
      m * 10 ^ zeros := by
  induction zeros generalizing m with
  | zero => simp
  | succ zeros ih =>
    rw [List.replicate_succ, List.foldl_cons, ih, Nat.pow_succ]
    simp only [Nat.sub_self, Nat.add_zero, Nat.mul_comm, Nat.mul_assoc]

/-- Digits with zeros behind them read back as the number that they lengthen. -/
theorem takeDigits_lengthened {width n : Nat} (h : 0 < width) (hn : n < 10 ^ width) (zeros : Nat) :
    takeDigits (width + zeros) ((padded width n).toList ++ List.replicate zeros '0') =
      some (n * 10 ^ zeros, []) := by
  have hdigits : ∀ c ∈ (padded width n).toList ++ List.replicate zeros '0', c.isDigit = true := by
    intro c hc
    rcases List.mem_append.mp hc with hnumber | hzero
    · exact isDigit_of_mem_padded hnumber
    · rw [List.eq_of_mem_replicate hzero]
      rfl
  have hread := takeDigits_append hdigits []
  rw [List.append_nil, List.length_append, List.length_replicate, length_padded h hn,
    List.foldl_append, toList_padded, foldl_toDigits, foldl_zeros] at hread
  rwa [toList_padded]

/-! ## The order of texts -/

theorem digitChar_lt {m n : Nat} (h : m < n) (hn : n < 10) : Nat.digitChar m < Nat.digitChar n := by
  have htable : ∀ n < 10, ∀ m < n, Nat.digitChar m < Nat.digitChar n := by decide
  exact htable n hn m h

theorem padded_lt_padded {width m n : Nat} (h : 0 < width) (hlt : m < n) (hn : n < 10 ^ width)
    (x y : List Char) : (padded width m).toList ++ x < (padded width n).toList ++ y := by
  -- Where the numbers without their last digits agree, the last digits differ.
  obtain ⟨others, rfl⟩ := Nat.exists_eq_add_one_of_ne_zero (Nat.ne_of_gt h)
  clear h
  induction others generalizing m n x y with
  | zero =>
    have hn : n < 10 := hn
    rw [padded_one hn, padded_one (by omega)]
    exact List.cons_lt_cons_iff.mpr (.inl (digitChar_lt hlt hn))
  | succ others ih =>
    have h : 0 < others + 1 := Nat.succ_pos others
    rw [padded_succ h, padded_succ h, List.append_assoc, List.append_assoc]
    rw [Nat.pow_succ] at hn
    by_cases hfirst : m / 10 < n / 10
    · exact ih hfirst _ _ (by omega)
    · rw [show m / 10 = n / 10 by omega]
      exact List.append_left_lt
        (List.cons_lt_cons_iff.mpr (.inl (digitChar_lt (by omega) (by omega))))

/-- Texts that begin with numbers of one width are ordered by the numbers, then by what follows. -/
theorem padded_append_lt {width m n : Nat} (h : 0 < width) (hn : n < 10 ^ width) {x y : List Char}
    (hlt : m < n ∨ m = n ∧ x < y) :
    (padded width m).toList ++ x < (padded width n).toList ++ y := by
  rcases hlt with hlt | ⟨rfl, hrest⟩
  · exact padded_lt_padded h hlt hn x y
  · exact List.append_left_lt hrest

/-- Digits after a point are ordered as the fractions that they stand for. -/
theorem padded_lt_of_fraction {width width' m n : Nat} (h : 0 < width) (h' : 0 < width')
    (hn : n < 10 ^ width') (hlt : m * 10 ^ width' < n * 10 ^ width) :
    (padded width m).toList < (padded width' n).toList := by
  rcases Nat.le_total width width' with hle | hle
  · obtain ⟨more, rfl⟩ := Nat.exists_eq_add_of_le hle
    obtain ⟨tail, hlength, htail⟩ := padded_add h more n
    rw [Nat.pow_add, Nat.mul_comm (10 ^ width), ← Nat.mul_assoc] at hlt
    have hscaled : m * 10 ^ more < n := Nat.lt_of_mul_lt_mul_right hlt
    have hfirst : m ≤ n / 10 ^ more :=
      (Nat.le_div_iff_mul_le (Nat.pow_pos (by decide))).mpr (Nat.le_of_lt hscaled)
    have hbound : n / 10 ^ more < 10 ^ width :=
      Nat.div_lt_of_lt_mul (by rwa [Nat.mul_comm, ← Nat.pow_add])
    rw [htail, ← List.append_nil (padded width m).toList]
    refine padded_append_lt h hbound ?_
    rcases Nat.lt_or_eq_of_le hfirst with hless | hequal
    · exact .inl hless
    · -- One number begins the other, which has further digits.
      refine .inr ⟨hequal, ?_⟩
      cases tail with
      | nil =>
        subst hlength
        simp at hscaled hequal
        omega
      | cons c cs => exact List.nil_lt_cons c cs
  · obtain ⟨more, rfl⟩ := Nat.exists_eq_add_of_le hle
    obtain ⟨tail, -, htail⟩ := padded_add h' more m
    rw [Nat.pow_add, Nat.mul_comm (10 ^ width'), ← Nat.mul_assoc] at hlt
    have hfirst : m / 10 ^ more < n :=
      Nat.div_lt_of_lt_mul (by rw [Nat.mul_comm]; exact Nat.lt_of_mul_lt_mul_right hlt)
    rw [htail, ← List.append_nil (padded width' n).toList]
    exact padded_append_lt h' hn (.inl hfirst)

end JobMatrix.Timestamp
