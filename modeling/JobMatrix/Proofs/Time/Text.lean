import JobMatrix.Proofs.Time.Calendar
import JobMatrix.Proofs.Time.Digits
import Mathlib.Data.String.Basic

/-!
# Texts of points in time

A point in time that a clock can show is read back from its text. In the years with four digits, the
texts are ordered as the points in time, although they may end in fractions of different lengths:
later fields only count where earlier ones agree, and a leap second is written as the sixtieth of its
minute.
-/

namespace JobMatrix.Timestamp

open Calendar

/-- A clock can show the point in time: leap seconds follow the last second of a minute. -/
def Proper (t : Timestamp) : Prop :=
  t.nanos < 1000000000 ∨ t.nanos < 2000000000 ∧ t.seconds % 60 = 59

instance (t : Timestamp) : Decidable t.Proper := inferInstanceAs (Decidable (_ ∨ _))

/-- The year is written with four digits. -/
def FourDigitYear (t : Timestamp) : Prop := 0 ≤ t.date.year ∧ t.date.year ≤ 9999

instance (t : Timestamp) : Decidable t.FourDigitYear := inferInstanceAs (Decidable (_ ∧ _))

/-- The second that a clock shows. -/
def clockSecond (t : Timestamp) : Nat :=
  t.secondOfDay % 60 + (if 1000000000 ≤ t.nanos then 1 else 0)

theorem secondOfDay_lt (t : Timestamp) : t.secondOfDay < 86400 := by
  unfold secondOfDay
  omega

theorem clockSecond_le {t : Timestamp} : t.clockSecond ≤ 60 := by
  unfold clockSecond
  split <;> omega

/-! ## Fractions -/

/-- A fraction of a second other than none is a point and some digits that stand for it. -/
theorem fractionText_cases (t : Timestamp) :
    (t.nanos % 1000000000 = 0 ∧ t.fractionText.toList = []) ∨
      ∃ width n, (width = 3 ∨ width = 6 ∨ width = 9) ∧ n < 10 ^ width ∧
        n * 10 ^ (9 - width) = t.nanos % 1000000000 ∧ 0 < n ∧
        t.fractionText.toList = '.' :: (padded width n).toList := by
  unfold fractionText
  generalize hn : t.nanos % 1000000000 = n
  simp only
  split
  · exact .inl ⟨‹_›, rfl⟩
  · split
    · exact .inr ⟨3, n / 1000000, by decide, by omega, by omega, by omega, by simp⟩
    · split
      · exact .inr ⟨6, n / 1000, by decide, by omega, by omega, by omega, by simp⟩
      · exact .inr ⟨9, n, by decide, by omega, by omega, by omega, by simp⟩

/-- Fractions of a second are ordered as their texts. -/
theorem fractionText_lt {a b : Timestamp} (h : a.nanos % 1000000000 < b.nanos % 1000000000) :
    a.fractionText.toList < b.fractionText.toList := by
  rcases fractionText_cases b with ⟨hb, -⟩ | ⟨width', n', hwidth', hn', hb, -, hbtext⟩
  · omega
  rcases fractionText_cases a with ⟨-, hatext⟩ | ⟨width, n, hwidth, -, ha, -, hatext⟩
  · rw [hatext, hbtext]
    exact List.nil_lt_cons _ _
  · rw [hatext, hbtext]
    refine List.cons_lt_cons_iff.mpr
      (.inr ⟨rfl, padded_lt_of_fraction (by omega) (by omega) hn' ?_⟩)
    rcases hwidth with rfl | rfl | rfl <;> rcases hwidth' with rfl | rfl | rfl <;> omega

/-! ## The order of texts -/

/-- Fields of one width in front of one separator are compared before what follows. -/
theorem field_lt {width m n : Nat} (h : 0 < width) (hn : n < 10 ^ width) (separator : Char)
    {x y : List Char} (hlt : m < n ∨ m = n ∧ x < y) :
    (padded width m).toList ++ separator :: x < (padded width n).toList ++ separator :: y :=
  padded_append_lt h hn
    (hlt.imp_right fun ⟨heq, hrest⟩ => ⟨heq, List.cons_lt_cons_iff.mpr (.inr ⟨rfl, hrest⟩)⟩)

theorem date_bounds (t : Timestamp) : t.date.month < 10 ^ 2 ∧ t.date.day < 10 ^ 2 := by
  have hvalid := isValid_ofDayNumber t.dayNumber
  have hdays : daysInMonth t.date.year t.date.month ≤ 31 := by
    unfold daysInMonth
    split <;> split <;> omega
  simp only [Date.isValid, Bool.and_eq_true, decide_eq_true_eq] at hvalid
  unfold date at hdays ⊢
  omega

/-- Dates are compared before what follows. -/
theorem dateText_lt {a b : Timestamp} (ha : a.FourDigitYear) (hb : b.FourDigitYear)
    (separator : Char) {x y : List Char} (h : a.date.Before b.date ∨ a.date = b.date ∧ x < y) :
    a.dateText.toList ++ separator :: x < b.dateText.toList ++ separator :: y := by
  obtain ⟨hmonth, hday⟩ := date_bounds b
  have hyear : a.date.year.toNat < b.date.year.toNat ∨ a.date.year.toNat = b.date.year.toNat ∧
      (a.date.month < b.date.month ∨ a.date.month = b.date.month ∧
        (a.date.day < b.date.day ∨ a.date.day = b.date.day ∧ x < y)) := by
    rcases h with hbefore | ⟨hequal, hrest⟩
    · unfold Date.Before at hbefore
      unfold FourDigitYear at ha hb
      omega
    · rw [hequal]
      exact .inr ⟨rfl, .inr ⟨rfl, .inr ⟨rfl, hrest⟩⟩⟩
  have htext : ∀ t : Timestamp, t.FourDigitYear → ∀ rest, t.dateText.toList ++ separator :: rest =
      (padded 4 t.date.year.toNat).toList ++ '-' :: ((padded 2 t.date.month).toList ++
        '-' :: ((padded 2 t.date.day).toList ++ separator :: rest)) := by
    intro t ht rest
    simp [dateText, yearText, ht.1, ht.2]
  rw [htext a ha, htext b hb]
  refine field_lt (by decide) (by unfold FourDigitYear at hb; omega) '-' (hyear.imp_right ?_)
  refine fun ⟨heq, hrest⟩ => ⟨heq, field_lt (by decide) hmonth '-' (hrest.imp_right ?_)⟩
  exact fun ⟨heq, hrest⟩ => ⟨heq, field_lt (by decide) hday separator hrest⟩

/-- Times of day are compared field by field. -/
theorem timeText_lt {a b : Timestamp} (ha : a.Proper) (hb : b.Proper) (hday : a.dayNumber = b.dayNumber)
    (h : a.lt b = true) : a.timeText.toList ++ a.fractionText.toList <
      b.timeText.toList ++ b.fractionText.toList := by
  have hfields : a.secondOfDay / 3600 < b.secondOfDay / 3600 ∨
      a.secondOfDay / 3600 = b.secondOfDay / 3600 ∧
        (a.secondOfDay / 60 % 60 < b.secondOfDay / 60 % 60 ∨
          a.secondOfDay / 60 % 60 = b.secondOfDay / 60 % 60 ∧ (a.clockSecond < b.clockSecond ∨
            a.clockSecond = b.clockSecond ∧ a.nanos % 1000000000 < b.nanos % 1000000000)) := by
    simp only [lt, Bool.or_eq_true, Bool.and_eq_true, decide_eq_true_eq, beq_iff_eq] at h
    -- A leap second follows the last second of its minute, so no other second of the minute is later.
    unfold Proper at ha hb
    unfold dayNumber at hday
    unfold clockSecond secondOfDay
    split <;> split <;> omega
  have htext : ∀ t : Timestamp, t.timeText.toList ++ t.fractionText.toList =
      (padded 2 (t.secondOfDay / 3600)).toList ++ ':' :: ((padded 2 (t.secondOfDay / 60 % 60)).toList ++
        ':' :: ((padded 2 t.clockSecond).toList ++ t.fractionText.toList)) := by
    intro t
    simp [timeText, clockSecond]
  have hsecond := clockSecond_le (t := b)
  have hhour := secondOfDay_lt b
  rw [htext a, htext b]
  refine field_lt (by decide) (by omega) ':' (hfields.imp_right ?_)
  refine fun ⟨heq, hrest⟩ => ⟨heq, field_lt (by decide) (by omega) ':' (hrest.imp_right ?_)⟩
  refine fun ⟨heq, hrest⟩ => ⟨heq, padded_append_lt (by decide) (by omega) (hrest.imp_right ?_)⟩
  exact fun ⟨heq, hrest⟩ => ⟨heq, fractionText_lt hrest⟩

/-- An earlier point in time has the smaller text. -/
theorem renderPlain_lt {a b : Timestamp} (ha : a.Proper) (hb : b.Proper) (hyear : a.FourDigitYear)
    (hyear' : b.FourDigitYear) (h : a.lt b = true) : a.renderPlain < b.renderPlain := by
  have htext : ∀ t : Timestamp, t.renderPlain.toList =
      t.dateText.toList ++ ' ' :: (t.timeText.toList ++ t.fractionText.toList) := by
    intro t
    simp [renderPlain]
  rw [String.lt_iff_toList_lt, htext, htext]
  refine dateText_lt hyear hyear' ' ' ?_
  by_cases hday : a.dayNumber = b.dayNumber
  · exact .inr ⟨by rw [date, date, hday], timeText_lt ha hb hday h⟩
  · refine .inl (ofDayNumber_before ?_)
    simp only [lt, Bool.or_eq_true, Bool.and_eq_true, decide_eq_true_eq, beq_iff_eq] at h
    unfold dayNumber at hday ⊢
    omega

theorem lt_trichotomy (a b : Timestamp) : a.lt b = true ∨ a = b ∨ b.lt a = true := by
  obtain ⟨seconds, nanos⟩ := a
  obtain ⟨seconds', nanos'⟩ := b
  simp only [lt, Bool.or_eq_true, Bool.and_eq_true, decide_eq_true_eq, beq_iff_eq, mk.injEq]
  omega

/-- The texts of points in time are ordered as the points in time. -/
theorem renderPlain_le_iff {a b : Timestamp} (ha : a.Proper) (hb : b.Proper)
    (hyear : a.FourDigitYear) (hyear' : b.FourDigitYear) :
    b.renderPlain ≤ a.renderPlain ↔ a.lt b = false := by
  constructor
  · intro hle
    by_contra hlt
    exact absurd (renderPlain_lt ha hb hyear hyear' (by simpa using hlt)) (not_lt.mpr hle)
  · intro hnot
    rcases lt_trichotomy a b with hlt | rfl | hgt
    · rw [hlt] at hnot
      contradiction
    · exact le_refl _
    · exact (renderPlain_lt hb ha hyear' hyear hgt).le

/-! ## Reading a text back -/

theorem takeYear_of_isDigit {c : Char} (h : c.isDigit = true) (cs : List Char) :
    takeYear (c :: cs) = (takeDigits 4 (c :: cs)).map fun (y, rest) => ((y : Int), rest) := by
  unfold takeYear
  split
  case h_1 heq =>
    rw [(List.cons.inj heq).1] at h
    exact absurd h (by decide)
  case h_2 heq =>
    rw [(List.cons.inj heq).1] at h
    exact absurd h (by decide)
  case h_3 => rfl

theorem takeWhile_padded (width n : Nat) {c : Char} (h : c.isDigit = false) (rest : List Char) :
    ((padded width n).toList ++ c :: rest).takeWhile Char.isDigit = (padded width n).toList := by
  rw [List.takeWhile_append_of_pos fun c => isDigit_of_mem_padded]
  simp [h]

theorem takeYear_yearText (year : Int) (rest : List Char) :
    takeYear ((yearText year).toList ++ '-' :: rest) = some (year, '-' :: rest) := by
  have hwhile := takeWhile_padded 4 year.natAbs (c := '-') rfl rest
  have hsigned := takeDigits_padded 4 year.natAbs ('-' :: rest)
  unfold yearText
  split
  case isTrue hfour =>
    simp only [Bool.and_eq_true, decide_eq_true_eq] at hfour
    have hlength : (padded 4 year.toNat).toList.length = 4 :=
      length_padded (by decide) (by omega)
    have hread := takeDigits_padded 4 year.toNat ('-' :: rest)
    rw [hlength] at hread
    -- The first character is a digit, so it is no sign of a longer year.
    match hdigits : (padded 4 year.toNat).toList, hlength with
    | c :: cs, _ =>
      have hfirst : c.isDigit = true :=
        isDigit_of_mem_padded (hdigits ▸ List.mem_cons_self)
      rw [hdigits, List.cons_append] at hread
      rw [List.cons_append, takeYear_of_isDigit hfirst, hread]
      simp [hfour.1]
  case isFalse hfour =>
    simp only [Bool.and_eq_true, decide_eq_true_eq] at hfour
    split
    case isTrue hneg =>
      simp only [String.toList_append, String.reduceToList, List.cons_append, List.nil_append, takeYear,
        hwhile, hsigned, Option.map_some]
      exact congrArg (fun year => some (year, '-' :: rest)) (by omega)
    case isFalse hpos =>
      simp only [String.toList_append, String.reduceToList, List.cons_append, List.nil_append, takeYear,
        hwhile, hsigned, Option.map_some]
      exact congrArg (fun year => some (year, '-' :: rest)) (by omega)

theorem takeFraction_fractionText (t : Timestamp) :
    takeFraction (t.fractionText.toList ++ ['Z']) = some (t.nanos % 1000000000, ['Z']) := by
  rcases fractionText_cases t with ⟨hnone, htext⟩ | ⟨width, n, hwidth, hn, hnanos, -, htext⟩
  · rw [htext, hnone]
    rfl
  · have hlength : (padded width n).toList.length = width := length_padded (by omega) hn
    have hsome : (padded width n).toList.isEmpty = false := by
      rw [List.isEmpty_eq_false_iff, ← List.length_pos_iff]
      omega
    -- Nine digits count, and those that are missing are zeros.
    have hnine : ((padded width n).toList ++ List.replicate 9 '0').take 9 =
        (padded width n).toList ++ List.replicate (9 - width) '0' := by
      rw [List.take_append, hlength, List.take_of_length_le (by omega), List.take_replicate,
        Nat.min_eq_left (by omega)]
    have hread := takeDigits_lengthened (by omega) hn (9 - width)
    rw [show width + (9 - width) = 9 by omega, hnanos] at hread
    rw [htext, List.cons_append]
    simp only [takeFraction, takeWhile_padded width n (c := 'Z') rfl, hsome, hnine, hread]
    simp

/-- What the clock shows is the second of the day, the sixtieth second of a minute its leap second. -/
theorem clock_eq {t : Timestamp} (h : t.Proper) :
    (⟨t.dayNumber * 86400 + ((t.secondOfDay / 3600 : Nat) * 3600 +
        (t.secondOfDay / 60 % 60 : Nat) * 60 + min t.clockSecond 59 : Int),
      t.nanos % 1000000000 + (if t.clockSecond = 60 then 1000000000 else 0)⟩ : Timestamp) = t := by
  obtain ⟨seconds, nanos⟩ := t
  simp only [Proper] at h
  simp only [dayNumber, secondOfDay, clockSecond, mk.injEq]
  constructor
  · split <;> omega
  · split <;> split <;> omega

theorem takeDateTime_render {t : Timestamp} (h : t.Proper) :
    takeDateTime (fun c => c = 'T' || c = 't' || c = ' ') t.render.toList = some (t, ['Z']) := by
  obtain ⟨hmonth, hday⟩ := date_bounds t
  have hsecondOfDay := secondOfDay_lt t
  have hclock := clockSecond_le (t := t)
  have hvalid : Date.isValid ⟨t.date.year, t.date.month, t.date.day⟩ = true :=
    isValid_ofDayNumber t.dayNumber
  have hnumber : Date.dayNumber ⟨t.date.year, t.date.month, t.date.day⟩ = t.dayNumber :=
    dayNumber_ofDayNumber t.dayNumber
  have htext : t.render.toList = (yearText t.date.year).toList ++ '-' ::
      ((padded 2 t.date.month).toList ++ '-' :: ((padded 2 t.date.day).toList ++ 'T' ::
        ((padded 2 (t.secondOfDay / 3600)).toList ++ ':' ::
          ((padded 2 (t.secondOfDay / 60 % 60)).toList ++ ':' ::
            ((padded 2 t.clockSecond).toList ++ (t.fractionText.toList ++ ['Z'])))))) := by
    simp [render, dateText, timeText, clockSecond]
  have hmonthRead := takeDigits_fixed (by decide) hmonth
  have hdayRead := takeDigits_fixed (by decide) hday
  have hhourRead := takeDigits_fixed (by decide) (show t.secondOfDay / 3600 < 10 ^ 2 by omega)
  have hminuteRead := takeDigits_fixed (by decide) (show t.secondOfDay / 60 % 60 < 10 ^ 2 by omega)
  have hsecondRead := takeDigits_fixed (by decide) (show t.clockSecond < 10 ^ 2 by omega)
  have hhour : ¬ 23 < t.secondOfDay / 3600 := by omega
  have hminute : ¬ 59 < t.secondOfDay / 60 % 60 := by omega
  have hsecond : ¬ 60 < t.clockSecond := by omega
  rw [htext]
  simp only [takeDateTime, takeYear_yearText, takeChar, if_true, Option.bind_eq_bind,
    Option.bind_some, hmonthRead, hdayRead, hhourRead, hminuteRead, hsecondRead, List.head?_cons,
    List.tail_cons, takeFraction_fractionText, hvalid, hnumber]
  simp only [decide_true, Bool.or_false, Bool.not_true, Bool.or_self, hhour, hminute, hsecond,
    decide_false, Char.reduceEq, Bool.false_eq_true, if_false]
  exact congrArg (fun t => some (t, ['Z'])) (clock_eq h)

/-- A point in time that a clock can show is read back from its text. -/
theorem parse_render {t : Timestamp} (h : t.Proper) : parse? t.render = some t := by
  unfold parse?
  rw [takeDateTime_render h]
  simp [offset?]

-- Half a leap second: its minute has a sixtieth second, and three digits lose nothing.
example : parse? "1970-01-01T00:00:60.500Z" = some ⟨59, 1500000000⟩ ∧
    render ⟨59, 1500000000⟩ = "1970-01-01T00:00:60.500Z" := by
  decide

end JobMatrix.Timestamp
