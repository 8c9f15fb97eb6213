import JobMatrix.Time.Calendar

/-!
# Days and their numbers

Days are counted in years that begin in March. Such a year starts so many days after year 0, each of
its months starts so many days into it, and only its last month, a February, depends on the year.
So the date with a number is in the calendar and has that number, and later dates have larger
numbers.
-/

namespace JobMatrix.Calendar

/-! ## Years from March -/

/-- The days before a year that begins in March. -/
def daysBefore (year : Int) : Int := 365 * year + year / 4 - year / 100 + year / 400

/-- The days of a year from March that come before a month, both counted from 0. -/
def monthStart (month : Int) : Int := (153 * month + 2) / 5

/-- The days of the year from March that ends in a calendar year. -/
def yearLength (year : Int) : Int := if isLeap year then 366 else 365

theorem daysBefore_add_one (year : Int) :
    daysBefore (year + 1) = daysBefore year + yearLength (year + 1) := by
  unfold daysBefore yearLength isLeap
  simp only [Bool.and_eq_true, Bool.or_eq_true, beq_iff_eq, bne_iff_ne]
  split <;> omega

theorem daysBefore_era (era year : Int) :
    daysBefore (year + era * 400) = era * 146097 + daysBefore year := by
  unfold daysBefore
  omega

/-- The year from March that a day lies in. -/
def Date.marchYear (d : Date) : Int := if d.month ≤ 2 then d.year - 1 else d.year

/-- The month of a day, counted from March. -/
def Date.marchMonth (d : Date) : Int := if d.month ≤ 2 then d.month + 9 else d.month - 3

/-- The days of its year from March before a day. -/
def Date.dayOfYear (d : Date) : Int := monthStart d.marchMonth + d.day - 1

theorem Date.dayNumber_eq (d : Date) :
    d.dayNumber = daysBefore d.marchYear + d.dayOfYear - 719468 := by
  unfold Date.dayNumber Date.dayOfYear Date.marchYear Date.marchMonth daysBefore monthStart
  simp only
  split <;> split <;> omega

/-! ## The date with a number -/

/-- The days of an era before a day, less the leap days among them. -/
def withoutLeapDays (day : Int) : Int := day - day / 1460 + day / 36524 - day / 146096

/-- The year of its era that a day lies in. -/
def yearOfEra (day : Int) : Int := withoutLeapDays day / 365

theorem withoutLeapDays_mono {d d' : Int} (h : d ≤ d') :
    withoutLeapDays d ≤ withoutLeapDays d' := by
  -- An era is four centuries here, so the last two counts together never fall.
  have hcentury : d / 36524 ≤ d' / 36524 := Int.ediv_le_ediv (by decide) h
  have hera : d / 146096 = d / 36524 / 4 := by omega
  have hera' : d' / 146096 = d' / 36524 / 4 := by omega
  unfold withoutLeapDays
  omega

/-- At the first and the last day of each year of an era, the leap days before it are counted right. -/
theorem withoutLeapDays_ends (year : Int) (h : 0 ≤ year) (h' : year < 400) :
    365 * year ≤ withoutLeapDays (daysBefore year) ∧
      withoutLeapDays (daysBefore (year + 1) - 1) < 365 * (year + 1) := by
  have htable : ∀ n : Nat, n < 400 → 365 * (n : Int) ≤ withoutLeapDays (daysBefore n) ∧
      withoutLeapDays (daysBefore (n + 1) - 1) < 365 * (n + 1) := by
    decide +kernel
  obtain ⟨n, rfl⟩ := Int.eq_ofNat_of_zero_le h
  exact htable n (by omega)

/-- A day of an era lies in the year that is computed for it. -/
theorem yearOfEra_bounds (day : Int) (h : 0 ≤ day) (h' : day < 146097) :
    0 ≤ yearOfEra day ∧ yearOfEra day < 400 ∧
      daysBefore (yearOfEra day) ≤ day ∧ day < daysBefore (yearOfEra day + 1) := by
  have hlow := withoutLeapDays_mono h
  have hhigh := withoutLeapDays_mono (Int.le_sub_one_of_lt h')
  have hzero : withoutLeapDays 0 = 0 := by decide
  have hlast : withoutLeapDays (146097 - 1) = 145999 := by decide
  have hyear : yearOfEra day = withoutLeapDays day / 365 := rfl
  generalize yearOfEra day = year at hyear ⊢
  refine ⟨by omega, by omega, ?_, ?_⟩
  · by_cases hfirst : year = 0
    · subst hfirst
      exact h
    · have hends := (withoutLeapDays_ends (year - 1) (by omega) (by omega)).2
      rw [Int.sub_add_cancel] at hends
      by_cases hle : daysBefore year ≤ day
      · exact hle
      -- A day before its year is at most the last one of the year before, and counts as one there.
      · have hmono := withoutLeapDays_mono (show day ≤ daysBefore year - 1 by omega)
        omega
  · by_cases hlastYear : year = 399
    · subst hlastYear
      exact h'
    · have hends := (withoutLeapDays_ends (year + 1) (by omega) (by omega)).1
      by_cases hlt : day < daysBefore (year + 1)
      · exact hlt
      · have hmono := withoutLeapDays_mono (show daysBefore (year + 1) ≤ day by omega)
        omega

/-- The date of a day of a year from March. -/
def ofDayOfYear (year day : Int) : Date :=
  let month := (5 * day + 2) / 153
  let calendarMonth := if month < 10 then month + 3 else month - 9
  ⟨year + (if calendarMonth ≤ 2 then 1 else 0), calendarMonth.toNat,
    (day - monthStart month + 1).toNat⟩

theorem exists_ofDayOfYear (n : Int) : ∃ year day, Date.ofDayNumber n = ofDayOfYear year day ∧
    0 ≤ day ∧ day < yearLength (year + 1) ∧ n = daysBefore year + day - 719468 := by
  obtain ⟨h₀, h₄₀₀, hfirst, hlast⟩ :=
    yearOfEra_bounds ((n + 719468) % 146097) (by omega) (by omega)
  have hera := daysBefore_era ((n + 719468) / 146097) (yearOfEra ((n + 719468) % 146097))
  have hnext := daysBefore_era ((n + 719468) / 146097) (yearOfEra ((n + 719468) % 146097) + 1)
  rw [Int.add_right_comm, daysBefore_add_one] at hnext
  refine ⟨yearOfEra ((n + 719468) % 146097) + (n + 719468) / 146097 * 400,
    (n + 719468) % 146097 - daysBefore (yearOfEra ((n + 719468) % 146097)), ?_, ?_, ?_, ?_⟩
  · have hbefore : daysBefore (yearOfEra ((n + 719468) % 146097)) =
        365 * yearOfEra ((n + 719468) % 146097) + yearOfEra ((n + 719468) % 146097) / 4 -
          yearOfEra ((n + 719468) % 146097) / 100 := by
      unfold daysBefore
      omega
    rw [hbefore]
    rfl
  all_goals omega

/-- A month counted from March, and the days of its year before it and before the next one. -/
theorem month_bounds {day : Int} (h : 0 ≤ day) (h' : day < 366) :
    0 ≤ (5 * day + 2) / 153 ∧ (5 * day + 2) / 153 ≤ 11 ∧
      monthStart ((5 * day + 2) / 153) ≤ day ∧ day < monthStart ((5 * day + 2) / 153 + 1) := by
  unfold monthStart
  omega

theorem yearLength_le (year : Int) : yearLength year ≤ 366 := by
  unfold yearLength
  split <;> omega

/-- Counted from March, the date of a day of a year lies in that year and is that day of it. -/
theorem march_ofDayOfYear (year : Int) {day : Int} (h : 0 ≤ day) (h' : day < 366) :
    (ofDayOfYear year day).marchYear = year ∧
      (ofDayOfYear year day).marchMonth = (5 * day + 2) / 153 ∧
      (ofDayOfYear year day).dayOfYear = day := by
  obtain ⟨h₀, h₁₁, hstart, -⟩ := month_bounds h h'
  have hmonth : (ofDayOfYear year day).marchMonth = (5 * day + 2) / 153 := by
    unfold Date.marchMonth ofDayOfYear
    simp only
    split <;> split at * <;> omega
  refine ⟨?_, hmonth, ?_⟩
  · unfold Date.marchYear ofDayOfYear
    simp only
    split <;> split at * <;> split at * <;> omega
  · rw [Date.dayOfYear, hmonth, ofDayOfYear]
    simp only
    omega

theorem dayNumber_ofDayOfYear {year day : Int} (h : 0 ≤ day) (h' : day < yearLength (year + 1)) :
    (ofDayOfYear year day).dayNumber = daysBefore year + day - 719468 := by
  have hlength := yearLength_le (year + 1)
  obtain ⟨hyear, -, hday⟩ := march_ofDayOfYear year h (by omega)
  rw [Date.dayNumber_eq, hyear, hday]

/-- A month from March ends where the next one begins or its year ends. -/
theorem daysInMonth_eq {d : Date} (h : 1 ≤ d.month) (h' : d.month ≤ 12) :
    (daysInMonth d.year d.month : Int) =
      min (monthStart (d.marchMonth + 1)) (yearLength (d.marchYear + 1)) -
        monthStart d.marchMonth := by
  obtain ⟨year, month, day⟩ := d
  simp only at h h'
  have hcases : month = 1 ∨ month = 2 ∨ month = 3 ∨ month = 4 ∨ month = 5 ∨ month = 6 ∨
      month = 7 ∨ month = 8 ∨ month = 9 ∨ month = 10 ∨ month = 11 ∨ month = 12 := by omega
  rcases hcases with rfl | rfl | rfl | rfl | rfl | rfl | rfl | rfl | rfl | rfl | rfl | rfl
  all_goals
    simp +decide only [daysInMonth, Date.marchMonth, Date.marchYear, monthStart, yearLength, if_true,
      if_false, Int.sub_add_cancel]
    cases isLeap _ <;> rfl

theorem isValid_ofDayOfYear {year day : Int} (h : 0 ≤ day) (h' : day < yearLength (year + 1)) :
    (ofDayOfYear year day).isValid = true := by
  have hlength := yearLength_le (year + 1)
  obtain ⟨h₀, h₁₁, hstart, hend⟩ := month_bounds h (by omega)
  obtain ⟨hyear, hmonth, -⟩ := march_ofDayOfYear year h (by omega)
  have hlow : 1 ≤ (ofDayOfYear year day).month := by
    unfold ofDayOfYear
    simp only
    split <;> omega
  have hhigh : (ofDayOfYear year day).month ≤ 12 := by
    unfold ofDayOfYear
    simp only
    split <;> omega
  have hdays := daysInMonth_eq hlow hhigh
  rw [hyear, hmonth] at hdays
  have hday : (ofDayOfYear year day).day =
      (day - monthStart ((5 * day + 2) / 153) + 1).toNat := rfl
  simp only [Date.isValid, Bool.and_eq_true, decide_eq_true_eq]
  omega

/-- The date with a number has that number. -/
theorem dayNumber_ofDayNumber (n : Int) : (Date.ofDayNumber n).dayNumber = n := by
  obtain ⟨year, day, hdate, h, h', hn⟩ := exists_ofDayOfYear n
  rw [hdate, dayNumber_ofDayOfYear h h', hn]

/-- The date with a number is in the calendar. -/
theorem isValid_ofDayNumber (n : Int) : (Date.ofDayNumber n).isValid = true := by
  obtain ⟨year, day, hdate, h, h', -⟩ := exists_ofDayOfYear n
  rw [hdate, isValid_ofDayOfYear h h']

/-! ## The order of dates -/

/-- One date before another, by their years, their months and their days. -/
def Date.Before (d d' : Date) : Prop :=
  d.year < d'.year ∨
    d.year = d'.year ∧ (d.month < d'.month ∨ d.month = d'.month ∧ d.day < d'.day)

theorem Date.before_trichotomy (d d' : Date) : d.Before d' ∨ d = d' ∨ d'.Before d := by
  obtain ⟨year, month, day⟩ := d
  obtain ⟨year', month', day'⟩ := d'
  simp only [Date.Before, Date.mk.injEq]
  omega

theorem dayOfYear_bounds {d : Date} (h : d.isValid = true) :
    0 ≤ d.marchMonth ∧ monthStart d.marchMonth ≤ d.dayOfYear ∧
      d.dayOfYear < monthStart (d.marchMonth + 1) ∧ d.dayOfYear < yearLength (d.marchYear + 1) := by
  simp only [Date.isValid, Bool.and_eq_true, decide_eq_true_eq] at h
  obtain ⟨⟨⟨hlow, hhigh⟩, hfirst⟩, hlast⟩ := h
  have hdays := daysInMonth_eq hlow hhigh
  have hmonth : 0 ≤ d.marchMonth := by
    unfold Date.marchMonth
    split <;> omega
  unfold Date.dayOfYear
  omega

theorem daysBefore_mono {year year' : Int} (h : year ≤ year') : daysBefore year ≤ daysBefore year' := by
  unfold daysBefore
  omega

/-- A date before another has the smaller number. -/
theorem Date.Before.dayNumber_lt {d d' : Date} (h : d.Before d') (hd : d.isValid = true)
    (hd' : d'.isValid = true) : d.dayNumber < d'.dayNumber := by
  -- January and February go to the year before as its last months, which keeps the order.
  have hmarch : d.marchYear < d'.marchYear ∨ d.marchYear = d'.marchYear ∧
      (d.marchMonth < d'.marchMonth ∨ d.marchMonth = d'.marchMonth ∧ d.day < d'.day) := by
    unfold Date.Before at h
    simp only [Date.isValid, Bool.and_eq_true, decide_eq_true_eq] at hd hd'
    unfold Date.marchYear Date.marchMonth
    split <;> split <;> omega
  obtain ⟨-, -, hend, hyear⟩ := dayOfYear_bounds hd
  obtain ⟨hmonth', hstart', -, -⟩ := dayOfYear_bounds hd'
  rw [Date.dayNumber_eq, Date.dayNumber_eq]
  rcases hmarch with hlt | ⟨heq, hlt | ⟨hmonth, hday⟩⟩
  · have hnext := daysBefore_add_one d.marchYear
    have hmono := daysBefore_mono (Int.add_one_le_of_lt hlt)
    have hzero : 0 ≤ monthStart d'.marchMonth := by
      unfold monthStart
      omega
    omega
  · have hmono : monthStart (d.marchMonth + 1) ≤ monthStart d'.marchMonth := by
      unfold monthStart
      omega
    rw [heq]
    omega
  · rw [heq, Date.dayOfYear, Date.dayOfYear, hmonth]
    omega

/-- The date with the smaller number is before the other. -/
theorem ofDayNumber_before {n n' : Int} (h : n < n') :
    (Date.ofDayNumber n).Before (Date.ofDayNumber n') := by
  have hn := dayNumber_ofDayNumber n
  have hn' := dayNumber_ofDayNumber n'
  rcases Date.before_trichotomy (Date.ofDayNumber n) (Date.ofDayNumber n') with hlt | heq | hgt
  · exact hlt
  · rw [heq] at hn
    omega
  · have := hgt.dayNumber_lt (isValid_ofDayNumber n') (isValid_ofDayNumber n)
    omega

end JobMatrix.Calendar
