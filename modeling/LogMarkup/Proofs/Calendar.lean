import LogMarkup.Calendar
import Mathlib.Order.Monotone.Basic

/-!
# Day numbers

Day numbers count the days of the Gregorian calendar: the first of a month comes the days of the
month before after the first of that one. So earlier months have smaller numbers, whatever the
day, and dates are numbered in the order of years, months and days. Each number has a date, found
from the days since the last first of March of a year divisible by 400.

* `Date.IsValid`: the days that there are.
* `Date.number_ofMonth_succ`: how many days are between the firsts of two months.
* `Date.IsValid.number_lt_iff`: the order of day numbers.
* `Date.isValid_ofNumber`, `Date.number_ofNumber`: the date of a day number.
* `DateTime.isValid_shifted`, `DateTime.seconds_shifted`: what calendar and clock show elsewhere.
-/

namespace LogMarkup

/-! ## Months -/

/-- A year with a 29th of February. -/
def IsLeapYear (year : Int) : Prop := year % 4 = 0 ∧ (year % 100 ≠ 0 ∨ year % 400 = 0)

instance (year : Int) : Decidable (IsLeapYear year) := inferInstanceAs (Decidable (_ ∧ _))

/-- The number of days of a month. -/
def daysInMonth (year : Int) (month : Nat) : Nat :=
  if month = 2 then if IsLeapYear year then 29 else 28
  else if month = 4 ∨ month = 6 ∨ month = 9 ∨ month = 11 then 30
  else 31

namespace Date

structure IsValid (d : Date) : Prop where
  month_pos : 1 ≤ d.month
  month_le : d.month ≤ 12
  day_pos : 1 ≤ d.day
  day_le : d.day ≤ daysInMonth d.year d.month

/-- The first of March of a year, counted from that of the year 0. -/
def yearStart (year : Int) : Int := 365 * year + year / 4 - year / 100 + year / 400

theorem number_eq (d : Date) :
    d.number = yearStart (if d.month ≤ 2 then d.year - 1 else d.year) +
      (153 * ((d.month + 9) % 12 : Nat) + 2) / 5 + d.day - 1 - epochDays := by
  simp (disch := decide) only [number, Int.fdiv_eq_ediv_of_nonneg, eraDays, yearStart]
  omega

/-- The first day of the month that is so many months after January of the year 0. -/
def ofMonth (k : Int) : Date := ⟨k / 12, (k % 12).toNat + 1, 1⟩

/-- The first days of months from the formula for March to February. -/
theorem number_ofMonth (k : Int) :
    (ofMonth k).number =
      yearStart ((k - 2) / 12) + (153 * ((k - 2) % 12) + 2) / 5 - epochDays := by
  have hMonth : (((k % 12).toNat + 1 + 9) % 12 : Nat) = (k - 2) % 12 := by omega
  have hYear : (if (k % 12).toNat + 1 ≤ 2 then k / 12 - 1 else k / 12) = (k - 2) / 12 := by
    split <;> omega
  rw [number_eq, ofMonth]
  dsimp only
  rw [hMonth, hYear]
  omega

/-- The months from March to January have 31 and 30 days in turn, anew after five months. -/
theorem daysInMonth_of_ne {month : Nat} (hPos : 1 ≤ month) (hLe : month ≤ 12) (hNe : month ≠ 2)
    (year : Int) :
    (153 * (((month + 9) % 12 : Nat) + 1 : Int) + 2) / 5 =
      (153 * ((month + 9) % 12 : Nat) + 2) / 5 + daysInMonth year month := by
  have hTable : ∀ m < 13, 1 ≤ m → m ≠ 2 →
      (153 * (((m + 9) % 12 : Nat) + 1 : Int) + 2) / 5 =
        (153 * ((m + 9) % 12 : Nat) + 2) / 5 +
          (if m = 4 ∨ m = 6 ∨ m = 9 ∨ m = 11 then 30 else 31 : Nat) := by decide
  rw [daysInMonth, if_neg hNe]
  exact hTable month (by omega) hPos hNe

theorem yearStart_eq (year : Int) :
    yearStart year = yearStart (year - 1) + 337 + daysInMonth year 2 := by
  rw [daysInMonth, if_pos rfl, yearStart, yearStart]
  by_cases hLeap : IsLeapYear year
  · rw [if_pos hLeap]
    obtain ⟨hFour, hCentury⟩ := hLeap
    omega
  · rw [if_neg hLeap]
    rw [IsLeapYear, not_and_or, not_or, not_not] at hLeap
    omega

theorem number_ofMonth_succ (k : Int) :
    (ofMonth (k + 1)).number = (ofMonth k).number + daysInMonth (k / 12) ((k % 12).toNat + 1) := by
  rw [number_ofMonth, number_ofMonth]
  by_cases hFebruary : k % 12 = 1
  · have hStart := yearStart_eq (k / 12)
    have hYear : (k + 1 - 2) / 12 = k / 12 := by omega
    have hLast : (k - 2) / 12 = k / 12 - 1 := by omega
    have hMonth : (k % 12).toNat + 1 = 2 := by omega
    rw [hYear, hLast, hStart, hMonth]
    omega
  · have hPos : 1 ≤ (k % 12).toNat + 1 := by omega
    have hDays := daysInMonth_of_ne hPos (by omega) (by omega) (k / 12)
    have hYear : (k + 1 - 2) / 12 = (k - 2) / 12 := by omega
    have hMonth : (k - 2) % 12 = (((k % 12).toNat + 1 + 9) % 12 : Nat) := by omega
    have hNext : (k + 1 - 2) % 12 = (((k % 12).toNat + 1 + 9) % 12 : Nat) + 1 := by omega
    rw [hYear, hMonth, hNext, hDays]
    omega

theorem number_ofMonth_mono {j k : Int} (h : j ≤ k) : (ofMonth j).number ≤ (ofMonth k).number := by
  refine monotone_int_of_le_succ (f := fun k => (ofMonth k).number) (fun k => ?_) h
  rw [number_ofMonth_succ]
  omega

/-- The months before the one of the date, from January of the year 0 on. -/
def monthIndex (d : Date) : Int := 12 * d.year + d.month - 1

theorem IsValid.number_eq {d : Date} (h : d.IsValid) :
    d.number = (ofMonth d.monthIndex).number + d.day - 1 := by
  have hPos := h.month_pos
  have hLe := h.month_le
  have hYear : d.monthIndex / 12 = d.year := by rw [monthIndex]; omega
  have hMonth : (d.monthIndex % 12).toNat + 1 = d.month := by rw [monthIndex]; omega
  rw [ofMonth, hYear, hMonth, Date.number_eq, Date.number_eq]
  dsimp only
  omega

theorem IsValid.number_lt {d : Date} (h : d.IsValid) :
    d.number < (ofMonth (d.monthIndex + 1)).number := by
  have hPos := h.month_pos
  have hLe := h.month_le
  have hDay := h.day_le
  have hYear : d.monthIndex / 12 = d.year := by rw [monthIndex]; omega
  have hMonth : (d.monthIndex % 12).toNat + 1 = d.month := by rw [monthIndex]; omega
  rw [number_ofMonth_succ, h.number_eq, hYear, hMonth]
  omega

/-- A date in an earlier month has a smaller number. -/
theorem IsValid.number_lt_number {d d' : Date} (h : d.IsValid) (h' : d'.IsValid)
    (hLt : d.monthIndex < d'.monthIndex) : d.number < d'.number := by
  have hDay := h'.day_pos
  calc d.number
      < (ofMonth (d.monthIndex + 1)).number := h.number_lt
    _ ≤ (ofMonth d'.monthIndex).number := number_ofMonth_mono hLt
    _ ≤ d'.number := by rw [h'.number_eq]; omega

/-- Day numbers are in the order of years, months and days. -/
theorem IsValid.number_lt_iff {d d' : Date} (h : d.IsValid) (h' : d'.IsValid) :
    d.number < d'.number ↔
      d.year < d'.year ∨ d.year = d'.year ∧
        (d.month < d'.month ∨ d.month = d'.month ∧ d.day < d'.day) := by
  have hPos := h.month_pos
  have hLe := h.month_le
  have hPos' := h'.month_pos
  have hLe' := h'.month_le
  have hIndex : d.monthIndex = 12 * d.year + d.month - 1 := rfl
  have hIndex' : d'.monthIndex = 12 * d'.year + d'.month - 1 := rfl
  rcases Int.lt_trichotomy d.monthIndex d'.monthIndex with hLt | hEq | hGt
  · have hNumber := h.number_lt_number h' hLt
    omega
  · have hNumber := h.number_eq
    have hNumber' := h'.number_eq
    rw [← hEq] at hNumber'
    omega
  · have hNumber := h'.number_lt_number h hGt
    omega

/-! ## Dates of day numbers -/

/-- The number of days of a year that begins with March. -/
def yearLength (year : Int) : Nat := if IsLeapYear (year + 1) then 366 else 365

theorem yearLength_bounds (year : Int) : 365 ≤ yearLength year ∧ yearLength year ≤ 366 := by
  unfold yearLength
  split <;> decide

theorem yearLength_add_mul (year era : Int) : yearLength (year + era * 400) = yearLength year := by
  have hLeap : IsLeapYear (year + era * 400 + 1) ↔ IsLeapYear (year + 1) := by
    unfold IsLeapYear
    omega
  exact if_congr hLeap rfl rfl

/-- The parts of four hundred years in front of a day: whole centuries, in the last one groups of
four years, in the last one whole years, and in the last one days. A last part may be a day longer
than the others. -/
structure EraParts (day century fours one : Int) (dayOfYear : Nat) : Prop where
  day_eq : day = 36524 * century + (1461 * fours + (365 * one + dayOfYear))
  century_nonneg : 0 ≤ century
  century_le : century ≤ 3
  fours_nonneg : 0 ≤ fours
  fours_le : fours ≤ 24
  one_nonneg : 0 ≤ one
  one_le : one ≤ 3
  dayOfYear_le : dayOfYear ≤ 365
  one_of_last : dayOfYear = 365 → one = 3
  century_of_last : dayOfYear = 365 → fours = 24 → century = 3

theorem exists_eraParts {day : Int} (hPos : 0 ≤ day) (hLt : day < eraDays) :
    ∃ (century fours one : Int) (dayOfYear : Nat), EraParts day century fours one dayOfYear := by
  have hEra : eraDays = 146097 := rfl
  obtain ⟨century, dayOfCentury, hCentury⟩ : ∃ century dayOfCentury : Int,
      day = 36524 * century + dayOfCentury ∧ 0 ≤ century ∧ century ≤ 3 ∧ 0 ≤ dayOfCentury ∧
        dayOfCentury ≤ 36524 ∧ (dayOfCentury = 36524 → century = 3) := by
    by_cases hLast : day = 146096
    · exact ⟨3, 36524, by omega⟩
    · exact ⟨day / 36524, day % 36524, by omega⟩
  obtain ⟨fours, dayOfFour, hFours⟩ : ∃ fours dayOfFour : Int,
      dayOfCentury = 1461 * fours + dayOfFour ∧ 0 ≤ fours ∧ fours ≤ 24 ∧ 0 ≤ dayOfFour ∧
        dayOfFour ≤ 1460 ∧ (dayOfFour = 1460 → fours = 24 → century = 3) :=
    ⟨dayOfCentury / 1461, dayOfCentury % 1461, by omega⟩
  obtain ⟨one, dayOfYear, hOne⟩ : ∃ (one : Int) (dayOfYear : Nat),
      dayOfFour = 365 * one + dayOfYear ∧ 0 ≤ one ∧ one ≤ 3 ∧ dayOfYear ≤ 365 ∧
        (dayOfYear = 365 → one = 3) := by
    by_cases hLast : dayOfFour = 1460
    · exact ⟨3, 365, by omega⟩
    · exact ⟨dayOfFour / 365, (dayOfFour % 365).toNat, by omega⟩
  exact ⟨century, fours, one, dayOfYear, by constructor <;> omega⟩

namespace EraParts

variable {day century fours one : Int} {dayOfYear : Nat}

theorem day_eq_year (h : EraParts day century fours one dayOfYear) :
    day = 365 * (100 * century + 4 * fours + one) + (100 * century + 4 * fours + one) / 4 -
      (100 * century + 4 * fours + one) / 100 + dayOfYear := by
  obtain ⟨rfl, hCenturyPos, hCentury, hFoursPos, hFours, hOnePos, hOne, -⟩ := h
  have hFourth : (100 * century + 4 * fours + one) / 4 = 25 * century + fours := by omega
  have hHundredth : (100 * century + 4 * fours + one) / 100 = century := by omega
  rw [hFourth, hHundredth]
  omega

theorem dayOfYear_lt (h : EraParts day century fours one dayOfYear) :
    dayOfYear < yearLength (100 * century + 4 * fours + one) := by
  have hLe := h.dayOfYear_le
  by_cases hLast : dayOfYear = 365
  · have hOne := h.one_of_last hLast
    have hLeap : IsLeapYear (100 * century + 4 * fours + one + 1) := by
      refine ⟨by omega, ?_⟩
      by_cases hFours : fours = 24
      · have hCentury := h.century_of_last hLast hFours
        exact .inr (by omega)
      · have hPos := h.fours_nonneg
        have hFoursLe := h.fours_le
        exact .inl (by omega)
    rw [yearLength, if_pos hLeap, hLast]
    decide
  · have hLength := (yearLength_bounds (100 * century + 4 * fours + one)).1
    omega

theorem centuries_eq (h : EraParts day century fours one dayOfYear) :
    day / 36524 - day / 146096 = century := by
  obtain ⟨hDay, hCenturyPos, hCentury, hFoursPos, hFours, hOnePos, hOne, hDays, hOneLast,
    hCenturyLast⟩ := h
  obtain ⟨dayOfCentury, hDayOfCentury⟩ :
    ∃ days, days = 1461 * fours + (365 * one + dayOfYear) := ⟨_, rfl⟩
  rw [← hDayOfCentury] at hDay
  have hPos : 0 ≤ dayOfCentury := by omega
  by_cases hLast : dayOfCentury = 36524
  · have hAll : day = 146096 := by omega
    rw [hAll]
    omega
  · have hLess : dayOfCentury < 36524 := by omega
    clear hDayOfCentury
    omega

/-- The days beyond 365 for each year are taken off before dividing by 365. Four years are 1461
days, so the quotient by 1460 may be too large by one, but only late in a year. -/
theorem year_eq (h : EraParts day century fours one dayOfYear) :
    (day - day / 1460 + day / 36524 - day / 146096) / 365 =
      100 * century + 4 * fours + one := by
  have hCenturies := h.centuries_eq
  obtain ⟨hDay, hCenturyPos, hCentury, hFoursPos, hFours, hOnePos, hOne, hDays, hOneLast,
    hCenturyLast⟩ := h
  by_cases hOver : 24 * century + fours + 365 * one + dayOfYear < 1460
  · have hLeap : day / 1460 = 25 * century + fours := by omega
    omega
  · have hLeap : day / 1460 = 25 * century + fours + 1 := by omega
    omega

end EraParts

/-- A day of four hundred years that begin with March: the years since then, and the days since the
last first of March. -/
theorem exists_yearOfEra {day : Int} (hPos : 0 ≤ day) (hLt : day < eraDays) :
    ∃ (year : Int) (dayOfYear : Nat), day = 365 * year + year / 4 - year / 100 + dayOfYear ∧
      0 ≤ year ∧ year < 400 ∧ dayOfYear < yearLength year ∧
      (day - day / 1460 + day / 36524 - day / 146096) / 365 = year := by
  obtain ⟨century, fours, one, dayOfYear, hParts⟩ := exists_eraParts hPos hLt
  have hBounds : 0 ≤ 100 * century + 4 * fours + one ∧ 100 * century + 4 * fours + one < 400 := by
    obtain ⟨-, hCenturyPos, hCentury, hFoursPos, hFours, hOnePos, hOne, -⟩ := hParts
    omega
  exact ⟨100 * century + 4 * fours + one, dayOfYear, hParts.day_eq_year, hBounds.1, hBounds.2,
    hParts.dayOfYear_lt, hParts.year_eq⟩

/-- The month of a day of a year that begins with March. -/
theorem month_of_dayOfYear {dayOfYear march month : Nat} (hLt : dayOfYear < 366)
    (hMarch : march = (5 * dayOfYear + 2) / 153)
    (hMonth : month = if march < 10 then march + 3 else march - 9) :
    1 ≤ month ∧ month ≤ 12 ∧ (month + 9) % 12 = march := by
  split at hMonth <;> omega

/-- What the date of a day number is made of: a year that begins with March, and a day of it. -/
theorem exists_ofNumber (n : Int) :
    ∃ (year : Int) (dayOfYear march month : Nat),
      n = yearStart year + dayOfYear - epochDays ∧ dayOfYear < yearLength year ∧
      march = (5 * dayOfYear + 2) / 153 ∧ 1 ≤ month ∧ month ≤ 12 ∧ (month + 9) % 12 = march ∧
      ofNumber n =
        ⟨year + (if month ≤ 2 then 1 else 0), month, dayOfYear - (153 * march + 2) / 5 + 1⟩ := by
  have hEra : eraDays = 146097 := rfl
  have hDayPos : 0 ≤ (n + epochDays) % 146097 := by omega
  obtain ⟨yearOfEra, dayOfYear, hDay, hYearPos, hYearLt, hDayLt, hFormula⟩ :=
    exists_yearOfEra hDayPos (by rw [hEra]; omega)
  have hBound := (yearLength_bounds yearOfEra).2
  obtain ⟨march, hMarch⟩ : ∃ march, march = (5 * dayOfYear + 2) / 153 := ⟨_, rfl⟩
  obtain ⟨month, hMonth⟩ : ∃ month, month = if march < 10 then march + 3 else march - 9 :=
    ⟨_, rfl⟩
  have hRange := month_of_dayOfYear (Nat.lt_of_lt_of_le hDayLt hBound) hMarch hMonth
  refine ⟨yearOfEra + (n + epochDays) / 146097 * 400, dayOfYear, march, month, ?_, ?_, hMarch,
    hRange.1, hRange.2.1, hRange.2.2, ?_⟩
  · have hFourth : (yearOfEra + (n + epochDays) / 146097 * 400) / 4 =
        yearOfEra / 4 + (n + epochDays) / 146097 * 100 := by omega
    have hHundredth : (yearOfEra + (n + epochDays) / 146097 * 400) / 100 =
        yearOfEra / 100 + (n + epochDays) / 146097 * 4 := by omega
    have hEraOf : (yearOfEra + (n + epochDays) / 146097 * 400) / 400 =
        (n + epochDays) / 146097 := by omega
    rw [yearStart, hFourth, hHundredth, hEraOf]
    omega
  · rwa [yearLength_add_mul]
  · have hShifted : n + epochDays - (n + epochDays) / 146097 * 146097 =
        (n + epochDays) % 146097 := by omega
    have hDayOfYear : (n + epochDays) % 146097 -
        (365 * yearOfEra + yearOfEra / 4 - yearOfEra / 100) = dayOfYear := by omega
    have hMarchOf : ((5 * (dayOfYear : Int) + 2) / 153).toNat = march := by omega
    have hFirst : ((dayOfYear : Int) - (153 * (march : Int) + 2) / 5 + 1).toNat =
        dayOfYear - (153 * march + 2) / 5 + 1 := by omega
    simp (disch := decide) only [ofNumber, hEra, Int.fdiv_eq_ediv_of_nonneg, hShifted, hFormula,
      hDayOfYear, hMarchOf, hFirst, ← hMonth]

theorem isValid_ofNumber (n : Int) : (ofNumber n).IsValid := by
  obtain ⟨year, dayOfYear, march, month, -, hLt, hMarch, hPos, hLe, hBack, hDate⟩ :=
    exists_ofNumber n
  rw [hDate]
  refine ⟨hPos, hLe, Nat.le_add_left _ _, ?_⟩
  dsimp only
  by_cases hFebruary : month = 2
  · have hLength : yearLength year = 337 + daysInMonth (year + 1) 2 := by
      rw [yearLength, daysInMonth, if_pos rfl]
      split <;> rfl
    obtain rfl : march = 11 := by omega
    subst hFebruary
    rw [if_pos (Nat.le_refl 2)]
    omega
  · have hDays := daysInMonth_of_ne hPos hLe hFebruary (year + if month ≤ 2 then 1 else 0)
    have hFloor : (((153 * march + 2) / 5 : Nat) : Int) = (153 * (march : Int) + 2) / 5 := rfl
    rw [hBack, ← hFloor] at hDays
    omega

theorem number_ofNumber (n : Int) : (ofNumber n).number = n := by
  obtain ⟨year, dayOfYear, march, month, hNumber, -, hMarch, -, -, hBack, hDate⟩ :=
    exists_ofNumber n
  have hYear : (if month ≤ 2 then year + (if month ≤ 2 then 1 else 0) - 1
      else year + if month ≤ 2 then 1 else 0) = year := by
    split <;> omega
  rw [hDate, number_eq]
  simp only [hBack, hYear]
  omega

end Date

/-! ## Points in time -/

namespace DateTime

structure IsValid (t : DateTime) : Prop where
  date : t.date.IsValid
  hour_lt : t.hour < 24
  minute_lt : t.minute < 60
  second_lt : t.second < 60
  /-- In a leap second there are twice as many nanoseconds. -/
  nanosecond_lt : t.nanosecond < 2000000000

theorem isValid_shifted {t : DateTime} (h : t.IsValid) (offset : Int) :
    (t.shifted offset).IsValid := by
  have hSeconds : ((t.seconds + offset).fmod secondsPerDay).toNat < 86400 := by
    have hDay : secondsPerDay = 86400 := rfl
    rw [hDay, Int.fmod_eq_emod_of_nonneg _ (by decide)]
    omega
  refine ⟨Date.isValid_ofNumber _, ?_, ?_, ?_, h.nanosecond_lt⟩
  · dsimp only [shifted]
    omega
  · exact Nat.mod_lt _ (by decide)
  · exact Nat.mod_lt _ (by decide)

/-- A clock further east is ahead by as much. -/
theorem seconds_shifted (t : DateTime) (offset : Int) :
    (t.shifted offset).seconds = t.seconds + offset := by
  have hDay : secondsPerDay = 86400 := rfl
  rw [seconds, shifted]
  dsimp only
  rw [Date.number_ofNumber, Int.fdiv_eq_ediv_of_nonneg _ (by decide),
    Int.fmod_eq_emod_of_nonneg _ (by decide), hDay]
  omega

end DateTime

end LogMarkup
