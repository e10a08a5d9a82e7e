/-
# Days counted from the epoch

The day that is so many days away from the start of 1970 is one of the calendar.  Its year is found
among four hundred, and its day among those of a year that begins in March; the last of these is the
29th of February, which only leap years have.
-/
import WallpaperRotation.Proofs.Timestamp

namespace WallpaperRotation.Timestamp

/-! ## Years of an era -/

/-- The year that a day is in, of the four hundred years of an era. -/
def yearOfEra (day : Nat) : Nat :=
  (day - day / 1460 + day / 36524 - day / 146096) / 365

/-- The days of an era before one of its years. -/
def yearStart (year : Nat) : Nat :=
  365 * year + year / 4 - year / 100

/-- The year of a day that is told as a century, a number of four years in it, and a day in these. -/
theorem yearOfEra_eq {century fours day : Nat} (hcentury : century < 4) (hday : day < 1461)
    (h : 1461 * fours + day < 36524) :
    yearOfEra (36524 * century + (1461 * fours + day)) =
      100 * century + (4 * fours + min (day / 365) 3) := by
  have hhundreds : (36524 * century + (1461 * fours + day)) / 36524 = century := by omega
  have hera : (36524 * century + (1461 * fours + day)) / 146096 = 0 := by omega
  have hfours : (36524 * century + (1461 * fours + day)) / 1460 =
      25 * century + fours + (24 * century + fours + day) / 1460 := by omega
  unfold yearOfEra
  rw [hhundreds, hera, hfours]
  -- Near the end of four years a day is taken off that is not over yet.
  generalize hextra : (24 * century + fours + day) / 1460 = extra
  have hyears : 36524 * century + (1461 * fours + day) - (25 * century + fours + extra) + century -
      0 = 365 * (100 * century + 4 * fours) + (day - extra) := by omega
  rw [hyears, Nat.mul_add_div (by decide)]
  omega

/-- A day of an era is in one of its years, and the 366th day of a year is in one that is followed by
a leap year. -/
theorem yearStart_yearOfEra {day : Nat} (h : day < 146097) :
    yearOfEra day < 400 ∧ yearStart (yearOfEra day) ≤ day ∧
      day ≤ yearStart (yearOfEra day) + 365 ∧
      (day = yearStart (yearOfEra day) + 365 →
        (yearOfEra day + 1) % 4 = 0 ∧
          ((yearOfEra day + 1) % 100 ≠ 0 ∨ (yearOfEra day + 1) % 400 = 0)) := by
  by_cases hlast : day = 146096
  · subst hlast
    decide
  · obtain ⟨century, fours, rest, rfl, hcentury, hrest, hfours⟩ : ∃ century fours rest,
        day = 36524 * century + (1461 * fours + rest) ∧ century < 4 ∧ rest < 1461 ∧
          1461 * fours + rest < 36524 :=
      ⟨day / 36524, day % 36524 / 1461, day % 36524 % 1461, by omega, by omega, by omega, by omega⟩
    rw [yearOfEra_eq hcentury hrest hfours]
    have hleapYears : (100 * century + (4 * fours + min (rest / 365) 3)) / 4 =
        25 * century + fours := by omega
    have hcenturies : (100 * century + (4 * fours + min (rest / 365) 3)) / 100 = century := by omega
    unfold yearStart
    rw [hleapYears, hcenturies]
    omega

/-! ## Days of a year -/

/-- The number of a month, and the day of it, of a day of a year that begins in March. -/
def monthDay (dayOfYear : Nat) : Nat × Nat :=
  let month := (5 * dayOfYear + 2) / 153
  (if month < 10 then month + 3 else month - 9, dayOfYear - (153 * month + 2) / 5 + 1)

/-- The day is one of its month, apart from a 29th of February. -/
theorem monthDay_mem : ∀ dayOfYear < 366,
    1 ≤ (monthDay dayOfYear).1 ∧ (monthDay dayOfYear).1 ≤ 12 ∧ 1 ≤ (monthDay dayOfYear).2 ∧
      ((monthDay dayOfYear).2 ≤ Date.daysIn 1 (monthDay dayOfYear).1 ∨
        dayOfYear = 365 ∧ monthDay dayOfYear = (2, 29)) := by
  decide +kernel

/-- No month is shorter than in a year that is no leap year. -/
theorem daysIn_le (year : Int) (month : Nat) : Date.daysIn 1 month ≤ Date.daysIn year month := by
  have hcommon : Date.isLeap 1 = false := by decide
  unfold Date.daysIn
  simp only [hcommon, Bool.false_eq_true, if_false]
  split_ifs <;> omega

/-! ## Dates -/

/-- The year, the month and the day of a date, by its day of an era. -/
theorem dateOfDays_parts (days : Int) :
    ∃ (era : Int) (dayOfEra : Nat), dayOfEra < 146097 ∧
      (dateOfDays days).month = (monthDay (dayOfEra - yearStart (yearOfEra dayOfEra))).1 ∧
      (dateOfDays days).day = (monthDay (dayOfEra - yearStart (yearOfEra dayOfEra))).2 ∧
      (dateOfDays days).year =
        yearOfEra dayOfEra + 400 * era + if (dateOfDays days).month ≤ 2 then 1 else 0 :=
  ⟨(days + 719468) / 146097, ((days + 719468) % 146097).toNat, by omega, rfl, rfl, rfl⟩

/-- A year is a leap year by its number in the era that the year before it is in. -/
theorem isLeap_of_yearOfEra {year : Nat} (era : Int)
    (h : (year + 1) % 4 = 0 ∧ ((year + 1) % 100 ≠ 0 ∨ (year + 1) % 400 = 0)) :
    Date.isLeap (year + 400 * era + 1) = true := by
  unfold Date.isLeap
  simp only [Bool.and_eq_true, Bool.or_eq_true, decide_eq_true_eq]
  omega

/-- The day that is so many days away from the epoch is one of the calendar, when its year is. -/
theorem of?_dateOfDays {days : Int} (hfirst : Date.firstYear ≤ (dateOfDays days).year)
    (hlast : (dateOfDays days).year ≤ Date.lastYear) :
    Date.of? (dateOfDays days).year (dateOfDays days).month (dateOfDays days).day =
      some (dateOfDays days) := by
  obtain ⟨era, dayOfEra, hera, hmonth, hday, hyear⟩ := dateOfDays_parts days
  obtain ⟨-, hstart, hend, hleap⟩ := yearStart_yearOfEra hera
  obtain ⟨hmonthFirst, hmonthLast, hdayFirst, hdayLast⟩ :=
    monthDay_mem (dayOfEra - yearStart (yearOfEra dayOfEra)) (by omega)
  rw [← hmonth] at hmonthFirst hmonthLast hdayLast
  rw [← hday] at hdayFirst hdayLast
  have hlength : (dateOfDays days).day ≤
      Date.daysIn (dateOfDays days).year (dateOfDays days).month := by
    rcases hdayLast with hshort | ⟨hleapDay, hfebruary⟩
    · exact hshort.trans (daysIn_le _ _)
    · -- The 29th of February ends a year that is followed by a leap year.
      have htwo : (dateOfDays days).month = 2 := by rw [hmonth, hfebruary]
      have hyearLeap : Date.isLeap (dateOfDays days).year = true := by
        rw [hyear, htwo, if_pos (by decide)]
        exact isLeap_of_yearOfEra era (hleap (by omega))
      rw [hday, hfebruary, htwo, Date.daysIn, if_pos rfl, if_pos hyearLeap]
  unfold Date.of?
  rw [if_pos ⟨hfirst, hlast, hmonthFirst, hmonthLast, hdayFirst, hlength⟩]

/-- What a clock tells in a year of the calendar is a valid timestamp. -/
theorem valid_ofEpoch {seconds : Int} {nanos : Nat}
    (hfirst : Date.firstYear ≤ (ofEpoch seconds nanos).date.year)
    (hlast : (ofEpoch seconds nanos).date.year ≤ Date.lastYear) (hnanos : nanos < 1000000000) :
    (ofEpoch seconds nanos).Valid where
  date := of?_dateOfDays hfirst hlast
  second := by
    show (seconds % (secondsOfDay : Int)).toNat < secondsOfDay
    unfold secondsOfDay
    omega
  nanos := .inl hnanos

end WallpaperRotation.Timestamp
