import SnapshotViewer.Time.Calendar

/-!
# Dates and their numbers

Dates are numbered as the Gregorian calendar goes on from day to day, 1970-01-01 being number zero,
and each number is that of the date that is given for it.

Counted from March, a year has the leap day at its end, and 400 years are an era of 146097 days.  A
day of an era is a day of one of its years in one way only (`IsDayOfYear`), and the year can be
found from the number of the day (`yearOfEra_eq`).

## Main definitions

* `Date.Exists` — the month and the day exist.
* `Date.next` — the date of the following day.

## Main statements

* `dayNumber_epoch`, `dayNumber_next` — the numbers of the dates.
* `exists_ofDayNumber`, `dayNumber_ofDayNumber` — the date of a number exists and has that number.
* `year_le_of_dayNumber_le` — a later day is of no earlier year.
-/

namespace SnapshotViewer

theorem isLeapYear_iff {y : Int} :
    isLeapYear y = true ↔ y % 4 = 0 ∧ (y % 100 ≠ 0 ∨ y % 400 = 0) := by
  simp [isLeapYear]

namespace Date

variable {d d' : Date}

/-- The month and the day exist. -/
structure Exists (d : Date) : Prop where
  month : 1 ≤ d.month ∧ d.month ≤ 12
  day : 1 ≤ d.day ∧ d.day ≤ daysInMonth d.year d.month

/-- The date of the following day. -/
def next (d : Date) : Date :=
  if d.day < daysInMonth d.year d.month then ⟨d.year, d.month, d.day + 1⟩
  else if d.month < 12 then ⟨d.year, d.month + 1, 1⟩
  else ⟨d.year + 1, 1, 1⟩

/-- The year, counted from March. -/
def marchYear (d : Date) : Int := if d.month ≤ 2 then d.year - 1 else d.year

/-- The day of the year, counted from March and from zero. -/
def dayOfYear (d : Date) : Int := (153 * ((d.month + 9) % 12) + 2) / 5 + d.day - 1

/-- The number of a date by its year and day, both counted from March. -/
theorem dayNumber_eq (d : Date) : d.dayNumber =
    365 * d.marchYear + d.marchYear / 4 - d.marchYear / 100 + d.marchYear / 400 + d.dayOfYear
      - 719468 := by
  simp only [dayNumber, marchYear, dayOfYear]
  omega

/-! ## The numbers of the dates -/

/-- The first day of 1970 is number zero. -/
theorem dayNumber_epoch : (mk 1970 1 1).dayNumber = 0 := by decide

/-- The following day has the following number. -/
theorem dayNumber_next (h : d.Exists) : d.next.dayNumber = d.dayNumber + 1 := by
  obtain ⟨y, m, d⟩ := d
  obtain ⟨hmonth, hday⟩ := h
  dsimp only at hmonth hday
  rw [next, dayNumber_eq, dayNumber_eq]
  dsimp only
  split
  · simp only [marchYear, dayOfYear]
    omega
  · next hlast =>
    obtain rfl : d = daysInMonth y m := by omega
    split
    · by_cases hfebruary : m = 2
      · -- the last day of a year that is counted from March
        subst hfebruary
        simp only [marchYear, dayOfYear, daysInMonth, isLeapYear_iff, if_true]
        split <;> omega
      · have hyear : marchYear ⟨y, m + 1, 1⟩ = marchYear ⟨y, m, daysInMonth y m⟩ := by
          simp only [marchYear]
          omega
        simp only [hyear, dayOfYear, daysInMonth, if_neg hfebruary]
        split
        · omega
        · have hlong : m = 1 ∨ m = 3 ∨ m = 5 ∨ m = 7 ∨ m = 8 ∨ m = 10 := by omega
          rcases hlong with rfl | rfl | rfl | rfl | rfl | rfl <;> omega
    · obtain rfl : m = 12 := by omega
      simp only [marchYear, dayOfYear, daysInMonth]
      omega

theorem daysInMonth_le (y m : Int) : daysInMonth y m ≤ 31 := by
  unfold daysInMonth
  split
  · split <;> decide
  · split <;> decide

/-- The days of a year are those from its first day to that of the following year. -/
theorem dayNumber_bounds (h : d.Exists) : (mk d.year 1 1).dayNumber ≤ d.dayNumber ∧
    d.dayNumber < (mk (d.year + 1) 1 1).dayNumber := by
  obtain ⟨hmonth, hday⟩ := h
  have hlong := daysInMonth_le d.year d.month
  simp only [dayNumber_eq, marchYear, dayOfYear]
  by_cases hspring : d.month ≤ 2
  · simp only [hspring, if_true]
    omega
  · simp only [hspring, if_false]
    omega

/-- A later year has a later first day. -/
theorem dayNumber_newYear_le {y y' : Int} (h : y ≤ y') :
    (mk y 1 1).dayNumber ≤ (mk y' 1 1).dayNumber := by
  simp only [dayNumber_eq, marchYear, dayOfYear]
  omega

/-- A later day is of no earlier year. -/
theorem year_le_of_dayNumber_le (hd : d.Exists) (hd' : d'.Exists)
    (h : d.dayNumber ≤ d'.dayNumber) : d.year ≤ d'.year := by
  refine Int.not_lt.1 fun hlt => ?_
  have hyears := dayNumber_newYear_le (show d'.year + 1 ≤ d.year by omega)
  have hfirst := (dayNumber_bounds hd).1
  have hlast := (dayNumber_bounds hd').2
  omega

/-! ## Days of an era -/

/-- The day of an era on which a year begins. -/
def yearStart (y : Int) : Int := 365 * y + y / 4 - y / 100

/-- The year of an era has a day with this number, both counted from zero.  The year that ends with
the leap day of a year is the one before it. -/
structure IsDayOfYear (y c : Int) : Prop where
  year : 0 ≤ y ∧ y < 400
  day : 0 ≤ c ∧ c ≤ 365
  leap : c = 365 → isLeapYear (y + 1) = true

/-- Years by the century, the four years and the year within them. -/
theorem yearStart_eq {c q t : Int} (hq : 0 ≤ q ∧ q < 25) (ht : 0 ≤ t ∧ t < 4) :
    yearStart (100 * c + 4 * q + t) = 36524 * c + 1461 * q + 365 * t := by
  have h4 : (100 * c + 4 * q + t) / 4 = 25 * c + q := by omega
  have h100 : (100 * c + 4 * q + t) / 100 = c := by omega
  unfold yearStart
  omega

/-- Every day of an era is a day of one of its years.  The last of the centuries, and the last of
four years, has a day more than the others. -/
theorem exists_isDayOfYear {e : Int} (h : 0 ≤ e ∧ e < 146097) :
    ∃ y d, IsDayOfYear y d ∧ e = yearStart y + d := by
  obtain ⟨c, r, hc, he, hr, hcentury⟩ : ∃ c r, (0 ≤ c ∧ c < 4) ∧ e = 36524 * c + r ∧
      (0 ≤ r ∧ r ≤ 36524) ∧ (r = 36524 → c = 3) :=
    ⟨min (e / 36524) 3, e - 36524 * min (e / 36524) 3, by omega⟩
  obtain ⟨q, s, hq, hr', hs⟩ : ∃ q s, (0 ≤ q ∧ q < 25) ∧ r = 1461 * q + s ∧ 0 ≤ s ∧ s < 1461 :=
    ⟨r / 1461, r % 1461, by omega⟩
  obtain ⟨t, d, ht, hs', hd, hyear⟩ : ∃ t d, (0 ≤ t ∧ t < 4) ∧ s = 365 * t + d ∧
      (0 ≤ d ∧ d ≤ 365) ∧ (d = 365 → t = 3) :=
    ⟨min (s / 365) 3, s - 365 * min (s / 365) 3, by omega⟩
  refine ⟨100 * c + 4 * q + t, d, ⟨by omega, hd, fun hlast => ?_⟩, ?_⟩
  · rw [isLeapYear_iff]
    omega
  · rw [yearStart_eq hq ht]
    omega

/-- The year of a day of an era is found from the number of the day. -/
theorem yearOfEra_eq {y d : Int} (h : IsDayOfYear y d) {e : Int} (he : e = yearStart y + d) :
    (e - e / 1460 + e / 36524 - e / 146096) / 365 = y := by
  obtain ⟨hy, hd, hleap⟩ := h
  obtain ⟨c, q, t, rfl, hc, hq, ht⟩ : ∃ c q t, y = 100 * c + 4 * q + t ∧ (0 ≤ c ∧ c < 4) ∧
      (0 ≤ q ∧ q < 25) ∧ 0 ≤ t ∧ t < 4 := ⟨y / 100, y % 100 / 4, y % 4, by omega⟩
  rw [yearStart_eq hq ht] at he
  have hlast : d = 365 → t = 3 ∧ (q = 24 → c = 3) := by
    rw [isLeapYear_iff] at hleap
    omega
  clear hleap
  have hcentury : e / 36524 = c ∨ e = 146096 := by omega
  have hfour : e / 1460 = 25 * c + q ∧ d ≤ 364 ∨ e / 1460 = 25 * c + q + 1 ∧ 1 ≤ d := by omega
  omega

/-! ## The dates of the numbers -/

/-- The date of a day of a year, both counted from March. -/
def ofDayOfYear (y c : Int) : Date :=
  let monthFromMarch := (5 * c + 2) / 153
  let month := if monthFromMarch < 10 then monthFromMarch + 3 else monthFromMarch - 9
  ⟨if month ≤ 2 then y + 1 else y, month, c - (153 * monthFromMarch + 2) / 5 + 1⟩

section
variable {y c : Int}

theorem marchYear_ofDayOfYear : (ofDayOfYear y c).marchYear = y := by
  simp only [ofDayOfYear, marchYear]
  omega

theorem dayOfYear_ofDayOfYear (hc : 0 ≤ c ∧ c ≤ 365) : (ofDayOfYear y c).dayOfYear = c := by
  simp only [ofDayOfYear, dayOfYear]
  omega

theorem exists_ofDayOfYear (hc : 0 ≤ c ∧ c ≤ 365)
    (hleap : c = 365 → isLeapYear (y + 1) = true) : (ofDayOfYear y c).Exists := by
  simp only [ofDayOfYear]
  generalize hmonth : (if (5 * c + 2) / 153 < 10 then (5 * c + 2) / 153 + 3
    else (5 * c + 2) / 153 - 9) = month
  constructor
  · dsimp only
    omega
  · dsimp only
    unfold daysInMonth
    split
    · next hfebruary =>
      rw [hfebruary, if_pos (Int.le_refl 2)]
      split
      · omega
      · next hcommon =>
        have hlast : c ≠ 365 := fun h => hcommon (hleap h)
        omega
    · split <;> omega

/-- The date of a day of a year of an era. -/
theorem ofDayNumber_eq {n era : Int} (h : IsDayOfYear y c)
    (hn : n = 146097 * era + yearStart y + c - 719468) :
    ofDayNumber n = ofDayOfYear (400 * era + y) c := by
  have hyear := yearOfEra_eq h rfl
  obtain ⟨hy, hc, -⟩ := h
  have hera : (n + 719468) / 146097 = era ∧ (n + 719468) % 146097 = yearStart y + c := by
    unfold yearStart at *
    omega
  have hstart : yearStart y + c - (365 * y + y / 4 - y / 100) = c := by
    unfold yearStart
    omega
  simp only [ofDayNumber, hera, hyear, hstart, ofDayOfYear]
  rw [mk.injEq]
  omega

end

theorem exists_ofDayNumber_eq (n : Int) : ∃ era y c, IsDayOfYear y c ∧
    n = 146097 * era + yearStart y + c - 719468 ∧ ofDayNumber n = ofDayOfYear (400 * era + y) c := by
  obtain ⟨y, c, h, he⟩ := exists_isDayOfYear (e := (n + 719468) % 146097) (by omega)
  have hn : n = 146097 * ((n + 719468) / 146097) + yearStart y + c - 719468 := by omega
  exact ⟨_, y, c, h, hn, ofDayNumber_eq h hn⟩

/-- The date of a number exists. -/
theorem exists_ofDayNumber (n : Int) : (ofDayNumber n).Exists := by
  obtain ⟨era, y, c, ⟨-, hc, hleap⟩, -, heq⟩ := exists_ofDayNumber_eq n
  rw [heq]
  refine exists_ofDayOfYear hc fun hlast => ?_
  have hyear := hleap hlast
  rw [isLeapYear_iff] at hyear ⊢
  omega

/-- The date of a number has that number. -/
theorem dayNumber_ofDayNumber (n : Int) : (ofDayNumber n).dayNumber = n := by
  obtain ⟨era, y, c, ⟨hy, hc, -⟩, hn, heq⟩ := exists_ofDayNumber_eq n
  rw [heq, dayNumber_eq, marchYear_ofDayOfYear, dayOfYear_ofDayOfYear hc, hn]
  unfold yearStart
  omega

end Date

end SnapshotViewer
