/-!
# The calendar

Dates of the Gregorian calendar, extended to all years, and their numbering by days from
1970-01-01.  A moment is a number of seconds from the start of that day; there are no leap
seconds between moments.

## Main definitions

* `Date`, `Date.IsValid`.
* `Date.dayNumber`, `Date.ofDayNumber` — the numbering and its inverse.
* `timestampText` — the date and time of a moment.
-/

namespace SnapshotViewer

/-- A date: a year, a month from 1 and a day from 1. -/
structure Date where
  year : Int
  month : Int
  day : Int
deriving DecidableEq, Repr

/-- Whether a year has 366 days. -/
def isLeapYear (y : Int) : Bool := y % 4 = 0 && (y % 100 ≠ 0 || y % 400 = 0)

/-- The number of days of a month. -/
def daysInMonth (y m : Int) : Int :=
  if m = 2 then if isLeapYear y then 29 else 28
  else if m = 4 ∨ m = 6 ∨ m = 9 ∨ m = 11 then 30
  else 31

namespace Date

/-- The first year that dates are kept for. -/
def firstYear : Int := -262143
/-- The last year that dates are kept for. -/
def lastYear : Int := 262142

/-- Whether the month and the day exist. -/
def IsValid (d : Date) : Prop :=
  firstYear ≤ d.year ∧ d.year ≤ lastYear ∧ 1 ≤ d.month ∧ d.month ≤ 12 ∧ 1 ≤ d.day
    ∧ d.day ≤ daysInMonth d.year d.month

instance (d : Date) : Decidable d.IsValid := by unfold IsValid; infer_instance

/-- The number of days from 1970-01-01.  Years are counted from March, so that a leap day is the
last of its year, and 400 of them have 146097 days. -/
def dayNumber (d : Date) : Int :=
  let y := if d.month ≤ 2 then d.year - 1 else d.year
  let era := y / 400
  let yearOfEra := y % 400
  let dayOfYear := (153 * ((d.month + 9) % 12) + 2) / 5 + d.day - 1
  let dayOfEra := yearOfEra * 365 + yearOfEra / 4 - yearOfEra / 100 + dayOfYear
  era * 146097 + dayOfEra - 719468

/-- The date of a day number. -/
def ofDayNumber (n : Int) : Date :=
  let z := n + 719468
  let era := z / 146097
  let dayOfEra := z % 146097
  let yearOfEra :=
    (dayOfEra - dayOfEra / 1460 + dayOfEra / 36524 - dayOfEra / 146096) / 365
  let dayOfYear := dayOfEra - (365 * yearOfEra + yearOfEra / 4 - yearOfEra / 100)
  let monthFromMarch := (5 * dayOfYear + 2) / 153
  let day := dayOfYear - (153 * monthFromMarch + 2) / 5 + 1
  let month := if monthFromMarch < 10 then monthFromMarch + 3 else monthFromMarch - 9
  let year := yearOfEra + era * 400 + if month ≤ 2 then 1 else 0
  ⟨year, month, day⟩

/-- The moment at so many seconds of the day. -/
def moment (d : Date) (second : Int) : Int := d.dayNumber * 86400 + second

end Date

/-- The day number of a moment. -/
def dayOf (ts : Int) : Int := ts / 86400

/-- The second of its day of a moment. -/
def secondOfDay (ts : Int) : Int := ts % 86400

/-- Whether a moment falls in a year that dates are kept for. -/
def hasDate (ts : Int) : Bool :=
  (Date.mk Date.firstYear 1 1).dayNumber ≤ dayOf ts
    && dayOf ts ≤ (Date.mk Date.lastYear 12 31).dayNumber

/-- A number with at least `width` digits. -/
def padded (width n : Nat) : List Char :=
  let digits := Nat.toDigits 10 n
  List.replicate (width - digits.length) '0' ++ digits

/-- A year with four digits; one that is negative or needs more digits has a sign. -/
def yearText (y : Int) : List Char :=
  if 0 ≤ y ∧ y ≤ 9999 then padded 4 y.toNat
  else (if y < 0 then '-' else '+') :: padded 4 y.natAbs

/-- A date as year, month and day. -/
def Date.text (d : Date) : List Char :=
  yearText d.year ++ '-' :: padded 2 d.month.toNat ++ '-' :: padded 2 d.day.toNat

/-- A second of the day as hour, minute and second. -/
def clockText (second : Int) : List Char :=
  padded 2 (second / 3600).toNat ++ ':' :: padded 2 (second / 60 % 60).toNat
    ++ ':' :: padded 2 (second % 60).toNat

/-- The date and time of a moment, or its number when it has no date. -/
def timestampText (ts : Int) : String :=
  if hasDate ts then
    String.ofList ((Date.ofDayNumber (dayOf ts)).text ++ ' ' :: clockText (secondOfDay ts))
  else toString ts

end SnapshotViewer
