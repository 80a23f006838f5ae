import SnapshotViewer.Proofs.Number.Decimal
import SnapshotViewer.Proofs.Time.Calendar
import SnapshotViewer.Time.Pattern

/-!
# Written dates and times are read back

A number that is written with as many digits as a reader asks for is read, whatever comes behind
it.  So both grammars read the date and the time of a moment as they are written for it.

## Main definitions

* `minuteText` — a second of the day as hour and minute.

## Main statements

* `readNumber_padded`, `readExactly_padded` — numbers that fill their digits.
* `readPattern_dateClock`, `readPattern_dateMinute` — a date and a clock time by a pattern.
* `readFullMoment_second` — a full moment.
-/

namespace SnapshotViewer

variable {w n low high : Nat} {cs ds rest : List Char} {c : Char} {d : Date} {s : Int}

/-! ## Numbers that fill their digits -/

theorem isDigit_of_mem_padded (h : c ∈ padded w n) : c.isDigit = true := by
  rcases List.mem_append.1 h with h | h
  · rw [List.eq_of_mem_replicate h]
    rfl
  · exact isDigit_of_mem_toDigits h

theorem two_digits (h : n < 100) : (Nat.toDigits 10 n).length ≤ 2 :=
  (Nat.length_toDigits_le_iff (by decide) (by decide)).2 h

theorem four_digits (h : n < 10000) : (Nat.toDigits 10 n).length ≤ 4 :=
  (Nat.length_toDigits_le_iff (by decide) (by decide)).2 h

theorem length_padded (hn : (Nat.toDigits 10 n).length ≤ w) : (padded w n).length = w := by
  simp only [padded, List.length_append, List.length_replicate]
  omega

theorem padded_ne_nil (w n : Nat) : padded w n ≠ [] := by
  simp [padded, Nat.toDigits_ne_nil]

theorem ofDigitChars_padded (w n : Nat) : Nat.ofDigitChars 10 (padded w n) 0 = n := by
  rw [padded, Nat.ofDigitChars_append, Nat.ofDigitChars_replicate_zero, Nat.mul_zero,
    Nat.ofDigitChars_ten_toDigits]

theorem isBlank_of_isDigit (h : c.isDigit = true) : Text.isBlank c = false := by
  have hbounds := toNat_of_isDigit h
  simp [Text.isBlank]
  omega

theorem readNumber_padded (hn : (Nat.toDigits 10 n).length ≤ w) :
    readNumber (some w) (padded w n ++ rest) = some (n, rest) := by
  have htake : ((padded w n ++ rest).takeWhile Char.isDigit).take w = padded w n := by
    rw [List.takeWhile_append_of_pos fun c => isDigit_of_mem_padded]
    exact List.take_left' (length_padded hn)
  simp only [readNumber, htake, List.isEmpty_iff, padded_ne_nil, if_false]
  rw [List.drop_left]
  exact congrArg (fun v => some (v, rest)) (ofDigitChars_padded w n)

theorem dropWhile_padded (w n : Nat) (rest : List Char) :
    (padded w n ++ rest).dropWhile Text.isBlank = padded w n ++ rest := by
  obtain ⟨c, ds, hdigits⟩ := List.exists_cons_of_ne_nil (padded_ne_nil w n)
  have hc : c.isDigit = true := isDigit_of_mem_padded (hdigits ▸ List.mem_cons_self)
  simp [hdigits, isBlank_of_isDigit hc]

theorem readTwo_padded (hlow : low ≤ n) (hhigh : n ≤ high) (hn : n < 100) :
    readTwo low high (padded 2 n ++ rest) = some (n, rest) := by
  simp [readTwo, dropWhile_padded, readNumber_padded (two_digits hn), hlow, hhigh]

theorem readYear_padded (hn : n < 10000) :
    readYear (padded 4 n ++ rest) = some ((n : Int), rest) := by
  have hread : readNumber (some 4) (padded 4 n ++ rest) = some (n, rest) :=
    readNumber_padded (four_digits hn)
  rw [readYear, dropWhile_padded]
  have hne := padded_ne_nil 4 n
  have hdigit : ∀ c ∈ padded 4 n, c.isDigit = true := fun c => isDigit_of_mem_padded
  split
  · next heq =>
    cases hdigits : padded 4 n <;> simp_all
  · next heq =>
    cases hdigits : padded 4 n <;> simp_all
  · rw [hread]
    rfl

theorem readExactly_padded (hn : (Nat.toDigits 10 n).length ≤ w) :
    readExactly w (padded w n ++ rest) = some (n, rest) := by
  have hlength := length_padded hn
  have htake : (padded w n ++ rest).take w = padded w n := List.take_left' hlength
  have hdrop : (padded w n ++ rest).drop w = rest := List.drop_left' hlength
  have hdigit : (padded w n).all Char.isDigit = true :=
    List.all_eq_true.2 fun c => isDigit_of_mem_padded
  simp only [readExactly, htake, hdrop, hlength, hdigit, and_self, if_true]
  exact congrArg (fun v => some (v, rest)) (ofDigitChars_padded w n)

theorem readChar_cons {p : Char → Bool} (h : p c = true) :
    readChar p (c :: rest) = some rest := if_pos h

theorem readPair_padded (hlow : low ≤ n) (hhigh : n ≤ high) (hn : n < 100) :
    readPair low high (padded 2 n ++ rest) = some (n, rest) := by
  simp [readPair, readExactly_padded (two_digits hn), hlow, hhigh]

/-! ## Patterns -/

theorem readParts_cons (p : Part) (parts : List Part) (r : Reading) (cs : List Char) :
    readParts (p :: parts) r cs = (p.read r cs).bind fun x => readParts parts x.1 x.2 := rfl

/-- A second of the day as hour and minute. -/
def minuteText (second : Int) : List Char :=
  padded 2 (second / 3600).toNat ++ ':' :: padded 2 (second / 60 % 60).toNat

theorem clockText_eq (second : Int) :
    clockText second = minuteText second ++ ':' :: padded 2 (second % 60).toNat := rfl

section Parts
variable (parts : List Part) (r : Reading) (rest : List Char)

theorem readParts_date (hd : d.Exists) (hyear : 0 ≤ d.year ∧ d.year ≤ 9999) :
    readParts (Part.date ++ parts) r (d.text ++ rest) =
      readParts parts { r with year := d.year, month := d.month.toNat, day := d.day.toNat } rest := by
  obtain ⟨hmonth, hday⟩ := hd
  have hlong := Date.daysInMonth_le d.year d.month
  have hy : (d.year.toNat : Int) = d.year := by omega
  simp only [Part.date, Date.text, yearText, hyear, and_self, if_true, List.append_assoc,
    List.cons_append, List.nil_append, readParts_cons, Part.read, Option.bind_some, Option.map_some,
    readYear_padded (show d.year.toNat < 10000 by omega), hy,
    readTwo_padded (show 1 ≤ d.month.toNat by omega) (show d.month.toNat ≤ 12 by omega)
      (show d.month.toNat < 100 by omega),
    readTwo_padded (show 1 ≤ d.day.toNat by omega) (show d.day.toNat ≤ 31 by omega)
      (show d.day.toNat < 100 by omega)]

theorem readParts_hourMinute (hs : 0 ≤ s ∧ s < 86400) :
    readParts (Part.hourMinute ++ parts) r (minuteText s ++ rest) =
      readParts parts { r with hour := (s / 3600).toNat, minute := (s / 60 % 60).toNat } rest := by
  simp only [Part.hourMinute, minuteText, List.append_assoc,
    List.cons_append, List.nil_append, readParts_cons, Part.read, Option.bind_some, Option.map_some,
    if_true,
    readTwo_padded (Nat.zero_le _) (show (s / 3600).toNat ≤ 23 by omega)
      (show (s / 3600).toNat < 100 by omega),
    readTwo_padded (Nat.zero_le _) (show (s / 60 % 60).toNat ≤ 59 by omega)
      (show (s / 60 % 60).toNat < 100 by omega)]

theorem readParts_second :
    readParts (.literal ':' :: .second :: parts) r (':' :: padded 2 (s % 60).toNat ++ rest) =
      readParts parts { r with second := (s % 60).toNat } rest := by
  simp only [List.cons_append, readParts_cons, Part.read, Option.bind_some, Option.map_some, if_true,
    readTwo_padded (Nat.zero_le _) (show (s % 60).toNat ≤ 60 by omega)
      (show (s % 60).toNat < 100 by omega)]

end Parts

/-! ## Moments -/

namespace Reading

/-- What is read for a date and a second of the day. -/
def ofMoment (d : Date) (s : Int) : Reading where
  year := d.year
  month := d.month.toNat
  day := d.day.toNat
  hour := (s / 3600).toNat
  minute := (s / 60 % 60).toNat
  second := (s % 60).toNat

theorem date?_ofMoment (hd : d.Exists) (hyear : 0 ≤ d.year ∧ d.year ≤ 9999) :
    (ofMoment d s).date? = some d := by
  obtain ⟨hmonth, hday⟩ := hd
  have hm : (d.month.toNat : Int) = d.month := by omega
  have hd : (d.day.toNat : Int) = d.day := by omega
  have hvalid : d.IsValid := by
    refine ⟨?_, ?_, hmonth.1, hmonth.2, hday.1, hday.2⟩
    · simp only [Date.firstYear]
      omega
    · simp only [Date.lastYear]
      omega
  simp only [date?, ofMoment, hm, hd, hvalid, if_true]

theorem clock_ofMoment (hs : 0 ≤ s ∧ s < 86400) : (ofMoment d s).clock = s := by
  simp only [clock, ofMoment]
  omega

theorem moment?_ofMoment (hd : d.Exists) (hyear : 0 ≤ d.year ∧ d.year ≤ 9999)
    (hs : 0 ≤ s ∧ s < 86400) : (ofMoment d s).moment? = some (d.moment s) := by
  rw [moment?, date?_ofMoment hd hyear, clock_ofMoment hs, Option.map_some]

end Reading

section Moment
variable (hd : d.Exists) (hyear : 0 ≤ d.year ∧ d.year ≤ 9999) (hs : 0 ≤ s ∧ s < 86400)
include hd hyear hs

theorem readPattern_dateClock (c : Char) :
    readPattern (Part.date ++ .literal c :: Part.hourMinuteSecond) (d.text ++ c :: clockText s) =
      some (.ofMoment d s) := by
  have hsecond := readParts_second (s := s) []
    { year := d.year, month := d.month.toNat, day := d.day.toNat, hour := (s / 3600).toNat,
      minute := (s / 60 % 60).toNat } []
  rw [List.append_nil] at hsecond
  rw [readPattern, readParts_date _ _ _ hd hyear, readParts_cons, Part.read, if_pos rfl,
    Option.bind_some, Part.hourMinuteSecond, clockText_eq, readParts_hourMinute _ _ _ hs, hsecond]
  rfl

theorem readPattern_dateMinute (c : Char) :
    readPattern (Part.date ++ .literal c :: Part.hourMinute) (d.text ++ c :: minuteText s) =
      some (.ofMoment d (s - s % 60)) := by
  have hminute := readParts_hourMinute []
    { year := d.year, month := d.month.toNat, day := d.day.toNat } [] hs
  rw [List.append_nil, List.append_nil] at hminute
  rw [readPattern, readParts_date _ _ _ hd hyear, readParts_cons, Part.read, if_pos rfl,
    Option.bind_some, hminute, readParts]
  simp only [Reading.ofMoment, Option.some.injEq, Reading.mk.injEq, true_and]
  omega

/-- What is left to read of a full moment behind the minute. -/
theorem readFullMoment_minute (rest : List Char) :
    readFullMoment (d.text ++ 'T' :: minuteText s ++ rest) = do
      let cs ← readChar (· == ':') rest
      let (second, cs) ← readPair 0 60 cs
      let cs ← skipFraction cs
      let offset ← readOffset cs
      return (← { Reading.ofMoment d s with second }.moment?) - offset := by
  obtain ⟨hmonth, hday⟩ := hd
  have hlong := Date.daysInMonth_le d.year d.month
  have hy : (d.year.toNat : Int) = d.year := by omega
  simp only [readFullMoment, Date.text, yearText, hyear, and_self, if_true, List.append_assoc,
    List.cons_append, minuteText, bind, pure, Option.bind_some, readChar_cons, beq_self_eq_true,
    Bool.true_or, Reading.ofMoment, hy,
    readExactly_padded (four_digits (show d.year.toNat < 10000 by omega)),
    readPair_padded (show 1 ≤ d.month.toNat by omega) (show d.month.toNat ≤ 12 by omega)
      (show d.month.toNat < 100 by omega),
    readPair_padded (show 1 ≤ d.day.toNat by omega) (show d.day.toNat ≤ 31 by omega)
      (show d.day.toNat < 100 by omega),
    readPair_padded (Nat.zero_le _) (show (s / 3600).toNat ≤ 23 by omega)
      (show (s / 3600).toNat < 100 by omega),
    readPair_padded (Nat.zero_le _) (show (s / 60 % 60).toNat ≤ 59 by omega)
      (show (s / 60 % 60).toNat < 100 by omega)]

/-- A full moment is read up to the fraction of its second. -/
theorem readFullMoment_second (rest : List Char) :
    readFullMoment (d.text ++ 'T' :: clockText s ++ rest) = do
      let cs ← skipFraction rest
      let offset ← readOffset cs
      return d.moment s - offset := by
  have hassoc : d.text ++ 'T' :: clockText s ++ rest =
      d.text ++ 'T' :: minuteText s ++ (':' :: (padded 2 (s % 60).toNat ++ rest)) := by
    simp [clockText_eq]
  have hmoment : { Reading.ofMoment d s with second := (s % 60).toNat }.moment? =
      some (d.moment s) := Reading.moment?_ofMoment hd hyear hs
  rw [hassoc, readFullMoment_minute hd hyear hs, readChar_cons rfl]
  simp only [bind, pure, Option.bind_some, hmoment,
    readPair_padded (Nat.zero_le _) (show (s % 60).toNat ≤ 60 by omega)
      (show (s % 60).toNat < 100 by omega)]

end Moment

end SnapshotViewer
