import SnapshotViewer.Proofs.Time.Distance
import SnapshotViewer.Proofs.Time.Pattern

/-!
# Moments that are written as text name themselves

The text that is shown for a moment of the years 0 to 9999 names the moment when its blank is
replaced by a `T` or a colon.  Without its seconds it names the beginning of the minute.  Which
moment an expression is seen from makes no difference to such a text: it has none of the forms that
are tried before its own, and its own has nothing to do with that moment.

## Main definitions

* `respaced`, `withoutSeconds` — what becomes of the text of a moment.

## Main statements

* `clock?_clockText`, `clock?_minuteText` — clock times.
* `dateTTime?_clockText`, `dateTTime?_clockText_universal`, `dateTTime?_minuteText`,
  `dateColonTime?_eq` — dates with clock times.
* `parseTime_timestampText` — the moment is named.
-/

namespace SnapshotViewer

variable {cs ds : List Char} {c : Char} {d : Date} {s ts base : Int}

/-! ## The characters of a date and of a clock time -/

/-- A character of which dates and times are written. -/
def IsTimeChar (c : Char) : Prop := c.isDigit = true ∨ c = '-' ∨ c = ':' ∨ c = 'T' ∨ c = 'Z'

namespace IsTimeChar

theorem not_isBlank (h : IsTimeChar c) : Text.isBlank c = false := by
  rcases h with h | rfl | rfl | rfl | rfl
  · exact isBlank_of_isDigit h
  all_goals rfl

theorem utf8Size_eq (h : IsTimeChar c) : c.utf8Size = 1 := by
  rcases h with h | rfl | rfl | rfl | rfl
  · have hbounds := toNat_of_isDigit h
    rw [Char.utf8Size_eq_one_iff, UInt32.le_iff_toNat_le]
    exact Nat.le_trans hbounds.2 (by decide)
  all_goals rfl

end IsTimeChar

theorem utf8ByteSize_ofList (h : ∀ c ∈ cs, IsTimeChar c) :
    (String.ofList cs).utf8ByteSize = cs.length := by
  induction cs with
  | nil => rfl
  | cons c cs ih =>
    rw [String.ofList_cons, String.utf8ByteSize_append, String.utf8ByteSize_singleton,
      (h c List.mem_cons_self).utf8Size_eq, ih fun x hx => h x (List.mem_cons_of_mem c hx),
      List.length_cons]
    omega

theorem mem_minuteText (h : c ∈ minuteText s) : c.isDigit = true ∨ c = ':' := by
  simp only [minuteText, List.mem_append, List.mem_cons] at h
  rcases h with h | h | h
  · exact .inl (isDigit_of_mem_padded h)
  · exact .inr h
  · exact .inl (isDigit_of_mem_padded h)

theorem mem_clockText (h : c ∈ clockText s) : c.isDigit = true ∨ c = ':' := by
  simp only [clockText_eq, List.mem_append, List.mem_cons] at h
  rcases h with h | h | h
  · exact mem_minuteText h
  · exact .inr h
  · exact .inl (isDigit_of_mem_padded h)

theorem isTimeChar_clockText (h : c ∈ clockText s) : IsTimeChar c :=
  (mem_clockText h).imp_right fun h => by simp [h]

theorem isTimeChar_minuteText (h : c ∈ minuteText s) : IsTimeChar c :=
  (mem_minuteText h).imp_right fun h => by simp [h]

theorem mem_dateText (hyear : 0 ≤ d.year ∧ d.year ≤ 9999) (h : c ∈ d.text) :
    c.isDigit = true ∨ c = '-' := by
  simp only [Date.text, yearText, hyear, and_self, if_true, List.mem_append, List.mem_cons] at h
  rcases h with (h | h | h) | h | h
  · exact .inl (isDigit_of_mem_padded h)
  · exact .inr h
  · exact .inl (isDigit_of_mem_padded h)
  · exact .inr h
  · exact .inl (isDigit_of_mem_padded h)

theorem isTimeChar_dateText (hyear : 0 ≤ d.year ∧ d.year ≤ 9999) (h : c ∈ d.text) :
    IsTimeChar c := (mem_dateText hyear h).imp_right fun h => by simp [h]

theorem length_minuteText (hs : 0 ≤ s ∧ s < 86400) : (minuteText s).length = 5 := by
  simp only [minuteText, List.length_append, List.length_cons,
    length_padded (two_digits (show (s / 3600).toNat < 100 by omega)),
    length_padded (two_digits (show (s / 60 % 60).toNat < 100 by omega))]

theorem length_clockText (hs : 0 ≤ s ∧ s < 86400) : (clockText s).length = 8 := by
  simp only [clockText_eq, List.length_append, List.length_cons, length_minuteText hs,
    length_padded (two_digits (show (s % 60).toNat < 100 by omega))]

theorem length_dateText (hd : d.Exists) (hyear : 0 ≤ d.year ∧ d.year ≤ 9999) :
    d.text.length = 10 := by
  obtain ⟨hmonth, hday⟩ := hd
  have hlong := Date.daysInMonth_le d.year d.month
  simp only [Date.text, yearText, hyear, and_self, if_true, List.length_append, List.length_cons,
    length_padded (four_digits (show d.year.toNat < 10000 by omega)),
    length_padded (two_digits (show d.month.toNat < 100 by omega)),
    length_padded (two_digits (show d.day.toNat < 100 by omega))]

/-- The text of a date begins with a digit. -/
theorem exists_dateText_eq (hyear : 0 ≤ d.year ∧ d.year ≤ 9999) :
    ∃ c cs, d.text = c :: cs ∧ c.isDigit = true := by
  obtain ⟨c, cs, hdigits⟩ := List.exists_cons_of_ne_nil (padded_ne_nil 4 d.year.toNat)
  have hc : c.isDigit = true := isDigit_of_mem_padded (hdigits ▸ List.mem_cons_self)
  simp only [Date.text, yearText, hyear, and_self, if_true, hdigits, List.cons_append]
  exact ⟨c, _, rfl, hc⟩

namespace TimeExpression

/-! ## Clock times -/

theorem readPattern_clock (hs : 0 ≤ s ∧ s < 86400) :
    (readPattern Part.hourMinuteSecond (clockText s)).map Reading.clock = some s := by
  have hsecond := readParts_second (s := s) []
    { hour := (s / 3600).toNat, minute := (s / 60 % 60).toNat } []
  rw [List.append_nil] at hsecond
  rw [readPattern, Part.hourMinuteSecond, clockText_eq, readParts_hourMinute _ _ _ hs, hsecond,
    readParts, Option.map_some, Reading.clock]
  simp only [Option.some.injEq]
  omega

theorem readPattern_minute (hs : 0 ≤ s ∧ s < 86400) :
    (readPattern Part.hourMinute (minuteText s)).map Reading.clock = some (s - s % 60) := by
  have hminute := readParts_hourMinute [] {} [] hs
  rw [List.append_nil, List.append_nil] at hminute
  rw [readPattern, hminute, readParts, Option.map_some, Reading.clock]
  simp only [Option.some.injEq]
  omega

theorem clock?_clockText (hs : 0 ≤ s ∧ s < 86400) : clock? (clockText s) = some s := by
  have hsize : (String.ofList (clockText s)).utf8ByteSize = 8 := by
    rw [utf8ByteSize_ofList fun c => isTimeChar_clockText, length_clockText hs]
  simp only [clock?, hsize]
  exact readPattern_clock hs

theorem clock?_minuteText (hs : 0 ≤ s ∧ s < 86400) : clock? (minuteText s) = some (s - s % 60) := by
  have hsize : (String.ofList (minuteText s)).utf8ByteSize = 5 := by
    rw [utf8ByteSize_ofList fun c => isTimeChar_minuteText, length_minuteText hs]
  simp only [clock?, hsize]
  exact readPattern_minute hs

/-! ## Dates with clock times -/

section Dated
variable (hd : d.Exists) (hyear : 0 ≤ d.year ∧ d.year ≤ 9999) (hs : 0 ≤ s ∧ s < 86400)
include hd hyear hs

theorem dateTTime?_clockText : dateTTime? (d.text ++ 'T' :: clockText s) = some (d.moment s) := by
  have hfull : readFullMoment (d.text ++ 'T' :: clockText s) = none := by
    rw [← List.append_nil (d.text ++ 'T' :: clockText s), readFullMoment_second hd hyear hs]
    rfl
  have hcontains : (d.text ++ 'T' :: clockText s).contains 'T' = true := by simp
  rw [dateTTime?, if_pos hcontains, hfull, readPattern_dateClock hd hyear hs, Option.bind_some,
    Reading.moment?_ofMoment hd hyear hs]
  rfl

theorem dateTTime?_clockText_universal :
    dateTTime? (d.text ++ 'T' :: clockText s ++ ['Z']) = some (d.moment s) := by
  have hfull : readFullMoment (d.text ++ 'T' :: clockText s ++ ['Z']) = some (d.moment s) := by
    rw [readFullMoment_second hd hyear hs]
    simp [skipFraction, readOffset]
  have hcontains : (d.text ++ 'T' :: clockText s ++ ['Z']).contains 'T' = true := by simp
  rw [dateTTime?, if_pos hcontains, hfull]
  rfl

/-- A clock time without seconds is too short for the forms that have them. -/
theorem dateTTime?_minuteText :
    dateTTime? (d.text ++ 'T' :: minuteText s) = some (d.moment (s - s % 60)) := by
  have hfull : readFullMoment (d.text ++ 'T' :: minuteText s) = none := by
    rw [← List.append_nil (d.text ++ 'T' :: minuteText s), readFullMoment_minute hd hyear hs]
    rfl
  have hsecond : readPattern (Part.date ++ .literal 'T' :: Part.hourMinuteSecond)
      (d.text ++ 'T' :: minuteText s) = none := by
    rw [readPattern, readParts_date _ _ _ hd hyear, readParts_cons, Part.read, if_pos rfl,
      Option.bind_some, Part.hourMinuteSecond, ← List.append_nil (minuteText s),
      readParts_hourMinute _ _ _ hs]
    rfl
  have hcontains : (d.text ++ 'T' :: minuteText s).contains 'T' = true := by simp
  rw [dateTTime?, if_pos hcontains, hfull, hsecond, readPattern_dateMinute hd hyear hs,
    Option.bind_some, Reading.moment?_ofMoment hd hyear (by omega)]
  rfl

end Dated

theorem splitBytes?_append (h : ∀ c ∈ cs, IsTimeChar c) (rest : List Char) :
    splitBytes? cs.length (cs ++ rest) = some (cs, rest) := by
  induction cs with
  | nil => simp [splitBytes?]
  | cons c cs ih =>
    have hsize := (h c List.mem_cons_self).utf8Size_eq
    rw [List.length_cons, List.cons_append, splitBytes?, hsize, if_pos (by omega),
      Nat.add_sub_cancel, ih fun x hx => h x (List.mem_cons_of_mem c hx)]
    rfl

theorem dateColonTime?_eq (hd : d.Exists) (hyear : 0 ≤ d.year ∧ d.year ≤ 9999)
    (hclock : clock? cs = some s) : dateColonTime? (d.text ++ ':' :: cs) = some (d.moment s) := by
  have hsplit : splitBytes? 10 (d.text ++ ':' :: cs) = some (d.text, ':' :: cs) := by
    rw [← length_dateText hd hyear]
    exact splitBytes?_append (fun c => isTimeChar_dateText hyear) _
  have hdate : (readPattern Part.date d.text).bind Reading.date? = some d := by
    have hparts := readParts_date [] {} [] hd hyear
    rw [List.append_nil, List.append_nil] at hparts
    rw [readPattern, hparts]
    exact Reading.date?_ofMoment (s := 0) hd hyear
  simp only [dateColonTime?, hsplit, readChar_cons, beq_self_eq_true, hdate, hclock, bind, pure,
    Option.bind_some]

/-! ## Expressions -/

/-- A date with something behind it is no number and no distance. -/
theorem evaluate_of_date (hyear : 0 ≤ d.year ∧ d.year ≤ 9999) (hc : c.isDigit = false)
    (h : (dateTTime? (d.text ++ c :: cs) <|> dateColonTime? (d.text ++ c :: cs) <|>
      timeOnDayOf? base (d.text ++ c :: cs)) = some ts) :
    evaluate base (d.text ++ c :: cs) = .ok ts := by
  obtain ⟨x, xs, htext, hx⟩ := exists_dateText_eq hyear
  have hall : (d.text ++ c :: cs).all Char.isDigit = false := by simp [hc]
  have hdistance : distance? (d.text ++ c :: cs) = none := by
    rw [htext]
    refine distance?_eq_none_of_unsigned ?_ ?_
    · rintro rfl
      exact absurd hx (by decide)
    · rintro rfl
      exact absurd hx (by decide)
  have hempty : (d.text ++ c :: cs).isEmpty = false := by simp
  simp only [evaluate, hempty, hall, hdistance, h]
  rfl

theorem evaluate_dateTTime (hyear : 0 ≤ d.year ∧ d.year ≤ 9999)
    (h : dateTTime? (d.text ++ 'T' :: cs) = some ts) :
    evaluate base (d.text ++ 'T' :: cs) = .ok ts :=
  evaluate_of_date hyear rfl (by rw [h]; rfl)

theorem evaluate_dateColonTime (hd : d.Exists) (hyear : 0 ≤ d.year ∧ d.year ≤ 9999)
    (hcs : ∀ c ∈ cs, c.isDigit = true ∨ c = ':') (hclock : clock? cs = some s) :
    evaluate base (d.text ++ ':' :: cs) = .ok (d.moment s) := by
  have hT : 'T' ∉ d.text ++ ':' :: cs := by
    intro h
    rcases List.mem_append.1 h with h | h
    · exact absurd (mem_dateText hyear h) (by decide)
    · rcases List.mem_cons.1 h with h | h
      · exact absurd h (by decide)
      · exact absurd (hcs _ h) (by decide)
  have hfirst : dateTTime? (d.text ++ ':' :: cs) = none := by
    rw [dateTTime?, if_neg (by simpa using hT)]
  refine evaluate_of_date hyear rfl ?_
  rw [hfirst, dateColonTime?_eq hd hyear hclock]
  rfl

end TimeExpression

open TimeExpression

/-- There are no blanks at the ends of a date with something behind it. -/
theorem parseTime_of_date {input : String} (hyear : 0 ≤ d.year ∧ d.year ≤ 9999)
    (hinput : input.toList = d.text ++ c :: cs) (hcs : ∀ x ∈ c :: cs, IsTimeChar x)
    (h : evaluate base (d.text ++ c :: cs) = .ok ts) : parseTime input base = .ok ts := by
  have htrim : Text.trimChars (d.text ++ c :: cs) = d.text ++ c :: cs := by
    refine Text.trimChars_eq_self fun x hx => ?_
    rcases List.mem_append.1 hx with hx | hx
    · exact (isTimeChar_dateText hyear hx).not_isBlank
    · exact (hcs x hx).not_isBlank
  rw [parseTime_eq_ok_iff, hinput, htrim]
  exact h

/-! ## The text of a moment -/

/-- A text with another character in place of its blanks. -/
def respaced (c : Char) (text : String) : String := text.map fun x => if x = ' ' then c else x

/-- A text without a colon and two digits at its end. -/
def withoutSeconds (text : String) : String :=
  String.ofList (text.toList.take (text.toList.length - 3))

theorem map_respaced_eq_self (hcs : ∀ x ∈ cs, IsTimeChar x) (c : Char) :
    cs.map (fun x => if x = ' ' then c else x) = cs := by
  have hother : ∀ x ∈ cs, (if x = ' ' then c else x) = id x := by
    intro x hx
    refine if_neg ?_
    rintro rfl
    exact absurd (hcs _ hx).not_isBlank (by decide)
  rw [List.map_congr_left hother, List.map_id]

theorem toList_respaced (hyear : 0 ≤ d.year ∧ d.year ≤ 9999) (c : Char) :
    (respaced c (String.ofList (d.text ++ ' ' :: clockText s))).toList =
      d.text ++ c :: clockText s := by
  have hdate := map_respaced_eq_self (fun x => isTimeChar_dateText (c := x) hyear) c
  have hclock := map_respaced_eq_self (fun x => isTimeChar_clockText (c := x) (s := s)) c
  rw [respaced, String.toList_map, String.toList_ofList, List.map_append, List.map_cons, hdate,
    hclock, if_pos rfl]

theorem toList_withoutSeconds {text : String} (h : text.toList = ds ++ clockText s) :
    (withoutSeconds text).toList = ds ++ minuteText s := by
  have hseconds : (':' :: padded 2 (s % 60).toNat).length = 3 := by
    rw [List.length_cons, length_padded (two_digits (by omega))]
  rw [withoutSeconds, String.toList_ofList, h, clockText_eq, ← List.append_assoc]
  refine List.take_left' ?_
  simp only [List.length_append, hseconds]
  omega

/-- The text of a moment of the years 0 to 9999 is made of a date and a second of the day. -/
theorem exists_timestampText_eq (hfirst : (Date.mk 0 1 1).moment 0 ≤ ts)
    (hlast : ts ≤ (Date.mk 9999 12 31).moment 86399) :
    ∃ (d : Date) (s : Int), d.Exists ∧ (0 ≤ d.year ∧ d.year ≤ 9999) ∧ (0 ≤ s ∧ s < 86400) ∧
      d.moment s = ts ∧ timestampText ts = String.ofList (d.text ++ ' ' :: clockText s) := by
  have hexists := Date.exists_ofDayNumber (dayOf ts)
  have hnumber := Date.dayNumber_ofDayNumber (dayOf ts)
  have hzero : (Date.mk 0 1 1).dayNumber = -719528 := by decide
  have hnines : (Date.mk 9999 12 31).dayNumber = 2932896 := by decide
  have hday : -719528 ≤ dayOf ts ∧ dayOf ts ≤ 2932896 := by
    simp only [Date.moment, hzero, hnines] at hfirst hlast
    simp only [dayOf]
    omega
  have hyear : 0 ≤ (Date.ofDayNumber (dayOf ts)).year ∧
      (Date.ofDayNumber (dayOf ts)).year ≤ 9999 := by
    constructor
    · exact Date.year_le_of_dayNumber_le (d := ⟨0, 1, 1⟩) ⟨by decide, by decide⟩ hexists (by omega)
    · have hend : (Date.mk 9999 12 31).Exists := ⟨by decide, by decide⟩
      exact Date.year_le_of_dayNumber_le hexists hend (by omega)
  have hdate : hasDate ts = true := by
    have hfrom : (Date.mk Date.firstYear 1 1).dayNumber ≤ -719528 := by decide
    have hto : 2932896 ≤ (Date.mk Date.lastYear 12 31).dayNumber := by decide
    simp only [hasDate, Bool.and_eq_true, decide_eq_true_eq]
    omega
  refine ⟨_, secondOfDay ts, hexists, hyear, ?_, ?_, by rw [timestampText, if_pos hdate]⟩
  · simp only [secondOfDay]
    omega
  · rw [Date.moment, hnumber, dayOf, secondOfDay]
    omega

theorem moment_sub_mod (d : Date) (s : Int) :
    d.moment (s - s % 60) = 60 * (d.moment s / 60) := by
  simp only [Date.moment]
  omega

/-- The text of a moment of the years 0 to 9999, with a `T` or a colon in place of the blank, names
the moment, and without the seconds the beginning of its minute. -/
theorem parseTime_timestampText (hfirst : (Date.mk 0 1 1).moment 0 ≤ ts)
    (hlast : ts ≤ (Date.mk 9999 12 31).moment 86399) (base : Int) :
    parseTime (respaced 'T' (timestampText ts)) base = .ok ts ∧
    parseTime (respaced 'T' (timestampText ts) ++ "Z") base = .ok ts ∧
    parseTime (respaced ':' (timestampText ts)) base = .ok ts ∧
    parseTime (withoutSeconds (respaced 'T' (timestampText ts))) base = .ok (60 * (ts / 60)) ∧
    parseTime (withoutSeconds (respaced ':' (timestampText ts))) base = .ok (60 * (ts / 60)) := by
  obtain ⟨d, s, hd, hyear, hs, rfl, htext⟩ := exists_timestampText_eq hfirst hlast
  have hfull : ∀ c, (respaced c (timestampText (d.moment s))).toList = d.text ++ c :: clockText s := by
    intro c
    rw [htext, toList_respaced hyear]
  have hminute : ∀ c, (withoutSeconds (respaced c (timestampText (d.moment s)))).toList =
      d.text ++ c :: minuteText s := by
    intro c
    have happend := hfull c
    rw [List.append_cons] at happend
    rw [toList_withoutSeconds happend, ← List.append_cons]
  have hzone : (respaced 'T' (timestampText (d.moment s)) ++ "Z").toList =
      d.text ++ 'T' :: (clockText s ++ ['Z']) := by
    rw [String.toList_append, hfull]
    simp
  have hT : IsTimeChar 'T' := .inr (by decide)
  have hcolon : IsTimeChar ':' := .inr (by decide)
  have hclock : ∀ x ∈ clockText s, IsTimeChar x := fun x => isTimeChar_clockText
  have hminutes : ∀ x ∈ minuteText s, IsTimeChar x := fun x => isTimeChar_minuteText
  refine ⟨?_, ?_, ?_, ?_, ?_⟩
  · exact parseTime_of_date hyear (hfull 'T') (List.forall_mem_cons.2 ⟨hT, hclock⟩)
      (evaluate_dateTTime hyear (dateTTime?_clockText hd hyear hs))
  · have hZ : ∀ x ∈ ['Z'], IsTimeChar x := by
      intro x hx
      rw [List.mem_singleton.1 hx]
      exact .inr (by decide)
    refine parseTime_of_date hyear hzone
      (List.forall_mem_cons.2 ⟨hT, List.forall_mem_append.2 ⟨hclock, hZ⟩⟩)
      (evaluate_dateTTime hyear ?_)
    rw [← List.cons_append, ← List.append_assoc]
    exact dateTTime?_clockText_universal hd hyear hs
  · exact parseTime_of_date hyear (hfull ':') (List.forall_mem_cons.2 ⟨hcolon, hclock⟩)
      (evaluate_dateColonTime hd hyear (fun x => mem_clockText) (clock?_clockText hs))
  · rw [← moment_sub_mod]
    exact parseTime_of_date hyear (hminute 'T') (List.forall_mem_cons.2 ⟨hT, hminutes⟩)
      (evaluate_dateTTime hyear (dateTTime?_minuteText hd hyear hs))
  · rw [← moment_sub_mod]
    exact parseTime_of_date hyear (hminute ':') (List.forall_mem_cons.2 ⟨hcolon, hminutes⟩)
      (evaluate_dateColonTime hd hyear (fun x => mem_minuteText) (clock?_minuteText hs))

/-- The last second of the leap day of the year 0. -/
theorem parseTime_timestampText_leapDay :
    timestampText (-62162035201) = "0000-02-29 23:59:59" ∧
    parseTime (respaced 'T' (timestampText (-62162035201))) 5 = .ok (-62162035201) ∧
    parseTime (respaced 'T' (timestampText (-62162035201)) ++ "Z") 5 = .ok (-62162035201) ∧
    parseTime (respaced ':' (timestampText (-62162035201))) 5 = .ok (-62162035201) ∧
    parseTime (withoutSeconds (respaced 'T' (timestampText (-62162035201)))) 5 =
      .ok (-62162035260) ∧
    parseTime (withoutSeconds (respaced ':' (timestampText (-62162035201)))) 5 =
      .ok (-62162035260) :=
  ⟨by decide +kernel, parseTime_timestampText (by decide) (by decide) 5⟩

end SnapshotViewer
