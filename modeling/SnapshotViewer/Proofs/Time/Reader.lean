import SnapshotViewer.Proofs.Number.Int64
import SnapshotViewer.Proofs.Outcome
import SnapshotViewer.Proofs.Time.Calendar
import SnapshotViewer.Time.Expression

/-!
# What the readers of times take and leave

A reader of dates and times takes a text from the front and leaves the rest of it.  Each of them is
described once, by what it leaves and by the bounds of what it takes.  Two things follow for the
forms of a time expression that are no distance.  Their last reader takes a digit or the letter of
universal time, so that is how the text ends.  And the moment that they name is one of 64 bits: dates
are kept for so few years that no clock time and no distance from universal time leads out.

## Main definitions

* `LeavesBehindDigit` — what a reader leaves when a digit is the last it takes.
* `EndsInTime` — a text that ends like a time.
* `IsClock`, `IsKept` — a second of the day, and a day that dates are kept for.

## Main statements

* `readParts_taken`, `readFullMoment_taken` — the two grammars.
* `TimeExpression.taken_of_dateTTime?`, `TimeExpression.taken_of_dateColonTime?`,
  `TimeExpression.taken_of_timeOnDayOf?` — the forms that are no distance.
* `fitsInt64_of_parseTime` — what is named is a moment of 64 bits.
-/

namespace SnapshotViewer

variable {cs rest : List Char} {r r' : Reading} {p : Part} {parts : List Part} {low high n : Nat}

/-! ## What is left -/

/-- The text `rest` is what is left of `cs` when a digit is the last that is taken. -/
def LeavesBehindDigit (cs rest : List Char) : Prop :=
  ∃ front c, cs = front ++ c :: rest ∧ c.isDigit = true

namespace LeavesBehindDigit

theorem suffix (h : LeavesBehindDigit cs rest) : rest <:+ cs := by
  obtain ⟨front, c, rfl, -⟩ := h
  exact (List.suffix_cons c rest).trans (List.suffix_append front _)

theorem of_suffix {cs' : List Char} (hsuffix : cs' <:+ cs) (h : LeavesBehindDigit cs' rest) :
    LeavesBehindDigit cs rest := by
  obtain ⟨before, rfl⟩ := hsuffix
  obtain ⟨front, c, rfl, hc⟩ := h
  exact ⟨before ++ front, c, by rw [List.append_assoc], hc⟩

theorem of_digits {ds : List Char} (hne : ds ≠ []) (hds : ∀ c ∈ ds, c.isDigit = true)
    (rest : List Char) : LeavesBehindDigit (ds ++ rest) rest := by
  refine ⟨ds.dropLast, ds.getLast hne, ?_, hds _ (List.getLast_mem hne)⟩
  rw [← List.singleton_append, ← List.append_assoc, List.dropLast_concat_getLast hne]

end LeavesBehindDigit

/-- The text ends in a digit or in the letter of universal time. -/
def EndsInTime (cs : List Char) : Prop :=
  ∃ front c, cs = front ++ [c] ∧ (c.isDigit = true ∨ c = 'Z' ∨ c = 'z')

namespace EndsInTime

theorem of_leaves (h : LeavesBehindDigit cs []) : EndsInTime cs := by
  obtain ⟨front, c, rfl, hc⟩ := h
  exact ⟨front, c, rfl, .inl hc⟩

theorem of_suffix (hsuffix : rest <:+ cs) (h : EndsInTime rest) : EndsInTime cs := by
  obtain ⟨before, rfl⟩ := hsuffix
  obtain ⟨front, c, rfl, hc⟩ := h
  exact ⟨before ++ front, c, by rw [List.append_assoc], hc⟩

end EndsInTime

/-! ## Numbers -/

theorem readNumber_taken {limit : Option Nat} (h : readNumber limit cs = some (n, rest)) :
    LeavesBehindDigit cs rest := by
  have hleaves : ∀ ds, ds <+: cs.takeWhile Char.isDigit → ds ≠ [] →
      LeavesBehindDigit cs (cs.drop ds.length) := by
    intro ds hfront hne
    have hdigits : ∀ c ∈ ds, c.isDigit = true := fun c hc =>
      List.all_eq_true.1 List.all_takeWhile c (hfront.subset hc)
    obtain ⟨rest, rfl⟩ := hfront.trans (List.takeWhile_prefix _)
    rw [List.drop_left]
    exact .of_digits hne hdigits rest
  simp only [readNumber] at h
  split at h <;> split at h <;> cases h
  · next hne => exact hleaves _ (List.take_prefix _ _) (by simpa using hne)
  · next hne => exact hleaves _ List.prefix_rfl (by simpa using hne)

theorem readTwo_taken (h : readTwo low high cs = some (n, rest)) :
    LeavesBehindDigit cs rest ∧ low ≤ n ∧ n ≤ high := by
  unfold readTwo at h
  obtain ⟨⟨m, left⟩, hnumber, h⟩ := Option.bind_eq_some_iff.1 h
  dsimp only at h
  split at h <;> cases h
  next hbounds =>
  exact ⟨.of_suffix (List.dropWhile_suffix _) (readNumber_taken hnumber), hbounds⟩

theorem readYear_taken {n : Int} (h : readYear cs = some (n, rest)) :
    LeavesBehindDigit cs rest := by
  have hsuffix := List.dropWhile_suffix (l := cs) Text.isBlank
  unfold readYear at h
  split at h
  · next heq =>
    obtain ⟨x, hnumber, heq'⟩ := Option.map_eq_some_iff.1 h
    cases heq'
    exact .of_suffix ((List.suffix_cons _ _).trans (heq ▸ hsuffix)) (readNumber_taken hnumber)
  · next heq =>
    obtain ⟨x, hnumber, heq'⟩ := Option.map_eq_some_iff.1 h
    cases heq'
    exact .of_suffix ((List.suffix_cons _ _).trans (heq ▸ hsuffix)) (readNumber_taken hnumber)
  · obtain ⟨x, hnumber, heq'⟩ := Option.map_eq_some_iff.1 h
    cases heq'
    exact .of_suffix hsuffix (readNumber_taken hnumber)

theorem readExactly_taken {count : Nat} (hcount : 0 < count)
    (h : readExactly count cs = some (n, rest)) : LeavesBehindDigit cs rest := by
  simp only [readExactly] at h
  split at h <;> cases h
  next hdigits =>
  have hne : cs.take count ≠ [] := List.ne_nil_of_length_pos (by omega)
  have hleaves := LeavesBehindDigit.of_digits hne (List.all_eq_true.1 hdigits.2) (cs.drop count)
  rwa [List.take_append_drop] at hleaves

theorem readPair_taken (h : readPair low high cs = some (n, rest)) :
    LeavesBehindDigit cs rest ∧ low ≤ n ∧ n ≤ high := by
  unfold readPair at h
  obtain ⟨⟨m, left⟩, hexactly, h⟩ := Option.bind_eq_some_iff.1 h
  dsimp only at h
  split at h <;> cases h
  next hbounds => exact ⟨readExactly_taken (by decide) hexactly, hbounds⟩

/-! ## Patterns -/

/-- A second of the day. -/
def IsClock (s : Int) : Prop := 0 ≤ s ∧ s < 86400

namespace Reading

/-- The hour and the minute are those of a day. -/
def InDay (r : Reading) : Prop := r.hour ≤ 23 ∧ r.minute ≤ 59

theorem InDay.clock (h : r.InDay) : IsClock r.clock := by
  obtain ⟨hhour, hminute⟩ := h
  simp only [IsClock, Reading.clock]
  omega

end Reading

namespace Part

/-- Whether a part is a number. -/
def IsNumber (p : Part) : Prop := ∀ c, p ≠ .literal c

theorem read_taken (h : p.read r cs = some (r', rest)) :
    rest <:+ cs ∧ (p.IsNumber → LeavesBehindDigit cs rest) ∧ (r.InDay → r'.InDay) := by
  cases p with
  | literal c =>
    cases cs with
    | nil => cases h
    | cons d left =>
      simp only [read] at h
      split at h <;> cases h
      exact ⟨List.suffix_cons _ _, fun hp => absurd rfl (hp c), id⟩
  | year =>
    obtain ⟨x, hread, heq⟩ := Option.map_eq_some_iff.1 h
    cases heq
    have hleaves := readYear_taken hread
    exact ⟨hleaves.suffix, fun _ => hleaves, id⟩
  | hour =>
    obtain ⟨x, hread, heq⟩ := Option.map_eq_some_iff.1 h
    cases heq
    obtain ⟨hleaves, hbounds⟩ := readTwo_taken hread
    exact ⟨hleaves.suffix, fun _ => hleaves, fun hr => ⟨hbounds.2, hr.2⟩⟩
  | minute =>
    obtain ⟨x, hread, heq⟩ := Option.map_eq_some_iff.1 h
    cases heq
    obtain ⟨hleaves, hbounds⟩ := readTwo_taken hread
    exact ⟨hleaves.suffix, fun _ => hleaves, fun hr => ⟨hr.1, hbounds.2⟩⟩
  | month | day | second =>
    obtain ⟨x, hread, heq⟩ := Option.map_eq_some_iff.1 h
    cases heq
    obtain ⟨hleaves, -⟩ := readTwo_taken hread
    exact ⟨hleaves.suffix, fun _ => hleaves, id⟩

end Part

/-- A pattern that ends in a number reads a text to a digit at its end. -/
theorem readParts_taken (hp : p.IsNumber) (hr : r.InDay)
    (h : readParts (parts ++ [p]) r cs = some r') : EndsInTime cs ∧ r'.InDay := by
  induction parts generalizing r cs with
  | nil =>
    obtain ⟨⟨r₁, left⟩, hread, h⟩ := Option.bind_eq_some_iff.1 h
    obtain ⟨-, hleaves, hday⟩ := Part.read_taken hread
    cases left with
    | nil =>
      obtain rfl : r₁ = r' := Option.some.inj h
      exact ⟨.of_leaves (hleaves hp), hday hr⟩
    | cons c left => cases h
  | cons q parts ih =>
    obtain ⟨⟨r₁, left⟩, hread, h⟩ := Option.bind_eq_some_iff.1 h
    obtain ⟨hsuffix, -, hday⟩ := Part.read_taken hread
    obtain ⟨hends, hday'⟩ := ih (hday hr) h
    exact ⟨hends.of_suffix hsuffix, hday'⟩

theorem readPattern_taken {pattern : List Part} (hpattern : pattern = parts ++ [p])
    (hp : p.IsNumber) (h : readPattern pattern cs = some r) : EndsInTime cs ∧ r.InDay := by
  rw [hpattern] at h
  exact readParts_taken hp ⟨Nat.zero_le _, Nat.zero_le _⟩ h

/-! ## Full moments -/

theorem readChar_taken {q : Char → Bool} (h : readChar q cs = some rest) : rest <:+ cs := by
  cases cs with
  | nil => cases h
  | cons c left =>
    simp only [readChar] at h
    split at h <;> cases h
    exact List.suffix_cons _ _

theorem skipFraction_taken (h : skipFraction cs = some rest) : rest <:+ cs := by
  unfold skipFraction at h
  split at h
  · split at h <;> cases h
    exact (List.drop_suffix _ _).trans (List.suffix_cons _ _)
  · cases h
    exact List.suffix_rfl

/-- Whatever sign was read, what follows was read too. -/
theorem exists_of_signed_bind {plus minus : Prop} [Decidable plus] [Decidable minus]
    {f : Bool → Option Int} {n : Int}
    (h : (if plus then some false >>= f else if minus then some true >>= f else none >>= f) =
      some n) : ∃ negative, f negative = some n := by
  split at h
  · exact ⟨false, h⟩
  · split at h
    · exact ⟨true, h⟩
    · cases h

theorem readOffset_taken {n : Int} (h : readOffset cs = some n) :
    EndsInTime cs ∧ -86400 < n ∧ n < 86400 := by
  unfold readOffset at h
  split at h
  · cases h
    exact ⟨⟨[], 'Z', rfl, by decide⟩, by decide⟩
  · cases h
    exact ⟨⟨[], 'z', rfl, by decide⟩, by decide⟩
  · next sign left _ _ =>
    obtain ⟨negative, h⟩ := exists_of_signed_bind h
    obtain ⟨⟨hours, left₁⟩, hhours, h⟩ := Option.bind_eq_some_iff.1 h
    obtain ⟨left₂, hcolon, h⟩ := Option.bind_eq_some_iff.1 h
    obtain ⟨⟨minutes, left₃⟩, hminutes, h⟩ := Option.bind_eq_some_iff.1 h
    obtain ⟨hleaves₁, -, hhours⟩ := readPair_taken hhours
    obtain ⟨hleaves₃, -, hminutes⟩ := readPair_taken hminutes
    cases left₃ with
    | cons => cases h
    | nil =>
      have hsuffix : left₂ <:+ sign :: left :=
        (readChar_taken hcolon).trans (hleaves₁.suffix.trans (List.suffix_cons _ _))
      refine ⟨.of_suffix hsuffix (.of_leaves hleaves₃), ?_⟩
      obtain rfl : (if negative then -((hours : Int) * 3600 + minutes * 60)
          else (hours : Int) * 3600 + minutes * 60) = n := Option.some.inj h
      split <;> omega
  · cases h

/-- Behind the second there are the fraction and the distance from universal time. -/
theorem readFullMoment_taken {n : Int} (h : readFullMoment cs = some n) :
    EndsInTime cs ∧ ∃ (r : Reading) (m offset : Int), r.InDay ∧ r.moment? = some m ∧
      (-86400 < offset ∧ offset < 86400) ∧ n = m - offset := by
  unfold readFullMoment at h
  obtain ⟨⟨year, left₁⟩, hyear, h⟩ := Option.bind_eq_some_iff.1 h
  obtain ⟨left₂, hdash, h⟩ := Option.bind_eq_some_iff.1 h
  obtain ⟨⟨month, left₃⟩, hmonth, h⟩ := Option.bind_eq_some_iff.1 h
  obtain ⟨left₄, hdash', h⟩ := Option.bind_eq_some_iff.1 h
  obtain ⟨⟨day, left₅⟩, hday, h⟩ := Option.bind_eq_some_iff.1 h
  obtain ⟨left₆, hT, h⟩ := Option.bind_eq_some_iff.1 h
  obtain ⟨⟨hour, left₇⟩, hhour, h⟩ := Option.bind_eq_some_iff.1 h
  obtain ⟨left₈, hcolon, h⟩ := Option.bind_eq_some_iff.1 h
  obtain ⟨⟨minute, left₉⟩, hminute, h⟩ := Option.bind_eq_some_iff.1 h
  obtain ⟨left₁₀, hcolon', h⟩ := Option.bind_eq_some_iff.1 h
  obtain ⟨⟨second, left₁₁⟩, hsecond, h⟩ := Option.bind_eq_some_iff.1 h
  obtain ⟨left₁₂, hfraction, h⟩ := Option.bind_eq_some_iff.1 h
  obtain ⟨offset, hoffset, h⟩ := Option.bind_eq_some_iff.1 h
  obtain ⟨m, hm, h⟩ := Option.bind_eq_some_iff.1 h
  obtain rfl : m - offset = n := Option.some.inj h
  obtain ⟨hends, hbounds⟩ := readOffset_taken hoffset
  obtain ⟨hleaves₇, -, hhour⟩ := readPair_taken hhour
  obtain ⟨hleaves₉, -, hminute⟩ := readPair_taken hminute
  refine ⟨.of_suffix ?_ hends, _, m, offset, ⟨hhour, hminute⟩, hm, hbounds, rfl⟩
  exact (skipFraction_taken hfraction).trans <| (readPair_taken hsecond).1.suffix.trans <|
    (readChar_taken hcolon').trans <| hleaves₉.suffix.trans <|
    (readChar_taken hcolon).trans <| hleaves₇.suffix.trans <|
    (readChar_taken hT).trans <| (readPair_taken hday).1.suffix.trans <|
    (readChar_taken hdash').trans <| (readPair_taken hmonth).1.suffix.trans <|
    (readChar_taken hdash).trans (readExactly_taken (by decide) hyear).suffix

/-! ## Days that dates are kept for -/

/-- The number of a day of a year that dates are kept for. -/
def IsKept (day : Int) : Prop :=
  (Date.mk Date.firstYear 1 1).dayNumber ≤ day ∧ day ≤ (Date.mk Date.lastYear 12 31).dayNumber

theorem Date.IsValid.isKept {d : Date} (h : d.IsValid) : IsKept d.dayNumber := by
  obtain ⟨hfirst, hlast, hm, hm', hd, hd'⟩ := h
  have hbounds := Date.dayNumber_bounds (d := d) ⟨⟨hm, hm'⟩, hd, hd'⟩
  have hyear := Date.dayNumber_newYear_le hfirst
  have hnext := Date.dayNumber_newYear_le (show d.year + 1 ≤ lastYear + 1 by omega)
  have hend : (Date.mk (lastYear + 1) 1 1).dayNumber = (Date.mk lastYear 12 31).dayNumber + 1 := by
    decide
  constructor <;> omega

/-- No second of such a day, and none of the day before it or behind it, is near the bounds. -/
theorem IsKept.fitsInt64 {day s : Int} (hday : IsKept day) (hs : -86400 < s ∧ s < 2 * 86400) :
    fitsInt64 (day * 86400 + s) = true := by
  have hfirst : -100000000 ≤ (Date.mk Date.firstYear 1 1).dayNumber := by decide
  have hlast : (Date.mk Date.lastYear 12 31).dayNumber ≤ 100000000 := by decide
  obtain ⟨hlow, hhigh⟩ := hday
  simp only [fitsInt64_iff, int64Min, int64Max]
  omega

theorem Reading.isKept_of_date? {d : Date} (h : r.date? = some d) : IsKept d.dayNumber := by
  simp only [date?] at h
  split at h <;> cases h
  next hvalid => exact hvalid.isKept

/-- With a distance from universal time a moment is still within the bounds. -/
theorem Reading.InDay.fitsInt64 (hr : r.InDay) {m offset : Int} (hm : r.moment? = some m)
    (hoffset : -86400 < offset ∧ offset < 86400) : fitsInt64 (m - offset) = true := by
  obtain ⟨d, hd, rfl⟩ := Option.map_eq_some_iff.1 hm
  obtain ⟨hlow, hhigh⟩ := hr.clock
  rw [Date.moment, Int.add_sub_assoc]
  exact (isKept_of_date? hd).fitsInt64 ⟨by omega, by omega⟩

/-! ## The forms that are no distance -/

namespace TimeExpression

theorem taken_of_clock? {s : Int} (h : clock? cs = some s) : EndsInTime cs ∧ IsClock s := by
  have hminute : Part.hourMinute = [.hour, .literal ':'] ++ [.minute] := rfl
  have hsecond : Part.hourMinuteSecond = Part.hourMinute ++ [.literal ':'] ++ [.second] := rfl
  simp only [clock?] at h
  split at h
  · obtain ⟨r, hread, rfl⟩ := Option.map_eq_some_iff.1 h
    exact (readPattern_taken hminute (by rintro c ⟨⟩) hread).imp_right fun hr => hr.clock
  · split at h
    · obtain ⟨r, hread, rfl⟩ := Option.map_eq_some_iff.1 h
      exact (readPattern_taken hsecond (by rintro c ⟨⟩) hread).imp_right fun hr => hr.clock
    · cases h

theorem taken_of_dated_pattern {pattern : List Part} {ts : Int} (hpattern : pattern = parts ++ [p])
    (hp : p.IsNumber) (h : (readPattern pattern cs).bind (·.moment?) = some ts) :
    EndsInTime cs ∧ fitsInt64 ts = true := by
  obtain ⟨r, hread, hm⟩ := Option.bind_eq_some_iff.1 h
  obtain ⟨hends, hday⟩ := readPattern_taken hpattern hp hread
  have hzero : -86400 < (0 : Int) ∧ (0 : Int) < 86400 := by decide
  have hfits := hday.fitsInt64 hm hzero
  rw [Int.sub_zero] at hfits
  exact ⟨hends, hfits⟩

theorem taken_of_dateTTime? {ts : Int} (h : dateTTime? cs = some ts) :
    EndsInTime cs ∧ fitsInt64 ts = true := by
  have hsecond : Part.date ++ .literal 'T' :: Part.hourMinuteSecond =
      Part.date ++ .literal 'T' :: Part.hourMinute ++ [.literal ':'] ++ [.second] := rfl
  have hminute : Part.date ++ .literal 'T' :: Part.hourMinute =
      Part.date ++ [.literal 'T', .hour, .literal ':'] ++ [.minute] := rfl
  unfold dateTTime? at h
  split at h
  · simp only [Option.orElse_eq_orElse, Option.orElse_eq_or, Option.or_eq_some_iff] at h
    rcases h with h | ⟨-, h | ⟨-, h⟩⟩
    · obtain ⟨hends, r, m, offset, hday, hm, hoffset, rfl⟩ := readFullMoment_taken h
      exact ⟨hends, hday.fitsInt64 hm hoffset⟩
    · exact taken_of_dated_pattern hsecond (by rintro c ⟨⟩) h
    · exact taken_of_dated_pattern hminute (by rintro c ⟨⟩) h
  · cases h

theorem splitBytes?_taken {count : Nat} {front : List Char}
    (h : splitBytes? count cs = some (front, rest)) : rest <:+ cs := by
  induction count, cs using splitBytes?.induct generalizing front rest with
  | case1 cs =>
    rw [splitBytes?] at h
    cases h
    exact List.suffix_rfl
  | case2 count =>
    rw [splitBytes?] at h
    cases h
  | case3 count c left hsize ih =>
    rw [splitBytes?, if_pos hsize] at h
    obtain ⟨⟨a, b⟩, hsplit, heq⟩ := Option.map_eq_some_iff.1 h
    cases heq
    exact (ih hsplit).trans (List.suffix_cons _ _)
  | case4 count c left hsize =>
    rw [splitBytes?, if_neg hsize] at h
    cases h

theorem taken_of_dateColonTime? {ts : Int} (h : dateColonTime? cs = some ts) :
    EndsInTime cs ∧ fitsInt64 ts = true := by
  unfold dateColonTime? at h
  obtain ⟨⟨front, left⟩, hsplit, h⟩ := Option.bind_eq_some_iff.1 h
  obtain ⟨time, hcolon, h⟩ := Option.bind_eq_some_iff.1 h
  obtain ⟨d, hd, h⟩ := Option.bind_eq_some_iff.1 h
  obtain ⟨s, hclock, h⟩ := Option.bind_eq_some_iff.1 h
  obtain rfl : d.moment s = ts := Option.some.inj h
  obtain ⟨r, -, hdate⟩ := Option.bind_eq_some_iff.1 hd
  obtain ⟨hends, hlow, hhigh⟩ := taken_of_clock? hclock
  exact ⟨hends.of_suffix ((readChar_taken hcolon).trans (splitBytes?_taken hsplit)),
    (Reading.isKept_of_date? hdate).fitsInt64 ⟨by omega, by omega⟩⟩

theorem taken_of_timeOnDayOf? {base ts : Int} (h : timeOnDayOf? base cs = some ts) :
    EndsInTime cs ∧ fitsInt64 ts = true := by
  unfold timeOnDayOf? at h
  obtain ⟨s, hclock, h⟩ := Option.bind_eq_some_iff.1 h
  obtain ⟨hends, hlow, hhigh⟩ := taken_of_clock? hclock
  split at h <;> cases h
  next hdate =>
  have hkept : IsKept (dayOf base) := by simpa [hasDate, IsKept] using hdate
  exact ⟨hends, hkept.fitsInt64 ⟨by omega, by omega⟩⟩

/-- One after the other, the forms that are no distance. -/
theorem taken_of_other_forms {base ts : Int}
    (h : (dateTTime? cs <|> dateColonTime? cs <|> timeOnDayOf? base cs) = some ts) :
    EndsInTime cs ∧ fitsInt64 ts = true := by
  simp only [Option.orElse_eq_orElse, Option.orElse_eq_or, Option.or_eq_some_iff] at h
  rcases h with h | ⟨-, h | ⟨-, h⟩⟩
  · exact taken_of_dateTTime? h
  · exact taken_of_dateColonTime? h
  · exact taken_of_timeOnDayOf? h

theorem fitsInt64_of_evaluate {base ts : Int} (h : evaluate base cs = .ok ts) :
    fitsInt64 ts = true := by
  unfold evaluate at h
  split at h
  · cases h
  · split at h
    · split at h <;> cases h
      next hread => exact fitsInt64_of_readInt64 hread
    · split at h
      · split at h <;> cases h
        assumption
      · split at h <;> cases h
        next hother => exact (taken_of_other_forms hother).2

end TimeExpression

open TimeExpression

theorem parseTime_eq_ok_iff {input : String} {base ts : Int} : parseTime input base = .ok ts ↔
    evaluate base (Text.trimChars input.toList) = .ok ts := by
  simp only [parseTime]
  split <;> simp [*]

/-- What is named is a moment of 64 bits. -/
theorem fitsInt64_of_parseTime {input : String} {base ts : Int} (h : parseTime input base = .ok ts) :
    fitsInt64 ts = true :=
  fitsInt64_of_evaluate (parseTime_eq_ok_iff.1 h)

end SnapshotViewer
