import Mathlib.Logic.ExistsUnique
import SnapshotViewer.Proofs.Time.RoundTrip

/-!
# Time expressions from every moment

The moment from which an expression is seen comes in twice: a distance is counted from it, and a
clock time is put on its day.  Which of the two an expression is, or whether it is neither, is
settled by its text.  So every text has one meaning, which says from every moment that has a date
what the text names there, and no two meanings say the same.

A day begins at a multiple of 86400 also before 1970, for a moment is divided by the length of a day
downward.

## Main definitions

* `Meaning` — what an expression says, whichever moment it is seen from.
* `TimeExpression.meaning` — what a text says.
* `ClockTime` — an hour and a minute of a day, perhaps with a second.

## Main statements

* `Meaning.eq_of_seenFrom` — different meanings differ from some moment.
* `TimeExpression.evaluate_eq` — a text is read by its meaning.
* `TimeExpression.meaning_clockTime` — a clock time means its second of the day.
* `parseTime_has_one_meaning` — every text has one meaning, and a clock time stays on the day.
-/

namespace SnapshotViewer

variable {cs : List Char} {base : Int}

/-! ## Meanings -/

/-- What an expression says, whichever moment it is seen from. -/
inductive Meaning where
  /-- The same moment, or the same fault, from everywhere. -/
  | fixed (result : Except TimeFault Int)
  /-- So many seconds from there. -/
  | distance (seconds : Int)
  /-- A second of the day. -/
  | clock (second : Int)

namespace Meaning

/-- What is named, seen from the moment `base`. -/
def seenFrom (base : Int) : Meaning → Except TimeFault Int
  | fixed result => result
  | distance seconds =>
    if fitsInt64 (base + seconds) then .ok (base + seconds) else .error .overflow
  | clock second => .ok (86400 * (base / 86400) + second)

/-- A distance is a number of 64 bits, and a second of the day is one. -/
def Sound : Meaning → Prop
  | fixed _ => True
  | distance seconds => fitsInt64 seconds = true
  | clock second => IsClock second

/-- Whether what is named moves on with the moment, second by second. -/
def movesOn : Meaning → Bool
  | distance _ => true
  | _ => false

/-- Whether what is named is another moment on the following day. -/
def changesDaily : Meaning → Bool
  | fixed _ => false
  | _ => true

theorem seenFrom_zero {m : Meaning} (hm : m.Sound) : m.seenFrom 0 =
    match m with
    | fixed result => result
    | distance seconds => .ok seconds
    | clock second => .ok second := by
  cases m with
  | fixed result => rfl
  | distance seconds =>
    have hfits : fitsInt64 seconds = true := hm
    simp [seenFrom, hfits]
  | clock second => simp [seenFrom]

/-- A distance is what a second makes a difference to. -/
theorem seenFrom_one_iff {m : Meaning} (hm : m.Sound) :
    m.seenFrom 1 = m.seenFrom 0 ↔ m.movesOn = false := by
  rw [seenFrom_zero hm]
  cases m with
  | fixed result => simp [seenFrom, movesOn]
  | distance seconds =>
    simp only [seenFrom, movesOn]
    split
    · simp only [Except.ok.injEq, Bool.true_eq_false, iff_false]
      omega
    · simp
  | clock second => simp [seenFrom, movesOn]

/-- A day makes a difference to distances and clock times. -/
theorem seenFrom_day_iff {m : Meaning} (hm : m.Sound) :
    m.seenFrom 86400 = m.seenFrom 0 ↔ m.changesDaily = false := by
  rw [seenFrom_zero hm]
  cases m with
  | fixed result => simp [seenFrom, changesDaily]
  | distance seconds =>
    simp only [seenFrom, changesDaily]
    split
    · simp only [Except.ok.injEq, Bool.true_eq_false, iff_false]
      omega
    · simp
  | clock second =>
    simp only [seenFrom, changesDaily, Except.ok.injEq, Bool.true_eq_false, iff_false]
    omega

/-- Different meanings differ from the first moment of 1970, a second later or a day later. -/
theorem eq_of_seenFrom {m m' : Meaning} (hm : m.Sound) (hm' : m'.Sound)
    (h : ∀ base, hasDate base = true → m.seenFrom base = m'.seenFrom base) : m = m' := by
  have hzero := h 0 (by decide)
  have hmoves : m.movesOn = m'.movesOn := by
    have hiff := seenFrom_one_iff hm
    rw [h 1 (by decide), hzero, seenFrom_one_iff hm'] at hiff
    simpa using hiff.symm
  have hdaily : m.changesDaily = m'.changesDaily := by
    have hiff := seenFrom_day_iff hm
    rw [h 86400 (by decide), hzero, seenFrom_day_iff hm'] at hiff
    simpa using hiff.symm
  rw [seenFrom_zero hm, seenFrom_zero hm'] at hzero
  cases m <;> cases m' <;> simp_all [movesOn, changesDaily]

end Meaning

namespace TimeExpression

/-- What a text says. -/
def meaning (cs : List Char) : Meaning :=
  if cs.isEmpty then .fixed (.error .empty)
  else if cs.all Char.isDigit then
    match readInt64 cs with
    | .ok n => .fixed (.ok n)
    | .error _ => .fixed (.error .tooLarge)
  else
    match distance? cs with
    | some d => .distance d
    | none =>
      match dateTTime? cs <|> dateColonTime? cs with
      | some ts => .fixed (.ok ts)
      | none =>
        match clock? cs with
        | some s => .clock s
        | none => .fixed (.error .unrecognised)

theorem timeOnDayOf?_eq (hbase : hasDate base = true) :
    timeOnDayOf? base cs = (clock? cs).map fun s => 86400 * (base / 86400) + s := by
  cases hclock : clock? cs with
  | none => simp [timeOnDayOf?, hclock]
  | some s => simp [timeOnDayOf?, hclock, hbase, dayOf, Int.mul_comm]

/-- From a moment that has a date a text is read by its meaning. -/
theorem evaluate_eq (cs : List Char) (hbase : hasDate base = true) :
    evaluate base cs = (meaning cs).seenFrom base := by
  unfold evaluate meaning
  split
  · rfl
  · split
    · cases readInt64 cs with
      | ok n => rfl
      | error fault => rfl
    · cases distance? cs with
      | some d => rfl
      | none =>
        simp only [Option.orElse_eq_orElse, Option.orElse_eq_or, ← Option.or_assoc]
        cases (dateTTime? cs).or (dateColonTime? cs) with
        | some ts => rfl
        | none =>
          rw [Option.none_or, timeOnDayOf?_eq hbase]
          cases clock? cs with
          | some s => rfl
          | none => rfl

theorem fitsInt64_of_distance? {d : Int} (h : distance? cs = some d) : fitsInt64 d = true := by
  have hwithin : ∃ n, within64 n = some d := by
    unfold distance? at h
    split at h <;> simp only [bind, Option.bind_eq_some_iff] at h <;>
      obtain ⟨_, -, _, -, _, -, _, -, n, -, hn⟩ := h <;> exact ⟨_, hn⟩
  obtain ⟨n, hn⟩ := hwithin
  obtain ⟨hfits, rfl⟩ := within64_eq_some_iff.1 hn
  exact hfits

theorem sound_meaning (cs : List Char) : (meaning cs).Sound := by
  unfold meaning
  split
  · trivial
  · split
    · split <;> trivial
    · split
      · next hdistance => exact fitsInt64_of_distance? hdistance
      · split
        · trivial
        · split
          · next hclock => exact (taken_of_clock? hclock).2
          · trivial

end TimeExpression

/-! ## Clock times -/

/-- An hour and a minute of a day, perhaps with a second. -/
structure ClockTime where
  hour : Fin 24
  minute : Fin 60
  second : Option (Fin 60) := none
deriving DecidableEq, Repr

namespace ClockTime

/-- Hour, minute and second, two digits for each. -/
def text (t : ClockTime) : List Char :=
  padded 2 t.hour ++ ':' :: padded 2 t.minute ++
    match t.second with
    | none => []
    | some s => ':' :: padded 2 s

/-- The second of the day. -/
def seconds (t : ClockTime) : Int := 3600 * t.hour + 60 * t.minute + (t.second.getD 0 : Fin 60)

theorem isClock_seconds (t : ClockTime) : IsClock t.seconds := by
  simp only [IsClock, seconds]
  omega

/-- A clock time is written like the second of the day. -/
theorem text_eq (t : ClockTime) :
    t.text = if t.second.isSome then clockText t.seconds else minuteText t.seconds := by
  obtain ⟨hour, minute, second⟩ := t
  cases second with
  | none =>
    have hhour : (seconds ⟨hour, minute, none⟩ / 3600).toNat = hour := by
      simp only [seconds, Option.getD_none]
      omega
    have hminute : (seconds ⟨hour, minute, none⟩ / 60 % 60).toNat = minute := by
      simp only [seconds, Option.getD_none]
      omega
    simp [text, minuteText, hhour, hminute]
  | some s =>
    have hhour : (seconds ⟨hour, minute, some s⟩ / 3600).toNat = hour := by
      simp only [seconds, Option.getD_some]
      omega
    have hminute : (seconds ⟨hour, minute, some s⟩ / 60 % 60).toNat = minute := by
      simp only [seconds, Option.getD_some]
      omega
    have hsecond : (seconds ⟨hour, minute, some s⟩ % 60).toNat = s := by
      simp only [seconds, Option.getD_some]
      omega
    simp [text, clockText, hhour, hminute, hsecond]

theorem clock?_text (t : ClockTime) : TimeExpression.clock? t.text = some t.seconds := by
  rw [text_eq]
  split
  · exact TimeExpression.clock?_clockText t.isClock_seconds
  · next hsecond =>
    have hnone : t.second = none := by simpa using hsecond
    have hwhole : t.seconds - t.seconds % 60 = t.seconds := by
      simp only [seconds, hnone, Option.getD_none]
      omega
    rw [TimeExpression.clock?_minuteText t.isClock_seconds, hwhole]

theorem mem_text {t : ClockTime} {c : Char} (h : c ∈ t.text) : c.isDigit = true ∨ c = ':' := by
  rw [text_eq] at h
  split at h
  · exact mem_clockText h
  · exact mem_minuteText h

theorem length_text_le (t : ClockTime) : t.text.length ≤ 8 := by
  rw [text_eq]
  split
  · exact Nat.le_of_eq (length_clockText t.isClock_seconds)
  · rw [length_minuteText t.isClock_seconds]
    decide

/-- A clock time begins with a digit and is not made of digits alone. -/
theorem exists_text_eq (t : ClockTime) :
    ∃ c rest, t.text = c :: rest ∧ c.isDigit = true ∧ ':' ∈ rest := by
  obtain ⟨c, ds, hdigits⟩ := List.exists_cons_of_ne_nil (padded_ne_nil 2 t.hour)
  have hc : c.isDigit = true := isDigit_of_mem_padded (hdigits ▸ List.mem_cons_self)
  exact ⟨c, _, by rw [text, hdigits]; rfl, hc, by simp⟩

end ClockTime

namespace TimeExpression

/-- A text that is too short has no such front. -/
theorem splitBytes?_eq_none {count : Nat} (hcs : ∀ c ∈ cs, IsTimeChar c)
    (hlength : cs.length < count) : splitBytes? count cs = none := by
  induction cs generalizing count with
  | nil =>
    obtain ⟨count, rfl⟩ := Nat.exists_eq_succ_of_ne_zero (Nat.ne_of_gt hlength)
    rw [splitBytes?]
  | cons c cs ih =>
    rw [List.length_cons] at hlength
    obtain ⟨count, rfl⟩ := Nat.exists_eq_succ_of_ne_zero (show count ≠ 0 by omega)
    have hsize := (hcs c List.mem_cons_self).utf8Size_eq
    have hrest : splitBytes? count cs = none :=
      ih (fun x hx => hcs x (List.mem_cons_of_mem c hx)) (by omega)
    rw [splitBytes?, hsize, if_pos (by omega), Nat.add_sub_cancel, hrest]
    rfl

/-- A clock time has none of the forms that are tried before its own. -/
theorem meaning_clockTime (t : ClockTime) : meaning t.text = .clock t.seconds := by
  obtain ⟨c, rest, htext, hc, hcolon⟩ := t.exists_text_eq
  have hempty : t.text.isEmpty = false := by simp [htext]
  have hall : t.text.all Char.isDigit = false := by
    refine Bool.eq_false_iff.2 fun hall => ?_
    have hdigit := List.all_eq_true.1 hall ':' (htext ▸ List.mem_cons_of_mem c hcolon)
    exact absurd hdigit (by decide)
  have hdistance : distance? t.text = none := by
    rw [htext]
    refine distance?_eq_none_of_unsigned ?_ ?_
    · rintro rfl
      exact absurd hc (by decide)
    · rintro rfl
      exact absurd hc (by decide)
  have hT : dateTTime? t.text = none := by
    have hnotMem : 'T' ∉ t.text := fun h => absurd (ClockTime.mem_text h) (by decide)
    rw [dateTTime?, if_neg (by simpa using hnotMem)]
  have hcolonTime : dateColonTime? t.text = none := by
    have hchars : ∀ x ∈ t.text, IsTimeChar x := fun x hx =>
      (ClockTime.mem_text hx).imp_right fun h => by simp [h]
    have hsplit : splitBytes? 10 t.text = none :=
      splitBytes?_eq_none hchars (Nat.lt_of_le_of_lt t.length_text_le (by decide))
    rw [dateColonTime?, hsplit]
    rfl
  simp only [meaning, hempty, hall, hdistance, hT, hcolonTime, t.clock?_text]
  rfl

end TimeExpression

open TimeExpression

/-! ## Expressions with blanks around them -/

theorem parseTime_eq (input : String) (base : Int) : parseTime input base =
    (evaluate base (Text.trimChars input.toList)).mapError (TimeError.mk (Text.trim input)) := by
  simp only [parseTime]
  cases evaluate base (Text.trimChars input.toList) with
  | ok ts => rfl
  | error fault => rfl

/-- Every text has one meaning, by which it is read from all moments that have a date: what it names
is the same from everywhere, or lies in a fixed distance, or at a fixed second of the day.  A clock
time means its second of the day, and what it names lies on the day of the moment. -/
theorem parseTime_has_one_meaning (input : String) :
    (∃! m : Meaning, m.Sound ∧ ∀ base, hasDate base = true →
      parseTime input base = (m.seenFrom base).mapError (TimeError.mk (Text.trim input))) ∧
    ∀ t : ClockTime, Text.trimChars input.toList = t.text → ∀ base, hasDate base = true →
      parseTime input base = .ok (86400 * (base / 86400) + t.seconds) ∧
        dayOf (86400 * (base / 86400) + t.seconds) = dayOf base := by
  have hread : ∀ base, hasDate base = true → parseTime input base =
      ((meaning (Text.trimChars input.toList)).seenFrom base).mapError
        (TimeError.mk (Text.trim input)) := by
    intro base hbase
    rw [parseTime_eq, evaluate_eq _ hbase]
  refine ⟨⟨meaning (Text.trimChars input.toList), ⟨sound_meaning _, hread⟩, ?_⟩, ?_⟩
  · rintro m ⟨hm, hseen⟩
    refine Meaning.eq_of_seenFrom hm (sound_meaning _) fun base hbase => ?_
    exact mapError_inj (fun fault fault' h => (TimeError.mk.inj h).2)
      ((hseen base hbase).symm.trans (hread base hbase))
  · intro t ht base hbase
    refine ⟨?_, ?_⟩
    · rw [hread base hbase, ht, meaning_clockTime]
      rfl
    · obtain ⟨hlow, hhigh⟩ := t.isClock_seconds
      simp only [dayOf]
      omega

/-- A second before 1970 it is still the day before. -/
theorem parseTime_has_one_meaning_before_1970 :
    Text.trimChars " 23:59 ".toList = ClockTime.text ⟨23, 59, none⟩ ∧ hasDate (-1) = true ∧
    parseTime " 23:59 " (-1) = .ok (-60) ∧ dayOf (-60) = dayOf (-1) := by
  have htext : Text.trimChars " 23:59 ".toList = ClockTime.text ⟨23, 59, none⟩ := by decide
  have hdate : hasDate (-1) = true := by decide
  exact ⟨htext, hdate, (parseTime_has_one_meaning " 23:59 ").2 _ htext (-1) hdate⟩

end SnapshotViewer
