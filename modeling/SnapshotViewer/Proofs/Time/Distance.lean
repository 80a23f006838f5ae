import SnapshotViewer.Proofs.Time.Reader

/-!
# Distances from a moment

A text that ends in the letter of a unit names a moment only as a distance, because every other form
ends in a digit or in the `Z` of universal time.  A distance is a sign, digits and the unit, or two
signs in front of the digits: what stands behind the sign is read as a number, which may have a sign
of its own.  With two minus signs the distance leads forward.

## Main definitions

* `TimeExpression.SignedDigits` — what stands in front of the unit.

## Main statements

* `TimeExpression.evaluate_of_unit` — behind the letter of a unit a text is a distance or nothing.
* `TimeExpression.distance?_eq_some_iff` — the distances in a unit.
* `parseTime_of_unit` — the moments that such texts name, and on which side they lie.
-/

namespace SnapshotViewer

variable {cs : List Char}

namespace TimeExpression

/-! ## Texts that end in the letter of a unit -/

section Unit
variable {u : Char} {scale : Int}

theorem eq_of_unitSeconds? (h : unitSeconds? u = some scale) :
    u = 's' ∨ u = 'm' ∨ u = 'h' ∨ u = 'd' ∨ u = 'w' := by
  refine Decidable.byContradiction fun hu => ?_
  simp only [not_or] at hu
  simp [unitSeconds?, hu] at h

theorem unitSeconds?_pos (h : unitSeconds? u = some scale) : 0 < scale := by
  have hpos : (unitSeconds? u).all (0 < ·) = true := by
    rcases eq_of_unitSeconds? h with rfl | rfl | rfl | rfl | rfl <;> rfl
  simpa [h] using hpos

theorem not_endsInTime_of_unit (hunit : unitSeconds? u = some scale)
    (hlast : cs.getLast? = some u) : ¬ EndsInTime cs := by
  rintro ⟨front, c, rfl, hc⟩
  obtain rfl : c = u := by simpa using hlast
  have hletter : ¬ (c.isDigit = true ∨ c = 'Z' ∨ c = 'z') := by
    rcases eq_of_unitSeconds? hunit with rfl | rfl | rfl | rfl | rfl <;> decide
  exact hletter hc

/-- Behind the letter of a unit a text is a distance or nothing. -/
theorem evaluate_of_unit (hunit : unitSeconds? u = some scale) (hlast : cs.getLast? = some u)
    (base : Int) : evaluate base cs =
      match distance? cs with
      | some d => if fitsInt64 (base + d) then .ok (base + d) else .error .overflow
      | none => .error .unrecognised := by
  have hend := not_endsInTime_of_unit hunit hlast
  have hempty : cs.isEmpty = false := by
    cases cs with
    | nil => cases hlast
    | cons => rfl
  have hall : cs.all Char.isDigit = false := by
    refine Bool.eq_false_iff.2 fun hall => hend ?_
    obtain ⟨front, rfl⟩ := List.getLast?_eq_some_iff.1 hlast
    exact ⟨front, u, rfl, .inl (List.all_eq_true.1 hall u (by simp))⟩
  have hother : (dateTTime? cs <|> dateColonTime? cs <|> timeOnDayOf? base cs) = none :=
    Option.eq_none_iff_forall_ne_some.2 fun ts h => hend (taken_of_other_forms h).1
  simp only [evaluate, hempty, hall, hother]
  rfl

end Unit

/-! ## What is written in front of the unit -/

/-- A sign, perhaps a second one, and digits. -/
structure SignedDigits where
  sign : List Char
  inner : List Char
  digits : List Char
  isSign : sign = ['+'] ∨ sign = ['-']
  isInner : IsSigns inner
  nonempty : digits ≠ []
  isDigit : ∀ c ∈ digits, c.isDigit = true

namespace SignedDigits

/-- What is written. -/
def text (w : SignedDigits) : List Char := w.sign ++ w.inner ++ w.digits

/-- The number of the digits. -/
def value (w : SignedDigits) : Nat := Nat.ofDigitChars 10 w.digits 0

/-- Backward is minus one: the direction of a minus sign, unless the second sign turns it round. -/
def direction (w : SignedDigits) : Int := signFactor w.sign * signFactor w.inner

/-- The seconds of the distance. -/
def seconds (w : SignedDigits) (scale : Int) : Int := w.direction * (w.value * scale)

/-- With its own sign the number of seconds is within the bounds, and so is the distance. -/
def Fits (w : SignedDigits) (scale : Int) : Prop :=
  fitsInt64 (signFactor w.inner * (w.value * scale)) = true ∧ fitsInt64 (w.seconds scale) = true

theorem length_sign (w : SignedDigits) : w.sign.length = 1 := by
  rcases w.isSign with h | h <;> rw [h] <;> rfl

theorem not_isDigit_of_mem {w : SignedDigits} {c : Char} (h : c ∈ w.sign ++ w.inner) :
    c.isDigit = false := by
  rcases List.mem_append.1 h with h | h
  · exact not_isDigit_of_mem_signs (.inr w.isSign) h
  · exact not_isDigit_of_mem_signs w.isInner h

theorem dropWhile_text (w : SignedDigits) : w.text.dropWhile (fun c => !c.isDigit) = w.digits := by
  rw [text, List.dropWhile_append_of_pos fun c hc => by simp [not_isDigit_of_mem hc]]
  obtain ⟨c, ds, hdigits⟩ := List.exists_cons_of_ne_nil w.nonempty
  have hc : c.isDigit = true := w.isDigit c (hdigits ▸ List.mem_cons_self)
  simp [hdigits, hc]

/-- The digits are what no sign stands in, so a text is written in one way. -/
theorem eq_of_text_eq {v w : SignedDigits} (h : v.text = w.text) : v = w := by
  have hdigits : v.digits = w.digits := by rw [← v.dropWhile_text, h, w.dropWhile_text]
  have hsigns : v.sign ++ v.inner = w.sign ++ w.inner := by
    rw [text, text, hdigits] at h
    exact List.append_cancel_right h
  have hlength : v.sign.length = w.sign.length := by rw [v.length_sign, w.length_sign]
  obtain ⟨hsign, hinner⟩ := List.append_inj hsigns hlength
  cases v
  cases w
  simp_all

/-- The number with its own sign, the unit and the sign in front, in the order of the reading. -/
theorem seconds_eq (w : SignedDigits) (scale : Int) :
    w.seconds scale = signFactor w.inner * w.value * scale * signFactor w.sign := by
  simp only [seconds, direction]
  ac_rfl

/-- The seconds lie in the direction. -/
theorem seconds_sign (w : SignedDigits) {scale : Int} (h : 0 < scale) :
    (w.direction = -1 → w.seconds scale ≤ 0) ∧ (w.direction = 1 → 0 ≤ w.seconds scale) := by
  have hscaled : 0 ≤ (w.value : Int) * scale :=
    Int.mul_nonneg (Int.natCast_nonneg _) (Int.le_of_lt h)
  refine ⟨fun hdirection => ?_, fun hdirection => ?_⟩
  · rw [seconds, hdirection]
    omega
  · rw [seconds, hdirection]
    omega

end SignedDigits

theorem within64_eq_some_iff {n m : Int} : within64 n = some m ↔ fitsInt64 n = true ∧ n = m := by
  simp [within64]

theorem distance?_eq_none_of_unsigned {c : Char} (hplus : c ≠ '+') (hminus : c ≠ '-') :
    distance? (c :: cs) = none := by
  unfold distance?
  split
  · next heq => exact absurd (List.cons.inj heq).1 hminus
  · next heq => exact absurd (List.cons.inj heq).1 hplus
  · rfl

section Signed
variable {sign front : List Char} {u : Char} {scale d : Int}

theorem distance?_signed (hsign : sign = ['+'] ∨ sign = ['-']) (hunit : unitSeconds? u = some scale) :
    distance? (sign ++ (front ++ [u])) =
      (readInt64 front).toOption.bind fun n => (within64 (n * scale)).bind fun m =>
        within64 (m * signFactor sign) := by
  rcases hsign with rfl | rfl <;> simp [distance?, signFactor, hunit]

/-- The number behind the sign is read with a sign of its own. -/
theorem exists_of_distance?_signed (hsign : sign = ['+'] ∨ sign = ['-'])
    (hunit : unitSeconds? u = some scale) (h : distance? (sign ++ (front ++ [u])) = some d) :
    ∃ w : SignedDigits, sign ++ front = w.text ∧ w.Fits scale ∧ w.seconds scale = d := by
  rw [distance?_signed hsign hunit] at h
  simp only [Option.bind_eq_some_iff, within64_eq_some_iff, toOption_eq_some_iff,
    readInt64_eq_ok_iff] at h
  obtain ⟨n, ⟨inner, digits, rfl, hinner, hne, hdigits, rfl, -⟩, m, ⟨hscaled, rfl⟩, hfits, rfl⟩ := h
  let w : SignedDigits := ⟨sign, inner, digits, hsign, hinner, hne, hdigits⟩
  refine ⟨w, ?_, ⟨?_, by rwa [w.seconds_eq]⟩, w.seconds_eq scale⟩
  · simp only [SignedDigits.text, w, List.append_assoc]
  · rwa [Int.mul_assoc] at hscaled

theorem SignedDigits.distance?_text {w : SignedDigits} (hunit : unitSeconds? u = some scale)
    (h : w.Fits scale) : distance? (w.text ++ [u]) = some (w.seconds scale) := by
  obtain ⟨hscaled, hfits⟩ := h
  rw [← Int.mul_assoc] at hscaled
  have hread : readInt64 (w.inner ++ w.digits) = .ok (signFactor w.inner * w.value) :=
    readInt64_eq_ok_iff.2 ⟨w.inner, w.digits, rfl, w.isInner, w.nonempty, w.isDigit, rfl,
      fitsInt64_of_mul (unitSeconds?_pos hunit) hscaled⟩
  rw [text, List.append_assoc, List.append_assoc, ← List.append_assoc w.inner,
    distance?_signed w.isSign hunit, toOption_eq_some_iff.2 hread, Option.bind_some,
    within64_eq_some_iff.2 ⟨hscaled, rfl⟩, Option.bind_some, ← w.seconds_eq,
    within64_eq_some_iff.2 ⟨hfits, rfl⟩]

end Signed

/-- The distances in a unit are one or two signs and digits in front of it. -/
theorem distance?_eq_some_iff {front : List Char} {u : Char} {scale d : Int}
    (hunit : unitSeconds? u = some scale) : distance? (front ++ [u]) = some d ↔
      ∃ w : SignedDigits, front = w.text ∧ w.Fits scale ∧ w.seconds scale = d := by
  constructor
  · intro h
    cases front with
    | nil =>
      obtain ⟨hplus, hminus⟩ : u ≠ '+' ∧ u ≠ '-' := by
        rcases eq_of_unitSeconds? hunit with rfl | rfl | rfl | rfl | rfl <;> decide
      rw [List.nil_append, distance?_eq_none_of_unsigned hplus hminus] at h
      cases h
    | cons c front =>
      by_cases hplus : c = '+'
      · subst hplus
        exact exists_of_distance?_signed (.inl rfl) hunit h
      · by_cases hminus : c = '-'
        · subst hminus
          exact exists_of_distance?_signed (.inr rfl) hunit h
        · rw [List.cons_append, distance?_eq_none_of_unsigned hplus hminus] at h
          cases h
  · rintro ⟨w, rfl, hfits, rfl⟩
    exact w.distance?_text hunit hfits

theorem evaluate_of_unit_eq_ok_iff {u : Char} {scale base ts : Int}
    (hunit : unitSeconds? u = some scale) (hlast : cs.getLast? = some u) :
    evaluate base cs = .ok ts ↔ ∃ w : SignedDigits, cs = w.text ++ [u] ∧ w.Fits scale ∧
      fitsInt64 (base + w.seconds scale) = true ∧ base + w.seconds scale = ts := by
  rw [evaluate_of_unit hunit hlast]
  constructor
  · intro h
    obtain ⟨front, rfl⟩ := List.getLast?_eq_some_iff.1 hlast
    split at h
    · next d hd =>
      obtain ⟨w, rfl, hfits, rfl⟩ := (distance?_eq_some_iff hunit).1 hd
      split at h <;> cases h
      next hbounds => exact ⟨w, rfl, hfits, hbounds, rfl⟩
    · cases h
  · rintro ⟨w, rfl, hfits, hbounds, rfl⟩
    rw [w.distance?_text hunit hfits]
    exact if_pos hbounds

end TimeExpression

open TimeExpression

/-! ## Moments -/

/-- A text that ends in the letter of a unit names a moment exactly if a sign, perhaps a second
one, and digits stand in front of it and the seconds and the moment are within the bounds.  The
moment lies in the direction of the sign, unless the second sign is a minus: that turns it round. -/
theorem parseTime_of_unit {input : String} {u : Char} {scale : Int}
    (hunit : unitSeconds? u = some scale)
    (hlast : (Text.trimChars input.toList).getLast? = some u) (base ts : Int) :
    (parseTime input base = .ok ts ↔
      ∃ w : SignedDigits, Text.trimChars input.toList = w.text ++ [u] ∧ w.Fits scale ∧
        fitsInt64 (base + w.seconds scale) = true ∧ base + w.seconds scale = ts) ∧
    (parseTime input base = .ok ts → ∀ w : SignedDigits,
      Text.trimChars input.toList = w.text ++ [u] →
        (w.direction = -1 → ts ≤ base) ∧ (w.direction = 1 → base ≤ ts)) := by
  rw [parseTime_eq_ok_iff]
  refine ⟨evaluate_of_unit_eq_ok_iff hunit hlast, fun h w htext => ?_⟩
  obtain ⟨v, htext', -, -, rfl⟩ := (evaluate_of_unit_eq_ok_iff hunit hlast).1 h
  obtain rfl : v = w :=
    SignedDigits.eq_of_text_eq (List.append_cancel_right (htext'.symm.trans htext))
  obtain ⟨hback, hforward⟩ := v.seconds_sign (unitSeconds?_pos hunit)
  refine ⟨fun hdirection => ?_, fun hdirection => ?_⟩
  · have hseconds := hback hdirection
    omega
  · have hseconds := hforward hdirection
    omega

/-- Ninety seconds back. -/
theorem parseTime_of_unit_seconds :
    unitSeconds? 's' = some 1 ∧ (Text.trimChars " -90s".toList).getLast? = some 's' ∧
    parseTime " -90s" 1000 = .ok 910 := by
  have hunit : unitSeconds? 's' = some 1 := rfl
  have hlast : (Text.trimChars " -90s".toList).getLast? = some 's' := by decide
  let w : SignedDigits := ⟨['-'], [], ['9', '0'], .inr rfl, .inl rfl, by decide, by simp⟩
  have htext : Text.trimChars " -90s".toList = w.text ++ ['s'] := by decide
  exact ⟨hunit, hlast, (parseTime_of_unit hunit hlast 1000 910).1.2
    ⟨w, htext, ⟨by decide, by decide⟩, by decide, by decide⟩⟩

/-- The text begins with a minus sign and is not one sign with digits and a unit behind it.  It
names a moment, and a later one. -/
theorem parseTime_forward_of_two_minus :
    Text.trimChars "--5s".toList = ['-', '-', '5', 's'] ∧
    (¬ ∃ (sign : Char) (digits : List Char), (∀ c ∈ digits, c.isDigit = true) ∧
      Text.trimChars "--5s".toList = sign :: digits ++ ['s']) ∧
    parseTime "--5s" 1000 = .ok 1005 := by
  have htrim : Text.trimChars "--5s".toList = ['-', '-', '5', 's'] := by decide
  refine ⟨htrim, ?_, rfl⟩
  rintro ⟨sign, digits, hdigits, htext⟩
  have hback : ['-', '5'] ++ ['s'] = digits ++ ['s'] := (List.cons.inj (htrim.symm.trans htext)).2
  have hminus : ['-', '5'] = digits := List.append_cancel_right hback
  exact absurd (hdigits '-' (hminus ▸ List.mem_cons_self)) (by decide)

end SnapshotViewer
