import SnapshotViewer.Proofs.Snapshot.Identity

/-!
# Agreement of values

Two values agree when they are the same or are shown alike.  Values that are the same are shown
alike, but for the two zeros among the doubles, which are one number and are shown as `0` and `-0`.
So what agrees with one zero need not agree with the other: agreement never holds of null, holds of
every other value and itself, can be turned round, and is passed on except from one zero to a value
that is shown like the other one.  Without the negative zero it is an equivalence.

## Main definitions

* `IsZero`, `IsNegativeZero` — the zeros among the doubles.
* `OppositeZeros` — the two zeros.

## Main statements

* `agrees_iff_display` — values agree when they are shown alike or are the two zeros.
* `equivalence_agrees` — without null and the negative zero it is an equivalence.
* `agrees_equivalence` — what holds of it everywhere, and where it is passed on.
* `agrees_not_passed_on` — three numbers of documents where it is not.
-/

namespace SnapshotViewer

/-- The zeros are shown with their sign. -/
theorem Binary64.plain_of_isZero {x : Binary64} (h : x.isZero = true) :
    x.plain = if x.negative then "-0" else "0" := by
  rw [plain, shortest, if_pos h, signed]
  cases x.negative <;> rfl

namespace Scalar

/-- A double that is zero. -/
def IsZero (a : Scalar) : Prop := ∃ x : Binary64, a = .float x ∧ x.isZero = true

/-- The zero with a minus sign. -/
def IsNegativeZero (a : Scalar) : Prop :=
  ∃ x : Binary64, a = .float x ∧ x.isZero = true ∧ x.negative = true

/-- One of the values is zero and the other the zero of the other sign. -/
def OppositeZeros (a b : Scalar) : Prop :=
  ∃ x y : Binary64, a = .float x ∧ b = .float y ∧ x.isZero = true ∧ y.isZero = true ∧
    x.negative ≠ y.negative

variable {a b c : Scalar}

/-! ## The two zeros -/

namespace OppositeZeros

theorem symm (h : OppositeZeros a b) : OppositeZeros b a := by
  obtain ⟨x, y, ha, hb, hx, hy, hsign⟩ := h
  exact ⟨y, x, hb, ha, hy, hx, hsign.symm⟩

theorem isZero_left (h : OppositeZeros a b) : a.IsZero := by
  obtain ⟨x, _, ha, _, hx, _⟩ := h
  exact ⟨x, ha, hx⟩

theorem isZero_right (h : OppositeZeros a b) : b.IsZero := h.symm.isZero_left

theorem isNegativeZero (h : OppositeZeros a b) : a.IsNegativeZero ∨ b.IsNegativeZero := by
  obtain ⟨x, y, ha, hb, hx, hy, hsign⟩ := h
  cases hneg : x.negative with
  | true => exact .inl ⟨x, ha, hx, hneg⟩
  | false => exact .inr ⟨y, hb, hy, by simpa [hneg] using hsign⟩

/-- The two zeros are shown differently. -/
theorem display_ne (h : OppositeZeros a b) : a.display ≠ b.display := by
  obtain ⟨x, y, rfl, rfl, hx, hy, hsign⟩ := h
  rw [display, display, Binary64.plain_of_isZero hx, Binary64.plain_of_isZero hy]
  cases hneg : x.negative <;> cases hneg' : y.negative <;> simp_all

end OppositeZeros

/-- Two zeros have one sign, and are shown alike, or they are the two zeros. -/
theorem display_eq_or_oppositeZeros (ha : a.IsZero) (hb : b.IsZero) :
    a.display = b.display ∨ OppositeZeros a b := by
  obtain ⟨x, rfl, hx⟩ := ha
  obtain ⟨y, rfl, hy⟩ := hb
  by_cases hsign : x.negative = y.negative
  · left
    rw [display, display, Binary64.plain_of_isZero hx, Binary64.plain_of_isZero hy, hsign]
  · exact .inr ⟨x, y, rfl, rfl, hx, hy, hsign⟩

/-! ## What agrees -/

/-- Values are the same when they are equal or both zero. -/
theorem eq_or_isZero_of_same (h : a.same b = true) : a = b ∨ a.IsZero ∧ b.IsZero := by
  cases a with
  | float x =>
    cases b with
    | float y =>
      have hxy : x = y ∨ x.isZero = true ∧ y.isZero = true := by
        simpa [same, Binary64.numEq] using h
      rcases hxy with rfl | ⟨hx, hy⟩
      · exact .inl rfl
      · exact .inr ⟨⟨x, rfl, hx⟩, ⟨y, rfl, hy⟩⟩
    | _ => simp [same] at h
  | _ => exact .inl (by simpa [same] using h)

/-- Values that are the same are shown alike, but for the two zeros. -/
theorem display_eq_of_same (h : a.same b = true) : a.display = b.display ∨ OppositeZeros a b := by
  rcases eq_or_isZero_of_same h with rfl | ⟨ha, hb⟩
  · exact .inl rfl
  · exact display_eq_or_oppositeZeros ha hb

theorem same_of_oppositeZeros (h : OppositeZeros a b) : a.same b = true := by
  obtain ⟨x, y, rfl, rfl, hx, hy, -⟩ := h
  simp [same, Binary64.numEq, hx, hy]

/-- Values agree when they are shown alike or are the two zeros, and null never does. -/
theorem agrees_iff_display : a.agrees b = true ↔
    a.isNull = false ∧ b.isNull = false ∧ (a.display = b.display ∨ OppositeZeros a b) := by
  by_cases hnull : a.isNull = false ∧ b.isNull = false
  · rw [agrees_iff hnull.1 hnull.2]
    constructor
    · rintro (hsame | hdisplay)
      · exact ⟨hnull.1, hnull.2, display_eq_of_same hsame⟩
      · exact ⟨hnull.1, hnull.2, .inl hdisplay⟩
    · rintro ⟨-, -, hdisplay | hzeros⟩
      · exact .inr hdisplay
      · exact .inl (same_of_oppositeZeros hzeros)
  · simp only [agrees, Bool.and_eq_true, Bool.not_eq_true']
    constructor
    · rintro ⟨h, -⟩
      exact absurd h hnull
    · rintro ⟨ha, hb, -⟩
      exact absurd ⟨ha, hb⟩ hnull

theorem agrees_self (h : a.isNull = false) : a.agrees a = true :=
  agrees_iff_display.2 ⟨h, h, .inl rfl⟩

/-- Agreement is passed on exactly if it does not lead from one zero to the other and from there to
a value that is no zero itself. -/
theorem agrees_iff_of_agrees (hab : a.agrees b = true) (hbc : b.agrees c = true) :
    a.agrees c = true ↔ ¬ (OppositeZeros a b ∧ ¬ c.IsZero ∨ OppositeZeros b c ∧ ¬ a.IsZero) := by
  obtain ⟨ha, -, hab⟩ := agrees_iff_display.1 hab
  obtain ⟨-, hc, hbc⟩ := agrees_iff_display.1 hbc
  have hac : a.agrees c = true ↔ a.display = c.display ∨ OppositeZeros a c := by
    rw [agrees_iff_display]
    simp only [ha, hc, true_and]
  rw [hac]
  constructor
  · rintro (hdisplay | hzeros) (⟨hopposite, hzero⟩ | ⟨hopposite, hzero⟩)
    · rcases hbc with hbc | hbc
      · exact hopposite.display_ne (hdisplay.trans hbc.symm)
      · exact hzero hbc.isZero_right
    · rcases hab with hab | hab
      · exact hopposite.display_ne (hab.symm.trans hdisplay)
      · exact hzero hab.isZero_left
    · exact hzero hzeros.isZero_right
    · exact hzero hzeros.isZero_left
  · intro hpassed
    rcases hab with hab | hab
    · rcases hbc with hbc | hbc
      · exact .inl (hab.trans hbc)
      · have hzero : a.IsZero := by
          by_contra hzero
          exact hpassed (.inr ⟨hbc, hzero⟩)
        exact display_eq_or_oppositeZeros hzero hbc.isZero_right
    · have hzero : c.IsZero := by
        by_contra hzero
        exact hpassed (.inl ⟨hab, hzero⟩)
      exact display_eq_or_oppositeZeros hab.isZero_left hzero

/-! ## Agreement as an equivalence -/

/-- Without null and the negative zero agreement is an equivalence. -/
theorem equivalence_agrees :
    Equivalence fun a b : {a : Scalar // a.isNull = false ∧ ¬ a.IsNegativeZero} =>
      a.1.agrees b.1 = true := by
  refine ⟨fun a => agrees_self a.2.1, fun {a b} hab => by rwa [agrees_comm], ?_⟩
  intro a b c hab hbc
  rw [agrees_iff_of_agrees hab hbc]
  rintro (⟨hzeros, -⟩ | ⟨hzeros, -⟩)
  · exact hzeros.isNegativeZero.elim a.2.2 b.2.2
  · exact hzeros.isNegativeZero.elim b.2.2 c.2.2

/-- Agreement never holds of null, holds of any other value and itself, and can be turned round.  It
is passed on exactly if it does not lead over the two zeros to a value that is no zero itself. -/
theorem agrees_equivalence (a b c : Scalar) :
    (Scalar.null.agrees a = false ∧ a.agrees .null = false) ∧
    (a.isNull = false → a.agrees a = true) ∧
    (a.agrees b = true → b.agrees a = true) ∧
    (a.agrees b = true → b.agrees c = true → (a.agrees c = true ↔
      ¬ (OppositeZeros a b ∧ ¬ c.IsZero ∨ OppositeZeros b c ∧ ¬ a.IsZero))) := by
  have hnull : Scalar.null.agrees a = false := rfl
  refine ⟨⟨hnull, by rw [agrees_comm, hnull]⟩, agrees_self, fun hab => ?_, agrees_iff_of_agrees⟩
  rwa [agrees_comm]

/-- The text `7` agrees with the whole number, that one with the double, and so the text with the
double. -/
theorem agrees_equivalence_seven : ∃ a b c,
    Json.decodeText decoder "\"7\"" = .ok a ∧ Json.decodeText decoder "7" = .ok b ∧
    Json.decodeText decoder "7.0" = .ok c ∧ a.agrees b = true ∧ b.agrees c = true ∧
    a.agrees c = true := by
  have hab : Scalar.agrees (.text "7") (.int 7) = true := by decide +kernel
  have hbc : Scalar.agrees (.int 7) (.float ⟨false, 0x1C000000000000, -50⟩) = true := by
    decide +kernel
  have hac := ((agrees_equivalence _ _ _).2.2.2 hab hbc).2 (by
    rintro (⟨⟨x, y, hx, -⟩, -⟩ | ⟨⟨x, y, hx, -⟩, -⟩) <;> cases hx)
  exact ⟨_, _, _, by decide +kernel, by decide +kernel, by decide +kernel, hab, hbc, hac⟩

/-- The whole number zero agrees with the double zero, and that one with the negative zero, but the
whole number does not agree with the negative zero. -/
theorem agrees_not_passed_on : ∃ a b c,
    Json.decodeText decoder "0" = .ok a ∧ Json.decodeText decoder "0.0" = .ok b ∧
    Json.decodeText decoder "-0.0" = .ok c ∧ a.isNull = false ∧ b.isNull = false ∧
    c.isNull = false ∧ a.agrees b = true ∧ b.agrees c = true ∧ a.agrees c = false :=
  ⟨.int 0, .float (.zero false), .float (.zero true), by decide +kernel⟩

end Scalar

end SnapshotViewer
