/-!
# Decimal forms

Each number has one decimal form: its digits without a zero that could be left out in front of
them, behind a minus sign if it is negative.

## Main definitions

* `IsDigits` — digits that write a number, with no zero in front that could be left out.
* `IsDecimal` — a text is the decimal form of an integer.

## Main statements

* `isDigits_iff`, `isDecimal_iff` — what writes a number is what is printed for it.
* `toString_inj` — different numbers have different decimal forms.
-/

namespace SnapshotViewer

/-- The digits write the number, and no zero in front could be left out. -/
structure IsDigits (ds : List Char) (n : Nat) : Prop where
  isDigit : ∀ c ∈ ds, c.isDigit = true
  ne_nil : ds ≠ []
  shortest : ds.head? = some '0' → ds = ['0']
  value : Nat.ofDigitChars 10 ds 0 = n

/-- The text is the decimal form of the number. -/
def IsDecimal (s : String) (n : Int) : Prop :=
  if n < 0 then ∃ ds, s.toList = '-' :: ds ∧ IsDigits ds n.natAbs else IsDigits s.toList n.natAbs

variable {ds : List Char} {n : Nat} {c : Char}

/-! ## Digits -/

theorem toNat_of_isDigit (h : c.isDigit = true) : 48 ≤ c.toNat ∧ c.toNat ≤ 57 := by
  simpa [Char.isDigit, UInt32.le_iff_toNat_le] using h

theorem isDigit_of_mem_toDigits (hc : c ∈ Nat.toDigits 10 n) : c.isDigit = true :=
  Nat.isDigit_of_mem_toDigits (by decide) (by decide) hc

/-- A digit is the one of its value. -/
theorem digitChar_of_isDigit (h : c.isDigit = true) : Nat.digitChar (c.toNat - 48) = c := by
  have hbounds := toNat_of_isDigit h
  rw [← Char.toNat_inj, Nat.toNat_digitChar_of_lt_ten (by omega)]
  omega

/-- The digits of a number other than zero begin with none. -/
theorem head?_toDigits_ne (hn : 0 < n) : (Nat.toDigits 10 n).head? ≠ some '0' := by
  induction n using Nat.strongRecOn with
  | ind n ih =>
    by_cases hlt : n < 10
    · rw [Nat.toDigits_of_lt_base hlt]
      simp
      omega
    · rw [Nat.toDigits_of_base_le (by decide) (by omega)]
      have hfront := ih (n / 10) (by omega) (by omega)
      cases hhead : (Nat.toDigits 10 (n / 10)).head? with
      | none => simp at hhead
      | some c => simpa [hhead] using hfront

theorem isDigits_toDigits (n : Nat) : IsDigits (Nat.toDigits 10 n) n where
  isDigit _ := isDigit_of_mem_toDigits
  ne_nil := Nat.toDigits_ne_nil
  shortest h := by
    rcases Nat.eq_zero_or_pos n with rfl | hn
    · exact Nat.toDigits_zero 10
    · exact absurd h (head?_toDigits_ne hn)
  value := Nat.ofDigitChars_ten_toDigits

/-- The digits of a number go on with those that are read behind it. -/
theorem toDigits_append (hn : 0 < n) (hds : ∀ c ∈ ds, c.isDigit = true) :
    Nat.toDigits 10 n ++ ds = Nat.toDigits 10 (Nat.ofDigitChars 10 ds n) := by
  induction ds generalizing n with
  | nil => simp
  | cons c ds ih =>
    have hc : c.isDigit = true := hds c List.mem_cons_self
    have hlt : c.toNat - 48 < 10 := by
      have := toNat_of_isDigit hc
      omega
    have hdigit : Nat.toDigits 10 (c.toNat - 48) = [c] := by
      rw [Nat.toDigits_of_lt_base hlt, digitChar_of_isDigit hc]
    calc Nat.toDigits 10 n ++ c :: ds
        = (Nat.toDigits 10 n ++ Nat.toDigits 10 (c.toNat - 48)) ++ ds := by simp [hdigit]
      _ = Nat.toDigits 10 (10 * n + (c.toNat - 48)) ++ ds := by
          rw [Nat.toDigits_append_toDigits (by decide) hn hlt]
      _ = Nat.toDigits 10 (Nat.ofDigitChars 10 (c :: ds) n) := by
          rw [ih (by omega) fun d hd => hds d (List.mem_cons_of_mem c hd), Nat.ofDigitChars_cons]
          rfl

/-- Digits with no zero in front that could be left out are those of the number that they write. -/
theorem toDigits_eq (h : IsDigits ds n) : Nat.toDigits 10 n = ds := by
  cases ds with
  | nil => exact absurd rfl h.ne_nil
  | cons c ds =>
    by_cases hzero : c = '0'
    · have hds := h.shortest (by rw [hzero, List.head?_cons])
      rw [← h.value, hds]
      rfl
    · have hc : c.isDigit = true := h.isDigit c List.mem_cons_self
      have hbounds := toNat_of_isDigit hc
      have hpos : c.toNat ≠ 48 := fun heq => hzero (Char.toNat_inj.1 heq)
      have happend := toDigits_append (n := c.toNat - 48) (by omega)
        fun d hd => h.isDigit d (List.mem_cons_of_mem c hd)
      rw [Nat.toDigits_of_lt_base (by omega), digitChar_of_isDigit hc] at happend
      rw [← h.value, Nat.ofDigitChars_cons]
      simpa using happend.symm

theorem isDigits_iff : IsDigits ds n ↔ ds = Nat.toDigits 10 n :=
  ⟨fun h => (toDigits_eq h).symm, fun h => h ▸ isDigits_toDigits n⟩

/-! ## Signs -/

theorem toList_toString (n : Int) : (toString n).toList =
    if n < 0 then '-' :: Nat.toDigits 10 n.natAbs else Nat.toDigits 10 n.natAbs := by
  rw [Int.toString_eq_repr, Int.repr_eq_if]
  by_cases hn : n < 0
  · have habs : (-n).toNat = n.natAbs := by omega
    rw [if_neg (by omega), if_pos hn, String.toList_append, Nat.toList_repr, habs]
    rfl
  · have habs : n.toNat = n.natAbs := by omega
    rw [if_pos (by omega), if_neg hn, Nat.toList_repr, habs]

/-- The decimal form of an integer is what is printed for it. -/
theorem isDecimal_iff {s : String} {n : Int} : IsDecimal s n ↔ s = toString n := by
  rw [← String.toList_inj, toList_toString, IsDecimal]
  by_cases hn : n < 0
  · simp [hn, isDigits_iff]
  · simp [hn, isDigits_iff]

theorem IsDigits.not_minus : ¬ IsDigits ('-' :: ds) n := fun h =>
  absurd (h.isDigit '-' List.mem_cons_self) (by decide)

/-- A text is the decimal form of one number at most. -/
theorem IsDecimal.unique {s : String} {n m : Int} (hn : IsDecimal s n) (hm : IsDecimal s m) :
    n = m := by
  rw [IsDecimal] at hn hm
  split at hn
  · obtain ⟨ds, hs, hds⟩ := hn
    split at hm
    · obtain ⟨ds', hs', hds'⟩ := hm
      obtain rfl : ds = ds' := (List.cons.inj (hs.symm.trans hs')).2
      have habs : n.natAbs = m.natAbs := hds.value.symm.trans hds'.value
      omega
    · exact absurd (hs ▸ hm) IsDigits.not_minus
  · split at hm
    · obtain ⟨ds, hs, -⟩ := hm
      exact absurd (hs ▸ hn) IsDigits.not_minus
    · have habs : n.natAbs = m.natAbs := hn.value.symm.trans hm.value
      omega

/-- Different integers are printed differently. -/
theorem toString_inj {n m : Int} : toString n = toString m ↔ n = m :=
  ⟨fun h => (isDecimal_iff.2 rfl).unique (isDecimal_iff.2 h), congrArg toString⟩

/-- What is printed for an integer are digits and perhaps a minus sign. -/
theorem isDigit_or_eq_of_mem_toString {n : Int} (hc : c ∈ (toString n).toList) :
    c.isDigit = true ∨ c = '-' := by
  rw [toList_toString] at hc
  split at hc
  · rcases List.mem_cons.1 hc with hc | hc
    · exact .inr hc
    · exact .inl (isDigit_of_mem_toDigits hc)
  · exact .inl (isDigit_of_mem_toDigits hc)

end SnapshotViewer
