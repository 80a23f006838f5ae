import SnapshotViewer.Number.Int64
import SnapshotViewer.Proofs.Number.Decimal

/-!
# Written integers are read back

Reading a 64-bit integer accepts the decimal form of every number within the bounds, gives that
number back, and never gives a number beyond the bounds.

## Main statements

* `readInt64?_toString` — the decimal form of a number is read as the number.
* `fitsInt64_of_readInt64?` — what is read is within the bounds.
* `checkInt64_eq_ok_iff`, `checkInt64_eq_error_iff` — a result within the bounds is what it is, and
  one beyond them is a crash.
* `readInt64_eq_ok_iff` — what is read at all: a sign or none, digits, a number within the bounds.
-/

namespace SnapshotViewer

theorem fitsInt64_iff {n : Int} : fitsInt64 n = true ↔ int64Min ≤ n ∧ n ≤ int64Max := by
  simp [fitsInt64]

/-! ## Digits -/

/-- Digits are read as core reads them, once they are known to be digits. -/
theorem readDigits?_eq_some {cs : List Char} (h : ∀ c ∈ cs, c.isDigit = true) :
    readDigits? cs = some (Nat.ofDigitChars 10 cs 0) := by
  unfold readDigits?
  generalize 0 = init
  induction cs generalizing init with
  | nil => simp
  | cons c cs ih =>
    have hc : c.isDigit = true := h c List.mem_cons_self
    have hcs : ∀ d ∈ cs, d.isDigit = true := fun d hd => h d (List.mem_cons_of_mem c hd)
    simp only [List.foldlM_cons, hc, if_true, Option.bind_eq_bind, Option.bind_some]
    rw [ih hcs, Nat.ofDigitChars_cons]

theorem readDigits?_toDigits (n : Nat) : readDigits? (Nat.toDigits 10 n) = some n := by
  rw [readDigits?_eq_some fun c => isDigit_of_mem_toDigits, Nat.ofDigitChars_ten_toDigits]

/-! ## Bounds -/

theorem fitsInt64_of_readMagnitude {blank : IntegerFault} {negative : Bool} {digits : List Char}
    {n : Int} (h : readMagnitude blank negative digits = .ok n) : fitsInt64 n = true := by
  rw [fitsInt64_iff]
  have hmin : int64Min ≤ 0 := by decide
  have hmax : 0 ≤ int64Max := by decide
  unfold readMagnitude at h
  split at h
  · cases h
  · split at h
    · cases h
    · next k _ =>
      split at h
      · split at h
        · obtain rfl : -(k : Int) = n := by simpa using h
          omega
        · cases h
      · split at h
        · obtain rfl : (k : Int) = n := by simpa using h
          omega
        · cases h

theorem fitsInt64_of_readInt64 {s : List Char} {n : Int} (h : readInt64 s = .ok n) :
    fitsInt64 n = true := by
  unfold readInt64 at h
  split at h <;> exact fitsInt64_of_readMagnitude h

/-- A number that is read is within the bounds. -/
theorem fitsInt64_of_readInt64? {s : String} {n : Int} (h : readInt64? s = some n) :
    fitsInt64 n = true := by
  unfold readInt64? at h
  cases hr : readInt64 s.toList with
  | error fault => simp [hr, Except.toOption] at h
  | ok m =>
    obtain rfl : m = n := by simpa [hr, Except.toOption] using h
    exact fitsInt64_of_readInt64 hr

/-- A number fits if some multiple of it does. -/
theorem fitsInt64_of_mul {n scale : Int} (hscale : 0 < scale) (h : fitsInt64 (n * scale) = true) :
    fitsInt64 n = true := by
  rw [fitsInt64_iff] at h ⊢
  have hmin : int64Min ≤ 0 := by decide
  have hmax : 0 ≤ int64Max := by decide
  rcases Int.le_total 0 n with hn | hn
  · have hle : n * 1 ≤ n * scale := Int.mul_le_mul_of_nonneg_left hscale hn
    omega
  · have hle : -n * 1 ≤ -n * scale := Int.mul_le_mul_of_nonneg_left hscale (by omega)
    rw [Int.neg_mul, Int.neg_mul] at hle
    omega

/-! ## Checked arithmetic -/

theorem checkInt64_eq_ok_iff {n m : Int} :
    checkInt64 n = .ok m ↔ fitsInt64 n = true ∧ n = m := by
  cases h : fitsInt64 n <;> simp [checkInt64, h]

theorem checkInt64_eq_error_iff {n : Int} {crash : Crash} :
    checkInt64 n = .error crash ↔ fitsInt64 n = false := by
  cases crash
  cases h : fitsInt64 n <;> simp [checkInt64, h]

/-! ## Round trip -/

theorem readMagnitude_toDigits (blank : IntegerFault) (negative : Bool) (n : Nat)
    (h : fitsInt64 (if negative then -(n : Int) else n) = true) :
    readMagnitude blank negative (Nat.toDigits 10 n) =
      .ok (if negative then -(n : Int) else n) := by
  rw [fitsInt64_iff] at h
  have hne : (Nat.toDigits 10 n).isEmpty = false := by simp [Nat.toDigits_ne_nil]
  unfold readMagnitude
  rw [hne, readDigits?_toDigits]
  cases negative with
  | false => simpa using h.2
  | true => simpa using h.1

/-- Digits begin with no sign. -/
theorem readInt64_toDigits (n : Nat) (h : fitsInt64 n = true) :
    readInt64 (Nat.toDigits 10 n) = .ok (n : Int) := by
  have hdigit : ∀ c ∈ Nat.toDigits 10 n, c.isDigit = true := fun c => isDigit_of_mem_toDigits
  have hread := readMagnitude_toDigits .empty false n h
  unfold readInt64
  split
  · next heq => simp [heq] at hdigit
  · next heq => simp [heq] at hdigit
  · exact hread

/-- The decimal form of a number within the bounds is read as that number. -/
theorem readInt64?_toString {n : Int} (h : fitsInt64 n = true) :
    readInt64? (toString n) = some n := by
  rw [readInt64?, toList_toString]
  by_cases hn : n < 0
  · have habs : -(n.natAbs : Int) = n := by omega
    have hread := readMagnitude_toDigits .invalidDigit true n.natAbs (by rwa [if_pos rfl, habs])
    rw [if_pos rfl, habs] at hread
    rw [if_pos hn]
    show (readMagnitude .invalidDigit true (Nat.toDigits 10 n.natAbs)).toOption = some n
    rw [hread]
    rfl
  · have habs : (n.natAbs : Int) = n := by omega
    rw [if_neg hn, readInt64_toDigits _ (by rwa [habs]), habs]
    rfl

/-! ## What is read -/

/-- A sign, or nothing. -/
def IsSigns (signs : List Char) : Prop := signs = [] ∨ signs = ['+'] ∨ signs = ['-']

/-- The number of a sign: minus one for a minus sign and one otherwise. -/
def signFactor (signs : List Char) : Int := if signs = ['-'] then -1 else 1

theorem not_isDigit_of_mem_signs {signs : List Char} {c : Char} (h : IsSigns signs)
    (hc : c ∈ signs) : c.isDigit = false := by
  rcases h with rfl | rfl | rfl
  · cases hc
  · rw [List.mem_singleton.1 hc]
    rfl
  · rw [List.mem_singleton.1 hc]
    rfl

theorem readDigits?_eq_some_iff {cs : List Char} {n : Nat} : readDigits? cs = some n ↔
    (∀ c ∈ cs, c.isDigit = true) ∧ Nat.ofDigitChars 10 cs 0 = n := by
  constructor
  · intro h
    have hdigits : ∀ c ∈ cs, c.isDigit = true := by
      unfold readDigits? at h
      generalize 0 = init at h
      induction cs generalizing init with
      | nil => simp
      | cons c cs ih =>
        rw [List.foldlM_cons] at h
        by_cases hc : c.isDigit = true
        · rw [if_pos hc] at h
          exact List.forall_mem_cons.2 ⟨hc, ih _ h⟩
        · rw [if_neg hc] at h
          cases h
    rw [readDigits?_eq_some hdigits] at h
    exact ⟨hdigits, Option.some.inj h⟩
  · rintro ⟨hdigits, rfl⟩
    exact readDigits?_eq_some hdigits

theorem readMagnitude_eq_ok_iff {blank : IntegerFault} {negative : Bool} {ds : List Char}
    {n : Int} : readMagnitude blank negative ds = .ok n ↔
      ds ≠ [] ∧ (∀ c ∈ ds, c.isDigit = true) ∧
        (if negative then -(Nat.ofDigitChars 10 ds 0 : Int) else Nat.ofDigitChars 10 ds 0) = n ∧
          fitsInt64 n = true := by
  constructor
  · intro h
    have hfits := fitsInt64_of_readMagnitude h
    unfold readMagnitude at h
    split at h
    · cases h
    · next hempty =>
      refine ⟨by simpa using hempty, ?_⟩
      split at h
      · cases h
      · next k hk =>
        obtain ⟨hdigits, rfl⟩ := readDigits?_eq_some_iff.1 hk
        refine ⟨hdigits, ?_, hfits⟩
        split at h <;> split at h <;> cases h
        · next hnegative _ => exact if_pos hnegative
        · next hnegative _ => exact if_neg hnegative
  · rintro ⟨hne, hdigits, rfl, hfits⟩
    have hempty : ds.isEmpty = false := by simp [hne]
    rw [fitsInt64_iff] at hfits
    unfold readMagnitude
    rw [hempty, readDigits?_eq_some hdigits]
    cases negative with
    | false => simpa using hfits.2
    | true => simpa using hfits.1

/-- What is read is a sign or none and digits behind it, if their number is within the bounds. -/
theorem readInt64_eq_ok_iff {cs : List Char} {n : Int} : readInt64 cs = .ok n ↔
    ∃ signs ds, cs = signs ++ ds ∧ IsSigns signs ∧ ds ≠ [] ∧ (∀ c ∈ ds, c.isDigit = true) ∧
      signFactor signs * Nat.ofDigitChars 10 ds 0 = n ∧ fitsInt64 n = true := by
  constructor
  · intro h
    unfold readInt64 at h
    split at h
    · obtain ⟨hne, hdigits, rfl, hfits⟩ := readMagnitude_eq_ok_iff.1 h
      exact ⟨['-'], _, rfl, .inr (.inr rfl), hne, hdigits, by simp [signFactor], hfits⟩
    · obtain ⟨hne, hdigits, rfl, hfits⟩ := readMagnitude_eq_ok_iff.1 h
      exact ⟨['+'], _, rfl, .inr (.inl rfl), hne, hdigits, by simp [signFactor], hfits⟩
    · obtain ⟨hne, hdigits, rfl, hfits⟩ := readMagnitude_eq_ok_iff.1 h
      exact ⟨[], _, rfl, .inl rfl, hne, hdigits, by simp [signFactor], hfits⟩
  · rintro ⟨signs, ds, rfl, hsigns, hne, hdigits, rfl, hfits⟩
    rcases hsigns with rfl | rfl | rfl
    · -- digits do not begin with a sign
      rw [List.nil_append]
      unfold readInt64
      split
      · exact absurd (hdigits '-' List.mem_cons_self) (by decide)
      · exact absurd (hdigits '+' List.mem_cons_self) (by decide)
      · exact readMagnitude_eq_ok_iff.2 ⟨hne, hdigits, by simp [signFactor], hfits⟩
    · exact readMagnitude_eq_ok_iff.2 ⟨hne, hdigits, by simp [signFactor], hfits⟩
    · exact readMagnitude_eq_ok_iff.2 ⟨hne, hdigits, by simp [signFactor], hfits⟩

end SnapshotViewer
