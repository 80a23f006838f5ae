import SnapshotViewer.Address.Form
import SnapshotViewer.Proofs.Text.Utf8
import SnapshotViewer.Text.Blank

/-!
# Tokens and separators

What is written for a name or a value consists of tokens: letters, digits and `%*+-._`.  No
separator and no blank is among them, so cutting a text at its separators finds what was joined.

## Main definitions

* `isToken` — the characters that written names and values consist of.
* `isTextual` — those and the separators.

## Main statements

* `byteOf_ne_of_isToken` — no separator is a token.
* `parts_intercalate`, `splitPair_append` — cutting undoes joining.
-/

namespace SnapshotViewer.Form

/-- The characters that written names and values consist of. -/
def isToken (c : Char) : Bool :=
  let n := c.toNat
  (0x30 ≤ n && n ≤ 0x39) || (0x41 ≤ n && n ≤ 0x5A) || (0x61 ≤ n && n ≤ 0x7A)
    || n == 0x25 || n == 0x2A || n == 0x2B || n == 0x2D || n == 0x2E || n == 0x5F

/-- The characters that a written list consists of. -/
def isTextual (c : Char) : Bool := isToken c || c == '=' || c == '&'

/-- The byte of a character below `0x80`. -/
def byteOf (c : Char) : UInt8 := UInt8.ofNat c.toNat

/-- Characters below `0x80` as bytes. -/
def bytesOf (cs : List Char) : List UInt8 := cs.map byteOf

@[simp] theorem bytesOf_append (xs ys : List Char) :
    bytesOf (xs ++ ys) = bytesOf xs ++ bytesOf ys := List.map_append

@[simp] theorem bytesOf_cons (c : Char) (cs : List Char) :
    bytesOf (c :: cs) = byteOf c :: bytesOf cs := rfl

@[simp] theorem bytesOf_nil : bytesOf [] = [] := rfl

/-! ## Tokens -/

theorem isToken_iff {c : Char} : isToken c = true ↔
    0x30 ≤ c.toNat ∧ c.toNat ≤ 0x39 ∨ 0x41 ≤ c.toNat ∧ c.toNat ≤ 0x5A ∨
    0x61 ≤ c.toNat ∧ c.toNat ≤ 0x7A ∨ c.toNat = 0x25 ∨ c.toNat = 0x2A ∨ c.toNat = 0x2B ∨
    c.toNat = 0x2D ∨ c.toNat = 0x2E ∨ c.toNat = 0x5F := by
  simp only [isToken, Bool.or_eq_true, Bool.and_eq_true, decide_eq_true_eq, beq_iff_eq, or_assoc]

theorem isTextual_iff {c : Char} : isTextual c = true ↔
    isToken c = true ∨ c.toNat = 0x3D ∨ c.toNat = 0x26 := by
  simp only [isTextual, Bool.or_eq_true, beq_iff_eq, or_assoc, ← Char.toNat_inj]
  rfl

theorem isTextual_of_isToken {c : Char} (h : isToken c = true) : isTextual c = true :=
  isTextual_iff.2 (.inl h)

theorem toNat_lt_of_isTextual {c : Char} (h : isTextual c = true) : c.toNat < 0x80 := by
  rw [isTextual_iff, isToken_iff] at h
  omega

theorem isBlank_of_isTextual {c : Char} (h : isTextual c = true) : Text.isBlank c = false := by
  rw [isTextual_iff, isToken_iff] at h
  simp only [Text.isBlank, Bool.or_eq_false_iff, Bool.and_eq_false_iff, decide_eq_false_iff_not,
    beq_eq_false_iff_ne]
  omega

theorem ne_question_of_isTextual {c : Char} (h : isTextual c = true) : c ≠ '?' := by
  rintro rfl
  exact absurd h (by decide)

theorem toNat_byteOf {c : Char} (h : c.toNat < 0x80) : (byteOf c).toNat = c.toNat :=
  Text.toNat_ofNat_of_lt (by omega)

/-- Neither separator is the byte of a token. -/
theorem byteOf_ne_of_isToken {c : Char} (h : isToken c = true) :
    byteOf c ≠ 0x26 ∧ byteOf c ≠ 0x3D := by
  have hbyte := toNat_byteOf (toNat_lt_of_isTextual (isTextual_of_isToken h))
  rw [isToken_iff] at h
  constructor
  · intro he
    rw [he] at hbyte
    change 0x26 = c.toNat at hbyte
    omega
  · intro he
    rw [he] at hbyte
    change 0x3D = c.toNat at hbyte
    omega

/-! ## Joining, and cutting at separators -/

section Join
variable {α β : Type}

theorem intercalate_cons_cons (x : α) (p q : List α) (ps : List (List α)) :
    List.intercalate [x] (p :: q :: ps) = p ++ x :: List.intercalate [x] (q :: ps) := by
  simp [List.intercalate]

theorem map_intercalate (f : α → β) (x : α) (ps : List (List α)) :
    (List.intercalate [x] ps).map f = List.intercalate [f x] (ps.map (List.map f)) := by
  induction ps with
  | nil => rfl
  | cons p ps ih =>
    cases ps with
    | nil => simp [List.intercalate]
    | cons q ps =>
      rw [intercalate_cons_cons, List.map_append, List.map_cons, ih]
      exact (intercalate_cons_cons (f x) (p.map f) (q.map f) (ps.map (List.map f))).symm

theorem mem_intercalate {x c : α} {ps : List (List α)} (h : c ∈ List.intercalate [x] ps) :
    c = x ∨ ∃ p ∈ ps, c ∈ p := by
  induction ps with
  | nil => cases h
  | cons p ps ih =>
    cases ps with
    | nil => exact .inr ⟨p, List.mem_cons_self, by simpa [List.intercalate] using h⟩
    | cons q ps =>
      rw [intercalate_cons_cons, List.mem_append, List.mem_cons] at h
      rcases h with h | rfl | h
      · exact .inr ⟨p, List.mem_cons_self, h⟩
      · exact .inl rfl
      · rcases ih h with rfl | ⟨r, hr, hc⟩
        · exact .inl rfl
        · exact .inr ⟨r, List.mem_cons_of_mem p hr, hc⟩

end Join

theorem parts_of_notMem {separator : UInt8} {p : List UInt8} (h : separator ∉ p) :
    parts separator p = [p] := by
  induction p with
  | nil => rfl
  | cons b p ih =>
    rw [List.mem_cons, not_or] at h
    rw [parts, if_neg (Ne.symm h.1), ih h.2]

/-- A part ends at the first separator. -/
theorem parts_append {separator : UInt8} {p : List UInt8} (h : separator ∉ p)
    (rest : List UInt8) :
    parts separator (p ++ separator :: rest) = p :: parts separator rest := by
  induction p with
  | nil => simp [parts]
  | cons b p ih =>
    rw [List.mem_cons, not_or] at h
    rw [List.cons_append, parts, if_neg (Ne.symm h.1), ih h.2]

/-- Cutting undoes joining, given that there is something to join. -/
theorem parts_intercalate {separator : UInt8} (p : List UInt8) (ps : List (List UInt8))
    (hp : separator ∉ p) (hps : ∀ q ∈ ps, separator ∉ q) :
    parts separator (List.intercalate [separator] (p :: ps)) = p :: ps := by
  -- Joining nothing and joining one empty part give the same, hence the first part beside the
  -- others.
  induction ps generalizing p with
  | nil => simpa [List.intercalate] using parts_of_notMem hp
  | cons q ps ih =>
    have hq := hps q List.mem_cons_self
    have hrest : ∀ r ∈ ps, separator ∉ r := fun r hr => hps r (List.mem_cons_of_mem q hr)
    rw [intercalate_cons_cons, parts_append hp, ih q hq hrest]

theorem splitPair_append {name : List UInt8} (h : 0x3D ∉ name) (value : List UInt8) :
    splitPair (name ++ 0x3D :: value) = (name, value) := by
  have hname : ∀ b ∈ name, (b != 0x3D) = true := by
    intro b hb
    rw [bne_iff_ne]
    rintro rfl
    exact h hb
  simp [splitPair, List.takeWhile_append_of_pos hname, List.dropWhile_append_of_pos hname]

end SnapshotViewer.Form
