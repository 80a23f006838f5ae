import Mathlib.Tactic.SplitIfs
import SnapshotViewer.Proofs.Text.Utf8

/-!
# Texts are in the order of their bytes

Of two characters the one with the greater code point has the greater bytes: a longer form begins
with a greater byte, and forms of one length hold the code point from its highest bits on.  So texts
that are compared character by character are in the same order as their UTF-8 forms.

## Main statements

* `encodeChar_append_lt` — the bytes of a greater character are greater, whatever follows.
* `encode_lt_encode_iff` — the order of texts is that of their bytes.
-/

namespace SnapshotViewer.Text

theorem ofNat_cons_lt {m n : Nat} (hm : m < 256) (hn : n < 256) {xs ys : List UInt8} :
    UInt8.ofNat m :: xs < UInt8.ofNat n :: ys ↔ m < n ∨ m = n ∧ xs < ys := by
  rw [List.cons_lt_cons_iff, UInt8.lt_iff_toNat_lt, ← UInt8.toNat_inj, toNat_ofNat_of_lt hm,
    toNat_ofNat_of_lt hn]

/-- Of two numbers the greater one has more in front of its last six bits, or it has more there. -/
theorem lt_or_bits_lt {v w : Nat} (h : v < w) :
    v / 64 < w / 64 ∨ v / 64 = w / 64 ∧ v % 64 < w % 64 := by omega

/-- Numbers are compared by what the four bytes of a code point hold of them. -/
theorem bits_lt {v w : Nat} (h : v < w) (hw : w < 0x110000) :
    v / 262144 % 8 < w / 262144 % 8 ∨ v / 262144 % 8 = w / 262144 % 8 ∧
      (v / 4096 % 64 < w / 4096 % 64 ∨ v / 4096 % 64 = w / 4096 % 64 ∧
        (v / 64 % 64 < w / 64 % 64 ∨ v / 64 % 64 = w / 64 % 64 ∧ v % 64 < w % 64)) := by
  have hparts : ∀ u, u < 0x110000 →
      u / 4096 = u / 64 / 64 ∧ u / 262144 % 8 = u / 64 / 64 / 64 := by omega
  have hv := Nat.lt_trans h hw
  rw [(hparts v hv).1, (hparts v hv).2, (hparts w hw).1, (hparts w hw).2]
  rcases lt_or_bits_lt h with h₁ | ⟨h₁, hlast⟩
  · rcases lt_or_bits_lt h₁ with h₂ | ⟨h₂, hthird⟩
    · rcases lt_or_bits_lt h₂ with h₃ | ⟨h₃, hsecond⟩
      · exact .inl h₃
      · exact .inr ⟨h₃, .inl hsecond⟩
    · rw [h₂]
      exact .inr ⟨rfl, .inr ⟨rfl, .inl hthird⟩⟩
  · rw [h₁]
    exact .inr ⟨rfl, .inr ⟨rfl, .inr ⟨rfl, hlast⟩⟩⟩

/-- The bytes of a greater character are greater, whatever follows. -/
theorem encodeChar_append_lt {c d : Char} (h : c < d) (xs ys : List UInt8) :
    String.utf8EncodeChar c ++ xs < String.utf8EncodeChar d ++ ys := by
  have hlt : c.val.toNat < d.val.toNat := h
  have hbound : d.val.toNat < 0x110000 := by
    have hrange := toNat_range d
    have hval : d.val.toNat = d.toNat := rfl
    omega
  have hbits := bits_lt hlt hbound
  unfold String.utf8EncodeChar
  dsimp only
  -- one case for each pair of lengths: of a pair of two lengths the first bytes decide
  split_ifs <;> simp (disch := omega) only [List.cons_append, List.nil_append, ofNat_cons_lt] <;>
    omega

theorem encodeChars_lt {cs ds : List Char} (h : cs < ds) : encodeChars cs < encodeChars ds := by
  induction h with
  | @nil d ds =>
    obtain ⟨b, bs, hb⟩ := List.exists_cons_of_ne_nil (encodeChar_ne_nil d)
    rw [encodeChars_cons, hb]
    exact List.nil_lt_cons b _
  | rel h => exact encodeChar_append_lt h _ _
  | cons h ih => exact List.append_left_lt ih

/-- Texts are in the order of their bytes. -/
theorem encode_lt_encode_iff {s t : String} : encode s < encode t ↔ s < t := by
  constructor
  · intro h
    rcases Std.lt_trichotomy s t with hlt | heq | hgt
    · exact hlt
    · exact absurd h (heq ▸ List.lt_irrefl _)
    · exact absurd (encodeChars_lt hgt) (List.lt_asymm h)
  · exact encodeChars_lt

end SnapshotViewer.Text
