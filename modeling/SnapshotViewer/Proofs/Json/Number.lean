import SnapshotViewer.Json.Decoder
import SnapshotViewer.Proofs.Json.Scan

/-!
# Integers in documents

An integer of 64 bits, with or without a sign, is read from its decimal form.

## Main definitions

* `Literal.Writes` — a number literal is the decimal form of an integer.

## Main statements

* `Literal.read_of_writes` — what is written is read.
* `exists_scanBytes_eq` — the tree of a decimal form is the literal of the number.
-/

namespace SnapshotViewer.Json

/-- The literal is the decimal form of the integer. -/
structure Literal.Writes (l : Literal) (n : Int) : Prop where
  whole : IsDigits l.whole n.natAbs
  negative : l.negative = decide (n < 0)
  hasFraction : l.hasFraction = false
  exponent : l.exponent = none

variable {l : Literal} {n : Int} {ds : List Char}

/-! ## Reading -/

namespace Literal

theorem digitsValue_eq (ds : List Char) : digitsValue ds = Nat.ofDigitChars 10 ds 0 := by
  simp only [digitsValue, Nat.ofDigitChars, Nat.mul_comm]

/-- A literal is read as the integer of which it is the decimal form. -/
theorem read_of_writes (h : l.Writes n) (hlow : int64Min ≤ n) (hhigh : n ≤ uint64Max) :
    l.read = .ok (.int n) := by
  have hvalue : (digitsValue l.whole : Int) = n.natAbs := by rw [digitsValue_eq, h.whole.value]
  have hmin : int64Min = -0x8000000000000000 := rfl
  have hread : l.value? = some (.int n) := by
    simp only [value?, hvalue, h.negative, h.hasFraction, h.exponent]
    by_cases hn : n < 0
    · have hneg : -(n.natAbs : Int) = n := by omega
      rw [if_neg (fun h => absurd h.2.1 (by simp [hn])),
        if_pos ⟨rfl, decide_eq_true hn, by omega, by omega⟩, hneg]
    · have hpos : (n.natAbs : Int) = n := by omega
      rw [if_pos ⟨rfl, decide_eq_false hn, by omega⟩, hpos]
  rw [read, hread]

end Literal

/-! ## Scanning -/

/-- The digits of a number are a literal without point and exponent. -/
theorem spellsUnsigned_of_isDigits {k : Nat} (h : IsDigits ds k) (negative : Bool) :
    SpellsUnsigned negative ⟨negative, ds, [], false, none⟩ ds := by
  simpa using SpellsUnsigned.mk ⟨h.isDigit, h.ne_nil⟩ h.shortest .none .none

/-- The tree of a decimal form is the literal of the number, and nothing follows it. -/
theorem exists_scanBytes_eq {text : String} (h : IsDecimal text n) :
    ∃ l : Literal, l.Writes n ∧ scanBytes (Text.encode text) = ⟨.number l, false⟩ := by
  have hscan : ∀ {l : Literal}, SpellsNumber l text.toList →
      scanBytes (Text.encode text) = ⟨.number l, false⟩ := by
    intro l hl
    refine SpellsText.scanBytes ?_
    simpa using SpellsText.mk isBlank_nil (.number hl) isBlank_nil
  rw [IsDecimal] at h
  split at h
  · next hn =>
    obtain ⟨ds, htext, hds⟩ := h
    exact ⟨⟨true, ds, [], false, none⟩, ⟨hds, by simp [hn], rfl, rfl⟩,
      hscan (htext ▸ .minus (spellsUnsigned_of_isDigits hds true))⟩
  · next hn =>
    exact ⟨⟨false, text.toList, [], false, none⟩, ⟨h, by simp [hn], rfl, rfl⟩,
      hscan (.plain (spellsUnsigned_of_isDigits h false))⟩

end SnapshotViewer.Json
