import SnapshotViewer.Text.Utf8

/-!
# Text survives its UTF-8 form

Reading the UTF-8 form of a text as bytes gives the text back, without a fault.  A character takes
one to four bytes; for each length the first byte announces how many follow, and the bits of all
of them make up the code point again.

## Main statements

* `scan_encodeChar` — the bytes of a character are read as that character.
* `decode_encode`, `decode_encode_append` — the bytes of a text are read as that text, also in
  front of other bytes.
* `decode?_encode` — they hold no fault.
* `notMem_encode` — the bytes of a text hold no character below `0x80` that the text does not.
* `encodeChars_of_ascii` — a character below `0x80` is its own byte.
-/

namespace SnapshotViewer.Text

/-! ## One character -/

theorem toNat_ofNat_of_lt {n : Nat} (h : n < 256) : (UInt8.ofNat n).toNat = n := by
  rw [UInt8.toNat_ofNat']
  exact Nat.mod_eq_of_lt h

/-- A further byte puts its six bits behind those that are known. -/
theorem continued_byte {count low high point d : Nat} (hlow : low ≤ d % 64 + 0x80)
    (hhigh : d % 64 + 0x80 ≤ high) (rest : List UInt8) :
    continued (count + 1) low high point (UInt8.ofNat (d % 64 + 0x80) :: rest) =
      continued count 0x80 0xBF (point * 64 + d % 64) rest := by
  have hbyte : (UInt8.ofNat (d % 64 + 0x80)).toNat = d % 64 + 0x80 := toNat_ofNat_of_lt (by omega)
  have hbits : (d % 64 + 0x80) % 64 = d % 64 := by omega
  rw [continued, hbyte, if_pos ⟨hlow, hhigh⟩, hbits]

theorem continued_zero (low high point : Nat) (rest : List UInt8) :
    continued 0 low high point rest = (some (Char.ofNat point), rest) := by
  cases rest <;> rfl

/-- A first byte that announces further ones leaves the reading to them. -/
theorem scanOne_lead {b count low high : Nat} (hb : b < 256)
    (hc : continuations? b = some (count, low, high)) (rest : List UInt8) :
    scanOne (UInt8.ofNat b) rest = continued count low high (leadBits b count) rest := by
  have hlead : ¬ b < 0x80 := by
    intro hlt
    rw [continuations?, if_pos (by omega)] at hc
    cases hc
  rw [scanOne, toNat_ofNat_of_lt hb, if_neg hlead, hc]

/-- The code points of characters leave out the surrogates. -/
theorem toNat_range (c : Char) : c.toNat < 0xD800 ∨ 0xDFFF < c.toNat ∧ c.toNat < 0x110000 :=
  c.valid

theorem continuations?_two {b : Nat} (hlow : 0xC2 ≤ b) (hhigh : b ≤ 0xDF) :
    continuations? b = some (1, 0x80, 0xBF) := by
  rw [continuations?, if_neg (by omega), if_pos hhigh]

/-- The second of three bytes is kept from writing what two bytes write, and surrogates. -/
theorem continuations?_three {v : Nat} (hlow : 0x7FF < v) (hhigh : v ≤ 0xFFFF)
    (hv : v < 0xD800 ∨ 0xDFFF < v) : ∃ low high,
      continuations? (v / 4096 % 16 + 0xE0) = some (2, low, high) ∧
        low ≤ v / 64 % 64 + 0x80 ∧ v / 64 % 64 + 0x80 ≤ high := by
  unfold continuations?
  rw [if_neg (by omega), if_neg (by omega)]
  split
  · exact ⟨0xA0, 0xBF, rfl, by omega, by omega⟩
  · split
    · exact ⟨0x80, 0x9F, rfl, by omega, by omega⟩
    · rw [if_pos (by omega)]
      exact ⟨0x80, 0xBF, rfl, by omega, by omega⟩

/-- The second of four bytes is kept from writing what three bytes write, and from going beyond
the last code point. -/
theorem continuations?_four {v : Nat} (hlow : 0xFFFF < v) (hhigh : v < 0x110000) : ∃ low high,
    continuations? (v / 262144 % 8 + 0xF0) = some (3, low, high) ∧
      low ≤ v / 4096 % 64 + 0x80 ∧ v / 4096 % 64 + 0x80 ≤ high := by
  unfold continuations?
  rw [if_neg (by omega), if_neg (by omega), if_neg (by omega), if_neg (by omega),
    if_neg (by omega)]
  split
  · exact ⟨0x90, 0xBF, rfl, by omega, by omega⟩
  · split
    · exact ⟨0x80, 0xBF, rfl, by omega, by omega⟩
    · rw [if_pos (by omega)]
      exact ⟨0x80, 0x8F, rfl, by omega, by omega⟩

theorem scanOne_two {v : Nat} (hlow : 0x7F < v) (hhigh : v ≤ 0x7FF) (rest : List UInt8) :
    scanOne (UInt8.ofNat (v / 64 % 32 + 0xC0)) (UInt8.ofNat (v % 64 + 0x80) :: rest) =
      (some (Char.ofNat v), rest) := by
  have hlead : leadBits (v / 64 % 32 + 0xC0) 1 = v / 64 := by
    simp only [leadBits, Nat.pow_eq]
    omega
  have hpoint : v / 64 * 64 + v % 64 = v := by omega
  rw [scanOne_lead (by omega) (continuations?_two (by omega) (by omega)), hlead,
    continued_byte (by omega) (by omega), continued_zero, hpoint]

theorem scanOne_three {v : Nat} (hlow : 0x7FF < v) (hhigh : v ≤ 0xFFFF)
    (hv : v < 0xD800 ∨ 0xDFFF < v) (rest : List UInt8) :
    scanOne (UInt8.ofNat (v / 4096 % 16 + 0xE0))
        (UInt8.ofNat (v / 64 % 64 + 0x80) :: UInt8.ofNat (v % 64 + 0x80) :: rest) =
      (some (Char.ofNat v), rest) := by
  obtain ⟨low, high, hc, hl, hh⟩ := continuations?_three hlow hhigh hv
  have hlead : leadBits (v / 4096 % 16 + 0xE0) 2 = v / 4096 := by
    simp only [leadBits, Nat.pow_eq]
    omega
  have hpoint : (v / 4096 * 64 + v / 64 % 64) * 64 + v % 64 = v := by omega
  rw [scanOne_lead (by omega) hc, hlead, continued_byte hl hh,
    continued_byte (by omega) (by omega), continued_zero, hpoint]

theorem scanOne_four {v : Nat} (hlow : 0xFFFF < v) (hhigh : v < 0x110000) (rest : List UInt8) :
    scanOne (UInt8.ofNat (v / 262144 % 8 + 0xF0))
        (UInt8.ofNat (v / 4096 % 64 + 0x80) :: UInt8.ofNat (v / 64 % 64 + 0x80) ::
          UInt8.ofNat (v % 64 + 0x80) :: rest) =
      (some (Char.ofNat v), rest) := by
  obtain ⟨low, high, hc, hl, hh⟩ := continuations?_four hlow hhigh
  have hlead : leadBits (v / 262144 % 8 + 0xF0) 3 = v / 262144 := by
    simp only [leadBits, Nat.pow_eq]
    omega
  have hpoint :
      ((v / 262144 * 64 + v / 4096 % 64) * 64 + v / 64 % 64) * 64 + v % 64 = v := by omega
  rw [scanOne_lead (by omega) hc, hlead, continued_byte hl hh,
    continued_byte (by omega) (by omega), continued_byte (by omega) (by omega), continued_zero,
    hpoint]

/-- The bytes of a character are read as that character, and nothing behind them is touched. -/
theorem scan_encodeChar (c : Char) (rest : List UInt8) :
    scan (String.utf8EncodeChar c ++ rest) = some c :: scan rest := by
  have hrange := toNat_range c
  have hval : c.val.toNat = c.toNat := rfl
  have hread : ∀ b bs, scanOne b (bs ++ rest) = (some (Char.ofNat c.toNat), rest) →
      scan (b :: bs ++ rest) = some c :: scan rest := by
    intro b bs h
    rw [List.cons_append, scan, h, Char.ofNat_toNat]
  unfold String.utf8EncodeChar
  rw [hval]
  dsimp only
  split
  · apply hread
    rw [scanOne, toNat_ofNat_of_lt (by omega), if_pos (by omega)]
    rfl
  · split
    · exact hread _ _ (scanOne_two (by omega) (by omega) rest)
    · split
      · exact hread _ _ (scanOne_three (by omega) (by omega) (by omega) rest)
      · exact hread _ _ (scanOne_four (by omega) (by omega) rest)

/-! ## Text -/

theorem length_encodeChar_pos (c : Char) : 0 < (String.utf8EncodeChar c).length := by
  rw [String.length_utf8EncodeChar]
  exact Char.utf8Size_pos c

theorem encodeChar_ne_nil (c : Char) : String.utf8EncodeChar c ≠ [] :=
  List.length_pos_iff.1 (length_encodeChar_pos c)

@[simp] theorem encodeChars_nil : encodeChars [] = [] := rfl

@[simp] theorem encodeChars_cons (c : Char) (cs : List Char) :
    encodeChars (c :: cs) = String.utf8EncodeChar c ++ encodeChars cs := rfl

theorem encodeChars_append (cs ds : List Char) :
    encodeChars (cs ++ ds) = encodeChars cs ++ encodeChars ds := List.flatMap_append

/-- Every character is one byte or more. -/
theorem length_le_length_encodeChars (cs : List Char) : cs.length ≤ (encodeChars cs).length := by
  induction cs with
  | nil => exact Nat.le_refl _
  | cons c cs ih =>
    have hc := length_encodeChar_pos c
    rw [encodeChars_cons, List.length_append, List.length_cons]
    omega

/-- The bytes of some characters are read as these, whatever bytes follow. -/
theorem scan_encodeChars_append (cs : List Char) (rest : List UInt8) :
    scan (encodeChars cs ++ rest) = cs.map some ++ scan rest := by
  induction cs with
  | nil => rfl
  | cons c cs ih =>
    rw [encodeChars_cons, List.append_assoc, scan_encodeChar, ih, List.map_cons, List.cons_append]

/-- Text in front of other bytes is read as that text. -/
theorem decode_encode_append (s : String) (rest : List UInt8) :
    decode (encode s ++ rest) = s ++ decode rest := by
  have hread : (s.toList.map some).map (·.getD replacement) = s.toList := by
    rw [List.map_map]
    exact List.map_id' s.toList
  rw [decode, decode, encode, scan_encodeChars_append, List.map_append, hread, String.ofList_append,
    String.ofList_toList]

/-- Reading the bytes of a text gives the text. -/
theorem decode_encode (s : String) : decode (encode s) = s := by
  simpa [decode, scan] using decode_encode_append s []

/-- The bytes of a text hold no fault. -/
theorem decode?_encode (s : String) : decode? (encode s) = some s := by
  have hread : scan (encode s) = s.toList.map some := by
    simpa [encode, scan] using scan_encodeChars_append s.toList []
  have hmapM : ∀ cs : List Char, (cs.map some).mapM id = some cs := by
    intro cs
    induction cs with
    | nil => rfl
    | cons c cs ih =>
      rw [List.map_cons, List.mapM_cons, ih]
      rfl
  rw [decode?, hread, hmapM, Option.map_some, String.ofList_toList]

/-- A byte below `0x80` is written for one character only, the one with its number. -/
theorem toNat_eq_of_mem_encodeChar {c : Char} {b : UInt8} (hb : b.toNat < 0x80)
    (h : b ∈ String.utf8EncodeChar c) : c.toNat = b.toNat := by
  have hrange := toNat_range c
  have hval : c.val.toNat = c.toNat := rfl
  unfold String.utf8EncodeChar at h
  rw [hval] at h
  dsimp only at h
  split at h
  · rw [List.mem_singleton] at h
    rw [h, toNat_ofNat_of_lt (by omega)]
  · -- every byte of a longer form is `0x80` or more
    have hlong : ∀ n, 0x80 ≤ n → n < 256 → b ≠ UInt8.ofNat n := by
      rintro n hn hlt rfl
      rw [toNat_ofNat_of_lt hlt] at hb
      omega
    exfalso
    split at h
    · simp only [List.mem_cons, List.not_mem_nil, or_false] at h
      rcases h with h | h <;> exact hlong _ (by omega) (by omega) h
    · split at h
      · simp only [List.mem_cons, List.not_mem_nil, or_false] at h
        rcases h with h | h | h <;> exact hlong _ (by omega) (by omega) h
      · simp only [List.mem_cons, List.not_mem_nil, or_false] at h
        rcases h with h | h | h | h <;> exact hlong _ (by omega) (by omega) h

/-- A character below `0x80` that a text does not hold is no byte of it. -/
theorem notMem_encode {s : String} {c : Char} (hc : c.toNat < 0x80) (h : c ∉ s.toList) :
    UInt8.ofNat c.toNat ∉ encode s := by
  intro hmem
  have hbyte : (UInt8.ofNat c.toNat).toNat = c.toNat := toNat_ofNat_of_lt (by omega)
  obtain ⟨d, hd, hb⟩ := List.mem_flatMap.1 hmem
  have hsame : d.toNat = c.toNat := by
    rw [toNat_eq_of_mem_encodeChar (by omega) hb, hbyte]
  rw [Char.toNat_inj] at hsame
  exact h (hsame ▸ hd)

/-- A character below `0x80` is its own byte. -/
theorem encodeChar_of_ascii {c : Char} (h : c.toNat < 0x80) :
    String.utf8EncodeChar c = [UInt8.ofNat c.toNat] := by
  have hc : c.val.toNat ≤ 0x7F := Nat.le_of_lt_succ h
  show (if c.val.toNat ≤ 0x7F then [UInt8.ofNat c.val.toNat] else _) = _
  rw [if_pos hc]
  rfl

/-- Characters below `0x80` are their own bytes. -/
theorem encodeChars_of_ascii {cs : List Char} (h : ∀ c ∈ cs, c.toNat < 0x80) :
    encodeChars cs = cs.map fun c => UInt8.ofNat c.toNat := by
  induction cs with
  | nil => rfl
  | cons c cs ih =>
    rw [encodeChars_cons, encodeChar_of_ascii (h c List.mem_cons_self),
      ih fun d hd => h d (List.mem_cons_of_mem c hd), List.map_cons, List.singleton_append]

end SnapshotViewer.Text
