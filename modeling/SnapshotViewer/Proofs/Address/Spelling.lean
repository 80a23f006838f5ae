import Mathlib.Data.List.TakeWhile
import SnapshotViewer.Address.Basic
import SnapshotViewer.Proofs.Address.Form

/-!
# The spellings of a link

A list of names and values can be written in many ways.  Each byte of them may be escaped or not
where both are allowed, parts between separators may be empty, a question mark may stand in front
and blanks around everything.  Each of these links is read as the list; its written form is one of
them.

Whatever is spelled consists of tokens, so neither a separator nor a blank is in it that does not
belong there, and a link is cut where it was joined.

## Main definitions

* `Form.SpellsByte`, `Form.SpellsBytes`, `Form.SpellsPair` — ways to write a byte, bytes and a pair.
* `Form.SpellsParts` — the parts between separators.
* `Link`, `Link.Spells` — a whole link, and the pairs that it writes.
* `Link.written` — the link that is the written form of a list of pairs.

## Main statements

* `Form.decodeBytes_of_spells` — what is spelled is read back.
* `Form.SpellsParts.parse_intercalate` — parts that are joined are read as the pairs they spell.
* `Link.decode_text` — a link is read as the address that its pairs describe.
-/

namespace SnapshotViewer

namespace Form

/-! ## Bytes -/

/-- A character is a hexadecimal digit of this value, in either case. -/
def IsHexDigit (c : Char) (n : Nat) : Prop := c = Nat.digitChar n ∨ c = hexChar n

/-- The ways to write a byte. -/
inductive SpellsByte : UInt8 → List Char → Prop where
  /-- Letters, digits and `*-._` may stand for themselves. -/
  | itself {b : UInt8} (h : isPlain b = true) : SpellsByte b [Char.ofNat b.toNat]
  /-- A blank may be a plus sign. -/
  | plus : SpellsByte 0x20 ['+']
  /-- Every byte may be a percent sign and two hexadecimal digits. -/
  | escaped {b : UInt8} {high low : Char} (hhigh : IsHexDigit high (b.toNat / 16))
      (hlow : IsHexDigit low (b.toNat % 16)) : SpellsByte b ['%', high, low]

/-- One byte after the other, each in some way. -/
inductive SpellsBytes : List UInt8 → List Char → Prop where
  | nil : SpellsBytes [] []
  | cons {b : UInt8} {bs : List UInt8} {cs ds : List Char} (hb : SpellsByte b cs)
      (hbs : SpellsBytes bs ds) : SpellsBytes (b :: bs) (cs ++ ds)

/-- The ways to write a name with its value. -/
def SpellsPair (p : String × String) (cs : List Char) : Prop :=
  ∃ name value, SpellsBytes (Text.encode p.1) name ∧ SpellsBytes (Text.encode p.2) value ∧
    cs = name ++ '=' :: value

/-- Pairs in their order, with empty parts anywhere between them. -/
inductive SpellsParts : List (String × String) → List (List Char) → Prop where
  | nil : SpellsParts [] []
  | empty {ps : List (String × String)} {parts : List (List Char)} (h : SpellsParts ps parts) :
      SpellsParts ps ([] :: parts)
  | pair {p : String × String} {ps : List (String × String)} {cs : List Char}
      {parts : List (List Char)} (hp : SpellsPair p cs) (h : SpellsParts ps parts) :
      SpellsParts (p :: ps) (cs :: parts)

variable {b : UInt8} {bs : List UInt8} {c : Char} {cs ds : List Char} {p : String × String}
  {ps : List (String × String)} {parts : List (List Char)}

theorem hexValue?_digitChar : ∀ n < 16, hexValue? (byteOf (Nat.digitChar n)) = some n := by decide

theorem hexValue?_hexChar : ∀ n < 16, hexValue? (byteOf (hexChar n)) = some n := by decide

theorem isToken_digitChar : ∀ n < 16, isToken (Nat.digitChar n) = true := by decide

theorem isToken_hexChar : ∀ n < 16, isToken (hexChar n) = true := by decide

theorem IsHexDigit.hexValue? {n : Nat} (h : IsHexDigit c n) (hn : n < 16) :
    hexValue? (byteOf c) = some n := by
  rcases h with rfl | rfl
  · exact hexValue?_digitChar n hn
  · exact hexValue?_hexChar n hn

theorem IsHexDigit.isToken {n : Nat} (h : IsHexDigit c n) (hn : n < 16) : isToken c = true := by
  rcases h with rfl | rfl
  · exact isToken_digitChar n hn
  · exact isToken_hexChar n hn

theorem escaped?_of_isHexDigit {high low : Char} (hhigh : IsHexDigit high (b.toNat / 16))
    (hlow : IsHexDigit low (b.toNat % 16)) : escaped? (byteOf high) (byteOf low) = some b := by
  have hb : b.toNat < 256 := b.toNat_lt
  have hvalue : b.toNat / 16 * 16 + b.toNat % 16 = b.toNat := by omega
  simp only [escaped?, hhigh.hexValue? (by omega), hlow.hexValue? (by omega), bind, pure,
    Option.bind_some, hvalue, UInt8.ofNat_toNat]

/-- The written form of a byte is one of its spellings. -/
theorem spellsByte_encodeByte (b : UInt8) : SpellsByte b (encodeByte b) := by
  unfold encodeByte
  split
  · next hplain => exact .itself hplain
  · split
    · next hblank =>
      subst hblank
      exact .plus
    · exact .escaped (.inr rfl) (.inr rfl)

theorem spellsBytes_encoded (bs : List UInt8) : SpellsBytes bs (bs.flatMap encodeByte) := by
  induction bs with
  | nil => exact .nil
  | cons b bs ih =>
    rw [List.flatMap_cons]
    exact .cons (spellsByte_encodeByte b) ih

/-- A byte that stands for itself is a token that is neither a sign of a blank nor the start of an
escape. -/
theorem plain_cases : ∀ n < 256, isPlain (UInt8.ofNat n) = true →
    byteOf (Char.ofNat n) = UInt8.ofNat n ∧ isToken (Char.ofNat n) = true ∧
      n ≠ 0x2B ∧ n ≠ 0x25 := by
  decide +kernel

theorem plain_of_isPlain (h : isPlain b = true) :
    byteOf (Char.ofNat b.toNat) = b ∧ isToken (Char.ofNat b.toNat) = true ∧
      b ≠ 0x2B ∧ b ≠ 0x25 := by
  obtain ⟨hbyte, htoken, hplus, hpercent⟩ :=
    plain_cases b.toNat b.toNat_lt (by rwa [UInt8.ofNat_toNat])
  refine ⟨by rw [hbyte, UInt8.ofNat_toNat], htoken, ?_, ?_⟩
  · rintro rfl
    exact hplus rfl
  · rintro rfl
    exact hpercent rfl

theorem SpellsByte.isToken (h : SpellsByte b cs) (hc : c ∈ cs) : isToken c = true := by
  have hb : b.toNat < 256 := b.toNat_lt
  cases h with
  | itself hplain =>
    rw [List.mem_singleton.1 hc]
    exact (plain_of_isPlain hplain).2.1
  | plus =>
    rw [List.mem_singleton.1 hc]
    rfl
  | escaped hhigh hlow =>
    simp only [List.mem_cons, List.not_mem_nil, or_false] at hc
    rcases hc with rfl | rfl | rfl
    · rfl
    · exact hhigh.isToken (by omega)
    · exact hlow.isToken (by omega)

/-- However a byte is written, it is read. -/
theorem SpellsByte.decodeBytes (h : SpellsByte b cs) (rest : List UInt8) :
    decodeBytes (bytesOf cs ++ rest) = b :: Form.decodeBytes rest := by
  cases h with
  | itself hplain =>
    obtain ⟨hbyte, -, hplus, hpercent⟩ := plain_of_isPlain hplain
    simp only [bytesOf_cons, bytesOf_nil, hbyte, List.cons_append, List.nil_append]
    rw [Form.decodeBytes.eq_def]
    simp [hplus, hpercent]
  | plus =>
    simp only [bytesOf_cons, bytesOf_nil, List.cons_append, List.nil_append]
    rw [Form.decodeBytes.eq_def]
    rfl
  | escaped hhigh hlow =>
    simp only [bytesOf_cons, bytesOf_nil, List.cons_append, List.nil_append]
    rw [show byteOf '%' = 0x25 from rfl, Form.decodeBytes.eq_def]
    simp [escaped?_of_isHexDigit hhigh hlow]

/-! ## Texts -/

theorem SpellsBytes.isToken (h : SpellsBytes bs cs) (hc : c ∈ cs) : isToken c = true := by
  induction h with
  | nil => cases hc
  | cons hb _ ih => exact (List.mem_append.1 hc).elim hb.isToken ih

theorem decodeBytes_of_spells (h : SpellsBytes bs cs) : decodeBytes (bytesOf cs) = bs := by
  induction h with
  | nil => rfl
  | cons hb _ ih => rw [bytesOf_append, hb.decodeBytes, ih]

theorem decodeText_of_spells {s : String} (h : SpellsBytes (Text.encode s) cs) :
    decodeText (bytesOf cs) = s := by
  rw [decodeText, decodeBytes_of_spells h, Text.decode_encode]

/-- No separator is among the bytes of a spelled text. -/
theorem SpellsBytes.separators_notMem (h : SpellsBytes bs cs) :
    0x26 ∉ bytesOf cs ∧ 0x3D ∉ bytesOf cs := by
  constructor <;> intro hmem <;> obtain ⟨c, hc, he⟩ := List.mem_map.1 hmem
  · exact (byteOf_ne_of_isToken (h.isToken hc)).1 he
  · exact (byteOf_ne_of_isToken (h.isToken hc)).2 he

/-! ## Pairs and parts -/

/-- The written form of a name and its value. -/
def encodePair (p : String × String) : List Char := encodeText p.1 ++ '=' :: encodeText p.2

theorem render_eq (pairs : List (String × String)) :
    render pairs = String.ofList (List.intercalate ['&'] (pairs.map encodePair)) := rfl

theorem spellsPair_encodePair (p : String × String) : SpellsPair p (encodePair p) :=
  ⟨encodeText p.1, encodeText p.2, spellsBytes_encoded _, spellsBytes_encoded _, rfl⟩

namespace SpellsPair

theorem isTextual (h : SpellsPair p cs) (hc : c ∈ cs) : isTextual c = true := by
  obtain ⟨name, value, hname, hvalue, rfl⟩ := h
  rw [List.mem_append, List.mem_cons] at hc
  rcases hc with hc | rfl | hc
  · exact isTextual_of_isToken (hname.isToken hc)
  · rfl
  · exact isTextual_of_isToken (hvalue.isToken hc)

theorem ne_nil (h : SpellsPair p cs) : bytesOf cs ≠ [] := by
  obtain ⟨name, value, -, -, rfl⟩ := h
  rw [bytesOf_append]
  exact List.append_ne_nil_of_right_ne_nil _ (List.cons_ne_nil _ _)

theorem ampersand_notMem (h : SpellsPair p cs) : 0x26 ∉ bytesOf cs := by
  obtain ⟨name, value, hname, hvalue, rfl⟩ := h
  rw [bytesOf_append, bytesOf_cons, List.mem_append, List.mem_cons]
  rintro (hmem | hmem | hmem)
  · exact hname.separators_notMem.1 hmem
  · exact absurd hmem (by decide)
  · exact hvalue.separators_notMem.1 hmem

theorem parsePart (h : SpellsPair p cs) : parsePart (bytesOf cs) = p := by
  obtain ⟨name, value, hname, hvalue, rfl⟩ := h
  rw [Form.parsePart, bytesOf_append, bytesOf_cons, show byteOf '=' = 0x3D from rfl,
    splitPair_append hname.separators_notMem.2]
  simp only [decodeText_of_spells hname, decodeText_of_spells hvalue]

end SpellsPair

namespace SpellsParts

theorem isTextual (h : SpellsParts ps parts) (hcs : cs ∈ parts) (hc : c ∈ cs) :
    isTextual c = true := by
  induction h with
  | nil => cases hcs
  | empty _ ih =>
    rcases List.mem_cons.1 hcs with rfl | hcs
    · cases hc
    · exact ih hcs
  | pair hp _ ih =>
    rcases List.mem_cons.1 hcs with rfl | hcs
    · exact hp.isTextual hc
    · exact ih hcs

theorem ampersand_notMem (h : SpellsParts ps parts) (hcs : cs ∈ parts) : 0x26 ∉ bytesOf cs := by
  induction h with
  | nil => cases hcs
  | empty _ ih =>
    rcases List.mem_cons.1 hcs with rfl | hcs
    · exact List.not_mem_nil
    · exact ih hcs
  | pair hp _ ih =>
    rcases List.mem_cons.1 hcs with rfl | hcs
    · exact hp.ampersand_notMem
    · exact ih hcs

/-- The parts that are not empty are the pairs. -/
theorem map_parsePart (h : SpellsParts ps parts) :
    ((parts.map bytesOf).filter (!·.isEmpty)).map Form.parsePart = ps := by
  induction h with
  | nil => rfl
  | empty _ ih => simpa using ih
  | pair hp _ ih =>
    rw [List.map_cons, List.filter_cons_of_pos (by simpa using hp.ne_nil), List.map_cons,
      hp.parsePart, ih]

theorem isTextual_intercalate (h : SpellsParts ps parts) (hc : c ∈ List.intercalate ['&'] parts) :
    Form.isTextual c = true := by
  rcases mem_intercalate hc with rfl | ⟨cs, hcs, hc⟩
  · rfl
  · exact h.isTextual hcs hc

/-- Parts that are joined are cut into the same parts. -/
theorem parse_intercalate (h : SpellsParts ps parts) :
    parse (String.ofList (List.intercalate ['&'] parts)) = ps := by
  have hascii : ∀ c ∈ List.intercalate ['&'] parts, c.toNat < 0x80 := fun c hc =>
    toNat_lt_of_isTextual (h.isTextual_intercalate hc)
  have hbytes : Text.encode (String.ofList (List.intercalate ['&'] parts)) =
      List.intercalate [0x26] (parts.map bytesOf) := by
    rw [Text.encode, String.toList_ofList, Text.encodeChars_of_ascii hascii, map_intercalate]
    rfl
  rw [parse, hbytes]
  cases parts with
  | nil =>
    cases h
    rfl
  | cons cs parts =>
    have hcut : Form.parts 0x26 (List.intercalate [0x26] ((cs :: parts).map bytesOf)) =
        (cs :: parts).map bytesOf := by
      refine parts_intercalate _ _ (h.ampersand_notMem List.mem_cons_self) fun q hq => ?_
      obtain ⟨ds, hds, rfl⟩ := List.mem_map.1 hq
      exact h.ampersand_notMem (List.mem_cons_of_mem cs hds)
    rw [hcut, h.map_parsePart]

/-- Written pairs are parts without an empty one. -/
theorem encodePairs (ps : List (String × String)) : SpellsParts ps (ps.map encodePair) := by
  induction ps with
  | nil => exact .nil
  | cons p ps ih => exact .pair (spellsPair_encodePair p) ih

end SpellsParts

theorem isTextual_of_mem_render (h : c ∈ (render ps).toList) : isTextual c = true := by
  rw [render_eq, String.toList_ofList] at h
  exact (SpellsParts.encodePairs ps).isTextual_intercalate h

end Form

/-! ## Blanks around a text -/

namespace Text

/-- Blanks around a text without blanks are cut off. -/
theorem trimChars_surrounded {before cs after : List Char}
    (hbefore : ∀ c ∈ before, isBlank c = true) (hcs : ∀ c ∈ cs, isBlank c = false)
    (hafter : ∀ c ∈ after, isBlank c = true) :
    trimChars (before ++ cs ++ after) = cs := by
  have hafter' : ∀ c ∈ after.reverse, isBlank c = true := fun c hc =>
    hafter c (List.mem_reverse.1 hc)
  have hcs' : ∀ c ∈ cs.reverse, isBlank c = false := fun c hc => hcs c (List.mem_reverse.1 hc)
  rw [trimChars, List.append_assoc, List.dropWhile_append_of_pos hbefore]
  cases cs with
  | nil =>
    rw [List.nil_append, List.dropWhile_eq_nil_iff.2 hafter]
    rfl
  | cons c cs =>
    have hc : ¬ isBlank c = true := by simp [hcs c List.mem_cons_self]
    rw [List.cons_append, List.dropWhile_cons_of_neg hc, ← List.cons_append, dropEnd,
      List.reverse_append, List.dropWhile_append_of_pos hafter', dropWhile_blank_eq_self hcs',
      List.reverse_reverse]

end Text

/-! ## Links -/

/-- A link: parts with separators between them, perhaps a question mark in front, and what is around
it. -/
structure Link where
  before : List Char := []
  question : Bool := false
  parts : List (List Char)
  after : List Char := []
deriving DecidableEq, Repr

namespace Link

variable {l : Link} {ps : List (String × String)}

/-- The characters of a link without what is around it. -/
def body (l : Link) : List Char :=
  (if l.question then ['?'] else []) ++ List.intercalate ['&'] l.parts

/-- The text of a link. -/
def text (l : Link) : String := String.ofList (l.before ++ l.body ++ l.after)

/-- A link writes some pairs: its parts do, and there are only blanks around it. -/
structure Spells (l : Link) (ps : List (String × String)) : Prop where
  before : ∀ c ∈ l.before, Text.isBlank c = true
  parts : Form.SpellsParts ps l.parts
  after : ∀ c ∈ l.after, Text.isBlank c = true

/-- What is around a link is cut off, and so is its question mark. -/
theorem bare_text (h : l.Spells ps) :
    Address.bare l.text = String.ofList (List.intercalate ['&'] l.parts) := by
  have htextual : ∀ c ∈ List.intercalate ['&'] l.parts, Form.isTextual c = true := fun c =>
    h.parts.isTextual_intercalate
  have hbody : ∀ c ∈ l.body, Text.isBlank c = false := by
    intro c hc
    rcases List.mem_append.1 hc with hc | hc
    · split at hc
      · rw [List.mem_singleton.1 hc]
        rfl
      · cases hc
    · exact Form.isBlank_of_isTextual (htextual c hc)
  unfold Address.bare
  rw [text, String.toList_ofList, Text.trimChars_surrounded h.before hbody h.after, body]
  cases l.question with
  | true => rfl
  | false =>
    -- no question mark is written that is not the one in front
    simp only [Bool.false_eq_true, if_false, List.nil_append]
    split
    · next rest heq =>
      have hmem : '?' ∈ List.intercalate ['&'] l.parts := by simp [heq]
      exact absurd rfl (Form.ne_question_of_isTextual (htextual _ hmem))
    · rfl

/-- A link is read as the pairs that it writes. -/
theorem parse_bare (h : l.Spells ps) : Form.parse (Address.bare l.text) = ps := by
  rw [bare_text h, h.parts.parse_intercalate]

theorem decode_text (h : l.Spells ps) : Address.decode l.text = Address.ofPairs ps := by
  rw [Address.decode, parse_bare h]

/-- The link that is the written form of a list of pairs. -/
def written (ps : List (String × String)) : Link where
  parts := ps.map Form.encodePair

theorem text_written (ps : List (String × String)) : (written ps).text = Form.render ps := by
  simp [text, body, written, Form.render_eq]

theorem spells_written (ps : List (String × String)) : (written ps).Spells ps where
  before := by simp [written]
  parts := .encodePairs ps
  after := by simp [written]

end Link

end SnapshotViewer
