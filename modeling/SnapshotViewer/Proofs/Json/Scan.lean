import SnapshotViewer.Json.Decoder
import SnapshotViewer.Proofs.Json.Grammar
import SnapshotViewer.Proofs.Number.Decimal

/-!
# Scanning is complete

From each text that the grammar allows the scanner makes the tree that the text writes.  That
follows the derivation of the text, with what stands behind it kept general: behind a number there
must be something that does not go on with it, and the scanner must be allowed enough steps, twice
as many as there are characters.

## Main definitions

* `EndsNumber` — a text does not go on with a number.
* `ReadsMember` — a text is a member of a record, as the scanner takes it apart.

## Main statements

* `SpellsNumber.scan`, `SpellsPieces.scan`, `SpellsValue.scan` — what is written is scanned.
* `SpellsText.scanBytes`, `SpellsText.decodeText` — whole texts.
-/

namespace SnapshotViewer.Json

variable {g cs ds : List Char} {c : Char} {b : UInt8} {s rest : List UInt8} {fuel : Nat}

/-! ## Blanks and bytes -/

/-- What is decided for each item of a list holds for all of them. -/
theorem forall_mem_of_all {α : Type} {P : α → Prop} [DecidablePred P] {xs : List α}
    (h : xs.all (P ·) = true) : ∀ x ∈ xs, P x :=
  fun x hx => of_decide_eq_true (List.all_eq_true.1 h x hx)

theorem encodeChars_ascii_cons (h : c.toNat < 0x80) (cs : List Char) :
    Text.encodeChars (c :: cs) = UInt8.ofNat c.toNat :: Text.encodeChars cs := by
  rw [Text.encodeChars_cons, Text.encodeChar_of_ascii h, List.singleton_append]

theorem isByte_ofNat {c' : Char} (h : c.toNat < 0x80) :
    isByte c' (UInt8.ofNat c.toNat) = (c == c') := by
  rw [isByte, Text.toNat_ofNat_of_lt (by omega), Bool.eq_iff_iff, beq_iff_eq, beq_iff_eq,
    Char.toNat_inj]

theorem toNat_of_blank (h : c ∈ [' ', '\t', '\n', '\r']) : c.toNat < 0x80 := by
  have hall : ∀ c ∈ [' ', '\t', '\n', '\r'], c.toNat < 0x80 := forall_mem_of_all (by decide)
  exact hall c h

theorem isGap_ofNat (h : c.toNat < 0x80) :
    isGap (UInt8.ofNat c.toNat) = true ↔ c ∈ [' ', '\t', '\n', '\r'] := by
  simp only [isGap, isByte_ofNat h, Bool.or_eq_true, beq_iff_eq, List.mem_cons, List.not_mem_nil,
    or_false]
  grind

theorem skipGap_blank (hg : IsBlank g) (rest : List UInt8) :
    skipGap (Text.encodeChars g ++ rest) = skipGap rest := by
  induction g with
  | nil => rfl
  | cons c g ih =>
    have hc := hg c List.mem_cons_self
    have hascii := toNat_of_blank hc
    rw [encodeChars_ascii_cons hascii, List.cons_append, skipGap,
      List.dropWhile_cons_of_pos ((isGap_ofNat hascii).2 hc)]
    exact ih fun d hd => hg d (List.mem_cons_of_mem c hd)

theorem skipGap_cons (h : isGap b = false) (s : List UInt8) : skipGap (b :: s) = b :: s :=
  List.dropWhile_cons_of_neg (by simp [h])

/-- The text does not begin with such a byte. -/
def StartsOff (p : UInt8 → Bool) (s : List UInt8) : Prop := ∀ b ∈ s.head?, p b = false

/-- No number goes on with this text. -/
structure EndsNumber (s : List UInt8) : Prop where
  digit : StartsOff isDigitByte s
  point : StartsOff (isByte '.') s
  lower : StartsOff (isByte 'e') s
  upper : StartsOff (isByte 'E') s

theorem startsOff_nil (p : UInt8 → Bool) : StartsOff p [] := fun _ hb => nomatch hb

theorem startsOff_cons {p : UInt8 → Bool} (h : p b = false) (s : List UInt8) :
    StartsOff p (b :: s) := by
  simpa [StartsOff] using h

theorem endsNumber_nil : EndsNumber [] :=
  ⟨startsOff_nil _, startsOff_nil _, startsOff_nil _, startsOff_nil _⟩

/-! ## Numbers -/

theorem isDigitByte_ofNat (h : c.isDigit = true) : isDigitByte (UInt8.ofNat c.toNat) = true := by
  have hbounds := toNat_of_isDigit h
  simp [isDigitByte, Text.toNat_ofNat_of_lt (n := c.toNat) (by omega)]
  omega

theorem isByte_of_isDigitByte {c : Char} (hb : isDigitByte b = true)
    (hc : c.toNat < '0'.toNat ∨ '9'.toNat < c.toNat) : isByte c b = false := by
  simp only [isDigitByte, Bool.and_eq_true, decide_eq_true_eq] at hb
  simp only [isByte, beq_eq_false_iff_ne]
  omega

theorem spanDigits_append (hds : ∀ d ∈ ds, d.isDigit = true) (hrest : StartsOff isDigitByte rest) :
    spanDigits (Text.encodeChars ds ++ rest) = (ds, rest) := by
  induction ds with
  | nil =>
    cases rest with
    | nil => rfl
    | cons b rest =>
      have hb : isDigitByte b = false := hrest b rfl
      simp [spanDigits, hb]
  | cons d ds ih =>
    have hd := hds d List.mem_cons_self
    have hbounds := toNat_of_isDigit hd
    have hrest := ih fun d hd => hds d (List.mem_cons_of_mem _ hd)
    simp only [spanDigits, Prod.mk.injEq] at hrest
    rw [encodeChars_ascii_cons (by omega)]
    simp [spanDigits, isDigitByte_ofNat hd, Text.toNat_ofNat_of_lt (n := d.toNat) (by omega), hrest]

theorem IsDigitRun.scanDigits (hds : IsDigitRun ds) (hrest : StartsOff isDigitByte rest) :
    scanDigits (Text.encodeChars ds ++ rest) = .ok (ds, rest) := by
  rw [Json.scanDigits, spanDigits_append hds.isDigit hrest]
  cases ds with
  | nil => exact absurd rfl hds.ne_nil
  | cons d ds => rfl

theorem IsDigitRun.scanWhole (hds : IsDigitRun ds) (hzero : ds.head? = some '0' → ds = ['0'])
    (hrest : StartsOff isDigitByte rest) :
    scanWhole (Text.encodeChars ds ++ rest) = .ok (ds, rest) := by
  simp only [Json.scanWhole, hds.scanDigits hrest, bind, Except.bind]
  split
  · have hzero := hzero rfl
    simp at hzero
  · rfl

theorem SpellsFraction.scan {fraction : Option (List Char)} (h : SpellsFraction fraction cs)
    (hdigit : StartsOff isDigitByte rest) (hpoint : StartsOff (isByte '.') rest) :
    scanFraction (Text.encodeChars cs ++ rest) = .ok (fraction, rest) := by
  cases h with
  | none =>
    cases rest with
    | nil => rfl
    | cons b rest => simp [scanFraction, hpoint b rfl, pure, Except.pure]
  | some hds =>
    rw [encodeChars_ascii_cons (by decide), List.cons_append, scanFraction,
      if_pos (by rfl), hds.scanDigits hdigit]
    rfl

theorem toNat_of_exponentLetter {e : Char} (he : e = 'e' ∨ e = 'E') : e.toNat < 0x80 := by
  rcases he with rfl | rfl <;> decide

theorem isByte_of_exponentLetter {e : Char} (he : e = 'e' ∨ e = 'E') :
    (isByte 'e' (UInt8.ofNat e.toNat) || isByte 'E' (UInt8.ofNat e.toNat)) = true := by
  rcases he with rfl | rfl <;> decide

theorem SpellsExponent.scan {exponent : Option (Bool × List Char)}
    (h : SpellsExponent exponent cs) (hrest : EndsNumber rest) :
    scanExponent (Text.encodeChars cs ++ rest) = .ok (exponent, rest) := by
  cases h with
  | none =>
    cases rest with
    | nil => rfl
    | cons b rest => simp [scanExponent, hrest.lower b rfl, hrest.upper b rfl, pure, Except.pure]
  | @bare e ds he hds =>
    have hdigits := hds.scanDigits hrest.digit
    obtain ⟨d, ds, rfl⟩ := List.exists_cons_of_ne_nil hds.ne_nil
    have hd := hds.isDigit d List.mem_cons_self
    have hbounds := toNat_of_isDigit hd
    -- the first digit is not taken for a sign
    have hminus : isByte '-' (UInt8.ofNat d.toNat) = false :=
      isByte_of_isDigitByte (isDigitByte_ofNat hd) (by decide)
    have hplus : isByte '+' (UInt8.ofNat d.toNat) = false :=
      isByte_of_isDigitByte (isDigitByte_ofNat hd) (by decide)
    rw [encodeChars_ascii_cons (by omega), List.cons_append] at hdigits
    rw [encodeChars_ascii_cons (toNat_of_exponentLetter he), List.cons_append,
      encodeChars_ascii_cons (by omega), List.cons_append, scanExponent,
      if_pos (isByte_of_exponentLetter he)]
    simp only [hminus, hplus, Bool.false_eq_true, if_false, hdigits]
    rfl
  | plus he hds =>
    rw [encodeChars_ascii_cons (toNat_of_exponentLetter he), List.cons_append,
      encodeChars_ascii_cons (by decide), List.cons_append, scanExponent,
      if_pos (isByte_of_exponentLetter he)]
    simp [isByte, hds.scanDigits hrest.digit, bind, Except.bind, pure, Except.pure]
  | minus he hds =>
    rw [encodeChars_ascii_cons (toNat_of_exponentLetter he), List.cons_append,
      encodeChars_ascii_cons (by decide), List.cons_append, scanExponent,
      if_pos (isByte_of_exponentLetter he)]
    simp [isByte, hds.scanDigits hrest.digit, bind, Except.bind, pure, Except.pure]

/-- In front of an exponent there is no further digit and no point. -/
theorem SpellsExponent.startsOff {exponent : Option (Bool × List Char)}
    (h : SpellsExponent exponent cs) (hrest : EndsNumber rest) :
    StartsOff isDigitByte (Text.encodeChars cs ++ rest) ∧
      StartsOff (isByte '.') (Text.encodeChars cs ++ rest) := by
  have hletter : ∀ {e : Char} {es : List Char}, e = 'e' ∨ e = 'E' →
      StartsOff isDigitByte (Text.encodeChars (e :: es) ++ rest) ∧
        StartsOff (isByte '.') (Text.encodeChars (e :: es) ++ rest) := by
    rintro e es (rfl | rfl) <;> rw [encodeChars_ascii_cons (by decide)] <;>
      exact ⟨startsOff_cons (by decide) _, startsOff_cons (by decide) _⟩
  cases h with
  | none => exact ⟨hrest.digit, hrest.point⟩
  | bare he _ | plus he _ | minus he _ => exact hletter he

/-- In front of a fraction there is no further digit. -/
theorem SpellsFraction.startsOff {fraction : Option (List Char)} (h : SpellsFraction fraction cs)
    (hrest : StartsOff isDigitByte rest) :
    StartsOff isDigitByte (Text.encodeChars cs ++ rest) := by
  cases h with
  | none => exact hrest
  | some _ =>
    rw [encodeChars_ascii_cons (by decide)]
    exact startsOff_cons (by decide) _

theorem SpellsUnsigned.scan {negative : Bool} {l : Literal} (h : SpellsUnsigned negative l cs)
    (hrest : EndsNumber rest) :
    scanNumber negative (Text.encodeChars cs ++ rest) = (.number l, some rest) := by
  cases h with
  | mk hwhole hzero hfraction hexponent =>
    obtain ⟨hdigit, hpoint⟩ := hexponent.startsOff hrest
    rw [scanNumber, scanLiteral, Text.encodeChars_append, Text.encodeChars_append,
      List.append_assoc, List.append_assoc, hwhole.scanWhole hzero (hfraction.startsOff hdigit)]
    simp only [bind, Except.bind, hfraction.scan hdigit hpoint, hexponent.scan hrest]
    rfl

/-! ## Strings -/

section String
variable {q : Quoted} {left : List UInt8}

theorem scanString_byte (hquote : isByte '"' b = false) (hslash : isByte '\\' b = false)
    (hcontrol : ¬ b < 0x20) (hrest : scanString rest = (q, left)) :
    scanString (b :: rest) = (q.cons (.byte b), left) := by
  rw [scanString.eq_def]
  simp [hquote, hslash, hcontrol, hrest]

/-- Bytes of text are scanned one by one. -/
theorem scanString_bytes {bs : List UInt8} (h : ∀ b ∈ bs,
      isByte '"' b = false ∧ isByte '\\' b = false ∧ ¬ b < 0x20)
    (hrest : scanString rest = (q, left)) :
    scanString (bs ++ rest) = (⟨bs.map .byte ++ q.pieces, q.fault⟩, left) := by
  induction bs with
  | nil => exact hrest
  | cons b bs ih =>
    obtain ⟨hquote, hslash, hcontrol⟩ := h b List.mem_cons_self
    exact scanString_byte hquote hslash hcontrol
      (ih fun b' hb' => h b' (List.mem_cons_of_mem b hb'))

theorem scanString_char (hcontrol : 0x20 ≤ c.toNat) (hquote : c ≠ '"') (hslash : c ≠ '\\')
    (hrest : scanString rest = (q, left)) :
    scanString (String.utf8EncodeChar c ++ rest) =
      (⟨(String.utf8EncodeChar c).map .byte ++ q.pieces, q.fault⟩, left) := by
  refine scanString_bytes (fun b hb => ?_) hrest
  -- a byte below `0x80` is the character itself
  have hbyte : b.toNat < 0x80 → c.toNat = b.toNat :=
    fun hlt => Text.toNat_eq_of_mem_encodeChar hlt hb
  have hne : ∀ c' : Char, c'.toNat < 0x80 → c ≠ c' → isByte c' b = false := by
    intro c' hc' hcc'
    rw [isByte, beq_eq_false_iff_ne]
    intro heq
    exact hcc' (Char.toNat_inj.1 ((hbyte (by omega)).trans heq))
  refine ⟨hne _ (by decide) hquote, hne _ (by decide) hslash, fun hlt => ?_⟩
  have hlt : b.toNat < 0x20 := hlt
  have heq := hbyte (by omega)
  omega

theorem IsHexDigit.hexDigit? {n : Nat} (h : IsHexDigit c n) :
    c.toNat < 0x80 ∧ Json.hexDigit? (UInt8.ofNat c.toNat) = some n := by
  have hlower : ∀ n < 16, (Nat.digitChar n).toNat < 0x80 ∧
      Json.hexDigit? (UInt8.ofNat (Nat.digitChar n).toNat) = some n := by decide
  have hupper : ∀ n < 16, (Nat.digitChar n).toUpper.toNat < 0x80 ∧
      Json.hexDigit? (UInt8.ofNat (Nat.digitChar n).toUpper.toNat) = some n := by decide
  obtain ⟨hn, rfl | rfl⟩ := h
  · exact hlower n hn
  · exact hupper n hn

theorem escapedByte?_of_mem : ∀ e c, (e, c) ∈ letterEscapes →
    e.toNat < 0x80 ∧ isByte 'u' (UInt8.ofNat e.toNat) = false ∧
      escapedByte? (UInt8.ofNat e.toNat) = some (UInt8.ofNat c.toNat) := by
  have hall : ∀ x ∈ letterEscapes, x.1.toNat < 0x80 ∧
      isByte 'u' (UInt8.ofNat x.1.toNat) = false ∧
      escapedByte? (UInt8.ofNat x.1.toNat) = some (UInt8.ofNat x.2.toNat) :=
    forall_mem_of_all (by decide)
  exact fun e c h => hall (e, c) h

theorem scanString_letter {e : UInt8} (hunit : isByte 'u' e = false)
    (he : escapedByte? e = some b) (hrest : scanString rest = (q, left)) :
    scanString (UInt8.ofNat '\\'.toNat :: e :: rest) = (q.cons (.byte b), left) := by
  have hquote : isByte '"' (UInt8.ofNat '\\'.toNat) = false := rfl
  have hslash : isByte '\\' (UInt8.ofNat '\\'.toNat) = true := rfl
  rw [scanString.eq_def]
  simp only [hquote, hslash, hunit, he, hrest, Bool.false_eq_true, if_false, if_true]

theorem scanString_unit {e₁ e₂ e₃ e₄ : UInt8} {u : Nat} (hu : hexUnit? e₁ e₂ e₃ e₄ = some u)
    (hrest : scanString rest = (q, left)) :
    scanString (UInt8.ofNat '\\'.toNat :: UInt8.ofNat 'u'.toNat :: e₁ :: e₂ :: e₃ :: e₄ :: rest) =
      (q.cons (.unit u), left) := by
  rw [scanString.eq_def]
  simp [isByte, hu, hrest]

/-- A string is scanned up to its closing quote. -/
theorem SpellsPieces.scan {ps : List Piece} (h : SpellsPieces ps cs) (rest : List UInt8) :
    scanString (Text.encodeChars cs ++ UInt8.ofNat '"'.toNat :: rest) = (⟨ps, none⟩, rest) := by
  induction h with
  | nil =>
    rw [Text.encodeChars_nil, List.nil_append, scanString.eq_def]
    rfl
  | plain hcontrol hquote hslash _ ih =>
    rw [Text.encodeChars_cons, List.append_assoc, scanString_char hcontrol hquote hslash ih]
  | letter he _ ih =>
    obtain ⟨hascii, hunit, hescaped⟩ := escapedByte?_of_mem _ _ he
    rw [encodeChars_ascii_cons (by decide), encodeChars_ascii_cons hascii, List.cons_append,
      List.cons_append, scanString_letter hunit hescaped ih]
    rfl
  | unit h₁ h₂ h₃ h₄ _ ih =>
    obtain ⟨hascii₁, hdigit₁⟩ := h₁.hexDigit?
    obtain ⟨hascii₂, hdigit₂⟩ := h₂.hexDigit?
    obtain ⟨hascii₃, hdigit₃⟩ := h₃.hexDigit?
    obtain ⟨hascii₄, hdigit₄⟩ := h₄.hexDigit?
    rw [encodeChars_ascii_cons (by decide), encodeChars_ascii_cons (by decide),
      encodeChars_ascii_cons hascii₁, encodeChars_ascii_cons hascii₂,
      encodeChars_ascii_cons hascii₃, encodeChars_ascii_cons hascii₄]
    exact scanString_unit (by simp [hexUnit?, hdigit₁, hdigit₂, hdigit₃, hdigit₄]) ih

end String

/-! ## Values -/

/-- What closes a list or a record, what parts its members and what is blank does not go on with a
number. -/
theorem endsNumber_cons (hc : c ∈ [',', ']', '\x7d', ' ', '\t', '\n', '\r']) (s : List UInt8) :
    EndsNumber (UInt8.ofNat c.toNat :: s) := by
  have hall : ∀ c ∈ [',', ']', '\x7d', ' ', '\t', '\n', '\r'],
      isDigitByte (UInt8.ofNat c.toNat) = false ∧ isByte '.' (UInt8.ofNat c.toNat) = false ∧
      isByte 'e' (UInt8.ofNat c.toNat) = false ∧ isByte 'E' (UInt8.ofNat c.toNat) = false :=
    forall_mem_of_all (by decide)
  obtain ⟨hdigit, hpoint, hlower, hupper⟩ := hall c hc
  exact ⟨startsOff_cons hdigit s, startsOff_cons hpoint s, startsOff_cons hlower s,
    startsOff_cons hupper s⟩

/-- Blanks do not go on with a number if what follows does not. -/
theorem endsNumber_blank (hg : IsBlank g) (hrest : EndsNumber rest) :
    EndsNumber (Text.encodeChars g ++ rest) := by
  cases g with
  | nil => exact hrest
  | cons c g =>
    have hc := hg c List.mem_cons_self
    rw [encodeChars_ascii_cons (toNat_of_blank hc)]
    exact endsNumber_cons (List.mem_of_mem_drop (i := 3) hc) _

theorem SpellsUnsigned.begins {negative : Bool} {l : Literal} (h : SpellsUnsigned negative l cs) :
    ∃ c ds, cs = c :: ds ∧ c.isDigit = true := by
  cases h with
  | @mk whole _ _ fs es hwhole _ _ _ =>
    obtain ⟨c, ds, rfl⟩ := List.exists_cons_of_ne_nil hwhole.ne_nil
    exact ⟨c, ds ++ (fs ++ es), rfl, hwhole.isDigit c List.mem_cons_self⟩

/-- A value begins with a byte that is no blank and does not close a list. -/
theorem SpellsValue.begins {d : Doc} (h : SpellsValue d cs) : ∃ b s,
    Text.encodeChars cs = b :: s ∧ isGap b = false ∧ isByte ']' b = false := by
  have hascii : ∀ c ∈ ['n', 't', 'f', '-', '"', '[', '\x7b'], c.toNat < 0x80 ∧
      isGap (UInt8.ofNat c.toNat) = false ∧ isByte ']' (UInt8.ofNat c.toNat) = false :=
    forall_mem_of_all (by decide)
  have hbegins : ∀ c ∈ ['n', 't', 'f', '-', '"', '[', '\x7b'], ∀ ds, ∃ b s,
      Text.encodeChars (c :: ds) = b :: s ∧ isGap b = false ∧ isByte ']' b = false := fun c hc ds =>
    ⟨_, _, encodeChars_ascii_cons (hascii c hc).1 ds, (hascii c hc).2⟩
  cases h with
  | null | string _ | emptyArray _ | array _ _ | emptyObject _ | object _ _ =>
    exact hbegins _ (by decide) _
  | bool b => cases b <;> exact hbegins _ (by decide) _
  | number h =>
    cases h with
    | minus _ => exact hbegins _ (by decide) _
    | plain h =>
      obtain ⟨c, ds, rfl, hc⟩ := h.begins
      have hbounds := toNat_of_isDigit hc
      have hdigit := isDigitByte_ofNat hc
      refine ⟨_, _, encodeChars_ascii_cons (by omega) ds, ?_,
        isByte_of_isDigitByte hdigit (by decide)⟩
      simp [isGap, isByte_of_isDigitByte hdigit]

theorem SpellsItems.begins {items : List Doc} (h : SpellsItems items cs) : ∃ b s,
    Text.encodeChars cs = b :: s ∧ isGap b = false ∧ isByte ']' b = false := by
  have happend : ∀ {cs ds : List Char} {d : Doc}, SpellsValue d cs → ∃ b s,
      Text.encodeChars (cs ++ ds) = b :: s ∧ isGap b = false ∧ isByte ']' b = false := by
    intro cs ds d h
    obtain ⟨b, s, hs, hb⟩ := h.begins
    exact ⟨b, s ++ Text.encodeChars ds, by rw [Text.encodeChars_append, hs, List.cons_append], hb⟩
  cases h with
  | last h _ | cons h _ _ _ => exact happend h

theorem SpellsValue.length_pos {d : Doc} (h : SpellsValue d cs) : 0 < cs.length := by
  obtain ⟨b, s, hs, -⟩ := h.begins
  refine List.length_pos_iff.2 fun hcs => ?_
  rw [hcs] at hs
  cases hs

theorem SpellsMember.length_pos {m : Quoted × Doc} (h : SpellsMember m cs) : 0 < cs.length := by
  cases h
  exact Nat.succ_pos _

theorem scanValue_blank (hg : IsBlank g) (fuel : Nat) (rest : List UInt8) :
    scanValue fuel (Text.encodeChars g ++ rest) = scanValue fuel rest := by
  cases fuel with
  | zero => rw [scanValue, scanValue]
  | succ fuel => rw [scanValue, scanValue, skipGap_blank hg]

theorem SpellsNumber.scan {l : Literal} (h : SpellsNumber l cs) (fuel : Nat)
    (hrest : EndsNumber rest) :
    scanValue (fuel + 1) (Text.encodeChars cs ++ rest) = (.number l, some rest) := by
  cases h with
  | plain h =>
    rw [← h.scan hrest]
    obtain ⟨c, ds, rfl, hc⟩ := h.begins
    have hbounds := toNat_of_isDigit hc
    have hb := isDigitByte_ofNat hc
    have hgap : isGap (UInt8.ofNat c.toNat) = false := by simp [isGap, isByte_of_isDigitByte hb]
    rw [encodeChars_ascii_cons (by omega)]
    simp [scanValue, skipGap_cons hgap, hb, isByte_of_isDigitByte hb]
  | minus h =>
    rw [← h.scan hrest, encodeChars_ascii_cons (by decide), List.cons_append, scanValue,
      skipGap_cons (by decide)]
    rfl

theorem skipGap_blank_ascii (hg : IsBlank g) (hascii : c.toNat < 0x80)
    (hgap : isGap (UInt8.ofNat c.toNat) = false) (cs : List Char) (rest : List UInt8) :
    skipGap (Text.encodeChars (g ++ c :: cs) ++ rest) =
      UInt8.ofNat c.toNat :: (Text.encodeChars cs ++ rest) := by
  rw [Text.encodeChars_append, List.append_assoc, skipGap_blank hg, encodeChars_ascii_cons hascii,
    List.cons_append, skipGap_cons hgap]

/-! ## Items and members -/

section Steps
variable {d : Doc} {items : List Doc} {m : Quoted × Doc} {ms : List (Quoted × Doc)}
  {ps : List Piece} {t u v : List UInt8} {left : Option (List UInt8)}

theorem scanItems_last (hd : scanValue fuel s = (d, some t))
    (ht : skipGap t = UInt8.ofNat ']'.toNat :: rest) :
    scanItems (fuel + 1) s = ([d], none, some rest) := by
  rw [scanItems, hd]
  simp only [ht]
  rfl

theorem scanItems_cons (hd : scanValue fuel s = (d, some t))
    (ht : skipGap t = UInt8.ofNat ','.toNat :: u) (hu : skipGap u = b :: v)
    (hb : isByte ']' b = false) (hitems : scanItems fuel (b :: v) = (items, none, left)) :
    scanItems (fuel + 1) s = (d :: items, none, left) := by
  have hclose : isByte ']' (UInt8.ofNat ','.toNat) = false := rfl
  have hcomma : isByte ',' (UInt8.ofNat ','.toNat) = true := rfl
  rw [scanItems, hd]
  simp only [ht, hclose, hcomma, hu, hb, hitems, Bool.false_eq_true, if_false, if_true]

theorem scanValue_array (hs : skipGap s = b :: t) (hb : isByte ']' b = false)
    (hitems : scanItems fuel (b :: t) = (items, none, left)) :
    scanValue (fuel + 1) (UInt8.ofNat '['.toNat :: s) = (.array items none, left) := by
  rw [scanValue, skipGap_cons (by decide)]
  simp only [hs, hb, hitems]
  rfl

theorem scanValue_object (hs : skipGap s = UInt8.ofNat '"'.toNat :: t)
    (hms : scanMembers fuel t = (ms, none, left)) :
    scanValue (fuel + 1) (UInt8.ofNat '\x7b'.toNat :: s) = (.object ms none, left) := by
  rw [scanValue, skipGap_cons (by decide)]
  simp only [hs, hms]
  rfl

/-- Behind its opening quote, the text is a member of a record. -/
def ReadsMember (fuel : Nat) (s : List UInt8) (m : Quoted × Doc) (rest : List UInt8) : Prop :=
  ∃ ps t u, m.1 = ⟨ps, none⟩ ∧ scanString s = (⟨ps, none⟩, t) ∧
    skipGap t = UInt8.ofNat ':'.toNat :: u ∧ scanValue fuel u = (m.2, some rest)

theorem ReadsMember.last (h : ReadsMember fuel s m t)
    (ht : skipGap t = UInt8.ofNat '\x7d'.toNat :: rest) :
    scanMembers (fuel + 1) s = ([m], none, some rest) := by
  obtain ⟨ps, t', u, hname, hs, ht', hu⟩ := h
  have hcolon : isByte ':' (UInt8.ofNat ':'.toNat) = true := rfl
  have hclose : isByte '\x7d' (UInt8.ofNat '\x7d'.toNat) = true := rfl
  rw [scanMembers, hs]
  simp only [ht', hcolon, hu, ht, hclose, if_true, ← hname]

theorem ReadsMember.cons (h : ReadsMember fuel s m t)
    (ht : skipGap t = UInt8.ofNat ','.toNat :: u)
    (hu : skipGap u = UInt8.ofNat '"'.toNat :: v)
    (hms : scanMembers fuel v = (ms, none, left)) :
    scanMembers (fuel + 1) s = (m :: ms, none, left) := by
  obtain ⟨ps, t', u', hname, hs, ht', hu'⟩ := h
  have hcolon : isByte ':' (UInt8.ofNat ':'.toNat) = true := rfl
  have hclose : isByte '\x7d' (UInt8.ofNat ','.toNat) = false := rfl
  have hcomma : isByte ',' (UInt8.ofNat ','.toNat) = true := rfl
  have hquote : isByte '"' (UInt8.ofNat '"'.toNat) = true := rfl
  rw [scanMembers, hs]
  simp only [ht', hcolon, hu', ht, hclose, hcomma, hu, hquote, hms, Bool.false_eq_true, if_false,
    if_true, ← hname]

end Steps

mutual

/-- What is written is scanned, whatever follows. -/
theorem SpellsValue.scan {d : Doc} {cs : List Char} (fuel : Nat) (rest : List UInt8)
    (hfuel : 2 * cs.length ≤ fuel + 1) (hrest : EndsNumber rest) : SpellsValue d cs →
    scanValue (fuel + 1) (Text.encodeChars cs ++ rest) = (d, some rest)
  | .null => by
    rw [scanValue]
    rfl
  | .bool b => by
    rw [scanValue]
    cases b <;> rfl
  | .number h => h.scan fuel hrest
  | .string h => by
    have hclose : Text.encodeChars ['"'] ++ rest = UInt8.ofNat '"'.toNat :: rest := rfl
    rw [encodeChars_ascii_cons (by decide), Text.encodeChars_append, List.cons_append, scanValue,
      skipGap_cons (by decide), List.append_assoc]
    show scanText _ = _
    rw [scanText, hclose, h.scan rest]
  | .emptyArray hg => by
    rw [encodeChars_ascii_cons (by decide), List.cons_append, scanValue, skipGap_cons (by decide)]
    simp only [skipGap_blank_ascii hg (c := ']') (by decide) (by decide)]
    rfl
  | .array hg h => by
    simp only [List.length_cons, List.length_append] at hfuel
    obtain ⟨k, rfl⟩ : ∃ k, fuel = k + 1 := ⟨fuel - 1, by omega⟩
    have hitems := h.scan k rest (by omega)
    obtain ⟨b, s, hs, hgap, hclose⟩ := h.begins
    rw [hs, List.cons_append] at hitems
    rw [encodeChars_ascii_cons (by decide), List.cons_append]
    refine scanValue_array ?_ hclose hitems
    rw [Text.encodeChars_append, Text.encodeChars_append, List.append_assoc, skipGap_blank hg,
      hs, List.append_assoc, List.cons_append, skipGap_cons hgap]
    rfl
  | .emptyObject hg => by
    rw [encodeChars_ascii_cons (by decide), List.cons_append, scanValue, skipGap_cons (by decide)]
    simp only [skipGap_blank_ascii hg (c := '\x7d') (by decide) (by decide)]
    rfl
  | .object hg h => by
    simp only [List.length_cons, List.length_append] at hfuel
    obtain ⟨k, rfl⟩ : ∃ k, fuel = k + 1 := ⟨fuel - 1, by omega⟩
    obtain ⟨s, hs, hms⟩ := h.scan k rest (by omega)
    have hclose : Text.encodeChars ['\x7d'] ++ rest = UInt8.ofNat '\x7d'.toNat :: rest := rfl
    rw [encodeChars_ascii_cons (by decide), List.cons_append]
    refine scanValue_object ?_ hms
    rw [Text.encodeChars_append, Text.encodeChars_append, List.append_assoc, skipGap_blank hg,
      List.append_assoc, hclose, hs, skipGap_cons (by decide)]

theorem SpellsItems.scan {items : List Doc} {cs : List Char} (fuel : Nat) (rest : List UInt8)
    (hfuel : 2 * cs.length ≤ fuel) : SpellsItems items cs →
    scanItems (fuel + 1) (Text.encodeChars cs ++ UInt8.ofNat ']'.toNat :: rest) =
      (items, none, some rest)
  | .last h hg => by
    have hlength := h.length_pos
    simp only [List.length_append] at hfuel
    obtain ⟨k, rfl⟩ : ∃ k, fuel = k + 1 := ⟨fuel - 1, by omega⟩
    have hvalue := h.scan k _ (by omega)
      (endsNumber_blank hg (endsNumber_cons (c := ']') (by simp) rest))
    rw [Text.encodeChars_append, List.append_assoc]
    exact scanItems_last hvalue (by rw [skipGap_blank hg, skipGap_cons (by decide)])
  | .cons h hg hg' hitems => by
    have hlength := h.length_pos
    simp only [List.length_append, List.length_cons] at hfuel
    obtain ⟨k, rfl⟩ : ∃ k, fuel = k + 1 := ⟨fuel - 1, by omega⟩
    have hrest := hitems.scan k rest (by omega)
    obtain ⟨b, s, hs, hgap, hclose⟩ := hitems.begins
    rw [hs, List.cons_append] at hrest
    rw [Text.encodeChars_append, Text.encodeChars_append, List.append_assoc, List.append_assoc,
      encodeChars_ascii_cons (by decide), List.cons_append]
    refine scanItems_cons
      (h.scan k _ (by omega) (endsNumber_blank hg (endsNumber_cons (c := ',') (by simp) _)))
      (by rw [skipGap_blank hg, skipGap_cons (by decide)]) ?_ hclose hrest
    rw [Text.encodeChars_append, List.append_assoc, skipGap_blank hg', hs, List.cons_append,
      skipGap_cons hgap]

/-- A member is a string, a colon and a value. -/
theorem SpellsMember.scan {m : Quoted × Doc} {cs : List Char} (fuel : Nat) (rest : List UInt8)
    (hfuel : 2 * cs.length ≤ fuel + 1) (hrest : EndsNumber rest) : SpellsMember m cs → ∃ s,
    Text.encodeChars cs ++ rest = UInt8.ofNat '"'.toNat :: s ∧ ReadsMember (fuel + 1) s m rest
  | @SpellsMember.mk ps d ns g g' vs hname hg hg' h => by
    simp only [List.length_append, List.length_cons] at hfuel
    have hvalue := h.scan fuel rest (by omega) hrest
    have hcolon := skipGap_blank_ascii hg (c := ':') (by decide) (by decide) (g' ++ vs) rest
    have hstring := hname.scan (Text.encodeChars (g ++ ':' :: (g' ++ vs)) ++ rest)
    rw [Text.encodeChars_append g' vs, List.append_assoc] at hcolon
    rw [encodeChars_ascii_cons (by decide), List.cons_append]
    refine ⟨_, rfl, ps, _, _, rfl, ?_, hcolon, (scanValue_blank hg' _ _).trans hvalue⟩
    rw [Text.encodeChars_append, encodeChars_ascii_cons (by decide), List.append_assoc,
      List.cons_append, hstring]

theorem SpellsMembers.scan {ms : List (Quoted × Doc)} {cs : List Char} (fuel : Nat)
    (rest : List UInt8) (hfuel : 2 * cs.length ≤ fuel) : SpellsMembers ms cs → ∃ s,
      Text.encodeChars cs ++ UInt8.ofNat '\x7d'.toNat :: rest = UInt8.ofNat '"'.toNat :: s ∧
      scanMembers (fuel + 1) s = (ms, none, some rest)
  | .last h hg => by
    have hlength := h.length_pos
    simp only [List.length_append] at hfuel
    obtain ⟨k, rfl⟩ : ∃ k, fuel = k + 1 := ⟨fuel - 1, by omega⟩
    obtain ⟨s, hs, hmember⟩ := h.scan k _ (by omega)
      (endsNumber_blank hg (endsNumber_cons (c := '\x7d') (by simp) rest))
    refine ⟨s, ?_, hmember.last (by rw [skipGap_blank hg, skipGap_cons (by decide)])⟩
    rw [Text.encodeChars_append, List.append_assoc, hs]
  | .cons h hg hg' hms => by
    have hlength := h.length_pos
    simp only [List.length_append, List.length_cons] at hfuel
    obtain ⟨k, rfl⟩ : ∃ k, fuel = k + 1 := ⟨fuel - 1, by omega⟩
    obtain ⟨t, ht, hrest⟩ := hms.scan k rest (by omega)
    rw [Text.encodeChars_append, Text.encodeChars_append, List.append_assoc, List.append_assoc,
      encodeChars_ascii_cons (by decide), List.cons_append]
    obtain ⟨s, hs, hmember⟩ := h.scan k _ (by omega)
      (endsNumber_blank hg (endsNumber_cons (c := ',') (by simp) _))
    refine ⟨s, hs, hmember.cons (by rw [skipGap_blank hg, skipGap_cons (by decide)]) ?_ hrest⟩
    · rw [Text.encodeChars_append, List.append_assoc, skipGap_blank hg', ht,
        skipGap_cons (by decide)]

end

/-! ## Whole texts -/

/-- From a document the tree is made that it writes. -/
theorem SpellsText.scanBytes {d : Doc} (h : SpellsText d cs) :
    scanBytes (Text.encodeChars cs) = ⟨d, false⟩ := by
  cases h with
  | @mk g cs g' hg h hg' =>
    have hgap : skipGap (Text.encodeChars g') = [] := by
      simpa [skipGap] using skipGap_blank hg' []
    have hends : EndsNumber (Text.encodeChars g') := by
      simpa using endsNumber_blank hg' endsNumber_nil
    have hlength := Text.length_le_length_encodeChars cs
    rw [Json.scanBytes, Text.encodeChars_append, Text.encodeChars_append, scanValue_blank hg,
      h.scan _ _ (by simp only [List.length_append]; omega) hends]
    simp only [hgap]
    rfl

/-- A document is read by reading the tree that it writes. -/
theorem SpellsText.decodeText {α : Type} {d : Doc} {text : String} (h : SpellsText d text.toList)
    (dec : Decoder α) : decodeText dec text = dec maxDepth d := by
  have hscan : Json.scanBytes (Text.encode text) = ⟨d, false⟩ := h.scanBytes
  simp only [Json.decodeText, decodeBytes, hscan, Bool.false_eq_true, if_false]
  exact bind_pure _

end SnapshotViewer.Json
