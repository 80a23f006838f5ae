import SnapshotViewer.Json.Doc
import SnapshotViewer.Proofs.Text.Utf8

/-!
# The grammar of documents

Which texts are documents, and which tree each of them writes, without a word about how a text is
read.  One tree can be written in many ways: with blanks between its parts, with exponents in two
cases, with characters escaped or not.

## Main definitions

* `SpellsNumber`, `SpellsPieces`, `SpellsValue` — ways to write a number, what stands between the
  quotes of a string, and a value.
* `SpellsText` — ways to write a document: a value with blanks around it.
* `Quoted.plain` — a string in which nothing is escaped.
-/

namespace SnapshotViewer.Json

/-- Blanks may stand between the parts of a document. -/
def IsBlank (g : List Char) : Prop := ∀ c ∈ g, c ∈ [' ', '\t', '\n', '\r']

/-- One or more digits. -/
structure IsDigitRun (ds : List Char) : Prop where
  isDigit : ∀ c ∈ ds, c.isDigit = true
  ne_nil : ds ≠ []

/-- The digits behind the point, if there is one. -/
inductive SpellsFraction : Option (List Char) → List Char → Prop
  | none : SpellsFraction none []
  | some {ds : List Char} (h : IsDigitRun ds) : SpellsFraction (some ds) ('.' :: ds)

/-- The exponent, if there is one, with its sign. -/
inductive SpellsExponent : Option (Bool × List Char) → List Char → Prop
  | none : SpellsExponent none []
  | bare {e : Char} {ds : List Char} (he : e = 'e' ∨ e = 'E') (h : IsDigitRun ds) :
    SpellsExponent (some (false, ds)) (e :: ds)
  | plus {e : Char} {ds : List Char} (he : e = 'e' ∨ e = 'E') (h : IsDigitRun ds) :
    SpellsExponent (some (false, ds)) (e :: '+' :: ds)
  | minus {e : Char} {ds : List Char} (he : e = 'e' ∨ e = 'E') (h : IsDigitRun ds) :
    SpellsExponent (some (true, ds)) (e :: '-' :: ds)

/-- A number behind its sign: a zero in front of the point stands alone. -/
inductive SpellsUnsigned : Bool → Literal → List Char → Prop
  | mk {negative : Bool} {whole : List Char} {fraction : Option (List Char)}
    {exponent : Option (Bool × List Char)} {fs es : List Char} (hwhole : IsDigitRun whole)
    (hzero : whole.head? = some '0' → whole = ['0']) (hfraction : SpellsFraction fraction fs)
    (hexponent : SpellsExponent exponent es) :
    SpellsUnsigned negative ⟨negative, whole, fraction.getD [], fraction.isSome, exponent⟩
      (whole ++ (fs ++ es))

/-- A number. -/
inductive SpellsNumber : Literal → List Char → Prop
  | plain {l : Literal} {cs : List Char} (h : SpellsUnsigned false l cs) : SpellsNumber l cs
  | minus {l : Literal} {cs : List Char} (h : SpellsUnsigned true l cs) : SpellsNumber l ('-' :: cs)

/-- A character is a hexadecimal digit of this value, in either case. -/
def IsHexDigit (c : Char) (n : Nat) : Prop :=
  n < 16 ∧ (c = Nat.digitChar n ∨ c = (Nat.digitChar n).toUpper)

/-- The letters that stand for a character behind a backslash, each with its character. -/
def letterEscapes : List (Char × Char) :=
  [('"', '"'), ('\\', '\\'), ('/', '/'), ('b', '\x08'), ('f', '\x0c'), ('n', '\n'), ('r', '\r'),
   ('t', '\t')]

/-- What stands between the quotes of a string. -/
inductive SpellsPieces : List Piece → List Char → Prop
  | nil : SpellsPieces [] []
  | plain {c : Char} {ps : List Piece} {cs : List Char} (hcontrol : 0x20 ≤ c.toNat)
    (hquote : c ≠ '"') (hslash : c ≠ '\\') (h : SpellsPieces ps cs) :
    SpellsPieces ((String.utf8EncodeChar c).map .byte ++ ps) (c :: cs)
  | letter {e c : Char} {ps : List Piece} {cs : List Char} (he : (e, c) ∈ letterEscapes)
    (h : SpellsPieces ps cs) : SpellsPieces (.byte (UInt8.ofNat c.toNat) :: ps) ('\\' :: e :: cs)
  | unit {c₁ c₂ c₃ c₄ : Char} {n₁ n₂ n₃ n₄ : Nat} {ps : List Piece} {cs : List Char}
    (h₁ : IsHexDigit c₁ n₁) (h₂ : IsHexDigit c₂ n₂) (h₃ : IsHexDigit c₃ n₃)
    (h₄ : IsHexDigit c₄ n₄) (h : SpellsPieces ps cs) :
    SpellsPieces (.unit ((n₁ * 16 + n₂) * 256 + (n₃ * 16 + n₄)) :: ps)
      ('\\' :: 'u' :: c₁ :: c₂ :: c₃ :: c₄ :: cs)

mutual

/-- A value. -/
inductive SpellsValue : Doc → List Char → Prop
  | null : SpellsValue .null ['n', 'u', 'l', 'l']
  | bool (b : Bool) :
    SpellsValue (.bool b) (if b then ['t', 'r', 'u', 'e'] else ['f', 'a', 'l', 's', 'e'])
  | number {l : Literal} {cs : List Char} (h : SpellsNumber l cs) : SpellsValue (.number l) cs
  | string {ps : List Piece} {cs : List Char} (h : SpellsPieces ps cs) :
    SpellsValue (.string ⟨ps, none⟩) ('"' :: (cs ++ ['"']))
  | emptyArray {g : List Char} (hg : IsBlank g) :
    SpellsValue (.array [] none) ('[' :: (g ++ [']']))
  | array {items : List Doc} {g cs : List Char} (hg : IsBlank g) (h : SpellsItems items cs) :
    SpellsValue (.array items none) ('[' :: (g ++ (cs ++ [']'])))
  | emptyObject {g : List Char} (hg : IsBlank g) :
    SpellsValue (.object [] none) ('\x7b' :: (g ++ ['\x7d']))
  | object {ms : List (Quoted × Doc)} {g cs : List Char} (hg : IsBlank g)
    (h : SpellsMembers ms cs) :
    SpellsValue (.object ms none) ('\x7b' :: (g ++ (cs ++ ['\x7d'])))

/-- The items of a list, with commas between them. -/
inductive SpellsItems : List Doc → List Char → Prop
  | last {d : Doc} {cs g : List Char} (h : SpellsValue d cs) (hg : IsBlank g) :
    SpellsItems [d] (cs ++ g)
  | cons {d : Doc} {items : List Doc} {cs g g' ds : List Char} (h : SpellsValue d cs)
    (hg : IsBlank g) (hg' : IsBlank g') (hitems : SpellsItems items ds) :
    SpellsItems (d :: items) (cs ++ (g ++ ',' :: (g' ++ ds)))

/-- A member of a record. -/
inductive SpellsMember : Quoted × Doc → List Char → Prop
  | mk {ps : List Piece} {d : Doc} {ns g g' cs : List Char} (hname : SpellsPieces ps ns)
    (hg : IsBlank g) (hg' : IsBlank g') (h : SpellsValue d cs) :
    SpellsMember (⟨ps, none⟩, d) ('"' :: (ns ++ '"' :: (g ++ ':' :: (g' ++ cs))))

/-- The members of a record, with commas between them. -/
inductive SpellsMembers : List (Quoted × Doc) → List Char → Prop
  | last {m : Quoted × Doc} {cs g : List Char} (h : SpellsMember m cs) (hg : IsBlank g) :
    SpellsMembers [m] (cs ++ g)
  | cons {m : Quoted × Doc} {ms : List (Quoted × Doc)} {cs g g' ds : List Char}
    (h : SpellsMember m cs) (hg : IsBlank g) (hg' : IsBlank g') (hms : SpellsMembers ms ds) :
    SpellsMembers (m :: ms) (cs ++ (g ++ ',' :: (g' ++ ds)))

end

/-- A document: a value with blanks around it. -/
inductive SpellsText : Doc → List Char → Prop
  | mk {d : Doc} {g cs g' : List Char} (hg : IsBlank g) (h : SpellsValue d cs) (hg' : IsBlank g') :
    SpellsText d (g ++ (cs ++ g'))

/-! ## Plain strings -/

variable {cs : List Char}

theorem isBlank_nil : IsBlank [] := fun _ hc => nomatch hc

/-- Whether a character can stand in a string as it is. -/
def isPlain (c : Char) : Bool := 0x20 ≤ c.toNat && c != '"' && c != '\\'

/-- A string in which nothing is escaped. -/
def Quoted.plain (s : String) : Quoted := ⟨(Text.encode s).map .byte, none⟩

theorem spellsPieces_plain (h : cs.all isPlain = true) :
    SpellsPieces ((Text.encodeChars cs).map .byte) cs := by
  induction cs with
  | nil => exact .nil
  | cons c cs ih =>
    simp only [List.all_cons, isPlain, Bool.and_eq_true, decide_eq_true_eq, bne_iff_ne] at h
    obtain ⟨⟨⟨hcontrol, hquote⟩, hslash⟩, hcs⟩ := h
    rw [Text.encodeChars_cons, List.map_append]
    exact .plain hcontrol hquote hslash (ih hcs)

theorem SpellsMember.plain {d : Doc} (name : String)
    (hname : name.toList.all isPlain = true) (h : SpellsValue d cs) :
    SpellsMember (.plain name, d) ('"' :: (name.toList ++ '"' :: ':' :: cs)) :=
  .mk (spellsPieces_plain hname) isBlank_nil isBlank_nil h

end SnapshotViewer.Json
