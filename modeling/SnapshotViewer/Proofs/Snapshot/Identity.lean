import Mathlib.Data.List.Find
import SnapshotViewer.Proofs.Json.Number
import SnapshotViewer.Proofs.Snapshot.Numbered

/-!
# Numbers have one identity

Whatever a number comes from, a document, a machine integer of some width or a conversion between
values and identities, it is kept in one form.  So values and identities that come from numbers are
compared as these numbers, a value agrees with a text exactly if the text is the decimal form of the
number, and the row that is found for an identity is the first one with that number.

## Main definitions

* `ScalarOf`, `IdentityOf` — what can be made of a number.
* `EntityId.number?` — the number that is an identity.
* `OneIdentity` — one scalar and one identity, compared and found as the number.

## Main statements

* `ScalarOf.eq_ofInt`, `IdentityOf.eq_ofInt` — there is one scalar and one identity of a number.
* `Scalar.agrees_ofInt_iff`, `Scalar.agrees_text_iff` — what they agree with.
* `Snapshot.find?_ofInt` — the row that is found.
* `numbers_have_one_identity` — every number of 64 bits has one identity.
-/

namespace SnapshotViewer

open Json

/-- The number that is an identity, if it is one. -/
def EntityId.number? : EntityId → Option Int
  | .int n => some n
  | .uint n => some n
  | .text _ => none

mutual

/-- The scalars that are made of the number `n`. -/
inductive ScalarOf (n : Int) : Scalar → Prop
  /-- Read from a text that is the decimal form of the number. -/
  | text {text : String} {a : Scalar} (written : IsDecimal text n)
      (read : decodeText Scalar.decoder text = .ok a) : ScalarOf n a
  /-- Read where the number stands in a document. -/
  | part {l : Literal} {depth : Nat} {a : Scalar} (written : l.Writes n)
      (read : Scalar.decoder depth (.number l) = .ok a) : ScalarOf n a
  /-- Made of a value of a document. -/
  | value : ScalarOf n (.ofValue (.int n))
  /-- Made of a machine integer. -/
  | word (w : Word) (hw : w.toInt = n) : ScalarOf n (.ofWord w)
  /-- Made of an identity. -/
  | identity {id : EntityId} (h : IdentityOf n id) : ScalarOf n id.toScalar

/-- The identities that are made of the number `n`. -/
inductive IdentityOf (n : Int) : EntityId → Prop
  /-- Made of a machine integer. -/
  | word (w : Word) (hw : w.toInt = n) : IdentityOf n (.ofWord w)
  /-- Taken from a row. -/
  | row {s : Snapshot} {k : Collection} {r : Row} (hs : s.IsRead) (hr : r ∈ s.rows k)
      (hn : r.id.number? = some n) : IdentityOf n r.id
  /-- Made of a scalar. -/
  | scalar {a : Scalar} {id : EntityId} (h : ScalarOf n a) (hid : a.toId? = some id) :
      IdentityOf n id

end

variable {n m : Int} {a b : Scalar} {id : EntityId} {text : String}

/-! ## One form -/

theorem le_int64Max_iff : n ≤ int64Max ↔ n < 0x8000000000000000 := by
  have hmax : int64Max = 0x7FFFFFFFFFFFFFFF := rfl
  omega

namespace Scalar

theorem ofWord_eq_ofInt (w : Word) : ofWord w = ofInt w.toInt := by
  have hmax : int64Max = 0x7FFFFFFFFFFFFFFF := rfl
  cases w with
  | int32 v =>
    have hlt := v.toInt_lt
    rw [ofWord, Word.toInt, ofInt, if_pos (by omega)]
  | uint32 v =>
    have hlt := v.toNat_lt
    rw [ofWord, Word.toInt, ofInt, if_pos (by omega)]
  | int64 v =>
    have hlt := v.toInt_lt
    rw [ofWord, Word.toInt, ofInt, if_pos (by omega)]
  | uint64 v => rfl

/-- The form without a sign is that of the numbers from `2 ^ 63` on. -/
theorem ofInt_eq (n : Int) :
    ofInt n = if n < 0x8000000000000000 then .int n else .uint n.toNat := by
  simp only [ofInt, le_int64Max_iff]

/-- A number is read where its decimal form stands in a document. -/
theorem decoder_of_writes {l : Literal} {depth : Nat} (h : l.Writes n) (hlow : int64Min ≤ n)
    (hhigh : n ≤ uint64Max) : decoder depth (.number l) = .ok (ofInt n) := by
  simp only [decoder, Decoder.map, Decoder.value, Doc.value, Literal.read_of_writes h hlow hhigh]
  rfl

/-- A number is read from its decimal form. -/
theorem decodeText_of_isDecimal (h : IsDecimal text n) (hlow : int64Min ≤ n)
    (hhigh : n ≤ uint64Max) : decodeText decoder text = .ok (ofInt n) := by
  obtain ⟨l, hl, hscan⟩ := exists_scanBytes_eq h
  rw [decodeText, decodeBytes, hscan, decoder_of_writes hl hlow hhigh]
  rfl

end Scalar

namespace EntityId

theorem toScalar_ofWord (w : Word) : (ofWord w).toScalar = .ofWord w := by
  cases w with
  | uint64 v =>
    simp only [ofWord, Scalar.ofWord]
    split <;> rfl
  | _ => rfl

theorem toId?_ofInt (n : Int) : (Scalar.ofInt n).toId? = some (.ofInt n) := by
  rw [← toScalar_ofInt, toId?_toScalar]

theorem ofWord_eq_ofInt (w : Word) : ofWord w = ofInt w.toInt := by
  have hid : some (ofWord w) = some (ofInt w.toInt) := by
    rw [← toId?_toScalar, toScalar_ofWord, Scalar.ofWord_eq_ofInt, toId?_ofInt]
  exact Option.some.inj hid

theorem ofInt_eq (n : Int) :
    ofInt n = if n < 0x8000000000000000 then .int n else .uint n.toNat := by
  simp only [ofInt, le_int64Max_iff]

theorem number?_ofInt (n : Int) : (ofInt n).number? = some n := by
  have hmax : int64Max = 0x7FFFFFFFFFFFFFFF := rfl
  by_cases hn : n ≤ int64Max
  · rw [ofInt, if_pos hn, number?]
  · rw [ofInt, if_neg hn, number?, Int.toNat_of_nonneg (by omega)]

theorem ofInt_inj : ofInt n = ofInt m ↔ n = m := by
  constructor
  · intro h
    have hnumber := congrArg number? h
    rw [number?_ofInt, number?_ofInt] at hnumber
    exact Option.some.inj hnumber
  · exact congrArg ofInt

end EntityId

mutual

/-- There is one scalar of a number. -/
theorem ScalarOf.eq_ofInt (hlow : int64Min ≤ n) (hhigh : n ≤ uint64Max) :
    ∀ {a : Scalar}, ScalarOf n a → a = .ofInt n
  | _, .text written read => by
    rw [Scalar.decodeText_of_isDecimal written hlow hhigh] at read
    exact (Except.ok.inj read).symm
  | _, .part written read => by
    rw [Scalar.decoder_of_writes written hlow hhigh] at read
    exact (Except.ok.inj read).symm
  | _, .value => rfl
  | _, .word w hw => by rw [Scalar.ofWord_eq_ofInt, hw]
  | _, .identity h => by rw [IdentityOf.eq_ofInt hlow hhigh h, EntityId.toScalar_ofInt]

/-- There is one identity of a number. -/
theorem IdentityOf.eq_ofInt (hlow : int64Min ≤ n) (hhigh : n ≤ uint64Max) :
    ∀ {id : EntityId}, IdentityOf n id → id = .ofInt n
  | _, .word w hw => by rw [EntityId.ofWord_eq_ofInt, hw]
  | _, .row hs hr hn => by
    obtain ⟨m, -, -, hid⟩ := hs.numbered _ _ hr
    rw [hid, EntityId.number?_ofInt] at hn
    rw [hid, Option.some.inj hn]
  | _, .scalar h hid => by
    rw [ScalarOf.eq_ofInt hlow hhigh h, EntityId.toId?_ofInt] at hid
    exact (Option.some.inj hid).symm

end

/-! ## Comparisons -/

namespace Scalar

theorem ofInt_inj : ofInt n = ofInt m ↔ n = m := by
  constructor
  · intro h
    have hdisplay := congrArg display h
    rw [display_ofInt, display_ofInt] at hdisplay
    exact toString_inj.1 hdisplay
  · exact congrArg ofInt

theorem same_ofInt (n : Int) (b : Scalar) : (ofInt n).same b = (ofInt n == b) := by
  unfold ofInt
  split <;> cases b <;> rfl

theorem isNull_ofInt (n : Int) : (ofInt n).isNull = false := by
  unfold ofInt
  split <;> rfl

/-- Numbers are the same only if they are equal. -/
theorem same_ofInt_iff : (ofInt n).same (ofInt m) = true ↔ n = m := by
  rw [same_ofInt, beq_iff_eq, ofInt_inj]

theorem agrees_iff (ha : a.isNull = false) (hb : b.isNull = false) :
    a.agrees b = true ↔ a.same b = true ∨ a.display = b.display := by
  simp [agrees, ha, hb]

/-- Numbers agree only if they are equal. -/
theorem agrees_ofInt_iff : (ofInt n).agrees (ofInt m) = true ↔ n = m := by
  rw [agrees_iff (isNull_ofInt n) (isNull_ofInt m), same_ofInt_iff, display_ofInt, display_ofInt,
    toString_inj, or_self]

/-- A number agrees with a text only if that is its decimal form. -/
theorem agrees_text_iff : (ofInt n).agrees (.text text) = true ↔ IsDecimal text n := by
  have hne : ofInt n ≠ .text text := by
    unfold ofInt
    split <;> simp
  rw [isDecimal_iff, agrees_iff (isNull_ofInt n) rfl, same_ofInt, beq_iff_eq, display_ofInt]
  constructor
  · rintro (h | h)
    · exact absurd h hne
    · exact h.symm
  · intro h
    exact .inr h.symm

end Scalar

/-! ## Rows -/

/-- The row that is found for a number is the first one with that number. -/
theorem Snapshot.find?_ofInt {s : Snapshot} (hs : s.Numbered) (k : Collection) (n : Int) :
    s.find? k (.ofInt n) = (s.rows k).find? fun r => r.id.number? == some n := by
  refine List.find?_congr fun r hr => ?_
  obtain ⟨m, -, -, hid⟩ := hs k r hr
  rw [hid, EntityId.number?_ofInt, Bool.eq_iff_iff, beq_iff_eq, beq_iff_eq, EntityId.ofInt_inj,
    Option.some_inj]

/-! ## One identity -/

/-- What it is for a number to have one identity. -/
structure OneIdentity (n : Int) : Prop where
  /-- The number can be read from its decimal form. -/
  read : ∀ text, IsDecimal text n → ∃ a, decodeText Scalar.decoder text = .ok a
  /-- The number can be read where it stands in a document. -/
  part : ∀ l depth, l.Writes n → ∃ a, Scalar.decoder depth (.number l) = .ok a
  /-- All scalars of the number are the same, without a sign exactly from `2 ^ 63` on. -/
  scalar : ∀ a, ScalarOf n a → a = if n < 0x8000000000000000 then .int n else .uint n.toNat
  /-- And so are all its identities. -/
  identity : ∀ id, IdentityOf n id → id = if n < 0x8000000000000000 then .int n else .uint n.toNat
  /-- A scalar of the number is equal to those of the same number and agrees with them, but neither
  to nor with those of another one. -/
  number : ∀ a, ScalarOf n a → ∀ m b, int64Min ≤ m → m ≤ uint64Max → ScalarOf m b →
    (a.same b = true ↔ n = m) ∧ (a.agrees b = true ↔ n = m)
  /-- Of all texts it agrees with the decimal form of the number alone. -/
  text : ∀ a, ScalarOf n a → ∀ text, (a.agrees (.text text) = true ↔ IsDecimal text n) ∧
    (Scalar.agrees (.text text) a = true ↔ IsDecimal text n)
  /-- The row that is found for an identity of the number is the first one with the number. -/
  found : ∀ s : Snapshot, s.IsRead → ∀ k id, IdentityOf n id →
    s.find? k id = (s.rows k).find? fun r => r.id.number? == some n

/-- Every number that 64 bits hold, with or without a sign, has one identity. -/
theorem numbers_have_one_identity (hlow : int64Min ≤ n) (hhigh : n ≤ uint64Max) :
    OneIdentity n where
  read text h := ⟨_, Scalar.decodeText_of_isDecimal h hlow hhigh⟩
  part l depth h := ⟨_, Scalar.decoder_of_writes h hlow hhigh⟩
  scalar a ha := by rw [ScalarOf.eq_ofInt hlow hhigh ha, Scalar.ofInt_eq]
  identity id hid := by rw [IdentityOf.eq_ofInt hlow hhigh hid, EntityId.ofInt_eq]
  number a ha m b hlow' hhigh' hb := by
    rw [ScalarOf.eq_ofInt hlow hhigh ha, ScalarOf.eq_ofInt hlow' hhigh' hb]
    exact ⟨Scalar.same_ofInt_iff, Scalar.agrees_ofInt_iff⟩
  text a ha text := by
    rw [ScalarOf.eq_ofInt hlow hhigh ha, Scalar.agrees_comm (.text text)]
    exact ⟨Scalar.agrees_text_iff, Scalar.agrees_text_iff⟩
  found s hs k id hid := by
    rw [IdentityOf.eq_ofInt hlow hhigh hid, Snapshot.find?_ofInt hs.numbered]

/-- Two events with the least number that takes the form without a sign, behind another one. -/
def repeatedEvent : Snapshot :=
  { timestamp := 1
    tables := { pge := [⟨.int 7, []⟩, ⟨.uint 9223372036854775808, [("kind", .text "lock")]⟩,
      ⟨.uint 9223372036854775808, []⟩] } }

theorem isRead_repeatedEvent : repeatedEvent.IsRead := by
  refine .inl ⟨"\x7b\"timestamp\":1,\"pge\":[\x7b\"event_id\":7\x7d,"
    ++ "\x7b\"event_id\":9223372036854775808,\"kind\":\"lock\"\x7d,"
    ++ "\x7b\"event_id\":9223372036854775808\x7d]\x7d", ?_⟩
  decide +kernel

/-- An event is found by its number as it is read from a text.  The greatest machine integer with a
sign is another number, and the decimal form of the number agrees with it. -/
theorem numbers_have_one_identity_event : ∃ a id,
    decodeText Scalar.decoder "9223372036854775808" = .ok a ∧ a = .uint 9223372036854775808 ∧
    a.toId? = some id ∧ repeatedEvent.find? .pge id =
      some ⟨.uint 9223372036854775808, [("kind", .text "lock")]⟩ ∧
    ¬ a.agrees (.ofWord (.int64 9223372036854775807)) = true ∧
    a.agrees (.text "9223372036854775808") = true := by
  have hone := numbers_have_one_identity (n := 9223372036854775808) (by decide) (by decide)
  have hdecimal : IsDecimal "9223372036854775808" 9223372036854775808 :=
    isDecimal_iff.2 (by decide +kernel)
  obtain ⟨a, hread⟩ := hone.read _ hdecimal
  have ha : ScalarOf 9223372036854775808 a := .text hdecimal hread
  have hform : a = .uint 9223372036854775808 := hone.scalar a ha
  have hid : a.toId? = some (.uint 9223372036854775808) := by rw [hform, Scalar.toId?]
  refine ⟨a, _, hread, hform, hid, ?_, fun hagrees => ?_, (hone.text a ha _).1.2 hdecimal⟩
  · rw [hone.found _ isRead_repeatedEvent .pge _ (.scalar ha hid)]
    decide
  · have hother : ScalarOf 9223372036854775807 (.ofWord (.int64 9223372036854775807)) :=
      .word _ rfl
    obtain ⟨-, hequal⟩ := hone.number a ha _ _ (by decide) (by decide) hother
    exact absurd (hequal.1 hagrees) (by decide)

end SnapshotViewer
