import SnapshotViewer.Proofs.Address.Slots
import SnapshotViewer.Proofs.Address.Spelling
import SnapshotViewer.Proofs.Number.Int64

/-!
# Addresses are read back

Writing an address and reading it again gives its normal form: what is at its default is gone and
all else is there.  So two addresses are written alike exactly when their normal forms are the
same, and what has been read once is written in the one form that reading and writing keep.

An address can be handed on in many other ways.  Its names and values may come in any order and
among others, and in any spelling; all of these links are read as the address.

## Main definitions

* `Address.InRange` — the timestamp is a 64-bit integer.
* `Address.Tidy` — what reading can give.

## Main statements

* `ofPairs_pairs` — the names and values of an address describe its normal form.
* `decode_encode` — writing and reading gives the normal form.
* `tidy_decode` — reading never gives an empty view or filter or the timestamp zero.
* `encode_canonical` — the written form stands for the normal form.
* `decode_link` — whichever way an address is spelled, it is read.
-/

namespace SnapshotViewer

theorem nonEmpty_eq (s : String) : nonEmpty s = if s = "" then none else some s := by
  simp [nonEmpty, String.isEmpty_iff]

theorem nonEmpty_ne (s : String) : nonEmpty s ≠ some "" := by
  rw [nonEmpty_eq]
  split
  · simp
  · next h => simpa using h

theorem nonEmpty_of_bind {o : Option String} {s : String} (h : o.bind nonEmpty = some s) :
    nonEmpty s = some s := by
  obtain ⟨t, -, ht⟩ := Option.bind_eq_some_iff.1 h
  rw [nonEmpty_eq] at ht ⊢
  split at ht
  · cases ht
  · next hne =>
    obtain rfl : t = s := by simpa using ht
    exact if_neg hne

theorem bind_nonZero_eq_some {o : Option Int} {n : Int} :
    o.bind nonZero = some n ↔ o = some n ∧ n ≠ 0 := by
  rw [Option.bind_eq_some_iff]
  constructor
  · rintro ⟨m, rfl, h⟩
    unfold nonZero at h
    split at h
    · cases h
    · next hm =>
      obtain rfl : m = n := by simpa using h
      exact ⟨rfl, hm⟩
  · rintro ⟨rfl, hn⟩
    exact ⟨n, rfl, if_neg hn⟩

theorem bind_nonZero_ne (o : Option Int) : o.bind nonZero ≠ some 0 := fun h =>
  (bind_nonZero_eq_some.1 h).2 rfl

namespace Address

/-- The timestamp, if there is one, is a 64-bit integer. -/
def InRange (a : Address) : Prop := ∀ t, a.timestamp = some t → fitsInt64 t = true

/-! ## Names and values -/

/-- The address with names and their values put in. -/
def putAll (a : Address) (pairs : List (String × String)) : Address :=
  pairs.foldl (fun a p => a.put p.1 p.2) a

theorem putAll_append (a : Address) (xs ys : List (String × String)) :
    a.putAll (xs ++ ys) = (a.putAll xs).putAll ys := List.foldl_append

theorem putAll_tab (k : Collection) :
    putAll {} (if k = .prc then [] else [("tab", k.name)]) = { tab := k } := by
  split
  · next h => subst h; rfl
  · simp [putAll, put]

theorem putAll_view {a : Address} (ha : a.view = none) (o : Option String) :
    a.putAll ((o.bind nonEmpty).map fun v => ("view", v)).toList =
      { a with view := o.bind nonEmpty } := by
  cases h : o.bind nonEmpty with
  | none =>
    obtain ⟨tab, view, filter, timestamp, key⟩ := a
    obtain rfl : view = none := ha
    rfl
  | some v => simp [putAll, put, nonEmpty_of_bind h]

theorem putAll_filter {a : Address} (ha : a.filter = none) (o : Option String) :
    a.putAll ((o.bind nonEmpty).map fun f => ("filter", f)).toList =
      { a with filter := o.bind nonEmpty } := by
  cases h : o.bind nonEmpty with
  | none =>
    obtain ⟨tab, view, filter, timestamp, key⟩ := a
    obtain rfl : filter = none := ha
    rfl
  | some f => simp [putAll, put, nonEmpty_of_bind h]

theorem putAll_timestamp {a : Address} (ha : a.timestamp = none) (hk : a.key = .timestamp)
    {o : Option Int} (ho : ∀ t, o = some t → fitsInt64 t = true) (key : TimestampKey) :
    a.putAll ((o.bind nonZero).map fun t => (key.name, toString t)).toList =
      { a with
        timestamp := o.bind nonZero
        key := if (o.bind nonZero).isSome then key else .timestamp } := by
  cases h : o.bind nonZero with
  | none =>
    obtain ⟨tab, view, filter, timestamp, key'⟩ := a
    obtain rfl : timestamp = none := ha
    obtain rfl : key' = .timestamp := hk
    rfl
  | some t =>
    obtain ⟨rfl, ht⟩ := bind_nonZero_eq_some.1 h
    have hread : (readInt64? t.repr).bind nonZero = some t := by
      rw [← Int.toString_eq_repr, readInt64?_toString (ho t rfl)]
      exact if_neg ht
    cases key <;> simp [putAll, put, TimestampKey.name, hread]

/-- The names and values of an address describe its normal form. -/
theorem ofPairs_pairs {a : Address} (ha : a.InRange) : ofPairs a.pairs = a.normal := by
  show putAll {} a.pairs = a.normal
  rw [pairs, putAll_append, putAll_append, putAll_append, putAll_tab, putAll_view rfl,
    putAll_filter rfl, putAll_timestamp rfl rfl ha]
  rfl

/-! ## The written form -/

theorem decode_encode {a : Address} (ha : a.InRange) : decode a.encode = a.normal := by
  rw [encode, ← Link.text_written, Link.decode_text (Link.spells_written _), ofPairs_pairs ha]

theorem bind_nonEmpty_bind (o : Option String) :
    (o.bind nonEmpty).bind nonEmpty = o.bind nonEmpty := by
  cases h : o.bind nonEmpty with
  | none => rfl
  | some s => exact nonEmpty_of_bind h

theorem bind_nonZero_bind (o : Option Int) : (o.bind nonZero).bind nonZero = o.bind nonZero := by
  cases h : o.bind nonZero with
  | none => rfl
  | some n => exact bind_nonZero_eq_some.2 ⟨rfl, (bind_nonZero_eq_some.1 h).2⟩

/-- The written form shows no more than the normal form. -/
theorem encode_normal (a : Address) : a.normal.encode = a.encode := by
  -- The normal form may name the timestamp otherwise, but only where none is written.
  have hkey : ((a.timestamp.bind nonZero).map fun t => (a.normal.key.name, toString t)) =
      (a.timestamp.bind nonZero).map fun t => (a.key.name, toString t) := by
    cases h : a.timestamp.bind nonZero with
    | none => rfl
    | some t => simp [normal, h]
  unfold encode pairs
  rw [show a.normal.timestamp.bind nonZero = a.timestamp.bind nonZero from bind_nonZero_bind _,
    show a.normal.view.bind nonEmpty = a.view.bind nonEmpty from bind_nonEmpty_bind _,
    show a.normal.filter.bind nonEmpty = a.filter.bind nonEmpty from bind_nonEmpty_bind _, hkey]
  rfl

/-! ## What reading gives -/

/-- What reading can give: no empty view or filter, and no timestamp that is zero or beyond 64
bits. -/
structure Tidy (a : Address) : Prop where
  view : a.view ≠ some ""
  filter : a.filter ≠ some ""
  timestamp : a.timestamp ≠ some 0
  inRange : a.InRange

theorem inRange_read (value : String) (t : Int)
    (h : (readInt64? value).bind nonZero = some t) : fitsInt64 t = true :=
  fitsInt64_of_readInt64? (bind_nonZero_eq_some.1 h).1

theorem Tidy.put {a : Address} (h : a.Tidy) (name value : String) : (a.put name value).Tidy := by
  unfold Address.put
  split
  · exact { h with }
  · split
    · exact { h with view := nonEmpty_ne value }
    · split
      · exact { h with filter := nonEmpty_ne value }
      · split
        · exact { h with timestamp := bind_nonZero_ne _, inRange := inRange_read value }
        · split
          · exact { h with timestamp := bind_nonZero_ne _, inRange := inRange_read value }
          · exact h

theorem Tidy.putAll {a : Address} (h : a.Tidy) (pairs : List (String × String)) :
    (a.putAll pairs).Tidy := by
  induction pairs generalizing a with
  | nil => exact h
  | cons p pairs ih => exact ih (h.put p.1 p.2)

theorem tidy_decode (s : String) : (decode s).Tidy :=
  Tidy.putAll ⟨by decide, by decide, by decide, by rintro t ⟨⟩⟩ _

/-! ## One written form -/

/-- Reading a written address gives its normal form.  So addresses are written alike exactly when
their normal forms are the same, and writing what was read gives a text that reading and writing
keep. -/
theorem encode_canonical {a b : Address} (ha : a.InRange) (hb : b.InRange) :
    decode a.encode = a.normal ∧ (a.encode = b.encode ↔ a.normal = b.normal) ∧
      ∀ s, (decode (decode s).encode).encode = (decode s).encode := by
  refine ⟨decode_encode ha, ⟨fun h => ?_, fun h => ?_⟩, fun s => ?_⟩
  · rw [← decode_encode ha, ← decode_encode hb, h]
  · rw [← encode_normal a, ← encode_normal b, h]
  · rw [decode_encode (tidy_decode s).inRange, encode_normal]

/-- Reserved characters, the least timestamp under its older name, and an empty view that the
normal form lacks. -/
theorem encode_canonical_reserved :
    let a : Address :=
      { tab := .pgs, view := some "", filter := some "?a&b=c+ ü%", timestamp := some int64Min,
        key := .pos }
    let b : Address := { a with view := none }
    a.InRange ∧ b.InRange ∧ decode a.encode = a.normal ∧
      (a.encode = b.encode ↔ a.normal = b.normal) ∧
      ∀ s, (decode (decode s).encode).encode = (decode s).encode := by
  intro a b
  have ha : a.InRange := by rintro t ⟨⟩; decide
  have hb : b.InRange := by rintro t ⟨⟩; decide
  exact ⟨ha, hb, encode_canonical ha hb⟩

end Address

/-! ## Every other form -/

/-- Whichever way a link writes the pairs of an address, in whatever order and among whatever pairs
for no slot, it is read as the address.  The written form of the address is such a link. -/
theorem decode_link {a : Address} (hnormal : a.normal = a) (hrange : a.InRange) :
    (∀ (l : Link) (ps : List (String × String)), l.Spells ps →
      (ps.filter Address.isKnown).Perm a.pairs → Address.decode l.text = a) ∧
    (Link.written a.pairs).Spells a.pairs ∧ (Link.written a.pairs).text = a.encode := by
  refine ⟨fun l ps hl hperm => ?_, Link.spells_written a.pairs, Link.text_written a.pairs⟩
  rw [Link.decode_text hl, ← Address.ofPairs_filter_known,
    Address.ofPairs_of_perm hperm a.nodup_slots_pairs, Address.ofPairs_pairs hrange, hnormal]

/-- The link `?sort=x&&%66ilter=%c3%BC+&tab=pgs&` with blanks around it: another pair, an empty part
in the middle and one at the end, escapes in both cases, and the tab behind the filter. -/
theorem decode_link_of_everything :
    let a : Address := { tab := .pgs, filter := some "ü " }
    let ps : List (String × String) := [("sort", "x"), ("filter", "ü "), ("tab", "pgs")]
    let l : Link :=
      { before := [' ', '\t']
        question := true
        parts := [Form.encodePair ("sort", "x"), [],
          ['%', '6', '6', 'i', 'l', 't', 'e', 'r', '=', '%', 'c', '3', '%', 'B', 'C', '+'],
          Form.encodePair ("tab", "pgs"), []]
        after := ['\n'] }
    a.normal = a ∧ a.InRange ∧ l.Spells ps ∧ (ps.filter Address.isKnown).Perm a.pairs ∧
      Address.decode l.text = a := by
  intro a ps l
  have hnormal : a.normal = a := by decide
  have hrange : a.InRange := by rintro t ⟨⟩
  have hname : Form.SpellsBytes (Text.encode "filter") ['%', '6', '6', 'i', 'l', 't', 'e', 'r'] :=
    .cons (.escaped (.inl rfl) (.inl rfl)) (Form.spellsBytes_encoded (Text.encode "ilter"))
  have hvalue : Form.SpellsBytes (Text.encode "ü ") ['%', 'c', '3', '%', 'B', 'C', '+'] :=
    .cons (.escaped (.inl rfl) (.inl rfl)) <| .cons (.escaped (.inr rfl) (.inr rfl)) <|
      .cons .plus .nil
  have hl : l.Spells ps :=
    { before := List.all_eq_true.1 rfl
      parts := .pair (Form.spellsPair_encodePair _) <| .empty <| .pair ⟨_, _, hname, hvalue, rfl⟩ <|
        .pair (Form.spellsPair_encodePair _) <| .empty .nil
      after := List.all_eq_true.1 rfl }
  have hperm : (ps.filter Address.isKnown).Perm a.pairs := by decide
  exact ⟨hnormal, hrange, hl, hperm, (decode_link hnormal hrange).1 l ps hl hperm⟩

end SnapshotViewer
