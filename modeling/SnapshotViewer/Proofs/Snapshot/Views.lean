import SnapshotViewer.Proofs.Keyed
import SnapshotViewer.Proofs.Snapshot.Search
import SnapshotViewer.Proofs.Text.Order

/-!
# The views of a row agree

A row is listed with all its fields, its fields are looked up by name, and texts are looked for in
it.  A row keeps its identity apart from its other fields, so these views agree only if no other
field has the name of the identity and the other names are in order.  The reading of a row sees to
that: the member with the name of the identity never gets among the other fields, and these are put
in one after another in order of their names.

## Main definitions

* `Row.Tidy` — how the fields of a row are kept.
* `Row.ViewsAgree` — what is listed is what is looked up and what is searched.

## Main statements

* `Row.tidy_of_decoder` — a row that is read is tidy.
* `Row.Tidy.field?_eq_some_iff`, `Row.Tidy.matchesText_iff` — the views of a tidy row.
* `Snapshot.views_agree` — they agree in every snapshot that is read.
-/

namespace SnapshotViewer

open Json

namespace Row

variable {k : Collection} {r : Row}

/-- How the fields of a row of a collection are kept. -/
structure Tidy (r : Row) (k : Collection) : Prop where
  number : r.id.IsNumberOf k
  ascending : Keyed.Ascending r.fields
  /-- No other field has the name of the identity. -/
  apart : ∀ f ∈ r.fields, f.1 ≠ k.idField

/-! ## Reading -/

/-- The members of a row keep the fields that were found before in order, and the identity apart
from them. -/
theorem fields_of_decodeMembers {depth : Nat} {fault : Option Fault} {members : List (Quoted × Doc)}
    {id : Option EntityId} {fields : Fields} (hascending : Keyed.Ascending fields)
    (hapart : ∀ f ∈ fields, f.1 ≠ k.idField)
    (h : decodeMembers k depth fault members id fields = .ok r) :
    Keyed.Ascending r.fields ∧ ∀ f ∈ r.fields, f.1 ≠ k.idField := by
  induction members generalizing id fields with
  | nil =>
    obtain ⟨-, -, h⟩ := exists_of_bind_eq_ok h
    cases id with
    | none => cases h
    | some i =>
      obtain rfl : Row.mk i fields = r := Except.ok.inj h
      exact ⟨hascending, hapart⟩
  | cons m members ih =>
    obtain ⟨name, -, h⟩ := exists_of_bind_eq_ok h
    split at h
    · split at h
      · cases h
      · obtain ⟨n, -, h⟩ := exists_of_bind_eq_ok h
        exact ih hascending hapart h
    · next hname =>
      obtain ⟨v, -, h⟩ := exists_of_bind_eq_ok h
      refine ih (hascending.insert name v) (fun f hf => ?_) h
      rcases Keyed.eq_or_mem_of_mem_insert hf with rfl | hf
      · exact hname
      · exact hapart f hf

/-- A row that is read is tidy. -/
theorem tidy_of_decoder {depth : Nat} {doc : Doc} (h : decoder k depth doc = .ok r) : r.Tidy k := by
  have hnumber := isNumberOf_of_decoder h
  simp only [decoder] at h
  split at h
  · split at h
    · cases h
    · obtain ⟨hascending, hapart⟩ := fields_of_decodeMembers List.Pairwise.nil (by simp) h
      exact ⟨hnumber, hascending, hapart⟩
  · exact (Decoder.mismatch_ne_ok h).elim

/-! ## Views of a tidy row -/

/-- An identity is no null. -/
theorem isNull_id (r : Row) : r.id.toScalar.isNull = false := by
  cases r.id <;> rfl

/-- No two fields have one name. -/
theorem Tidy.nodup (h : r.Tidy k) : ((r.entries k).map (·.1)).Nodup := by
  refine List.nodup_cons.2 ⟨fun hmem => ?_, ?_⟩
  · obtain ⟨f, hf, hname⟩ := List.mem_map.1 hmem
    exact h.apart f hf hname
  · refine List.pairwise_map.2 (h.ascending.imp fun {e f} hlt heq => ?_)
    exact String.lt_irrefl f.1 (heq ▸ hlt)

/-- What is looked up is what is listed. -/
theorem Tidy.field?_eq_some_iff (h : r.Tidy k) {name : String} {v : Scalar} :
    r.field? k name = some v ↔ (name, v) ∈ r.entries k := by
  rw [field?, entries, List.mem_cons]
  split
  · next hname =>
    have hnot : (name, v) ∉ r.fields := fun hmem => h.apart _ hmem hname
    simp [hname, eq_comm, hname ▸ hnot]
  · next hname =>
    rw [h.ascending.find?_eq_some_iff]
    simp [hname]

/-- A text is found in the values that are listed, as they are shown in lower case.  The identity is
searched as it is shown, but a number has no capital letters. -/
theorem Tidy.matchesText_iff (h : r.Tidy k) {needle : String} : r.matchesText needle = true ↔
    ∃ e ∈ r.entries k, e.2.isNull = false ∧
      needle.toList <:+: (Text.lower e.2.display).toList := by
  have hid : Text.lowerChars r.id.toScalar.display.toList = r.id.display.toList :=
    lowerChars_of_infix_display h.number List.infix_rfl
  rw [Row.matchesText_iff, entries]
  simp only [Text.lower, String.toList_ofList, List.mem_cons, exists_eq_or_imp, hid, isNull_id,
    true_and]

/-- What is listed is what is looked up and what is searched. -/
structure ViewsAgree (r : Row) (k : Collection) : Prop where
  /-- The identity is listed first. -/
  head : (r.entries k).head? = some (k.idField, r.id.toScalar)
  /-- The names behind it ascend, by their bytes. -/
  ascending : (r.entries k).tail.Pairwise fun e f => Text.encode e.1 < Text.encode f.1
  nodup : ((r.entries k).map (·.1)).Nodup
  field?_iff : ∀ name v, r.field? k name = some v ↔ (name, v) ∈ r.entries k
  matchesText_iff : ∀ needle, r.matchesText needle = true ↔
    ∃ e ∈ r.entries k, e.2.isNull = false ∧ needle.toList <:+: (Text.lower e.2.display).toList

theorem Tidy.viewsAgree (h : r.Tidy k) : r.ViewsAgree k where
  head := rfl
  ascending := h.ascending.imp Text.encode_lt_encode_iff.2
  nodup := h.nodup
  field?_iff _ _ := h.field?_eq_some_iff
  matchesText_iff _ := h.matchesText_iff

end Row

namespace Snapshot

/-- The views of a row agree in every snapshot that is read. -/
theorem views_agree {s : Snapshot} (hs : s.IsRead) {k : Collection} {r : Row}
    (hr : r ∈ s.rows k) : r.ViewsAgree k := by
  obtain ⟨depth, doc, hread⟩ := hs.rowsRead k r hr
  exact (Row.tidy_of_decoder hread).viewsAgree

/-- A session as it is read from a text that gives its fields in another order. -/
def readSession : Row :=
  ⟨.int (-7), [("Zone", .null), ("name", .text "ÖZ"), ("ältere", .text "[1.5,\x7b\"x\":2\x7d]")]⟩

/-- A session with a number below zero, a field without a value and a list for a value.  Case does
not matter when it is searched, and two values are not searched as one text. -/
theorem views_agree_session : ∃ s : Snapshot, s.IsRead ∧ readSession ∈ s.rows .pga ∧
    readSession.ViewsAgree .pga ∧ readSession.field? .pga "pid" = some (.int (-7)) ∧
    readSession.matchesText "öz" = true ∧ readSession.matchesText "öz1" = false := by
  have hread : ofText ("\x7b\"timestamp\":1,\"pga\":[\x7b\"ältere\":[1.5,\x7b\"x\":2\x7d],"
      ++ "\"name\":\"ÖZ\",\"pid\":-7,\"Zone\":null\x7d]\x7d") =
      .ok { timestamp := 1, tables := { pga := [readSession] } } := by decide +kernel
  have hr : readSession ∈ ({ timestamp := 1, tables := { pga := [readSession] } } : Snapshot).rows
      .pga := List.mem_singleton.2 rfl
  have hagree := views_agree (.inl ⟨_, hread⟩) hr
  refine ⟨_, .inl ⟨_, hread⟩, hr, hagree, (hagree.field?_iff _ _).2 List.mem_cons_self,
    (hagree.matchesText_iff "öz").2 ⟨("name", .text "ÖZ"), ?_, rfl, by decide +kernel⟩, ?_⟩
  · simp [Row.entries, readSession]
  · rw [← Bool.not_eq_true, hagree.matchesText_iff]
    decide +kernel

end Snapshot

end SnapshotViewer
