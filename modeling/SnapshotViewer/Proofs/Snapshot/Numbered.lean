import SnapshotViewer.Proofs.Json.Decoder
import SnapshotViewer.Snapshot.Document

/-!
# Rows are identified by numbers

A collection knows its rows by numbers within its bounds.  The reading of a snapshot sees to it:
whatever the document, every row of the snapshot that is read from it is identified by such a
number.

## Main definitions

* `EntityId.IsNumberOf`, `Snapshot.Numbered` — identified by numbers within the bounds.
* `Snapshot.IsRead` — the snapshots that come from documents.
* `Snapshot.RowsRead` — the rows come from documents.

## Main statements

* `Snapshot.IsRead.rowsRead`, `Snapshot.IsRead.numbered` — what is read has such rows, and it is
  numbered.
-/

namespace SnapshotViewer

open Json

/-- The identity is a number within the bounds of the collection. -/
def EntityId.IsNumberOf (id : EntityId) (k : Collection) : Prop :=
  ∃ n, k.idBounds.1 ≤ n ∧ n ≤ k.idBounds.2 ∧ id = .ofInt n

/-- All rows are identified by numbers within the bounds of their collections. -/
def Snapshot.Numbered (s : Snapshot) : Prop := ∀ k, ∀ r ∈ s.rows k, r.id.IsNumberOf k

/-- The snapshot was read, from a text or from a document that is already there. -/
def Snapshot.IsRead (s : Snapshot) : Prop :=
  (∃ text, ofText text = .ok s) ∨ ∃ doc, ofDoc doc = .ok s

namespace Row

variable {k : Collection} {depth : Nat} {r : Row}

/-- The members of a row keep an identity that was found before within the bounds. -/
theorem isNumberOf_of_decodeMembers {fault : Option Fault} {members : List (Quoted × Doc)}
    {id : Option EntityId} {fields : Fields}
    (hid : ∀ i, id = some i → i.IsNumberOf k)
    (h : decodeMembers k depth fault members id fields = .ok r) : r.id.IsNumberOf k := by
  induction members generalizing id fields with
  | nil =>
    obtain ⟨-, -, h⟩ := exists_of_bind_eq_ok h
    cases id with
    | none => cases h
    | some i =>
      obtain rfl : Row.mk i fields = r := Except.ok.inj h
      exact hid i rfl
  | cons m members ih =>
    obtain ⟨name, -, h⟩ := exists_of_bind_eq_ok h
    split at h
    · split at h
      · cases h
      · obtain ⟨n, hn, h⟩ := exists_of_bind_eq_ok h
        obtain ⟨hlow, hhigh⟩ := Decoder.bounds_of_int hn
        refine ih (fun i hi => ⟨n, hlow, hhigh, ?_⟩) h
        rw [← Option.some.inj hi]
    · obtain ⟨v, -, h⟩ := exists_of_bind_eq_ok h
      exact ih hid h

theorem isNumberOf_of_decoder {doc : Doc} (h : decoder k depth doc = .ok r) :
    r.id.IsNumberOf k := by
  simp only [decoder] at h
  split at h
  · split at h
    · cases h
    · refine isNumberOf_of_decodeMembers (fun i hi => ?_) h
      cases hi
  · exact (Decoder.mismatch_ne_ok h).elim

end Row

namespace Snapshot

variable {s : Snapshot} {k : Collection} {r : Row}

/-- All rows were read as rows of their collections. -/
def RowsRead (s : Snapshot) : Prop :=
  ∀ k, ∀ r ∈ s.rows k, ∃ depth doc, Row.decoder k depth doc = .ok r

/-- A field that puts something else than rows into a snapshot leaves the rows as they are. -/
theorem keeps_rowsRead_of_tables {α : Type} {name : String} {required : Bool} {d : Decoder α}
    {put : α → Snapshot → Snapshot} (hput : ∀ x s, (put x s).tables = s.tables) :
    (Member.mk name required (d.map put)).Keeps RowsRead := by
  intro depth doc f hf s hs k r hr
  obtain ⟨x, -, rfl⟩ := exists_of_map_eq_ok hf
  rw [rows, hput] at hr
  exact hs k r hr

theorem keeps_rowsRead_tableField (k : Collection) : (tableField k).Keeps RowsRead := by
  intro depth doc f hf s hs l r hr
  obtain ⟨rows', hrows, rfl⟩ := exists_of_map_eq_ok hf
  simp only [rows, Tables.rows_put] at hr
  split at hr
  · next hl => exact hl ▸ Decoder.exists_of_mem_list hrows hr
  · exact hs l r hr

theorem rowsRead_of_decoder {depth : Nat} {doc : Doc} (h : decoder depth doc = .ok s) :
    s.RowsRead := by
  refine Decoder.record_keeps (fun f hf => ?_) (fun k r hr => ?_) h
  · rcases List.mem_append.1 hf with hf | hf
    · simp only [List.mem_cons, List.not_mem_nil, or_false] at hf
      rcases hf with rfl | rfl | rfl <;> exact keeps_rowsRead_of_tables fun _ _ => rfl
    · obtain ⟨k, -, rfl⟩ := List.mem_map.1 hf
      exact keeps_rowsRead_tableField k
  · cases k <;> cases hr

/-- What was read, from a text or from a document, was read from a document. -/
theorem IsRead.exists_decoder (h : s.IsRead) : ∃ depth doc, decoder depth doc = .ok s := by
  rcases h with ⟨text, htext⟩ | ⟨doc, hdoc⟩
  · obtain ⟨doc, hdoc⟩ := exists_of_decodeText htext
    exact ⟨_, doc, hdoc⟩
  · obtain ⟨doc', hdoc'⟩ := exists_of_decodeDoc hdoc
    exact ⟨_, doc', hdoc'⟩

/-- Each row of a snapshot that was read was read as a row of its collection. -/
theorem IsRead.rowsRead (h : s.IsRead) : s.RowsRead := by
  obtain ⟨depth, doc, hdoc⟩ := h.exists_decoder
  exact rowsRead_of_decoder hdoc

/-- A snapshot that was read is numbered. -/
theorem IsRead.numbered (h : s.IsRead) : s.Numbered := by
  intro k r hr
  obtain ⟨depth, doc, hdoc⟩ := h.rowsRead k r hr
  exact Row.isNumberOf_of_decoder hdoc

end Snapshot

end SnapshotViewer
