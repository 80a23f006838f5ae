import SnapshotViewer.Json.Decoder
import SnapshotViewer.Proofs.Outcome

/-!
# What can be read

What is known of a value that was read from a document.  A record has every property that it has to
begin with and that each of its fields keeps, whichever of them are given, in whatever order, and
whether the record is written with names or as a list.

## Main statements

* `Decoder.record_keeps` — what the fields of a record keep.
* `Decoder.exists_of_mem_list`, `Decoder.ok_of_optional`, `Decoder.bounds_of_int` — the items of a
  list, values that may be null, and integers.
* `exists_of_decodeText`, `exists_of_decodeDoc` — whole documents.
-/

namespace SnapshotViewer.Json

/-- Whatever value of the field is put into a record, the record keeps the property. -/
def Member.Keeps {σ : Type} (P : σ → Prop) (f : Member σ) : Prop :=
  ∀ depth doc put, f.read depth doc = .ok put → ∀ r, P r → P (put r)

namespace Decoder

variable {σ α : Type} {d : Decoder α} {depth : Nat} {doc : Doc}

/-- Of all documents only a number can be read where none but a number can. -/
theorem mismatch_ne_ok {a : α} : (mismatch doc : Except Cause α) ≠ .ok a := by
  intro h
  cases doc with
  | number l =>
    obtain ⟨_, -, h⟩ := exists_of_bind_eq_ok h
    cases h
  | string q =>
    obtain ⟨_, -, h⟩ := exists_of_bind_eq_ok h
    cases h
  | _ => cases h

theorem bounds_of_int {low high n : Int} (h : int low high depth doc = .ok n) :
    low ≤ n ∧ n ≤ high := by
  simp only [int] at h
  split at h
  · obtain ⟨x, -, h⟩ := exists_of_bind_eq_ok h
    split at h
    · split at h
      · next hbounds => rwa [← Except.ok.inj h]
      · cases h
    · cases h
  · exact (mismatch_ne_ok h).elim

/-- What is read where null is allowed too is read without it. -/
theorem ok_of_optional {a : α} (h : optional d depth doc = .ok (some a)) : d depth doc = .ok a := by
  simp only [optional] at h
  split at h
  · cases h
  · obtain ⟨b, hb, heq⟩ := exists_of_map_eq_ok h
    rwa [← Option.some.inj heq]

theorem exists_of_mem_list {xs : List α} (h : list d depth doc = .ok xs) {x : α} (hx : x ∈ xs) :
    ∃ depth' doc', d depth' doc' = .ok x := by
  simp only [list] at h
  split at h
  · split at h
    · cases h
    · next depth =>
      obtain ⟨ys, hys, h⟩ := exists_of_bind_eq_ok h
      obtain ⟨-, -, h⟩ := exists_of_bind_eq_ok h
      obtain rfl : ys = xs := Except.ok.inj h
      obtain ⟨doc', -, hread⟩ := exists_of_mem_mapM hys hx
      exact ⟨depth, doc', hread⟩
  · exact (mismatch_ne_ok h).elim

/-! ## Records -/

section Record
variable {P : σ → Prop} {fields : List (Member σ)} {fault : Option Fault} {r s : σ}

theorem members_keeps (hfields : ∀ f ∈ fields, f.Keeps P) {ms : List (Quoted × Doc)}
    {seen : List String} (hr : P r) (h : members fields depth fault ms seen r = .ok s) : P s := by
  induction ms generalizing seen r with
  | nil =>
    obtain ⟨-, -, h⟩ := exists_of_bind_eq_ok h
    split at h
    · rwa [← Except.ok.inj h]
    · cases h
  | cons m ms ih =>
    obtain ⟨name, -, h⟩ := exists_of_bind_eq_ok h
    split at h
    · obtain ⟨-, -, h⟩ := exists_of_bind_eq_ok h
      exact ih hr h
    · next f hf =>
      split at h
      · cases h
      · obtain ⟨put, hput, h⟩ := exists_of_bind_eq_ok h
        exact ih (hfields f (List.mem_of_find?_eq_some hf) depth _ put hput r hr) h

theorem items_keeps (hfields : ∀ f ∈ fields, f.Keeps P) {docs : List Doc} (hr : P r)
    (h : items depth fault fields docs r = .ok s) : P s := by
  induction fields generalizing docs r with
  | nil =>
    cases docs with
    | nil =>
      obtain ⟨-, -, h⟩ := exists_of_bind_eq_ok h
      rwa [← Except.ok.inj h]
    | cons doc docs => cases h
  | cons f fields ih =>
    cases docs with
    | nil =>
      obtain ⟨-, -, h⟩ := exists_of_bind_eq_ok h
      split at h
      · rwa [← Except.ok.inj h]
      · cases h
    | cons doc docs =>
      obtain ⟨put, hput, h⟩ := exists_of_bind_eq_ok h
      exact ih (fun g hg => hfields g (List.mem_cons_of_mem f hg))
        (hfields f List.mem_cons_self depth doc put hput r hr) h

/-- A record has what it starts with and what its fields keep. -/
theorem record_keeps {start : σ} (hfields : ∀ f ∈ fields, f.Keeps P) (hstart : P start)
    (h : record fields start depth doc = .ok r) : P r := by
  simp only [record] at h
  split at h
  · split at h
    · cases h
    · exact members_keeps hfields hstart h
  · split at h
    · cases h
    · exact items_keeps hfields hstart h
  · exact (mismatch_ne_ok h).elim

end Record

end Decoder

/-! ## Whole documents -/

section Document
variable {α : Type} {d : Decoder α} {x : α}

theorem exists_of_decodeText {text : String} (h : decodeText d text = .ok x) :
    ∃ doc, d maxDepth doc = .ok x := by
  obtain ⟨y, hy, h⟩ := exists_of_bind_eq_ok h
  split at h
  · cases h
  · obtain rfl : y = x := Except.ok.inj h
    exact ⟨_, hy⟩

theorem exists_of_decodeDoc {doc : Doc} (h : decodeDoc d doc = .ok x) :
    ∃ doc', d maxDepth doc' = .ok x :=
  ⟨doc.settled, eq_ok_of_mapError_eq_ok h⟩

end Document

end SnapshotViewer.Json
