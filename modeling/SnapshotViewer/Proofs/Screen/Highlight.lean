import Mathlib.Data.List.Basic
import Mathlib.Data.List.Induction
import SnapshotViewer.Proofs.Navigator.Cursor
import SnapshotViewer.Screen.Content
import SnapshotViewer.Snapshot.Document

/-!
# The highlighted row and the row that a step begins at

The choice is an identity.  A step begins at the first visible row with that identity, and the
details are those of the first one too, but the table highlights the last.  As long as an identity
is that of one visible row these are the same row, and a step down moves the highlight down by one
row.  A session that waits for two locks is listed twice, though, and then a step down can move the
highlight up.

## Main definitions

* `FirstAt`, `LastAt` — the first and the last position of an identity.

## Main statements

* `lastPosition?_eq_some_iff` — what the table highlights.
* `eq_iff_count` — when the first and the last position are the same.
* `highlight_and_cursor` — where the highlight is, where steps begin, and when that is one row.
* `highlight_off_cursor_of_repeated_lock` — a list in which the highlight goes the wrong way.
-/

namespace SnapshotViewer

/-- The identities of the visible rows, in their order. -/
def Navigator.visibleIds (n : Navigator) : List EntityId := n.visibleRows.map (·.id)

namespace Screen

open Navigator (positionOf? positionOf?_eq_some_iff clamp)

/-- An identity is first found at this position. -/
def FirstAt (ids : List EntityId) (id : EntityId) (p : Nat) : Prop :=
  ids[p]? = some id ∧ ∀ j < p, ids[j]? ≠ some id

/-- An identity is last found at this position. -/
def LastAt (ids : List EntityId) (id : EntityId) (q : Nat) : Prop :=
  ids[q]? = some id ∧ ∀ j > q, ids[j]? ≠ some id

variable {n : Navigator} {rows : List Row} {ids : List EntityId} {x id : EntityId} {p q : Nat}

/-! ## First and last position -/

theorem lastAt_concat :
    LastAt (ids ++ [x]) id q ↔ if x = id then q = ids.length else LastAt ids id q := by
  have hat : ∀ j, (ids ++ [x])[j]? = some id ↔ ids[j]? = some id ∨ j = ids.length ∧ x = id := by
    intro j
    rw [List.getElem?_append]
    split <;> grind
  simp only [LastAt, ne_eq, hat]
  grind

/-- An identity that occurs has a last position. -/
theorem exists_lastAt (h : id ∈ ids) : ∃ q, LastAt ids id q := by
  induction ids using List.reverseRecOn with
  | nil => simp at h
  | append_singleton ids x ih =>
    by_cases hx : x = id
    · exact ⟨ids.length, lastAt_concat.2 (by simp [hx])⟩
    · obtain ⟨q, hq⟩ := ih (by simpa [Ne.symm hx] using h)
      exact ⟨q, lastAt_concat.2 (by simpa [hx] using hq)⟩

/-- Where each identity occurs once, any position of an identity is the last. -/
theorem lastAt_of_nodup (hnodup : ids.Nodup) (hq : ids[q]? = some id) : LastAt ids id q := by
  refine ⟨hq, fun j hj heq => ?_⟩
  obtain ⟨hjlt, hjid⟩ := List.getElem?_eq_some_iff.1 heq
  obtain ⟨hqlt, hqid⟩ := List.getElem?_eq_some_iff.1 hq
  have hne := List.pairwise_iff_getElem.1 (List.nodup_iff_pairwise_ne.1 hnodup) q j hqlt hjlt hj
  exact hne (hqid.trans hjid.symm)

/-- In front of its first position an identity does not occur, so it occurs there and behind. -/
theorem count_of_firstAt (hp : FirstAt ids id p) :
    ids.count id = 1 + (ids.drop (p + 1)).count id := by
  obtain ⟨hp, hfirst⟩ := hp
  obtain ⟨hlt, hid⟩ := List.getElem?_eq_some_iff.1 hp
  have hfront : (ids.take p).count id = 0 := by
    rw [List.count_eq_zero, List.mem_take_iff_getElem]
    rintro ⟨j, hj, heq⟩
    exact hfirst j (by omega) (by simp [← heq])
  conv_lhs => rw [← List.take_append_drop p ids, List.drop_eq_getElem_cons hlt]
  rw [List.count_append, hfront, hid, List.count_cons_self]
  omega

/-- Behind a position an identity does not occur exactly if the last position is not behind it. -/
theorem count_drop_eq_zero_iff (hq : LastAt ids id q) :
    (ids.drop (p + 1)).count id = 0 ↔ q ≤ p := by
  obtain ⟨hq, hlast⟩ := hq
  rw [List.count_eq_zero, List.mem_drop_iff_getElem]
  constructor
  · intro h
    by_contra hlt
    obtain ⟨hqlt, hqid⟩ := List.getElem?_eq_some_iff.1 hq
    exact h ⟨q - (p + 1), by omega, by simp [show p + 1 + (q - (p + 1)) = q by omega, hqid]⟩
  · rintro hle ⟨j, hj, heq⟩
    exact hlast (p + 1 + j) (by omega) (by simp [← heq])

/-- First and last position are the same exactly if the identity occurs once. -/
theorem eq_iff_count (hp : FirstAt ids id p) (hq : LastAt ids id q) :
    q = p ↔ ids.count id = 1 := by
  have hle : p ≤ q := by
    by_contra hlt
    exact hp.2 q (by omega) hq.1
  have hcount := count_of_firstAt hp
  have hbehind := count_drop_eq_zero_iff (p := p) hq
  omega

/-! ## What is highlighted and where steps begin -/

theorem lastPosition?_eq_some_iff :
    lastPosition? rows id = some q ↔ LastAt (rows.map (·.id)) id q := by
  induction rows using List.reverseRecOn with
  | nil => simp [lastPosition?, LastAt]
  | append_singleton rows r ih =>
    rw [List.map_append, List.map_singleton, lastAt_concat, ← ih]
    by_cases hr : r.id = id
    · simp [lastPosition?, List.zipIdx_append, hr, eq_comm]
    · simp [lastPosition?, List.zipIdx_append, hr]

theorem positionOf?_eq_some_iff_firstAt :
    positionOf? rows id = some p ↔ FirstAt (rows.map (·.id)) id p := by
  rw [positionOf?_eq_some_iff, FirstAt]
  grind

theorem highlighted_of_lastAt (hchosen : n.state.selected = some id)
    (hq : LastAt n.visibleIds id q) : (table n).highlighted = some q := by
  rw [table, hchosen, Option.bind_some]
  exact lastPosition?_eq_some_iff.2 hq

theorem exists_step_of_firstAt (hlen : n.visibleRows.length ≤ uint64Max)
    (hchosen : n.state.selected = some id) (hp : FirstAt n.visibleIds id p) (delta : Int) :
    ∃ next, n.visibleIds[clamp (p + delta) (n.visibleIds.length - 1)]? = some next ∧
      n.step delta = n.moveTo next := by
  have hposition : positionOf? n.visibleRows id = some p :=
    positionOf?_eq_some_iff_firstAt.2 hp
  have hrows : n.visibleRows ≠ [] := by
    have hlt := Navigator.positionOf?_lt hposition
    exact List.ne_nil_of_length_pos (by omega)
  obtain ⟨r, hr, hstep⟩ := Navigator.exists_step_eq hrows delta
  rw [Navigator.stepTarget_of_position hlen hchosen hposition] at hr
  exact ⟨r.id, by simp [Navigator.visibleIds, hr], hstep⟩

/-- A step is counted from the first visible row with the chosen identity, and the last one is
highlighted.  They are the same row exactly if the identity is that of one visible row.  Where all
visible rows have identities of their own, a step down moves the highlight down by one row, or it is
on the last row and stays there. -/
theorem highlight_and_cursor (hlen : n.visibleRows.length ≤ uint64Max)
    (hchosen : n.state.selected = some id) (hvisible : id ∈ n.visibleIds) :
    ∃ first last, FirstAt n.visibleIds id first ∧ LastAt n.visibleIds id last ∧
      (table n).highlighted = some last ∧
      (∀ delta, ∃ next, n.visibleIds[clamp (first + delta) (n.visibleIds.length - 1)]? = some next ∧
        n.step delta = n.moveTo next) ∧
      (last = first ↔ n.visibleIds.count id = 1) ∧
      (n.visibleIds.Nodup → last = first ∧
        (table (n.step 1)).highlighted = some (min (last + 1) (n.visibleIds.length - 1))) := by
  obtain ⟨r, hr, rfl⟩ := List.mem_map.1 hvisible
  obtain ⟨first, hposition⟩ := Navigator.exists_positionOf? hr
  obtain ⟨last, hlast⟩ := exists_lastAt hvisible
  have hfirst : FirstAt n.visibleIds r.id first := positionOf?_eq_some_iff_firstAt.1 hposition
  have hstep := exists_step_of_firstAt hlen hchosen hfirst
  refine ⟨first, last, hfirst, hlast, highlighted_of_lastAt hchosen hlast, hstep,
    eq_iff_count hfirst hlast, fun hnodup => ?_⟩
  have hsame : last = first :=
    (eq_iff_count hfirst hlast).2 (by rw [hnodup.count, if_pos hvisible])
  refine ⟨hsame, ?_⟩
  obtain ⟨next, hnext, heq⟩ := hstep 1
  have hdown : clamp ((first : Int) + 1) (n.visibleIds.length - 1) =
      min (last + 1) (n.visibleIds.length - 1) := by
    unfold clamp
    omega
  rw [hdown] at hnext
  rw [heq]
  exact highlighted_of_lastAt rfl (lastAt_of_nodup hnodup hnext)

/-- Sessions that the filter text leaves, with the second of them chosen. -/
theorem highlight_and_cursor_sessions :
    let active : Fields := [("state", .text "active")]
    let sessions : List Row :=
      [⟨.int 41, active⟩, ⟨.int 42, active⟩, ⟨.int 43, [("state", .text "idle")]⟩,
        ⟨.int 44, active⟩]
    let n := (Navigator.start { mode := .live } { tab := .pga }).run
      [.onSnapshot { timestamp := 1000, tables := { pga := sessions } },
        .changeFilterText "active", .selectRow (some (.int 42))]
    (n.visibleRows.length ≤ uint64Max ∧ n.state.selected = some (.int 42) ∧
        .int 42 ∈ n.visibleIds ∧ n.visibleIds.Nodup) ∧
      FirstAt n.visibleIds (.int 42) 1 ∧ (table n).highlighted = some 1 ∧
      (table (n.step 1)).highlighted = some 2 := by
  intro active sessions n
  have hlen : n.visibleRows.length ≤ uint64Max := by decide +kernel
  have hchosen : n.state.selected = some (.int 42) := by decide +kernel
  have hvisible : .int 42 ∈ n.visibleIds := by decide +kernel
  have hnodup : n.visibleIds.Nodup := by decide +kernel
  obtain ⟨first, last, hfirst, -, hhighlight, -, -, hnodup'⟩ :=
    highlight_and_cursor hlen hchosen hvisible
  obtain ⟨rfl, hdown⟩ := hnodup' hnodup
  obtain rfl : last = 1 := by
    have hone : (table n).highlighted = some 1 := by decide +kernel
    exact Option.some.inj (hhighlight.symm.trans hone)
  exact ⟨⟨hlen, hchosen, hvisible, hnodup⟩, hfirst, hhighlight, hdown.trans (by decide +kernel)⟩

/-- So it is not true that the highlighted row is the one that steps are counted from in whatever
can be read.  With a session that waits for two locks chosen, the third row is highlighted, and a
step down moves the highlight up to the second. -/
theorem highlight_off_cursor_of_repeated_lock :
    ¬ ∀ (text : String) (s : Snapshot) (n : Navigator) (id : EntityId) (p : Nat),
      (Snapshot.ofText text).toOption = some s → n.current = some s →
      n.state.selected = some id → FirstAt n.visibleIds id p →
      (table n).highlighted = some p ∧
        (p + 1 < n.visibleIds.length → (table (n.step 1)).highlighted = some (p + 1)) := by
  intro h
  let text := "\x7b\"timestamp\":1,\"pgl\":" ++
    "[\x7b\"pid\":7\x7d,\x7b\"pid\":8\x7d,\x7b\"pid\":7\x7d]\x7d"
  let locks : List Row := [⟨.int 7, []⟩, ⟨.int 8, []⟩, ⟨.int 7, []⟩]
  let s : Snapshot := { timestamp := 1, tables := { pgl := locks } }
  let n := ((Navigator.start { mode := .live } { tab := .pgl }).onSnapshot s).selectFirst
  have htext : (Snapshot.ofText text).toOption = some s := by decide +kernel
  have hfirst : FirstAt n.visibleIds (.int 7) 0 :=
    ⟨by decide +kernel, fun j hj => absurd hj (Nat.not_lt_zero j)⟩
  have hhighlight := (h text s n (.int 7) 0 htext (by decide +kernel) (by decide +kernel) hfirst).1
  exact absurd hhighlight (by decide +kernel)

end Screen

end SnapshotViewer
