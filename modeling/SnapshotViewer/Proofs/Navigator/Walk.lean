import SnapshotViewer.Proofs.Navigator.Cursor
import SnapshotViewer.Snapshot.Document

/-!
# Walks along the visible rows

A user who begins at the first visible row and steps on row by row expects to come past all of them.
What a step remembers is an identity, though, so it cannot tell two rows with one identity apart:
behind the second of them it goes on from the first.  A walk keeps to the order of the rows exactly
if the row that follows depends on the identity alone (`Uniform`), in the direction of the walk.
For both directions together that leaves two kinds of lists: those in which each identity occurs
once, and those in which there is only one.

## Main definitions

* `idAt?` — the identity of the visible row at a position.
* `Uniform` — rows with one identity are followed by rows with one identity.
* `WalksThrough` — walks from both ends come past every row.

## Main statements

* `walks_iff_uniform` — the walks that keep to the order of the rows.
* `walksThrough_iff` — the lists that walks come through.
* `not_walksThrough_of_repeated_lock` — a list of locks that no walk comes through.
-/

namespace SnapshotViewer.Navigator

/-- The identity of the visible row at a position. -/
def idAt? (n : Navigator) (i : Nat) : Option EntityId := n.visibleRows[i]?.map (·.id)

/-- Rows with one identity lead to rows with one identity in a step of `delta` rows. -/
def Uniform (n : Navigator) (delta : Int) : Prop :=
  ∀ i j, i < n.visibleRows.length → j < n.visibleRows.length → n.idAt? i = n.idAt? j →
    n.idAt? (clamp (i + delta) (n.visibleRows.length - 1)) =
      n.idAt? (clamp (j + delta) (n.visibleRows.length - 1))

/-- Walks from both ends come past all visible rows in their order and then stay where they are. -/
def WalksThrough (n : Navigator) : Prop :=
  ∀ k, (n.selectFirst.run (List.replicate k (.step 1))).state.selected =
        n.visibleRows[min k (n.visibleRows.length - 1)]?.map (·.id) ∧
      (n.selectLast.run (List.replicate k (.step (-1)))).state.selected =
        n.visibleRows[n.visibleRows.length - 1 - k]?.map (·.id)

variable {n : Navigator} {i j k : Nat} {delta : Int}

/-! ## Positions and what stands there -/

theorem clamp_eq_self (h : i ≤ j) : clamp i j = i := by
  unfold clamp
  omega

theorem clamp_forth (i k last : Nat) : clamp (i + k * 1) last = min (i + k) last := by
  unfold clamp
  omega

theorem clamp_back {last : Nat} (h : i ≤ last) (k : Nat) : clamp (i + k * (-1)) last = i - k := by
  unfold clamp
  omega

theorem clamp_lt (hi : i < n.visibleRows.length) (m : Int) :
    clamp m (n.visibleRows.length - 1) < n.visibleRows.length := by
  have := clamp_le m (n.visibleRows.length - 1)
  omega

/-- A step more of the same length leads as far as all the steps at once. -/
theorem clamp_succ (hi : i ≤ j) (delta : Int) (k : Nat) :
    clamp (clamp (i + k * delta) j + delta) j = clamp (i + (k + 1 : Nat) * delta) j := by
  have hsign : 0 ≤ k * delta ∧ 0 ≤ delta ∨ k * delta ≤ 0 ∧ delta ≤ 0 := by
    rcases Int.le_total 0 delta with h | h
    · exact .inl ⟨Int.mul_nonneg (Int.natCast_nonneg k) h, h⟩
    · exact .inr ⟨Int.mul_nonpos_of_nonneg_of_nonpos (Int.natCast_nonneg k) h, h⟩
  have hmul : ((k + 1 : Nat) : Int) * delta = k * delta + delta := by
    rw [Int.natCast_add, Int.add_mul, Int.natCast_one, Int.one_mul]
  rw [clamp_clamp_add hi hsign, hmul]

theorem idAt?_of_lt (hi : i < n.visibleRows.length) :
    n.idAt? i = some n.visibleRows[i].id := by
  rw [idAt?, List.getElem?_eq_getElem hi, Option.map_some]

theorem idAt?_eq_iff (hi : i < n.visibleRows.length) (hj : j < n.visibleRows.length) :
    n.idAt? i = n.idAt? j ↔ n.visibleRows[i].id = n.visibleRows[j].id := by
  rw [idAt?_of_lt hi, idAt?_of_lt hj, Option.some.injEq]

theorem selected_selectAt (hi : i < n.visibleRows.length) :
    (n.selectAt i).state.selected = n.idAt? i := by
  rw [idAt?_of_lt hi, selectAt_of_lt hi, selected_moveTo]

/-- All that is left of the position that was chosen is the identity there. -/
theorem selectAt_congr (hi : i < n.visibleRows.length) (hj : j < n.visibleRows.length)
    (h : n.idAt? i = n.idAt? j) : n.selectAt i = n.selectAt j := by
  rw [selectAt_of_lt hi, selectAt_of_lt hj, (idAt?_eq_iff hi hj).1 h]

/-! ## Walks -/

/-- A step from a row begins at the first row with its identity. -/
theorem exists_step_selectAt (hlen : n.visibleRows.length ≤ uint64Max)
    (hi : i < n.visibleRows.length) (delta : Int) :
    ∃ p < n.visibleRows.length, n.idAt? p = n.idAt? i ∧
      (n.selectAt i).step delta = n.selectAt (clamp (p + delta) (n.visibleRows.length - 1)) := by
  obtain ⟨p, hp⟩ := exists_positionOf? (List.getElem_mem hi)
  obtain ⟨hlt, hid, -⟩ := positionOf?_eq_some_iff.1 hp
  refine ⟨p, hlt, (idAt?_eq_iff hlt hi).2 hid, ?_⟩
  have hrows : (n.moveTo n.visibleRows[i].id).visibleRows ≠ [] :=
    List.ne_nil_of_length_pos (Nat.zero_lt_of_lt hi)
  obtain ⟨r, hr, hstep⟩ := exists_step_eq hrows delta
  rw [visibleRows_moveTo, selected_moveTo, stepTarget_of_position hlen rfl hp] at hr
  rw [selectAt_of_lt hi, hstep, moveTo_moveTo, selectAt_eq_moveTo hr]

theorem walk_succ (m : Navigator) (delta : Int) (k : Nat) :
    m.run (List.replicate (k + 1) (.step delta)) =
      (m.run (List.replicate k (.step delta))).step delta :=
  run_replicate_succ m k (.step delta)

/-- A walk is always at some row. -/
theorem exists_walk_eq (hlen : n.visibleRows.length ≤ uint64Max) (hi : i < n.visibleRows.length)
    (delta : Int) (k : Nat) : ∃ p < n.visibleRows.length,
      (n.selectAt i).run (List.replicate k (.step delta)) = n.selectAt p := by
  induction k with
  | zero => exact ⟨i, hi, rfl⟩
  | succ k ih =>
    obtain ⟨p, hp, hwalk⟩ := ih
    obtain ⟨q, -, -, hstep⟩ := exists_step_selectAt hlen hp delta
    rw [walk_succ, hwalk, hstep]
    exact ⟨_, clamp_lt hp _, rfl⟩

/-- Where identities tell what follows, a walk goes as far as one long step. -/
theorem walk_of_uniform (hlen : n.visibleRows.length ≤ uint64Max) (h : n.Uniform delta)
    (hi : i < n.visibleRows.length) (k : Nat) :
    (n.selectAt i).run (List.replicate k (.step delta)) =
      n.selectAt (clamp (i + k * delta) (n.visibleRows.length - 1)) := by
  have hlast : i ≤ n.visibleRows.length - 1 := by omega
  induction k with
  | zero =>
    have hzero : ((0 : Nat) : Int) * delta = 0 := Int.zero_mul delta
    rw [hzero, Int.add_zero, clamp_eq_self hlast]
    rfl
  | succ k ih =>
    -- the step begins at another row with the same identity, so it ends at one with the same too
    obtain ⟨p, hp, hid, hstep⟩ := exists_step_selectAt hlen (clamp_lt hi (i + k * delta)) delta
    have hnext := h p _ hp (clamp_lt hi _) hid
    rw [clamp_succ hlast] at hnext
    rw [walk_succ, ih, hstep]
    exact selectAt_congr (clamp_lt hi _) (clamp_lt hi _) hnext

/-- A walk that comes past every position keeps to the order of the rows exactly if identities
tell what follows. -/
theorem walks_iff_uniform (hlen : n.visibleRows.length ≤ uint64Max)
    (hi : i < n.visibleRows.length) (delta : Int)
    (hcovers : ∀ q < n.visibleRows.length, ∃ k : Nat,
      clamp (i + k * delta) (n.visibleRows.length - 1) = q) :
    (∀ k : Nat, ((n.selectAt i).run (List.replicate k (.step delta))).state.selected =
      n.idAt? (clamp (i + k * delta) (n.visibleRows.length - 1))) ↔ n.Uniform delta := by
  constructor
  · intro hwalk
    -- Behind the walk to a row it is as if that row had just been chosen.
    have hthere : ∀ q < n.visibleRows.length, ((n.selectAt q).step delta).state.selected =
        n.idAt? (clamp (q + delta) (n.visibleRows.length - 1)) := by
      intro q hq
      obtain ⟨k, rfl⟩ := hcovers q hq
      obtain ⟨p, hp, heq⟩ := exists_walk_eq hlen hi delta k
      have hid : n.idAt? p = n.idAt? (clamp (i + k * delta) (n.visibleRows.length - 1)) := by
        rw [← selected_selectAt hp, ← heq, hwalk k]
      rw [← selectAt_congr hp hq hid, ← heq, ← walk_succ, hwalk (k + 1), clamp_succ (by omega)]
    intro p q hp hq hid
    rw [← hthere p hp, ← hthere q hq, selectAt_congr hp hq hid]
  · intro h k
    rw [walk_of_uniform hlen h hi, selected_selectAt (clamp_lt hi _)]

/-! ## Lists in which walks come past every row -/

/-- Rows with one identity lead to rows with one identity in any number of steps. -/
theorem Uniform.steps (hlen : n.visibleRows.length ≤ uint64Max) (h : n.Uniform delta)
    (hi : i < n.visibleRows.length) (hj : j < n.visibleRows.length) (hid : n.idAt? i = n.idAt? j)
    (k : Nat) :
    n.idAt? (clamp (i + k * delta) (n.visibleRows.length - 1)) =
      n.idAt? (clamp (j + k * delta) (n.visibleRows.length - 1)) := by
  rw [← selected_selectAt (clamp_lt hi _), ← selected_selectAt (clamp_lt hj _),
    ← walk_of_uniform hlen h hi, ← walk_of_uniform hlen h hj, selectAt_congr hi hj hid]

theorem uniform_of_nodup (h : (n.visibleRows.map (·.id)).Nodup) (delta : Int) :
    n.Uniform delta := by
  intro i j hi hj hid
  have hfirst := positionOf?_of_nodup h (List.getElem?_eq_getElem hi)
  rw [(idAt?_eq_iff hi hj).1 hid, positionOf?_of_nodup h (List.getElem?_eq_getElem hj)] at hfirst
  obtain rfl : j = i := Option.some.inj hfirst
  rfl

theorem uniform_of_constant (h : ∀ x ∈ n.visibleRows, ∀ y ∈ n.visibleRows, x.id = y.id)
    (delta : Int) : n.Uniform delta := by
  intro i j hi hj _
  rw [idAt?_eq_iff (clamp_lt hi _) (clamp_lt hj _)]
  exact h _ (List.getElem_mem _) _ (List.getElem_mem _)

/-- An identity that occurs twice is, going down, that of the last two rows, and then, going up,
that of all rows. -/
theorem constant_of_repeated (hlen : n.visibleRows.length ≤ uint64Max) (hdown : n.Uniform 1)
    (hup : n.Uniform (-1)) (hij : i < j) (hj : j < n.visibleRows.length)
    (hid : n.idAt? i = n.idAt? j) :
    ∀ x ∈ n.visibleRows, ∀ y ∈ n.visibleRows, x.id = y.id := by
  obtain ⟨last, hlast⟩ : ∃ last, n.visibleRows.length = last + 1 :=
    ⟨n.visibleRows.length - 1, by omega⟩
  have hend : n.idAt? (last - 1) = n.idAt? last := by
    have hsteps := hdown.steps hlen (Nat.lt_trans hij hj) hj hid (last - 1 - i)
    rw [clamp_forth, clamp_forth] at hsteps
    rwa [show min (i + (last - 1 - i)) (n.visibleRows.length - 1) = last - 1 by omega,
      show min (j + (last - 1 - i)) (n.visibleRows.length - 1) = last by omega] at hsteps
  have hpair : ∀ k, n.idAt? (last - 1 - k) = n.idAt? (last - k) := by
    intro k
    have hsteps := hup.steps hlen (by omega) (by omega) hend k
    rwa [clamp_back (by omega), clamp_back (by omega)] at hsteps
  have hall : ∀ k, n.idAt? (last - k) = n.idAt? last := by
    intro k
    induction k with
    | zero => rfl
    | succ k ih => rw [← ih, ← hpair k, Nat.sub_right_comm, Nat.sub_sub]
  have hsame : ∀ x ∈ n.visibleRows, some x.id = n.idAt? last := by
    intro x hx
    obtain ⟨q, hq, rfl⟩ := List.getElem_of_mem hx
    rw [← hall (last - q), show last - (last - q) = q by omega, idAt?_of_lt hq]
  intro x hx y hy
  exact Option.some.inj ((hsame x hx).trans (hsame y hy).symm)

theorem uniform_iff (hlen : n.visibleRows.length ≤ uint64Max) :
    n.Uniform 1 ∧ n.Uniform (-1) ↔ (n.visibleRows.map (·.id)).Nodup ∨
      ∀ x ∈ n.visibleRows, ∀ y ∈ n.visibleRows, x.id = y.id := by
  constructor
  · rintro ⟨hdown, hup⟩
    by_cases hnodup : (n.visibleRows.map (·.id)).Nodup
    · exact .inl hnodup
    · rw [List.nodup_iff_pairwise_ne, List.pairwise_iff_getElem] at hnodup
      simp only [List.length_map, List.getElem_map, ne_eq, Classical.not_forall,
        Classical.not_not] at hnodup
      obtain ⟨i, j, hi, hj, hij, hid⟩ := hnodup
      exact .inr (constant_of_repeated hlen hdown hup hij hj ((idAt?_eq_iff hi hj).2 hid))
  · rintro (hnodup | hconstant)
    · exact ⟨uniform_of_nodup hnodup 1, uniform_of_nodup hnodup (-1)⟩
    · exact ⟨uniform_of_constant hconstant 1, uniform_of_constant hconstant (-1)⟩

/-- Walks from both ends come past all visible rows exactly if these differ in their identities, or
all have the same one. -/
theorem walksThrough_iff (hrows : n.visibleRows ≠ []) (hlen : n.visibleRows.length ≤ uint64Max) :
    n.WalksThrough ↔ (n.visibleRows.map (·.id)).Nodup ∨
      ∀ x ∈ n.visibleRows, ∀ y ∈ n.visibleRows, x.id = y.id := by
  have hpos : 0 < n.visibleRows.length := List.length_pos_iff.2 hrows
  have hlast : n.visibleRows.length - 1 < n.visibleRows.length := Nat.sub_lt hpos Nat.one_pos
  have hdown := walks_iff_uniform hlen hpos 1 fun q hq =>
    ⟨q, by rw [clamp_forth]; omega⟩
  have hup := walks_iff_uniform hlen hlast (-1) fun q hq =>
    ⟨n.visibleRows.length - 1 - q, by rw [clamp_back (Nat.le_refl _)]; omega⟩
  simp only [clamp_forth, clamp_back (Nat.le_refl _), Nat.zero_add] at hdown hup
  rw [← uniform_iff hlen, ← hdown, ← hup, ← forall_and]
  rfl

/-- Sessions that the filter text leaves, all of them different. -/
theorem walksThrough_sessions :
    let active : Fields := [("state", .text "active")]
    let sessions : List Row :=
      [⟨.int 41, active⟩, ⟨.int 42, active⟩, ⟨.int 43, [("state", .text "idle")]⟩,
        ⟨.int 44, active⟩]
    let n := (start { mode := .live } { tab := .pga }).run
      [.onSnapshot { timestamp := 1000, tables := { pga := sessions } }, .changeFilterText "active"]
    n.visibleRows ≠ [] ∧ n.visibleRows.length ≤ uint64Max ∧
      (n.visibleRows.map (·.id)).Nodup ∧ n.WalksThrough := by
  intro active sessions n
  have hrows : n.visibleRows ≠ [] := by decide +kernel
  have hlen : n.visibleRows.length ≤ uint64Max := by decide +kernel
  have hnodup : (n.visibleRows.map (·.id)).Nodup := by decide +kernel
  exact ⟨hrows, hlen, hnodup, (walksThrough_iff hrows hlen).2 (.inl hnodup)⟩

/-- So it is not true that walks come past all visible rows of whatever can be read: a session that
waits for two locks leads back to where it was met first. -/
theorem not_walksThrough_of_repeated_lock : ¬ ∀ (text : String) (s : Snapshot) (n : Navigator),
    (Snapshot.ofText text).toOption = some s → n.current = some s → n.visibleRows ≠ [] →
    n.WalksThrough := by
  intro h
  let text := "\x7b\"timestamp\":1,\"pgl\":" ++
    "[\x7b\"pid\":7\x7d,\x7b\"pid\":8\x7d,\x7b\"pid\":7\x7d,\x7b\"pid\":9\x7d]\x7d"
  let locks : List Row := [⟨.int 7, []⟩, ⟨.int 8, []⟩, ⟨.int 7, []⟩, ⟨.int 9, []⟩]
  let s : Snapshot := { timestamp := 1, tables := { pgl := locks } }
  let n := (start { mode := .live } { tab := .pgl }).onSnapshot s
  have htext : (Snapshot.ofText text).toOption = some s := by decide +kernel
  have hwalk := h text s n htext (current_onSnapshot _ s) (by decide +kernel) 3
  exact absurd hwalk.1 (by decide +kernel)

end SnapshotViewer.Navigator
