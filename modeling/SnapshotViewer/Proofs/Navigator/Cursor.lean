import SnapshotViewer.Proofs.Navigator.Frame

/-!
# Steps along the visible rows

A step leads from the chosen row as many visible rows on as it is long, and stops at the ends.  The
choice is an identity, so a step begins where the first visible row with that identity is; when
there is none it begins at an end.  Positions are numbers of 64 bits, and no list is longer than
these count, so a step of any length ends where it would end without that bound.

## Main definitions

* `clamp` — the nearest position of a list.
* `LeadsTo` — the position that a step leads to.

## Main statements

* `stepTarget_of_position`, `stepTarget_of_hidden` — the position that a step goes to.
* `step_step` — two steps in one direction are one step.
* `step_along_visible` — all that a step does.
-/

namespace SnapshotViewer.Navigator

/-- The nearest of the positions up to `last`. -/
def clamp (m : Int) (last : Nat) : Nat := (max 0 (min m last)).toNat

/-- The position among the visible rows that a step leads to.  From a visible row it leads `delta`
rows on, counted from the first row with the chosen identity, or to an end; when no visible row is
chosen it leads to the last row if it goes back, and else to the first. -/
inductive LeadsTo (n : Navigator) (delta : Int) : Nat → Prop
  | along {id : EntityId} {p : Nat} (chosen : n.state.selected = some id)
      (first : n.visibleRows.findIdx? (·.id = id) = some p) :
      LeadsTo n delta (clamp (p + delta) (n.visibleRows.length - 1))
  | back (hidden : ∀ r ∈ n.visibleRows, n.state.selected ≠ some r.id) (h : delta < 0) :
      LeadsTo n delta (n.visibleRows.length - 1)
  | forth (hidden : ∀ r ∈ n.visibleRows, n.state.selected ≠ some r.id) (h : 0 ≤ delta) :
      LeadsTo n delta 0

variable {n : Navigator} {rows : List Row} {selected : Option EntityId} {id : EntityId}
  {r : Row} {p last : Nat} {delta : Int}

/-! ## Positions -/

theorem clamp_le (m : Int) (last : Nat) : clamp m last ≤ last := by
  unfold clamp
  omega

/-- A bound behind the last position makes no difference. -/
theorem min_saturateUInt64 (h : last ≤ uint64Max) (m : Int) :
    min (saturateUInt64 m) last = clamp m last := by
  unfold saturateUInt64 clamp
  omega

/-- Going on in one direction, it makes no difference to have stopped at an end on the way. -/
theorem clamp_clamp_add {a b : Int} (hp : p ≤ last) (hsign : 0 ≤ a ∧ 0 ≤ b ∨ a ≤ 0 ∧ b ≤ 0) :
    clamp (clamp (p + a) last + b) last = clamp (p + (a + b)) last := by
  unfold clamp
  omega

theorem positionOf?_eq_some_iff : positionOf? rows id = some p ↔
    ∃ h : p < rows.length, rows[p].id = id ∧ ∀ q (hq : q < p), rows[q].id ≠ id := by
  simp [positionOf?, List.findIdx?_eq_some_iff_getElem]

theorem positionOf?_eq_none_iff : positionOf? rows id = none ↔ ∀ r ∈ rows, r.id ≠ id := by
  simp [positionOf?, List.findIdx?_eq_none_iff]

theorem positionOf?_lt (h : positionOf? rows id = some p) : p < rows.length :=
  (positionOf?_eq_some_iff.1 h).1

theorem exists_positionOf? (h : r ∈ rows) : ∃ p, positionOf? rows r.id = some p := by
  rw [← Option.isSome_iff_exists, Option.isSome_iff_ne_none, ne_eq, positionOf?_eq_none_iff]
  exact fun hall => hall r h rfl

/-- Where each identity occurs once, the position of a row is the one it is found at. -/
theorem positionOf?_of_nodup (hnodup : (rows.map (·.id)).Nodup) (hp : rows[p]? = some r) :
    positionOf? rows r.id = some p := by
  obtain ⟨hlt, rfl⟩ := List.getElem?_eq_some_iff.1 hp
  refine positionOf?_eq_some_iff.2 ⟨hlt, rfl, fun q hq heq => ?_⟩
  have hpairwise := List.pairwise_map.1 (List.nodup_iff_pairwise_ne.1 hnodup)
  exact List.pairwise_iff_getElem.1 hpairwise q p (Nat.lt_trans hq hlt) hlt hq heq

/-! ## Where a step goes -/

theorem stepTarget_of_position (hlen : rows.length ≤ uint64Max) (hchosen : selected = some id)
    (hp : positionOf? rows id = some p) :
    stepTarget rows selected delta = clamp (p + delta) (rows.length - 1) := by
  rw [stepTarget, hchosen, Option.bind_some, hp]
  exact min_saturateUInt64 (Nat.le_trans (Nat.sub_le _ _) hlen) _

theorem stepTarget_of_hidden (h : ∀ r ∈ rows, selected ≠ some r.id) :
    stepTarget rows selected delta = if delta < 0 then rows.length - 1 else 0 := by
  have hnone : selected.bind (positionOf? rows) = none := by
    rw [Option.bind_eq_none_iff]
    rintro id rfl
    exact positionOf?_eq_none_iff.2 fun r hr heq => h r hr (congrArg some heq.symm)
  rw [stepTarget, hnone]

/-- A step ends at one of the rows. -/
theorem stepTarget_lt (h : rows ≠ []) (selected : Option EntityId) (delta : Int) :
    stepTarget rows selected delta < rows.length := by
  have hpos : 0 < rows.length := List.length_pos_iff.2 h
  unfold stepTarget
  dsimp only
  split
  · omega
  · split <;> omega

/-- A step of any length leads where its definition with bounded positions says. -/
theorem leadsTo_stepTarget (hlen : n.visibleRows.length ≤ uint64Max) (delta : Int) :
    n.LeadsTo delta (stepTarget n.visibleRows n.state.selected delta) := by
  by_cases hvisible : ∃ r ∈ n.visibleRows, n.state.selected = some r.id
  · obtain ⟨r, hr, hchosen⟩ := hvisible
    obtain ⟨p, hp⟩ := exists_positionOf? hr
    rw [stepTarget_of_position hlen hchosen hp]
    exact .along hchosen hp
  · have hhidden : ∀ r ∈ n.visibleRows, n.state.selected ≠ some r.id :=
      fun r hr heq => hvisible ⟨r, hr, heq⟩
    rw [stepTarget_of_hidden hhidden]
    split
    · next hback => exact .back hhidden hback
    · next hforth => exact .forth hhidden (Int.not_lt.1 hforth)

/-! ## What a step chooses -/

/-- Without a visible row there is none to choose. -/
theorem selectAt_of_empty (h : n.visibleRows = []) (i : Nat) : n.selectAt i = n := by
  rw [selectAt, h]
  rfl

theorem selectAt_eq_moveTo {i : Nat} (h : n.visibleRows[i]? = some r) :
    n.selectAt i = n.moveTo r.id := by
  rw [selectAt, h]

theorem selectAt_of_lt {i : Nat} (h : i < n.visibleRows.length) :
    n.selectAt i = n.moveTo n.visibleRows[i].id :=
  selectAt_eq_moveTo (List.getElem?_eq_getElem h)

theorem flash_selectAt {i : Nat} (h : i < n.visibleRows.length) : (n.selectAt i).flash = none := by
  rw [selectAt_of_lt h]
  rfl

/-- Choosing a row does not change what is visible. -/
@[simp] theorem visibleRows_moveTo (n : Navigator) (id : EntityId) :
    (n.moveTo id).visibleRows = n.visibleRows := rfl

@[simp] theorem selected_moveTo (n : Navigator) (id : EntityId) :
    (n.moveTo id).state.selected = some id := rfl

/-- A choice forgets the one before it. -/
@[simp] theorem moveTo_moveTo (n : Navigator) (x y : EntityId) :
    (n.moveTo x).moveTo y = n.moveTo y := rfl

/-- A step chooses the row that it leads to. -/
theorem exists_step_eq (hrows : n.visibleRows ≠ []) (delta : Int) :
    ∃ r, n.visibleRows[stepTarget n.visibleRows n.state.selected delta]? = some r ∧
      n.step delta = n.moveTo r.id := by
  have hlt := stepTarget_lt hrows n.state.selected delta
  exact ⟨_, List.getElem?_eq_getElem hlt, selectAt_of_lt hlt⟩

/-- Where each identity occurs once, a step begins at the very row that is chosen. -/
theorem exists_step_of_nodup (hlen : n.visibleRows.length ≤ uint64Max)
    (hnodup : (n.visibleRows.map (·.id)).Nodup) (hchosen : n.state.selected = some r.id)
    (hp : n.visibleRows[p]? = some r) (delta : Int) :
    ∃ x, n.visibleRows[clamp (p + delta) (n.visibleRows.length - 1)]? = some x ∧
      n.step delta = n.moveTo x.id := by
  have hrows : n.visibleRows ≠ [] := List.ne_nil_of_mem (List.mem_of_getElem? hp)
  obtain ⟨x, hx, hstep⟩ := exists_step_eq hrows delta
  rw [stepTarget_of_position hlen hchosen (positionOf?_of_nodup hnodup hp)] at hx
  exact ⟨x, hx, hstep⟩

/-- Two steps in one direction are one step. -/
theorem step_step (hlen : n.visibleRows.length ≤ uint64Max)
    (hnodup : (n.visibleRows.map (·.id)).Nodup)
    (hvisible : ∃ r ∈ n.visibleRows, n.state.selected = some r.id) {a b : Int}
    (hsign : 0 ≤ a ∧ 0 ≤ b ∨ a ≤ 0 ∧ b ≤ 0) : (n.step a).step b = n.step (a + b) := by
  obtain ⟨r, hr, hchosen⟩ := hvisible
  obtain ⟨p, hp⟩ := List.getElem?_of_mem hr
  have hlast : p ≤ n.visibleRows.length - 1 := by
    have hlt := (List.getElem?_eq_some_iff.1 hp).1
    omega
  obtain ⟨x, hx, hfirst⟩ := exists_step_of_nodup hlen hnodup hchosen hp a
  obtain ⟨y, hy, hsecond⟩ :=
    exists_step_of_nodup (n := n.moveTo x.id) hlen hnodup rfl hx b
  obtain ⟨z, hz, hboth⟩ := exists_step_of_nodup hlen hnodup hchosen hp (a + b)
  rw [visibleRows_moveTo, clamp_clamp_add hlast hsign, hz] at hy
  obtain rfl : z = y := Option.some.inj hy
  rw [hfirst, hsecond, hboth, moveTo_moveTo]

/-- Without a visible row a step does nothing.  Otherwise it chooses the row to which it leads,
takes the mark of a drill-down away, and changes nothing else.  If each identity is visible only
once, then two steps in one direction from a visible row are one step.  The bound on the length is
one that every list in memory keeps. -/
theorem step_along_visible (n : Navigator) (hlen : n.visibleRows.length ≤ uint64Max) :
    (n.visibleRows = [] → ∀ delta, n.step delta = n) ∧
    (n.visibleRows ≠ [] → ∀ delta, ∃ i r, n.LeadsTo delta i ∧ n.visibleRows[i]? = some r ∧
      n.step delta = { n with state := { n.state with selected := some r.id }, flash := none }) ∧
    ((n.visibleRows.map (·.id)).Nodup →
      (∃ r ∈ n.visibleRows, n.state.selected = some r.id) →
      ∀ a b : Int, 0 ≤ a ∧ 0 ≤ b ∨ a ≤ 0 ∧ b ≤ 0 → (n.step a).step b = n.step (a + b)) := by
  refine ⟨fun hempty delta => selectAt_of_empty hempty _, fun hrows delta => ?_, ?_⟩
  · obtain ⟨r, hr, hstep⟩ := exists_step_eq hrows delta
    exact ⟨_, r, leadsTo_stepTarget hlen delta, hr, hstep⟩
  · intro hnodup hvisible a b hsign
    exact step_step hlen hnodup hvisible hsign

/-- The longest steps there are lead from a session to the last of those that the filter text
leaves, and a longest one behind another step in its direction does the same. -/
theorem step_along_visible_longest :
    let active : Fields := [("state", .text "active")]
    let sessions : List Row :=
      [⟨.int 41, active⟩, ⟨.int 42, active⟩, ⟨.int 43, [("state", .text "idle")]⟩,
        ⟨.int 44, active⟩]
    let n := (start { mode := .live } { tab := .pga }).run
      [.onSnapshot { timestamp := 1000, tables := { pga := sessions } },
        .changeFilterText "active", .selectRow (some (.int 42))]
    (n.visibleRows.length ≤ uint64Max ∧ n.visibleRows ≠ [] ∧
        (n.visibleRows.map (·.id)).Nodup ∧ ∃ r ∈ n.visibleRows, n.state.selected = some r.id) ∧
      (∃ i r, n.LeadsTo int64Max i ∧ n.visibleRows[i]? = some r ∧ n.step int64Max =
        { n with state := { n.state with selected := some r.id }, flash := none }) ∧
      (∃ i r, n.LeadsTo int64Min i ∧ n.visibleRows[i]? = some r ∧ n.step int64Min =
        { n with state := { n.state with selected := some r.id }, flash := none }) ∧
      (n.step 1).step (int64Max - 1) = n.step int64Max ∧
      (n.step int64Max).state.selected = some (.int 44) := by
  intro active sessions n
  have hlen : n.visibleRows.length ≤ uint64Max := by decide +kernel
  have hrows : n.visibleRows ≠ [] := by decide +kernel
  have hnodup : (n.visibleRows.map (·.id)).Nodup := by decide +kernel
  have hvisible : ∃ r ∈ n.visibleRows, n.state.selected = some r.id := by decide +kernel
  obtain ⟨-, hstep, hadd⟩ := step_along_visible n hlen
  refine ⟨⟨hlen, hrows, hnodup, hvisible⟩, hstep hrows int64Max, hstep hrows int64Min, ?_, ?_⟩
  · exact hadd hnodup hvisible 1 (int64Max - 1) (.inl (by decide))
  · decide +kernel

end SnapshotViewer.Navigator
