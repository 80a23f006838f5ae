import SnapshotViewer.Proofs.Client.Delivery

/-!
# Which snapshot a paused feed holds back

A paused valve holds back the snapshot that met it last.  Two kinds of snapshots meet it, those
that come in and those that the viewer takes out of the inbox, where they may have waited since
before the pause.  So the one that is held back need not be the newest one: an old one that is
taken out later takes its place.

When nothing waits at the pause, only those that come in meet the valve, and the last is the
newest.

## Main definitions

* `heldBack?` — the snapshot that a paused valve holds back.
* `HoldsNewest` — the feed holds back the newest of them.

## Main statements

* `held_while_paused` — the feed holds back the last of them, and when this is the newest.
-/

namespace SnapshotViewer

/-- A valve that holds back nothing while it is open. -/
def Valve.Fresh (v : Valve) : Prop := v.paused = false → v = {}

theorem Valve.Fresh.pass {v : Valve} (h : v.Fresh) (s : Snapshot) : (v.pass s).1.Fresh := by
  intro hopen
  rw [Valve.paused_pass] at hopen
  rw [v.pass_of_open s hopen]
  exact h hopen

namespace Client

/-- The snapshot that is held back: whatever meets the valve while it is shut. -/
def heldBack? : Client → ClientOp → Option Arrival := whilePaused met?

/-- Behind a run the feed holds back the newest of the snapshots that were held back along it. -/
def HoldsNewest (c : Client) (ops : List ClientOp) : Prop :=
  ∀ a ∈ gather apply heldBack? c ops,
    (∀ b ∈ gather apply heldBack? c ops, b.number ≤ a.number) →
      (c.run ops).held? = some a.snapshot

instance (c : Client) (ops : List ClientOp) : Decidable (c.HoldsNewest ops) :=
  inferInstanceAs (Decidable (∀ _ ∈ _, _))

variable {c : Client} {op : ClientOp} {ops : List ClientOp} {x : Valve}

theorem isPaused_eq (hx : c.viewer.source.valve? = some x) : c.viewer.isPaused = x.paused := by
  rw [Viewer.isPaused, Source.isPaused_eq, hx]
  rfl

/-- A shut valve that stays shut holds back what meets it in place of what it held back before. -/
theorem valve_apply_of_paused (hx : c.viewer.source.valve? = some x)
    (h : c.viewer.isPaused = true) (h' : (c.apply op).viewer.isPaused = true) :
    (c.apply op).viewer.source.valve? =
      some { paused := true, held := ((c.heldBack? op).map (·.snapshot)).or x.held } := by
  have hshut : x.paused = true := (isPaused_eq hx).symm.trans h
  have hheld : c.heldBack? op = c.met? op := by simp [heldBack?, whilePaused, h]
  rcases c.valve_apply hx op with hnext | ⟨-, hopen, -⟩ | ⟨-, -, hnext⟩
  · rw [hnext, hheld]
    cases c.met? op with
    | none => simp [← hshut]
    | some a => simp [x.pass_of_paused a.snapshot hshut, hshut]
  · rw [hshut] at hopen
    cases hopen
  · rw [isPaused_eq hnext] at h'
    cases h'

theorem valve_run_of_paused (hx : c.viewer.source.valve? = some x) (h : c.StaysPaused ops) :
    (c.run ops).viewer.source.valve? =
      some
        { paused := true
          held := ((gather apply heldBack? c ops).getLast?.map (·.snapshot)).or x.held } := by
  induction ops generalizing c x with
  | nil =>
    have hshut : x.paused = true := (isPaused_eq hx).symm.trans h
    rw [gather_nil, ← hshut]
    exact hx
  | cons op ops ih =>
    refine (ih (valve_apply_of_paused hx h.1 h.2.paused) h.2).trans ?_
    rw [gather_cons, List.getLast?_append]
    cases (gather apply heldBack? (c.apply op) ops).getLast? with
    | some a => rfl
    | none => cases c.heldBack? op <;> rfl

/-- A valve that holds back nothing while it is open remains one. -/
theorem fresh_apply (hx : c.viewer.source.valve? = some x) (hfresh : x.Fresh) (op : ClientOp) :
    ∃ y, (c.apply op).viewer.source.valve? = some y ∧ y.Fresh := by
  rcases c.valve_apply hx op with hnext | ⟨-, -, hnext⟩ | ⟨-, -, hnext⟩
  · refine ⟨_, hnext, ?_⟩
    cases c.met? op with
    | none => exact hfresh
    | some a => exact hfresh.pass a.snapshot
  · exact ⟨_, hnext, by simp [Valve.Fresh, Valve.pause]⟩
  · exact ⟨_, hnext, fun _ => rfl⟩

theorem fresh_run (hx : c.viewer.source.valve? = some x) (hfresh : x.Fresh)
    (ops : List ClientOp) : ∃ y, (c.run ops).viewer.source.valve? = some y ∧ y.Fresh := by
  induction ops generalizing c x with
  | nil => exact ⟨x, hx, hfresh⟩
  | cons op ops ih =>
    obtain ⟨y, hy, hnext⟩ := fresh_apply hx hfresh op
    exact ih hy hnext

/-- Nothing meets a valve in the step that shuts it, and it holds back nothing yet. -/
theorem valve_apply_of_pause (hx : c.viewer.source.valve? = some x) (hfresh : x.Fresh)
    (hopen : c.viewer.isPaused = false) (hshut : (c.apply op).viewer.isPaused = true) :
    c.met? op = none ∧ (c.apply op).viewer.source.valve? = some { paused := true } := by
  have hbefore : x.paused = false := (isPaused_eq hx).symm.trans hopen
  rcases c.valve_apply hx op with hnext | ⟨hmet, -, hnext⟩ | ⟨-, hpaused, -⟩
  · have hsame : (((c.met? op).map fun a => (x.pass a.snapshot).1).getD x).paused = x.paused := by
      cases c.met? op with
      | none => rfl
      | some a => exact x.paused_pass a.snapshot
    rw [isPaused_eq hnext, hsame, hbefore] at hshut
    cases hshut
  · refine ⟨hmet, ?_⟩
    rw [hnext, hfresh hbefore]
    rfl
  · rw [hbefore] at hpaused
    cases hpaused

/-- If nothing meets the valve, nothing new comes to wait. -/
theorem waiting_apply_of_unmet (hlive : c.viewer.source.valve? ≠ none) (hwaiting : c.waiting = [])
    (hmet : c.met? op = none) : (c.apply op).waiting = [] := by
  obtain ⟨harrival, htaken⟩ := Option.or_eq_none_iff.1 hmet
  have hnow := waiting_apply hlive op
  simpa [hwaiting, whileOpen, harrival, htaken] using hnow

/-- With nothing in the inbox, only what comes in meets a shut valve. -/
theorem heldBack_sublist (hlive : c.viewer.source.valve? ≠ none) (hwaiting : c.waiting = [])
    (h : c.StaysPaused ops) :
    (gather apply heldBack? c ops).Sublist (gather apply arrival? c ops) := by
  induction ops generalizing c with
  | nil => exact List.Sublist.refl _
  | cons op ops ih =>
    have hpaused : c.viewer.isPaused = true := h.1
    have hnow := waiting_apply hlive op
    simp only [hwaiting, whileOpen, hpaused, if_true, Option.toList_none, List.append_nil,
      List.sublist_nil, List.append_eq_nil_iff, Option.toList_eq_nil_iff] at hnow
    obtain ⟨htaken, hstill⟩ := hnow
    have hheld : c.heldBack? op = c.arrival? op := by
      simp [heldBack?, whilePaused, hpaused, met?, htaken]
    rw [gather_cons, gather_cons, hheld]
    exact List.Sublist.append (List.Sublist.refl _) (ih (live_apply hlive op) hstill h.2)

/-- Where the numbers increase, the newest is the last. -/
theorem getLast?_of_newest {arrivals : List Arrival} {a : Arrival}
    (hnumbers : arrivals.Pairwise (·.number < ·.number)) (ha : a ∈ arrivals)
    (hnewest : ∀ b ∈ arrivals, b.number ≤ a.number) : arrivals.getLast? = some a := by
  obtain ⟨older, z, rfl⟩ : ∃ older z, arrivals = older ++ [z] :=
    ⟨_, _, (List.dropLast_concat_getLast (List.ne_nil_of_mem ha)).symm⟩
  rw [List.getLast?_concat]
  rcases List.mem_append.1 ha with ha | ha
  · have hlt : a.number < z.number :=
      (List.pairwise_append.1 hnumbers).2.2 a ha z (List.mem_singleton_self z)
    have hle : z.number ≤ a.number := hnewest z (by simp)
    omega
  · rw [List.mem_singleton.1 ha]

/-- As long as a feed stays paused, it holds back the snapshot that met the valve last since the
pause.  That is the newest of them if no snapshot was waiting at the pause. -/
theorem held_while_paused (nav : Navigator) (feed : LiveFeed) (session : Session)
    (addressFile : Option Path) (files : Files) (before : List ClientOp) (op : ClientOp)
    (after : List ClientOp) :
    let viewer := Viewer.start nav (.live { feed with valve := {} }) session addressFile
    let c := (start viewer files).run before
    c.viewer.isPaused = false → (c.apply op).StaysPaused after →
      ((c.apply op).run after).held? =
          (gather apply heldBack? (c.apply op) after).getLast?.map (·.snapshot) ∧
        (c.waiting = [] → (c.apply op).HoldsNewest after) := by
  intro viewer c hopen hpaused
  obtain ⟨x, hx, hfresh⟩ : ∃ x, c.viewer.source.valve? = some x ∧ _ :=
    fresh_run (c := start viewer files) rfl (fun _ => rfl) before
  obtain ⟨hmet, hy⟩ := valve_apply_of_pause hx hfresh hopen hpaused.paused
  have hheld : ((c.apply op).run after).held? =
      (gather apply heldBack? (c.apply op) after).getLast?.map (·.snapshot) := by
    rw [held?, valve_run_of_paused hy hpaused]
    simp
  refine ⟨hheld, fun hwaiting a ha hnewest => ?_⟩
  have hlive : c.viewer.source.valve? ≠ none := by simp [hx]
  have hstill := waiting_apply_of_unmet hlive hwaiting hmet
  have hnumbers : (gather apply heldBack? (c.apply op) after).Pairwise (·.number < ·.number) :=
    (arrivals_increase (c.apply op) after).2.sublist
      (heldBack_sublist (live_apply hlive op) hstill hpaused)
  rw [hheld, getLast?_of_newest hnumbers ha hnewest]
  rfl

/-- Two snapshots come in while the feed is paused and nothing waits. -/
theorem held_while_paused_of_two :
    let feed : LiveFeed := { stage := some .reading }
    let viewer := Viewer.start (Navigator.start { mode := .live } {})
      (.live { feed with valve := {} }) { baseUrl := "" } none
    let comes (data : String) : List ClientOp :=
      [.report 0 (.frame ⟨"snapshot", data⟩), .report 0 .turn]
    let space : ClientOp := .key 0 { code := .char ' ' }
    let c := (start viewer {}).run []
    let after := comes "[1]" ++ comes "[2]"
    (c.viewer.isPaused = false ∧ (c.apply space).StaysPaused after ∧ c.waiting = [] ∧
        ((c.apply space).run after).held? = some { timestamp := 2 }) ∧
      ((c.apply space).run after).held? =
          (gather apply heldBack? (c.apply space) after).getLast?.map (·.snapshot) ∧
        (c.waiting = [] → (c.apply space).HoldsNewest after) := by
  intro feed viewer comes space c after
  have hopen : c.viewer.isPaused = false := by decide +kernel
  have hpaused : (c.apply space).StaysPaused after := by decide +kernel
  exact ⟨⟨hopen, hpaused, by decide +kernel⟩,
    held_while_paused _ feed _ _ _ [] space after hopen hpaused⟩

/-- The first snapshot waits when the feed is paused.  The second comes in and is held back, but
then the first is taken out of the inbox and held back in its place. -/
theorem not_holdsNewest_of_waiting :
    let feed : LiveFeed := { stage := some .reading }
    let viewer :=
      Viewer.start (Navigator.start { mode := .live } {}) (.live feed) { baseUrl := "" } none
    let comes (data : String) : List ClientOp :=
      [.report 0 (.frame ⟨"snapshot", data⟩), .report 0 .turn]
    let space : ClientOp := .key 0 { code := .char ' ' }
    let c := (start viewer {}).run (comes "[1]")
    let after := comes "[2]" ++ [.handle]
    c.viewer.isPaused = false ∧ (c.apply space).StaysPaused after ∧
      gather apply heldBack? (c.apply space) after =
        [⟨4, { timestamp := 2 }⟩, ⟨2, { timestamp := 1 }⟩] ∧
      ((c.apply space).run after).held? = some { timestamp := 1 } ∧
      ¬(c.apply space).HoldsNewest after := by
  decide +kernel

end Client

end SnapshotViewer
