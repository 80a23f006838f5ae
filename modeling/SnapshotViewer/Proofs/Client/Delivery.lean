import SnapshotViewer.Proofs.Client.Step

/-!
# What becomes of the snapshots that come in

A snapshot meets the valve twice: when it comes in, and when the viewer takes it out of the inbox.
In between it waits, and the valve may be shut or opened meanwhile.  Only what has met an open
valve both times is put in the store; whatever met a shut one is gone for good, also when the
valve is opened again.

The inbox passes on what it is given in order, and it is given only what came in at an open valve
(`delivered_run`).  So the snapshots in the store are some of those that came in, in their order.

## Main definitions

* `stored?` — the snapshot that is put in the store.
* `whilePaused`, `whileOpen` — what is yielded while the valve is shut, or open.
* `StaysPaused` — a run along which the valve is shut.
* `FrozenWhilePaused` — what a pause means for a run of a client.

## Main statements

* `frozen_while_paused` — this holds of every run of a live client.
-/

namespace SnapshotViewer.Client

/-- The snapshot that is put in the store: one that the viewer takes out of the inbox and the
store counts. -/
def stored? (c : Client) (op : ClientOp) : Option Arrival :=
  if (c.apply op).viewer.store.generation = c.viewer.store.generation then none else c.taken? op

/-- What is yielded while the valve is shut. -/
def whilePaused (yield : Client → ClientOp → Option Arrival) (c : Client) (op : ClientOp) :
    Option Arrival :=
  if c.viewer.isPaused then yield c op else none

/-- What is yielded while the valve is open. -/
def whileOpen (yield : Client → ClientOp → Option Arrival) (c : Client) (op : ClientOp) :
    Option Arrival :=
  if c.viewer.isPaused then none else yield c op

/-- The valve is shut before, along and behind a run. -/
def StaysPaused (c : Client) : List ClientOp → Prop
  | [] => c.viewer.isPaused = true
  | op :: ops => c.viewer.isPaused = true ∧ StaysPaused (c.apply op) ops

instance decidableStaysPaused (c : Client) : (ops : List ClientOp) → Decidable (c.StaysPaused ops)
  | [] => inferInstanceAs (Decidable (_ = _))
  | op :: ops =>
    have := decidableStaysPaused (c.apply op) ops
    inferInstanceAs (Decidable (_ ∧ _))

/-- A client shows the snapshot that another one shows, and has counted no further. -/
structure SameShown (c d : Client) : Prop where
  current : d.viewer.store.current = c.viewer.store.current
  generation : d.viewer.store.generation = c.viewer.store.generation
  nav : d.viewer.nav.current = c.viewer.nav.current

variable {c : Client} {op : ClientOp} {ops : List ClientOp} {a : Arrival}
  {yield : Client → ClientOp → Option Arrival}

theorem StaysPaused.paused (h : c.StaysPaused ops) : c.viewer.isPaused = true := by
  cases ops with
  | nil => exact h
  | cons op ops => exact h.1

theorem whilePaused_eq_some : whilePaused yield c op = some a ↔
    c.viewer.isPaused = true ∧ yield c op = some a := by
  simp [whilePaused]

theorem whileOpen_eq_some : whileOpen yield c op = some a ↔
    c.viewer.isPaused = false ∧ yield c op = some a := by
  simp [whileOpen]

theorem whileOpen_or_whilePaused (yield : Client → ClientOp → Option Arrival) (c : Client)
    (op : ClientOp) : whileOpen yield c op = none ∨ whilePaused yield c op = none := by
  unfold whileOpen whilePaused
  cases c.viewer.isPaused with
  | true => exact .inl rfl
  | false => exact .inr rfl

theorem whileOpen_sublist (yield : Client → ClientOp → Option Arrival) (c : Client)
    (ops : List ClientOp) :
    (gather apply (whileOpen yield) c ops).Sublist (gather apply yield c ops) :=
  gather_sublist (fun _ _ _ h => (whileOpen_eq_some.1 h).2) c ops

/-- What is yielded while the valve is open is not what is yielded while it is shut. -/
theorem number_ne_of_whileOpen_of_whilePaused {b : Arrival}
    (hnumbers : ((gather apply yield c ops).map (·.number)).Nodup)
    (ha : a ∈ gather apply (whileOpen yield) c ops)
    (hb : b ∈ gather apply (whilePaused yield) c ops) : a.number ≠ b.number :=
  gather_disjoint (fun _ _ _ h => (whileOpen_eq_some.1 h).2)
    (fun _ _ _ h => (whilePaused_eq_some.1 h).2) (whileOpen_or_whilePaused yield) hnumbers ha hb

/-! ## What is stored -/

theorem stored?_of_quiet (h : c.shown? op = none) : c.stored? op = none := by
  have hsame : (c.apply op).viewer.store.generation = c.viewer.store.generation := by
    rw [(c.shown_apply op).2.1, h]
    rfl
  rw [stored?, if_pos hsame]

/-- What is shown is taken out of the inbox while the valve is open, and stored. -/
theorem stored?_of_shown {s : Snapshot} (h : c.shown? op = some s) :
    c.stored? op = c.taken? op ∧ (c.taken? op).map (·.snapshot) = some s ∧
      c.viewer.isPaused = false := by
  have hcounted : (c.apply op).viewer.store.generation ≠ c.viewer.store.generation := by
    rw [(c.shown_apply op).2.1, h]
    simp
  refine ⟨by rw [stored?, if_neg hcounted], ?_, ?_⟩
  · obtain ⟨x, hop, hshow⟩ := Option.bind_eq_some_iff.1 h
    obtain rfl := Viewer.eq_of_shows hshow
    have hmet := c.meets?_eq op
    rw [hop, Option.bind_some] at hmet
    cases op with
    | handle => exact hmet.symm
    | report n signal => cases hop
    | key now k => cases hop
  · cases hpaused : c.viewer.isPaused with
    | false => rfl
    | true =>
      rw [c.shown?_of_paused hpaused op] at h
      cases h

theorem stored?_map (c : Client) (op : ClientOp) :
    (c.stored? op).map (·.snapshot) = c.shown? op := by
  cases h : c.shown? op with
  | none => rw [stored?_of_quiet h]; rfl
  | some s =>
    obtain ⟨hstored, htaken, -⟩ := stored?_of_shown h
    rw [hstored, htaken]

theorem stored?_eq (hclosed : c.viewer.store.closed = false) (op : ClientOp) :
    c.stored? op = whileOpen taken? c op := by
  cases hshow : c.shown? op with
  | some s =>
    obtain ⟨hstored, -, hopen⟩ := stored?_of_shown hshow
    rw [hstored]
    simp [whileOpen, hopen]
  | none =>
    rw [stored?_of_quiet hshow]
    cases h : whileOpen taken? c op with
    | none => rfl
    | some a =>
      obtain ⟨hopen, htaken⟩ := whileOpen_eq_some.1 h
      rw [shown?_of_taken hopen hclosed htaken] at hshow
      cases hshow

theorem stored_run (hclosed : c.viewer.store.closed = false) (ops : List ClientOp) :
    gather apply stored? c ops = gather apply (whileOpen taken?) c ops := by
  induction ops generalizing c with
  | nil => rfl
  | cons op ops ih =>
    rw [gather_cons, gather_cons, stored?_eq hclosed, ih ((c.closed_apply op).trans hclosed)]

/-- The store holds the last snapshot that was put in, and has counted them all. -/
theorem store_run (c : Client) (ops : List ClientOp) :
    (c.run ops).viewer.store.current =
        ((gather apply stored? c ops).getLast?.map (·.snapshot)).or c.viewer.store.current ∧
      (c.run ops).viewer.store.generation =
        c.viewer.store.generation + (gather apply stored? c ops).length := by
  induction ops generalizing c with
  | nil => exact ⟨rfl, rfl⟩
  | cons op ops ih =>
    obtain ⟨hcurrent, hgeneration⟩ := ih (c.apply op)
    obtain ⟨hcurrent', hgeneration', -⟩ := c.shown_apply op
    have hlength : (c.shown? op).toList.length = (c.stored? op).toList.length := by
      rw [← c.stored?_map op]
      cases c.stored? op with
      | none => rfl
      | some a => rfl
    rw [gather_cons]
    refine ⟨?_, ?_⟩
    · refine hcurrent.trans ?_
      rw [hcurrent', ← c.stored?_map op, List.getLast?_append]
      cases (gather apply stored? (c.apply op) ops).getLast? with
      | some a => rfl
      | none => cases c.stored? op <;> rfl
    · refine hgeneration.trans ?_
      rw [hgeneration', hlength, List.length_append, Nat.add_assoc]

/-! ## What is still -/

theorem SameShown.trans {d e : Client} (h : SameShown c d) (h' : SameShown d e) :
    SameShown c e where
  current := h'.current.trans h.current
  generation := h'.generation.trans h.generation
  nav := h'.nav.trans h.nav

theorem sameShown_of_quiet (h : c.shown? op = none) : SameShown c (c.apply op) := by
  obtain ⟨hcurrent, hgeneration, hnav⟩ := c.shown_apply op
  rw [h] at hcurrent hgeneration hnav
  exact ⟨hcurrent, hgeneration, hnav⟩

/-- A run along which the valve is shut changes nothing that is shown, nor does the next step,
even if it opens the valve. -/
theorem sameShown_run (h : c.StaysPaused ops) (last : ClientOp) :
    SameShown c ((c.run ops).apply last) := by
  induction ops generalizing c with
  | nil => exact sameShown_of_quiet (shown?_of_paused h last)
  | cons op ops ih => exact (sameShown_of_quiet (shown?_of_paused h.1 op)).trans (ih h.2)

/-! ## What waits -/

theorem waiting_of_plain {events : List FeedEvent} (h : LiveFeed.Plain events) (n : Nat) :
    (events.map (n, ·)).filterMap Arrival.ofEvent? = [] := by
  rw [List.filterMap_map, List.filterMap_eq_nil_iff]
  intro e he
  cases e with
  | snapshot s => exact absurd he (h s)
  | transient e => rfl
  | failed e => rfl

/-- A report gives the inbox nothing but what comes in at an open valve. -/
theorem waiting_report_sublist (h : c.viewer.source.valve? ≠ none) (n : Nat) (s : Signal) :
    (c.apply (.report n s)).waiting.Sublist
      (c.waiting ++ (whileOpen arrival? c (.report n s)).toList) := by
  rw [waiting_report]
  refine List.Sublist.append (List.Sublist.refl _) ?_
  cases hsource : c.viewer.source with
  | history f => simp [hsource, Source.valve?] at h
  | live f =>
    have hevents : (c.viewer.receive n s).2 = (f.receive n s).2 := by
      rw [Viewer.receive, hsource]
      rfl
    have harrival : c.arrival? (.report n s) = (f.arrival? n s).map (⟨c.reports + 1, ·⟩) := by
      rw [arrival?, hsource]
      rfl
    have hpaused : c.viewer.isPaused = f.valve.paused := by
      rw [Viewer.isPaused, hsource]
      rfl
    rw [hevents, whileOpen, hpaused, harrival]
    cases hcomes : f.arrival? n s with
    | none =>
      rw [waiting_of_plain (LiveFeed.receive_of_none hcomes).2]
      exact List.nil_sublist _
    | some x =>
      have hsent := (LiveFeed.receive_of_arrival hcomes).2
      cases hp : f.valve.paused with
      | true =>
        rw [f.valve.pass_of_paused x hp] at hsent
        rw [List.eq_nil_of_sublist_nil hsent]
        exact List.nil_sublist _
      | false =>
        rw [f.valve.pass_of_open x hp] at hsent
        exact (hsent.map (c.reports + 1, ·)).filterMap Arrival.ofEvent?

theorem waiting_apply (h : c.viewer.source.valve? ≠ none) (op : ClientOp) :
    ((c.taken? op).toList ++ (c.apply op).waiting).Sublist
      (c.waiting ++ (whileOpen arrival? c op).toList) := by
  cases op with
  | report n s => exact waiting_report_sublist h n s
  | handle =>
    rw [c.waiting_handle]
    exact List.sublist_append_left _ _
  | key now k =>
    rw [c.waiting_key now k]
    exact List.sublist_append_left _ _

/-- What was taken out of the inbox, and then what still waits, is some of what waited before and
of what then came in at an open valve, in this order. -/
theorem delivered_run (h : c.viewer.source.valve? ≠ none) (ops : List ClientOp) :
    (gather apply taken? c ops ++ (c.run ops).waiting).Sublist
      (c.waiting ++ gather apply (whileOpen arrival?) c ops) := by
  induction ops generalizing c with
  | nil =>
    rw [gather_nil, gather_nil, List.append_nil]
    exact List.Sublist.refl _
  | cons op ops ih =>
    have hlater := (ih (live_apply h op)).append_left (c.taken? op).toList
    have hnow := (waiting_apply h op).append_right
      (gather apply (whileOpen arrival?) (c.apply op) ops)
    rw [List.append_assoc, List.append_assoc] at hnow
    rw [gather_cons, gather_cons, List.append_assoc]
    exact hlater.trans hnow

/-- From an empty inbox only that is taken which came in at an open valve. -/
theorem taken_sublist (h : c.viewer.source.valve? ≠ none) (hwaiting : c.waiting = [])
    (ops : List ClientOp) :
    (gather apply taken? c ops).Sublist (gather apply (whileOpen arrival?) c ops) := by
  have hdelivered := delivered_run h ops
  rw [hwaiting, List.nil_append] at hdelivered
  exact (List.sublist_append_left _ _).trans hdelivered

/-! ## What comes in -/

/-- Snapshots come in with ever greater numbers. -/
theorem arrivals_increase (c : Client) (ops : List ClientOp) :
    (∀ a ∈ gather apply arrival? c ops, c.reports < a.number) ∧
      (gather apply arrival? c ops).Pairwise (·.number < ·.number) := by
  induction ops generalizing c with
  | nil => exact ⟨fun a ha => absurd ha List.not_mem_nil, .nil⟩
  | cons op ops ih =>
    obtain ⟨hlater, hordered⟩ := ih (c.apply op)
    have hle := c.reports_le_apply op
    rw [gather_cons]
    cases hnow : c.arrival? op with
    | none => exact ⟨fun a ha => Nat.lt_of_le_of_lt hle (hlater a ha), hordered⟩
    | some x =>
      obtain ⟨hnumber, hreports⟩ := number_of_arrival hnow
      refine ⟨fun a ha => ?_, List.pairwise_cons.2 ⟨fun a ha => ?_, hordered⟩⟩
      · rcases List.mem_cons.1 ha with rfl | ha
        · omega
        · exact Nat.lt_of_le_of_lt hle (hlater a ha)
      · have := hlater a ha
        omega

theorem nodup_arrivals (c : Client) (ops : List ClientOp) :
    ((gather apply arrival? c ops).map (·.number)).Nodup :=
  List.pairwise_map.2 ((arrivals_increase c ops).2.imp Nat.ne_of_lt)

/-! ## Runs from the start -/

/-- What a pause means for a run of a client. -/
structure FrozenWhilePaused (c : Client) (ops : List ClientOp) : Prop where
  /-- The step that shuts the valve changes nothing that is shown. -/
  shut : ∀ op, ((c.run ops).apply op).viewer.isPaused = true →
    SameShown (c.run ops) ((c.run ops).apply op)
  /-- Nor does anything that happens from then on, up to the step that opens it. -/
  still : ∀ after last, (c.run ops).StaysPaused after →
    SameShown (c.run ops) (((c.run ops).run after).apply last)
  /-- What is stored is what was taken out of the inbox while the valve was open. -/
  stored : gather apply stored? c ops = gather apply (whileOpen taken?) c ops
  /-- What came in or was taken out of the inbox while the valve was shut is never stored. -/
  lost : ∀ a ∈ gather apply stored? c ops,
    ∀ b ∈ gather apply (whilePaused arrival?) c ops ++ gather apply (whilePaused taken?) c ops,
      a.number ≠ b.number
  /-- What is stored came in before, in this order. -/
  order : (gather apply stored? c ops).Sublist (gather apply arrival? c ops)
  /-- Nothing comes in twice. -/
  once : (gather apply arrival? c ops).Pairwise (·.number < ·.number)
  /-- Nothing else gets into the store. -/
  current : (c.run ops).viewer.store.current =
    (gather apply stored? c ops).getLast?.map (·.snapshot)
  /-- The store has counted what was stored. -/
  generation : (c.run ops).viewer.store.generation = (gather apply stored? c ops).length

/-- However the reports, the keys and the handling of events follow each other: a pause freezes
what is shown, and what it holds back is lost. -/
theorem frozen_while_paused (nav : Navigator) (feed : LiveFeed) (session : Session)
    (addressFile : Option Path) (files : Files) (ops : List ClientOp) :
    FrozenWhilePaused (start (Viewer.start nav (.live feed) session addressFile) files) ops := by
  generalize hc : start (Viewer.start nav (.live feed) session addressFile) files = c
  have hlive : c.viewer.source.valve? ≠ none := by
    rw [← hc]
    simp [start, Viewer.start, Source.valve?]
  have hwaiting : c.waiting = [] := by
    rw [← hc]
    rfl
  have hstore : c.viewer.store = {} := by
    rw [← hc]
    rfl
  have htaken := taken_sublist hlive hwaiting ops
  have hpassed := whileOpen_sublist arrival? c ops
  have hstored : gather apply stored? c ops = gather apply (whileOpen taken?) c ops :=
    stored_run (by rw [hstore]) ops
  have hstored_taken := whileOpen_sublist taken? c ops
  rw [← hstored] at hstored_taken
  have hnumbers := nodup_arrivals c ops
  obtain ⟨hcurrent, hgeneration⟩ := store_run c ops
  rw [hstore] at hcurrent hgeneration
  refine
    { shut := fun op h => sameShown_of_quiet (shown?_of_paused_after h)
      still := fun after last h => sameShown_run h last
      stored := hstored
      lost := fun a ha b hb => ?_
      order := hstored_taken.trans (htaken.trans hpassed)
      once := (arrivals_increase c ops).2
      current := by simpa using hcurrent
      generation := by simpa using hgeneration }
  -- An arrival has to be at an open valve, and so has to be the taking out of the inbox.
  rcases List.mem_append.1 hb with hb | hb
  · exact number_ne_of_whileOpen_of_whilePaused hnumbers
      ((hstored_taken.trans htaken).subset ha) hb
  · have htaken_numbers := ((htaken.trans hpassed).map (·.number)).nodup hnumbers
    exact number_ne_of_whileOpen_of_whilePaused htaken_numbers (hstored ▸ ha) hb

/-- The first snapshot waits when the feed is paused, the second comes in then; only the third is
stored. -/
example :
    let feed : LiveFeed := { stage := some .reading }
    let viewer :=
      Viewer.start (Navigator.start { mode := .live } {}) (.live feed) { baseUrl := "" } none
    let comes (data : String) : List ClientOp :=
      [.report 0 (.frame ⟨"snapshot", data⟩), .report 0 .turn]
    let space : ClientOp := .key 0 { code := .char ' ' }
    let ops := comes "[1]" ++ [space] ++ comes "[2]" ++ [.handle, space] ++ comes "[3]" ++ [.handle]
    gather apply arrival? (start viewer {}) ops =
        [⟨2, { timestamp := 1 }⟩, ⟨4, { timestamp := 2 }⟩, ⟨6, { timestamp := 3 }⟩] ∧
      gather apply stored? (start viewer {}) ops = [⟨6, { timestamp := 3 }⟩] := by
  decide +kernel

end SnapshotViewer.Client
