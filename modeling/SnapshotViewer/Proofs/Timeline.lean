import SnapshotViewer.Proofs.Number.Int64
import SnapshotViewer.Proofs.Snapshot.Numbered
import SnapshotViewer.Timeline

/-!
# Moves along the timeline and the bounds of 64 bits

A move goes to the neighbour that the server names, or it counts seconds from the moment of the
snapshot that is shown.  That moment comes from the server and may be any number of 64 bits, so the
seconds may lead out of the bounds.  Then there is no target, and the program breaks off.  Otherwise
every move leads where it should.

## Main definitions

* `Snapshot.InBounds` — the moments of a snapshot are numbers of 64 bits.
* `HistoryStep.aim?` — where a move should lead.
* `HistoryStep.Overflows` — the moves that lead out of the bounds.
* `HistoryStep.Leads` — what becomes of a move.

## Main statements

* `Snapshot.IsRead.inBounds` — what is read is within the bounds.
* `HistoryStep.target?_eq` — the target of a move.
* `HistoryStep.leads` — every move goes where it should unless it leads out of the bounds, and is a
  crash then.
-/

namespace SnapshotViewer

/-! ## The moments of a snapshot -/

namespace Snapshot

/-- The moments of a snapshot and of its neighbours are numbers of 64 bits. -/
structure InBounds (s : Snapshot) : Prop where
  timestamp : fitsInt64 s.timestamp = true
  prev : ∀ t, s.prev = some t → fitsInt64 t = true
  next : ∀ t, s.next = some t → fitsInt64 t = true

theorem fitsInt64_of_int64 {depth : Nat} {doc : Json.Doc} {n : Int} (h : int64 depth doc = .ok n) :
    fitsInt64 n = true := fitsInt64_iff.2 (Json.Decoder.bounds_of_int h)

theorem fitsInt64_of_optional {depth : Nat} {doc : Json.Doc} {n? : Option Int} {n : Int}
    (h : Json.Decoder.optional int64 depth doc = .ok n?) (hn : n? = some n) :
    fitsInt64 n = true := by
  subst hn
  exact fitsInt64_of_int64 (Json.Decoder.ok_of_optional h)

theorem inBounds_of_decoder {depth : Nat} {doc : Json.Doc} {s : Snapshot}
    (h : decoder depth doc = .ok s) : s.InBounds := by
  refine Json.Decoder.record_keeps (fun f hf => ?_) ⟨by decide, by simp, by simp⟩ h
  rcases List.mem_append.1 hf with hf | hf
  · simp only [List.mem_cons, List.not_mem_nil, or_false] at hf
    rcases hf with rfl | rfl | rfl
    · intro depth doc put hput s hs
      obtain ⟨t, ht, rfl⟩ := exists_of_map_eq_ok hput
      exact { hs with timestamp := fitsInt64_of_int64 ht }
    · intro depth doc put hput s hs
      obtain ⟨t, ht, rfl⟩ := exists_of_map_eq_ok hput
      exact { hs with prev := fun _ => fitsInt64_of_optional ht }
    · intro depth doc put hput s hs
      obtain ⟨t, ht, rfl⟩ := exists_of_map_eq_ok hput
      exact { hs with next := fun _ => fitsInt64_of_optional ht }
  · obtain ⟨k, -, rfl⟩ := List.mem_map.1 hf
    intro depth doc put hput s hs
    obtain ⟨rows, -, rfl⟩ := exists_of_map_eq_ok hput
    exact { hs with }

/-- A snapshot that was read is within the bounds. -/
theorem IsRead.inBounds {s : Snapshot} (h : s.IsRead) : s.InBounds := by
  obtain ⟨depth, doc, hdoc⟩ := h.exists_decoder
  exact inBounds_of_decoder hdoc

end Snapshot

/-! ## Where a move should lead -/

/-- A moment lies where a direction looks to from another. -/
def Direction.Reaches (d : Direction) (origin t : Int) : Prop :=
  match d with
  | .floor => t ≤ origin
  | .ceil => origin ≤ t

namespace HistoryStep

/-- The direction of a move. -/
def direction : HistoryStep → Direction
  | .back | .hourBack => .floor
  | .forward | .hourForward => .ceil

/-- The seconds that a move counts if it goes to no neighbour. -/
def distance : HistoryStep → Int
  | .back => -1
  | .forward => 1
  | .hourBack => -3600
  | .hourForward => 3600

/-- The neighbour that a move goes to; the hours pass over neighbours. -/
def neighbour? (s : Snapshot) : HistoryStep → Option Int
  | .back => s.prev
  | .forward => s.next
  | .hourBack | .hourForward => none

/-- The snapshot is the end of the timeline that a move goes to. -/
def isEnd (s : Snapshot) : HistoryStep → Bool
  | .back => s.prev.isNone && s.next.isSome
  | .forward => s.next.isNone && s.prev.isSome
  | .hourBack | .hourForward => false

/-- Where a move should lead. -/
def aim? (s : Snapshot) (step : HistoryStep) : Option (Int × Direction) :=
  if step.isEnd s then none
  else some ((step.neighbour? s).getD (s.timestamp + step.distance), step.direction)

/-- A move counts seconds. -/
def Counts (s : Snapshot) (step : HistoryStep) : Prop :=
  step.isEnd s = false ∧ step.neighbour? s = none

/-- The seconds lead out of the bounds. -/
def Overflows (s : Snapshot) : HistoryStep → Prop
  | .back => s.prev = none ∧ s.next = none ∧ s.timestamp = int64Min
  | .forward => s.prev = none ∧ s.next = none ∧ s.timestamp = int64Max
  | .hourBack => s.timestamp < int64Min + 3600
  | .hourForward => int64Max - 3600 < s.timestamp

variable {s : Snapshot}

/-! ## Where it leads -/

/-- The target of a move: an end of the timeline has none, and seconds are counted only without a
neighbour. -/
theorem target?_eq (s : Snapshot) (step : HistoryStep) : step.target? s =
    if step.isEnd s then .ok none
    else match step.neighbour? s with
      | some t => .ok (some (t, step.direction))
      | none => count s step.distance step.direction := by
  cases step with
  | back => cases hprev : s.prev <;> cases hnext : s.next <;>
      simp [target?, isEnd, neighbour?, direction, distance, hprev, hnext]
  | forward => cases hnext : s.next <;> cases hprev : s.prev <;>
      simp [target?, isEnd, neighbour?, direction, distance, hprev, hnext]
  | hourBack => rfl
  | hourForward => rfl

theorem count_of_fits {n : Int} (d : Direction) (h : fitsInt64 (s.timestamp + n) = true) :
    count s n d = .ok (some (s.timestamp + n, d)) := by
  rw [count, checkInt64_eq_ok_iff.2 ⟨h, rfl⟩]
  rfl

theorem count_of_overflow {n : Int} (d : Direction) (h : fitsInt64 (s.timestamp + n) = false) :
    count s n d = .error .overflow := by
  rw [count, checkInt64_eq_error_iff.2 h]
  rfl

theorem overflows_iff (h : s.InBounds) (step : HistoryStep) :
    step.Overflows s ↔ step.Counts s ∧ fitsInt64 (s.timestamp + step.distance) = false := by
  have hbounds := fitsInt64_iff.1 h.timestamp
  rw [← Bool.not_eq_true, fitsInt64_iff]
  cases step with
  | back =>
    cases hprev : s.prev <;> cases hnext : s.next <;>
      simp [Overflows, Counts, isEnd, neighbour?, distance, hprev, hnext]
    omega
  | forward =>
    cases hprev : s.prev <;> cases hnext : s.next <;>
      simp [Overflows, Counts, isEnd, neighbour?, distance, hprev, hnext]
    omega
  | hourBack =>
    simp only [Overflows, Counts, isEnd, neighbour?, distance, true_and]
    omega
  | hourForward =>
    simp only [Overflows, Counts, isEnd, neighbour?, distance, true_and]
    omega

/-- A move that counts seconds goes in its direction. -/
theorem reaches_distance (s : Snapshot) (step : HistoryStep) :
    step.direction.Reaches s.timestamp (s.timestamp + step.distance) := by
  cases step <;> simp only [direction, distance, Direction.Reaches] <;> omega

theorem fitsInt64_of_neighbour? (h : s.InBounds) {step : HistoryStep} {t : Int}
    (ht : step.neighbour? s = some t) : fitsInt64 t = true := by
  cases step with
  | back => exact h.prev t ht
  | forward => exact h.next t ht
  | hourBack => cases ht
  | hourForward => cases ht

/-- What becomes of a move. -/
structure Leads (step : HistoryStep) (s : Snapshot) : Prop where
  /-- The target is a moment of 64 bits. -/
  within : ∀ t d, step.target? s = .ok (some (t, d)) → fitsInt64 t = true
  /-- The move leads where it should unless the seconds lead out of the bounds. -/
  aims : step.target? s = .ok (step.aim? s) ↔ ¬ step.Overflows s
  /-- If they do, the move is a crash, and no other move is. -/
  crashes : step.target? s = .error .overflow ↔ step.Overflows s
  /-- A move that counts seconds leads in its direction. -/
  reaches : step.Counts s → ∀ t d, step.target? s = .ok (some (t, d)) → d.Reaches s.timestamp t

/-- A move that has a target without counting is what it should be. -/
theorem leads_of_not_counts {step : HistoryStep} (hcounts : ¬ step.Counts s)
    (hoverflows : ¬ step.Overflows s) (htarget : step.target? s = .ok (step.aim? s))
    (hfits : ∀ t d, step.aim? s = some (t, d) → fitsInt64 t = true) : step.Leads s where
  within t d h := hfits t d (Except.ok.inj (htarget.symm.trans h))
  aims := iff_of_true htarget hoverflows
  crashes := iff_of_false (by simp [htarget]) hoverflows
  reaches h := absurd h hcounts

/-- Of a snapshot within the bounds every move becomes what it should, unless its seconds lead out
of them. -/
theorem leads (h : s.InBounds) (step : HistoryStep) : step.Leads s := by
  have htarget := target?_eq s step
  have hoverflows := overflows_iff h step
  cases hend : step.isEnd s with
  | true =>
    -- there is no target, and none is meant
    have hcounts : ¬ step.Counts s := by simp [Counts, hend]
    have haim : step.aim? s = none := by simp [aim?, hend]
    rw [hend, if_pos rfl, ← haim] at htarget
    exact leads_of_not_counts hcounts (by simp [hoverflows, hcounts]) htarget (by simp [haim])
  | false =>
    rw [hend, if_neg Bool.false_ne_true] at htarget
    cases hneighbour : step.neighbour? s with
    | some t =>
      have hcounts : ¬ step.Counts s := by simp [Counts, hneighbour]
      have haim : step.aim? s = some (t, step.direction) := by simp [aim?, hend, hneighbour]
      rw [hneighbour] at htarget
      refine leads_of_not_counts hcounts (by simp [hoverflows, hcounts]) (haim ▸ htarget) ?_
      intro t' d heq
      obtain ⟨rfl, -⟩ := Prod.mk.inj (Option.some.inj (haim.symm.trans heq))
      exact fitsInt64_of_neighbour? h hneighbour
    | none =>
      have hcounts : step.Counts s := ⟨hend, hneighbour⟩
      have haim : step.aim? s = some (s.timestamp + step.distance, step.direction) := by
        simp [aim?, hend, hneighbour]
      rw [hneighbour] at htarget
      dsimp only at htarget
      cases hfits : fitsInt64 (s.timestamp + step.distance) with
      | true =>
        have hno : ¬ step.Overflows s := by simp [hoverflows, hfits]
        rw [count_of_fits _ hfits] at htarget
        refine ⟨fun t d heq => ?_, iff_of_true (haim ▸ htarget) hno,
          iff_of_false (by simp [htarget]) hno, fun _ t d heq => ?_⟩
        · obtain ⟨rfl, -⟩ := Prod.mk.inj (Option.some.inj (Except.ok.inj (htarget.symm.trans heq)))
          exact hfits
        · obtain ⟨rfl, rfl⟩ :=
            Prod.mk.inj (Option.some.inj (Except.ok.inj (htarget.symm.trans heq)))
          exact reaches_distance s step
      | false =>
        have hyes : step.Overflows s := hoverflows.2 ⟨hcounts, hfits⟩
        rw [count_of_overflow _ hfits] at htarget
        exact ⟨by simp [htarget], iff_of_false (by simp [htarget]) (not_not_intro hyes),
          iff_of_true htarget hyes, by simp [htarget]⟩

end HistoryStep

end SnapshotViewer
