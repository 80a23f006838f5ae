import Mathlib.Data.List.Induction
import Mathlib.Data.List.Nodup
import SnapshotViewer.Address.Basic

/-!
# The last pair decides

The five names that an address can hold write to four slots: the tab, the view, the filter, and the
moment, which has two names.  Reading a list of names and values puts one pair in after the other,
so what is found in a slot is what the last pair for it writes, whatever stands before, between and
behind.  Pairs for different slots may therefore change places, and pairs for no slot may come and
go.

## Main definitions

* `Slot`, `Slot.ofName?` — what a name writes to.
* `Address.lastOf`, `Address.ofLast` — the last pair for each slot, and the address of these.

## Main statements

* `Address.ofPairs_eq` — reading leaves in each slot what the last pair writes.
* `Address.ofPairs_filter_known` — pairs for no slot are passed over.
* `Address.ofPairs_of_perm` — one pair for each slot may come in any order.
-/

namespace SnapshotViewer

/-- What a pair of an address writes to. -/
inductive Slot where
  | tab
  | view
  | filter
  | moment
deriving DecidableEq, Repr

/-- The slot that a name writes to; `none` for an unknown name. -/
def Slot.ofName? (name : String) : Option Slot :=
  if name = "tab" then some .tab
  else if name = "view" then some .view
  else if name = "filter" then some .filter
  else if name = "timestamp" ∨ name = "pos" then some .moment
  else none

/-- The name that a timestamp is kept under, by the name it was written under. -/
def TimestampKey.ofName (name : String) : TimestampKey := if name = "pos" then .pos else .timestamp

namespace Address

variable {a : Address} {slot : Slot} {p : String × String} {ps qs : List (String × String)}

/-- Whether a pair writes to a slot. -/
def isKnown (p : String × String) : Bool := (Slot.ofName? p.1).isSome

/-- The last pair for a slot. -/
def lastOf (ps : List (String × String)) (slot : Slot) : Option (String × String) :=
  (ps.filter fun p => Slot.ofName? p.1 = some slot).getLast?

/-- The address that has in each slot what one pair writes. -/
def ofLast (last : Slot → Option (String × String)) : Address where
  tab := ((last .tab).bind fun p => Collection.ofName? p.2).getD .prc
  view := (last .view).bind fun p => nonEmpty p.2
  filter := (last .filter).bind fun p => nonEmpty p.2
  timestamp := (last .moment).bind fun p => (readInt64? p.2).bind nonZero
  key := (last .moment).elim .timestamp fun p => .ofName p.1

/-! ## One pair after the other -/

/-- A pair writes to its slot and to no other one. -/
theorem put_eq (a : Address) (name value : String) : a.put name value =
    match Slot.ofName? name with
    | some .tab => { a with tab := (Collection.ofName? value).getD .prc }
    | some .view => { a with view := nonEmpty value }
    | some .filter => { a with filter := nonEmpty value }
    | some .moment =>
      { a with timestamp := (readInt64? value).bind nonZero, key := .ofName name }
    | none => a := by
  unfold put Slot.ofName? TimestampKey.ofName
  grind

theorem lastOf_concat : lastOf (ps ++ [p]) slot =
    if Slot.ofName? p.1 = some slot then some p else lastOf ps slot := by
  unfold lastOf
  rw [List.filter_append]
  split
  · next h => simp [h]
  · next h => simp [h]

/-- What is found in a slot is what the last pair for it writes. -/
theorem ofPairs_eq (ps : List (String × String)) : ofPairs ps = ofLast (lastOf ps) := by
  induction ps using List.reverseRecOn with
  | nil => rfl
  | append_singleton ps p ih =>
    have hput : ofPairs (ps ++ [p]) = (ofPairs ps).put p.1 p.2 := List.foldl_concat ..
    rw [hput, ih, put_eq]
    simp only [ofLast, lastOf_concat]
    cases hslot : Slot.ofName? p.1 with
    | none => simp
    | some slot => cases slot <;> simp

theorem ofPairs_congr (h : lastOf ps = lastOf qs) : ofPairs ps = ofPairs qs := by
  rw [ofPairs_eq, ofPairs_eq, h]

/-! ## Leaving pairs out -/

/-- The last pair for a slot stays the last when others go. -/
theorem lastOf_filter_of_eq_some {keep : String × String → Bool} (h : lastOf ps slot = some p)
    (hp : keep p = true) : lastOf (ps.filter keep) slot = some p := by
  induction ps using List.reverseRecOn with
  | nil => simp [lastOf] at h
  | append_singleton ps x ih =>
    rw [lastOf_concat] at h
    rw [List.filter_append]
    by_cases hx : Slot.ofName? x.1 = some slot
    · obtain rfl : x = p := by simpa [hx] using h
      simp [hp, lastOf_concat, hx]
    · have hrest := ih (by simpa [hx] using h)
      cases hkeep : keep x with
      | false => simpa [hkeep] using hrest
      | true => simpa [hkeep, lastOf_concat, hx] using hrest

theorem lastOf_filter_of_eq_none {keep : String × String → Bool} (h : lastOf ps slot = none) :
    lastOf (ps.filter keep) slot = none := by
  simp only [lastOf, List.getLast?_eq_none_iff, List.filter_eq_nil_iff] at h ⊢
  exact fun p hp => h p (List.mem_of_mem_filter hp)

/-- If all pairs for a slot are kept, the last one is the same. -/
theorem lastOf_filter {keep : String × String → Bool}
    (hkeep : ∀ p ∈ ps, Slot.ofName? p.1 = some slot → keep p = true) :
    lastOf (ps.filter keep) slot = lastOf ps slot := by
  cases h : lastOf ps slot with
  | none => exact lastOf_filter_of_eq_none h
  | some p =>
    have hmem := List.mem_filter.1 (List.mem_of_getLast? h)
    exact lastOf_filter_of_eq_some h (hkeep p hmem.1 (by simpa using hmem.2))

/-- Pairs for no slot are passed over. -/
theorem ofPairs_filter_known (ps : List (String × String)) :
    ofPairs (ps.filter isKnown) = ofPairs ps :=
  ofPairs_congr <| funext fun slot => lastOf_filter fun p _ h => by rw [isKnown, h]; rfl

/-! ## The order of the pairs -/

/-- With one pair for each slot, that one is the last. -/
theorem lastOf_eq_some_iff (hps : (ps.map fun p => Slot.ofName? p.1).Nodup) :
    lastOf ps slot = some p ↔ p ∈ ps ∧ Slot.ofName? p.1 = some slot := by
  constructor
  · intro h
    simpa using List.mem_filter.1 (List.mem_of_getLast? h)
  · rintro ⟨hmem, hslot⟩
    have hlast : lastOf ps slot ≠ none := by
      simp only [lastOf, ne_eq, List.getLast?_eq_none_iff, List.filter_eq_nil_iff]
      exact fun h => h p hmem (by simpa using hslot)
    obtain ⟨q, hq⟩ := Option.ne_none_iff_exists'.1 hlast
    have hmem' := List.mem_filter.1 (List.mem_of_getLast? hq)
    have hslot' : Slot.ofName? q.1 = some slot := by simpa using hmem'.2
    rw [hq, List.inj_on_of_nodup_map hps hmem'.1 hmem (hslot'.trans hslot.symm)]

/-- One pair for each slot may come in any order. -/
theorem ofPairs_of_perm (h : ps.Perm qs) (hqs : (qs.map fun p => Slot.ofName? p.1).Nodup) :
    ofPairs ps = ofPairs qs := by
  have hps : (ps.map fun p => Slot.ofName? p.1).Nodup := (h.map _).nodup_iff.2 hqs
  refine ofPairs_congr (funext fun slot => Option.ext fun p => ?_)
  rw [lastOf_eq_some_iff hps, lastOf_eq_some_iff hqs, h.mem_iff]

/-- What differs from the default is written by one pair for each slot. -/
theorem nodup_slots_pairs (a : Address) : (a.pairs.map fun p => Slot.ofName? p.1).Nodup := by
  have hkey : Slot.ofName? a.key.name = some .moment := by cases a.key <;> rfl
  have hsublist : (a.pairs.map fun p => Slot.ofName? p.1).Sublist
      ([some .tab] ++ [some .view] ++ [some .filter] ++ [some .moment]) := by
    simp only [pairs, List.map_append]
    refine List.Sublist.append (List.Sublist.append (List.Sublist.append ?_ ?_) ?_) ?_
    · split <;> simp [Slot.ofName?]
    · cases a.view.bind nonEmpty <;> simp [Slot.ofName?]
    · cases a.filter.bind nonEmpty <;> simp [Slot.ofName?]
    · cases a.timestamp.bind nonZero <;> simp [hkey]
  exact hsublist.nodup (by decide)

end Address

end SnapshotViewer
