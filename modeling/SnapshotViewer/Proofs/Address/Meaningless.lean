import SnapshotViewer.Proofs.Address.Slots
import SnapshotViewer.Proofs.Address.Spelling

/-!
# Pairs that mean nothing

Some pairs of a link mean nothing: those with an unknown name, those that name a tab that does not
exist, and those whose moment is no number of 64 bits.  A pair with an unknown name is passed over
wherever it stands.  The other two are not passed over.  They write to their slot like any pair for
it, and what they write is the default; a moment is even kept under the name it was written under.
So they make no difference in front of another pair for their slot, and behind the last one that
means something only if that leaves the slot at the same default.

## Main definitions

* `Address.isMalformed` — a pair for a slot with a value that means nothing there.
* `Address.meaningful` — the pairs that are left without all those that mean nothing.
* `Address.Harmless` — what is left is at the default wherever a malformed pair comes last.

## Main statements

* `Address.tab_of_malformed`, `Address.moment_of_malformed` — a malformed pair that comes last
  clears its slot.
* `decode_meaningful_iff` — when nothing is lost with the pairs that mean nothing.
* `decode_meaningless_tab_last` — a tab that does not exist hides the one in front of it.
-/

namespace SnapshotViewer

namespace Address

variable {slot : Slot} {p : String × String} {ps : List (String × String)}

/-- Whether a pair is for a slot and its value means nothing there. -/
def isMalformed (p : String × String) : Bool :=
  match Slot.ofName? p.1 with
  | some .tab => (Collection.ofName? p.2).isNone
  | some .moment => (readInt64? p.2).isNone
  | _ => false

/-- The pairs that are left without all those that mean nothing. -/
def meaningful (ps : List (String × String)) : List (String × String) :=
  ps.filter fun p => isKnown p && !isMalformed p

/-- Wherever a malformed pair is the last for its slot, the slot is at the same default without the
pairs that mean nothing. -/
structure Harmless (ps : List (String × String)) : Prop where
  tab : ∀ p ∈ lastOf ps .tab, isMalformed p = true → (ofPairs (meaningful ps)).tab = .prc
  moment : ∀ p ∈ lastOf ps .moment, isMalformed p = true →
    (ofPairs (meaningful ps)).timestamp = none ∧ (ofPairs (meaningful ps)).key = .ofName p.1

instance (ps : List (String × String)) : Decidable (Harmless ps) :=
  decidable_of_iff
    ((∀ p ∈ lastOf ps .tab, isMalformed p = true → (ofPairs (meaningful ps)).tab = .prc) ∧
      ∀ p ∈ lastOf ps .moment, isMalformed p = true →
        (ofPairs (meaningful ps)).timestamp = none ∧ (ofPairs (meaningful ps)).key = .ofName p.1)
    ⟨fun h => ⟨h.1, h.2⟩, fun h => ⟨h.tab, h.moment⟩⟩

theorem ofName?_of_lastOf (h : lastOf ps slot = some p) : Slot.ofName? p.1 = some slot := by
  simpa using (List.mem_filter.1 (List.mem_of_getLast? h)).2

/-! ## Where a malformed pair comes last -/

/-- A tab that does not exist is the default one, whatever tab is in front of it. -/
theorem tab_of_malformed (h : lastOf ps .tab = some p) (hp : isMalformed p = true) :
    (ofPairs ps).tab = .prc := by
  simp only [isMalformed, ofName?_of_lastOf h, Option.isNone_iff_eq_none] at hp
  simp [ofPairs_eq, ofLast, h, hp]

/-- A moment that is no number is none, under the name it was written under. -/
theorem moment_of_malformed (h : lastOf ps .moment = some p) (hp : isMalformed p = true) :
    (ofPairs ps).timestamp = none ∧ (ofPairs ps).key = .ofName p.1 := by
  simp only [isMalformed, ofName?_of_lastOf h, Option.isNone_iff_eq_none] at hp
  simp [ofPairs_eq, ofLast, h, hp]

/-! ## Where none does -/

/-- Unless a malformed pair comes last, the last pair for a slot is meaningful. -/
theorem lastOf_meaningful (h : ∀ p, lastOf ps slot = some p → isMalformed p = false) :
    lastOf (meaningful ps) slot = lastOf ps slot := by
  cases hlast : lastOf ps slot with
  | none => exact lastOf_filter_of_eq_none hlast
  | some p =>
    refine lastOf_filter_of_eq_some hlast ?_
    simp [isKnown, ofName?_of_lastOf hlast, h p hlast]

/-- Views and filters mean something whatever their value is. -/
theorem isMalformed_eq_false (h : Slot.ofName? p.1 = some slot) (htab : slot ≠ .tab)
    (hmoment : slot ≠ .moment) : isMalformed p = false := by
  cases slot <;> simp_all [isMalformed]

theorem lastOf_view_meaningful (ps : List (String × String)) :
    lastOf (meaningful ps) .view = lastOf ps .view :=
  lastOf_meaningful fun _ h => isMalformed_eq_false (ofName?_of_lastOf h) (by decide) (by decide)

theorem lastOf_filter_meaningful (ps : List (String × String)) :
    lastOf (meaningful ps) .filter = lastOf ps .filter :=
  lastOf_meaningful fun _ h => isMalformed_eq_false (ofName?_of_lastOf h) (by decide) (by decide)

theorem view_meaningful (ps : List (String × String)) :
    (ofPairs (meaningful ps)).view = (ofPairs ps).view := by
  simp only [ofPairs_eq, ofLast, lastOf_view_meaningful]

theorem filter_meaningful (ps : List (String × String)) :
    (ofPairs (meaningful ps)).filter = (ofPairs ps).filter := by
  simp only [ofPairs_eq, ofLast, lastOf_filter_meaningful]

theorem Harmless.tab_eq (h : Harmless ps) : (ofPairs (meaningful ps)).tab = (ofPairs ps).tab := by
  by_cases hlast : ∃ p, lastOf ps .tab = some p ∧ isMalformed p = true
  · obtain ⟨p, hp, hmalformed⟩ := hlast
    rw [h.tab p hp hmalformed, tab_of_malformed hp hmalformed]
  · have hsame : lastOf (meaningful ps) .tab = lastOf ps .tab :=
      lastOf_meaningful fun p hp => by simpa using fun hm => hlast ⟨p, hp, hm⟩
    simp only [ofPairs_eq, ofLast, hsame]

theorem Harmless.moment_eq (h : Harmless ps) :
    (ofPairs (meaningful ps)).timestamp = (ofPairs ps).timestamp ∧
      (ofPairs (meaningful ps)).key = (ofPairs ps).key := by
  by_cases hlast : ∃ p, lastOf ps .moment = some p ∧ isMalformed p = true
  · obtain ⟨p, hp, hmalformed⟩ := hlast
    obtain ⟨htimestamp, hkey⟩ := h.moment p hp hmalformed
    obtain ⟨htimestamp', hkey'⟩ := moment_of_malformed hp hmalformed
    rw [htimestamp, hkey, htimestamp', hkey']
    exact ⟨rfl, rfl⟩
  · have hsame : lastOf (meaningful ps) .moment = lastOf ps .moment :=
      lastOf_meaningful fun p hp => by simpa using fun hm => hlast ⟨p, hp, hm⟩
    simp only [ofPairs_eq, ofLast, hsame, and_self]

/-- Nothing is lost with the pairs that mean nothing exactly if that does no harm. -/
theorem ofPairs_meaningful_iff : ofPairs (meaningful ps) = ofPairs ps ↔ Harmless ps := by
  constructor
  · intro h
    refine ⟨fun p hp hmalformed => ?_, fun p hp hmalformed => ?_⟩
    · rw [h, tab_of_malformed hp hmalformed]
    · rw [h]
      exact moment_of_malformed hp hmalformed
  · intro h
    obtain ⟨htimestamp, hkey⟩ := h.moment_eq
    rw [Address.mk.injEq]
    exact ⟨h.tab_eq, view_meaningful ps, filter_meaningful ps, htimestamp, hkey⟩

end Address

open Address

/-- Without the pairs with unknown names a link is read as before.  Without the malformed ones too
it has the same view and filter, and it is read as before exactly if no malformed pair that comes
last for its slot hides something in front of it. -/
theorem decode_meaningful_iff {l : Link} {ps : List (String × String)} (hl : l.Spells ps) :
    (∀ l' : Link, l'.Spells (ps.filter isKnown) → decode l'.text = decode l.text) ∧
    ∀ l' : Link, l'.Spells (meaningful ps) →
      (decode l'.text).view = (decode l.text).view ∧
      (decode l'.text).filter = (decode l.text).filter ∧
      (decode l'.text = decode l.text ↔ Harmless ps) := by
  refine ⟨fun l' hl' => ?_, fun l' hl' => ?_⟩
  · rw [Link.decode_text hl, Link.decode_text hl', ofPairs_filter_known]
  · rw [Link.decode_text hl, Link.decode_text hl']
    exact ⟨view_meaningful ps, filter_meaningful ps, ofPairs_meaningful_iff⟩

/-- A tab that does not exist in front of one that does, a pair with an unknown name, and a moment
that is no number with nothing in front of it. -/
theorem decode_meaningful_iff_of_harmless :
    let ps := [("tab", "sessions"), ("tab", "pgs"), ("sort", "cpu"), ("timestamp", "soon")]
    (Link.written ps).Spells ps ∧ (Link.written (meaningful ps)).Spells (meaningful ps) ∧
      meaningful ps = [("tab", "pgs")] ∧
      decode (Link.written (meaningful ps)).text = decode (Link.written ps).text := by
  intro ps
  have hl := Link.spells_written ps
  have hl' := Link.spells_written (meaningful ps)
  have hharmless : Harmless ps := by decide +kernel
  exact ⟨hl, hl', by decide +kernel, ((decode_meaningful_iff hl).2 _ hl').2.2.2 hharmless⟩

/-- A tab that does not exist comes behind one that does: with it the tab is the default one,
without it the other. -/
theorem decode_meaningless_tab_last :
    let ps := [("tab", "pgs"), ("tab", "bogus")]
    Form.render ps = "tab=pgs&tab=bogus" ∧ Form.render (meaningful ps) = "tab=pgs" ∧
      (decode (Form.render ps)).tab = .prc ∧ (decode (Form.render (meaningful ps))).tab = .pgs := by
  decide +kernel

end SnapshotViewer
