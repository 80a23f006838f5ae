import Mathlib.Data.List.Basic
import SnapshotViewer.Proofs.Number.Decimal
import SnapshotViewer.Proofs.Snapshot.Numbered
import SnapshotViewer.Proofs.Text.Lowercase
import SnapshotViewer.Snapshot.Visible

/-!
# Filter texts and the rows that show them

A filter text is looked for in what is shown of a row, both in lower case, so that case does not
matter.  A row that shows the very text is found, unless a capital sigma of the text has another
small letter in the row than it has in the filter.

## Main definitions

* `Row.ShowsBetween`, `Row.Shows` — a row shows a text in its identity or in some value.
* `Snapshot.KeepsShown` — the rows that show a filter text are never hidden by it.

## Main statements

* `Row.matchesText_iff` — which rows a filter text leaves.
* `Snapshot.shown_text_kept` — when rows are kept for the text that they show.
* `Snapshot.shown_sigma_hidden` — a row that is hidden although it shows the text.
-/

namespace SnapshotViewer

/-- The characters that a filter text asks for, in the case in which they were typed. -/
def soughtChars (filterText : String) : List Char := (Text.trim filterText).toList

namespace Row

/-- The row shows `xs ++ cs ++ ys` as its identity or as a value that is not null. -/
def ShowsBetween (r : Row) (xs cs ys : List Char) : Prop :=
  r.id.display.toList = xs ++ cs ++ ys ∨
    ∃ f ∈ r.fields, f.2.isNull = false ∧ f.2.display.toList = xs ++ cs ++ ys

/-- The row shows a text in its identity or in a value that is not null. -/
def Shows (r : Row) (cs : List Char) : Prop := ∃ xs ys, r.ShowsBetween xs cs ys

variable {r : Row} {k : Collection} {needle filterText : String} {xs cs ys : List Char}

/-- A text is found in the identity or, in lower case, in some value. -/
theorem matchesText_iff : r.matchesText needle = true ↔ needle.toList <:+: r.id.display.toList ∨
    ∃ f ∈ r.fields, f.2.isNull = false ∧ needle.toList <:+: Text.lowerChars f.2.display.toList := by
  by_cases hempty : needle = ""
  · simp [hempty, matchesText]
  · simp [hempty, matchesText, occursIn, Text.contains, Text.containsChars_iff, Text.lower]

theorem toList_needleOf : (needleOf filterText).toList = Text.lowerChars (soughtChars filterText) :=
  String.toList_ofList

/-- A number is shown in small letters. -/
theorem lowerChars_of_infix_display (hr : r.id.IsNumberOf k) (h : cs <:+: r.id.display.toList) :
    Text.lowerChars cs = cs := by
  obtain ⟨n, -, -, hid⟩ := hr
  rw [hid, EntityId.display_ofInt] at h
  rw [Text.lowerChars_eq]
  refine Text.lowerWithin_eq_self fun c hc => ?_
  rcases isDigit_or_eq_of_mem_toString (h.subset hc) with hc | rfl
  · have hbounds := toNat_of_isDigit hc
    refine ⟨?_, Text.lowerChar_of_le hbounds.2⟩
    rintro rfl
    exact absurd hc (by decide)
  · exact ⟨by decide, Text.lowerChar_of_le (by decide)⟩

/-- A row that shows what a filter text asks for matches it, if the capital sigmas keep their
form. -/
theorem matchesText_of_showsBetween (hr : r.id.IsNumberOf k)
    (hshows : r.ShowsBetween xs (soughtChars filterText) ys)
    (hsigmas : Text.SameSigmas xs.reverse (soughtChars filterText) ys) :
    r.matchesText (needleOf filterText) = true := by
  rw [matchesText_iff, toList_needleOf]
  rcases hshows with hid | ⟨f, hf, hnull, hvalue⟩
  · have hpart : soughtChars filterText <:+: r.id.display.toList := ⟨xs, ys, hid.symm⟩
    rw [lowerChars_of_infix_display hr hpart]
    exact .inl hpart
  · refine .inr ⟨f, hf, hnull, ?_⟩
    rw [hvalue]
    exact Text.lowerChars_infix hsigmas

end Row

namespace Snapshot

variable {s : Snapshot} {k : Collection} {f : Option ColumnFilter} {filterText : String} {r : Row}

/-- No row that passes the column filter is hidden by a filter text that it shows. -/
def KeepsShown (filterText : String) : Prop :=
  ∀ s : Snapshot, s.Numbered → ∀ k f, ∀ r ∈ s.rows k, f.all (·.passes k r) = true →
    r.Shows (soughtChars filterText) → r ∈ s.visible k filterText f

/-- The session with this number and one further value. -/
def session (pid : Int) (value : String) : Row := ⟨.ofInt pid, [("usename", .text value)]⟩

/-- A snapshot of one session and nothing else. -/
def ofSession (pid : Int) (value : String) : Snapshot :=
  { timestamp := 0, tables := { pga := [session pid value] } }

theorem numbered_ofSession {pid : Int} (hlow : Collection.pga.idBounds.1 ≤ pid)
    (hhigh : pid ≤ Collection.pga.idBounds.2) (value : String) :
    (ofSession pid value).Numbered := by
  intro k r hr
  cases k with
  | pga =>
    obtain rfl := List.mem_singleton.1 hr
    exact ⟨pid, hlow, hhigh, rfl⟩
  | _ => cases hr

theorem infix_of_session_mem_visible {pid : Int} {value : String}
    (h : session pid value ∈ (ofSession pid value).visible .pga filterText none) :
    Text.lowerChars (soughtChars filterText) <:+: (toString pid).toList ∨
      Text.lowerChars (soughtChars filterText) <:+: Text.lowerChars value.toList := by
  rw [mem_visible_iff, Row.matchesText_iff, Row.toList_needleOf] at h
  rcases h.2.2 with hid | ⟨f, hf, -, hvalue⟩
  · rw [session, EntityId.display_ofInt] at hid
    exact .inl hid
  · obtain rfl := List.mem_singleton.1 hf
    exact .inr hvalue

/-- No text but the empty one is found in two different digits. -/
theorem eq_nil_of_infix_digits {cs : List Char} (hzero : cs <:+: ['0']) (hone : cs <:+: ['1']) :
    cs = [] := by
  rw [List.eq_nil_iff_forall_not_mem]
  intro c hc
  have h0 : c = '0' := List.mem_singleton.1 (hzero.subset hc)
  have h1 : c = '1' := List.mem_singleton.1 (hone.subset hc)
  exact absurd (h0.symm.trans h1) (by decide)

/-- If every session is kept for the text that it shows, the text settles its capital sigmas. -/
theorem settled_of_sessions_kept
    (h : ∀ (pid : Int) (value : String), pid = 0 ∨ pid = 1 →
      (session pid value).Shows (soughtChars filterText) →
        session pid value ∈ (ofSession pid value).visible .pga filterText none) :
    Text.Settled (soughtChars filterText) := by
  refine Text.settled_iff_infix.2 fun xs ys => ?_
  have hshown : ∀ pid : Int, pid = 0 ∨ pid = 1 →
      Text.lowerChars (soughtChars filterText) <:+: (toString pid).toList ∨
        Text.lowerChars (soughtChars filterText) <:+:
          Text.lowerChars (xs ++ soughtChars filterText ++ ys) := by
    intro pid hpid
    have hfound := infix_of_session_mem_visible
      (h pid (String.ofList (xs ++ soughtChars filterText ++ ys)) hpid
        ⟨xs, ys, .inr ⟨_, List.mem_singleton.2 rfl, rfl, String.toList_ofList⟩⟩)
    rwa [String.toList_ofList] at hfound
  -- a session whose number holds the needle shows nothing about its value
  rcases hshown 0 (.inl rfl) with hzero | hvalue
  · rcases hshown 1 (.inr rfl) with hone | hvalue
    · rw [eq_nil_of_infix_digits hzero hone]
      exact List.nil_infix
    · exact hvalue
  · exact hvalue

/-- A row that passes the column filter is kept for the text that it shows, if the capital sigmas of
the text keep their form there.  All such rows are kept exactly if the text settles the form of its
sigmas, in particular if it has none. -/
theorem shown_text_kept (filterText : String) :
    (∀ s : Snapshot, s.Numbered → ∀ k f, ∀ r ∈ s.rows k, f.all (·.passes k r) = true →
      ∀ xs ys, r.ShowsBetween xs (soughtChars filterText) ys →
        Text.SameSigmas xs.reverse (soughtChars filterText) ys → r ∈ s.visible k filterText f) ∧
    (KeepsShown filterText ↔ Text.Settled (soughtChars filterText)) ∧
    ('Σ' ∉ soughtChars filterText → KeepsShown filterText) := by
  have hkept : ∀ s : Snapshot, s.Numbered → ∀ k f, ∀ r ∈ s.rows k, f.all (·.passes k r) = true →
      ∀ xs ys, r.ShowsBetween xs (soughtChars filterText) ys →
        Text.SameSigmas xs.reverse (soughtChars filterText) ys →
          r ∈ s.visible k filterText f :=
    fun s hs k f r hr hf xs ys hshows hsigmas =>
      mem_visible_iff.2 ⟨hr, hf, Row.matchesText_of_showsBetween (hs k r hr) hshows hsigmas⟩
  have hiff : KeepsShown filterText ↔ Text.Settled (soughtChars filterText) := by
    constructor
    · intro hall
      refine settled_of_sessions_kept fun pid value hpid hshows => ?_
      have hnumbered : (ofSession pid value).Numbered := by
        rcases hpid with rfl | rfl
        · exact numbered_ofSession (by decide) (by decide) value
        · exact numbered_ofSession (by decide) (by decide) value
      exact hall _ hnumbered .pga none _ (List.mem_singleton.2 rfl) rfl hshows
    · rintro hsettled s hs k f r hr hf ⟨xs, ys, hshows⟩
      exact hkept s hs k f r hr hf xs ys hshows (hsettled _ _)
  exact ⟨hkept, hiff, fun hnone => hiff.2 (Text.settled_of_notMem hnone)⟩

/-- The sigma at the end of a word keeps its form where the word goes on to the left only. -/
theorem shown_text_kept_word :
    (session 7 "ΟΔΟΣ 7").ShowsBetween ['Ο'] (soughtChars " ΔΟΣ") [' ', '7'] ∧
    Text.SameSigmas ['Ο'] (soughtChars " ΔΟΣ") [' ', '7'] ∧
    session 7 "ΟΔΟΣ 7" ∈ (ofSession 7 "ΟΔΟΣ 7").visible .pga " ΔΟΣ" none := by
  have hsought : soughtChars " ΔΟΣ" = ['Δ', 'Ο', 'Σ'] := by decide +kernel
  have hshows : (session 7 "ΟΔΟΣ 7").ShowsBetween ['Ο'] (soughtChars " ΔΟΣ") [' ', '7'] :=
    .inr ⟨_, List.mem_singleton.2 rfl, rfl, by rw [hsought]; decide⟩
  have hsigmas : Text.SameSigmas ['Ο'] (soughtChars " ΔΟΣ") [' ', '7'] := by
    rw [hsought]
    intro u w h
    have hfront : 'Σ' ∉ ['Δ', 'Ο'] := by decide
    obtain ⟨rfl, -, rfl⟩ := (List.append_cons_inj_of_notMem hfront (List.not_mem_nil)).1 h
    decide +kernel
  have hnumbered : (ofSession 7 "ΟΔΟΣ 7").Numbered := numbered_ofSession (by decide) (by decide) _
  exact ⟨hshows, hsigmas, (shown_text_kept " ΔΟΣ").1 _ hnumbered .pga none _
    (List.mem_singleton.2 rfl) rfl ['Ο'] [' ', '7'] hshows hsigmas⟩

/-- The last letter of a word is a sigma of its own kind, and a single sigma is not found there. -/
theorem shown_sigma_hidden : (ofSession 42 "ΟΔΟΣ").Numbered ∧
    (session 42 "ΟΔΟΣ").Shows (soughtChars "Σ") ∧
    (ofSession 42 "ΟΔΟΣ").rows .pga = [session 42 "ΟΔΟΣ"] ∧
    (ofSession 42 "ΟΔΟΣ").visible .pga "Σ" none = [] := by
  refine ⟨numbered_ofSession (by decide) (by decide) _, ?_, rfl, by decide +kernel⟩
  exact ⟨['Ο', 'Δ', 'Ο'], [], .inr ⟨_, List.mem_singleton.2 rfl, rfl, by decide +kernel⟩⟩

end Snapshot

end SnapshotViewer
