import SnapshotViewer.Proofs.EventStream.Spelling

/-!
# Events that follow each other

An empty line ends an event, whatever was written of it: with data it is sent off, and without
data it is dropped together with its name.  Either way the decoder knows no more behind the empty
line than a new one does (`takeLine_emptyLine`).  So a stream that is interrupted by an empty line
is read as two streams, and nothing that stands in front of the line, be it text or not, has any
part in what is read behind it.

## Main definitions

* `EndsInEmptyLine` — some bytes end with an empty line.

## Main statements

* `EndsInEmptyLine.exists_written` — the last whole line of such bytes is empty, and nothing is
  left behind it.
* `feed_of_endsInEmptyLine` — such bytes leave a new decoder as it was.
* `feedAll_of_endsInEmptyLine` — what follows them is read by itself.
-/

namespace SnapshotViewer.FrameDecoder

variable {s t : List UInt8}

/-- Some bytes end with an empty line: in front of its end stands nothing, or the line feed of
another line. -/
def EndsInEmptyLine (s : List UInt8) : Prop :=
  ∃ before, ∃ e : LineEnd, s = before ++ e.carriage ++ [0x0A] ∧
    (before = [] ∨ before.getLast? = some 0x0A)

/-! ## The lines of such bytes -/

/-- Nothing is left unfinished behind a line feed. -/
theorem Written.unfinished_eq_nil {unfinished : List UInt8} {lines : List (List UInt8)}
    (h : Written s lines unfinished) (hs : s = [] ∨ s.getLast? = some 0x0A) : unfinished = [] := by
  rw [← List.getLast?_eq_none_iff]
  cases hlast : unfinished.getLast? with
  | none => rfl
  | some b =>
    -- the last byte of the unfinished line would be the last one of all
    have hall : s.getLast? = some b := by rw [h.bytes_eq, List.getLast?_append, hlast]; rfl
    rcases hs with rfl | hs
    · cases hall
    · obtain rfl : 0x0A = b := Option.some.inj (hs.symm.trans hall)
      exact absurd (List.mem_of_getLast? hlast) h.unfinished_bare

/-- The last whole line is the empty one, and nothing is left behind it. -/
theorem EndsInEmptyLine.exists_written (h : EndsInEmptyLine s) :
    ∃ lines, ∃ e : LineEnd, Written s (lines ++ [e.carriage]) [] := by
  obtain ⟨before, e, rfl, hbefore⟩ := h
  have hwritten := written_cutLines before
  rw [hwritten.unfinished_eq_nil hbefore] at hwritten
  have hline : Written ([] ++ (e.carriage ++ [0x0A])) [e.carriage] [] :=
    ⟨by simp, by simpa using e.carriage_bare, List.not_mem_nil⟩
  refine ⟨(cutLines before).1, e, ?_⟩
  rw [List.append_assoc]
  exact hwritten.append hline

/-! ## What the decoder knows behind them -/

variable (d : FrameDecoder)

/-- An empty line leaves nothing of the event that it ends, whether that is sent off or not. -/
theorem takeLine_emptyLine (e : LineEnd) :
    (d.takeLine (lineText e.carriage).toList).1 = { buffer := d.buffer } := by
  rw [toList_lineText_carriage]
  rfl

/-- Lines that end with an empty one leave nothing either. -/
theorem takeLines_emptyLine (lines : List (List UInt8)) (e : LineEnd) :
    (d.takeLines (lines ++ [e.carriage])).1 = { buffer := (d.takeLines lines).1.buffer } := by
  rw [takeLines_append]
  exact takeLine_emptyLine _ e

/-- A new decoder is as good as new behind an empty line. -/
theorem feed_of_endsInEmptyLine (h : EndsInEmptyLine s) : (feed {} s).1 = {} := by
  obtain ⟨lines, e, hwritten⟩ := h.exists_written
  rw [feed_of_written {} hwritten, takeLines_emptyLine]

/-- What follows an empty line is read as a new decoder reads it, however all is cut into pieces:
the events are those up to the empty line and then those behind it, and what is known at the end is
known from what stands behind it. -/
theorem feedAll_of_endsInEmptyLine (hs : EndsInEmptyLine s) {pieces : List (List UInt8)}
    (hpieces : pieces.flatten = s ++ t) :
    feedAll {} pieces = ((feed {} t).1, (feed {} s).2 ++ (feed {} t).2) := by
  rw [feedAll_eq_feed {} List.not_mem_nil, hpieces, feed_append, feed_of_endsInEmptyLine hs]

/-- In front of the empty line stand a line that is no text, a comment, and an event with two names
and no data.  The cuts are inside the name and inside the end of the empty line. -/
theorem feedAll_of_endsInEmptyLine_garbage :
    let s : List UInt8 := [0xFF, 0xC3, 0x0A] ++ ":\nevent: a\nevent: snapshot\n\r\n".toUTF8.toList
    let t : List UInt8 := "data: y\n\n".toUTF8.toList
    let pieces : List (List UInt8) :=
      [[0xFF, 0xC3, 0x0A] ++ ":\nevent: a\nevent: snap".toUTF8.toList, "shot\n\r".toUTF8.toList,
        "\ndata: y\n\n".toUTF8.toList]
    (EndsInEmptyLine s ∧ pieces.flatten = s ++ t ∧ (feed {} t).2 = [⟨"message", "y"⟩]) ∧
      feedAll {} pieces = ((feed {} t).1, (feed {} s).2 ++ (feed {} t).2) := by
  intro s t pieces
  have hs : EndsInEmptyLine s :=
    ⟨[0xFF, 0xC3, 0x0A] ++ ":\nevent: a\nevent: snapshot\n".toUTF8.toList, .carriageReturn,
      by decide +kernel, .inr (by decide +kernel)⟩
  have hpieces : pieces.flatten = s ++ t := by decide +kernel
  exact ⟨⟨hs, hpieces, by decide +kernel⟩, feedAll_of_endsInEmptyLine hs hpieces⟩

end SnapshotViewer.FrameDecoder
