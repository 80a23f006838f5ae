import SnapshotViewer.EventStream

/-!
# Event streams in pieces

A stream is cut into pieces by the network, in the middle of a character or between the two bytes
of a line end as well as anywhere else.  The decoder keeps the unfinished line for the next piece,
so what it makes of a stream depends on the bytes alone.  Every stream consists of whole lines and
an unfinished one in one way only (`cutLines_eq_iff`), and the decoder makes of it what these
lines say.

## Main definitions

* `Written` — some bytes consist of whole lines and an unfinished one.

## Main statements

* `cutLines_append` — whole lines are found whether or not all bytes are there yet.
* `feed_append` — a piece that is cut in two.
* `feedAll_eq_of_flatten_eq` — two ways of cutting the same stream.
-/

namespace SnapshotViewer.FrameDecoder

/-! ## Bytes and lines -/

/-- Some bytes consist of whole lines, each with its line feed, and of an unfinished line. -/
structure Written (bytes : List UInt8) (lines : List (List UInt8)) (unfinished : List UInt8) :
    Prop where
  bytes_eq : bytes = lines.flatMap (· ++ [0x0A]) ++ unfinished
  lines_bare : ∀ line ∈ lines, 0x0A ∉ line
  unfinished_bare : 0x0A ∉ unfinished

/-- The lines of some bytes, and of more bytes behind them. -/
theorem Written.append {s t unfinished rest : List UInt8} {lines more : List (List UInt8)}
    (h : Written s lines unfinished) (h' : Written (unfinished ++ t) more rest) :
    Written (s ++ t) (lines ++ more) rest where
  bytes_eq := by
    rw [h.bytes_eq, List.append_assoc, h'.bytes_eq, List.flatMap_append, List.append_assoc]
  lines_bare := by
    intro line hline
    rcases List.mem_append.1 hline with hfirst | hlater
    · exact h.lines_bare line hfirst
    · exact h'.lines_bare line hlater
  unfinished_bare := h'.unfinished_bare

theorem cutLines_cons (b : UInt8) (bytes : List UInt8) :
    cutLines (b :: bytes) = prepend b (cutLines bytes) := rfl

/-- Bytes without a line feed are an unfinished line. -/
theorem cutLines_of_notMem {bytes : List UInt8} (h : 0x0A ∉ bytes) :
    cutLines bytes = ([], bytes) := by
  induction bytes with
  | nil => rfl
  | cons b bytes ih =>
    rw [List.mem_cons, not_or] at h
    simp [cutLines_cons, ih h.2, prepend, Ne.symm h.1]

/-- The first line ends at the first line feed. -/
theorem cutLines_line {line : List UInt8} (h : 0x0A ∉ line) (bytes : List UInt8) :
    cutLines (line ++ 0x0A :: bytes) = (line :: (cutLines bytes).1, (cutLines bytes).2) := by
  induction line with
  | nil => simp [cutLines_cons, prepend]
  | cons b line ih =>
    rw [List.mem_cons, not_or] at h
    simp [cutLines_cons, ih h.2, prepend, Ne.symm h.1]

theorem Written.cutLines_eq {bytes unfinished : List UInt8} {lines : List (List UInt8)}
    (h : Written bytes lines unfinished) : cutLines bytes = (lines, unfinished) := by
  obtain ⟨rfl, hlines, hunfinished⟩ := h
  induction lines with
  | nil => exact cutLines_of_notMem hunfinished
  | cons line lines ih =>
    obtain ⟨hline, hlines⟩ := List.forall_mem_cons.1 hlines
    have hbytes : (line :: lines).flatMap (· ++ [0x0A]) ++ unfinished =
        line ++ 0x0A :: (lines.flatMap (· ++ [0x0A]) ++ unfinished) := by simp
    rw [hbytes, cutLines_line hline, ih hlines]

theorem written_prepend {bytes unfinished : List UInt8} {lines : List (List UInt8)}
    (h : Written bytes lines unfinished) (b : UInt8) :
    Written (b :: bytes) (prepend b (lines, unfinished)).1 (prepend b (lines, unfinished)).2 := by
  obtain ⟨rfl, hlines, hunfinished⟩ := h
  by_cases hb : b = 0x0A
  · exact ⟨by simp [prepend, hb], by simpa [prepend, hb] using hlines,
      by simpa [prepend, hb] using hunfinished⟩
  · have hne : ¬(0x0A : UInt8) = b := Ne.symm hb
    cases lines with
    | nil =>
      exact ⟨by simp [prepend, hb], by simp [prepend, hb],
        by simpa [prepend, hb, hne] using hunfinished⟩
    | cons line lines =>
      exact ⟨by simp [prepend, hb], by simpa [prepend, hb, hne] using hlines,
        by simpa [prepend, hb] using hunfinished⟩

theorem written_cutLines (bytes : List UInt8) :
    Written bytes (cutLines bytes).1 (cutLines bytes).2 := by
  induction bytes with
  | nil => exact ⟨rfl, by simp [cutLines], by simp [cutLines]⟩
  | cons b bytes ih => exact written_prepend ih b

/-- Every stream consists of whole lines and an unfinished one in exactly one way. -/
theorem cutLines_eq_iff {bytes unfinished : List UInt8} {lines : List (List UInt8)} :
    cutLines bytes = (lines, unfinished) ↔ Written bytes lines unfinished := by
  refine ⟨fun h => ?_, Written.cutLines_eq⟩
  have hwritten := written_cutLines bytes
  rwa [h] at hwritten

/-- The lines of a stream are those that its first part ends, and then those of the unfinished
line with what follows. -/
theorem cutLines_append (s t : List UInt8) :
    cutLines (s ++ t) = ((cutLines s).1 ++ (cutLines ((cutLines s).2 ++ t)).1,
      (cutLines ((cutLines s).2 ++ t)).2) :=
  ((written_cutLines s).append (written_cutLines _)).cutLines_eq

/-! ## Lines and events -/

variable (d : FrameDecoder)

/-- The bytes that are kept for the next piece have no part in what a line says. -/
theorem takeLine_withBuffer (buffer : List UInt8) (line : List Char) :
    { d with buffer }.takeLine line =
      ({ (d.takeLine line).1 with buffer }, (d.takeLine line).2) := by
  unfold takeLine
  split
  · rfl
  · rfl
  · dsimp only
    split
    · rfl
    · split
      · rfl
      · rfl

theorem takeLines_withBuffer (buffer : List UInt8) (lines : List (List UInt8)) :
    { d with buffer }.takeLines lines =
      ({ (d.takeLines lines).1 with buffer }, (d.takeLines lines).2) := by
  induction lines generalizing d with
  | nil => rfl
  | cons line lines ih => simp only [takeLines, takeLine_withBuffer, ih]

theorem takeLines_append (xs ys : List (List UInt8)) :
    d.takeLines (xs ++ ys) =
      (((d.takeLines xs).1.takeLines ys).1,
        (d.takeLines xs).2 ++ ((d.takeLines xs).1.takeLines ys).2) := by
  induction xs generalizing d with
  | nil => rfl
  | cons line xs ih => simp only [List.cons_append, takeLines, ih, List.append_assoc]

/-! ## Pieces -/

/-- A piece yields the events of the lines that it completes, and the last line is kept. -/
theorem feed_of_written {piece unfinished : List UInt8} {lines : List (List UInt8)}
    (h : Written (d.buffer ++ piece) lines unfinished) :
    d.feed piece =
      ({ (d.takeLines lines).1 with buffer := unfinished }, (d.takeLines lines).2) := by
  simp only [feed, h.cutLines_eq]

/-- A piece that is cut in two yields the events of both. -/
theorem feed_append (s t : List UInt8) :
    d.feed (s ++ t) =
      (((d.feed s).1.feed t).1, (d.feed s).2 ++ ((d.feed s).1.feed t).2) := by
  simp only [feed, ← List.append_assoc, cutLines_append (d.buffer ++ s) t, takeLines_append,
    takeLines_withBuffer]

/-- With nothing but an unfinished line at hand, no bytes change nothing. -/
theorem feed_nil (h : 0x0A ∉ d.buffer) : d.feed [] = (d, []) := by
  have hwritten : Written (d.buffer ++ []) [] d.buffer := ⟨by simp, by simp, h⟩
  simpa [takeLines] using d.feed_of_written hwritten

theorem buffer_feed_bare (piece : List UInt8) : 0x0A ∉ (d.feed piece).1.buffer :=
  (written_cutLines (d.buffer ++ piece)).unfinished_bare

/-- Pieces yield what the uncut stream yields. -/
theorem feedAll_eq_feed (h : 0x0A ∉ d.buffer) (pieces : List (List UInt8)) :
    d.feedAll pieces = d.feed pieces.flatten := by
  induction pieces generalizing d with
  | nil => rw [List.flatten_nil, d.feed_nil h]; rfl
  | cons piece pieces ih =>
    simp only [List.flatten_cons, feed_append, feedAll, ih _ (d.buffer_feed_bare piece)]

/-- Whichever way a stream is cut into pieces, a new decoder makes the same of it: what the whole
lines of the stream say, with the last line unfinished. -/
theorem feedAll_eq_of_flatten_eq {xs ys : List (List UInt8)} (h : xs.flatten = ys.flatten) :
    feedAll {} xs = feedAll {} ys ∧
      ∀ lines unfinished, Written xs.flatten lines unfinished →
        feedAll {} xs =
          ({ (takeLines {} lines).1 with buffer := unfinished }, (takeLines {} lines).2) := by
  have hxs : feedAll {} xs = feed {} xs.flatten := feedAll_eq_feed {} List.not_mem_nil xs
  have hys : feedAll {} ys = feed {} ys.flatten := feedAll_eq_feed {} List.not_mem_nil ys
  refine ⟨by rw [hxs, hys, h], fun lines unfinished hwritten => ?_⟩
  rw [hxs]
  exact feed_of_written {} hwritten

/-- The cuts are in the name of a field, in a character of two bytes, and inside a line end; one
piece is empty. -/
theorem feedAll_eq_of_flatten_eq_umlaut :
    let xs : List (List UInt8) :=
      ["da".toUTF8.toList, [], "ta: ".toUTF8.toList ++ [0xC3], [0xBC, 0x0D],
        [0x0A, 0x0D, 0x0A, 0x69]]
    let ys : List (List UInt8) := ["data: ü\r\n\r\ni".toUTF8.toList]
    let lines : List (List UInt8) := ["data: ü\r".toUTF8.toList, [0x0D]]
    (xs.flatten = ys.flatten ∧ Written xs.flatten lines [0x69] ∧
        feedAll {} ys = ({ buffer := [0x69] }, [⟨"message", "ü"⟩])) ∧
      feedAll {} xs = feedAll {} ys ∧
      feedAll {} xs =
        ({ (takeLines {} lines).1 with buffer := [0x69] }, (takeLines {} lines).2) := by
  intro xs ys lines
  have hflatten : xs.flatten = ys.flatten := by decide +kernel
  have hwritten : Written xs.flatten lines [0x69] :=
    ⟨by decide +kernel, by decide +kernel, by decide +kernel⟩
  obtain ⟨hsame, hlines⟩ := feedAll_eq_of_flatten_eq hflatten
  exact ⟨⟨hflatten, hwritten, by decide +kernel⟩, hsame, hlines lines [0x69] hwritten⟩

end SnapshotViewer.FrameDecoder
