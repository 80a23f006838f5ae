import Mathlib.Data.List.Forall2
import SnapshotViewer.Proofs.EventStream
import SnapshotViewer.Proofs.Text.Utf8

/-!
# The spellings of an event

An event can be written in many ways.  Its name may come before or after its data and be left out
when it is the default one, comments and fields that mean nothing may stand between its lines, and
each line may end in either of two ways.  The decoder reads all of these spellings as the event,
and nothing of one event gets into the next: behind the empty line that ends an event it knows no
more than a new decoder (`takeLines_rows`).

## Main definitions

* `EventLine`, `LineEnd`, `EventBlock` — lines, their ends, and the lines of an event with the empty
  one.
* `Frame.Writable` — the events that can be written.
* `Frame.SpelledBy` — some lines write an event.

## Main statements

* `takeLine_bytes` — what the decoder keeps of a line.
* `takeLines_rows` — what it makes of the lines of an event.
* `feedAll_of_spelledBy` — whichever way events are spelled and cut into pieces, they are read.
-/

namespace SnapshotViewer

/-- How a line ends. -/
inductive LineEnd where
  | lineFeed
  | carriageReturn
deriving DecidableEq, Repr

/-- What stands between a line and its line feed. -/
def LineEnd.carriage : LineEnd → List UInt8
  | lineFeed => []
  | carriageReturn => [0x0D]

theorem LineEnd.carriage_bare (e : LineEnd) : 0x0A ∉ e.carriage := by
  cases e with
  | lineFeed => exact List.not_mem_nil
  | carriageReturn => decide

/-- A line that can be written between the others of an event. -/
inductive EventLine where
  /-- The name of the event. -/
  | event (name : String)
  /-- A line of its data. -/
  | data (text : String)
  /-- A comment, which need not be text. -/
  | comment (bytes : List UInt8)
  /-- Another field; what stands behind its colon, if there is one, need not be text. -/
  | field (name : String) (value : Option (List UInt8))
deriving DecidableEq, Repr

namespace EventLine

/-- The bytes of a line. -/
def bytes : EventLine → List UInt8
  | event name => Text.encode ("event: " ++ name)
  | data text => Text.encode ("data: " ++ text)
  | comment bytes => Text.encode ":" ++ bytes
  | field name none => Text.encode name
  | field name (some value) => Text.encode (name ++ ":") ++ value

/-- The name that a line gives to the event. -/
def name? : EventLine → Option String
  | event name => some name
  | _ => none

/-- The line that is added to the data. -/
def text? : EventLine → Option String
  | data text => some text
  | _ => none

/-- Comments and other fields hold no end of a line, and the other fields are neither of the two
that mean something. -/
def Idle : EventLine → Prop
  | comment bytes => 0x0A ∉ bytes ∧ 0x0D ∉ bytes
  | field name value =>
    (name ≠ "" ∧ name ≠ "event" ∧ name ≠ "data") ∧
      (':' ∉ name.toList ∧ '\n' ∉ name.toList ∧ '\r' ∉ name.toList) ∧
      ∀ bytes ∈ value, 0x0A ∉ bytes ∧ 0x0D ∉ bytes
  | _ => True

end EventLine

/-- The lines of an event, each with its end, and the end of the empty line behind them. -/
structure EventBlock where
  lines : List (EventLine × LineEnd)
  close : LineEnd
deriving DecidableEq, Repr

namespace EventBlock

/-- The lines as they stand between the line feeds. -/
def rows (b : EventBlock) : List (List UInt8) :=
  b.lines.map (fun line => line.1.bytes ++ line.2.carriage) ++ [b.close.carriage]

/-- The bytes of an event. -/
def bytes (b : EventBlock) : List UInt8 := b.rows.flatMap (· ++ [0x0A])

end EventBlock

namespace Frame

/-- The events that can be written: they have a name, the name is one line, and the data holds
nothing that would get lost at the end of a line. -/
structure Writable (f : Frame) : Prop where
  event_ne : f.event ≠ ""
  event_bare : '\n' ∉ f.event.toList ∧ '\r' ∉ f.event.toList
  data_bare : '\r' ∉ f.data.toList

/-- The lines of the data of an event. -/
def dataLines (f : Frame) : List String := (f.data.toList.splitOn '\n').map String.ofList

/-- Some lines write an event: one of them gives it its name, or none if it has the default one,
and those with its data come in order. -/
structure SpelledBy (f : Frame) (b : EventBlock) : Prop where
  event : b.lines.filterMap (·.1.name?) = [f.event] ∨
    f.event = "message" ∧ b.lines.filterMap (·.1.name?) = []
  data : b.lines.filterMap (·.1.text?) = f.dataLines
  idle : ∀ line ∈ b.lines, line.1.Idle

end Frame

/-! ## The lines of the data -/

/-- What a list is cut into holds no separator and nothing that the list does not hold. -/
theorem mem_of_mem_splitOn {α : Type} [BEq α] [LawfulBEq α] {sep : α} {xs part : List α}
    (h : part ∈ xs.splitOn sep) {a : α} (ha : a ∈ part) : a ∈ xs ∧ a ≠ sep := by
  induction xs generalizing part with
  | nil =>
    rw [List.splitOn_nil, List.mem_singleton] at h
    simp [h] at ha
  | cons x xs ih =>
    rw [List.splitOn, List.splitOnP_cons_eq_if_modifyHead] at h
    by_cases hx : x = sep
    · -- a separator ends an empty part
      simp only [hx, beq_self_eq_true, if_true, List.mem_cons] at h
      rcases h with rfl | h
      · cases ha
      · obtain ⟨hmem, hne⟩ := ih h ha
        exact ⟨List.mem_cons_of_mem x hmem, hne⟩
    · rw [if_neg (by simpa using hx)] at h
      obtain ⟨first, rest, hparts⟩ := List.exists_cons_of_ne_nil (List.splitOn_ne_nil sep xs)
      rw [← List.splitOn, hparts, List.modifyHead_cons, List.mem_cons] at h
      rcases h with rfl | h
      · rcases List.mem_cons.1 ha with rfl | ha
        · exact ⟨List.mem_cons_self, hx⟩
        · obtain ⟨hmem, hne⟩ := ih (by simp [hparts]) ha
          exact ⟨List.mem_cons_of_mem x hmem, hne⟩
      · obtain ⟨hmem, hne⟩ := ih (by simp [hparts, h]) ha
        exact ⟨List.mem_cons_of_mem x hmem, hne⟩

namespace Frame
variable {f : Frame}

theorem dataLines_ne_nil (f : Frame) : f.dataLines ≠ [] := by
  simp [dataLines, List.splitOn_ne_nil]

/-- The lines of the data make up the data. -/
theorem intercalate_dataLines (f : Frame) : String.intercalate "\n" f.dataLines = f.data := by
  rw [← String.toList_inj, String.toList_intercalate, dataLines, List.map_map]
  have hlines : (f.data.toList.splitOn '\n').map (String.toList ∘ String.ofList) =
      f.data.toList.splitOn '\n' := by simp
  rw [hlines]
  exact List.intercalate_splitOn '\n'

theorem Writable.dataLine_bare (h : f.Writable) {text : String} (htext : text ∈ f.dataLines) :
    '\n' ∉ text.toList ∧ '\r' ∉ text.toList := by
  obtain ⟨part, hpart, rfl⟩ := List.mem_map.1 htext
  rw [String.toList_ofList]
  constructor
  · intro hmem
    exact (mem_of_mem_splitOn hpart hmem).2 rfl
  · intro hmem
    exact h.data_bare (mem_of_mem_splitOn hpart hmem).1

end Frame

/-! ## One line -/

namespace FrameDecoder
variable (d : FrameDecoder)

theorem takeWhile_append_of_bare {name : List Char} (h : ':' ∉ name) (rest : List Char) :
    (name ++ rest).takeWhile (· != ':') = name ++ rest.takeWhile (· != ':') := by
  apply List.takeWhile_append_of_pos
  intro c hc
  simpa using ne_of_mem_of_not_mem hc h

/-- The name of a field ends at its first colon. -/
theorem splitField_of_colon {name : List Char} (h : ':' ∉ name) (value : List Char) :
    splitField (name ++ ':' :: value) =
      (name, if value.head? = some ' ' then value.tail else value) := by
  have hname : (name ++ ':' :: value).takeWhile (· != ':') = name := by
    simp [takeWhile_append_of_bare h]
  have hvalue : (name ++ ':' :: value).drop (name.length + 1) = value := by simp
  rw [splitField, hname, hvalue]
  cases value with
  | nil => rfl
  | cons c value =>
    by_cases hc : c = ' '
    · simp [hc]
    · simp [hc]

/-- Without a colon the whole line is the name. -/
theorem splitField_of_bare {name : List Char} (h : ':' ∉ name) : splitField name = (name, []) := by
  have hname : name.takeWhile (· != ':') = name := by simpa using takeWhile_append_of_bare h []
  have hvalue : name.drop (name.length + 1) = [] := by simp
  rw [splitField, hname, hvalue]

/-- A line with a name is a field. -/
theorem takeLine_of_name {line name value : List Char} (hline : splitField line = (name, value))
    (hname : name ≠ []) : d.takeLine line =
      if name = "event".toList then ({ d with event := some (String.ofList value) }, none)
      else if name = "data".toList then ({ d with data := d.data ++ [String.ofList value] }, none)
      else (d, none) := by
  cases line with
  | nil =>
    have hnil : name = [] := by simpa [splitField] using (congrArg Prod.fst hline).symm
    exact absurd hnil hname
  | cons c rest =>
    by_cases hc : c = ':'
    · subst hc
      have hnil : name = [] := by
        rw [← List.nil_append (':' :: rest), splitField_of_colon List.not_mem_nil] at hline
        exact (congrArg Prod.fst hline).symm
      exact absurd hnil hname
    · unfold takeLine
      split
      · next h => cases h
      · next h => cases h; exact absurd rfl hc
      · rw [hline]

/-- What is kept of a line that is written between the others of an event. -/
def keep : EventLine → FrameDecoder
  | .event name => { d with event := some name }
  | .data text => { d with data := d.data ++ [text] }
  | _ => d

theorem takeLine_bytes {line : EventLine} (h : line.Idle) :
    d.takeLine (Text.decode line.bytes).toList = (d.keep line, none) := by
  cases line with
  | event name =>
    have hline : ("event: " ++ name).toList = "event".toList ++ ':' :: (' ' :: name.toList) := by
      simp
    have hbare : ':' ∉ "event".toList := by decide
    have hsplit := splitField_of_colon hbare (' ' :: name.toList)
    rw [EventLine.bytes, Text.decode_encode, hline, d.takeLine_of_name hsplit (by decide)]
    simp [keep]
  | data text =>
    have hline : ("data: " ++ text).toList = "data".toList ++ ':' :: (' ' :: text.toList) := by
      simp
    have hbare : ':' ∉ "data".toList := by decide
    have hsplit := splitField_of_colon hbare (' ' :: text.toList)
    rw [EventLine.bytes, Text.decode_encode, hline, d.takeLine_of_name hsplit (by decide)]
    simp [keep]
  | comment bytes =>
    rw [EventLine.bytes, Text.decode_encode_append, String.toList_append]
    rfl
  | field name value =>
    obtain ⟨⟨hempty, hevent, hdata⟩, ⟨hcolon, -⟩, -⟩ := h
    have hne : name.toList ≠ [] := by simpa using hempty
    have hnevent : name.toList ≠ "event".toList := fun h => hevent (String.toList_inj.1 h)
    have hndata : name.toList ≠ "data".toList := fun h => hdata (String.toList_inj.1 h)
    have hkept : ∀ {line rest}, splitField line = (name.toList, rest) →
        d.takeLine line = (d, none) := by
      intro line rest hsplit
      rw [d.takeLine_of_name hsplit hne, if_neg hnevent, if_neg hndata]
    cases value with
    | none =>
      rw [EventLine.bytes, Text.decode_encode]
      exact hkept (splitField_of_bare hcolon)
    | some value =>
      have hline : (name ++ ":" ++ Text.decode value).toList =
          name.toList ++ ':' :: (Text.decode value).toList := by simp
      rw [EventLine.bytes, Text.decode_encode_append, hline]
      exact hkept (splitField_of_colon hcolon _)

/-- A carriage return in front of the line feed does not count. -/
theorem lineText_carriage {bytes : List UInt8} (h : 0x0D ∉ bytes) (e : LineEnd) :
    lineText (bytes ++ e.carriage) = Text.decode bytes := by
  cases e with
  | lineFeed =>
    have hlast : bytes.getLast? ≠ some 0x0D := fun hlast => h (List.mem_of_getLast? hlast)
    simp [lineText, LineEnd.carriage, hlast]
  | carriageReturn => simp [lineText, LineEnd.carriage]

/-- A line of which there is nothing but its end has no text. -/
theorem toList_lineText_carriage (e : LineEnd) : (lineText e.carriage).toList = [] := by
  rw [← List.nil_append e.carriage, lineText_carriage List.not_mem_nil, Text.decode]
  simp [Text.scan]

end FrameDecoder

/-! ## The lines of an event -/

/-- A text that is one line has no byte of a line end. -/
theorem encode_bare {s : String} (h : '\n' ∉ s.toList ∧ '\r' ∉ s.toList) :
    0x0A ∉ Text.encode s ∧ 0x0D ∉ Text.encode s :=
  ⟨Text.notMem_encode (by decide) h.1, Text.notMem_encode (by decide) h.2⟩

/-- The lines that write an event hold no byte of a line end. -/
theorem Frame.SpelledBy.bare {f : Frame} {b : EventBlock} (h : f.SpelledBy b) (hf : f.Writable)
    {line : EventLine × LineEnd} (hline : line ∈ b.lines) :
    0x0A ∉ line.1.bytes ∧ 0x0D ∉ line.1.bytes := by
  have hidle := h.idle line hline
  obtain ⟨line, e⟩ := line
  cases line with
  | event name =>
    have hname : name ∈ b.lines.filterMap (·.1.name?) := List.mem_filterMap.2 ⟨_, hline, rfl⟩
    have hevent : name = f.event := by
      rcases h.event with hnames | ⟨-, hnames⟩
      · simpa [hnames] using hname
      · simp [hnames] at hname
    apply encode_bare
    simpa [hevent] using hf.event_bare
  | data text =>
    have htext : text ∈ b.lines.filterMap (·.1.text?) := List.mem_filterMap.2 ⟨_, hline, rfl⟩
    rw [h.data] at htext
    apply encode_bare
    simpa using hf.dataLine_bare htext
  | comment bytes =>
    have hcolon : 0x0A ∉ Text.encode ":" ∧ 0x0D ∉ Text.encode ":" := encode_bare (by decide)
    simp [EventLine.bytes, hcolon, hidle.1, hidle.2]
  | field name value =>
    obtain ⟨-, ⟨-, hname⟩, hvalue⟩ := hidle
    cases value with
    | none => exact encode_bare hname
    | some value =>
      have hbare : 0x0A ∉ Text.encode (name ++ ":") ∧ 0x0D ∉ Text.encode (name ++ ":") :=
        encode_bare (by simpa using hname)
      simp [EventLine.bytes, hbare, hvalue value rfl]

namespace FrameDecoder

/-- Lines that are written between each other give the event the last name among them, and their
data is added to it. -/
theorem takeLines_lines (d : FrameDecoder) {lines : List (EventLine × LineEnd)}
    (hidle : ∀ line ∈ lines, line.1.Idle) (hbare : ∀ line ∈ lines, 0x0D ∉ line.1.bytes) :
    d.takeLines (lines.map fun line => line.1.bytes ++ line.2.carriage) =
      ({ d with
          event := (lines.filterMap (·.1.name?)).getLast?.or d.event
          data := d.data ++ lines.filterMap (·.1.text?) }, []) := by
  induction lines generalizing d with
  | nil => simp [takeLines]
  | cons line lines ih =>
    obtain ⟨hidle, hidles⟩ := List.forall_mem_cons.1 hidle
    obtain ⟨hbare, hbares⟩ := List.forall_mem_cons.1 hbare
    rw [List.map_cons, takeLines, lineText_carriage hbare, d.takeLine_bytes hidle]
    dsimp only
    rw [ih _ hidles hbares]
    obtain ⟨line, e⟩ := line
    cases line with
    | event name =>
      simp [keep, EventLine.name?, EventLine.text?, List.getLast?_cons]
    | data text => simp [keep, EventLine.name?, EventLine.text?]
    | comment bytes => simp [keep, EventLine.name?, EventLine.text?]
    | field name value => simp [keep, EventLine.name?, EventLine.text?]

/-- An empty line sends the event off under the name that it was given, or under the default
one. -/
theorem dispatch_of_dataLines {f : Frame} (hf : f.Writable) {event : Option String}
    (h : event = some f.event ∨ f.event = "message" ∧ event = none) :
    dispatch { event, data := f.dataLines } = ({}, some f) := by
  rcases h with rfl | ⟨hdefault, rfl⟩
  · simp [dispatch, hf.event_ne, f.dataLines_ne_nil, f.intercalate_dataLines]
  · simp [dispatch, defaultEvent, ← hdefault, f.dataLines_ne_nil, f.intercalate_dataLines]

/-- The lines of an event, with the empty one, yield the event, and nothing of it is kept. -/
theorem takeLines_rows {f : Frame} {b : EventBlock} (hf : f.Writable) (h : f.SpelledBy b) :
    takeLines {} b.rows = ({}, [f]) := by
  have hlines := takeLines_lines {} h.idle fun line hline => (h.bare hf hline).2
  have hevent : (b.lines.filterMap (·.1.name?)).getLast? = some f.event ∨
      f.event = "message" ∧ (b.lines.filterMap (·.1.name?)).getLast? = none := by
    rcases h.event with hnames | ⟨hdefault, hnames⟩
    · exact .inl (by rw [hnames]; rfl)
    · exact .inr ⟨hdefault, by rw [hnames]; rfl⟩
  rw [EventBlock.rows, takeLines_append, hlines, takeLines, toList_lineText_carriage, takeLine,
    h.data, Option.or_none, List.nil_append, dispatch_of_dataLines hf hevent]
  rfl

/-- The bytes of an event consist of its lines. -/
theorem written_rows {f : Frame} {b : EventBlock} (hf : f.Writable) (h : f.SpelledBy b) :
    Written b.bytes b.rows [] := by
  refine ⟨by rw [EventBlock.bytes, List.append_nil], ?_, List.not_mem_nil⟩
  intro row hrow
  rcases List.mem_append.1 hrow with hrow | hrow
  · obtain ⟨line, hline, rfl⟩ := List.mem_map.1 hrow
    simp [(h.bare hf hline).1, LineEnd.carriage_bare]
  · rw [List.mem_singleton.1 hrow]
    exact b.close.carriage_bare

/-- Several events one after the other: their bytes consist of the lines of each. -/
theorem written_blocks {frames : List Frame} {blocks : List EventBlock}
    (hframes : ∀ f ∈ frames, f.Writable) (h : List.Forall₂ Frame.SpelledBy frames blocks) :
    Written (blocks.flatMap EventBlock.bytes) (blocks.flatMap EventBlock.rows) [] := by
  induction h with
  | nil => exact ⟨rfl, by simp, by simp⟩
  | @cons f b frames blocks hspelled _ ih =>
    obtain ⟨hf, hframes⟩ := List.forall_mem_cons.1 hframes
    exact (written_rows hf hspelled).append (ih hframes)

/-- Each of them is read, and what was read before it is forgotten. -/
theorem takeLines_blocks {frames : List Frame} {blocks : List EventBlock}
    (hframes : ∀ f ∈ frames, f.Writable) (h : List.Forall₂ Frame.SpelledBy frames blocks) :
    takeLines {} (blocks.flatMap EventBlock.rows) = ({}, frames) := by
  induction h with
  | nil => rfl
  | @cons f b frames blocks hspelled _ ih =>
    obtain ⟨hf, hframes⟩ := List.forall_mem_cons.1 hframes
    rw [List.flatMap_cons, takeLines_append, takeLines_rows hf hspelled, ih hframes]
    rfl

/-- Whichever way some events are spelled, and however the network cuts their bytes, a new decoder
yields these events and is as good as new behind them. -/
theorem feedAll_of_spelledBy {frames : List Frame} {blocks : List EventBlock}
    {pieces : List (List UInt8)} (hframes : ∀ f ∈ frames, f.Writable)
    (hspelled : List.Forall₂ Frame.SpelledBy frames blocks)
    (hpieces : pieces.flatten = blocks.flatMap EventBlock.bytes) :
    feedAll {} pieces = ({}, frames) := by
  have hwritten : Written ([] ++ pieces.flatten) (blocks.flatMap EventBlock.rows) [] := by
    rw [List.nil_append, hpieces]
    exact written_blocks hframes hspelled
  rw [feedAll_eq_feed {} List.not_mem_nil, feed_of_written {} hwritten,
    takeLines_blocks hframes hspelled]

/-- The first event has its name behind its data, a comment that is no text and another field; its
data starts with a blank and ends with an empty line.  The second one has no line with its name and
no data but an empty line. -/
theorem feedAll_of_spelledBy_two :
    let frames : List Frame := [⟨"snapshot", " a:\n"⟩, ⟨"message", ""⟩]
    let blocks : List EventBlock :=
      [⟨[(.comment [0xFF], .lineFeed), (.data " a:", .carriageReturn),
          (.event "snapshot", .lineFeed), (.field "id" (some [0x37]), .carriageReturn),
          (.data "", .lineFeed)], .carriageReturn⟩,
        ⟨[(.field "retry" none, .lineFeed), (.data "", .carriageReturn)], .lineFeed⟩]
    let pieces : List (List UInt8) :=
      [[0x3A, 0xFF, 0x0A], "data:  a:\r".toUTF8.toList,
        "\nevent: snapshot\nid:7\r\ndata: \n\r\nretry\nda".toUTF8.toList,
        "ta: \r\n\n".toUTF8.toList]
    ((∀ f ∈ frames, f.Writable) ∧ List.Forall₂ Frame.SpelledBy frames blocks ∧
        pieces.flatten = blocks.flatMap EventBlock.bytes) ∧
      feedAll {} pieces = ({}, frames) := by
  intro frames blocks pieces
  have hframes : ∀ f ∈ frames, f.Writable := by
    have hfirst : Frame.Writable ⟨"snapshot", " a:\n"⟩ := ⟨by decide, by decide, by decide⟩
    have hsecond : Frame.Writable ⟨"message", ""⟩ := ⟨by decide, by decide, by decide⟩
    simp [frames, hfirst, hsecond]
  have hspelled : List.Forall₂ Frame.SpelledBy frames blocks := by
    refine .cons ⟨.inl rfl, rfl, ?_⟩ (.cons ⟨.inr ⟨rfl, rfl⟩, rfl, ?_⟩ .nil)
    · simp [EventLine.Idle]
    · simp [EventLine.Idle]
  have hpieces : pieces.flatten = blocks.flatMap EventBlock.bytes := by decide +kernel
  exact ⟨⟨hframes, hspelled, hpieces⟩, feedAll_of_spelledBy hframes hspelled hpieces⟩

end FrameDecoder

end SnapshotViewer
