import SnapshotViewer.Number.Int64
import SnapshotViewer.Time.Pattern

/-!
# Time expressions

What may be typed to name a moment, all in universal time:

* seconds from 1970: `1738944000`,
* a distance from the moment that is shown: `-1h`, `+30m`,
* a date and a time: `2026-02-07T17:00:00`, `2026-02-07:07:00`,
* a time on the day that is shown: `07:00`.
-/

namespace SnapshotViewer

/-- Why an expression names no moment. -/
inductive TimeFault where
  | empty
  /-- A number of seconds that 64 bits do not hold. -/
  | tooLarge
  /-- The distance leads out of the range of moments. -/
  | overflow
  /-- The expression has none of the forms. -/
  | unrecognised
deriving DecidableEq, Repr

/-- The text shown for a fault. -/
def TimeFault.detail : TimeFault → String
  | .empty => "empty input"
  | .tooLarge => "number too large to fit in target type"
  | .overflow => "relative time overflow"
  | .unrecognised =>
    "use 1738944000, -1h, +30m, 2026-02-07T17:00:00, 2026-02-07:07:00 or 07:00"

/-- An expression, without blanks at its ends, and why it names no moment. -/
structure TimeError where
  input : String
  fault : TimeFault
deriving DecidableEq, Repr

/-- The text shown for an error. -/
def TimeError.message (e : TimeError) : String :=
  "Failed to parse time '" ++ e.input ++ "': " ++ e.fault.detail

namespace TimeExpression

/-- The seconds of a unit. -/
def unitSeconds? (c : Char) : Option Int :=
  if c = 's' then some 1
  else if c = 'm' then some 60
  else if c = 'h' then some 3600
  else if c = 'd' then some 86400
  else if c = 'w' then some 604800
  else none

/-- A number, if 64 bits hold it. -/
def within64 (n : Int) : Option Int := if fitsInt64 n then some n else none

/-- The distance that a sign, a number and a unit write. -/
def distance? (cs : List Char) : Option Int := do
  let (sign, rest) ← match cs with
    | '-' :: rest => some ((-1 : Int), rest)
    | '+' :: rest => some (1, rest)
    | _ => none
  let unit ← rest.getLast?
  let number ← (readInt64 rest.dropLast).toOption
  let scale ← unitSeconds? unit
  within64 ((← within64 (number * scale)) * sign)

/-- A clock time of five or eight bytes: `HH:MM` or `HH:MM:SS`. -/
def clock? (cs : List Char) : Option Int :=
  let size := (String.ofList cs).utf8ByteSize
  if size = 5 then (readPattern Part.hourMinute cs).map (·.clock)
  else if size = 8 then (readPattern Part.hourMinuteSecond cs).map (·.clock)
  else none

/-- A date and a time with a `T` between them. -/
def dateTTime? (cs : List Char) : Option Int :=
  if cs.contains 'T' then
    (readFullMoment cs)
    <|> (readPattern (Part.date ++ .literal 'T' :: Part.hourMinuteSecond) cs).bind (·.moment?)
    <|> (readPattern (Part.date ++ .literal 'T' :: Part.hourMinute) cs).bind (·.moment?)
  else none

/-- The first characters of a text that take exactly `count` bytes, and the rest. -/
def splitBytes? : Nat → List Char → Option (List Char × List Char)
  | 0, cs => some ([], cs)
  | _ + 1, [] => none
  | count + 1, c :: rest =>
    if c.utf8Size ≤ count + 1 then
      (splitBytes? (count + 1 - c.utf8Size) rest).map fun (a, b) => (c :: a, b)
    else none
termination_by _ cs => cs.length

/-- A date of ten bytes and a clock time with a colon between them. -/
def dateColonTime? (cs : List Char) : Option Int := do
  let (date, rest) ← splitBytes? 10 cs
  let time ← readChar (· == ':') rest
  let date ← (readPattern Part.date date).bind (·.date?)
  let second ← clock? time
  return date.moment second

/-- A clock time on the day of a moment. -/
def timeOnDayOf? (base : Int) (cs : List Char) : Option Int := do
  let second ← clock? cs
  if hasDate base then return dayOf base * 86400 + second else none

/-- The moment that an expression names, seen from the moment `base`. -/
def evaluate (base : Int) (cs : List Char) : Except TimeFault Int :=
  if cs.isEmpty then .error .empty
  else if cs.all Char.isDigit then
    match readInt64 cs with
    | .ok n => .ok n
    | .error _ => .error .tooLarge
  else
    match distance? cs with
    | some d => if fitsInt64 (base + d) then .ok (base + d) else .error .overflow
    | none =>
      match dateTTime? cs <|> dateColonTime? cs <|> timeOnDayOf? base cs with
      | some ts => .ok ts
      | none => .error .unrecognised

end TimeExpression

/-- The moment that a text names, seen from the moment `base`; blanks at its ends do not
matter. -/
def parseTime (input : String) (base : Int) : Except TimeError Int :=
  let cs := Text.trimChars input.toList
  match TimeExpression.evaluate base cs with
  | .ok ts => .ok ts
  | .error fault => .error ⟨String.ofList cs, fault⟩

end SnapshotViewer
