import SnapshotViewer.Text.Blank
import SnapshotViewer.Time.Calendar

/-!
# Written dates and times

Two grammars for a date and a time.  A *pattern* lists parts that follow one another; a number
may have blanks in front of it and fewer digits than the pattern foresees.  A *full moment*
writes every digit and ends in its distance from universal time.
-/

namespace SnapshotViewer

/-- The numbers of a written date and time. -/
structure Reading where
  year : Int := 0
  month : Nat := 0
  day : Nat := 0
  hour : Nat := 0
  minute : Nat := 0
  second : Nat := 0
deriving DecidableEq, Repr

namespace Reading

/-- The date, if it exists. -/
def date? (r : Reading) : Option Date :=
  let d : Date := ⟨r.year, r.month, r.day⟩
  if d.IsValid then some d else none

/-- The second of the day; the sixtieth second of a minute counts as the one before it. -/
def clock (r : Reading) : Int := r.hour * 3600 + r.minute * 60 + min r.second 59

/-- The moment, in universal time. -/
def moment? (r : Reading) : Option Int := r.date?.map (·.moment r.clock)

end Reading

/-- A part of a pattern. -/
inductive Part where
  | literal (c : Char)
  | year
  | month
  | day
  | hour
  | minute
  | second
deriving DecidableEq, Repr

/-- Reads one or more digits, at most `limit` of them if there is a limit. -/
def readNumber (limit : Option Nat) (cs : List Char) : Option (Nat × List Char) :=
  let all := cs.takeWhile Char.isDigit
  let digits := match limit with
    | some n => all.take n
    | none => all
  if digits.isEmpty then none
  else some (digits.foldl (fun n c => 10 * n + (c.toNat - '0'.toNat)) 0, cs.drop digits.length)

/-- Reads a number of at most two digits within bounds, and blanks in front of it. -/
def readTwo (low high : Nat) (cs : List Char) : Option (Nat × List Char) := do
  let (n, rest) ← readNumber (some 2) (cs.dropWhile Text.isBlank)
  if low ≤ n ∧ n ≤ high then return (n, rest) else none

/-- Reads a year: four digits, or any number of them behind a sign. -/
def readYear (cs : List Char) : Option (Int × List Char) :=
  match cs.dropWhile Text.isBlank with
  | '-' :: rest => (readNumber none rest).map fun (n, rest) => (-(n : Int), rest)
  | '+' :: rest => (readNumber none rest).map fun (n, rest) => ((n : Int), rest)
  | cs => (readNumber (some 4) cs).map fun (n, rest) => ((n : Int), rest)

namespace Part

/-- Reads a part and puts it to what was read before. -/
def read (r : Reading) (cs : List Char) : Part → Option (Reading × List Char)
  | .literal c =>
    match cs with
    | [] => none
    | d :: rest => if d = c then some (r, rest) else none
  | .year => (readYear cs).map fun (n, rest) => ({ r with year := n }, rest)
  | .month => (readTwo 1 12 cs).map fun (n, rest) => ({ r with month := n }, rest)
  | .day => (readTwo 1 31 cs).map fun (n, rest) => ({ r with day := n }, rest)
  | .hour => (readTwo 0 23 cs).map fun (n, rest) => ({ r with hour := n }, rest)
  | .minute => (readTwo 0 59 cs).map fun (n, rest) => ({ r with minute := n }, rest)
  | .second => (readTwo 0 60 cs).map fun (n, rest) => ({ r with second := n }, rest)

/-- Year, month and day. -/
def date : List Part := [.year, .literal '-', .month, .literal '-', .day]

/-- Hour and minute. -/
def hourMinute : List Part := [.hour, .literal ':', .minute]

/-- Hour, minute and second. -/
def hourMinuteSecond : List Part := hourMinute ++ [.literal ':', .second]

end Part

/-- Reads the parts of a pattern one after another, to the end of the text. -/
def readParts : List Part → Reading → List Char → Option Reading
  | [], r, [] => some r
  | [], _, _ :: _ => none
  | p :: parts, r, cs => do
    let (r, rest) ← p.read r cs
    readParts parts r rest

/-- Reads a text by a pattern. -/
def readPattern (parts : List Part) (cs : List Char) : Option Reading := readParts parts {} cs

/-- Reads exactly `count` digits. -/
def readExactly (count : Nat) (cs : List Char) : Option (Nat × List Char) :=
  let digits := cs.take count
  if digits.length = count ∧ digits.all Char.isDigit then
    some (digits.foldl (fun n c => 10 * n + (c.toNat - '0'.toNat)) 0, cs.drop count)
  else none

/-- Reads a character that satisfies `p`. -/
def readChar (p : Char → Bool) : List Char → Option (List Char)
  | [] => none
  | c :: rest => if p c then some rest else none

/-- Reads two digits within bounds. -/
def readPair (low high : Nat) (cs : List Char) : Option (Nat × List Char) := do
  let (n, rest) ← readExactly 2 cs
  if low ≤ n ∧ n ≤ high then return (n, rest) else none

/-- Passes over the fraction of a second, if there is one; a point asks for a digit. -/
def skipFraction : List Char → Option (List Char)
  | '.' :: rest =>
    match rest.takeWhile Char.isDigit with
    | [] => none
    | digits => some (rest.drop digits.length)
  | cs => some cs

/-- Reads the distance from universal time, in seconds, to the end of the text. -/
def readOffset : List Char → Option Int
  | ['Z'] | ['z'] => some 0
  | sign :: rest => do
    let negative ←
      if sign = '+' then some false
      else if sign = '-' ∨ sign = '−' then some true
      else none
    let (hours, rest) ← readPair 0 23 rest
    let rest ← readChar (· == ':') rest
    let (minutes, rest) ← readPair 0 59 rest
    if rest.isEmpty then
      let seconds : Int := hours * 3600 + minutes * 60
      return if negative then -seconds else seconds
    else none
  | [] => none

/-- Reads a full moment. -/
def readFullMoment (cs : List Char) : Option Int := do
  let (year, cs) ← readExactly 4 cs
  let cs ← readChar (· == '-') cs
  let (month, cs) ← readPair 1 12 cs
  let cs ← readChar (· == '-') cs
  let (day, cs) ← readPair 1 31 cs
  let cs ← readChar (fun c => c == 'T' || c == 't' || c == ' ') cs
  let (hour, cs) ← readPair 0 23 cs
  let cs ← readChar (· == ':') cs
  let (minute, cs) ← readPair 0 59 cs
  let cs ← readChar (· == ':') cs
  let (second, cs) ← readPair 0 60 cs
  let cs ← skipFraction cs
  let offset ← readOffset cs
  let local? := (Reading.mk year month day hour minute second).moment?
  return (← local?) - offset

end SnapshotViewer
