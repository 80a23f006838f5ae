import SnapshotViewer.Address.Form

/-!
# Web addresses

The reading of absolute web addresses: a scheme, a host and perhaps a number behind it, a path,
and perhaps a query and a fragment.  Reading brings an address into its usual form: scheme and
host in lower case, the number left out when it is the usual one of the scheme, steps up and down
in the path taken, and characters that are not allowed written as `%` and two hexadecimal digits.

A server may also write an address from where it was asked: by what is different about it.

## Main definitions

* `Url`, `Url.text`, `Url.target`, `Url.place`.
* `Url.read` — reads a web address.
* `Url.join` — reads a web address from where another one leads.
-/

namespace SnapshotViewer

/-- A web address. -/
structure Url where
  scheme : String
  /-- A name and a password in front of the host. -/
  user : Option (String × String) := none
  host : String
  /-- The number behind the host, unless it is the usual one of the scheme. -/
  socket : Option Nat := none
  path : String := "/"
  query : Option String := none
  fragment : Option String := none
deriving DecidableEq, Repr

/-- Why a text is no address of a web server. -/
inductive UrlFault where
  /-- The text is no absolute address. -/
  | unreadable
  /-- The address leads elsewhere. -/
  | unsuitable (url : String)
deriving DecidableEq, Repr

namespace Url

/-- Path and query: what a server is asked for. -/
def target (u : Url) : String :=
  u.path ++ match u.query with
    | some q => "?" ++ q
    | none => ""

/-- The written form, without name and password. -/
def text (u : Url) : String :=
  let socket := match u.socket with
    | some n => ":" ++ toString n
    | none => ""
  let fragment := match u.fragment with
    | some f => "#" ++ f
    | none => ""
  u.scheme ++ "://" ++ u.host ++ socket ++ u.target ++ fragment

/-- The address with names and values added to the query. -/
def withPairs (u : Url) (pairs : List (String × String)) : Url :=
  if pairs.isEmpty then u
  else
    let added := Form.render pairs
    match u.query.bind fun q => if q.isEmpty then none else some q with
    | some q => { u with query := some (q ++ "&" ++ added) }
    | none => { u with query := some added }

/-- The schemes whose addresses have a host and a path, with the usual number behind the host. -/
def usualSockets : List (String × Nat) :=
  [("http", 80), ("https", 443), ("ws", 80), ("wss", 443), ("ftp", 21)]

/-- Whether a byte must not stand for itself in a path. -/
def escapedInPath (b : UInt8) : Bool :=
  b ≤ 0x20 || b ≥ 0x7F || ['"', '#', '<', '>', '?', '`', '{', '}'].any (·.toNat == b.toNat)

/-- Whether a byte must not stand for itself in a query. -/
def escapedInQuery (b : UInt8) : Bool :=
  b ≤ 0x20 || b ≥ 0x7F || ['"', '#', '<', '>', '\''].any (·.toNat == b.toNat)

/-- Whether a byte must not stand for itself in a fragment. -/
def escapedInFragment (b : UInt8) : Bool :=
  b ≤ 0x20 || b ≥ 0x7F || ['"', '<', '>', '`'].any (·.toNat == b.toNat)

/-- A text with some bytes written as `%` and two digits. -/
def escape (escaped : UInt8 → Bool) (cs : List Char) : String :=
  String.ofList <| (Text.encodeChars cs).flatMap fun b =>
    if escaped b then ['%', Form.hexChar (b.toNat / 16), Form.hexChar (b.toNat % 16)]
    else [Char.ofNat b.toNat]

/-- The bytes that a text with `%` and two digits in it stands for. -/
def unescape : List UInt8 → List UInt8
  | [] => []
  | b :: rest =>
    if b = 0x25 then
      match rest with
      | h :: l :: more =>
        match Form.escaped? h l with
        | some c => c :: unescape more
        | none => b :: unescape (h :: l :: more)
      | more => b :: unescape more
    else b :: unescape rest

/-- The parts of a text between separators. -/
def splitAt (separator : Char → Bool) : List Char → List (List Char)
  | [] => [[]]
  | c :: rest =>
    if separator c then [] :: splitAt separator rest
    else
      match splitAt separator rest with
      | [] => [[c]]
      | p :: ps => (c :: p) :: ps

/-- A step of a path in lower case, its dots not escaped. -/
def plainDots (segment : List Char) : String :=
  ((String.ofList segment).toLower).replace "%2e" "."

/-- The path of some steps: `.` stays and `..` goes up.  A last step that goes nowhere leaves a
slash at the end. -/
def resolvePath (steps : List (List Char)) : List String :=
  (steps.zipIdx.foldl (fun up (step, i) =>
    let last := i + 1 = steps.length
    match plainDots step with
    | "." => if last then "" :: up else up
    | ".." => if last then "" :: up.drop 1 else up.drop 1
    | _ => escape escapedInPath step :: up) []).reverse

/-- The path that a text writes. -/
def readPath (cs : List Char) : String :=
  let steps := splitAt (fun c => c == '/' || c == '\\') cs
  let steps := match steps with
    | [] :: rest => rest
    | steps => steps
  "/" ++ String.intercalate "/" (resolvePath steps)

/-- Whether a character cannot occur in the name of a host. -/
def forbiddenInHost (c : Char) : Bool :=
  c.toNat ≤ 0x20 || c.toNat = 0x7F || "#/:<>?@[\\]^|%".toList.contains c

/-- The number that a part of a numeric host writes: decimal, hexadecimal or octal. -/
def hostNumber? (part : List Char) : Option Nat :=
  let digits (base : Nat) (cs : List Char) : Option Nat :=
    cs.foldlM (fun n c => do
      let v ← Form.hexValue? (UInt8.ofNat c.toNat)
      if v < base ∧ c.toNat < 0x80 then some (base * n + v) else none) 0
  match part with
  | [] => none
  | ['0'] => some 0
  | '0' :: 'x' :: cs => digits 16 cs
  | '0' :: cs => digits 8 cs
  | cs => digits 10 cs

/-- Whether a name of a host is numeric: its last part is a number. -/
def isNumericHost (parts : List (List Char)) : Bool :=
  match parts.getLast? with
  | some p =>
    (!p.isEmpty && p.all Char.isDigit)
      || ("0x".toList.isPrefixOf p && (hostNumber? p).isSome)
  | none => false

/-- The four numbers of a numeric host; the last part fills what the others leave. -/
def numericHost? (parts : List (List Char)) : Option String := do
  let numbers ← parts.mapM hostNumber?
  let (last, front) ← match numbers.reverse with
    | last :: front => some (last, front.reverse)
    | [] => none
  guard (front.length ≤ 3 ∧ front.all (· < 256) ∧ last < Nat.pow 256 (4 - front.length))
  let value := front.zipIdx.foldl (fun v (n, i) => v + n * Nat.pow 256 (3 - i)) last
  return String.intercalate "." <|
    [value / 0x1000000, value / 0x10000 % 256, value / 256 % 256, value % 256].map toString

/-- The host that a text writes. -/
def readHost? (cs : List Char) : Option String :=
  match cs with
  | '[' :: rest =>
    let inside := rest.dropLast
    let allowed (c : Char) := c == ':' || c == '.' || (Form.hexValue? (UInt8.ofNat c.toNat)).isSome
    if rest.getLast? = some ']' ∧ inside ≠ [] ∧ inside.all allowed then
      some (String.ofList cs).toLower
    else none
  | _ =>
    let name := (Text.decode (unescape (Text.encodeChars cs))).toLower.toList
    if name.isEmpty || name.any forbiddenInHost then none
    else
      let parts := splitAt (· == '.') name
      let parts := if parts.length > 1 ∧ parts.getLast? = some [] then parts.dropLast else parts
      if isNumericHost parts then numericHost? parts else some (String.ofList name)

/-- The number behind a host that a text writes; the outer `none` stands for a fault. -/
def readSocket? (scheme : String) (cs : List Char) : Option (Option Nat) :=
  match cs with
  | [] => some none
  | ':' :: digits =>
    if digits.isEmpty then some none
    else do
      let n ← digits.foldlM (fun n c =>
        if c.isDigit then some (10 * n + (c.toNat - '0'.toNat)) else none) 0
      guard (n < 0x10000)
      return if usualSockets.lookup scheme = some n then none else some n
  | _ => none

/-- Splits a host and the number behind it. -/
def splitSocket (cs : List Char) : List Char × List Char :=
  match cs with
  | '[' :: _ =>
    let n := (cs.takeWhile (· != ']')).length + 1
    (cs.take n, cs.drop n)
  | _ => (cs.takeWhile (· != ':'), cs.dropWhile (· != ':'))

/-- Name and password, decoded, and what follows the last `@`.  A name that is no text does not
count, nor does a password behind it; a password that is no text counts as empty. -/
def splitUser (cs : List Char) : Option (String × String) × List Char :=
  let host := (cs.reverse.takeWhile (· != '@')).reverse
  if host.length = cs.length then (none, cs)
  else
    let info := cs.take (cs.length - host.length - 1)
    let plain? (cs : List Char) := Text.decode? (unescape (Text.encodeChars cs))
    let name := info.takeWhile (· != ':')
    let password := (plain? (info.drop (name.length + 1))).getD ""
    let user := (plain? name).bind fun name =>
      if name.isEmpty && password.isEmpty then none else some (name, password)
    (user, host)

/-- Splits a text in front of the first character that satisfies `p`. -/
def splitBefore (p : Char → Bool) (cs : List Char) : List Char × List Char :=
  (cs.takeWhile fun c => !p c, cs.dropWhile fun c => !p c)

/-- Splits the scheme off a text. -/
def readScheme? (cs : List Char) : Option (String × List Char) :=
  let name := cs.takeWhile fun c => c.isAlphanum || c == '+' || c == '-' || c == '.'
  match name, cs.drop name.length with
  | c :: _, ':' :: rest =>
    if c.isAlpha then some ((String.ofList name).toLower, rest) else none
  | _, _ => none

/-- Reads what follows the slashes behind the scheme. -/
def readRest? (scheme : String) (cs : List Char) : Option Url := do
  let (authority, cs) := splitBefore (fun c => "/\\?#".toList.contains c) cs
  let (user, authority) := splitUser authority
  let (host, socket) := splitSocket authority
  let host ← readHost? host
  let socket ← readSocket? scheme socket
  let (path, cs) := splitBefore (fun c => c == '?' || c == '#') cs
  let (query, cs) := splitBefore (· == '#') cs
  return {
    scheme, user, host, socket
    path := readPath path
    query := query.head?.map fun _ => escape escapedInQuery (query.drop 1)
    fragment := cs.head?.map fun _ => escape escapedInFragment (cs.drop 1) }

/-- Whether a character does not count at the ends of an address. -/
def isOuter (c : Char) : Bool := c.toNat ≤ 0x20

/-- A text without what does not count in an address. -/
def bareText (s : String) : List Char :=
  ((s.toList.dropWhile isOuter).reverse.dropWhile isOuter).reverse.filter fun c =>
    !(c == '\t' || c == '\n' || c == '\r')

/-- Reads the address of a web server. -/
def read (s : String) : Except UrlFault Url :=
  let cs := bareText s
  match readScheme? cs with
  | none => .error .unreadable
  | some (scheme, rest) =>
    if (usualSockets.lookup scheme).isSome then
      match readRest? scheme (rest.dropWhile fun c => c == '/' || c == '\\') with
      | none => .error .unreadable
      | some u =>
        if scheme = "http" ∨ scheme = "https" then .ok u else .error (.unsuitable u.text)
    else .error (.unsuitable (scheme ++ ":" ++ String.ofList rest))

/-! ## Addresses written from where another one leads -/

/-- The number behind the host, the usual one where none is written. -/
def port? (u : Url) : Option Nat := u.socket.or (usualSockets.lookup u.scheme)

/-- Where connections for an address go. -/
def place (u : Url) : String × Option Nat := (u.host, u.port?)

/-- A path up to its last slash. -/
def folder (path : String) : List Char := (path.toList.reverse.dropWhile (· != '/')).reverse

/-- Reads an address without a scheme.  What it does not write up to its first part is that of
`base`, except name and password, which are not part of a request's address any more. -/
def relative? (base : Url) (cs : List Char) : Option Url :=
  let isSlash (c : Char) := c == '/' || c == '\\'
  match cs.takeWhile isSlash with
  | '/' :: '/' :: _ => readRest? base.scheme (cs.drop 2)
  | _ :: _ :: _ => readRest? base.scheme (cs.dropWhile isSlash)
  | slashes =>
    let (path, cs) := splitBefore (fun c => c == '?' || c == '#') cs
    let (query, cs) := splitBefore (· == '#') cs
    let written := query.head?.map fun _ => escape escapedInQuery (query.drop 1)
    some {
      base with
      user := none
      path :=
        if path.isEmpty then base.path
        else readPath (if slashes.isEmpty then folder base.path ++ path else path)
      query := if path.isEmpty then written.or base.query else written
      fragment := cs.head?.map fun _ => escape escapedInFragment (cs.drop 1) }

/-- Reads the address of a web server from where `base` leads.  The scheme may be written although
the rest is not an address of its own. -/
def join (base : Url) (s : String) : Except UrlFault Url :=
  let relative (cs : List Char) : Except UrlFault Url :=
    match base.relative? cs with
    | some u => .ok u
    | none => .error .unreadable
  match readScheme? (bareText s) with
  | none => relative (bareText s)
  | some (scheme, rest) =>
    let slashes := rest.takeWhile fun c => c == '/' || c == '\\'
    if scheme = base.scheme ∧ slashes.length < 2 then relative rest
    else if (usualSockets.lookup scheme).isNone ∧ !"//".toList.isPrefixOf rest then
      .error .unreadable
    else read s

end Url

end SnapshotViewer
