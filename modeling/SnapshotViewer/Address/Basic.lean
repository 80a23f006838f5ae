import SnapshotViewer.Address.Form
import SnapshotViewer.Collection
import SnapshotViewer.Number.Int64
import SnapshotViewer.Text.Blank

/-!
# Addresses

An address is the part of the navigation state that survives a restart and can be handed to
somebody else: `tab=pgs&view=time&filter=vacuum&timestamp=1739000000`.  What is at its default
is not written, so the empty text is the default address.  Every text can be read: unknown names
are passed over, an unknown tab is the default one, and a malformed number is none.

## Main definitions

* `Address`, `Address.encode`, `Address.decode`.
* `Address.normal` — the address without what its written form does not show.
-/

namespace SnapshotViewer

/-- The name that a timestamp is written under; `pos` is the older one. -/
inductive TimestampKey where
  | timestamp
  | pos
deriving DecidableEq, Repr, Inhabited

/-- The name of a timestamp in addresses. -/
def TimestampKey.name : TimestampKey → String
  | .timestamp => "timestamp"
  | .pos => "pos"

/-- A place to return to. -/
structure Address where
  tab : Collection := .prc
  view : Option String := none
  filter : Option String := none
  timestamp : Option Int := none
  key : TimestampKey := .timestamp
deriving DecidableEq, Repr, Inhabited

/-- A text, unless it is empty. -/
def nonEmpty (s : String) : Option String := if s.isEmpty then none else some s

/-- A number, unless it is zero. -/
def nonZero (n : Int) : Option Int := if n = 0 then none else some n

namespace Address

/-- The address without what its written form does not show. -/
def normal (a : Address) : Address where
  tab := a.tab
  view := a.view.bind nonEmpty
  filter := a.filter.bind nonEmpty
  timestamp := a.timestamp.bind nonZero
  key := if (a.timestamp.bind nonZero).isSome then a.key else .timestamp

/-- The names and values that differ from the default. -/
def pairs (a : Address) : List (String × String) :=
  (if a.tab = .prc then [] else [("tab", a.tab.name)])
  ++ ((a.view.bind nonEmpty).map fun v => ("view", v)).toList
  ++ ((a.filter.bind nonEmpty).map fun f => ("filter", f)).toList
  ++ ((a.timestamp.bind nonZero).map fun t => (a.key.name, toString t)).toList

/-- The written form. -/
def encode (a : Address) : String := Form.render a.pairs

/-- Puts a name and its value into an address; an unknown name changes nothing. -/
def put (a : Address) (name value : String) : Address :=
  if name = "tab" then { a with tab := (Collection.ofName? value).getD .prc }
  else if name = "view" then { a with view := nonEmpty value }
  else if name = "filter" then { a with filter := nonEmpty value }
  else if name = "timestamp" then
    { a with timestamp := (readInt64? value).bind nonZero, key := .timestamp }
  else if name = "pos" then
    { a with timestamp := (readInt64? value).bind nonZero, key := .pos }
  else a

/-- The address that a list of names and values describes; later ones replace earlier ones. -/
def ofPairs (pairs : List (String × String)) : Address :=
  pairs.foldl (fun a p => a.put p.1 p.2) {}

/-- The text without blanks at its ends and without one leading question mark. -/
def bare (s : String) : String :=
  match Text.trimChars s.toList with
  | '?' :: rest => String.ofList rest
  | cs => String.ofList cs

/-- The address that a text describes. -/
def decode (s : String) : Address := ofPairs (Form.parse (bare s))

/-- Whether the written form is empty. -/
def isDefault (a : Address) : Bool := a.encode.isEmpty

end Address

end SnapshotViewer
