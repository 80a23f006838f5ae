import SnapshotViewer.Json.Decoder
import SnapshotViewer.Number.Word

/-!
# Field values and row identities

A field of a row holds a `Scalar`.  Integers are kept as signed 64-bit numbers wherever those
reach and as unsigned ones beyond, so a number has one form wherever it came from.  Lists and
records are kept as their text.

## Main definitions

* `Scalar`, `Scalar.display`, `Scalar.ofValue`.
* `Scalar.same` — equality of values of one kind.
* `Scalar.agrees` — equality across kinds: a number agrees with its text.
* `EntityId` — what identifies a row.
-/

namespace SnapshotViewer

/-- The value of a field.  A `uint` is greater than every `int`. -/
inductive Scalar where
  | null
  | bool (b : Bool)
  | int (n : Int)
  | uint (n : Nat)
  | float (x : Binary64)
  | text (s : String)
deriving DecidableEq, Repr, Inhabited

/-- What identifies a row in its collection. -/
inductive EntityId where
  | int (n : Int)
  | uint (n : Nat)
  | text (s : String)
deriving DecidableEq, Repr, Inhabited

namespace Scalar

/-- The scalar of an integer. -/
def ofInt (n : Int) : Scalar := if n ≤ int64Max then .int n else .uint n.toNat

/-- The scalar of a machine integer: only what no signed integer holds is kept without a sign. -/
def ofWord : Word → Scalar
  | .int32 v => .int v.toInt
  | .uint32 v => .int v.toNat
  | .int64 v => .int v.toInt
  | .uint64 v => if v.toNat ≤ int64Max then .int v.toNat else .uint v.toNat

/-- The scalar of a document value. -/
def ofValue : Json.Value → Scalar
  | .null => .null
  | .bool b => .bool b
  | .int n => ofInt n
  | .float x => .float x
  | .text s => .text s
  | .array items => .text (Json.Value.array items).compact
  | .object members => .text (Json.Value.object members).compact

/-- Reads a scalar. -/
def decoder : Json.Decoder Scalar := Json.Decoder.value.map ofValue

/-- Whether there is no value. -/
def isNull : Scalar → Bool
  | .null => true
  | _ => false

/-- The text shown for a value. -/
def display : Scalar → String
  | .null => ""
  | .bool b => if b then "true" else "false"
  | .int n => toString n
  | .uint n => toString n
  | .float x => x.plain
  | .text s => s

/-- Equality of values of one kind; numbers compare by what they mean. -/
def same : Scalar → Scalar → Bool
  | .float x, .float y => x.numEq y
  | a, b => a == b

/-- Equality across kinds: values agree when they are the same or are shown alike.  Null agrees
with nothing. -/
def agrees (a b : Scalar) : Bool :=
  !a.isNull && !b.isNull && (a.same b || a.display == b.display)

/-- An integer is shown in decimals, whichever form it is kept in. -/
@[simp] theorem display_ofInt (n : Int) : (ofInt n).display = toString n := by
  unfold ofInt
  split
  · rfl
  · next h =>
    have hnonneg : 0 ≤ n := by
      have hmax : 0 ≤ int64Max := by decide
      omega
    obtain ⟨m, rfl⟩ := Int.eq_ofNat_of_zero_le hnonneg
    rfl

/-- The identity that a value can be; truth values and fractional numbers identify nothing. -/
def toId? : Scalar → Option EntityId
  | .int n => some (.int n)
  | .uint n => some (.uint n)
  | .text s => some (.text s)
  | .null | .bool _ | .float _ => none

theorem same_self (a : Scalar) : a.same a = true := by cases a <;> simp [same]

theorem same_comm (a b : Scalar) : a.same b = b.same a := by
  cases a <;> cases b <;> simp only [same, Binary64.numEq_comm, Bool.beq_comm]

theorem agrees_comm (a b : Scalar) : a.agrees b = b.agrees a := by
  simp only [agrees, same_comm a b, Bool.beq_comm (a := a.display), Bool.and_comm (!a.isNull)]

end Scalar

namespace EntityId

/-- The identity of an integer. -/
def ofInt (n : Int) : EntityId := if n ≤ int64Max then .int n else .uint n.toNat

/-- The identity of a machine integer. -/
def ofWord : Word → EntityId
  | .int32 v => .int v.toInt
  | .uint32 v => .int v.toNat
  | .int64 v => .int v.toInt
  | .uint64 v => if v.toNat ≤ int64Max then .int v.toNat else .uint v.toNat

/-- The value that holds an identity. -/
def toScalar : EntityId → Scalar
  | .int n => .int n
  | .uint n => .uint n
  | .text s => .text s

/-- The text shown for an identity. -/
def display (id : EntityId) : String := id.toScalar.display

@[simp] theorem toId?_toScalar (id : EntityId) : id.toScalar.toId? = some id := by
  cases id <;> rfl

@[simp] theorem toScalar_ofInt (n : Int) : (ofInt n).toScalar = Scalar.ofInt n := by
  unfold ofInt Scalar.ofInt
  split <;> rfl

@[simp] theorem display_ofInt (n : Int) : (ofInt n).display = toString n := by
  rw [display, toScalar_ofInt, Scalar.display_ofInt]

end EntityId

end SnapshotViewer
