import ZigbeeGateway.Description.Handle
import ZigbeeGateway.Text.Integer
import ZigbeeGateway.Value.Coercion

/-!
# Items

An item is a typed cell with two time stamps: when it was last set, and when its value last changed.
The stamps of accepted sets increase strictly, so the two are equal exactly when the last set changed
the value.

A set at the end of the range of instants may need a stamp that lies behind it.  That is a fault of the
run and not of the value: nothing is refused, and the item shows it by a stamp that is out of range.
-/

namespace ZigbeeGateway

/-- What a set did. -/
inductive SetOutcome where
  /-- The value changed. -/
  | changed
  /-- The value was set again; only the stamp moved. -/
  | unchanged
  /-- The item is static and already set up; nothing was touched. -/
  | ignored
  deriving DecidableEq, Repr

namespace SetOutcome

def name : SetOutcome → String
  | .changed => "changed"
  | .unchanged => "unchanged"
  | .ignored => "ignored"

def isChanged (o : SetOutcome) : Bool :=
  o = .changed

/-- Whether the item was written. -/
def isAccepted (o : SetOutcome) : Bool :=
  o ≠ .ignored

end SetOutcome

/-- A typed, time stamped cell of a resource. -/
structure Item where
  /-- The name of the item within its resource. -/
  suffix : String
  type : DataType
  /-- The value, once there is one. -/
  value : Option Value := none
  /-- When the item was last set. -/
  lastSet : Option Instant := none
  /-- When the value last changed. -/
  lastChanged : Option Instant := none
  /-- Whether the item is shown to clients. -/
  isPublic : Bool := true
  /-- Whether a report of the item means that the node is awake. -/
  awake : Bool := false
  /-- Whether the item is set up once and then kept. -/
  isStatic : Bool := false
  /-- Whether clients have to be told about the item. -/
  needPush : Bool := false
  /-- Seconds between two refreshes. -/
  refreshInterval : Option Nat := none
  /-- The template of the item. -/
  template : Option TemplateHandle := none
  deriving DecidableEq, Repr

namespace Item

/-- The stamp of a set: now, or a microsecond after the previous set if now is not later. -/
def nextStamp (previous : Option Instant) (now : Instant) : Instant :=
  match previous with
  | some t => if t.before now then now else t.addMicrosecond
  | none => now

/-- Whether an item holds a value already. -/
def holds (item : Item) (v : Value) : Bool :=
  item.value.any (·.sameAs v)

/-- Sets the value.  A value that does not fit leaves the item as it is, and so does a set of a
static item that is set up. -/
def set (item : Item) (v : Value) (now : Instant) : Except ValueError (Item × SetOutcome) :=
  match item.type.coerce v with
  | .error e => .error e
  | .ok w =>
    if item.isStatic && item.lastSet.isSome then .ok (item, .ignored)
    else
      let stamp := nextStamp item.lastSet now
      if item.holds w then .ok ({ item with lastSet := some stamp }, .unchanged)
      else
        .ok ({ item with
          value := some w, lastSet := some stamp, lastChanged := some stamp, needPush := true },
          .changed)

/-- Sets the value if it fits and leaves the item as it is otherwise. -/
def setIfFits (item : Item) (v : Value) (now : Instant) : Item :=
  match item.set v now with
  | .ok (item, _) => item
  | .error _ => item

/-- Sets both stamps. -/
def restamp (item : Item) (t : Instant) : Item :=
  { item with lastSet := some t, lastChanged := some t }

/-- Whether the item was set in the range of instants, or not at all. -/
def stampInRange (item : Item) : Bool :=
  item.lastSet.all Instant.inRange

/-- The greatest 64-bit signed integer. -/
def greatest : Int := 2 ^ 63 - 1

/-- The value as an integer; zero for no value and for text that is no integer. -/
def number (item : Item) : Int :=
  match item.value with
  | some (.int n) => n.toInt
  | some (.uint n) => min n.toNat greatest
  | some (.real x) => x.toInt64
  | some (.bool b) => if b then 1 else 0
  | some (.time t) => t.toMillis
  | some (.text s) => ((Text.readInteger 10 (2 ^ 63 - 1) s.toList).toOption).getD 0
  | none => 0

/-- The value as a real number; zero for no value and for text that is no number. -/
def real (item : Item) : Binary64 :=
  match item.value with
  | some (.real x) => x
  | some (.text s) => (Binary64.read? s.toList).getD (Binary64.zero false)
  | _ => Binary64.ofInt item.number

/-- The value as a truth value; false for no value. -/
def flag (item : Item) : Bool :=
  match item.value with
  | some (.bool b) => b
  | some (.text s) => s = "true"
  | some _ => item.number ≠ 0
  | none => false

/-- The value as text; empty for no value. -/
def text (item : Item) : String :=
  (item.value.map Value.display).getD ""

end Item

end ZigbeeGateway
