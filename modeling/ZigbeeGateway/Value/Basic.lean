import ZigbeeGateway.Binary64.Text
import ZigbeeGateway.Time.Text

/-!
# Values

What an item may hold or be offered, before it is fitted to the type of the item.
-/

namespace ZigbeeGateway

/-- A typed value. -/
inductive Value where
  | bool (b : Bool)
  | int (n : Int64)
  | uint (n : UInt64)
  | real (x : Binary64)
  | text (s : String)
  | time (t : Instant)
  deriving DecidableEq, Repr

namespace Value

/-- A short name for the kind of a value. -/
def kindName : Value → String
  | .bool _ => "bool"
  | .int _ => "integer"
  | .uint _ => "unsigned integer"
  | .real _ => "number"
  | .text _ => "string"
  | .time _ => "time"

/-- Whether two values are of one kind and equal; real numbers are compared as numbers. -/
def sameAs : Value → Value → Bool
  | .real x, .real y => x.numEq y
  | v, w => v = w

/-- Real numbers are shown with their shortest digits, the greater of two equally near ones, and
never with an exponent. -/
def realLayout : RealLayout where
  tie := .up
  positional _ := true
  markWhole := false

/-- A value as it is shown to users. -/
def display : Value → String
  | .bool b => if b then "true" else "false"
  | .int n => String.ofList (Text.integerText n.toInt)
  | .uint n => String.ofList (Text.integerText n.toNat)
  | .real x => String.ofList (realLayout.text x)
  | .text s => s
  | .time t => String.ofList t.text

/-- The bound below which a real number may stand for an integer. -/
def integerBound : Nat := 10 ^ 30

/-- The integer that a value denotes, if it denotes one.  A real number does if it is integral and
not too large. -/
def toInt? : Value → Option Int
  | .int n => some n.toInt
  | .uint n => some n.toNat
  | .real x => x.toInt?.filter (·.natAbs < integerBound)
  | _ => none

end Value

end ZigbeeGateway
