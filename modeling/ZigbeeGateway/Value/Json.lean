import ZigbeeGateway.Json.Record
import ZigbeeGateway.Value.Basic

/-!
# Values in JSON

Two forms of a value.  The public one writes times without a zone.  The stored one writes times in
the form of RFC 3339; it does not say the kind of a value, so a stored time is read as a text.
-/

namespace ZigbeeGateway.Value

/-- The value of a JSON integer: signed if it fits, else unsigned, else a real number. -/
def ofInt (n : Int) : Value :=
  if -2 ^ 63 ≤ n ∧ n < 2 ^ 63 then .int (Int64.ofInt n)
  else if 0 ≤ n ∧ n < 2 ^ 64 then .uint (UInt64.ofNat n.toNat)
  else .real (Binary64.ofInt n)

/-- The value of a JSON scalar; null, arrays and objects have none. -/
def ofJson? : Json → Option Value
  | .bool b => some (.bool b)
  | .integer n => some (ofInt n)
  | .real x => some (.real x)
  | .string s => some (.text s)
  | .null | .array _ | .object _ => none

/-- A real number in JSON; infinities and what is not a number become null. -/
def realJson (x : Binary64) : Json :=
  if x.isFinite then .real x else .null

/-- The public form. -/
def toJson : Value → Json
  | .bool b => .bool b
  | .int n => .integer n.toInt
  | .uint n => .integer n.toNat
  | .real x => realJson x
  | .text s => .string s
  | .time t => .string (String.ofList t.text)

/-- The stored form. -/
def toStored : Value → Json
  | .time t => .string (String.ofList t.rfc3339Text)
  | v => v.toJson

/-- Reads the stored form. -/
def ofStored? : Json.Document → Option Value
  | .bool b => some (.bool b)
  | .number n =>
    n.value?.map fun
      | .integer n => ofInt n
      | .real x => .real x
  | .string content => content.map .text
  | .null | .array _ | .object _ => none

end ZigbeeGateway.Value
