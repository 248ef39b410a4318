import ZigbeeGateway.DataType
import ZigbeeGateway.Value.Basic

/-!
# Fitting values to types

`DataType.coerce` gives the one representation of a value in a type, or says why there is none.
Signed types hold signed integers, unsigned types and enumerations unsigned ones, times are cut to
milliseconds.
-/

namespace ZigbeeGateway

/-- Why a value is refused. -/
inductive ValueError where
  /-- The number does not fit the type. -/
  | outOfRange (type : DataType) (actual : String)
  /-- The kind of value does not go with the type. -/
  | typeMismatch (type : DataType) (found : String)
  /-- The text is not a time. -/
  | invalidTime (text : String)
  /-- The label is not one of the labels of the item. -/
  | unknownLabel (label : String)
  /-- The value fits the type of the item and still is not allowed. -/
  | rejected (suffix : String) (value : String)
  deriving DecidableEq, Repr

/-- The error as it is shown to users. -/
def ValueError.message : ValueError → String
  | .outOfRange type actual => "value " ++ actual ++ " is out of range for " ++ type.name
  | .typeMismatch type found => "cannot convert " ++ found ++ " to " ++ type.name
  | .invalidTime text => "invalid time: " ++ text
  | .unknownLabel label => "unknown enumerated value: " ++ label
  | .rejected suffix value => "invalid value " ++ value ++ " for " ++ suffix

namespace DataType

/-- Fits a value to a type with integer bounds. -/
def coerceInteger (t : DataType) (low high : Int) (v : Value) : Except ValueError Value :=
  match v.toInt? with
  | none => .error (.typeMismatch t v.kindName)
  | some n =>
    if low ≤ n ∧ n ≤ high then
      .ok (if t.isSigned then .int (Int64.ofInt n) else .uint (UInt64.ofNat n.toNat))
    else .error (.outOfRange t v.display)

/-- Fits a value to a type. -/
def coerce (t : DataType) (v : Value) : Except ValueError Value :=
  match t.bounds? with
  | some (low, high) => t.coerceInteger low high v
  | none =>
    match t, v with
    | .bool, .bool b => .ok (.bool b)
    | .real, .real x =>
      if x.isFinite then .ok (.real x) else .error (.outOfRange t v.display)
    | .real, .int n => .ok (.real (Binary64.ofInt n.toInt))
    | .real, .uint n => .ok (.real (Binary64.ofInt n.toNat))
    | .string, .text s => .ok (.text s)
    | .time, .time t => .ok (.time t.truncToMillis)
    | .time, .text s =>
      match Instant.read? s.toList with
      | some t => .ok (.time t.truncToMillis)
      | none => .error (.invalidTime s)
    | _, _ => .error (.typeMismatch t v.kindName)

end DataType

end ZigbeeGateway
