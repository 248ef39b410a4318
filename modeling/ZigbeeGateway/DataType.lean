import ZigbeeGateway.Powers

/-!
# Data types of items

Every item declares the type of its values.  Integer types have bounds; an enumerated value is
kept as its code, so an enumeration is an unsigned integer type too.
-/

namespace ZigbeeGateway

/-- The declared type of an item. -/
inductive DataType where
  | bool
  | int8
  | int16
  | int32
  | int64
  | uint8
  | uint16
  | uint32
  | uint64
  | real
  | string
  | time
  | enum
  deriving DecidableEq, Repr

namespace DataType

def all : List DataType :=
  [.bool, .int8, .int16, .int32, .int64, .uint8, .uint16, .uint32, .uint64, .real, .string, .time,
    .enum]

def name : DataType → String
  | .bool => "bool"
  | .int8 => "int8"
  | .int16 => "int16"
  | .int32 => "int32"
  | .int64 => "int64"
  | .uint8 => "uint8"
  | .uint16 => "uint16"
  | .uint32 => "uint32"
  | .uint64 => "uint64"
  | .real => "real"
  | .string => "string"
  | .time => "time"
  | .enum => "enum"

/-- The type with a name.  A real type may also be called `double`. -/
def ofName? (s : String) : Option DataType :=
  if s = "double" then some .real else all.find? (·.name = s)

/-- The least and the greatest integer of an integer type. -/
def bounds? : DataType → Option (Int × Int)
  | .int8 => some (-2 ^ 7, 2 ^ 7 - 1)
  | .int16 => some (-2 ^ 15, 2 ^ 15 - 1)
  | .int32 => some (-2 ^ 31, 2 ^ 31 - 1)
  | .int64 => some (-2 ^ 63, 2 ^ 63 - 1)
  | .uint8 => some (0, 2 ^ 8 - 1)
  | .uint16 => some (0, 2 ^ 16 - 1)
  | .uint32 | .enum => some (0, 2 ^ 32 - 1)
  | .uint64 => some (0, 2 ^ 64 - 1)
  | .bool | .real | .string | .time => none

/-- Whether the type is a signed integer type. -/
def isSigned : DataType → Bool
  | .int8 | .int16 | .int32 | .int64 => true
  | _ => false

/-- Whether the type is an integer type. -/
def isInteger (t : DataType) : Bool :=
  t.bounds?.isSome

end DataType

end ZigbeeGateway
