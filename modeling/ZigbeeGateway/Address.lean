import ZigbeeGateway.Powers
import ZigbeeGateway.Text.Integer

/-!
# Extended addresses

The 64-bit address of a node, written as eight pairs of hexadecimal digits with colons between
them.
-/

namespace ZigbeeGateway

/-- The extended address of a node. -/
structure ExtAddress where
  value : UInt64
  deriving DecidableEq, Repr

namespace ExtAddress

/-- The bytes of the address, the most significant first. -/
def bytes (a : ExtAddress) : List Nat :=
  (List.range 8).reverse.map fun i => a.value.toNat / 256 ^ i % 256

/-- The characters of the written form. -/
def chars (a : ExtAddress) : List Char :=
  [':'].intercalate (a.bytes.map (Text.padded 16 2))

def text (a : ExtAddress) : String :=
  String.ofList a.chars

/-- The form for diagnostics, with the address as one hexadecimal number. -/
def diagnosticText (a : ExtAddress) : String :=
  "ExtAddress(0x" ++ String.ofList (Text.padded 16 16 a.value.toNat) ++ ")"

/-- Drops the marks of hexadecimal numbers in front, however often there is one. -/
def dropMarks : List Char → List Char
  | '0' :: 'x' :: rest => dropMarks rest
  | s => s

/-- Reads an address from hexadecimal digits.  Colons may stand anywhere. -/
def readChars (s : List Char) : Except Text.IntegerError ExtAddress :=
  (Text.readNatural 16 (2 ^ 64 - 1) ((dropMarks s).filter (· ≠ ':'))).map fun n =>
    ⟨UInt64.ofNat n⟩

def read (s : String) : Except Text.IntegerError ExtAddress :=
  readChars s.toList

end ExtAddress

end ZigbeeGateway
