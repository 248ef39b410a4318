import ZigbeeGateway.Address

/-!
# Unique ids

A unique id names a resource beyond restarts.  It is the address of the node, then the endpoint and
the cluster as far as there are any, with dashes between them.  The empty id names nothing.
-/

namespace ZigbeeGateway

/-- The unique id of a resource. -/
structure UniqueId where
  text : String
  deriving DecidableEq, Repr

namespace UniqueId

/-- The id that names nothing. -/
def empty : UniqueId := ⟨""⟩

/-- Whether the id names nothing. -/
def isEmpty (u : UniqueId) : Bool :=
  u.text.isEmpty

/-- The characters of a generated id. -/
def generatedChars (address : ExtAddress) (endpoint : UInt8) (cluster : UInt16) : List Char :=
  let endpointChars := '-' :: Text.padded 16 2 endpoint.toNat
  if cluster ≠ 0 then
    address.chars ++ endpointChars ++ '-' :: Text.padded 16 4 cluster.toNat
  else if endpoint ≠ 0 then address.chars ++ endpointChars
  else address.chars

/-- The id of what lives on an endpoint and a cluster of a node, zero standing for none. -/
def generate (address : ExtAddress) (endpoint : UInt8) (cluster : UInt16) : UniqueId :=
  ⟨String.ofList (generatedChars address endpoint cluster)⟩

/-- The characters in front of the first dash. -/
def head (s : List Char) : List Char :=
  s.takeWhile (· ≠ '-')

/-- The characters behind the first dash, if there is one. -/
def tail? (s : List Char) : Option (List Char) :=
  match s.dropWhile (· ≠ '-') with
  | [] => none
  | _ :: rest => some rest

/-- The address of the node, if the first part is one. -/
def address? (u : UniqueId) : Option ExtAddress :=
  (ExtAddress.readChars (head u.text.toList)).toOption

/-- The endpoint, if there is a second part and it is a number of one byte. -/
def endpoint? (u : UniqueId) : Option UInt8 := do
  let rest ← tail? u.text.toList
  let n ← (Text.readNatural 16 255 (head rest)).toOption
  return UInt8.ofNat n

end UniqueId

end ZigbeeGateway
