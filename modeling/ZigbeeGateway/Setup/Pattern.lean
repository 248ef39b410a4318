import ZigbeeGateway.Description.Constants
import ZigbeeGateway.UniqueId

/-!
# Patterns of unique ids

The unique id of a sub-resource is given by a list: a marker for the address of the node, an endpoint
and possibly a cluster.
-/

namespace ZigbeeGateway.UniqueId

/-- The first entry of a pattern. -/
def addressMarker : String := "$address.ext"

/-- An endpoint in a pattern. -/
def patternEndpoint? (s : String) : Option UInt8 :=
  ((Description.unsigned? s).filter (· < 2 ^ 8)).map UInt8.ofNat

/-- A cluster in a pattern. -/
def patternCluster? (s : String) : Option UInt16 :=
  ((Description.unsigned? s).filter (· < 2 ^ 16)).map UInt16.ofNat

/-- The unique id that a pattern gives for a node; the empty id for what is no pattern. -/
def ofPattern (pattern : List String) (address : ExtAddress) : UniqueId :=
  match pattern with
  | marker :: endpoint :: rest =>
    if marker = addressMarker then
      match patternEndpoint? endpoint, rest with
      | some endpoint, [] => generate address endpoint 0
      | some endpoint, [cluster] =>
        match patternCluster? cluster with
        | some cluster => generate address endpoint cluster
        | none => empty
      | _, _ => empty
    else empty
  | _ => empty

end ZigbeeGateway.UniqueId
