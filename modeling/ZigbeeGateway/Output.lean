import ZigbeeGateway.Events.Subscriptions
import ZigbeeGateway.Storage
import ZigbeeGateway.Write.Task

/-!
# Outputs

What the gateway asks of its surroundings, as a list in the order in which it asks.
-/

namespace ZigbeeGateway

/-- One thing that leaves the gateway. -/
inductive Output where
  /-- An item is stored. -/
  | stored (uniqueId : UniqueId) (suffix : String)
  /-- A part is linked to its node. -/
  | linked (node part : UniqueId)
  /-- A save is asked for, within so many milliseconds. -/
  | saveScheduled (table : SaveTable) (delay : Nat)
  /-- A task is asked for. -/
  | built (request : TaskRequest)
  /-- A task is queued, or the queue refuses it. -/
  | submitted (task : Task) (accepted : Bool)
  /-- A write is handed to the vendor encoder of a pattern. -/
  | vendorCalled (pattern : String) (resource : ResourceId) (suffix : String) (value : Value)
  /-- A message is pushed to clients. -/
  | pushed (message : Json)
  /-- An event is published. -/
  | published (event : Event)
  /-- An event is delivered to a subscriber. -/
  | delivered (subscription : SubscriptionId) (event : Event)
  /-- A frame is handed to the decoder of its cluster. -/
  | decoded (indication : Indication)
  deriving Repr

/-- An encoder whose answers do not depend on what has left the gateway before. -/
def TaskEncoder.steady (encoder : TaskEncoder) : List Output → TaskEncoder :=
  fun _ => encoder

instance : Coe TaskEncoder (List Output → TaskEncoder) :=
  ⟨TaskEncoder.steady⟩

end ZigbeeGateway
