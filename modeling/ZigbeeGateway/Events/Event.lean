import ZigbeeGateway.Item
import ZigbeeGateway.ResourceKind

/-!
# Events

An event says that an item was updated and carries the item as it was then.
-/

namespace ZigbeeGateway

/-- The notice that an item was updated. -/
structure Event where
  /-- The container of the resource. -/
  container : ResourceKind
  suffix : String
  resource : ResourceId
  /-- The item as it was. -/
  item : Option Item := none
  deriving DecidableEq, Repr

/-- The event as it is shown. -/
def Event.display (e : Event) : String :=
  e.container.name ++ "/" ++ e.resource.text ++ "/" ++ e.suffix

end ZigbeeGateway
