import ZigbeeGateway.Resource.Basic
import ZigbeeGateway.UniqueId

/-!
# Devices

A device is a physical node.  It has a resource of its own for what concerns the whole node, and
links to the resources of its parts.
-/

namespace ZigbeeGateway

/-- A physical node. -/
structure Device where
  address : ExtAddress
  /-- The resource of the node itself. -/
  node : Resource
  /-- The resources of the parts, by unique id. -/
  links : List (UniqueId × ResourceId) := []
  /-- Whether a description was applied to the device. -/
  managed : Bool := false
  deleted : Bool := false
  deriving DecidableEq, Repr

namespace Device

/-- A device without parts, made at a given time. -/
def new (address : ExtAddress) (created : Instant) : Device :=
  let node := Resource.new .devices "Device" (.generate address 0 0) created
  let extAddress : Item := { suffix := Suffix.extAddress, type := .uint64 }
  let extAddress :=
    { extAddress.setIfFits (.uint address.value) created with isStatic := true }
  let rest : List Item :=
    [{ suffix := Suffix.manufacturerName, type := .string },
      { suffix := Suffix.modelId, type := .string },
      { suffix := Suffix.sleeper, type := .bool }]
  { address, node := (extAddress :: rest).foldl Resource.addItem node }

def uniqueId (d : Device) : UniqueId :=
  d.node.uniqueId

/-- The text of an item of the node; empty without the item. -/
def nodeText (d : Device) (suffix : String) : String :=
  ((d.node.item? suffix).map Item.text).getD ""

/-- The manufacturer; empty if it is not known. -/
def manufacturer (d : Device) : String :=
  d.nodeText Suffix.manufacturerName

/-- The model; empty if it is not known. -/
def modelId (d : Device) : String :=
  d.nodeText Suffix.modelId

/-- Whether the node sleeps and listens only after it has sent something. -/
def isSleeper (d : Device) : Bool :=
  (d.node.item? Suffix.sleeper).any Item.flag

/-- The resource linked under a unique id. -/
def link? (d : Device) (uniqueId : UniqueId) : Option ResourceId :=
  d.links.lookup uniqueId

/-- Links a resource, unless its unique id is linked already. -/
def addLink (d : Device) (uniqueId : UniqueId) (id : ResourceId) : Device :=
  if (d.link? uniqueId).isSome then d else { d with links := d.links ++ [(uniqueId, id)] }

/-- Deletes the device and its node. -/
def markDeleted (d : Device) : Device :=
  { d with deleted := true, node := d.node.markDeleted }

end Device

end ZigbeeGateway
