import ZigbeeGateway.Device

/-!
# The registry

All devices and resources of a gateway.  Numbers are given out once and never again.  What is deleted
stays in the registry but is passed over by every search.
-/

namespace ZigbeeGateway

/-- The devices and resources of a gateway. -/
structure Registry where
  /-- The devices, in the order in which they were added. -/
  devices : List Device := []
  /-- The resources that are no nodes, in the order in which they were added. -/
  resources : List Resource := []
  /-- The next number to give out. -/
  nextId : Nat := 1
  deriving DecidableEq, Repr

namespace Registry

/-! ### Devices -/

/-- The device with an address, deleted or not. -/
def device? (g : Registry) (address : ExtAddress) : Option Device :=
  g.devices.find? (·.address = address)

/-- The devices that are not deleted, in order. -/
def liveDevices (g : Registry) : List Device :=
  g.devices.filter (!·.deleted)

/-- Changes the device with an address. -/
def modifyDevice (g : Registry) (address : ExtAddress) (f : Device → Device) : Registry :=
  { g with devices := g.devices.map fun d => if d.address = address then f d else d }

/-- Changes the node of the device with an address. -/
def modifyNode (g : Registry) (address : ExtAddress) (f : Resource → Resource) : Registry :=
  g.modifyDevice address fun d => { d with node := f d.node }

/-- Adds a device that is not there yet; its node gets the next number. -/
def pushDevice (g : Registry) (d : Device) : Registry :=
  { g with
    devices := g.devices ++ [{ d with node := { d.node with id := ⟨g.nextId⟩ } }]
    nextId := g.nextId + 1 }

/-- Adds a device, unless its address is taken. -/
def addDevice (g : Registry) (d : Device) : Except Error Registry :=
  if (g.device? d.address).isSome then .error (.duplicate d.address.text) else .ok (g.pushDevice d)

/-- Makes sure that there is a device with an address. -/
def ensureDevice (g : Registry) (address : ExtAddress) (created : Instant) : Registry :=
  if (g.device? address).isSome then g else g.pushDevice (.new address created)

/-! ### Resources -/

/-- The resource with a number, deleted or not. -/
def resource? (g : Registry) (id : ResourceId) : Option Resource :=
  g.resources.find? (·.id = id)

/-- The resource with a number, unless it is deleted. -/
def live? (g : Registry) (id : ResourceId) : Option Resource :=
  (g.resource? id).filter (!·.deleted)

/-- The resources that are not deleted, in order. -/
def live (g : Registry) : List Resource :=
  g.resources.filter (!·.deleted)

/-- Changes the resource with a number. -/
def modifyResource (g : Registry) (id : ResourceId) (f : Resource → Resource) : Registry :=
  { g with resources := g.resources.map fun r => if r.id = id then f r else r }

/-- The live resource with a unique id. -/
def byUniqueId? (g : Registry) (uniqueId : UniqueId) : Option Resource :=
  g.resources.find? fun r => !r.deleted && r.uniqueId = uniqueId

/-- Adds a resource under the next number. -/
def pushResource (g : Registry) (r : Resource) : Registry × ResourceId :=
  let id : ResourceId := ⟨g.nextId⟩
  ({ g with resources := g.resources ++ [{ r with id }], nextId := g.nextId + 1 }, id)

/-- Adds a resource, which needs a unique id that no live resource has. -/
def addResource (g : Registry) (r : Resource) : Except Error (Registry × ResourceId) :=
  if r.uniqueId.isEmpty then .error (.value (.rejected Suffix.uniqueId ""))
  else if (g.byUniqueId? r.uniqueId).isSome then .error (.duplicate r.uniqueId.text)
  else .ok (g.pushResource r)

/-- The first live resource on an endpoint of a node whose type begins with a given text. -/
def find? (g : Registry) (address : ExtAddress) (endpoint : UInt8) (typeStart : String) :
    Option Resource :=
  g.resources.find? fun r =>
    !r.deleted && typeStart.toList.isPrefixOf r.typeName.toList &&
      r.uniqueId.address? = some address && r.uniqueId.endpoint? = some endpoint

/-- The live resource that a device links under a unique id. -/
def subDevice? (g : Registry) (address : ExtAddress) (uniqueId : UniqueId) : Option Resource := do
  let d ← g.device? address
  let id ← d.link? uniqueId
  g.live? id

/-- The device that a resource belongs to by its unique id. -/
def owner? (g : Registry) (id : ResourceId) : Option Device := do
  let r ← g.resource? id
  let address ← r.uniqueId.address?
  g.device? address

/-- Whether every item of a node or another resource was set in the range of instants.  A run that
leaves this range has failed as a whole. -/
def stampsInRange (g : Registry) : Bool :=
  g.devices.all (·.node.stampsInRange) && g.resources.all Resource.stampsInRange

/-! ### Deletion -/

/-- Deletes the resource with a number, if it is there. -/
def deleteResource (g : Registry) (id : ResourceId) : Registry :=
  g.modifyResource id fun r => if r.deleted then r else r.markDeleted

/-- Deletes a device and the resources it links, if it is there. -/
def deleteDevice (g : Registry) (address : ExtAddress) : Registry :=
  match g.device? address with
  | none => g
  | some d =>
    d.links.foldl (fun g (_, id) => g.deleteResource id) (g.modifyDevice address Device.markDeleted)

end Registry

end ZigbeeGateway
