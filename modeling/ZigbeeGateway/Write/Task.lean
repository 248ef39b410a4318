import ZigbeeGateway.Address
import ZigbeeGateway.Resource.Basic

/-!
# Requests and tasks

A request says what to write to a node or to read back from it; an encoder makes a task of it, a
frame that can be queued.
-/

namespace ZigbeeGateway

/-- One item of a request. -/
structure TaskItem where
  suffix : String
  /-- The value to write, or the value that is expected when reading back. -/
  value : Value
  /-- How the write is encoded. -/
  params : Option WriteParameters
  deriving DecidableEq, Repr

/-- What is asked of a node. -/
structure TaskRequest where
  address : ExtAddress
  endpoint : UInt8
  resource : ResourceId
  /-- Whether to write or to read. -/
  action : ChangeAction
  kind : WriteKind
  items : List TaskItem
  deriving DecidableEq, Repr

/-- The request for an action of a state change. -/
def TaskRequest.ofChange (address : ExtAddress) (action : ChangeAction) (c : StateChange) :
    TaskRequest where
  address := address
  endpoint := c.endpoint
  resource := c.resource
  action := action
  kind := c.kind
  items := c.targets.map fun t => ⟨t.suffix, t.value, t.params⟩

/-- A frame for a node. -/
structure Task where
  address : ExtAddress
  endpoint : UInt8
  cluster : UInt16
  /-- The encoded frame. -/
  payload : List UInt8 := []
  deriving DecidableEq, Repr

/-- The cluster of the Tuya protocol. -/
def tuyaCluster : UInt16 := 0xef00

/-- The frame for a request without its payload.  It goes to the cluster of the first item. -/
def Task.ofRequest (r : TaskRequest) : Task where
  address := r.address
  endpoint := r.endpoint
  cluster := ((r.items.head?.bind (·.params)).bind (·.cluster)).getD tuyaCluster

/-- What makes tasks of requests and queues them, by its answers at one time. -/
structure TaskEncoder where
  /-- The task for a request, if the request can be expressed. -/
  build : TaskRequest → Option Task
  /-- Whether the queue takes a task. -/
  accepts : Task → Bool

/-- The encoder that can express nothing. -/
def TaskEncoder.null : TaskEncoder where
  build _ := none
  accepts _ := false

/-- What a vendor encoder makes of a write. -/
inductive VendorReply where
  /-- It does not send it. -/
  | refuse
  /-- It has sent it. -/
  | accept
  /-- It asks to queue a task, and the write is sent if the queue takes it. -/
  | submit (task : Task)
  deriving DecidableEq, Repr

/-- What sends writes to models of one vendor. -/
structure VendorEncoder where
  /-- The pattern under which it is registered. -/
  pattern : String
  /-- What it makes of a write of an item of a resource. -/
  respond : Resource → String → Value → VendorReply

/-- The direction of a frame. -/
inductive Direction where
  | clientToServer
  | serverToClient
  deriving DecidableEq, Repr

/-- A frame that a node has sent. -/
structure Indication where
  source : ExtAddress
  endpoint : UInt8
  cluster : UInt16
  command : UInt8
  direction : Direction
  /-- What follows the header. -/
  payload : List UInt8
  deriving DecidableEq, Repr

/-- The frame of an attribute report. -/
def Indication.report (source : ExtAddress) (endpoint : UInt8) (cluster : UInt16)
    (payload : List UInt8) : Indication :=
  { source, endpoint, cluster, command := 0x0a, direction := .serverToClient, payload }

end ZigbeeGateway
