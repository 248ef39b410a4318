import ZigbeeGateway.Gateway.Derived

/-!
# Writes and ticks

A write is planned, sent or kept, and held by the item at once.  Ticks move the pending changes of all
live resources on and send what they ask for.
-/

namespace ZigbeeGateway

/-- What became of a write. -/
inductive WriteOutcome where
  /-- The item holds the value. -/
  | applied
  /-- The item holds the value until the device confirms it or time runs out. -/
  | pending
  deriving DecidableEq, Repr

def WriteOutcome.name : WriteOutcome → String
  | .applied => "applied"
  | .pending => "pending"

/-- Moves the pending changes of a resource on and gives the requests that are due.  Without an
address to send to nothing moves. -/
def Resource.dueRequests (r : Resource) (now : Instant) : Resource × List TaskRequest :=
  if r.changes.isEmpty then (r, [])
  else
    match r.uniqueId.address? with
    | none => (r, [])
    | some address =>
      let (r, actions) := r.tickChanges now
      (r, actions.map fun (action, c) => TaskRequest.ofChange address action c)

namespace Gateway

/-! ### Sending -/

/-- Queues a task and says whether the queue takes it. -/
def submitTask (g : Gateway) (task : Task) : Gateway × Bool :=
  let accepted := g.encoderNow.accepts task
  (g.emit [.submitted task accepted], accepted)

/-- Has a task made of a request and queues it.  Says whether there is a task and the queue takes
it. -/
def send (g : Gateway) (request : TaskRequest) : Gateway × Bool :=
  let asked := g.emit [.built request]
  match g.encoderNow.build request with
  | none => (asked, false)
  | some task => asked.submitTask task

/-- Sends requests and counts those that were queued. -/
def sendAll (g : Gateway) : List TaskRequest → Gateway × Nat
  | [] => (g, 0)
  | request :: rest =>
    let (g, sent) := g.send request
    let (g, count) := g.sendAll rest
    (g, (if sent then 1 else 0) + count)

/-- Sends what the pending changes of one resource ask for. -/
def issuePending (g : Gateway) (id : ResourceId) : Gateway :=
  match g.registry.resource? id with
  | none => g
  | some r =>
    let (r, requests) := r.dueRequests g.now
    ((g.modifyResource id fun _ => r).sendAll requests).1

/-- Moves the pending changes of all live resources on, sends what they ask for, and gives the number
of tasks that were queued. -/
def tick (g : Gateway) : Gateway × Nat :=
  let requests := g.registry.live.flatMap fun r => (r.dueRequests g.now).2
  let resources := g.registry.resources.map fun r =>
    if r.deleted then r else (r.dueRequests g.now).1
  (g.mapRegistry fun registry => { registry with resources }).sendAll requests

/-! ### Vendors -/

/-- The model that decides on the vendor encoder: the one of the device, else of the resource. -/
def vendorModel (r : Resource) (device : Option Device) : String :=
  ((device.map Device.modelId).or ((r.item? Suffix.modelId).map Item.text)).getD ""

/-- Hands a planned write to the vendor encoder for the model and says whether it was sent. -/
def sendVendor (g : Gateway) (r : Resource) (device : Option Device) (plan : WritePlan) :
    Gateway × Bool :=
  let (vendors, encoder) := g.vendors.resolve (vendorModel r device)
  let g := { g with vendors }
  match encoder with
  | none => (g, false)
  | some encoder =>
    let g := g.emit [.vendorCalled encoder.pattern r.id plan.suffix plan.value]
    match encoder.respond r plan.suffix plan.value with
    | .refuse => (g, false)
    | .accept => (g, true)
    | .submit task => g.submitTask task

/-! ### Writing -/

/-- The state change that follows a managed write.  Timeouts that the template does not state are
those of the configuration. -/
def changeFor (g : Gateway) (id : ResourceId) (plan : WritePlan) (w : ManagedWrite) : StateChange :=
  let c := StateChange.new id w.kind w.endpoint g.now
  { c with
    stateTimeout := (w.params.stateTimeout.map (1000 * ·)).getD g.config.stateTimeout
    changeTimeout := (w.params.changeTimeout.map (1000 * ·)).getD g.config.changeTimeout
    targets :=
      [{ suffix := plan.suffix, value := plan.value, previous := plan.previous,
         params := some w.params }] }

/-- Queues a state change, sets the item and sends the write. -/
def writeManaged (g : Gateway) (id : ResourceId) (plan : WritePlan) (w : ManagedWrite) :
    Gateway × Except Error WriteOutcome :=
  let queued := g.modifyResource id fun r => r.addChange (g.changeFor id plan w)
  match queued.applyValue id plan.suffix plan.value true with
  | .error e => (queued, .error e)
  | .ok (set, _) => (set.issuePending id, .ok .pending)

/-- Sets the item and applies what follows from it. -/
def writeDirect (g : Gateway) (id : ResourceId) (plan : WritePlan) :
    Gateway × Except Error WriteOutcome :=
  match g.applyValue id plan.suffix plan.value true with
  | .error e => (g, .error e)
  | .ok (set, _) => (set.applyEffect id plan.policy plan.previous plan.value, .ok .applied)

def writeItem (g : Gateway) (id : ResourceId) (suffix : String) (v : Value) :
    Gateway × Except Error WriteOutcome :=
  match g.registry.live? id with
  | none => (g, .error (.resourceNotFound id.text))
  | some r =>
    let device := g.registry.owner? id
    match WritePlan.make r device g.catalog suffix v with
    | .error e => (g, .error e)
    | .ok plan =>
      match plan.route with
      | .managed w => g.writeManaged id plan w
      | .software => g.writeDirect id plan
      | .vendor =>
        match g.sendVendor r device plan with
        | (g, true) => g.writeDirect id plan
        | (g, false) => (g, .error (.actionFailed suffix))

end Gateway

end ZigbeeGateway
