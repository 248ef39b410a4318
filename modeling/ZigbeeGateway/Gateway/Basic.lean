import ZigbeeGateway.Clock
import ZigbeeGateway.Config
import ZigbeeGateway.Events.Bus
import ZigbeeGateway.Resource.View
import ZigbeeGateway.Setup.Premises
import ZigbeeGateway.VendorTable
import ZigbeeGateway.Write.Plan

/-!
# The state of a gateway

Everything a gateway holds, and the one way in which an updated item becomes known: it is stored, a
save is scheduled, clients are told, and an event is published, in this order.
-/

namespace ZigbeeGateway

/-- A value that a decoder has found in a frame. -/
structure Report where
  resource : ResourceId
  suffix : String
  value : Value
  deriving DecidableEq, Repr

/-- What finds a value in a frame. -/
structure Decoder where
  /-- The value in a frame, if there is one for a resource. -/
  decode : Registry → Indication → Option Report

structure Gateway extends Premises where
  config : Config := {}
  catalog : Catalog := {}
  /-- The event bus.  Its callbacks only listen. -/
  bus : EventBus Unit := {}
  vendors : VendorTable VendorEncoder := {}
  decoders : List (UInt16 × Decoder) := []
  /-- The encoder after all that has left the gateway, which may have filled its queue. -/
  encoder : List Output → TaskEncoder := TaskEncoder.null
  clock : Clock := {}
  /-- The time of the host, which stamps what is made new. -/
  hostTime : Instant := Instant.start2024
  /-- Milliseconds on a clock that never goes back, for the deadlines of saves. -/
  uptime : Nat := 0
  /-- Whether a sum or a difference of 64-bit integers has left their range.  It wraps around, and a
  run that checks for this ends there. -/
  overflowed : Bool := false

namespace Gateway

/-- The time on the clock of the gateway. -/
def now (g : Gateway) : Instant :=
  g.clock.now

/-- Adds to what is asked of the surroundings. -/
def emit (g : Gateway) (outputs : List Output) : Gateway :=
  { g with outbox := g.outbox ++ outputs }

/-- The encoder as it stands now. -/
def encoderNow (g : Gateway) : TaskEncoder :=
  g.encoder g.outbox

/-- Notes an overflow, if there is one. -/
def noteOverflow (g : Gateway) (overflows : Bool) : Gateway :=
  { g with overflowed := g.overflowed || overflows }

@[simp] theorem now_noteOverflow (g : Gateway) (overflows : Bool) :
    (g.noteOverflow overflows).now = g.now := rfl

/-- Changes the registry. -/
def mapRegistry (g : Gateway) (f : Registry → Registry) : Gateway :=
  { g with registry := f g.registry }

/-- Changes the resource with a number. -/
def modifyResource (g : Gateway) (id : ResourceId) (f : Resource → Resource) : Gateway :=
  g.mapRegistry fun registry => registry.modifyResource id f

/-- The view of a live resource. -/
def view? (g : Gateway) (id : ResourceId) (category : Option String) : Option Json.Fields :=
  (g.registry.live? id).map fun r => r.view (g.registry.owner? id) category

/-! ### Making updates known -/

/-- Asks for a save of a table within a delay. -/
def scheduleSave (g : Gateway) (table : SaveTable) (delay : Nat) : Gateway :=
  { g with
    storage := g.storage.scheduleSave g.uptime table delay
    outbox := g.outbox ++ [.saveScheduled table delay] }

/-- The message that tells clients of a change: the view of the category of the item. -/
def pushMessage (r : Resource) (suffix : String) : Json :=
  let category := Suffix.category suffix
  let fields := r.view none (some category)
  let content :=
    if category = View.topLevel then .object fields
    else (Json.Fields.find? fields category).getD (.object [])
  .ofFields
    [("t", .string "event"), ("e", .string "changed"), ("r", .string r.kind.name),
      ("id", .string r.id.text), ("uniqueid", .string r.uniqueId.text), (category, content)]

/-- Tells clients of an item, if it is public and they have to be told. -/
def push (g : Gateway) (r : Resource) (item : Item) : Gateway :=
  if item.isPublic && item.needPush then
    (g.emit [.pushed (pushMessage r item.suffix)]).modifyResource r.id fun r =>
      r.modifyItem item.suffix fun i => { i with needPush := false }
  else g

/-- Publishes an event and delivers it to the subscribers. -/
def publish (g : Gateway) (e : Event) : Gateway :=
  let (bus, notices) := g.bus.publish (fun _ _ => []) e
  let delivered := notices.filterMap fun
    | .called id => some (Output.delivered id e)
    | _ => none
  { g with bus }.emit (.published e :: delivered)

/-- Makes an updated item known. -/
def raise (g : Gateway) (id : ResourceId) (suffix : String) : Gateway :=
  match g.registry.resource? id with
  | none => g
  | some r =>
    match r.item? suffix with
    | none => g
    | some item =>
      let stored : Gateway :=
        { g with
          storage := g.storage.storeItem r.uniqueId item
          outbox := g.outbox ++ [.stored r.uniqueId suffix] }
      let marked := stored.modifyResource id fun r => { r with needsSave := true }
      let scheduled := marked.scheduleSave r.kind g.config.saveDelayShort
      let pushed := scheduled.push r item
      pushed.publish { container := r.kind, suffix, resource := id, item := some item }

/-- Sets an item of a live resource.  The update is made known if the value changed, or with `always`
whenever the set was accepted. -/
def applyValue (g : Gateway) (id : ResourceId) (suffix : String) (v : Value) (always : Bool) :
    Except Error (Gateway × SetOutcome) :=
  match g.registry.live? id with
  | none => .error (.resourceNotFound id.text)
  | some r =>
    match r.setValue suffix v g.now with
    | .error e => .error e
    | .ok (r, outcome) =>
      let set := g.modifyResource id fun _ => r
      .ok (if outcome.isChanged || (always && outcome.isAccepted) then set.raise id suffix else set,
        outcome)

/-- Sets an item and makes a change known, if the value fits. -/
def applyIfFits (g : Gateway) (id : ResourceId) (suffix : String) (v : Value) : Gateway :=
  match g.applyValue id suffix v false with
  | .ok (g, _) => g
  | .error _ => g

end Gateway

end ZigbeeGateway
