import ZigbeeGateway.Events.Broadcast
import ZigbeeGateway.Events.Subscriptions

/-!
# The event bus

Events go to the callbacks first and then to the receivers of a channel.
-/

namespace ZigbeeGateway

/-- Callbacks and a channel for events. -/
structure EventBus (κ : Type) where
  subscriptions : Subscriptions κ := {}
  /-- The channel. -/
  channel : Broadcast Event := { capacity := 256 }

namespace EventBus

variable {κ : Type}

/-- A bus whose channel has a given capacity, if a channel can have it. -/
def ofCapacity? (capacity : Nat) : Option (EventBus κ) :=
  (Broadcast.ofCapacity? capacity).map fun channel => { channel }

/-- Adds a callback for all events or for those of one suffix. -/
def subscribe (b : EventBus κ) (filter : Option String) (callback : κ) :
    EventBus κ × SubscriptionId :=
  let (subscriptions, id) := b.subscriptions.subscribe filter callback
  ({ b with subscriptions }, id)

/-- Removes a callback and says whether it was there. -/
def unsubscribe (b : EventBus κ) (id : SubscriptionId) : EventBus κ × Bool :=
  let (subscriptions, found) := b.subscriptions.unsubscribe id
  ({ b with subscriptions }, found)

/-- Adds a receiver to the channel and gives the number of receivers. -/
def openChannel (b : EventBus κ) : EventBus κ × Nat :=
  let channel := b.channel.subscribe
  ({ b with channel }, channel.positions.length)

/-- Reads all that waits for a receiver of the channel. -/
def drain (b : EventBus κ) (receiver : Nat) : EventBus κ × List (Delivery Event) :=
  let (channel, deliveries) := b.channel.drain receiver
  ({ b with channel }, deliveries)

/-- Publishes an event. -/
def publish (react : κ → Event → List (SubscriptionRequest κ)) (b : EventBus κ) (e : Event) :
    EventBus κ × List SubscriptionNotice :=
  let (subscriptions, records) := b.subscriptions.dispatch (fun _ => react) e
  ({ subscriptions, channel := b.channel.send e }, records.map (·.notice))

end EventBus

end ZigbeeGateway
