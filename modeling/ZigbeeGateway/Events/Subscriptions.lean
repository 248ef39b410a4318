import ZigbeeGateway.Events.Event

/-!
# Subscriptions

Callbacks for all events or for the events of one suffix, each kind by itself.  A dispatch calls those
that were there when it started, in the order of subscription across both kinds; what a callback adds
or removes takes effect for the next dispatch.
-/

namespace ZigbeeGateway

/-- The number of a subscription.  Numbers are never used again. -/
structure SubscriptionId where
  value : Nat
  deriving DecidableEq, Repr

/-- The number as it is shown. -/
def SubscriptionId.text (id : SubscriptionId) : String :=
  "Sub(" ++ String.ofList (Nat.toDigits 10 id.value) ++ ")"

/-- The subscriptions that are in force.  A new number is greater than all others, so that both kinds
are in the order of their numbers. -/
structure Subscriptions (κ : Type) where
  /-- The callbacks for all events, with their numbers. -/
  general : List (SubscriptionId × κ) := []
  /-- The callbacks for the events of one suffix, with their numbers. -/
  specific : List (SubscriptionId × String × κ) := []
  /-- The next number to give out. -/
  nextId : Nat := 1
  deriving DecidableEq, Repr

/-- What a callback may ask of the subscriptions it is called by. -/
inductive SubscriptionRequest (κ : Type) where
  | subscribe (filter : Option String) (callback : κ)
  | unsubscribe (id : SubscriptionId)

/-- What happens to subscriptions. -/
inductive SubscriptionRecord (κ : Type) where
  /-- A callback is called. -/
  | called (id : SubscriptionId) (callback : κ)
  /-- A callback is subscribed. -/
  | subscribed (id : SubscriptionId) (filter : Option String) (callback : κ)
  /-- A subscription is removed, or there was none. -/
  | unsubscribed (id : SubscriptionId) (found : Bool)

/-- What is told of a dispatch. -/
inductive SubscriptionNotice where
  /-- A callback is called. -/
  | called (id : SubscriptionId)
  /-- A callback has subscribed another one. -/
  | subscribed (id : SubscriptionId)
  /-- A callback has removed a subscription, or there was none. -/
  | unsubscribed (id : SubscriptionId) (found : Bool)
  deriving DecidableEq, Repr

/-- The record without the callbacks. -/
def SubscriptionRecord.notice {κ : Type} : SubscriptionRecord κ → SubscriptionNotice
  | .called id _ => .called id
  | .subscribed id _ _ => .subscribed id
  | .unsubscribed id found => .unsubscribed id found

namespace Subscriptions

variable {κ : Type}

/-- Adds a callback for all events or for those of one suffix. -/
def subscribe (s : Subscriptions κ) (filter : Option String) (callback : κ) :
    Subscriptions κ × SubscriptionId :=
  let id : SubscriptionId := ⟨s.nextId⟩
  let counted := { s with nextId := s.nextId + 1 }
  match filter with
  | none => ({ counted with general := s.general ++ [(id, callback)] }, id)
  | some suffix => ({ counted with specific := s.specific ++ [(id, suffix, callback)] }, id)

/-- Removes a subscription and says whether it was in force. -/
def unsubscribe (s : Subscriptions κ) (id : SubscriptionId) : Subscriptions κ × Bool :=
  if s.general.any (·.1 = id) then
    ({ s with general := s.general.filter (·.1 ≠ id) }, true)
  else
    ({ s with specific := s.specific.filter (·.1 ≠ id) }, s.specific.any (·.1 = id))

/-- The callbacks that wait for an event, the oldest first. -/
def matching (s : Subscriptions κ) (e : Event) : List (SubscriptionId × κ) :=
  let specific := (s.specific.filter (·.2.1 = e.suffix)).map fun (id, _, callback) => (id, callback)
  (s.general ++ specific).mergeSort (·.1.value ≤ ·.1.value)

/-- Carries out a request. -/
def serve (s : Subscriptions κ) : SubscriptionRequest κ → Subscriptions κ × SubscriptionRecord κ
  | .subscribe filter callback =>
    let (s, id) := s.subscribe filter callback
    (s, .subscribed id filter callback)
  | .unsubscribe id =>
    let (s, found) := s.unsubscribe id
    (s, .unsubscribed id found)

/-- Carries out requests in order. -/
def serveAll (s : Subscriptions κ) :
    List (SubscriptionRequest κ) → Subscriptions κ × List (SubscriptionRecord κ)
  | [] => (s, [])
  | request :: rest =>
    let (s, record) := s.serve request
    let (s, records) := s.serveAll rest
    (s, record :: records)

/-- Calls callbacks one after another.  `react` says what a callback asks for when it is called under a
number. -/
def callAll (react : SubscriptionId → κ → Event → List (SubscriptionRequest κ)) (e : Event)
    (s : Subscriptions κ) :
    List (SubscriptionId × κ) → Subscriptions κ × List (SubscriptionRecord κ)
  | [] => (s, [])
  | (id, callback) :: rest =>
    let (s, served) := s.serveAll (react id callback e)
    let (s, records) := callAll react e s rest
    (s, .called id callback :: served ++ records)

/-- Calls every callback that waits for an event. -/
def dispatch (react : SubscriptionId → κ → Event → List (SubscriptionRequest κ))
    (s : Subscriptions κ) (e : Event) : Subscriptions κ × List (SubscriptionRecord κ) :=
  callAll react e s (s.matching e)

def size (s : Subscriptions κ) : Nat :=
  s.general.length + s.specific.length

/-- The subscriptions as they are shown for diagnostics. -/
def diagnosticText (s : Subscriptions κ) : String :=
  "CallbackRegistry \x7b callback_count: " ++ String.ofList (Nat.toDigits 10 s.size) ++ " \x7d"

end Subscriptions

end ZigbeeGateway
