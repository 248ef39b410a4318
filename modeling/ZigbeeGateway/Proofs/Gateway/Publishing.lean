import ZigbeeGateway.Gateway.Basic

/-!
# Publishing

An event that is published leaves the gateway, is delivered to every callback that waits for it, and is
sent to the channel of the bus.  `Publishes` says this of any number of events, one after another: what
has left the gateway, and how the bus stands afterwards.
-/

namespace ZigbeeGateway

/-! ### The bus -/

/-- Callbacks that ask for nothing leave the subscriptions alone, and each of them is called. -/
theorem Subscriptions.callAll_listening {κ : Type} (s : Subscriptions κ) (e : Event)
    (entries : List (SubscriptionId × κ)) :
    callAll (fun _ _ _ => []) e s entries =
      (s, entries.map fun entry => .called entry.1 entry.2) := by
  induction entries with
  | nil => rfl
  | cons entry entries ih =>
    rw [callAll, serveAll]
    dsimp only
    rw [ih]
    rfl

namespace EventBus

variable (b : EventBus Unit)

/-- What leaves a gateway when it publishes an event: the event, and then its delivery to every
callback that waits for it, the oldest first. -/
def announcement (e : Event) : List Output :=
  .published e :: (b.subscriptions.matching e).map fun entry => .delivered entry.1 e

/-- Publishes events one after another to callbacks that only listen. -/
def publishAll (es : List Event) : EventBus Unit :=
  es.foldl (fun b e => (b.publish (fun _ _ => []) e).1) b

/-- A published event is sent to the channel, and every callback that waits for it is called. -/
theorem publish_listening (e : Event) :
    b.publish (fun _ _ => []) e =
      ({ b with channel := b.channel.send e },
        (b.subscriptions.matching e).map fun entry => .called entry.1) := by
  unfold publish Subscriptions.dispatch
  rw [Subscriptions.callAll_listening]
  dsimp only
  rw [List.map_map]
  rfl

end EventBus

/-! ### Outputs -/

/-- The event of an output that publishes one. -/
def Output.event? : Output → Option Event
  | .published e => some e
  | _ => none

/-- The output tells of an event. -/
def Output.isAnnouncement : Output → Bool
  | .published _ | .delivered _ _ => true
  | _ => false

theorem EventBus.filterMap_announcement (b : EventBus Unit) (e : Event) :
    (b.announcement e).filterMap Output.event? = [e] := by
  rw [announcement, List.filterMap_cons, List.filterMap_map]
  -- What is delivered to subscribers is not published once more.
  exact congrArg (e :: ·) (List.filterMap_eq_nil_iff.mpr fun _ _ => rfl)

namespace Gateway

variable {g g' g'' : Gateway} {new new' : List Event}

/-- What has been told of events, the oldest first. -/
def announcements (g : Gateway) : List Output :=
  g.outbox.filter Output.isAnnouncement

/-- The events that were published, the oldest first. -/
def published (g : Gateway) : List Event :=
  g.outbox.filterMap Output.event?

theorem published_eq (g : Gateway) :
    g.published = g.announcements.filterMap Output.event? := by
  have hsame : (fun o : Output => if o.isAnnouncement = true then o.event? else none) =
      Output.event? := by
    funext o
    cases o <;> rfl
  rw [announcements, List.filterMap_filter, hsame, published]

/-- The events are published one after another, and nothing else is. -/
structure Publishes (g g' : Gateway) (new : List Event) : Prop where
  /-- Each event leaves the gateway, followed by its deliveries. -/
  announced : g'.announcements = g.announcements ++ new.flatMap g.bus.announcement
  /-- The bus has published the events, and only they went through it. -/
  bus : g'.bus = g.bus.publishAll new
  /-- Those who wait for events stay the same. -/
  subscriptions : g'.bus.subscriptions = g.bus.subscriptions
  /-- The events were sent to the channel. -/
  channel : g'.bus.channel = new.foldl Broadcast.send g.bus.channel

namespace Publishes

theorem of_outputs {outputs : List Output} (hbus : g'.bus = g.bus)
    (houtbox : g'.outbox = g.outbox ++ outputs)
    (hsilent : outputs.filter Output.isAnnouncement = []) : Publishes g g' [] := by
  refine ⟨?_, hbus, congrArg _ hbus, congrArg _ hbus⟩
  rw [announcements, houtbox, List.filter_append, hsilent]
  rfl

theorem of_eq (hbus : g'.bus = g.bus) (houtbox : g'.outbox = g.outbox) : Publishes g g' [] :=
  of_outputs hbus (houtbox.trans (List.append_nil _).symm) rfl

theorem refl (g : Gateway) : Publishes g g [] :=
  of_eq rfl rfl

theorem trans (h : Publishes g g' new) (h' : Publishes g' g'' new') :
    Publishes g g'' (new ++ new') := by
  refine ⟨?_, ?_, h'.subscriptions.trans h.subscriptions, ?_⟩
  · -- Later events find the same subscriptions.
    have hlater : g'.bus.announcement = g.bus.announcement := by
      unfold EventBus.announcement
      rw [h.subscriptions]
    rw [h'.announced, h.announced, hlater, List.flatMap_append, List.append_assoc]
  · rw [h'.bus, h.bus, EventBus.publishAll, EventBus.publishAll, EventBus.publishAll,
      List.foldl_append]
  · rw [h'.channel, h.channel, List.foldl_append]

theorem published (h : Publishes g g' new) : g'.published = g.published ++ new := by
  rw [published_eq, h.announced, List.filterMap_append, ← published_eq, List.filterMap_flatMap]
  simp only [EventBus.filterMap_announcement]
  rw [List.flatMap_singleton']

end Publishes

/-- **Publishing an event** tells of it in the outputs, delivers it to those who wait for it and sends
it to the channel. -/
theorem publishes_publish (g : Gateway) (e : Event) : Publishes g (g.publish e) [e] := by
  have hpublish : g.publish e =
      { g with bus := { g.bus with channel := g.bus.channel.send e } }.emit
        (g.bus.announcement e) := by
    unfold publish
    rw [EventBus.publish_listening]
    dsimp only
    rw [List.filterMap_map, EventBus.announcement, ← List.filterMap_eq_map]
    rfl
  -- The bus writes down its own announcements and nothing else.
  have hall : (g.bus.announcement e).filter Output.isAnnouncement = g.bus.announcement e := by
    rw [List.filter_eq_self]
    intro o ho
    rcases List.mem_cons.mp ho with rfl | hdelivered
    · rfl
    · obtain ⟨entry, -, rfl⟩ := List.mem_map.mp hdelivered
      rfl
  rw [hpublish]
  refine ⟨?_, ?_, rfl, rfl⟩
  · rw [announcements, emit, List.filter_append, hall, List.flatMap_singleton]
    rfl
  · rw [EventBus.publishAll, List.foldl_cons, List.foldl_nil, EventBus.publish_listening]
    rfl

end Gateway

end ZigbeeGateway
