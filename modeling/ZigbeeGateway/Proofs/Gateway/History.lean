import Mathlib.Data.List.Induction
import ZigbeeGateway.Proofs.Gateway.SettingUp
import ZigbeeGateway.Proofs.Gateway.Writes
import ZigbeeGateway.Proofs.Runs

/-!
# Histories of a gateway

A gateway begins without resources, and then any of its operations may follow one another, while its
surroundings change as they like.  Two things hold at every point of every history: each resource is
sound (`sound_run`), and each pending target knows the value that its item held before the first of
the unconfirmed writes that led to it (`isOrigin_run`).

Both rest on what one event does to the resources: a write may queue a change, and all other events
let the registry grow (`grows_step`).
-/

namespace ZigbeeGateway

open Relation

/-- What may happen to a gateway. -/
inductive GatewayEvent where
  | deviceAdded (address : ExtAddress) (manufacturer model : String)
  | deviceSetUp (address : ExtAddress)
  /-- A resource with blank items is added. -/
  | resourceAdded (kind : ResourceKind) (typeName : String) (uniqueId : UniqueId)
      (items : List (String × DataType))
  | written (id : ResourceId) (suffix : String) (v : Value)
  | reported (id : ResourceId) (suffix : String) (v : Value)
  | received (indication : Indication)
  | ticked
  | resourceDeleted (id : ResourceId)
  | deviceDeleted (address : ExtAddress)
  /-- Anything but the registry changes: clocks, descriptions, stored rows, encoders, decoders,
  subscribers. -/
  | outside (change : Gateway → Gateway)

namespace Gateway

/-- The resource that an event adds. -/
def blankResource (g : Gateway) (kind : ResourceKind) (typeName : String) (uniqueId : UniqueId)
    (items : List (String × DataType)) : Resource :=
  items.foldl (fun r (suffix, type) => r.addItem { suffix, type })
    (.new kind typeName uniqueId g.hostTime)

/-- One event. -/
def step (g : Gateway) : GatewayEvent → Gateway
  | .deviceAdded address manufacturer model => g.addDevice address manufacturer model
  | .deviceSetUp address => (g.initDevice address).1
  | .resourceAdded kind typeName uniqueId items =>
    match g.registry.addResource (g.blankResource kind typeName uniqueId items) with
    | .ok (registry, _) => g.mapRegistry fun _ => registry
    | .error _ => g
  | .written id suffix v => (g.writeItem id suffix v).1
  | .reported id suffix v => (g.report id suffix v).1
  | .received indication => (g.handleIndication indication).1
  | .ticked => g.tick.1
  | .resourceDeleted id => g.mapRegistry fun registry => registry.deleteResource id
  | .deviceDeleted address => g.mapRegistry fun registry => registry.deleteDevice address
  | .outside change => (change g).mapRegistry fun _ => g.registry

/-- The gateway after some events. -/
def run (g : Gateway) (events : List GatewayEvent) : Gateway :=
  events.foldl step g

theorem run_concat (g : Gateway) (events : List GatewayEvent) (e : GatewayEvent) :
    g.run (events ++ [e]) = (g.run events).step e :=
  List.foldl_concat step g e events

theorem run_append (g : Gateway) (events events' : List GatewayEvent) :
    g.run (events ++ events') = (g.run events).run events' :=
  List.foldl_append

/-- A description of devices with the given parts. -/
def describing (parts : List SubDevice) : Description :=
  { manufacturerNames := ["A"], modelIds := ["m"], subDevices := parts }

/-- A gateway that knows one kind of devices, with the given parts. -/
def knowing (parts : List SubDevice) : Gateway :=
  { catalog := { descriptions := [describing parts] } }

/-- The part of a device that measures a temperature. -/
def temperaturePart : SubDevice :=
  { typeName := "ZHATemperature", restPath := "/sensors",
    addressing := [UniqueId.addressMarker, "1"], items := [{ name := Suffix.temperature }] }

/-- A gateway that knows sensors of a temperature. -/
def plainThermometer : Gateway :=
  knowing [temperaturePart]

/-! ### What one event does -/

variable {g g' start : Gateway} {id : ResourceId} {suffix : String} {e : GatewayEvent}
  {events : List GatewayEvent} {r : Resource}

theorem Traffic.grows {touched : String → Prop} (h : Traffic touched g g') :
    Registry.Grows g.registry g'.registry :=
  h.resources.grows fun _ _ hr => .traffic (hr.mono fun _ _ => trivial)

/-- What holds of new resources without items and survives adding a blank item holds of every
resource that an event adds. -/
theorem blankResource_induction {P : Resource → Prop} (g : Gateway) (kind : ResourceKind)
    (typeName : String) (uniqueId : UniqueId) (items : List (String × DataType))
    (hnew : P (.new kind typeName uniqueId g.hostTime))
    (hadd : ∀ r suffix type, P r → P (r.addItem { suffix, type })) :
    P (g.blankResource kind typeName uniqueId items) := by
  unfold blankResource
  generalize Resource.new kind typeName uniqueId g.hostTime = r at hnew ⊢
  induction items generalizing r with
  | nil => exact hnew
  | cons item items ih => exact ih _ (hadd r item.1 item.2 hnew)

theorem isNew_blankResource (g : Gateway) (kind : ResourceKind) (typeName : String)
    (uniqueId : UniqueId) (items : List (String × DataType)) :
    (g.blankResource kind typeName uniqueId items).IsNew :=
  g.blankResource_induction kind typeName uniqueId items
    (Resource.isNew_new kind typeName uniqueId g.hostTime) fun _ _ _ hr => hr.addItem rfl

theorem traffic_handleIndication (g : Gateway) (i : Indication) :
    Traffic (fun _ => True) g (g.handleIndication i).1 := by
  unfold handleIndication
  split
  · exact .refl _ g
  · have hemit : Traffic (fun _ => True) g (g.emit [.decoded i]) := .of_eq rfl rfl
    dsimp only
    split
    · exact hemit
    · split
      · exact hemit.trans (traffic_applyReport ‹_›)
      · exact hemit

/-- A write queues a change for one resource, with one fitted target that records what the item
holds, and goes on with moves; or it lets the registry grow. -/
theorem grows_written (g : Gateway) (id : ResourceId) (suffix : String) (v : Value) :
    Registry.Grows g.registry (g.step (.written id suffix v)).registry ∨
    ∃ r item c t, g.registry.resource? id = some r ∧ r.item? suffix = some item ∧
      c.isFinished = false ∧ c.targets = [t] ∧ t.suffix = suffix ∧
      item.type.coerce t.value = .ok t.value ∧ t.previous = item.value ∧
      Registry.Grows (g.queue id c).registry (g.step (.written id suffix v)).registry := by
  have hwritten := written_writeItem g id suffix v
  rw [step]
  generalize g.writeItem id suffix v = result at hwritten ⊢
  cases hwritten with
  | refused => exact .inl (.refl _)
  | unsent r device plan => exact .inl (registry_sendVendor g r device plan ▸ .refl _)
  | direct _ _ htraffic => exact .inl htraffic.grows
  | @managed g' r item plan m h _ htraffic =>
    have hr := (Registry.live?_eq_some_iff.mp h.live).1
    exact .inr ⟨r, item, g.changeFor id plan m, _, hr, h.found, rfl, rfl, h.names,
      h.fitted, h.previous, htraffic.grows⟩

/-- **Every event but a write lets the registry grow.** -/
theorem grows_step (hwritten : ∀ id suffix v, e ≠ .written id suffix v) :
    Registry.Grows g.registry (g.step e).registry := by
  cases e with
  | deviceAdded address manufacturer model => exact g.grows_addDevice address manufacturer model
  | deviceSetUp address => exact g.grows_initDevice address
  | resourceAdded kind typeName uniqueId items =>
    rw [step]
    split
    · rename_i hadd
      exact Registry.grows_addResource (g.isNew_blankResource kind typeName uniqueId items) hadd
    · exact .refl _
  | written id suffix v => exact absurd rfl (hwritten id suffix v)
  | reported id suffix v => exact (traffic_report g id suffix v).grows
  | received indication => exact (traffic_handleIndication g indication).grows
  | ticked =>
    have htick : Traffic (fun _ => False) g g.tick.1 := traffic_tick g
    exact htick.grows
  | resourceDeleted id => exact g.registry.grows_deleteResource id
  | deviceDeleted address => exact g.registry.grows_deleteDevice address
  | outside change => exact .refl _

/-! ### What holds at every point -/

theorem sound_of_grows (h : Registry.Grows g.registry g'.registry)
    (hsound : ∀ id r, g.registry.resource? id = some r → r.Sound) :
    ∀ id r, g'.registry.resource? id = some r → r.Sound :=
  h.forall_resource? (fun _ hnew => hnew.sound) (fun _ _ hr hmoves => hr.move hmoves) hsound

theorem takes_of_sound {item : Item} {t : Target} (hr : r.Sound)
    (hitem : r.item? t.suffix = some item)
    (hvalue : item.type.coerce t.value = .ok t.value) (hprevious : t.previous = item.value) :
    r.Takes t :=
  ⟨item, hitem, hvalue, fun p hp => hr.fitted _ item hitem p (hprevious ▸ hp)⟩

/-- Queueing a fitted change keeps all resources sound. -/
theorem sound_queue {c : StateChange} {t : Target}
    (hsound : ∀ id r, g.registry.resource? id = some r → r.Sound)
    (hr : g.registry.resource? id = some r)
    (hopen : c.isFinished = false) (htargets : c.targets = [t]) (ht : r.Takes t) :
    ∀ id' r', (g.queue id c).registry.resource? id' = some r' → r'.Sound := by
  refine forall_resource?_queue hsound fun q hq => ?_
  rw [hr] at hq
  obtain rfl := Option.some.inj hq
  exact (hsound id r hr).addChange hopen htargets ht

theorem sound_step (hsound : ∀ id r, g.registry.resource? id = some r → r.Sound) :
    ∀ id r, (g.step e).registry.resource? id = some r → r.Sound := by
  by_cases hwritten : ∃ id suffix v, e = .written id suffix v
  · obtain ⟨id, suffix, v, rfl⟩ := hwritten
    rcases g.grows_written id suffix v with hgrows |
      ⟨r, item, c, t, hr, hitem, hopen, htargets, rfl, hvalue, hprevious, hgrows⟩
    · exact sound_of_grows hgrows hsound
    · refine sound_of_grows hgrows (sound_queue hsound hr hopen htargets ?_)
      exact takes_of_sound (hsound id r hr) hitem hvalue hprevious
  · refine sound_of_grows (grows_step fun id suffix v he => hwritten ⟨id, suffix, v, he⟩) hsound

/-- **Sound resources stay sound** at every point of a history. -/
theorem sound_of_run (hsound : ∀ id r, start.registry.resource? id = some r → r.Sound)
    (events : List GatewayEvent) :
    ∀ id r, (start.run events).registry.resource? id = some r → r.Sound := by
  induction events using List.reverseRecOn with
  | nil => exact hsound
  | append_singleton events e ih =>
    rw [run_concat]
    exact sound_step ih

/-- Every resource is sound in a history that begins without resources. -/
theorem sound_run (hstart : start.registry.resources = []) (events : List GatewayEvent) :
    ∀ id r, (start.run events).registry.resource? id = some r → r.Sound := by
  refine sound_of_run (fun id r hr => ?_) events
  rw [Registry.resource?, hstart] at hr
  cases hr

/-! ### Where pending targets come from -/

/-- The value that an item of a resource holds. -/
def held? (g : Gateway) (id : ResourceId) (suffix : String) : Option Value :=
  (g.registry.resource? id).bind (·.value? suffix)

@[simp] theorem held?_noteOverflow (g : Gateway) (overflows : Bool) (id : ResourceId)
    (suffix : String) : (g.noteOverflow overflows).held? id suffix = g.held? id suffix := rfl

/-- Whether the confirmation of a write of an item is waited for. -/
def IsPending (g : Gateway) (id : ResourceId) (suffix : String) : Prop :=
  ∃ r, g.registry.resource? id = some r ∧ (r.pendingChange? suffix).isSome = true

/-- The confirmation of writes of an item has been waited for ever since an event wrote it, and a
value is what the item held before that event. -/
def IsOrigin (start : Gateway) (events : List GatewayEvent) (id : ResourceId) (suffix : String)
    (origin : Option Value) : Prop :=
  Since step (fun g => g.IsPending id suffix)
    (fun g e => (∃ v, e = .written id suffix v) ∧ g.held? id suffix = origin) start events

/-- Whether a target is waited for, as it was queued. -/
def Awaits (g : Gateway) (id : ResourceId) (t : Target) : Prop :=
  ∃ r, g.registry.resource? id = some r ∧ t.asQueued ∈ r.pendingTargets.map Target.asQueued

/-- What is pending after the registry has grown was pending before. -/
theorem Awaits.of_grows {t : Target} (h : Registry.Grows g.registry g'.registry)
    (ht : g'.Awaits id t) : g.Awaits id t := by
  obtain ⟨r', hr', hmem⟩ := ht
  cases hr : g.registry.resource? id with
  | some r =>
    obtain ⟨q, hq, hmoves⟩ := h.kept id r hr
    rw [hr'] at hq
    obtain rfl := Option.some.inj hq
    exact ⟨r, hr, (Resource.sublist_of_moves hmoves).subset hmem⟩
  | none =>
    obtain ⟨r, hnew, hmoves⟩ := h.created id r' hr hr'
    have hnone := (Resource.sublist_of_moves hmoves).subset hmem
    rw [hnew.pendingTargets_eq_nil] at hnone
    cases hnone

/-- What is pending after the registry has grown was pending before, with its origin. -/
theorem IsOrigin.of_grows {r' : Resource} {t : Target}
    (h : Registry.Grows g.registry (start.run (events ++ [e])).registry)
    (hr' : (start.run (events ++ [e])).registry.resource? id = some r') (ht : t ∈ r'.pendingTargets)
    (horigin : ∀ r u, g.registry.resource? id = some r → u ∈ r.pendingTargets →
      u.suffix = t.suffix → IsOrigin start (events ++ [e]) id t.suffix u.previous) :
    IsOrigin start (events ++ [e]) id t.suffix t.previous := by
  obtain ⟨r, hr, hmem⟩ := Awaits.of_grows h ⟨r', hr', List.mem_map_of_mem ht⟩
  obtain ⟨u, hu, heq⟩ := List.mem_map.mp hmem
  obtain ⟨hs, -, hprevious, -⟩ := Target.eq_of_asQueued_eq heq
  exact hprevious ▸ horigin r u hr hu hs

/-- A written target is pending with its origin: it goes on with the stretch of the target that it
supersedes, or begins one. -/
theorem IsOrigin.of_queue {v : Value} {item : Item} {c : StateChange} {t u : Target}
    (hsound : r.Sound) (hr : (start.run events).registry.resource? id = some r)
    (hitem : r.item? suffix = some item) (htargets : c.targets = [t]) (hsuffix : t.suffix = suffix)
    (hprevious : t.previous = item.value) (hu : u ∈ (r.addChange c).pendingTargets)
    (hpending : (start.run (events ++ [.written id suffix v])).IsPending id u.suffix)
    (hearlier : ∀ w ∈ r.pendingTargets, IsOrigin start events id w.suffix w.previous) :
    IsOrigin start (events ++ [.written id suffix v]) id u.suffix u.previous := by
  have hnodup : (c.targets.map (·.suffix)).Nodup := by
    rw [htargets]
    exact List.nodup_singleton _
  rw [Resource.pendingTargets_addChange hsound.distinct hnodup] at hu
  rcases List.mem_append.mp hu with hold | hnew
  · exact (hearlier u (List.mem_filter.mp hold).1).extend hpending
  · rw [htargets] at hnew
    obtain rfl := List.mem_singleton.mp hnew
    rw [Target.adopt_suffix, hsuffix] at hpending ⊢
    show IsOrigin start _ id suffix (t.adopt r.pendingTargets).previous
    rw [Target.adopt]
    cases hfound : r.pendingTargets.find? (·.suffix = t.suffix) with
    | some w =>
      -- The stretch of the superseded target goes on, and its origin is inherited.
      have hw : w.suffix = suffix := by
        rw [← hsuffix]
        simpa using List.find?_some hfound
      exact (hw ▸ hearlier w (List.mem_of_find?_eq_some hfound)).extend hpending
    | none =>
      -- Nothing was waited for, so this write begins the stretch.
      have hidle : ¬ (start.run events).IsPending id suffix := by
        rintro ⟨q, hq, hsome⟩
        rw [hr] at hq
        obtain rfl := Option.some.inj hq
        obtain ⟨w, hw, hs⟩ := Resource.isSome_pendingChange?_iff.mp hsome
        exact List.find?_eq_none.mp hfound w hw (by simpa [hsuffix] using hs)
      refine Since.start hidle ⟨⟨v, rfl⟩, ?_⟩ hpending
      show (start.run events).held? id suffix = t.previous
      rw [held?, hr, hprevious, Option.bind_some, Resource.value?, hitem, Option.bind_some]

/-- **Where a pending target comes from**: the value that it records as the one before the write is
what the item held before the first write of the stretch in which the item has been waited for. -/
theorem isOrigin_run (hstart : start.registry.resources = []) (events : List GatewayEvent) :
    ∀ id r t, (start.run events).registry.resource? id = some r → t ∈ r.pendingTargets →
      IsOrigin start events id t.suffix t.previous := by
  induction events using List.reverseRecOn with
  | nil =>
    intro id r t hr
    rw [run, List.foldl_nil, Registry.resource?, hstart] at hr
    cases hr
  | append_singleton events e ih =>
    intro id r t hr ht
    have hpending : (start.run (events ++ [e])).IsPending id t.suffix :=
      ⟨r, hr, Resource.isSome_pendingChange?_iff.mpr ⟨t, ht, rfl⟩⟩
    -- Without a queued change, what is pending was pending, and its stretch goes on.
    have hgrown : Registry.Grows (start.run events).registry (start.run (events ++ [e])).registry →
        IsOrigin start (events ++ [e]) id t.suffix t.previous := by
      intro hgrows
      refine .of_grows hgrows hr ht fun q u hq hu hs => ?_
      rw [← hs] at hpending ⊢
      exact (ih id q u hq hu).extend hpending
    by_cases hwritten : ∃ id suffix v, e = .written id suffix v
    · obtain ⟨id', suffix, v, rfl⟩ := hwritten
      rcases (start.run events).grows_written id' suffix v with hgrows |
        ⟨q, item, c, u, hq, hitem, -, htargets, hsuffix, -, hprevious, hgrows⟩
      · rw [run_concat] at hgrown
        exact hgrown hgrows
      · rw [← run_concat] at hgrows
        refine .of_grows hgrows hr ht fun q' w hq' hw hs => ?_
        -- Only the written resource has a new target.
        rw [resource?_queue] at hq'
        rw [← hs] at hpending ⊢
        split_ifs at hq' with hid
        · subst hid
          rw [hq, Option.map_some] at hq'
          obtain rfl := Option.some.inj hq'
          exact .of_queue (sound_run hstart events id q hq) hq hitem htargets hsuffix hprevious hw
            hpending fun w' hw' => ih id q w' hq hw'
        · exact (ih id q' w hq' hw).extend hpending
    · apply hgrown
      rw [run_concat]
      exact grows_step fun id suffix v he => hwritten ⟨id, suffix, v, he⟩

end Gateway

end ZigbeeGateway
