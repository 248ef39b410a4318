import ZigbeeGateway.Proofs.Gateway.Traffic

/-!
# What a write does

A plan says that the value is fitted to the item (`WritePlan.make_cases`), so whatever route it
takes, setting the item afterwards cannot fail: a managed write is pending
(`writeManaged_eq_pending`), and a direct one is applied (`writeDirect_eq_applied`).
`written_writeItem` puts the routes together.
-/

namespace ZigbeeGateway

variable {g g' : Gateway} {r : Resource} {item : Item} {id : ResourceId} {suffix : String}
  {v w : Value}
  {device : Option Device} {catalog : Catalog} {plan : WritePlan}

namespace WritePlan

/-- What passes validation is fitted to the item. -/
theorem validate_eq_ok {template : Option ItemTemplate} (h : validate item template v = .ok w) :
    item.type.coerce w = .ok w := by
  simp only [validate, bind, Except.bind] at h
  split at h
  · cases h
  · split at h
    · cases h
    · rename_i fitted hfitted
      split_ifs at h
      obtain rfl := Except.ok.inj h
      exact DataType.coerce_coerce hfitted

/-- **What a plan says**: the item is there, the value is fitted to it, and the route is the one of
the template that the item is bound to. -/
theorem make_cases (h : make r device catalog suffix v = .ok plan) :
    ∃ item, r.item? suffix = some item ∧ item.type.coerce plan.value = .ok plan.value ∧
      plan.suffix = suffix ∧ plan.previous = item.value ∧ plan.policy = WritePolicy.of suffix ∧
      plan.route = chooseRoute r device (template? catalog item) suffix := by
  unfold make at h
  split at h
  · cases h
  · split at h
    · cases h
    · rename_i item hitem
      split at h
      · cases h
      · dsimp only at h
        split at h
        · cases h
        · rename_i value hvalue
          obtain rfl := Except.ok.inj h
          exact ⟨item, hitem, validate_eq_ok hvalue, rfl, rfl, rfl, rfl⟩

end WritePlan

namespace Gateway

open Relation

/-! ### Setting the written item -/

/-- A fitted value of a live resource is set. -/
theorem exists_applyValue_eq_ok (hlive : g.registry.live? id = some r)
    (hitem : r.item? suffix = some item) (hw : item.type.coerce v = .ok w) (always : Bool) :
    ∃ g' o, g.applyValue id suffix v always = .ok (g', o) := by
  obtain ⟨r', o, hset⟩ := Resource.exists_setValue_eq_ok hitem hw g.now
  unfold applyValue
  rw [hlive]
  dsimp only
  rw [hset]
  exact ⟨_, _, rfl⟩

/-- The gateway with a change queued. -/
def queue (g : Gateway) (id : ResourceId) (c : StateChange) : Gateway :=
  g.modifyResource id fun r => r.addChange c

theorem resource?_queue (g : Gateway) (id : ResourceId) (c : StateChange) (id' : ResourceId) :
    (g.queue id c).registry.resource? id' =
      if id' = id then (g.registry.resource? id).map fun r => r.addChange c
      else g.registry.resource? id' := by
  apply Registry.resource?_modifyResource
  intro r hr
  have hframe := (Resource.sameShape_addChange r c).frame
  rw [Resource.id_of_frame_eq hframe, hr]

/-- What queueing the change keeps of its resource holds of all resources afterwards. -/
theorem forall_resource?_queue {P : Resource → Prop} {c : StateChange}
    (hall : ∀ id r, g.registry.resource? id = some r → P r)
    (hqueue : ∀ r, g.registry.resource? id = some r → P (r.addChange c)) :
    ∀ id' r, (g.queue id c).registry.resource? id' = some r → P r := by
  intro id' r' hr'
  rw [resource?_queue] at hr'
  split_ifs at hr' with hid
  · obtain ⟨r, hr, rfl⟩ := Option.map_eq_some_iff.mp hr'
    exact hqueue r hr
  · exact hall id' r' hr'

theorem live?_queue (hlive : g.registry.live? id = some r) (c : StateChange) :
    (g.queue id c).registry.live? id = some (r.addChange c) := by
  obtain ⟨hr, hdeleted⟩ := Registry.live?_eq_some_iff.mp hlive
  rw [Registry.live?_eq_some_iff, resource?_queue, if_pos rfl, hr]
  refine ⟨rfl, ?_⟩
  rw [Resource.deleted_of_frame_eq (Resource.sameShape_addChange r c).frame, hdeleted]

/-- **A managed write with a fitted value is pending.**  The change is queued, and all that follows
is traffic that touches the written item only. -/
theorem writeManaged_eq_pending (hlive : g.registry.live? id = some r)
    (hitem : r.item? plan.suffix = some item)
    (hfit : item.type.coerce plan.value = .ok plan.value) (m : ManagedWrite) :
    ∃ g', g.writeManaged id plan m = (g', .ok .pending) ∧
      Traffic (· = plan.suffix) (g.queue id (g.changeFor id plan m)) g' := by
  have hlive' := live?_queue hlive (g.changeFor id plan m)
  have hitem' : (r.addChange (g.changeFor id plan m)).item? plan.suffix = some item := by
    rw [Resource.item?_addChange, hitem]
  obtain ⟨set, o, hset⟩ := exists_applyValue_eq_ok hlive' hitem' hfit true
  refine ⟨set.issuePending id, ?_, ?_⟩
  · unfold writeManaged
    rw [queue] at hset
    dsimp only
    rw [hset]
  · have happly : Traffic (· = plan.suffix) (g.queue id (g.changeFor id plan m)) set :=
      traffic_applyValue rfl hset
    exact happly.trans (traffic_issuePending set id)

/-- **A direct write with a fitted value is applied**, and it is traffic. -/
theorem writeDirect_eq_applied (hlive : g.registry.live? id = some r)
    (hitem : r.item? plan.suffix = some item)
    (hfit : item.type.coerce plan.value = .ok plan.value) :
    ∃ g', g.writeDirect id plan = (g', .ok .applied) ∧ Traffic (fun _ => True) g g' := by
  obtain ⟨set, o, hset⟩ := exists_applyValue_eq_ok hlive hitem hfit true
  refine ⟨set.applyEffect id plan.policy plan.previous plan.value, ?_, ?_⟩
  · unfold writeDirect
    rw [hset]
  · exact (traffic_applyValue trivial hset).trans (traffic_applyEffect set id _ _ _)

/-! ### Vendors -/

/-- Handing a write to a vendor changes what is remembered of the vendor table and asks the
surroundings, and nothing else. -/
theorem sendVendor_eq (g : Gateway) (r : Resource) (device : Option Device) (plan : WritePlan) :
    ∃ asked, (g.sendVendor r device plan).1 =
      { g with
        vendors := (g.vendors.resolve (vendorModel r device)).1
        outbox := g.outbox ++ asked } ∧
      (asked = [] ∨ ∃ pattern, asked = [.vendorCalled pattern r.id plan.suffix plan.value] ∨
        ∃ task, asked = [.vendorCalled pattern r.id plan.suffix plan.value,
          .submitted task (g.sendVendor r device plan).2]) := by
  unfold sendVendor
  split
  rename_i vendors encoder hresolve
  rw [hresolve]
  dsimp only
  split
  · exact ⟨[], by simp, .inl rfl⟩
  · rename_i encoder
    split
    · exact ⟨_, rfl, .inr ⟨encoder.pattern, .inl rfl⟩⟩
    · exact ⟨_, rfl, .inr ⟨encoder.pattern, .inl rfl⟩⟩
    · -- The answer of the queue is noted with the task.
      rename_i task _
      refine ⟨_, ?_, .inr ⟨encoder.pattern, .inr ⟨task, rfl⟩⟩⟩
      simp [submitTask, emit]

theorem registry_sendVendor (g : Gateway) (r : Resource) (device : Option Device)
    (plan : WritePlan) :
    (g.sendVendor r device plan).1.registry = g.registry := by
  obtain ⟨asked, heq, -⟩ := sendVendor_eq g r device plan
  rw [heq]

/-! ### Routes -/

/-- A write that passes all checks: the resource is live, the item is there, and the plan says what
to write. -/
structure Planned (g : Gateway) (id : ResourceId) (suffix : String) (v : Value) (r : Resource)
    (item : Item) (plan : WritePlan) : Prop where
  live : g.registry.live? id = some r
  make : WritePlan.make r (g.registry.owner? id) g.catalog suffix v = .ok plan
  found : r.item? suffix = some item
  fitted : item.type.coerce plan.value = .ok plan.value
  names : plan.suffix = suffix
  previous : plan.previous = item.value
  route : plan.route = WritePlan.chooseRoute r (g.registry.owner? id)
    (WritePlan.template? g.catalog item) suffix

/-- A resource and a plan make a planned write. -/
theorem exists_planned (hlive : g.registry.live? id = some r)
    (hmake : WritePlan.make r (g.registry.owner? id) g.catalog suffix v = .ok plan) :
    ∃ item, Planned g id suffix v r item plan := by
  obtain ⟨item, hitem, hfit, hsuffix, hprevious, -, hroute⟩ := WritePlan.make_cases hmake
  exact ⟨item, hlive, hmake, hitem, hfit, hsuffix, hprevious, hroute⟩

namespace Planned

variable (h : Planned g id suffix v r item plan)
include h

/-- The checks are passed, and the route decides. -/
theorem writeItem_eq :
    g.writeItem id suffix v =
      match plan.route with
      | .managed m => g.writeManaged id plan m
      | .software => g.writeDirect id plan
      | .vendor =>
        match g.sendVendor r (g.registry.owner? id) plan with
        | (g, true) => g.writeDirect id plan
        | (g, false) => (g, .error (.actionFailed suffix)) := by
  unfold writeItem
  rw [h.live]
  dsimp only
  rewrite [h.make]
  rfl

/-- On the managed route a change is queued, and the write is pending. -/
theorem managed {m : ManagedWrite} (hroute : plan.route = .managed m) :
    ∃ g', g.writeItem id suffix v = (g', .ok .pending) ∧
      Traffic (· = suffix) (g.queue id (g.changeFor id plan m)) g' := by
  obtain ⟨g', hwrite, htraffic⟩ :=
    writeManaged_eq_pending h.live (h.names ▸ h.found) h.fitted m
  refine ⟨g', ?_, h.names ▸ htraffic⟩
  rw [h.writeItem_eq, hroute]
  exact hwrite

/-- On the software route the write is applied. -/
theorem software (hroute : plan.route = .software) :
    ∃ g', g.writeItem id suffix v = (g', .ok .applied) ∧ Traffic (fun _ => True) g g' := by
  obtain ⟨g', hwrite, htraffic⟩ := writeDirect_eq_applied h.live (h.names ▸ h.found) h.fitted
  refine ⟨g', ?_, htraffic⟩
  rw [h.writeItem_eq, hroute]
  exact hwrite

/-- On the vendor route the write is applied once the vendor encoder has sent it. -/
theorem sent (hroute : plan.route = .vendor)
    (hsent : (g.sendVendor r (g.registry.owner? id) plan).2 = true) :
    ∃ g', g.writeItem id suffix v = (g', .ok .applied) ∧ Traffic (fun _ => True) g g' := by
  set asked := (g.sendVendor r (g.registry.owner? id) plan).1 with hasked
  have hregistry : asked.registry = g.registry := registry_sendVendor g r _ plan
  have hcatalog : asked.catalog = g.catalog := by
    obtain ⟨outputs, heq, -⟩ := sendVendor_eq g r (g.registry.owner? id) plan
    rw [hasked, heq]
  obtain ⟨g', hwrite, htraffic⟩ := writeDirect_eq_applied (g := asked) (hregistry ▸ h.live)
    (h.names ▸ h.found) h.fitted
  refine ⟨g', ?_, (Traffic.of_eq hregistry hcatalog).trans htraffic⟩
  have hpair : g.sendVendor r (g.registry.owner? id) plan = (asked, true) := Prod.ext rfl hsent
  rw [h.writeItem_eq, hroute, hpair]
  exact hwrite

/-- On the vendor route the write is refused if it is not sent. -/
theorem unsent (hroute : plan.route = .vendor)
    (hsent : (g.sendVendor r (g.registry.owner? id) plan).2 = false) :
    g.writeItem id suffix v =
      ((g.sendVendor r (g.registry.owner? id) plan).1, .error (.actionFailed suffix)) := by
  have hpair : g.sendVendor r (g.registry.owner? id) plan =
      ((g.sendVendor r (g.registry.owner? id) plan).1, false) := Prod.ext rfl hsent
  rw [h.writeItem_eq, hroute, hpair]

end Planned

/-- What a write may come to. -/
inductive Written (g : Gateway) (id : ResourceId) (suffix : String) (v : Value) :
    Gateway × Except Error WriteOutcome → Prop
  /-- A check refuses it; nothing has happened. -/
  | refused (e : Error) : Written g id suffix v (g, .error e)
  /-- No vendor sends it; one may have been asked. -/
  | unsent (r : Resource) (device : Option Device) (plan : WritePlan)
      (hsuffix : plan.suffix = suffix) (hsent : (g.sendVendor r device plan).2 = false) :
      Written g id suffix v ((g.sendVendor r device plan).1, .error (.actionFailed suffix))
  /-- A change is queued, and the item set and the write sent. -/
  | managed {g' : Gateway} {r : Resource} {item : Item} {plan : WritePlan} {m : ManagedWrite}
      (h : Planned g id suffix v r item plan) (hroute : plan.route = .managed m)
      (htraffic : Traffic (· = suffix) (g.queue id (g.changeFor id plan m)) g') :
      Written g id suffix v (g', .ok .pending)
  /-- The item is set, with all that follows from it. -/
  | direct {g' : Gateway} {r : Resource} {item : Item} {plan : WritePlan}
      (h : Planned g id suffix v r item plan) (hroute : ∀ m, plan.route ≠ .managed m)
      (htraffic : Traffic (fun _ => True) g g') : Written g id suffix v (g', .ok .applied)

/-- **Every write comes to one of these.** -/
theorem written_writeItem (g : Gateway) (id : ResourceId) (suffix : String) (v : Value) :
    Written g id suffix v (g.writeItem id suffix v) := by
  cases hlive : g.registry.live? id with
  | none =>
    unfold writeItem
    rw [hlive]
    exact .refused _
  | some r =>
    cases hmake : WritePlan.make r (g.registry.owner? id) g.catalog suffix v with
    | error e =>
      unfold writeItem
      rw [hlive]
      dsimp only
      rw [hmake]
      exact .refused e
    | ok plan =>
      obtain ⟨item, h⟩ := exists_planned hlive hmake
      -- The plan passed, so only the vendor may still fail.
      cases hroute : plan.route with
      | managed m =>
        obtain ⟨g', hwrite, htraffic⟩ := h.managed hroute
        rw [hwrite]
        exact .managed h hroute htraffic
      | software =>
        obtain ⟨g', hwrite, htraffic⟩ := h.software hroute
        rw [hwrite]
        exact .direct h (by simp [hroute]) htraffic
      | vendor =>
        cases hsent : (g.sendVendor r (g.registry.owner? id) plan).2 with
        | true =>
          obtain ⟨g', hwrite, htraffic⟩ := h.sent hroute hsent
          rw [hwrite]
          exact .direct h (by simp [hroute]) htraffic
        | false =>
          rw [h.unsent hroute hsent]
          exact .unsent r _ plan h.names hsent

end Gateway

end ZigbeeGateway
