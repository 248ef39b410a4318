import ZigbeeGateway.Proofs.Gateway.Sparing

/-!
# Writes that are given up

A write that the device does not confirm is given up by a tick, and its item goes on holding the
value.  The next write of the offset takes that value for the one before the write, so what it is
corrected by depends on a write that came to nothing.

Two runs that differ in such a write are *twins*: all that the temperature depends on is the same in
both (`Twins.run`).  When a later write is confirmed in both, the temperature is corrected by the
difference to what the offset held before that write, in each of them; so the temperatures are the
same exactly if the offset held the same (`expired_write_shifts_correction`).
-/

namespace ZigbeeGateway

open Relation

/-- Ordinary events, but for writes of the offset of one resource. -/
def GatewayEvent.SparesOffset (id : ResourceId) (e : GatewayEvent) : Prop :=
  e.IsOrdinary ∧ ∀ v, e ≠ .written id Suffix.offset v

namespace Gateway

variable {g g' start : Gateway} {id : ResourceId} {r r' : Resource} {e : GatewayEvent} {t : Target}
  {s : String} {v : Value} {events : List GatewayEvent}

/-! ### What holds throughout -/

/-- Resources are sound, and what their items hold is canonical. -/
structure IsRegular (g : Gateway) : Prop where
  sound : ∀ id r, g.registry.resource? id = some r → r.Sound
  canonical : g.registry.Holds Item.IsCanonical

theorem IsRegular.step (h : g.IsRegular) (e : GatewayEvent) : (g.step e).IsRegular :=
  ⟨sound_step h.sound, h.canonical.fares (Item.isLasting_isCanonical _) (g.fares_step e)⟩

theorem IsRegular.run (h : g.IsRegular) (events : List GatewayEvent) :
    (g.run events).IsRegular := by
  induction events generalizing g with
  | nil => exact h
  | cons e events ih => exact ih (h.step e)

theorem isRegular_of_empty (h : start.registry = {}) : start.IsRegular := by
  refine ⟨fun id r hr => ?_, fun p r hr => ?_⟩
  · rw [h] at hr
    cases hr
  · rw [h] at hr
    cases p <;> cases hr

theorem IsRegular.isCanonical (h : g.IsRegular) (hlive : g.registry.live? id = some r) {s : String}
    {item : Item} (hitem : r.item? s = some item) : item.IsCanonical :=
  (h.canonical (.resource id) r (Registry.live?_eq_some_iff.mp hlive).1).items item
    (List.mem_of_find?_eq_some hitem)

theorem IsRegular.sound_live (h : g.IsRegular) (hlive : g.registry.live? id = some r) : r.Sound :=
  h.sound id r (Registry.live?_eq_some_iff.mp hlive).1

/-! ### What is waited for -/

theorem IsPending.exists_awaits (h : g.IsPending id s) :
    ∃ t : Target, t.suffix = s ∧ g.Awaits id t := by
  obtain ⟨r, hr, hpending⟩ := h
  obtain ⟨t, ht, hs⟩ := Resource.isSome_pendingChange?_iff.mp hpending
  exact ⟨t, hs, r, hr, List.mem_map_of_mem ht⟩

theorem Awaits.isPending (h : g.Awaits id t) : g.IsPending id t.suffix := by
  obtain ⟨r, hr, hmem⟩ := h
  obtain ⟨u, hu, heq⟩ := List.mem_map.mp hmem
  exact ⟨r, hr, Resource.isSome_pendingChange?_iff.mpr ⟨u, hu, (Target.eq_of_asQueued_eq heq).1⟩⟩

instance (g : Gateway) (id : ResourceId) (s : String) : Decidable (g.IsPending id s) :=
  decidable_of_iff (∃ r ∈ g.registry.resource? id, (r.pendingChange? s).isSome = true) Iff.rfl

/-- What is waited for with a change queued is waited for already, or it is the target of the change,
with the origin of what it supersedes. -/
theorem Awaits.of_queue {c : StateChange} {u : Target} (hr : r.Sound)
    (hresource : g.registry.resource? id = some r) (htargets : c.targets = [u])
    (h : (g.queue id c).Awaits id t) :
    (t.suffix ≠ u.suffix ∧ g.Awaits id t) ∨ t.asQueued = (u.adopt r.pendingTargets).asQueued := by
  obtain ⟨q, hq, hmem⟩ := h
  rw [resource?_queue, if_pos rfl, hresource, Option.map_some] at hq
  obtain rfl := Option.some.inj hq
  have hnodup : (c.targets.map (·.suffix)).Nodup := by
    rw [htargets]
    exact List.nodup_singleton _
  rw [Resource.pendingTargets_addChange hr.distinct hnodup, htargets, List.map_append,
    List.mem_append] at hmem
  rcases hmem with hold | hnew
  · obtain ⟨w, hw, heq⟩ := List.mem_map.mp hold
    obtain ⟨hw, hfree⟩ := List.mem_filter.mp hw
    rw [(Target.eq_of_asQueued_eq heq).1] at hfree
    exact .inl ⟨by simpa using hfree, r, hresource, heq ▸ List.mem_map_of_mem hw⟩
  · exact .inr (List.mem_singleton.mp hnew)

/-- **Only a write of an item makes it be waited for.** -/
theorem Awaits.of_step (hg : g.IsRegular) (he : ∀ v, e ≠ .written id t.suffix v)
    (h : (g.step e).Awaits id t) : g.Awaits id t := by
  -- Only a write queues a target, and one for this suffix is excluded.
  by_cases hwritten : ∃ i s v, e = .written i s v
  · obtain ⟨i, s, v, rfl⟩ := hwritten
    rcases g.grows_written i s v with hgrows | ⟨r, item, c, u, hr, -, -, htargets, rfl, -, -, hgrows⟩
    · exact h.of_grows hgrows
    · have hqueued := Awaits.of_grows hgrows h
      by_cases hid : i = id
      · obtain rfl := hid
        rcases Awaits.of_queue (hg.sound i r hr) hr htargets hqueued with ⟨-, hold⟩ | hnew
        · exact hold
        · have hs := (Target.eq_of_asQueued_eq hnew).1
          rw [Target.adopt_suffix] at hs
          exact absurd (hs ▸ rfl) (he v)
      · obtain ⟨q, hq, hmem⟩ := hqueued
        rw [resource?_queue, if_neg (Ne.symm hid)] at hq
        exact ⟨q, hq, hmem⟩
  · exact h.of_grows (grows_step fun i s v heq => hwritten ⟨i, s, v, heq⟩)

theorem Awaits.of_run (hg : g.IsRegular) (hevents : ∀ e ∈ events, ∀ v, e ≠ .written id t.suffix v)
    (h : (g.run events).Awaits id t) : g.Awaits id t := by
  induction events generalizing g with
  | nil => exact h
  | cons e events ih =>
    exact .of_step hg (hevents e List.mem_cons_self)
      (ih (hg.step e) (fun e he => hevents e (List.mem_cons_of_mem _ he)) h)

/-- What is waited for of an offset that is not written was waited for already. -/
theorem Awaits.of_sparing (hg : g.IsRegular) (hspares : ∀ e ∈ events, e.SparesOffset id)
    (hs : t.suffix = Suffix.offset) (h : (g.run events).Awaits id t) : g.Awaits id t :=
  h.of_run hg fun e he v => hs ▸ (hspares e he).2 v

/-- A refused write of the offset makes nothing be waited for. -/
theorem awaits_of_unplanned {cause : Error} (hlive : g.registry.live? id = some r)
    (hmake : WritePlan.make r (g.registry.owner? id) g.catalog s v = .error cause)
    (ht : (g.step (.written id s v)).Awaits id t) : g.Awaits id t := by
  rw [step, writeItem_of_unplanned hlive hmake] at ht
  exact ht

/-- **What a write of the offset makes be waited for**: the planned value, and if none was waited for
before, with what the offset held. -/
theorem IsWired.of_awaits_written {plan : WritePlan} (h : g.IsWired id r) (hr : r.Sound)
    (hmake : WritePlan.make r (g.registry.owner? id) g.catalog Suffix.offset v = .ok plan)
    (hs : t.suffix = Suffix.offset) (ht : (g.step (.written id Suffix.offset v)).Awaits id t) :
    t.value = plan.value ∧
      (¬ g.IsPending id Suffix.offset → t.previous = g.held? id Suffix.offset) := by
  have hresource := (Registry.live?_eq_some_iff.mp h.live).1
  obtain ⟨item, hplanned⟩ := exists_planned h.live hmake
  obtain ⟨m, hroute⟩ := h.offset v plan hmake
  obtain ⟨g', hwrite, htraffic⟩ := hplanned.managed hroute
  rw [step, hwrite] at ht
  rcases Awaits.of_queue hr hresource rfl (ht.of_grows htraffic.grows) with ⟨hne, -⟩ | hnew
  · exact absurd (hs.trans hplanned.names.symm) hne
  · obtain ⟨-, hvalue, hprevious, -⟩ := Target.eq_of_asQueued_eq hnew
    rw [Target.adopt_value] at hvalue
    refine ⟨hvalue, fun hidle => ?_⟩
    rcases Target.adopt_previous r.pendingTargets
      { suffix := plan.suffix, value := plan.value, previous := plan.previous,
        params := some m.params } with hown | ⟨w, hw, hsame, -⟩
    · rw [hprevious, hown, hplanned.previous, held?_of_live? h.live, Resource.value?, hplanned.found,
        Option.bind_some]
    · -- An older target would be waited for.
      exact absurd ⟨r, hresource, Resource.isSome_pendingChange?_iff.mpr
        ⟨w, hw, hsame.trans hplanned.names⟩⟩ hidle

/-! ### Twins -/

/-- Vendors answer a write of the temperature alike, if one is asked. -/
def AgreesOn (g g' : Gateway) (id : ResourceId) (e : GatewayEvent) : Prop :=
  ∀ v, e = .written id Suffix.temperature v → ∀ r plan, g.registry.live? id = some r →
    WritePlan.make r (g.registry.owner? id) g.catalog Suffix.temperature v = .ok plan →
    plan.route = .vendor →
      (g.writeItem id Suffix.temperature v).2 = (g'.writeItem id Suffix.temperature v).2

/-- Two gateways that agree on all that the temperature of a resource depends on, but for its
offset. -/
structure Twins (g g' : Gateway) (id : ResourceId) (r r' : Resource) : Prop where
  wired : g.IsWired id r
  live : g'.registry.live? id = some r'
  shape : Resource.SameShape r r'
  devices : g'.registry.devices = g.registry.devices
  catalog : g'.catalog = g.catalog
  temperature : r'.value? Suffix.temperature = r.value? Suffix.temperature

namespace Twins

theorem wired' (h : Twins g g' id r r') : g'.IsWired id r' :=
  h.wired.of_sameShape h.live h.shape h.devices h.catalog

theorem make_eq (h : Twins g g' id r r') (s : String) (v : Value) :
    WritePlan.make r' (g'.registry.owner? id) g'.catalog s v =
      (WritePlan.make r (g.registry.owner? id) g.catalog s v).map fun plan =>
        { plan with previous := r'.value? s } := by
  rw [owner?_congr (Registry.live?_eq_some_iff.mp h.wired.live).1
    (Registry.live?_eq_some_iff.mp h.live).1 h.shape h.devices, h.catalog,
    WritePlan.make_of_sameShape h.shape]

theorem held?_eq (h : Twins g g' id r r') :
    g'.held? id Suffix.temperature = g.held? id Suffix.temperature := by
  rw [held?_of_live? h.live, held?_of_live? h.wired.live, h.temperature]

/-- A wired resource is the twin of any later state of it with the same temperature. -/
theorem of_sameShape (h : g.IsWired id r) (hlive : g'.registry.live? id = some r')
    (hshape : Resource.SameShape r r') (hdevices : g'.registry.devices = g.registry.devices)
    (hcatalog : g'.catalog = g.catalog)
    (hheld : g'.held? id Suffix.temperature = g.held? id Suffix.temperature) :
    Twins g g' id r r' := by
  rw [held?_of_live? hlive, held?_of_live? h.live] at hheld
  exact ⟨h, hlive, hshape, hdevices, hcatalog, hheld⟩

/-- After an ordinary event on both sides, twins are twins if they hold the same temperature. -/
theorem of_step (h : Twins g g' id r r') (he : e.IsOrdinary)
    (hheld : (g'.step e).held? id Suffix.temperature = (g.step e).held? id Suffix.temperature) :
    ∃ q q', Twins (g.step e) (g'.step e) id q q' := by
  obtain ⟨q, hq, hshape, hdevices, hcatalog⟩ := exists_sameShape_step he h.wired.live
  obtain ⟨q', hq', hshape', hdevices', hcatalog'⟩ := exists_sameShape_step he h.live
  exact ⟨q, q', .of_sameShape (h.wired.of_sameShape hq hshape hdevices hcatalog) hq'
    (hshape.symm.trans (h.shape.trans hshape')) (hdevices'.trans (h.devices.trans hdevices.symm))
    (hcatalog'.trans (h.catalog.trans hcatalog.symm)) hheld⟩

section Regular

variable (h : Twins g g' id r r') (hg : g.IsRegular) (hg' : g'.IsRegular)
include h hg hg'

/-- What is made of the value of the temperature regardless of times is the same for both. -/
theorem bind_item? {f f' : Item → Option Value}
    (hf : ∀ item item' : Item, item.IsCanonical → item'.IsCanonical → item'.shape = item.shape →
      item'.value = item.value → f' item' = f item) :
    (r'.item? Suffix.temperature).bind f' = (r.item? Suffix.temperature).bind f := by
  cases hitem : r.item? Suffix.temperature with
  | none =>
    have hshape := h.shape.item Suffix.temperature
    rw [hitem, Option.map_none, Option.map_eq_none_iff] at hshape
    rw [hshape]
    rfl
  | some item =>
    obtain ⟨item', hitem', hshape⟩ := h.shape.exists_item? hitem
    have hvalue := h.temperature
    rw [Resource.value?, Resource.value?, hitem, hitem', Option.bind_some, Option.bind_some]
      at hvalue
    rw [hitem', Option.bind_some, Option.bind_some]
    exact hf item item' (hg.isCanonical h.wired.live hitem) (hg'.isCanonical h.live hitem') hshape
      hvalue

/-- A write of the temperature leaves the same in that of twins, if vendors agree about it. -/
theorem held?_written (hagree : g.AgreesOn g' id (.written id Suffix.temperature v)) :
    (g'.step (.written id Suffix.temperature v)).held? id Suffix.temperature =
      (g.step (.written id Suffix.temperature v)).held? id Suffix.temperature := by
  have hplans := h.make_eq Suffix.temperature v
  cases hmake : WritePlan.make r (g.registry.owner? id) g.catalog Suffix.temperature v with
  | error e =>
    rw [hmake] at hplans
    rw [step, step, writeItem_of_unplanned h.live hplans, writeItem_of_unplanned h.wired.live hmake,
      h.held?_eq]
  | ok plan =>
    rw [hmake] at hplans
    obtain ⟨item, hplanned⟩ := exists_planned h.wired.live hmake
    obtain ⟨item', hplanned'⟩ := exists_planned h.live hplans
    -- Once both writes are accepted, both items take the value of the plan.
    have haccepted : ∀ answer answer', (g.writeItem id Suffix.temperature v).2 = .ok answer →
        (g'.writeItem id Suffix.temperature v).2 = .ok answer' →
        (g'.step (.written id Suffix.temperature v)).held? id Suffix.temperature =
          (g.step (.written id Suffix.temperature v)).held? id Suffix.temperature := by
      intro answer answer' hanswer hanswer'
      have hsame : (r'.item? Suffix.temperature).bind (fun i =>
            (i.setIfFits plan.value g'.now).value) =
          (r.item? Suffix.temperature).bind fun i => (i.setIfFits plan.value g.now).value :=
        h.bind_item? hg hg' fun i i' hi hi' hshape hvalue =>
          hi.value_setIfFits_eq hi' hshape hvalue _ _ _
      rw [hplanned.found, hplanned'.found, Option.bind_some, Option.bind_some] at hsame
      rw [Gateway.held?_written hplanned' hanswer', Gateway.held?_written hplanned hanswer, hsame]
    -- Only a vendor may refuse a planned write, and here the premise says that it answers alike.
    by_cases hroute : plan.route = .vendor
    · have hsame := hagree v rfl r plan h.wired.live hmake hroute
      cases hanswer : (g.writeItem id Suffix.temperature v).2 with
      | error e =>
        rw [step, step, held?_of_registry_eq (registry_of_refused (hsame.symm.trans hanswer)),
          held?_of_registry_eq (registry_of_refused hanswer), h.held?_eq]
      | ok answer => exact haccepted answer answer hanswer (hsame.symm.trans hanswer)
    · obtain ⟨answer, hanswer⟩ := hplanned.exists_answer hroute
      obtain ⟨answer', hanswer'⟩ := hplanned'.exists_answer hroute
      exact haccepted answer answer' hanswer hanswer'

/-- **What an event leaves in the temperature is the same for twins**, unless it writes the offset or
confirms a write of it, or vendors disagree about it. -/
theorem held?_step (he : e.SparesOffset id) (hagree : g.AgreesOn g' id e)
    (hquiet : ¬ g.Confirms id e) (hquiet' : ¬ g'.Confirms id e) :
    (g'.step e).held? id Suffix.temperature = (g.step e).held? id Suffix.temperature := by
  have hself := h.held?_eq
  have hsound := hg.sound_live h.wired.live
  have hsound' := hg'.sound_live h.live
  -- The twins hold one temperature, and only a write or a report of this resource could part them.
  cases e with
  | written i s v =>
    by_cases hid : i = id
    · obtain rfl := hid
      by_cases hs : s = Suffix.temperature
      · -- A temperature that is written is taken alike, whatever the correction was.
        obtain rfl := hs
        exact h.held?_written hg hg' hagree
      · rw [h.wired'.held?_written_of_ne v hs, h.wired.held?_written_of_ne v hs, h.temperature]
    · rw [held?_written_of_ne g' s v (Ne.symm hid), held?_written_of_ne g s v (Ne.symm hid), hself]
  | reported i s x =>
    by_cases hid : i = id
    · obtain rfl := hid
      by_cases hs : s = Suffix.offset
      · obtain rfl := hs
        -- An offset is reported, but it confirms nothing in either gateway, so nothing is
        -- corrected.
        rcases held?_reported_offset h.live hsound' x with ⟨-, hheld'⟩ | ⟨hconfirms, -⟩
        · rcases held?_reported_offset h.wired.live hsound x with ⟨-, hheld⟩ | ⟨hconfirms, -⟩
          · rw [hheld', hheld, h.temperature]
          · exact absurd hconfirms hquiet
        · exact absurd hconfirms hquiet'
      · rw [held?_reported h.live hsound' hs, held?_reported h.wired.live hsound hs]
        -- A measurement is set as it was reported, and both items have one type.
        split_ifs with hsame
        · subst hsame
          exact h.bind_item? hg hg' fun item item' hi hi' hshape hvalue =>
            hi.value_setIfFits_eq hi' hshape hvalue _ _ _
        · exact h.temperature
    · rw [held?_reported_of_ne g' s x (Ne.symm hid), held?_reported_of_ne g s x (Ne.symm hid), hself]
  | ticked =>
    rw [Gateway.step, Gateway.step, held?_beside (beside_tick g'), held?_beside (beside_tick g),
      hself]
  | outside change => exact hself
  | _ => cases he.1

end Regular

end Twins

/-- Something holds of each event where it comes in two runs of the same events. -/
def Throughout (P : Gateway → Gateway → GatewayEvent → Prop) (g g' : Gateway)
    (events : List GatewayEvent) : Prop :=
  ∀ before e, before ++ [e] <+: events → P (g.run before) (g'.run before) e

namespace Throughout

variable {P : Gateway → Gateway → GatewayEvent → Prop} {events' : List GatewayEvent}

theorem head (h : Throughout P g g' (e :: events)) : P g g' e :=
  h [] e (by simp)

theorem left (h : Throughout P g g' (events ++ events')) : Throughout P g g' events :=
  fun before e hbefore => h before e (hbefore.trans (List.prefix_append events events'))

theorem right (h : Throughout P g g' (events ++ events')) :
    Throughout P (g.run events) (g'.run events) events' := by
  intro before e hbefore
  have hwhole := h (events ++ before) e (by
    rw [List.append_assoc]
    exact List.prefix_append_right_inj events |>.mpr hbefore)
  rw [run_append, run_append] at hwhole
  exact hwhole

theorem tail (h : Throughout P g g' (e :: events)) :
    Throughout P (g.step e) (g'.step e) events := by
  have hwhole : Throughout P g g' ([e] ++ events) := h
  exact hwhole.right

end Throughout

/-- No event confirms a write of the offset. -/
def NeverConfirms (g : Gateway) (id : ResourceId) (events : List GatewayEvent) : Prop :=
  Throughout (fun g _ e => ¬ g.Confirms id e) g g events

/-- Vendors answer all writes of the temperature alike in two runs. -/
def AgreesThroughout (g g' : Gateway) (id : ResourceId) (events : List GatewayEvent) : Prop :=
  Throughout (fun g g' e => g.AgreesOn g' id e) g g' events

/-- While a write of the offset stays pending, no event confirms one. -/
theorem neverConfirms_of_isPending (hg : g.IsRegular) (hspares : ∀ e ∈ events, e.SparesOffset id)
    (h : (g.run events).IsPending id Suffix.offset) : g.NeverConfirms id events := by
  rintro before e ⟨after, rfl⟩ ⟨-, -, hgone⟩
  obtain ⟨t, hs, ht⟩ := h.exists_awaits
  rw [run_append, run_concat] at ht
  have hthen : ((g.run before).step e).Awaits id t :=
    ht.of_sparing ((hg.run before).step e)
      (fun e' he' => hspares e' (List.mem_append_right _ he')) hs
  exact hgone (hs ▸ hthen.isPending)

/-- **Twins stay twins** while the offset is not written and no write of it confirmed. -/
theorem Twins.run (h : Twins g g' id r r') (hg : g.IsRegular) (hg' : g'.IsRegular)
    (hspares : ∀ e ∈ events, e.SparesOffset id) (hagree : g.AgreesThroughout g' id events)
    (hquiet : g.NeverConfirms id events) (hquiet' : g'.NeverConfirms id events) :
    ∃ q q', Twins (g.run events) (g'.run events) id q q' := by
  induction events generalizing g g' r r' with
  | nil => exact ⟨r, r', h⟩
  | cons e events ih =>
    have he := hspares e List.mem_cons_self
    obtain ⟨q, q', hstep⟩ := h.of_step he.1
      (h.held?_step hg hg' he (Throughout.head hagree) (Throughout.head hquiet)
        (Throughout.head hquiet'))
    exact ih hstep (hg.step e) (hg'.step e) (fun e he => hspares e (List.mem_cons_of_mem _ he))
      (Throughout.tail hagree) (Throughout.tail hquiet) (Throughout.tail hquiet')

/-! ### The next write -/

/-- A write of the offset is taken for a value. -/
def TakesOffset (g : Gateway) (id : ResourceId) (v w : Value) : Prop :=
  ∃ r plan, g.registry.live? id = some r ∧
    WritePlan.make r (g.registry.owner? id) g.catalog Suffix.offset v = .ok plan ∧ plan.value = w

/-- A report that confirms the next write of the offset corrects the temperature by the difference of
the written number to that of the origin. -/
theorem IsWired.corrected {plan : WritePlan} {z : Value} (h : g.IsWired id r) (hg : g.IsRegular)
    (hmake : WritePlan.make r (g.registry.owner? id) g.catalog Suffix.offset v = .ok plan)
    (hspares : ∀ e ∈ events, e.SparesOffset id)
    (hlive : ((g.step (.written id Suffix.offset v)).run events).registry.live? id = some r')
    (hconfirms : ((g.step (.written id Suffix.offset v)).run events).Confirms id
      (.reported id Suffix.offset z)) :
    ∃ t ∈ r'.pendingTargets, t.suffix = Suffix.offset ∧
      (¬ g.IsPending id Suffix.offset → t.previous = g.held? id Suffix.offset) ∧
      (((g.step (.written id Suffix.offset v)).run events).step
        (.reported id Suffix.offset z)).held? id Suffix.temperature =
          (r'.item? Suffix.temperature).bind fun i =>
            (i.correctedBy (offsetChange t.previous plan.value)
              ((g.step (.written id Suffix.offset v)).run events).now).value := by
  have hwritten := hg.step (.written id Suffix.offset v)
  have hr' := (hwritten.run events).sound_live hlive
  rcases held?_reported_offset hlive hr' z with ⟨hquiet, -⟩ | ⟨-, t, ht, hs, hheld⟩
  · exact absurd hconfirms hquiet
  · have hawaits : ((g.step (.written id Suffix.offset v)).run events).Awaits id t :=
      ⟨r', (Registry.live?_eq_some_iff.mp hlive).1, List.mem_map_of_mem ht⟩
    obtain ⟨hvalue, hprevious⟩ := h.of_awaits_written (hg.sound_live h.live) hmake hs
      (hawaits.of_sparing hwritten hspares hs)
    exact ⟨t, ht, hs, hprevious, by rw [hheld, hvalue]⟩

/-- A wired resource and what a write of its offset makes of it are twins. -/
theorem IsWired.twins_written (h : g.IsWired id r) (v : Value) :
    ∃ r', Twins g (g.step (.written id Suffix.offset v)) id r r' := by
  obtain ⟨r', hr', hshape, hdevices, hcatalog⟩ :=
    exists_sameShape_step (e := .written id Suffix.offset v) trivial h.live
  refine ⟨r', .of_sameShape h hr' hshape hdevices hcatalog ?_⟩
  rw [h.held?_written_of_ne v (by decide), held?_of_live? h.live]

/-- Twins stay twins with a write of the offset. -/
theorem Twins.written (h : Twins g g' id r r') (v : Value) :
    ∃ q q', Twins (g.step (.written id Suffix.offset v)) (g'.step (.written id Suffix.offset v)) id
      q q' := by
  apply h.of_step (e := .written id Suffix.offset v) trivial
  rw [h.wired'.held?_written_of_ne v (by decide), h.wired.held?_written_of_ne v (by decide),
    h.temperature]

/-- A write of the offset that is waited for after it was not before has been planned. -/
theorem exists_make_of_isPending (hg : g.IsRegular) (hlive : g.registry.live? id = some r)
    (hidle : ¬ g.IsPending id Suffix.offset) (hspares : ∀ e ∈ events, e.SparesOffset id)
    (h : ((g.step (.written id Suffix.offset v)).run events).IsPending id Suffix.offset) :
    ∃ plan, WritePlan.make r (g.registry.owner? id) g.catalog Suffix.offset v = .ok plan := by
  cases hmake : WritePlan.make r (g.registry.owner? id) g.catalog Suffix.offset v with
  | ok plan => exact ⟨plan, rfl⟩
  | error e =>
    obtain ⟨t, hs, ht⟩ := h.exists_awaits
    have hwritten := ht.of_sparing (hg.step _) hspares hs
    exact absurd (hs ▸ (awaits_of_unplanned hlive hmake hwritten).isPending) hidle

/-- **The next write of the offset in twins**: if none was waited for in one of them, and a report
confirms the next one in both, then the same temperature is corrected in both, by the difference of
the written number to the origin in the one, and to what the offset held in the other. -/
theorem Twins.corrected {z : Value} (h : Twins g g' id r r') (hg : g.IsRegular) (hg' : g'.IsRegular)
    (hidle : ¬ g'.IsPending id Suffix.offset) (hspares : ∀ e ∈ events, e.SparesOffset id)
    (hagree : (g.step (.written id Suffix.offset v)).AgreesThroughout
      (g'.step (.written id Suffix.offset v)) id events)
    (hconfirms : ((g.step (.written id Suffix.offset v)).run events).Confirms id
      (.reported id Suffix.offset z))
    (hconfirms' : ((g'.step (.written id Suffix.offset v)).run events).Confirms id
      (.reported id Suffix.offset z)) :
    ∃ plan q t now,
      WritePlan.make r (g.registry.owner? id) g.catalog Suffix.offset v = .ok plan ∧
      ((g.step (.written id Suffix.offset v)).run events).registry.live? id = some q ∧
      t ∈ q.pendingTargets ∧ t.suffix = Suffix.offset ∧
      (¬ g.IsPending id Suffix.offset → t.previous = g.held? id Suffix.offset) ∧
      (((g.step (.written id Suffix.offset v)).run events).step
        (.reported id Suffix.offset z)).held? id Suffix.temperature =
          ((q.item? Suffix.temperature).bind fun i =>
            (i.correctedBy (offsetChange t.previous plan.value) now).value) ∧
      (((g'.step (.written id Suffix.offset v)).run events).step
        (.reported id Suffix.offset z)).held? id Suffix.temperature =
          ((q.item? Suffix.temperature).bind fun i =>
            (i.correctedBy (offsetChange (g'.held? id Suffix.offset) plan.value) now).value) := by
  obtain ⟨p, p', hwritten⟩ := h.written v
  have hnext := hg.step (.written id Suffix.offset v)
  have hnext' := hg'.step (.written id Suffix.offset v)
  -- While the write is waited for, nothing else is confirmed, so twins they stay.
  obtain ⟨q, q', htwins⟩ := hwritten.run hnext hnext' hspares hagree
    (neverConfirms_of_isPending hnext hspares hconfirms.2.1)
    (neverConfirms_of_isPending hnext' hspares hconfirms'.2.1)
  obtain ⟨plan', hmake'⟩ := exists_make_of_isPending hg' h.live hidle hspares hconfirms'.2.1
  have hplans := h.make_eq Suffix.offset v
  rw [hmake'] at hplans
  cases hmake : WritePlan.make r (g.registry.owner? id) g.catalog Suffix.offset v with
  | error e =>
    rw [hmake] at hplans
    cases hplans
  | ok plan =>
    rw [hmake] at hplans
    obtain rfl := Except.ok.inj hplans
    obtain ⟨t, ht, hs, hprevious, hheld⟩ :=
      h.wired.corrected hg hmake hspares htwins.wired.live hconfirms
    obtain ⟨t', -, -, hprevious', hheld'⟩ :=
      h.wired'.corrected hg' hmake' hspares htwins.live hconfirms'
    refine ⟨plan, q, t, _, rfl, htwins.wired.live, ht, hs, hprevious, hheld, ?_⟩
    rw [hheld', hprevious' hidle]
    exact htwins.bind_item? (hnext.run events) (hnext'.run events)
      fun item item' hi hi' hshape hvalue => hi.value_correctedBy_eq hi' hshape hvalue _ _ _

/-! ### Silence -/

/-- What an offset holds stays while it is neither written nor reported. -/
theorem held?_offset_step (he : e.SparesOffset id)
    (hsilent : ∀ x, e ≠ .reported id Suffix.offset x) :
    (g.step e).held? id Suffix.offset = g.held? id Suffix.offset := by
  -- No effect sets the offset, so besides its own write and report nothing does.
  have hderived : ¬ Suffix.IsDerived Suffix.offset := by
    unfold Suffix.IsDerived
    decide
  cases e with
  | written i s v =>
    by_cases hid : i = id
    · obtain rfl := hid
      have hs : Suffix.offset ≠ s := fun hs => he.2 v (hs ▸ rfl)
      rw [step]
      cases hanswer : (g.writeItem i s v).2 with
      | error cause => exact held?_of_registry_eq (registry_of_refused hanswer) i _
      | ok answer =>
        have hdeeds := (accounts_deeds (deeds_writeItem hanswer) Suffix.offset).2
        exact (hdeeds fun h => h.elim hs hderived).1
    · exact held?_written_of_ne g s v (Ne.symm hid) _
  | reported i s x =>
    by_cases hid : i = id
    · obtain rfl := hid
      have hs : Suffix.offset ≠ s := fun hs => hsilent x (hs ▸ rfl)
      rw [step, report]
      cases happly : g.applyReport i s x with
      | error cause => rfl
      | ok result =>
        obtain ⟨r, r', confirmed, hlive, htake, hdeeds⟩ := deeds_applyReport happly
        rw [((accounts_deeds hdeeds Suffix.offset).2 hderived).1,
          held?_putBack_takeReport hlive htake (by decide), if_neg hs, held?_of_live? hlive]
    · exact held?_reported_of_ne g s x (Ne.symm hid) _
  | ticked => exact held?_beside (beside_tick g) _
  | outside change => rfl
  | _ => cases he.1

theorem held?_offset_run (hspares : ∀ e ∈ events, e.SparesOffset id)
    (hsilent : ∀ e ∈ events, ∀ x, e ≠ .reported id Suffix.offset x) :
    (g.run events).held? id Suffix.offset = g.held? id Suffix.offset := by
  induction events generalizing g with
  | nil => rfl
  | cons e events ih =>
    have hstep := held?_offset_step (g := g) (hspares e List.mem_cons_self)
      (hsilent e List.mem_cons_self)
    rw [← hstep]
    exact ih (fun e he => hspares e (List.mem_cons_of_mem _ he))
      fun e he => hsilent e (List.mem_cons_of_mem _ he)

/-! ### Two histories -/

/-- What may happen with two writes of an offset, the first of which is lost and the second one
kept. -/
structure OffsetHistory where
  first : List GatewayEvent
  lost : Value
  between : List GatewayEvent
  kept : Value
  later : List GatewayEvent

namespace OffsetHistory

variable (c : OffsetHistory) (id : ResourceId)

/-- What comes before the second write, without the first one. -/
def sparing : List GatewayEvent :=
  c.first ++ c.between

/-- What comes before the second write. -/
def losing : List GatewayEvent :=
  c.first ++ .written id Suffix.offset c.lost :: c.between

/-- What comes with the second write. -/
def ending : List GatewayEvent :=
  .written id Suffix.offset c.kept :: c.later

/-- The first write comes to nothing: no event confirms a write of the offset before the second one,
and then the first one is no longer waited for.  But for the first write the two histories are the
same, answers of vendors included. -/
structure IsLost (start : Gateway) : Prop where
  wired : ∃ r, (start.run c.first).IsWired id r
  between : ∀ e ∈ c.between, e.SparesOffset id
  later : ∀ e ∈ c.later, e.SparesOffset id
  agrees : (start.run c.first).AgreesThroughout
    (start.run (c.first ++ [.written id Suffix.offset c.lost])) id (c.between ++ c.ending id)
  sparing : (start.run c.first).NeverConfirms id c.between
  losing : (start.run (c.first ++ [.written id Suffix.offset c.lost])).NeverConfirms id c.between
  expired : ¬ (start.run (c.losing id)).IsPending id Suffix.offset

end OffsetHistory

variable {c : OffsetHistory}

theorem OffsetHistory.run_losing (start : Gateway) :
    start.run (c.losing id) =
      ((start.run c.first).step (.written id Suffix.offset c.lost)).run c.between := by
  rw [OffsetHistory.losing, run_append]
  rfl

/-- The two histories of a lost write lead to twins, before the second write. -/
theorem OffsetHistory.IsLost.exists_twins (h : c.IsLost id start) (hstart : start.registry = {}) :
    ∃ r r', Twins (start.run c.sparing) (start.run (c.losing id)) id r r' := by
  obtain ⟨r, hwired⟩ := h.wired
  obtain ⟨r', htwins⟩ := hwired.twins_written c.lost
  have hfirst := (isRegular_of_empty hstart).run c.first
  have hlosing := h.losing
  have hagrees := h.agrees
  rw [run_concat] at hlosing hagrees
  rw [OffsetHistory.sparing, run_append, OffsetHistory.run_losing]
  exact htwins.run hfirst (hfirst.step _) h.between (Throughout.left hagrees) h.sparing hlosing

/-- And they agree on what comes with it. -/
theorem OffsetHistory.IsLost.agrees_ending (h : c.IsLost id start) :
    (start.run c.sparing).AgreesThroughout (start.run (c.losing id)) id (c.ending id) := by
  have hagrees := h.agrees
  rw [run_concat] at hagrees
  rw [OffsetHistory.sparing, run_append, OffsetHistory.run_losing]
  exact Throughout.right hagrees

/-- **A write that is given up shifts the next correction.**  Take two histories that begin without
resources and differ in one write of an offset, which comes to nothing.  If one report confirms the
next write in both, then the temperature is corrected by the difference of the number written to the
one that the offset held before, which is exact unless it overflows: to the origin of the write, and,
in the history with the write that was given up, to what that one has left in the offset, which is what
it set it to if the device does not report the offset meanwhile.  If the two are the same, so are the
temperatures; and as far as the sums fit, the temperatures are the same only if the two are. -/
theorem expired_write_shifts_correction {z : Value} (hstart : start.registry = {})
    (h : c.IsLost id start)
    (hsparing : (start.run (c.sparing ++ c.ending id)).Confirms id (.reported id Suffix.offset z))
    (hlosing : (start.run (c.losing id ++ c.ending id)).Confirms id
      (.reported id Suffix.offset z)) :
    let left := (start.run (c.losing id)).held? id Suffix.offset
    let report := GatewayEvent.reported id Suffix.offset z
    let temperature :=
      (start.run (c.sparing ++ c.ending id ++ [report])).held? id Suffix.temperature
    let temperature' :=
      (start.run (c.losing id ++ c.ending id ++ [report])).held? id Suffix.temperature
    ∃ w origin, (start.run c.sparing).TakesOffset id c.kept w ∧
      IsOrigin start (c.sparing ++ c.ending id) id Suffix.offset origin ∧
      (¬ (start.run c.sparing).IsPending id Suffix.offset →
        origin = (start.run c.sparing).held? id Suffix.offset) ∧
      ((∀ e ∈ c.between, ∀ x, e ≠ .reported id Suffix.offset x) →
        left = (start.run (c.first ++ [.written id Suffix.offset c.lost])).held? id Suffix.offset) ∧
      (∀ previous, offsetOverflows previous w = false →
        offsetChange previous w = w.number - numberHeld previous) ∧
      (numberHeld origin = numberHeld left → temperature' = temperature) ∧
      ∀ r item n, (start.run (c.sparing ++ c.ending id)).registry.live? id = some r →
        r.item? Suffix.temperature = some item →
        item.HoldsSum n (offsetChange origin w) → item.HoldsSum n (offsetChange left w) →
          temperature = some (item.type.integer (n + offsetChange origin w)) ∧
          temperature' = some (item.type.integer (n + offsetChange left w)) ∧
          (temperature' = temperature ↔ numberHeld origin = numberHeld left) := by
  intro left report temperature temperature'
  have hregular := isRegular_of_empty hstart
  have hg := hregular.run c.sparing
  have hg' := hregular.run (c.losing id)
  obtain ⟨r, r', htwins⟩ := h.exists_twins hstart
  -- The origin is what the write inherited, or what the item held when it was written.
  have horigin := isOrigin_run (congrArg Registry.resources hstart) (c.sparing ++ c.ending id) id
  have hagrees := Throughout.tail h.agrees_ending
  have hending : ∀ g : Gateway, g.run (c.ending id) =
      (g.step (.written id Suffix.offset c.kept)).run c.later := fun _ => rfl
  simp only [temperature, temperature', run_concat]
  rw [run_append, hending] at hsparing hlosing horigin ⊢
  rw [run_append, hending]
  -- The twins differ by the lost write alone, and the report confirms the later write in both.
  obtain ⟨plan, q, t, now, hmake, hlive, ht, hs, hprevious, hheld, hheld'⟩ :=
    htwins.corrected hg hg' h.expired h.later hagrees hsparing hlosing
  rw [hheld, hheld']
  refine ⟨plan.value, t.previous, ⟨r, plan, htwins.wired.live, hmake, rfl⟩,
    hs ▸ horigin q t (Registry.live?_eq_some_iff.mp hlive).1 ht, hprevious, fun hsilent => ?_,
    fun previous hfits => offsetChange_of_fits (offsetOverflows_eq_false_iff.mp hfits),
    fun hsame => by rw [offsetChange_inj.mpr hsame], fun q₁ item n hq hitem hsum hsum' => ?_⟩
  · simp only [left]
    rw [OffsetHistory.run_losing, held?_offset_run h.between hsilent]
  · rw [hlive] at hq
    obtain rfl := Option.some.inj hq
    rw [hitem, Option.bind_some, Option.bind_some, hsum.value_correctedBy, hsum'.value_correctedBy]
    refine ⟨rfl, rfl, fun hsame => ?_, fun hsame => by rw [offsetChange_inj.mpr hsame]⟩
    -- One type takes integers within bounds faithfully, so equal temperatures had equal
    -- corrections.
    have hnumber := hsum'.integer_inj hsum (Option.some.inj hsame)
    have hchange : offsetChange t.previous plan.value = offsetChange left plan.value := by omega
    exact offsetChange_inj.mp hchange

/-- A thermometer is silent for three minutes after a write of its offset, and the write is given
up. -/
def silence : OffsetHistory where
  first := measured
  lost := .int 50
  between := [.outside (·.advance 180000), .ticked]
  kept := .int 70
  later := []

theorem isLost_silence : silence.IsLost ⟨2⟩ (thermometer "ZHATemperature") := by
  have hsetting : ∃ r ∈ ((thermometer "ZHATemperature").run measured).registry.live? ⟨2⟩,
      ∃ device ∈ ((thermometer "ZHATemperature").run measured).registry.owner? ⟨2⟩,
      ∃ item ∈ r.item? Suffix.offset,
        OffsetSetting ((thermometer "ZHATemperature").run measured) ⟨2⟩ r device item ∧
          r.isVirtual = false := by
    decide +kernel
  obtain ⟨r, -, device, -, item, -, hsetting, hphysical⟩ := hsetting
  -- The stretch in between holds no report, so nothing is confirmed in it.
  have hsilent : ∀ g : Gateway, g.NeverConfirms ⟨2⟩ silence.between := by
    rintro g before e hbefore ⟨⟨x, rfl⟩, -⟩
    have hmem := hbefore.subset (List.mem_append_right before (List.mem_singleton_self _))
    simp [silence] at hmem
  refine ⟨⟨r, hsetting.live, fun v plan hmake => ?_⟩, ?_, ?_, ?_, hsilent _, hsilent _, ?_⟩
  · obtain ⟨i, hi, -, -, -, -, hroute⟩ := WritePlan.make_cases hmake
    rw [hsetting.offset] at hi
    obtain rfl := Option.some.inj hi
    rw [hroute]
    exact hsetting.exists_route hphysical
  · simp [silence, GatewayEvent.SparesOffset, GatewayEvent.IsOrdinary, advance]
  · simp [silence]
  · intro before e hbefore v he
    have hmem := hbefore.subset (List.mem_append_right before (List.mem_singleton_self _))
    rw [he] at hmem
    simp [silence, OffsetHistory.ending, Suffix.temperature, Suffix.offset] at hmem
  · decide +kernel

theorem confirms_silence :
    ((thermometer "ZHATemperature").run (silence.sparing ++ silence.ending ⟨2⟩)).Confirms ⟨2⟩
        (.reported ⟨2⟩ Suffix.offset (.int 70)) ∧
      ((thermometer "ZHATemperature").run (silence.losing ⟨2⟩ ++ silence.ending ⟨2⟩)).Confirms ⟨2⟩
        (.reported ⟨2⟩ Suffix.offset (.int 70)) := by
  refine ⟨⟨⟨_, rfl⟩, ?_, ?_⟩, ⟨⟨_, rfl⟩, ?_, ?_⟩⟩ <;> decide +kernel

/-- The origin of the next write is not what the lost one has left, for the temperatures differ. -/
theorem origin_not_lost_in_silence :
    let start := thermometer "ZHATemperature"
    (start.run (silence.sparing ++ silence.ending ⟨2⟩)).Confirms ⟨2⟩
        (.reported ⟨2⟩ Suffix.offset (.int 70)) ∧
      (start.run (silence.losing ⟨2⟩)).held? ⟨2⟩ Suffix.offset = some (.int 50) ∧
      ∃ w origin, (start.run silence.sparing).TakesOffset ⟨2⟩ (.int 70) w ∧
        IsOrigin start (silence.sparing ++ silence.ending ⟨2⟩) ⟨2⟩ Suffix.offset origin ∧
        numberHeld origin ≠ 50 := by
  intro start
  obtain ⟨hsparing, hlosing⟩ := confirms_silence
  have hleft : (start.run (silence.losing ⟨2⟩)).held? ⟨2⟩ Suffix.offset = some (.int 50) := by
    decide +kernel
  have hdiffer : (start.run (silence.losing ⟨2⟩ ++ silence.ending ⟨2⟩ ++
        [.reported ⟨2⟩ Suffix.offset (.int 70)])).held? ⟨2⟩ Suffix.temperature ≠
      (start.run (silence.sparing ++ silence.ending ⟨2⟩ ++
        [.reported ⟨2⟩ Suffix.offset (.int 70)])).held? ⟨2⟩ Suffix.temperature := by
    decide +kernel
  obtain ⟨w, origin, htakes, horigin, -, -, -, hsame, -⟩ :=
    expired_write_shifts_correction rfl isLost_silence hsparing hlosing
  refine ⟨hsparing, hleft, w, origin, htakes, horigin, fun hnumber => hdiffer (hsame ?_)⟩
  rw [hnumber, hleft]
  rfl

/-- A lost write of 50, which no report matches and a tick gives up, distorts what comes of the next
write of 70: a temperature of 2000 becomes 2020, and 2070 without the lost write. -/
theorem silence_distorts_correction :
    let start := thermometer "ZHATemperature"
    let report := GatewayEvent.reported ⟨2⟩ Suffix.offset (.int 70)
    silence.IsLost ⟨2⟩ start ∧
      (start.run (silence.first ++ [.written ⟨2⟩ Suffix.offset silence.lost])).IsPending ⟨2⟩
        Suffix.offset ∧
      (start.run (silence.sparing ++ silence.ending ⟨2⟩)).Confirms ⟨2⟩ report ∧
      (start.run (silence.losing ⟨2⟩ ++ silence.ending ⟨2⟩)).Confirms ⟨2⟩ report ∧
      (start.run (silence.sparing ++ silence.ending ⟨2⟩ ++ [report])).held? ⟨2⟩
        Suffix.temperature = some (.int 2070) ∧
      (start.run (silence.losing ⟨2⟩ ++ silence.ending ⟨2⟩ ++ [report])).held? ⟨2⟩
        Suffix.temperature = some (.int 2020) := by
  refine ⟨isLost_silence, ?_, confirms_silence.1, confirms_silence.2, ?_, ?_⟩ <;> decide +kernel

end Gateway

end ZigbeeGateway
