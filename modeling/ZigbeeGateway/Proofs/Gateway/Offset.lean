import ZigbeeGateway.Proofs.Gateway.Correction
import ZigbeeGateway.Proofs.Gateway.History
import ZigbeeGateway.Proofs.Resource.Confirmation

/-!
# Offsets of managed devices

A resource of a managed device whose offset is written to the hardware is corrected once the device
confirms the write, and at no other time.  However writes, reports and ticks follow one another, the
measured items change in a confirming report only, and by the difference between the confirmed
offset and the one that was held before the first of the unconfirmed writes.

`OffsetSetting` is what has to hold of the resource, and `HasManagedOffset.run` says that it goes on
holding.  `OffsetSetting.written` and `OffsetSetting.reported` are what one write and one report do,
and `measurements_follow_confirmed_offsets` is the result for every history.
-/

namespace ZigbeeGateway

open Relation

namespace GatewayEvent

/-- Writes, reports and ticks, and anything outside of the registry and the descriptions, such as the
clock. -/
def IsOrdinary : GatewayEvent → Prop
  | .written .. | .reported .. | .ticked => True
  | .outside change => ∀ g, (change g).catalog = g.catalog
  | _ => False

/-- Writes and reports of the offset of one resource, ticks, and anything outside of the registry
and the descriptions, such as the clock. -/
def IsOffsetTraffic (id : ResourceId) : GatewayEvent → Prop
  | .written i s _ | .reported i s _ => i = id ∧ s = Suffix.offset
  | .ticked => True
  | .outside change => ∀ g, (change g).catalog = g.catalog
  | _ => False

theorem IsOffsetTraffic.isOrdinary {id : ResourceId} {e : GatewayEvent}
    (h : e.IsOffsetTraffic id) : e.IsOrdinary := by
  cases e <;> trivial

end GatewayEvent

namespace Gateway

variable {g g' start : Gateway} {id : ResourceId} {r r' : Resource} {device : Device} {item : Item}
  {e : GatewayEvent} {v w x : Value} {o : SetOutcome}

/-! ### The setting -/

/-- A live resource of a managed device, with an offset whose template says how to write it.  The
offset and the measured items are narrow and not static, and the humidity is of its own type. -/
structure OffsetSetting (g : Gateway) (id : ResourceId) (r : Resource) (device : Device)
    (item : Item) : Prop where
  live : g.registry.live? id = some r
  owner : g.registry.owner? id = some device
  managed : device.managed = true
  offset : r.item? Suffix.offset = some item
  write : ((WritePlan.template? g.catalog item).bind (·.write)).isSome = true
  narrow : item.type.isNarrow = true
  notStatic : item.isStatic = false
  temperature : IsCorrectable r Suffix.temperature
  humidity : ∀ i, r.item? Suffix.humidity = some i → i.type = .uint16 ∧ i.isStatic = false

/-- The setting can be decided. -/
instance : Decidable (OffsetSetting g id r device item) :=
  decidable_of_iff
    (g.registry.live? id = some r ∧ g.registry.owner? id = some device ∧ device.managed = true ∧
      r.item? Suffix.offset = some item ∧
      ((WritePlan.template? g.catalog item).bind (·.write)).isSome = true ∧
      item.type.isNarrow = true ∧ item.isStatic = false ∧
      (∀ i ∈ r.item? Suffix.temperature, i.type.isNarrow = true ∧ i.isStatic = false) ∧
      ∀ i ∈ r.item? Suffix.humidity, i.type = .uint16 ∧ i.isStatic = false)
    ⟨fun ⟨h₁, h₂, h₃, h₄, h₅, h₆, h₇, h₈, h₉⟩ => ⟨h₁, h₂, h₃, h₄, h₅, h₆, h₇, h₈, h₉⟩,
      fun ⟨h₁, h₂, h₃, h₄, h₅, h₆, h₇, h₈, h₉⟩ => ⟨h₁, h₂, h₃, h₄, h₅, h₆, h₇, h₈, h₉⟩⟩

theorem owner?_congr (hr : g.registry.resource? id = some r)
    (hr' : g'.registry.resource? id = some r')
    (hshape : Resource.SameShape r r') (hdevices : g'.registry.devices = g.registry.devices) :
    g'.registry.owner? id = g.registry.owner? id := by
  have huid := Resource.uniqueId_of_frame_eq hshape.frame
  simp only [Registry.owner?, hr, hr', Option.bind_eq_bind, Option.bind_some, huid,
    Registry.device?, hdevices]

theorem OffsetSetting.of_sameShape (h : OffsetSetting g id r device item)
    (hlive' : g'.registry.live? id = some r') (hshape : Resource.SameShape r r')
    (hdevices : g'.registry.devices = g.registry.devices) (hcatalog : g'.catalog = g.catalog) :
    ∃ item', OffsetSetting g' id r' device item' ∧ item'.shape = item.shape := by
  obtain ⟨item', hitem', hsame⟩ := hshape.exists_item? h.offset
  have htemplate : item'.template = item.template :=
    Item.eq_of_shape_eq Item.template (fun _ => rfl) hsame
  refine ⟨item', ⟨hlive', ?_, h.managed, hitem', ?_, ?_, ?_, h.temperature.of_sameShape hshape, ?_⟩,
    hsame⟩
  · rw [owner?_congr (Registry.live?_eq_some_iff.mp h.live).1
      (Registry.live?_eq_some_iff.mp hlive').1 hshape hdevices, h.owner]
  · rw [WritePlan.template?, htemplate, hcatalog]
    exact h.write
  · rw [Item.type_of_shape_eq hsame, h.narrow]
  · rw [Item.isStatic_of_shape_eq hsame, h.notStatic]
  · exact hshape.forall_item? (fun type static => type = .uint16 ∧ static = false) h.humidity

/-- Writes of an offset in this setting are managed, unless the resource is virtual. -/
theorem OffsetSetting.exists_route (h : OffsetSetting g id r device item)
    (hphysical : r.isVirtual = false) :
    ∃ m, WritePlan.chooseRoute r (g.registry.owner? id) (WritePlan.template? g.catalog item)
      Suffix.offset = .managed m := by
  obtain ⟨params, hparams⟩ := Option.isSome_iff_exists.mp h.write
  have hpolicy : (WritePolicy.of Suffix.offset).isSoftware = false := by decide
  unfold WritePlan.chooseRoute
  rw [h.owner, Option.filter_some, if_pos h.managed, hparams]
  simp only [hpolicy, hphysical, Bool.or_false, Bool.false_eq_true, ↓reduceIte]
  exact ⟨_, rfl⟩

/-! ### Traffic of an offset -/

/-- Traffic leaves a live resource live with its shape, and devices and descriptions as they are. -/
theorem Traffic.exists_sameShape {touched : String → Prop} (h : Traffic touched g g')
    (hlive : g.registry.live? id = some r) :
    ∃ r', g'.registry.live? id = some r' ∧ Resource.SameShape r r' ∧
      g'.registry.devices = g.registry.devices ∧ g'.catalog = g.catalog := by
  obtain ⟨r', hlive', hrun⟩ := h.exists_live? hlive
  exact ⟨r', hlive', Resource.Traffic.sameShape_run hrun, h.devices, h.catalog⟩

/-- So does every ordinary event. -/
theorem exists_sameShape_step (he : e.IsOrdinary) (hlive : g.registry.live? id = some r) :
    ∃ r', (g.step e).registry.live? id = some r' ∧ Resource.SameShape r r' ∧
      (g.step e).registry.devices = g.registry.devices ∧ (g.step e).catalog = g.catalog := by
  have hself : ∃ r', g.registry.live? id = some r' ∧ Resource.SameShape r r' ∧
      g.registry.devices = g.registry.devices ∧ g.catalog = g.catalog :=
    ⟨r, hlive, .refl r, rfl, rfl⟩
  cases e with
  | written i s v =>
    have hwritten := written_writeItem g i s v
    rw [step]
    generalize g.writeItem i s v = result at hwritten ⊢
    cases hwritten with
    | refused => exact hself
    | unsent q device plan =>
      obtain ⟨asked, heq, -⟩ := sendVendor_eq g q device plan
      rw [heq]
      exact hself
    | direct _ _ htraffic => exact htraffic.exists_sameShape hlive
    | @managed g' q item plan m h _ htraffic =>
      -- Queueing keeps the shape, and the rest of the write is traffic.
      obtain ⟨queued, hqueued, hsame⟩ :
          ∃ queued, (g.queue i (g.changeFor i plan m)).registry.live? id = some queued ∧
            Resource.SameShape r queued := by
        by_cases hid : id = i
        · exact hid ▸ ⟨_, live?_queue (hid ▸ hlive) _, Resource.sameShape_addChange r _⟩
        · refine ⟨r, ?_, .refl r⟩
          rw [Registry.live?_eq_some_iff, resource?_queue, if_neg hid]
          exact Registry.live?_eq_some_iff.mp hlive
      obtain ⟨r', hlive', hshape, hdevices, hcatalog⟩ := htraffic.exists_sameShape hqueued
      exact ⟨r', hlive', hsame.trans hshape, hdevices, hcatalog⟩
  | reported i s v => exact (traffic_report g i s v).exists_sameShape hlive
  | ticked =>
    have htick : Traffic (fun _ => False) g g.tick.1 := traffic_tick g
    exact htick.exists_sameShape hlive
  | outside change => exact ⟨r, hlive, .refl r, rfl, he g⟩
  | _ => cases he

/-- A physical resource with a managed offset. -/
def HasManagedOffset (g : Gateway) (id : ResourceId) : Prop :=
  ∃ r device item, OffsetSetting g id r device item ∧ r.isVirtual = false

/-- **The setting goes on** through the traffic of the offset. -/
theorem HasManagedOffset.run (h : HasManagedOffset g id) {traffic : List GatewayEvent}
    (htraffic : ∀ e ∈ traffic, e.IsOffsetTraffic id) : HasManagedOffset (g.run traffic) id := by
  induction traffic using List.reverseRecOn with
  | nil => exact h
  | append_singleton traffic e ih =>
    obtain ⟨r, device, item, hsetting, hphysical⟩ :=
      ih fun e he => htraffic e (List.mem_append_left _ he)
    obtain ⟨r', hlive', hshape, hdevices, hcatalog⟩ :=
      exists_sameShape_step (htraffic e (by simp)).isOrdinary hsetting.live
    obtain ⟨item', hsetting', -⟩ := hsetting.of_sameShape hlive' hshape hdevices hcatalog
    rw [run_concat]
    refine ⟨r', device, item', hsetting', ?_⟩
    rw [Resource.eq_of_frame_eq Resource.isVirtual (fun _ => rfl) hshape.frame, hphysical]

/-! ### What one event does to the measured items -/

/-- A write of the offset leaves all other values as they are. -/
theorem OffsetSetting.written (h : OffsetSetting g id r device item)
    (hphysical : r.isVirtual = false) (v : Value) :
    ∃ r', (g.step (.written id Suffix.offset v)).registry.live? id = some r' ∧
      ∀ s, s ≠ Suffix.offset → r'.value? s = r.value? s := by
  have hwritten := written_writeItem g id Suffix.offset v
  rw [step]
  generalize g.writeItem id Suffix.offset v = result at hwritten ⊢
  cases hwritten with
  | refused => exact ⟨r, h.live, fun _ _ => rfl⟩
  | unsent q device plan => exact ⟨r, registry_sendVendor g q device plan ▸ h.live, fun _ _ => rfl⟩
  | @direct g' q i plan hplanned hroute _ =>
    -- The route of the write is the managed one.
    have hq := hplanned.live
    rw [h.live] at hq
    obtain rfl := Option.some.inj hq
    have hi := hplanned.found
    rw [h.offset] at hi
    obtain rfl := Option.some.inj hi
    obtain ⟨m, hm⟩ := h.exists_route hphysical
    exact absurd (hplanned.route.trans hm) (hroute m)
  | @managed g' q i plan m _ _ htraffic =>
    obtain ⟨r', hlive', hrun⟩ := htraffic.exists_live? (live?_queue h.live (g.changeFor id plan m))
    refine ⟨r', hlive', fun s hs => ?_⟩
    rw [Resource.Traffic.value?_run hrun hs, Resource.value?, Resource.item?_addChange,
      Resource.value?]

/-- What taking a report of the offset does to the resource: the item takes the fitted value, and
the pending changes take it as the report. -/
theorem OffsetSetting.takeReport_cases (h : OffsetSetting g id r device item) {now : Instant}
    {confirmed : List StateChange}
    (htake : takeReport r Suffix.offset x now = .ok (r', o, confirmed)) :
    ∃ set w, item.type.coerce x = .ok w ∧ r.setValue Suffix.offset x now = .ok (set, o) ∧
      set.value? Suffix.offset = some w ∧ r' = (set.verifyReport Suffix.offset w).1 ∧
      confirmed = (set.verifyReport Suffix.offset w).2 := by
  obtain ⟨set, hset, hheard⟩ := Gateway.takeReport_cases htake
  obtain ⟨low, high, hbounds, -, -⟩ := DataType.exists_bounds?_of_isNarrow h.narrow
  obtain ⟨old, new, hold, hsetItem, -⟩ := Resource.setValue_cases hset
  rw [h.offset] at hold
  obtain rfl := Option.some.inj hold
  obtain ⟨w, hw, -⟩ := Item.set_cases hsetItem
  have hheld : set.value? Suffix.offset = some w :=
    Resource.value?_setValue h.offset h.notStatic hbounds hw hset
  -- The offset is no state, so the time of the last update is not touched.
  have hnote : noteUpdate set Suffix.offset now = set := if_neg (by decide)
  rw [hnote, hheld] at hheard
  rcases hheard with ⟨hnone, -⟩ | ⟨y, hy, rfl, rfl⟩
  · cases hnone
  · obtain rfl := Option.some.inj hy
    exact ⟨set, w, hw, hset, hheld, rfl, rfl⟩

/-- The difference of two narrow numbers, the second one zero if it is missing, is small. -/
theorem difference_range {t : DataType} (ht : t.isNarrow = true) (hw : t.coerce w = .ok w)
    {previous : Option Value} (hprevious : ∀ p, previous = some p → t.coerce p = .ok p) :
    -2 ^ 33 ≤ w.number - numberHeld previous ∧ w.number - numberHeld previous ≤ 2 ^ 33 := by
  obtain ⟨low, high, hbounds, hlow, hhigh⟩ := DataType.exists_bounds?_of_isNarrow ht
  obtain ⟨hw₁, hw₂, -, -⟩ := DataType.exists_eq_integer hbounds hhigh hw
  cases previous with
  | none =>
    rw [numberHeld, Option.map_none, Option.getD_none]
    omega
  | some p =>
    obtain ⟨hp₁, hp₂, -, -⟩ := DataType.exists_eq_integer hbounds hhigh (hprevious p rfl)
    rw [numberHeld, Option.map_some, Option.getD_some]
    omega

/-- What follows from a report that confirms one target of the offset. -/
theorem applyConfirmed_of_offset (g : Gateway) (id : ResourceId) {confirmed : List StateChange}
    {u : Target} (hconfirmed : StateChange.targetsOf confirmed = [u])
    (hu : u.suffix = Suffix.offset) :
    g.applyConfirmed id confirmed =
      if offsetChange u.previous u.value = 0 then
        g.noteOverflow (offsetOverflows u.previous u.value)
      else
        (g.noteOverflow (offsetOverflows u.previous u.value)).applyOffset id
          (offsetChange u.previous u.value) := by
  have hpolicy : WritePolicy.of Suffix.offset = .offset := by decide
  rw [applyConfirmed_of_singleton hconfirmed, hu, hpolicy]
  rfl

/-- A report of the offset that is taken: before what follows from it, the offset holds the fitted
value, all other values are what they were, and at most the one pending target of the offset is
confirmed. -/
theorem OffsetSetting.taken (h : OffsetSetting g id r device item) (hr : r.Sound)
    (happly : g.applyReport id Suffix.offset x = .ok (g', o)) :
    ∃ (mid : Gateway) (q : Resource) (w : Value) (confirmed : List StateChange),
      item.type.coerce x = .ok w ∧ g' = mid.applyConfirmed id confirmed ∧
      mid.registry.live? id = some q ∧ q.Sound ∧ Resource.SameShape r q ∧
      (∀ s, s ≠ Suffix.offset → q.value? s = r.value? s) ∧ q.value? Suffix.offset = some w ∧
      (((∀ t ∈ r.pendingTargets, t.isConfirmedBy Suffix.offset w = false) ∧
          StateChange.targetsOf confirmed = []) ∨
        ∃ t ∈ r.pendingTargets, t.isConfirmedBy Suffix.offset w = true ∧
          (∃ u, StateChange.targetsOf confirmed = [u] ∧ u.asQueued = t.asQueued) ∧
          ∀ u ∈ q.pendingTargets, u.suffix ≠ Suffix.offset) := by
  have hlight : Suffix.offset ≠ Suffix.lightLevel := by decide
  obtain ⟨q, r₁, confirmed, hq, htake, rfl⟩ := applyReport_cases happly
  rw [h.live] at hq
  obtain rfl := Option.some.inj hq
  obtain ⟨set, w, hw, hset, hheld, rfl, rfl⟩ := h.takeReport_cases htake
  -- The item is set and the pending changes take the report; making it known is quiet.
  have hsetRun : Resource.Traffic (· = Suffix.offset) r set := .set rfl hset
  have hsetSound : set.Sound := hr.carry hsetRun.carries
  have hpending : set.pendingTargets = r.pendingTargets := by
    rw [Resource.pendingTargets, Resource.changes_setValue hset, Resource.pendingTargets]
  have hrun : ReflTransGen (Resource.Traffic (· = Suffix.offset)) r
      (set.verifyReport Suffix.offset w).1 :=
    (ReflTransGen.single hsetRun).tail (.report set Suffix.offset w)
  obtain ⟨q, hlive, hquiet⟩ := exists_live?_putBack h.live (Resource.Traffic.sameShape_run hrun)
    Suffix.offset o.isChanged
  refine ⟨_, q, w, _, hw, if_neg hlight, hlive, (hr.traffic hrun).traffic hquiet,
    (Resource.Traffic.sameShape_run hrun).trans (Resource.Traffic.sameShape_run hquiet), ?_, ?_, ?_⟩
  · intro s hs
    rw [Resource.Traffic.value?_run hquiet not_false, Resource.Traffic.value?_run hrun hs]
  · rw [Resource.Traffic.value?_run hquiet not_false]
    exact hheld
  · rcases hsetSound.verifyReport_cases Suffix.offset w with
      ⟨hnone, hconfirmed⟩ | ⟨t, ht, hmatch, hconfirmed, hleft⟩
    · exact .inl ⟨fun t ht => hnone t (hpending ▸ ht), hconfirmed⟩
    · refine .inr ⟨t, hpending ▸ ht, hmatch, hconfirmed, fun u hu => ?_⟩
      obtain ⟨u', hu', hs, -⟩ :=
        Resource.exists_mem_of_sublist (Resource.Traffic.sublist_run hquiet) hu
      exact hs ▸ hleft u' hu'

/-- The confirmed target of the offset writes exactly the reported value. -/
theorem OffsetSetting.value_eq (h : OffsetSetting g id r device item) (hr : r.Sound) {t : Target}
    (ht : t ∈ r.pendingTargets) (hmatch : t.isConfirmedBy Suffix.offset w = true) :
    t.value = w ∧ item.type.coerce w = .ok w ∧
      ∀ p, t.previous = some p → item.type.coerce p = .ok p := by
  obtain ⟨low, high, hbounds, -, hhigh⟩ := DataType.exists_bounds?_of_isNarrow h.narrow
  obtain ⟨i, hi, hvalue, hprevious⟩ := hr.typed t ht
  rw [Target.suffix_of_isConfirmedBy hmatch, h.offset] at hi
  obtain rfl := Option.some.inj hi
  obtain ⟨-, -, hinteger, -⟩ := DataType.exists_eq_integer hbounds hhigh hvalue
  -- Values of integer types are the same only if they are equal.
  have hsame := Target.sameAs_of_isConfirmedBy hmatch
  rw [hinteger] at hsame
  have heq : t.value = w := hinteger.trans (DataType.sameAs_integer.mp hsame)
  exact ⟨heq, heq ▸ hvalue, hprevious⟩

/-- A report of the offset that is refused does not fit it. -/
theorem OffsetSetting.coerce_ne_ok (h : OffsetSetting g id r device item) {cause : Error}
    (hrefused : g.applyReport id Suffix.offset x = .error cause) (w : Value) :
    item.type.coerce x ≠ .ok w := by
  intro hw
  rcases (applyReport_eq_error_iff cause).mp hrefused with ⟨hnone, -⟩ | ⟨q, hq, hcases⟩
  · rw [h.live] at hnone
    cases hnone
  · rw [h.live] at hq
    obtain rfl := Option.some.inj hq
    rcases hcases with ⟨hnone, -⟩ | ⟨i, cause, hi, hcause, -⟩
    · rw [h.offset] at hnone
      cases hnone
    · rw [h.offset] at hi
      obtain rfl := Option.some.inj hi
      rw [hw] at hcause
      cases hcause

/-- What follows from a confirmation: the measured items are corrected by the difference, and no
target of the offset becomes pending. -/
theorem OffsetSetting.confirmed (h : OffsetSetting g id r device item) {q : Resource}
    {confirmed : List StateChange} {u : Target} (hlive : g'.registry.live? id = some q)
    (hq : q.Sound) (hshape : Resource.SameShape r q) (hr : r.Sound)
    (hvalues : ∀ s, s ≠ Suffix.offset → q.value? s = r.value? s)
    (hconfirmed : StateChange.targetsOf confirmed = [u]) (hu : u.suffix = Suffix.offset)
    (hfitted : item.type.coerce u.value = .ok u.value)
    (hprevious : ∀ p, u.previous = some p → item.type.coerce p = .ok p)
    (hleft : ∀ t ∈ q.pendingTargets, t.suffix ≠ Suffix.offset) :
    ∃ r', (g'.applyConfirmed id confirmed).registry.live? id = some r' ∧
      (∀ t ∈ r'.pendingTargets, t.suffix ≠ Suffix.offset) ∧
      r'.value? Suffix.offset = q.value? Suffix.offset ∧
      Corrected r r' (u.value.number - (u.previous.map Value.number).getD 0) := by
  have htemperature := hvalues Suffix.temperature (by decide)
  have hhumidity := hvalues Suffix.humidity (by decide)
  have hrange := difference_range h.narrow hfitted hprevious
  -- Narrow numbers are far from the ends of the 64-bit range, so the difference is exact.
  have hexact : offsetChange u.previous u.value = u.value.number - numberHeld u.previous :=
    offsetChange_of_fits (by omega)
  rw [g'.applyConfirmed_of_offset id hconfirmed hu, ← numberHeld, ← hexact]
  rw [← hexact] at hrange
  have hnoted : (g'.noteOverflow (offsetOverflows u.previous u.value)).registry.live? id = some q :=
    hlive
  split_ifs with hzero
  · refine ⟨q, hnoted, hleft, rfl, ?_⟩
    rw [hzero]
    exact corrected_zero hr h.temperature htemperature hhumidity
  · obtain ⟨r', hlive', hrun, hcorrected⟩ := applyOffset_corrected hnoted hq
      (h.temperature.of_sameShape hshape)
      (hshape.forall_item? (fun type static => type = .uint16 ∧ static = false) h.humidity)
      hrange hzero
    refine ⟨r', hlive', fun t ht => ?_, ?_, hcorrected.congr hshape htemperature hhumidity⟩
    · obtain ⟨t', ht', hs, -⟩ :=
        Resource.exists_mem_of_sublist (Resource.Traffic.sublist_run hrun) ht
      exact hs ▸ hleft t' ht'
    · exact Resource.Traffic.value?_run hrun (by decide)

/-- **What one report of the offset does.**  Either it confirms no pending write, and all other
values stay; or it confirms one, which is then no longer pending, the offset holds the reported
value, and the measured items are corrected by the difference to the value before the write. -/
theorem OffsetSetting.reported (h : OffsetSetting g id r device item) (hr : r.Sound) (x : Value) :
    ∃ r', (g.step (.reported id Suffix.offset x)).registry.live? id = some r' ∧
      (((∀ s, s ≠ Suffix.offset → r'.value? s = r.value? s) ∧
          ∀ w, item.type.coerce x = .ok w →
            ∀ t ∈ r.pendingTargets, t.isConfirmedBy Suffix.offset w = false) ∨
        ∃ w t, item.type.coerce x = .ok w ∧ t ∈ r.pendingTargets ∧
          t.isConfirmedBy Suffix.offset w = true ∧
          (∀ u ∈ r'.pendingTargets, u.suffix ≠ Suffix.offset) ∧
          r'.value? Suffix.offset = some w ∧
          Corrected r r' (w.number - (t.previous.map Value.number).getD 0)) := by
  rw [step, report]
  cases happly : g.applyReport id Suffix.offset x with
  | error cause =>
    exact ⟨r, h.live, .inl ⟨fun _ _ => rfl, fun w hw => absurd hw (h.coerce_ne_ok happly w)⟩⟩
  | ok result =>
    obtain ⟨g', o⟩ := result
    obtain ⟨mid, q, w, confirmed, hw, rfl, hlive, hq, hshape, hvalues, hoffset, hcases⟩ :=
      h.taken hr happly
    rcases hcases with ⟨hnone, hconfirmed⟩ | ⟨t, ht, hmatch, ⟨u, hconfirmed, hu⟩, hleft⟩
    · -- Without a confirmation the report sets the offset and nothing else.
      refine ⟨q, ?_, .inl ⟨hvalues, fun w' hw' t ht => ?_⟩⟩
      · rw [applyConfirmed_of_nil hconfirmed, hlive]
      · rw [hw] at hw'
        obtain rfl := Except.ok.inj hw'
        exact hnone t ht
    · -- The confirmed target is the pending one, but for the note that it was verified.
      obtain ⟨htvalue, hwfit, hprevious⟩ := h.value_eq hr ht hmatch
      obtain ⟨husuffix, huvalue, huprevious, -⟩ := Target.eq_of_asQueued_eq hu
      obtain rfl := huvalue.trans htvalue
      rw [← huprevious] at hprevious
      obtain ⟨r', hlive', hleft', hheld, hcorrected⟩ := h.confirmed hlive hq hshape hr hvalues
        hconfirmed (husuffix.trans (Target.suffix_of_isConfirmedBy hmatch)) hwfit hprevious hleft
      rw [huprevious] at hcorrected
      exact ⟨r', hlive', .inr ⟨u.value, t, hw, ht, hmatch, hleft', hheld.trans hoffset, hcorrected⟩⟩

/-! ### Histories -/

/-- The event is a report that confirms a pending write of the offset, taken for a value. -/
def ConfirmsOffset (g : Gateway) (id : ResourceId) (e : GatewayEvent) (w : Value) : Prop :=
  ∃ x r item, e = .reported id Suffix.offset x ∧ g.registry.live? id = some r ∧
    r.item? Suffix.offset = some item ∧ item.type.coerce x = .ok w ∧
    ∃ c ∈ r.changes, c.isVerifiedBy Suffix.offset w = true

/-- **What one event does** to the other values of the resource, if it confirms no pending write of
the offset: nothing. -/
theorem OffsetSetting.step (h : OffsetSetting g id r device item) (hphysical : r.isVirtual = false)
    (hr : r.Sound) (he : e.IsOffsetTraffic id) (hquiet : ∀ w, ¬ g.ConfirmsOffset id e w) :
    ∃ r', (g.step e).registry.live? id = some r' ∧
      ∀ s, s ≠ Suffix.offset → r'.value? s = r.value? s := by
  cases e with
  | written i s v =>
    obtain ⟨rfl, rfl⟩ := he
    exact h.written hphysical v
  | reported i s x =>
    obtain ⟨rfl, rfl⟩ := he
    obtain ⟨r', hlive', ⟨hvalues, -⟩ | ⟨w, t, hw, ht, hmatch, -⟩⟩ := h.reported hr x
    · exact ⟨r', hlive', hvalues⟩
    · -- A confirmation would be one that the premise excludes.
      have hverified := (hr.exists_isVerifiedBy_iff Suffix.offset w).mpr ⟨t, ht, hmatch⟩
      exact absurd ⟨x, r, item, rfl, h.live, h.offset, hw, hverified⟩ (hquiet w)
  | ticked =>
    have htick : Traffic (fun _ => False) g g.tick.1 := traffic_tick g
    obtain ⟨r', hlive', hrun⟩ := htick.exists_live? h.live
    exact ⟨r', hlive', fun s _ => Resource.Traffic.value?_run hrun not_false⟩
  | outside change => exact ⟨r, h.live, fun _ _ => rfl⟩
  | _ => cases he

theorem held?_of_live? (hlive : g.registry.live? id = some r) (s : String) :
    g.held? id s = r.value? s := by
  rw [held?, (Registry.live?_eq_some_iff.mp hlive).1, Option.bind_some]

/-- **The measured values follow the confirmed offsets.**  Take any history of a gateway, a physical
resource with a managed offset in it, and any traffic of that offset.  An event that does not
confirm a pending write of the offset leaves all other values of the resource as they are.  A report
that does leaves the confirmed value in the offset and no write of it pending, and corrects the
measured values by the difference of the confirmed value to the one that the offset held before the
first of the writes that were waiting. -/
theorem measurements_follow_confirmed_offsets (hstart : start.registry.resources = [])
    (history traffic : List GatewayEvent) (hoffset : (start.run history).HasManagedOffset id)
    (htraffic : ∀ e ∈ traffic, e.IsOffsetTraffic id) (he : e.IsOffsetTraffic id) :
    ((∀ w, ¬ (start.run (history ++ traffic)).ConfirmsOffset id e w) →
      ∀ s, s ≠ Suffix.offset → (start.run (history ++ traffic ++ [e])).held? id s =
        (start.run (history ++ traffic)).held? id s) ∧
    ∀ w, (start.run (history ++ traffic)).ConfirmsOffset id e w →
      ∃ origin r r', IsOrigin start (history ++ traffic) id Suffix.offset origin ∧
        (start.run (history ++ traffic)).registry.live? id = some r ∧
        (start.run (history ++ traffic ++ [e])).registry.live? id = some r' ∧
        r'.value? Suffix.offset = some w ∧
        ¬ (start.run (history ++ traffic ++ [e])).IsPending id Suffix.offset ∧
        Corrected r r' (w.number - (origin.map Value.number).getD 0) := by
  rw [run_concat]
  have hsetting : (start.run (history ++ traffic)).HasManagedOffset id := by
    rw [run, List.foldl_append]
    exact hoffset.run htraffic
  have hsound := sound_run hstart (history ++ traffic) id
  have horigin := isOrigin_run hstart (history ++ traffic) id
  -- From here on the history counts only as soundness and origins.
  generalize start.run (history ++ traffic) = g at hsetting hsound horigin ⊢
  obtain ⟨r, device, item, hsetting, hphysical⟩ := hsetting
  have hresource := (Registry.live?_eq_some_iff.mp hsetting.live).1
  have hr := hsound r hresource
  refine ⟨fun hquiet s hs => ?_, ?_⟩
  · obtain ⟨r', hlive', hvalues⟩ := hsetting.step hphysical hr he hquiet
    rw [held?_of_live? hlive', held?_of_live? hsetting.live, hvalues s hs]
  · rintro w ⟨x, q, i, rfl, hq, hi, hw, hverified⟩
    rw [hsetting.live] at hq
    obtain rfl := Option.some.inj hq
    rw [hsetting.offset] at hi
    obtain rfl := Option.some.inj hi
    obtain ⟨r', hlive', ⟨-, hnone⟩ | ⟨w', t, hw', ht, hmatch, hleft, hheld, hcorrected⟩⟩ :=
      hsetting.reported hr x
    · obtain ⟨t, ht, hmatch⟩ := (hr.exists_isVerifiedBy_iff Suffix.offset w).mp hverified
      rw [hnone w hw t ht] at hmatch
      cases hmatch
    · rw [hw] at hw'
      obtain rfl := Except.ok.inj hw'
      have hstretch := horigin r t hresource ht
      rw [Target.suffix_of_isConfirmedBy hmatch] at hstretch
      refine ⟨t.previous, r, r', hstretch, hsetting.live, hlive', hheld, ?_, hcorrected⟩
      rintro ⟨q, hq, hpending⟩
      rw [(Registry.live?_eq_some_iff.mp hlive').1] at hq
      obtain rfl := Option.some.inj hq
      obtain ⟨u, hu, hs⟩ := Resource.isSome_pendingChange?_iff.mp hpending
      exact hleft u hu hs

/-- A gateway that knows sensors of a type, with a temperature and an offset that is written to the
hardware. -/
def thermometer (typeName : String) : Gateway :=
  knowing
    [{ typeName, restPath := "/sensors", addressing := [UniqueId.addressMarker, "1"],
       items :=
        [{ name := Suffix.temperature },
          { name := Suffix.offset, initial := some (.integer 0),
            write := some { kind := .tuya } }] }]

/-- A device is added and set up, and measures a temperature. -/
def measured : List GatewayEvent :=
  [.deviceAdded ⟨1⟩ "A" "m", .deviceSetUp ⟨1⟩, .reported ⟨2⟩ Suffix.temperature (.int 2000)]

/-- Two writes and a report of something else, before the second write is confirmed: the temperature
is corrected by the difference to what was there before the first one. -/
theorem temperature_corrected_once :
    let start := thermometer "ZHATemperature"
    let traffic : List GatewayEvent :=
      [.written ⟨2⟩ Suffix.offset (.int 50), .reported ⟨2⟩ Suffix.offset (.int 20),
        .written ⟨2⟩ Suffix.offset (.int 70)]
    let e := GatewayEvent.reported ⟨2⟩ Suffix.offset (.int 70)
    (start.run (measured ++ traffic ++ [e])).held? ⟨2⟩ Suffix.temperature = some (.int 2070) ∧
      ∃ origin r r', IsOrigin start (measured ++ traffic) ⟨2⟩ Suffix.offset origin ∧
        (start.run (measured ++ traffic)).registry.live? ⟨2⟩ = some r ∧
        (start.run (measured ++ traffic ++ [e])).registry.live? ⟨2⟩ = some r' ∧
        r'.value? Suffix.offset = some (.int 70) ∧
        ¬ (start.run (measured ++ traffic ++ [e])).IsPending ⟨2⟩ Suffix.offset ∧
        Corrected r r' (70 - (origin.map Value.number).getD 0) := by
  intro start traffic e
  have hsetting : ∃ r ∈ (start.run measured).registry.live? ⟨2⟩,
      ∃ device ∈ (start.run measured).registry.owner? ⟨2⟩, ∃ item ∈ r.item? Suffix.offset,
        OffsetSetting (start.run measured) ⟨2⟩ r device item ∧ r.isVirtual = false := by
    decide +kernel
  obtain ⟨r, -, device, -, item, -, hsetting⟩ := hsetting
  have hconfirms : ∃ r ∈ (start.run (measured ++ traffic)).registry.live? ⟨2⟩,
      ∃ item ∈ r.item? Suffix.offset, item.type.coerce (.int 70) = .ok (.int 70) ∧
        ∃ c ∈ r.changes, c.isVerifiedBy Suffix.offset (.int 70) = true := by
    decide +kernel
  obtain ⟨q, hq, i, hi, hw, hverified⟩ := hconfirms
  have htraffic : ∀ e ∈ traffic, e.IsOffsetTraffic ⟨2⟩ := by
    simp [traffic, GatewayEvent.IsOffsetTraffic]
  have he : e.IsOffsetTraffic ⟨2⟩ := ⟨rfl, rfl⟩
  refine ⟨by decide +kernel, ?_⟩
  exact (measurements_follow_confirmed_offsets rfl measured traffic ⟨r, device, item, hsetting⟩
    htraffic he).2 (.int 70) ⟨.int 70, q, i, rfl, hq, hi, hw, hverified⟩

/-- A virtual resource keeps a written offset at once, and its temperature is corrected with the
write. -/
theorem virtual_offset_corrects_at_once :
    let g := (thermometer "CLIPTemperature").run measured
    (∃ r device item, OffsetSetting g ⟨2⟩ r device item) ∧
      (∀ w, ¬ g.ConfirmsOffset ⟨2⟩ (.written ⟨2⟩ Suffix.offset (.int 50)) w) ∧
      g.held? ⟨2⟩ Suffix.temperature = some (.int 2000) ∧
      (g.step (.written ⟨2⟩ Suffix.offset (.int 50))).held? ⟨2⟩ Suffix.temperature =
        some (.int 2050) := by
  intro g
  have hsetting : ∃ r ∈ g.registry.live? ⟨2⟩, ∃ device ∈ g.registry.owner? ⟨2⟩,
      ∃ item ∈ r.item? Suffix.offset, OffsetSetting g ⟨2⟩ r device item := by
    decide +kernel
  obtain ⟨r, -, device, -, item, -, hsetting⟩ := hsetting
  refine ⟨⟨r, device, item, hsetting⟩, ?_, by decide +kernel, by decide +kernel⟩
  rintro w ⟨x, q, i, he, -⟩
  cases he

end Gateway

end ZigbeeGateway
