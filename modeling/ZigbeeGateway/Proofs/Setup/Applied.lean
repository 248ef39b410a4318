import ZigbeeGateway.Proofs.Gateway.Reapplication
import ZigbeeGateway.Proofs.Registry.Fares
import ZigbeeGateway.Proofs.Setup.Attempts

/-!
# What a description leaves in the items

Once a description was applied, each item that it describes has had one turn (`part_of_applied`).  A
turn merges three sources, what the item holds, what is stored of it and what the template starts with,
as `Item.merged` says; this is the whole of what it does to the value and the stamps
(`description_merges_items`).  Then it binds the item.  All that a binding consists of comes from the
template, but one thing: an interval between refreshes stays behind where the template states none
(`description_rebinds_items`).
-/

namespace ZigbeeGateway

open Registry

/-! ### Faultless descriptions -/

/-- Every item of a description without faults has a type. -/
theorem Description.exists_type? {d : Description} (h : d.fault? = none) {s : SubDevice}
    (hs : s ∈ d.subDevices) {t : ItemTemplate} (ht : t ∈ s.items) : ∃ type, t.type? = some type := by
  unfold Description.fault? at h
  split_ifs at h
  have hs' := List.findSome?_eq_none_iff.mp h s hs
  unfold Description.subDeviceFault? at hs'
  split_ifs at hs'
  have hvalid := List.find?_eq_none.mp (Option.map_eq_none_iff.mp hs') t ht
  rw [Bool.not_eq_true', Bool.not_eq_false, ItemTemplate.isValid, Bool.and_eq_true] at hvalid
  exact Option.isSome_iff_exists.mp hvalid.2

namespace Catalog

/-- A catalog is filled by a reload of descriptions without faults. -/
theorem filled_of_forall {ds : List Description} (h : ∀ d ∈ ds, d.fault? = none) :
    Filled { descriptions := ds, generation := 1 } := by
  have hreload : reload {} ds = .ok { descriptions := ds, generation := 1 } := by
    rw [reload, List.findSome?_eq_none_iff.mpr h]
    rfl
  exact .reloaded .empty hreload

/-- A template of a description has a handle, which resolves to it. -/
theorem exists_handle? {c : Catalog} {description k j : Nat} {desc : Description} {s : SubDevice}
    {t : ItemTemplate} (hdesc : c.get? description = some desc) (hs : desc.subDevices[k]? = some s)
    (ht : s.items[j]? = some t) :
    ∃ handle, c.handle? description k j = some handle ∧ c.template? handle = some t := by
  have hat := at?_eq_some hdesc hs ht
  obtain ⟨handle, hhandle⟩ : ∃ handle, c.handle? description k j = some handle := by
    rw [handle?, hat]
    exact ⟨_, rfl⟩
  exact ⟨handle, hhandle, (template?_of_handle? hhandle).trans hat⟩

end Catalog

/-! ### Three sources -/

namespace Item

variable {item : Item} {t : ItemTemplate} {handle : Option TemplateHandle} {row : Option Row}
  {w : Value} {now : Instant}

/-- A value with the times of the last set and the last change. -/
structure Holding where
  value : Option Value
  lastSet : Option Instant
  lastChanged : Option Instant
  deriving DecidableEq

/-- What an item holds, and since when. -/
def holding (item : Item) : Holding :=
  ⟨item.value, item.lastSet, item.lastChanged⟩

/-- The value of an item that a value was put into: equal values are not told apart, so that a zero
keeps its sign. -/
def valueWith (item : Item) (w : Value) : Option Value :=
  if item.holds w then item.value else some w

/-- **What an item is to hold** once a template was applied to it at a time, with what is stored of it.
The old value stays if the item is set up once and then kept, and was set.  Else a row counts, with its
own time, if this time is in range and its value fits.  Else the value that the template starts with
counts, if it fits; it is new unless the item held it before. -/
def merged (item : Item) (t : ItemTemplate) (row : Option Row) (now : Instant) : Holding :=
  if t.isStatic && item.lastSet.isSome then item.holding
  else
    match row.bind (·.offer? item.type) with
    | some (time, w) => ⟨item.valueWith w, some time, some time⟩
    | none =>
      match t.start? item.type with
      | some w =>
        if item.holds w then item.holding
        else ⟨some w, some (nextStamp item.lastSet now), some (nextStamp item.lastSet now)⟩
      | none => item.holding

theorem value_put_eq (h : item.isFrozen = false) (w : Value) (now : Instant) :
    (item.put w now).value = item.valueWith w := by
  unfold valueWith
  split_ifs with hholds
  · exact value_put_of_holds hholds now
  · exact value_put h (by simpa using hholds) now

theorem holding_put (h : item.isFrozen = false) (hholds : item.holds w = false) (now : Instant) :
    (item.put w now).holding =
      ⟨some w, some (nextStamp item.lastSet now), some (nextStamp item.lastSet now)⟩ := by
  unfold put
  rw [h, hholds]
  rfl

/-- **A turn merges the sources**, unless the item was frozen and the template thaws it. -/
theorem holding_turn (h : t.isStatic = true ∨ item.isStatic = false)
    (hrange : (item.turn t handle row now).stampInRange = true) :
    (item.turn t handle row now).holding = item.merged t row now := by
  change (item.setUp t row now).stampInRange = true at hrange
  change (item.setUp t row now).holding = _
  unfold merged
  cases hkept : t.isStatic && item.lastSet.isSome with
  | true =>
    rw [setUp, Bool.and_comm, hkept]
    rfl
  | false =>
    -- The item is not kept, so it is not frozen and takes what is put.
    have hfrozen : item.isFrozen = false := by
      rcases h with ht | hitem
      · rw [ht, Bool.true_and] at hkept
        rw [isFrozen, hkept, Bool.and_false]
      · rw [isFrozen, hitem, Bool.false_and]
    rw [Bool.and_comm] at hkept
    rw [setUp_eq hkept] at hrange ⊢
    rw [if_neg Bool.false_ne_true]
    cases hoffer : row.bind (·.offer? item.type) with
    | some offer =>
      obtain ⟨time, w⟩ := offer
      rw [hoffer] at hrange
      dsimp only at hrange ⊢
      have hin : (item.put w time).stampInRange = true := by
        by_contra hout
        rw [backdate, if_neg hout] at hrange
        exact hout hrange
      rw [backdate, if_pos hin, ← value_put_eq hfrozen w time]
      rfl
    | none =>
      dsimp only
      cases t.start? item.type with
      | none => rfl
      | some w =>
        dsimp only
        cases hholds : item.holds w with
        | true => rfl
        | false =>
          rw [if_neg Bool.false_ne_true, if_neg Bool.false_ne_true]
          exact holding_put hfrozen hholds now

/-- An interval between refreshes lasts through a turn, unless the template states one. -/
theorem refreshInterval_turn (item : Item) (t : ItemTemplate) (handle : Option TemplateHandle)
    (row : Option Row) (now : Instant) :
    (item.turn t handle row now).refreshInterval =
      t.refreshInterval.or item.refreshInterval := by
  have hshape := eq_of_shape_eq refreshInterval (fun _ => rfl) (shape_setUp item t row now)
  rw [← hshape]
  rfl

end Item

namespace Premises

variable {p p' : Premises} {catalog : Catalog} {a : ExtAddress} {description k : Nat}
  {created now : Instant} {ids : List ResourceId} {desc : Description} {s : SubDevice}
  {o : Occasion} {n : String}

/-! ### Turns of a description -/

/-- Noting what is known of a device leaves intervals alone. -/
theorem Occasion.refreshInterval_fill (o : Occasion) (n : String) (item : Item) :
    (o.fill n item).refreshInterval = item.refreshInterval := by
  unfold fill Item.setIfFits
  split_ifs
  · split
    · exact Item.eq_of_shape_eq Item.refreshInterval (fun _ => rfl) (Item.set_shape ‹_›)
    · rfl
  · rfl

/-- The item that a template finds in the part that its sub-resource sets up, or makes there. -/
def itemFor (p : Premises) (a : ExtAddress) (created : Instant) (s : SubDevice) (kind : ResourceKind)
    (t : ItemTemplate) (type : DataType) : Item :=
  ((p.registry.partFor kind s.type (.ofPattern s.addressing a) created).item? t.name).getD
    { suffix := t.name, type }

/-- **A part after its description was applied**: it is live under the number that was given, and each
template of it had one turn with its item, under a handle that resolves to the template. -/
theorem part_of_applied (h : p.registry.Coherent) (hcatalog : catalog.Filled)
    (hdesc : catalog.get? description = some desc) (hdistinct : desc.IsDistinct a)
    (happly : p.applyDescription catalog a description created now = .ok (p', ids))
    (hs : desc.subDevices[k]? = some s) :
    ∃ kind id r, s.kind? = some kind ∧ ids[k]? = some id ∧ p'.registry.live? id = some r ∧
      r.uniqueId = .ofPattern s.addressing a ∧
      ∀ t ∈ s.items, ∃ type handle met row, t.type? = some type ∧
        catalog.template? handle = some t ∧
        r.item? t.name = some (met.turn t (some handle) row now) ∧
        met.refreshInterval = (p.itemFor a created s kind t type).refreshInterval ∧
        (t.name ∉ identity → met = p.itemFor a created s kind t type ∧
          row = p.storage.row? (.ofPattern s.addressing a) t.name) := by
  obtain ⟨desc', d, planned, hdesc', hd, hplanned, rfl, rfl⟩ := applyDescription_eq_ok_iff.mp happly
  obtain rfl := Option.some.inj (hdesc.symm.trans hdesc')
  have hfault := hcatalog.fault?_eq_none (List.mem_of_getElem? hdesc)
  obtain ⟨kind, hk⟩ := exists_planned hplanned hs
  have huniqueIds : (planned.map (·.2.2)).Nodup := by
    rw [uniqueIds_planSubDevices hplanned]
    exact hdistinct.uniqueIds
  obtain ⟨id, hid, r, hr, rfl⟩ := forall₂_getElem? (numbers_setUpSubDevices
    (o := occasion d desc a created now) h hd (catalog.handle? description) 0 planned) hk
  obtain ⟨hcoherent, -⟩ := isPart_setUpSubDevices (o := occasion d desc a created now) h hd
    (catalog.handle? description) 0 planned
  obtain ⟨hlive, hunique⟩ := hcoherent.live?_of_byUniqueId? hr
  refine ⟨kind, r.id, r, (isPlanned_of_mem hplanned (List.mem_of_getElem? hk)).1, hid, hlive, hunique,
    fun t ht => ?_⟩
  obtain ⟨type, htype⟩ := Description.exists_type? hfault (List.mem_of_getElem? hs) ht
  obtain ⟨j, hj⟩ := List.mem_iff_getElem?.mp ht
  obtain ⟨handle, hhandle, hresolves⟩ := Catalog.exists_handle? hdesc hs hj
  -- By its distinct name and unique id the template takes one turn with the item.
  obtain ⟨x, r', hx, hr', -, hitem, -⟩ := turn_of_distinct (o := occasion d desc a created now) h hd
    (catalog.handle? description) hdistinct hplanned hs hj htype
  obtain rfl := Option.some.inj (hr.symm.trans hr')
  have hfound : x.1.getD { suffix := t.name, type } = p.itemFor a created s kind t type := by
    rw [hx.item_eq hk huniqueIds]
    rfl
  rw [hhandle] at hitem
  refine ⟨type, handle, _, _, htype, hresolves, hitem, ?_, fun hn => ⟨?_, ?_⟩⟩
  · rw [← hfound]
    cases x.1 with
    | none => rfl
    | some item => exact Occasion.refreshInterval_fill _ _ item
  · -- Outside the identity the item is met as it was, with the row that was stored for it.
    rw [Occasion.fill_of_notMem hn, Option.map_id, id, hfound]
  · rw [Occasion.rowFor, if_neg hn, hx.row]
    rfl

/-! ### Values and stamps -/

/-- **A description merges what items hold with what is stored and what it starts them with.**  Let a
description without repetition be applied to a device, without a stamp that leaves the range of
instants.  Each sub-resource is live then under the number that was given.  The items that it describes
are there, and hold what the reference merge (`Item.merged`) says of the item before, its row, the
template and the time.  Left out are the identity, which is filled in first, and items that were to be
kept and that the template would not keep any more. -/
theorem description_merges_items (hreach : p.registry.Reachable) (hcatalog : catalog.Filled)
    (hdesc : catalog.get? description = some desc) (hdistinct : desc.IsDistinct a)
    (happly : p.applyDescription catalog a description created now = .ok (p', ids))
    (hrange : p'.registry.stampsInRange = true) :
    ∀ (k : Nat) (s : SubDevice), desc.subDevices[k]? = some s →
      ∃ kind id r, s.kind? = some kind ∧ ids[k]? = some id ∧ p'.registry.live? id = some r ∧
        r.uniqueId = .ofPattern s.addressing a ∧
        ∀ t ∈ s.items, t.name ∉ identity →
          ∃ type item, t.type? = some type ∧ r.item? t.name = some item ∧
            (t.isStatic = true ∨ (p.itemFor a created s kind t type).isStatic = false →
              item.holding = (p.itemFor a created s kind t type).merged t
                (p.storage.row? (.ofPattern s.addressing a) t.name) now) := by
  intro k s hs
  obtain ⟨kind, id, r, hkind, hid, hlive, hunique, hitems⟩ :=
    part_of_applied hreach.coherent hcatalog hdesc hdistinct happly hs
  refine ⟨kind, id, r, hkind, hid, hlive, hunique, fun t ht hn => ?_⟩
  obtain ⟨type, handle, met, row, htype, -, hitem, -, hmet⟩ := hitems t ht
  obtain ⟨rfl, rfl⟩ := hmet hn
  refine ⟨type, _, htype, hitem, fun hthawed => Item.holding_turn hthawed ?_⟩
  exact stampInRange_of_item? hrange (live?_eq_some_iff.mp hlive).1 hitem

/-- A part with a temperature and a humidity, which both start with a value. -/
def climatePart : SubDevice :=
  { Gateway.temperaturePart with
    items :=
      [{ name := Suffix.temperature, initial := some (.integer 1900) },
        { name := Suffix.humidity, initial := some (.integer 4000) }] }

/-- A device that is known, with a temperature that was stored in the first second. -/
def rememberedClimate : Premises :=
  { (Gateway.plainThermometer.run [.deviceAdded ⟨1⟩ "A" "m"]).toPremises with
    storage :=
      { rows := [(.ofPattern climatePart.addressing ⟨1⟩,
          [⟨Suffix.temperature, .int 2100, 1000⟩])] } }

/-- The temperature is restored, with the time of its row, and the humidity starts now. -/
theorem climate_merged :
    ∃ p' r temperature humidity, rememberedClimate.applyDescription
        { descriptions := [Gateway.describing [climatePart]], generation := 1 } ⟨1⟩ 0 .start2024
        .start2024 = .ok (p', [⟨2⟩]) ∧ p'.registry.live? ⟨2⟩ = some r ∧
      r.item? Suffix.temperature = some temperature ∧ r.item? Suffix.humidity = some humidity ∧
      temperature.holding = ⟨some (.int 2100), some ⟨1, 0⟩, some ⟨1, 0⟩⟩ ∧
      humidity.holding = ⟨some (.uint 4000), some .start2024, some .start2024⟩ := by
  have hcatalog : Catalog.Filled
      { descriptions := [Gateway.describing [climatePart]], generation := 1 } :=
    Catalog.filled_of_forall (by decide +kernel)
  have hdistinct : (Gateway.describing [climatePart]).IsDistinct ⟨1⟩ :=
    ⟨by decide +kernel, by decide +kernel⟩
  -- The description applies, and its stamps are in range.
  have happlied : (rememberedClimate.applyDescription
      { descriptions := [Gateway.describing [climatePart]], generation := 1 } ⟨1⟩ 0 .start2024
      .start2024).toOption.map (fun x => (x.2, x.1.registry.stampsInRange)) =
      some ([⟨2⟩], true) := by
    decide +kernel
  obtain ⟨⟨p', ids⟩, happly, hfacts⟩ := Option.map_eq_some_iff.mp happlied
  obtain ⟨rfl, hrange⟩ := Prod.mk.inj hfacts
  have hrun : (Gateway.plainThermometer.run [.deviceAdded ⟨1⟩ "A" "m"]).registry.Reachable :=
    Registry.reachable_run rfl _
  have hreach : rememberedClimate.registry.Reachable := hrun
  obtain ⟨kind, id, r, hkind, hid, hlive, -, hitems⟩ := description_merges_items hreach hcatalog rfl
    hdistinct (Except.toOption_eq_some_iff.mp happly) hrange 0 climatePart rfl
  obtain rfl : ResourceKind.sensors = kind := Option.some.inj hkind
  obtain rfl : (⟨2⟩ : ResourceId) = id := Option.some.inj hid
  obtain ⟨type, temperature, htype, htemperature, hmerged⟩ :=
    hitems _ List.mem_cons_self (by decide)
  obtain rfl : DataType.int16 = type := Option.some.inj htype
  obtain ⟨type, humidity, htype', hhumidity, hmerged'⟩ :=
    hitems _ (List.mem_cons_of_mem _ List.mem_cons_self) (by decide)
  obtain rfl : DataType.uint16 = type := Option.some.inj htype'
  refine ⟨p', r, temperature, humidity, Except.toOption_eq_some_iff.mp happly, hlive, htemperature,
    hhumidity, (hmerged (.inr (by decide +kernel))).trans ?_,
    (hmerged' (.inr (by decide +kernel))).trans ?_⟩
  · decide +kernel
  · decide +kernel

/-! ### Bindings -/

/-- **A description binds its items anew, but for the interval between refreshes.**  Let a description
without repetition be applied to a device, whatever was set up there before.  Each item that it describes
is bound to a handle that resolves to its template, and whether it is shown, whether a report of it means
that the node is awake and whether it is kept are as the template says.  The interval is the one of the
template, or else the one that the item had.  So it is as the template says exactly if the template
states one or the item had none. -/
theorem description_rebinds_items (hreach : p.registry.Reachable) (hcatalog : catalog.Filled)
    (hdesc : catalog.get? description = some desc) (hdistinct : desc.IsDistinct a)
    (happly : p.applyDescription catalog a description created now = .ok (p', ids)) :
    ∀ (k : Nat) (s : SubDevice), desc.subDevices[k]? = some s →
      ∃ kind id r, s.kind? = some kind ∧ ids[k]? = some id ∧ p'.registry.live? id = some r ∧
        r.uniqueId = .ofPattern s.addressing a ∧
        ∀ t ∈ s.items,
          ∃ type handle item, t.type? = some type ∧ r.item? t.name = some item ∧
            item.template = some handle ∧ catalog.template? handle = some t ∧
            item.isPublic = t.isPublic ∧ item.awake = t.awake ∧ item.isStatic = t.isStatic ∧
            item.refreshInterval =
              t.refreshInterval.or (p.itemFor a created s kind t type).refreshInterval ∧
            (item.refreshInterval = t.refreshInterval ↔
              t.refreshInterval.isSome = true ∨
                (p.itemFor a created s kind t type).refreshInterval = none) := by
  intro k s hs
  obtain ⟨kind, id, r, hkind, hid, hlive, hunique, hitems⟩ :=
    part_of_applied hreach.coherent hcatalog hdesc hdistinct happly hs
  refine ⟨kind, id, r, hkind, hid, hlive, hunique, fun t ht => ?_⟩
  obtain ⟨type, handle, met, row, htype, hresolves, hitem, hmet, -⟩ := hitems t ht
  have hinterval := met.refreshInterval_turn t (some handle) row now
  rw [hmet] at hinterval
  refine ⟨type, handle, _, htype, hitem, rfl, hresolves, rfl, rfl, rfl, hinterval, ?_⟩
  rw [hinterval]
  cases t.refreshInterval <;> simp

/-- A part whose temperature is to be refreshed every so many seconds, or not at all. -/
def refreshedPart (seconds : Option Nat) : SubDevice :=
  { Gateway.temperaturePart with
    items := [{ name := Suffix.temperature, refreshInterval := seconds }] }

/-- A sensor whose temperature is to be refreshed every hour. -/
def hourlySensor : Premises :=
  ((Gateway.knowing [refreshedPart (some 3600)]).run
    [.deviceAdded ⟨1⟩ "A" "m", .deviceSetUp ⟨1⟩]).toPremises

/-- Descriptions that were reloaded, with another interval. -/
def reloadedCatalog (seconds : Option Nat) : Catalog :=
  { descriptions := [Gateway.describing [refreshedPart seconds]], generation := 1 }

/-- An interval that is stated anew takes the place of the one before. -/
theorem stated_interval_rebound :
    ∃ p' r item handle, hourlySensor.applyDescription (reloadedCatalog (some 60)) ⟨1⟩ 0 .start2024
        .start2024 = .ok (p', [⟨2⟩]) ∧ p'.registry.live? ⟨2⟩ = some r ∧
      r.item? Suffix.temperature = some item ∧ item.template = some handle ∧
      (reloadedCatalog (some 60)).template? handle =
        some { name := Suffix.temperature, refreshInterval := some 60 } ∧
      item.refreshInterval = some 60 := by
  have happlied : (hourlySensor.applyDescription (reloadedCatalog (some 60)) ⟨1⟩ 0 .start2024
      .start2024).toOption.map Prod.snd = some [⟨2⟩] := by
    decide +kernel
  obtain ⟨⟨p', ids⟩, happly, rfl⟩ := Option.map_eq_some_iff.mp happlied
  obtain ⟨kind, id, r, -, hid, hlive, -, hitems⟩ := description_rebinds_items
    (Registry.reachable_run rfl [.deviceAdded ⟨1⟩ "A" "m", .deviceSetUp ⟨1⟩])
    (Catalog.filled_of_forall (by decide +kernel)) rfl ⟨by decide +kernel, by decide +kernel⟩
    (Except.toOption_eq_some_iff.mp happly) 0 _ rfl
  obtain rfl : (⟨2⟩ : ResourceId) = id := Option.some.inj hid
  obtain ⟨type, handle, item, -, hitem, htemplate, hresolves, -, -, -, -, hinterval⟩ :=
    hitems _ List.mem_cons_self
  exact ⟨p', r, item, handle, Except.toOption_eq_some_iff.mp happly, hlive, hitem, htemplate,
    hresolves, hinterval.mpr (.inl rfl)⟩

/-- An interval that is not stated any more stays behind. -/
theorem interval_stays_behind :
    hourlySensor.registry.Reachable ∧ (reloadedCatalog none).Filled ∧
      (Gateway.describing [refreshedPart none]).IsDistinct ⟨1⟩ ∧
      ∃ p' r item, hourlySensor.applyDescription (reloadedCatalog none) ⟨1⟩ 0 .start2024 .start2024 =
          .ok (p', [⟨2⟩]) ∧ p'.registry.live? ⟨2⟩ = some r ∧
        r.item? Suffix.temperature = some item ∧
        (item.template.bind (reloadedCatalog none).template?).map (·.refreshInterval) = some none ∧
        item.refreshInterval = some 3600 := by
  refine ⟨Registry.reachable_run rfl [.deviceAdded ⟨1⟩ "A" "m", .deviceSetUp ⟨1⟩],
    Catalog.filled_of_forall (by decide +kernel), ⟨by decide +kernel, by decide +kernel⟩, ?_⟩
  have happlied : (hourlySensor.applyDescription (reloadedCatalog none) ⟨1⟩ 0 .start2024
      .start2024).toOption.map (fun x => (x.2, ((x.1.registry.live? ⟨2⟩).bind
        (·.item? Suffix.temperature)).map fun item =>
          ((item.template.bind (reloadedCatalog none).template?).map (·.refreshInterval),
            item.refreshInterval))) =
      some ([⟨2⟩], some (some none, some 3600)) := by
    decide +kernel
  obtain ⟨⟨p', ids⟩, happly, hfacts⟩ := Option.map_eq_some_iff.mp happlied
  obtain ⟨rfl, hitem⟩ := Prod.mk.inj hfacts
  obtain ⟨item, hfound, hfacts⟩ := Option.map_eq_some_iff.mp hitem
  obtain ⟨r, hlive, hitem⟩ := Option.bind_eq_some_iff.mp hfound
  obtain ⟨htemplate, hinterval⟩ := Prod.mk.inj hfacts
  exact ⟨p', r, item, Except.toOption_eq_some_iff.mp happly, hlive, hitem, htemplate, hinterval⟩

end Premises

end ZigbeeGateway
