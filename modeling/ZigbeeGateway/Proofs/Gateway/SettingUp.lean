import ZigbeeGateway.Proofs.Setup.Planned

/-!
# Setting up and deleting

Making devices and resources, setting them up from a description and deleting them lets the registry
grow: resources that are there move, and new ones begin with fitted items and nothing pending.
-/

namespace ZigbeeGateway

open Relation

/-! ### New resources -/

namespace Resource

variable {r : Resource}

theorem isNew_new (kind : ResourceKind) (typeName : String) (uniqueId : UniqueId)
    (created : Instant) : (Resource.new kind typeName uniqueId created).IsNew := by
  have hblank : ∀ suffix, Item.IsFitted { suffix, type := .string } := fun _ =>
    Item.isFitted_of_value_eq_none rfl
  refine ⟨rfl, fun s item hitem => ?_⟩
  have hmem := List.mem_of_find?_eq_some hitem
  unfold Resource.new at hmem
  simp only [List.mem_cons, List.not_mem_nil, or_false] at hmem
  -- There are two items, the unique id and the type.
  rcases hmem with rfl | rfl
  · split_ifs
    · exact hblank _
    · exact (Item.refit_setIfFits _ _ _).isFitted (hblank _)
  · exact (Item.refit_setIfFits _ _ _).isFitted (hblank _)

/-- A new resource takes a blank item. -/
theorem IsNew.addItem (hr : r.IsNew) {item : Item} (hblank : item.value = none) :
    (r.addItem item).IsNew :=
  ⟨(changes_addItem r item).trans hr.changes, isFitted_addItem item hblank hr.fitted⟩

theorem moves_setUpItems (r : Resource) (handle? : Nat → Option TemplateHandle) (rows : List Row)
    (now : Instant) (position : Nat) (ts : List ItemTemplate) :
    ReflTransGen Move r (r.setUpItems handle? rows now position ts) := by
  induction ts generalizing r position with
  | nil => exact .refl
  | cons t ts ih => exact .head (.setUp r t (handle? position) rows now) (ih _ _)

theorem frame_setUpItems (r : Resource) (handle? : Nat → Option TemplateHandle) (rows : List Row)
    (now : Instant) (position : Nat) (ts : List ItemTemplate) :
    (r.setUpItems handle? rows now position ts).frame = r.frame := by
  induction ts generalizing r position with
  | nil => rfl
  | cons t ts ih =>
    rw [setUpItems, ih]
    exact frame_setUpItem r t (handle? position) rows now

end Resource

/-! ### Registries -/

namespace Registry

variable {g g' : Registry}

theorem grows_modifyResource (g : Registry) (id : ResourceId) {f : Resource → Resource}
    (hf : ∀ r, ReflTransGen Resource.Move r (f r)) : Grows g (g.modifyResource id f) := by
  apply Evolves.grows fun _ _ h => h
  apply evolves_modifyResource
  · intro r hr
    rw [Resource.id_of_moves (hf r), hr]
  · exact fun r _ => hf r

theorem grows_addResource {r : Resource} {id : ResourceId} (hr : r.IsNew)
    (h : g.addResource r = .ok (g', id)) : Grows g g' := by
  unfold addResource at h
  split_ifs at h
  have hregistry : (g.pushResource r).1 = g' := congrArg Prod.fst (Except.ok.inj h)
  exact hregistry ▸ grows_pushResource g hr

theorem grows_ensureResource (g : Registry) (kind : ResourceKind) (typeName : String)
    (uniqueId : UniqueId) (created : Instant) :
    Grows g (g.ensureResource kind typeName uniqueId created).1 := by
  unfold ensureResource
  split
  · exact .refl g
  · exact grows_pushResource g (((Resource.isNew_new _ _ _ _).addItem rfl).addItem rfl)

theorem grows_deleteResource (g : Registry) (id : ResourceId) : Grows g (g.deleteResource id) := by
  apply grows_modifyResource
  intro r
  split_ifs
  · exact .refl
  · exact .single (.delete r)

theorem grows_deleteDevice (g : Registry) (a : ExtAddress) : Grows g (g.deleteDevice a) :=
  isCourse_grows.deleteDevice grows_deleteResource g a

end Registry

/-! ### Descriptions -/

namespace Premises

theorem Occasion.frame_setUp (o : Occasion) (handle? : Nat → Option TemplateHandle) (s : SubDevice)
    (rows : List Row) (r : Resource) : (o.setUp handle? s rows r).frame = r.frame :=
  (Resource.frame_setUpItems _ handle? rows o.now 0 s.items).trans (o.frame_identify r)

/-- **Setting up one sub-resource**: the resource with the unique id is found or made, the device
links it, and it goes through moves that keep its frame. -/
theorem setUpSubDevice_cases (p : Premises) (o : Occasion) (handle? : Nat → Option TemplateHandle)
    (s : SubDevice) (kind : ResourceKind) (uniqueId : UniqueId) :
    ∃ registry id f, p.registry.ensureResource kind s.type uniqueId o.created = (registry, id) ∧
      (∀ r, ReflTransGen Resource.Move r (f r)) ∧ (∀ r, (f r).frame = r.frame) ∧
      (p.setUpSubDevice o handle? s kind uniqueId).1.registry =
        (registry.modifyDevice o.address fun d => d.addLink uniqueId id).modifyResource id f ∧
      (p.setUpSubDevice o handle? s kind uniqueId).2 = id := by
  unfold setUpSubDevice
  split
  rename_i registry id hensure
  extract_lets linked named q
  split
  · exact ⟨registry, id, o.identify, hensure, o.moves_identify, o.frame_identify, rfl, rfl⟩
  · rename_i r _
    extract_lets stored rows
    have hstored : stored.registry = named := registry_storeItems q r identity
    refine ⟨registry, id,
      fun r => ((o.identify r).setUpItems handle? rows o.now 0 s.items).refreshEtag,
      hensure, fun r => ?_, fun r => ?_, ?_, rfl⟩
    · exact ((o.moves_identify r).trans
        (Resource.moves_setUpItems _ handle? rows o.now 0 s.items)).tail (.refresh _)
    · exact o.frame_setUp handle? s rows r
    · show stored.registry.modifyResource id _ = _
      rw [hstored]
      -- The identity and the items are two changes of one resource.
      exact Registry.modifyResource_modifyResource linked fun r hr =>
        (Resource.id_of_moves (o.moves_identify r)).trans hr

theorem grows_setUpSubDevice (p : Premises) (o : Occasion) (handle? : Nat → Option TemplateHandle)
    (s : SubDevice) (kind : ResourceKind) (uniqueId : UniqueId) :
    Registry.Grows p.registry (p.setUpSubDevice o handle? s kind uniqueId).1.registry := by
  obtain ⟨registry, id, f, hensure, hmoves, -, heq, -⟩ :=
    p.setUpSubDevice_cases o handle? s kind uniqueId
  have hensured : Registry.Grows p.registry registry := by
    have h := p.registry.grows_ensureResource kind s.type uniqueId o.created
    rwa [hensure] at h
  have hlinked : Registry.Grows registry
      (registry.modifyDevice o.address fun d => d.addLink uniqueId id) :=
    Registry.isCourse_grows.of_resources_eq rfl
  rw [heq]
  exact (hensured.trans hlinked).trans (Registry.grows_modifyResource _ id hmoves)

theorem grows_setUpSubDevices (p : Premises) (o : Occasion)
    (handle? : Nat → Nat → Option TemplateHandle) (position : Nat)
    (planned : List (SubDevice × ResourceKind × UniqueId)) :
    Registry.Grows p.registry (p.setUpSubDevices o handle? position planned).1.registry := by
  induction planned generalizing p position with
  | nil => exact .refl _
  | cons entry planned ih =>
    obtain ⟨s, kind, uniqueId⟩ := entry
    rw [setUpSubDevices_cons]
    exact (p.grows_setUpSubDevice o (handle? position) s kind uniqueId).trans (ih _ _)

/-- **Applying a description**: its planned sub-resources are set up, and the device is finished. -/
theorem applyDescription_cases {p p' : Premises} {catalog : Catalog} {address : ExtAddress}
    {description : Nat} {created now : Instant} {ids : List ResourceId}
    (h : p.applyDescription catalog address description created now = .ok (p', ids)) :
    ∃ desc d planned o handle?, catalog.get? description = some desc ∧
      p.registry.device? address = some d ∧
      planSubDevices address desc.subDevices = .ok planned ∧ o.address = address ∧
      ids = (p.setUpSubDevices o handle? 0 planned).2 ∧
      p'.registry = (p.setUpSubDevices o handle? 0 planned).1.registry.modifyDevice address fun d =>
        finishDevice d desc.sleeper now := by
  rw [applyDescription_eq] at h
  split at h
  · cases h
  · cases h
  · rename_i desc d hdesc hd
    split at h
    · cases h
    · rename_i planned hplanned
      obtain ⟨rfl, rfl⟩ := Prod.mk.inj (Except.ok.inj h)
      exact ⟨desc, d, planned, _, _, hdesc, hd, hplanned, rfl, rfl, rfl⟩

theorem grows_applyDescription {p p' : Premises} {catalog : Catalog} {address : ExtAddress}
    {description : Nat} {created now : Instant} {ids : List ResourceId}
    (h : p.applyDescription catalog address description created now = .ok (p', ids)) :
    Registry.Grows p.registry p'.registry := by
  obtain ⟨desc, d, planned, o, handle?, -, -, -, -, -, heq⟩ := applyDescription_cases h
  rw [heq]
  exact (p.grows_setUpSubDevices o handle? 0 planned).trans
    (Registry.isCourse_grows.of_resources_eq rfl)

end Premises

/-! ### Gateways -/

namespace Gateway

/-- Adding a device is no matter of the resources. -/
theorem resources_addDevice (g : Gateway) (address : ExtAddress) (manufacturer model : String) :
    (g.addDevice address manufacturer model).registry.resources = g.registry.resources := by
  unfold addDevice mapRegistry Registry.ensureDevice
  dsimp only
  split_ifs <;> rfl

theorem grows_addDevice (g : Gateway) (address : ExtAddress) (manufacturer model : String) :
    Registry.Grows g.registry (g.addDevice address manufacturer model).registry :=
  Registry.isCourse_grows.of_resources_eq (g.resources_addDevice address manufacturer model)

/-- Recalling the identity of a device changes its node at most. -/
theorem registry_recallIfUnknown (g : Gateway) (address : ExtAddress) (d : Device) :
    (g.recallIfUnknown address d).registry = g.registry ∨
      ∃ node, (g.recallIfUnknown address d).registry =
        g.registry.modifyNode address fun _ => node := by
  unfold recallIfUnknown
  split_ifs
  · split
    · rename_i p recalled hrecall
      unfold Premises.recallDevice at hrecall
      split at hrecall
      · cases hrecall
      · obtain ⟨rfl, -⟩ := Prod.mk.inj (Except.ok.inj hrecall)
        exact .inr ⟨_, rfl⟩
    · exact .inl rfl
  · exact .inl rfl

theorem resources_recallIfUnknown (g : Gateway) (address : ExtAddress) (d : Device) :
    (g.recallIfUnknown address d).registry.resources = g.registry.resources := by
  rcases g.registry_recallIfUnknown address d with heq | ⟨node, heq⟩ <;> rw [heq]
  rfl

/-- **Setting a device up**: it fails before or after its identity was recalled, or the first
description made for it is applied. -/
theorem initDevice_cases (g : Gateway) (address : ExtAddress) :
    (∃ e, g.initDevice address = (g, .error e)) ∨
    ∃ d, g.registry.device? address = some d ∧
      ((∃ e, g.initDevice address = (g.recallIfUnknown address d, .error e)) ∨
        ∃ d' description p ids g',
          (g.recallIfUnknown address d).registry.device? address = some d' ∧
          (g.recallIfUnknown address d).catalog.find? d'.manufacturer d'.modelId =
            some description ∧
          (g.recallIfUnknown address d).toPremises.applyDescription
            (g.recallIfUnknown address d).catalog address description
            (g.recallIfUnknown address d).hostTime (g.recallIfUnknown address d).now =
              .ok (p, ids) ∧
          g'.registry = p.registry ∧ g.initDevice address = (g', .ok ids)) := by
  rw [initDevice_eq]
  split
  · exact .inl ⟨_, rfl⟩
  · rename_i d hd
    refine .inr ⟨d, hd, ?_⟩
    dsimp only
    split
    · exact .inl ⟨_, rfl⟩
    · rename_i d' hd'
      split
      · exact .inl ⟨_, rfl⟩
      · rename_i description hfind
        split
        · exact .inl ⟨_, rfl⟩
        · rename_i p ids happly
          exact .inr ⟨d', description, p, ids, _, hd', hfind, happly, rfl, rfl⟩

/-- What applying a description does to resources, setting a device up does. -/
theorem rel_initDevice {P : Registry → Registry → Prop} (hP : Registry.IsCourse P) (g : Gateway)
    (address : ExtAddress)
    (happlied : ∀ d d' description p ids, g.registry.device? address = some d →
      (g.recallIfUnknown address d).registry.device? address = some d' →
      (g.recallIfUnknown address d).catalog.find? d'.manufacturer d'.modelId = some description →
      (g.recallIfUnknown address d).toPremises.applyDescription
        (g.recallIfUnknown address d).catalog address description
        (g.recallIfUnknown address d).hostTime (g.recallIfUnknown address d).now = .ok (p, ids) →
      P (g.recallIfUnknown address d).registry p.registry) :
    P g.registry (g.initDevice address).1.registry := by
  have hrecalled : ∀ d, P g.registry (g.recallIfUnknown address d).registry := fun d =>
    hP.of_resources_eq (g.resources_recallIfUnknown address d)
  rcases g.initDevice_cases address with ⟨e, heq⟩ | ⟨d, hd, ⟨e, heq⟩ |
    ⟨d', description, p, ids, g', hd', hfind, happly, hregistry, heq⟩⟩
  · exact heq ▸ hP.refl _
  · exact heq ▸ hrecalled d
  · rw [heq]
    dsimp only
    rw [hregistry]
    exact hP.trans (hrecalled d) (happlied d d' description p ids hd hd' hfind happly)

theorem grows_initDevice (g : Gateway) (address : ExtAddress) :
    Registry.Grows g.registry (g.initDevice address).1.registry :=
  rel_initDevice Registry.isCourse_grows g address fun _ _ _ _ _ _ _ _ happly =>
    Premises.grows_applyDescription happly

end Gateway

end ZigbeeGateway
