import ZigbeeGateway.Proofs.Gateway.Etags
import ZigbeeGateway.Proofs.Setup.Described

/-!
# Applying a description twice

A description that was applied can be applied again (`description_reapplied`).  The second time gives
the same numbers and makes no resource and no link (`SameParts`).  What it does to the items is said by
`Repeats`: an item is left alone, unless it was static and set before the first time, and refused then
what a template offers it that is not static.
-/

namespace ZigbeeGateway

open Registry

namespace Premises

variable {p p' p'' : Premises} {o : Occasion} {u u' : UniqueId} {n : String} {d : Device}
  {handle? : Nat → Nat → Option TemplateHandle}
  {planned : List (SubDevice × ResourceKind × UniqueId)}

/-! ### Parts that are there -/

/-- A part of a device is there: a live resource, a link of the device, and the stored link. -/
structure HasPart (p : Premises) (o : Occasion) (u : UniqueId) : Prop where
  resource : (p.registry.byUniqueId? u).isSome = true
  linked : ∃ id, p.registry.Links o.address u id
  stored : (o.node, u) ∈ p.storage.links

/-- Two states that differ in no more than the items of resources and what is noted about them, in
the nodes of devices, and in stored rows. -/
structure SameParts (p p' : Premises) : Prop where
  frames : ∀ id, (p'.registry.resource? id).map Resource.frame =
    (p.registry.resource? id).map Resource.frame
  nextId : p'.registry.nextId = p.registry.nextId
  links : ∀ a, (p'.registry.device? a).map Device.links = (p.registry.device? a).map Device.links
  stored : p'.storage.links = p.storage.links

theorem SameParts.refl (p : Premises) : SameParts p p :=
  ⟨fun _ => rfl, rfl, fun _ => rfl, rfl⟩

theorem SameParts.trans (h : SameParts p p') (h' : SameParts p' p'') : SameParts p p'' :=
  ⟨fun id => (h'.frames id).trans (h.frames id), h'.nextId.trans h.nextId,
    fun a => (h'.links a).trans (h.links a), h'.stored.trans h.stored⟩

theorem SameParts.symm (h : SameParts p p') : SameParts p' p :=
  ⟨fun id => (h.frames id).symm, h.nextId.symm, fun a => (h.links a).symm, h.stored.symm⟩

/-- The live resources have the numbers that they had. -/
theorem SameParts.exists_byUniqueId? (h : SameParts p p') (hp : p.registry.Coherent)
    (hp' : p'.registry.Coherent) {r : Resource} (hr : p.registry.byUniqueId? u = some r) :
    ∃ r', p'.registry.byUniqueId? u = some r' ∧ r'.id = r.id := by
  obtain ⟨hlive, hunique⟩ := hp.live?_of_byUniqueId? hr
  obtain ⟨hresource, hdeleted⟩ := live?_eq_some_iff.mp hlive
  have hframe := h.frames r.id
  rw [hresource, Option.map_some] at hframe
  obtain ⟨r', hr', heq⟩ := Option.map_eq_some_iff.mp hframe
  have hid : r'.id = r.id := Resource.id_of_frame_eq heq
  refine ⟨r', hp'.byUniqueId?_eq_some_iff.mpr ⟨live?_eq_some_iff.mpr ⟨hid ▸ hr', ?_⟩, ?_⟩, hid⟩
  · exact (Resource.deleted_of_frame_eq heq).trans hdeleted
  · exact (Resource.uniqueId_of_frame_eq heq).trans hunique

theorem Device.addLink_eq_self {d : Device} {id : ResourceId} (h : (d.link? u).isSome = true) :
    d.addLink u id = d := by
  unfold Device.addLink
  exact if_pos h

/-- **A part that is set up is there.** -/
theorem hasPart_setUpSubDevice (h : p.registry.Coherent)
    (hd : p.registry.device? o.address = some d) (handle? : Nat → Option TemplateHandle)
    (s : SubDevice) (kind : ResourceKind) (u : UniqueId) :
    (p.setUpSubDevice o handle? s kind u).1.HasPart o u := by
  obtain ⟨-, hspec⟩ := setUpSubDevice_spec (o := o) h handle? s kind (u := u)
  refine ⟨by rw [byUniqueId?_setUpSubDevice h hd, if_pos rfl]; rfl, ?_, ?_⟩
  · have hlinked : ((d.addLink u (p.registry.partFor kind s.type u o.created).id).link? u).isSome =
        true := by
      rw [Device.link?_addLink, if_pos rfl]
      cases d.link? u <;> rfl
    obtain ⟨id, hid⟩ := Option.isSome_iff_exists.mp hlinked
    refine ⟨id, _, ?_, hid⟩
    rw [Registry.device?, hspec.devices]
    exact device?_addLink hd u _
  · rw [hspec.links]
    unfold Storage.addLink
    split_ifs with hcontains
    · exact List.contains_iff_mem.mp hcontains
    · exact List.mem_append_right _ (List.mem_singleton_self _)

/-- Parts that are there stay there. -/
theorem HasPart.setUpSubDevice (hpart : p.HasPart o u') (h : p.registry.Coherent)
    (handle? : Nat → Option TemplateHandle) (s : SubDevice) (kind : ResourceKind) (u : UniqueId) :
    (p.setUpSubDevice o handle? s kind u).1.HasPart o u' := by
  obtain ⟨id, d, hd, hid⟩ := hpart.linked
  obtain ⟨-, hspec⟩ := setUpSubDevice_spec (o := o) h handle? s kind (u := u)
  obtain ⟨-, hextends⟩ := coherent_setUpSubDevice h hd handle? s kind u
  refine ⟨?_, ⟨id, hextends.links u' id ⟨d, hd, hid⟩⟩, ?_⟩
  · rw [byUniqueId?_setUpSubDevice h hd]
    split_ifs
    · rfl
    · exact hpart.resource
  · rw [hspec.links]
    unfold Storage.addLink
    split_ifs
    · exact hpart.stored
    · exact List.mem_append_left _ hpart.stored

/-- **All parts of a description that is applied are there.** -/
theorem hasPart_setUpSubDevices (h : p.registry.Coherent)
    (hd : p.registry.device? o.address = some d) (handle? : Nat → Nat → Option TemplateHandle)
    (position : Nat) :
    ∀ entry ∈ planned, (p.setUpSubDevices o handle? position planned).1.HasPart o entry.2.2 := by
  induction planned generalizing p position d with
  | nil => exact fun _ hmem => by cases hmem
  | cons first planned ih =>
    obtain ⟨s, kind, u⟩ := first
    obtain ⟨hcoherent, hextends⟩ := coherent_setUpSubDevice h hd (handle? position) s kind u
    obtain ⟨d', hd'⟩ := hextends.device d hd
    have hstays := rel_setUpSubDevices (P := fun p p' => p.HasPart o u → p'.HasPart o u)
      (fun _ h => h) (fun _ _ _ h h' hp => h' (h hp))
      (fun p handle? s kind u h hpart => hpart.setUpSubDevice h handle? s kind u) hcoherent hd'
      handle? (position + 1) planned
    intro entry hentry
    rw [setUpSubDevices_cons]
    rcases List.mem_cons.mp hentry with rfl | hrest
    · exact hstays (hasPart_setUpSubDevice h hd (handle? position) s kind u)
    · exact ih hcoherent hd' (position + 1) entry hrest

/-- **A part that is there is set up in its place.** -/
theorem HasPart.sameParts (hpart : p.HasPart o u) (h : p.registry.Coherent)
    (handle? : Nat → Option TemplateHandle) (s : SubDevice) (kind : ResourceKind) :
    SameParts p (p.setUpSubDevice o handle? s kind u).1 := by
  obtain ⟨r, hr⟩ := Option.isSome_iff_exists.mp hpart.resource
  obtain ⟨id, d, hd, hid⟩ := hpart.linked
  obtain ⟨-, hspec⟩ := setUpSubDevice_spec (o := o) h handle? s kind (u := u)
  rw [partFor_of_byUniqueId? hr] at hspec
  refine ⟨fun id => ?_, ?_, fun a => ?_, ?_⟩
  · rw [hspec.resource]
    split_ifs with hsame
    · rw [hsame, h.resource?_of_byUniqueId? hr, Option.map_some, Option.map_some, o.frame_setUp]
    · rfl
  · obtain ⟨registry, id, f, hensure, -, -, heq, -⟩ := p.setUpSubDevice_cases o handle? s kind u
    rw [Registry.ensureResource, hr] at hensure
    rw [heq, ← (Prod.mk.inj hensure).1]
    rfl
  · -- The link was there, and adding it once more changes nothing.
    rw [Registry.device?, hspec.devices]
    refine (congrArg (Option.map Device.links) (device?_modifyDevice p.registry
      (fun d hd => (d.address_addLink u r.id).trans hd) a)).trans ?_
    split_ifs with ha
    · rw [ha, hd, Option.map_some, Device.addLink_eq_self (by rw [hid]; rfl)]
    · rfl
  · rw [hspec.links, Storage.addLink, if_pos (List.contains_iff_mem.mpr hpart.stored)]

theorem sameParts_setUpSubDevices (h : p.registry.Coherent)
    (hd : p.registry.device? o.address = some d) (handle? : Nat → Nat → Option TemplateHandle)
    (position : Nat) (hparts : ∀ entry ∈ planned, p.HasPart o entry.2.2) :
    SameParts p (p.setUpSubDevices o handle? position planned).1 := by
  induction planned generalizing p position d with
  | nil => exact .refl p
  | cons first planned ih =>
    obtain ⟨s, kind, u⟩ := first
    obtain ⟨hcoherent, hextends⟩ := coherent_setUpSubDevice h hd (handle? position) s kind u
    obtain ⟨d', hd'⟩ := hextends.device d hd
    rw [setUpSubDevices_cons]
    refine ((hparts _ List.mem_cons_self).sameParts h (handle? position) s kind).trans
      (ih hcoherent hd' (position + 1) fun entry hentry => ?_)
    exact (hparts entry (List.mem_cons_of_mem _ hentry)).setUpSubDevice h (handle? position) s kind u

theorem sameParts_finish (p : Premises) (a : ExtAddress) (desc : Description) (now : Instant) :
    SameParts p (p.finish a desc now) := by
  refine ⟨fun _ => rfl, rfl, fun b => ?_, rfl⟩
  have hfinished := fun d : Device => Gateway.address_finishDevice d desc.sleeper now
  rw [finish, device?_modifyDevice _ fun d hd => (hfinished d).1.trans hd]
  split_ifs with hb
  · rw [Option.map_map, hb]
    congr 1
    funext d
    exact (hfinished d).2
  · rfl

/-- Resources whose numbers are not given are left alone. -/
theorem resource?_setUpSubDevices (h : p.registry.Coherent)
    (hd : p.registry.device? o.address = some d) (handle? : Nat → Nat → Option TemplateHandle)
    (position : Nat) {id : ResourceId}
    (hid : id ∉ (p.setUpSubDevices o handle? position planned).2) :
    (p.setUpSubDevices o handle? position planned).1.registry.resource? id =
      p.registry.resource? id := by
  induction planned generalizing p position d with
  | nil => rfl
  | cons first planned ih =>
    obtain ⟨s, kind, u⟩ := first
    obtain ⟨hcoherent, hextends⟩ := coherent_setUpSubDevice h hd (handle? position) s kind u
    obtain ⟨d', hd'⟩ := hextends.device d hd
    rw [setUpSubDevices_cons] at hid ⊢
    obtain ⟨hfirst, hrest⟩ := not_or.mp (mt List.mem_cons.mpr hid)
    obtain ⟨hnumber, hspec⟩ := setUpSubDevice_spec (o := o) h (handle? position) s kind (u := u)
    rw [ih hcoherent hd' (position + 1) hrest, hspec.resource, ← hnumber, if_neg hfirst]

/-! ### Applying again -/

variable {desc : Description} {t : ItemTemplate} {a : ExtAddress} {created created' now : Instant}

/-- A live resource has an item that is static and set, and that holds something else than a template
offers it. -/
def Refuses (p : Premises) (u : UniqueId) (n : String) (t : ItemTemplate) : Prop :=
  ∃ r item w, p.registry.byUniqueId? u = some r ∧ r.item? n = some item ∧ item.isFrozen = true ∧
    t.offer? item.type (p.storage.row? u n) = some w ∧ item.holds w = false

/-- What a description that is applied once more does to an item: `p` is how it was first applied, and
`r₁` and `r₂` are the resource after the first and the second time. -/
structure Repeats (p p₁ : Premises) (o : Occasion) (desc : Description) (r₁ r₂ : Resource)
    (n : String) : Prop where
  /-- An item without templates is left alone. -/
  undescribed : desc.templatesFor o.address r₁.uniqueId n = [] → r₂.item? n = r₁.item? n
  /-- An item with one template is left alone, unless the template is not static and the item refused
  what it was offered. -/
  described : n ∉ identity → ∀ t, desc.templatesFor o.address r₁.uniqueId n = [t] →
    (r₂.item? n = r₁.item? n ↔ t.isStatic = true ∨ ¬ p.Refuses r₁.uniqueId n t)
  /-- An item of the identity with one template is left alone if the template is static or if the item
  has noted what is known and is settled. -/
  identity : n ∈ identity → ∀ s t, desc.subDevicesFor o.address r₁.uniqueId = [s] →
    s.templatesFor n = [t] → ∃ item, r₁.item? n = some item ∧
      (r₂.item? n = r₁.item? n ↔ t.isStatic = true ∨ o.Notes n item ∧
        item.IsSettled t (Occasion.rowFor n (some item) (p₁.storage.row? r₁.uniqueId n)))

/-- An item that refuses a template is there before the description is applied. -/
theorem not_refuses_iff {x : Option Item × Option Row} (hx : IsStart p o planned u n x)
    (type : DataType) :
    ¬ p.Refuses u n t ↔ ((x.1.getD { suffix := n, type }).isFrozen = true →
      ∀ w, t.offer? (x.1.getD { suffix := n, type }).type x.2 = some w →
        (x.1.getD { suffix := n, type }).holds w = true) := by
  have hopen : ∀ item : Item, item.isStatic = false → item.isFrozen ≠ true := by
    intro item hitem
    rw [Item.isFrozen, hitem, Bool.false_and]
    exact Bool.false_ne_true
  -- An item that is made is not static.
  have hmade : (∀ r item, p.registry.byUniqueId? u = some r → r.item? n ≠ some item) →
      (x.1.getD { suffix := n, type }).isStatic = false → (¬ p.Refuses u n t ↔
        ((x.1.getD { suffix := n, type }).isFrozen = true →
          ∀ w, t.offer? (x.1.getD { suffix := n, type }).type x.2 = some w →
            (x.1.getD { suffix := n, type }).holds w = true)) := by
    intro hnone hstatic
    refine ⟨fun _ hfrozen => absurd hfrozen (hopen _ hstatic), ?_⟩
    rintro - ⟨r, item, w, hr, hitem, -⟩
    exact hnone r item hr hitem
  cases hr : p.registry.byUniqueId? u with
  | none =>
    refine hmade (fun r item hr' => by rw [hr] at hr'; cases hr') ?_
    obtain ⟨s, kind, -, hnew⟩ := hx.new hr
    rw [hnew]
    exact (getD_newPart rfl).2.1
  | some r =>
    have hold := hx.old r hr
    cases hitem : r.item? n with
    | none =>
      refine hmade (fun q item hq hitem' => ?_) (by rw [hold, hitem]; rfl)
      obtain rfl := Option.some.inj (hr.symm.trans hq)
      rw [hitem] at hitem'
      cases hitem'
    | some item =>
      rw [hold, hitem, Option.getD_some, hx.row]
      constructor
      · intro hnot hfrozen w hw
        by_contra hholds
        exact hnot ⟨r, item, w, hr, hitem, hfrozen, hw, Bool.eq_false_iff.mpr hholds⟩
      · rintro hkept ⟨q, i, w, hq, hi, hfrozen, hw, hholds⟩
        obtain rfl := Option.some.inj (hr.symm.trans hq)
        obtain rfl := Option.some.inj (hitem.symm.trans hi)
        rw [hkept hfrozen w hw] at hholds
        cases hholds

/-- The first visit to an item of the identity finds it, with proper stamps. -/
theorem exists_item_of_isStart {x : Option Item × Option Row} (hx : IsStart p o planned u n x)
    (hn : n ∈ identity) (h : p.registry.Coherent)
    (hresources : ∀ id r, p.registry.resource? id = some r → r.HasIdentity ∧ r.IsProper) :
    ∃ item, x.1 = some item ∧ item.type = .string ∧ item.IsProper := by
  cases hr : p.registry.byUniqueId? u with
  | none =>
    obtain ⟨s, kind, -, hnew⟩ := hx.new hr
    exact ⟨_, hnew.trans (item?_newPart_of_mem hn), rfl, Resource.isProper_blank n .string⟩
  | some r =>
    obtain ⟨hidentity, hproper⟩ :=
      hresources r.id r (h.resource?_of_byUniqueId? hr)
    obtain ⟨item, hitem, htype⟩ := hidentity n hn
    exact ⟨item, (hx.old r hr).trans hitem, htype, hproper n item hitem⟩

theorem stampInRange_of_item? {g : Registry} (h : g.stampsInRange = true) {id : ResourceId}
    {r : Resource} {item : Item} (hr : g.resource? id = some r) (hitem : r.item? n = some item) :
    item.stampInRange = true := by
  have hr' := List.all_eq_true.mp (Bool.and_eq_true_iff.mp h).2 r (List.mem_of_find?_eq_some hr)
  exact List.all_eq_true.mp hr' item (List.mem_of_find?_eq_some hitem)

section Twice

variable (created') (h : p.registry.Coherent) (hd : p.registry.device? a = some d)
  (handle? : Nat → Nat → Option TemplateHandle) {p₁ : Premises}
  (hp₁ : p₁ = (p.setUpSubDevices (occasion d desc a created now) handle? 0 planned).1.finish a desc now)
include h hd hp₁

/-- After a description was applied, its parts are there, and another application knows of the device
what the first one knew. -/
theorem exists_occasion :
    p₁.registry.Coherent ∧ (∀ entry ∈ planned, p₁.HasPart (occasion d desc a created now) entry.2.2) ∧
      ∃ d₁, p₁.registry.device? a = some d₁ ∧
        occasion d₁ desc a created' now =
          { occasion d desc a created now with created := created' } := by
  subst hp₁
  obtain ⟨hcoherent, -⟩ := isPart_setUpSubDevices (o := occasion d desc a created now) h hd handle? 0
    planned
  refine ⟨hcoherent.keeps (keeps_modifyDevice _ a fun d => (Gateway.address_finishDevice d _ _).2),
    fun entry hentry => ?_, ?_⟩
  · have hpart := hasPart_setUpSubDevices (o := occasion d desc a created now) h hd handle? 0 entry
      hentry
    obtain ⟨id, hid⟩ := hpart.linked
    exact ⟨hpart.resource, ⟨id, (links_congr ((sameParts_finish _ a desc now).links a) _ id).mpr hid⟩,
      hpart.stored⟩
  · obtain ⟨d₁, hd₁, hmanufacturer, hmodel, hunique⟩ :=
      identity_applied (o := occasion d desc a created now) h hd handle? 0 planned desc now
    refine ⟨d₁, hd₁, ?_⟩
    unfold occasion
    rw [hmanufacturer, hmodel, hunique]

/-- **The second application finds the parts in their places.** -/
theorem sameParts_reapplied {d₁ : Device} (hd₁ : p₁.registry.device? a = some d₁) :
    ((p₁.setUpSubDevices (occasion d₁ desc a created' now) handle? 0 planned).1.finish a desc now
        ).registry.Coherent ∧
      SameParts p₁ ((p₁.setUpSubDevices (occasion d₁ desc a created' now) handle? 0 planned).1.finish
        a desc now) := by
  obtain ⟨hcoherent, hparts, d', hd', hoccasion⟩ := exists_occasion created' h hd handle? hp₁
  obtain rfl := Option.some.inj (hd₁.symm.trans hd')
  obtain ⟨hcoherent', -⟩ :=
    isPart_setUpSubDevices (o := occasion d₁ desc a created' now) hcoherent hd₁ handle? 0 planned
  refine ⟨hcoherent'.keeps (keeps_modifyDevice _ a fun d => (Gateway.address_finishDevice d _ _).2),
    (sameParts_setUpSubDevices (o := occasion d₁ desc a created' now) hcoherent hd₁ handle? 0
      fun entry hentry => ?_).trans (sameParts_finish _ a desc now)⟩
  rw [hoccasion]
  obtain ⟨hresource, hlinked, hstored⟩ := hparts entry hentry
  exact ⟨hresource, hlinked, hstored⟩

/-- The numbers that the first application gives are those of the live resources it leaves. -/
theorem numbers_applied : List.Forall₂ (fun entry id => ∃ r,
      p₁.registry.byUniqueId? entry.2.2 = some r ∧ r.id = id) planned
    (p.setUpSubDevices (occasion d desc a created now) handle? 0 planned).2 := by
  have hnumbers := numbers_setUpSubDevices (o := occasion d desc a created now) h hd handle? 0 planned
  rw [hp₁]
  exact hnumbers

/-- **The second application gives the same numbers.** -/
theorem numbers_reapplied {d₁ : Device} (hd₁ : p₁.registry.device? a = some d₁) :
    (p₁.setUpSubDevices (occasion d₁ desc a created' now) handle? 0 planned).2 =
      (p.setUpSubDevices (occasion d desc a created now) handle? 0 planned).2 := by
  obtain ⟨hcoherent, -, -⟩ := exists_occasion created' h hd handle? hp₁
  obtain ⟨hcoherent', hsame⟩ := sameParts_reapplied created' h hd handle? hp₁ hd₁
  have hnumbers := numbers_setUpSubDevices (o := occasion d₁ desc a created' now) hcoherent hd₁ handle?
    0 planned
  refine List.right_unique_forall₂' ?_ (hnumbers.imp fun entry id hid => ?_)
    (numbers_applied h hd handle? hp₁)
  · rintro entry id id' ⟨r, hr, rfl⟩ ⟨r', hr', rfl⟩
    rw [Option.some.inj (hr.symm.trans hr')]
  · obtain ⟨r', hr', rfl⟩ := hid
    exact hsame.symm.exists_byUniqueId? hcoherent' hcoherent hr'

/-- **The spots of a part that is set up twice** are visited twice. -/
theorem exists_spots (hu : u ∈ planned.map (·.2.2)) (n : String) :
    ∃ x, IsStart p (occasion d desc a created now) planned u n x ∧
      p₁.spot u n = (occasion d desc a created now).visits handle? u n 0 planned x ∧
      ∀ d₁, p₁.registry.device? a = some d₁ →
        ((p₁.setUpSubDevices (occasion d₁ desc a created' now) handle? 0 planned).1.finish a desc now
          ).spot u n = (occasion d desc a created now).visits handle? u n 0 planned (p₁.spot u n) := by
  obtain ⟨hcoherent, hparts, d₁, hd₁, hoccasion⟩ := exists_occasion created' h hd handle? hp₁
  obtain ⟨x, hx, hspot⟩ := spot_setUpSubDevices_of_mem (o := occasion d desc a created now) h hd
    handle? 0 hu n
  refine ⟨x, hx, by rw [hp₁]; exact hspot, fun d' hd' => ?_⟩
  obtain rfl := Option.some.inj (hd₁.symm.trans hd')
  obtain ⟨entry, hentry, rfl⟩ := List.mem_map.mp hu
  refine (spot_setUpSubDevices (o := occasion d₁ desc a created' now) hcoherent hd₁ handle? 0 planned
    (hparts entry hentry).resource n).trans ?_
  rw [hoccasion, Occasion.visits_created]

/-- **What becomes of the items of a part that is set up twice.** -/
theorem repeats_of_applied (hplanned : planSubDevices a desc.subDevices = .ok planned)
    (hnow : now.IsProper) (hrange : p₁.registry.stampsInRange = true)
    (hresources : ∀ id r, p.registry.resource? id = some r → r.HasIdentity ∧ r.IsProper)
    (hu : u ∈ planned.map (·.2.2)) {d₁ : Device} (hd₁ : p₁.registry.device? a = some d₁)
    {r₁ r₂ : Resource} (hr₁ : p₁.registry.byUniqueId? u = some r₁)
    (hr₂ : ((p₁.setUpSubDevices (occasion d₁ desc a created' now) handle? 0 planned).1.finish a desc
      now).registry.byUniqueId? u = some r₂) (n : String) :
    Repeats p p₁ (occasion d desc a created now) desc r₁ r₂ n := by
  obtain ⟨hcoherent, -, -⟩ := exists_occasion created' h hd handle? hp₁
  obtain ⟨x, hx, hspot, hagain⟩ := exists_spots created' h hd handle? hp₁ hu n
  obtain ⟨hlive, rfl⟩ := hcoherent.live?_of_byUniqueId? hr₁
  have hitem₁ : (p₁.spot r₁.uniqueId n).1 = r₁.item? n := by
    rw [spot, hr₁, Option.bind_some]
  have hitem₂ := congrArg Prod.fst (hagain d₁ hd₁)
  rw [spot, hr₂, Option.bind_some] at hitem₂
  change r₂.item? n = _ at hitem₂
  -- What the first application left is in range, so its stamps survive the second one.
  have hfirst : ∀ item, ((occasion d desc a created now).visits handle? r₁.uniqueId n 0 planned x).1 =
      some item → item.stampInRange = true := by
    intro item hitem
    rw [← hspot, hitem₁] at hitem
    exact stampInRange_of_item? hrange (live?_eq_some_iff.mp hlive).1 hitem
  -- An item is described by no template, by one, or it belongs to the identity as well.
  refine ⟨fun hnil => ?_, fun hn t ht => ?_, fun hn s t hs ht => ?_⟩
  · have hplain : (plannedFor planned r₁.uniqueId).flatMap (·.templatesFor n) = [] := by
      rw [plannedFor_eq hplanned]
      exact hnil
    rw [hitem₂, hspot, ← hitem₁, hspot]
    refine Occasion.visits_visits_of_undescribed hplain handle? fun hn item hitem => ?_
    obtain ⟨item', hitem', htype, -⟩ := exists_item_of_isStart hx hn h hresources
    rw [hitem] at hitem'
    exact Option.some.inj hitem' ▸ htype
  · obtain ⟨type, item, htype, hitem, hiff⟩ := Occasion.visits_visits_of_described ht hplanned handle?
      x hnow (fun hmem => absurd hmem hn) hfirst
    rw [if_neg hn, ← not_refuses_iff hx type, ← hspot] at hiff
    rw [hitem₂, ← hitem₁, hspot, hitem, ← hspot]
    exact hiff
  · have htemplates : desc.templatesFor a r₁.uniqueId n = [t] := by
      rw [Description.templatesFor, show desc.subDevicesFor a r₁.uniqueId = [s] from hs,
        List.flatMap_singleton, ht]
    obtain ⟨type, item, htype, hitem, hiff⟩ := Occasion.visits_visits_of_described htemplates hplanned
      handle? x hnow (fun _ => ⟨⟨s, hs⟩, exists_item_of_isStart hx hn h hresources⟩) hfirst
    rw [if_pos hn, ← hspot] at hiff
    refine ⟨item, by rw [← hitem₁, hspot]; exact hitem, ?_⟩
    rw [hitem₂, ← hitem₁, hspot, hitem, ← hspot]
    exact hiff

/-- **What becomes of resources**: those whose numbers are not given stay as they are. -/
theorem resources_reapplied (hplanned : planSubDevices a desc.subDevices = .ok planned)
    (hnow : now.IsProper) (hrange : p₁.registry.stampsInRange = true)
    (hresources : ∀ id r, p.registry.resource? id = some r → r.HasIdentity ∧ r.IsProper)
    {d₁ : Device} (hd₁ : p₁.registry.device? a = some d₁) {id : ResourceId} {r₁ : Resource}
    (hr₁ : p₁.registry.resource? id = some r₁) :
    ∃ r₂, ((p₁.setUpSubDevices (occasion d₁ desc a created' now) handle? 0 planned).1.finish a desc
        now).registry.resource? id = some r₂ ∧
      if id ∈ (p.setUpSubDevices (occasion d desc a created now) handle? 0 planned).2 then
        ∀ n, Repeats p p₁ (occasion d desc a created now) desc r₁ r₂ n
      else r₂ = r₁ := by
  obtain ⟨hcoherent, -, -⟩ := exists_occasion created' h hd handle? hp₁
  obtain ⟨hcoherent', hsame⟩ := sameParts_reapplied created' h hd handle? hp₁ hd₁
  have hframe := hsame.frames id
  rw [hr₁, Option.map_some] at hframe
  obtain ⟨r₂, hr₂, -⟩ := Option.map_eq_some_iff.mp hframe
  refine ⟨r₂, hr₂, ?_⟩
  split_ifs with hid
  · -- The resource is the live one with one of the unique ids.
    obtain ⟨k, hk⟩ := List.mem_iff_getElem?.mp hid
    obtain ⟨entry, hentry, r, hr, rfl⟩ :=
      forall₂_getElem? (numbers_applied h hd handle? hp₁).flip hk
    obtain ⟨r', hr', hid'⟩ := hsame.exists_byUniqueId? hcoherent hcoherent' hr
    have hresource := hcoherent.resource?_of_byUniqueId? hr
    have hresource' := hcoherent'.resource?_of_byUniqueId? hr'
    obtain rfl := Option.some.inj (hresource.symm.trans hr₁)
    rw [hid'] at hresource'
    obtain rfl := Option.some.inj (hresource'.symm.trans hr₂)
    exact repeats_of_applied created' h hd handle? hp₁ hplanned hnow hrange hresources
      (List.mem_map_of_mem (List.mem_of_getElem? hentry)) hd₁ hr hr'
  · -- A resource that is no part of the device is not visited by the second application either.
    rw [← numbers_reapplied created' h hd handle? hp₁ hd₁] at hid
    have hsameResource := resource?_setUpSubDevices (o := occasion d₁ desc a created' now) hcoherent
      hd₁ handle? 0 hid
    rw [← Option.some.injEq, ← hr₁, ← hr₂, ← hsameResource]
    rfl

end Twice

end Premises

namespace Gateway

variable {start : Gateway} {catalog : Catalog} {a : ExtAddress} {description : Nat}
  {created created' now : Instant} {p₁ : Premises} {ids : List ResourceId}

/-- **A description may be applied a second time.**  After any history of operations let a description
be applied to a device, without a stamp that leaves the range of instants.  Then it can be applied once
more, with the same time for values, and gives the same numbers.  No resource and no link is made,
neither of the device nor in the store, and no resource changes but those with these numbers.  What
becomes of their items is said by `Premises.Repeats`: they are left alone, unless one was frozen when
the description was first applied and is offered another value by a template that is not static. -/
theorem description_reapplied {history : List GatewayEvent} (hstart : start.registry = {})
    (hclock : start.now.IsProper) (hhost : start.hostTime.IsProper)
    (hhistory : ∀ e ∈ history, IsOperation e) (hnow : now.IsProper)
    (happly : (start.run history).toPremises.applyDescription catalog a description created now =
      .ok (p₁, ids))
    (hrange : p₁.registry.stampsInRange = true) :
    ∃ desc d p₂, catalog.get? description = some desc ∧
      (start.run history).registry.device? a = some d ∧
      p₁.applyDescription catalog a description created' now = .ok (p₂, ids) ∧
      Premises.SameParts p₁ p₂ ∧
      ∀ id r₁, p₁.registry.resource? id = some r₁ →
        ∃ r₂, p₂.registry.resource? id = some r₂ ∧
          if id ∈ ids then
            ∀ n, Premises.Repeats (start.run history).toPremises p₁
              (Premises.occasion d desc a created now) desc r₁ r₂ n
          else r₂ = r₁ := by
  have htended := isTended_run hstart hclock hhost history hhistory
  have hcoherent := htended.coherent
  have hresources : ∀ id r, (start.run history).registry.resource? id = some r →
      r.HasIdentity ∧ r.IsProper := fun id r hr =>
    ⟨htended.identity id r hr, htended.timely.resources id r hr⟩
  -- The history is not needed any more: from here on the premises are arbitrary.
  generalize (start.run history).toPremises = p at *
  obtain ⟨desc, d, planned, hget, hd, hplanned, hp₁, hids⟩ :=
    Premises.applyDescription_eq_ok_iff.mp happly
  obtain ⟨-, -, d₁, hd₁, -⟩ :=
    Premises.exists_occasion created' hcoherent hd (catalog.handle? description) hp₁
  obtain ⟨-, hsame⟩ := Premises.sameParts_reapplied created' hcoherent hd
    (catalog.handle? description) hp₁ hd₁
  refine ⟨desc, d, _, hget, hd, ?_, hsame, fun id r₁ hr₁ => ?_⟩
  · refine Premises.applyDescription_eq_ok_iff.mpr ⟨desc, d₁, planned, hget, hd₁, hplanned, rfl, ?_⟩
    rw [hids, Premises.numbers_reapplied created' hcoherent hd (catalog.handle? description) hp₁ hd₁]
  · rw [hids]
    exact Premises.resources_reapplied created' hcoherent hd (catalog.handle? description) hp₁
      hplanned hnow hrange hresources hd₁ hr₁

/-- A sensor that has measured a temperature. -/
def measuringSensor : Gateway :=
  plainThermometer.run joinedAndMeasured

/-- The temperature that was measured is left alone when the description is applied twice. -/
theorem temperature_left_alone :
    ∃ p₁ p₂ r₁ r₂, measuringSensor.toPremises.applyDescription plainThermometer.catalog ⟨1⟩ 0
        .start2024 .start2024 = .ok (p₁, [⟨2⟩]) ∧
      p₁.applyDescription plainThermometer.catalog ⟨1⟩ 0 .start2024 .start2024 = .ok (p₂, [⟨2⟩]) ∧
      p₁.registry.resource? ⟨2⟩ = some r₁ ∧ p₂.registry.resource? ⟨2⟩ = some r₂ ∧
      r₁.value? Suffix.temperature = some (.int 2100) ∧
      r₂.item? Suffix.temperature = r₁.item? Suffix.temperature := by
  have hoperations : ∀ e ∈ joinedAndMeasured, IsOperation e := by
    simp [joinedAndMeasured, joined, IsOperation]
  have hfirst : (measuringSensor.toPremises.applyDescription plainThermometer.catalog ⟨1⟩ 0
      .start2024 .start2024).toOption.map (fun x => (x.2, x.1.registry.stampsInRange,
        (x.1.registry.resource? ⟨2⟩).map fun r => (r.uniqueId, r.value? Suffix.temperature))) =
      some ([⟨2⟩], true, some (.ofPattern temperaturePart.addressing ⟨1⟩, some (.int 2100))) := by
    decide +kernel
  rcases happly : measuringSensor.toPremises.applyDescription plainThermometer.catalog ⟨1⟩ 0
    .start2024 .start2024 with e | ⟨p₁, ids⟩ <;> rw [happly] at hfirst
  · cases hfirst
  obtain ⟨rfl, hfacts⟩ := Prod.mk.inj (Option.some.inj hfirst)
  obtain ⟨hrange, hresource⟩ := Prod.mk.inj hfacts
  obtain ⟨r₁, hr₁, hknown⟩ := Option.map_eq_some_iff.mp hresource
  obtain ⟨huniqueId, hvalue⟩ := Prod.mk.inj hknown
  obtain ⟨desc, d, p₂, hdesc, -, hagain, -, hresources⟩ :=
    @description_reapplied plainThermometer plainThermometer.catalog ⟨1⟩ 0 .start2024 .start2024
      .start2024 p₁ [⟨2⟩] joinedAndMeasured rfl (by decide) (by decide) hoperations (by decide)
      happly hrange
  obtain ⟨r₂, hr₂, hrepeats⟩ := hresources ⟨2⟩ r₁ hr₁
  obtain rfl : desc = describing [temperaturePart] := Option.some.inj hdesc.symm
  rw [if_pos (List.mem_singleton_self _)] at hrepeats
  refine ⟨p₁, p₂, r₁, r₂, rfl, hagain, hr₁, hr₂, hvalue,
    ((hrepeats Suffix.temperature).described (by decide) { name := Suffix.temperature } ?_).mpr
      (.inr ?_)⟩
  · have htyped : ({ name := Suffix.temperature } : ItemTemplate).type?.isSome = true := by decide
    simp [huniqueId, Premises.occasion, describing, Description.templatesFor,
      Description.subDevicesFor, SubDevice.templatesFor, temperaturePart, htyped]
  · -- The temperature is not static.
    rintro ⟨r, item, -, hr, hitem, hfrozen, -⟩
    have hopen : ((measuringSensor.registry.byUniqueId? r₁.uniqueId).bind fun r =>
        (r.item? Suffix.temperature).map Item.isFrozen) = some false := by
      rw [huniqueId]
      decide +kernel
    rw [show measuringSensor.registry.byUniqueId? r₁.uniqueId = some r from hr, Option.bind_some,
      hitem, Option.map_some, hfrozen] at hopen
    cases hopen

/-- The part of a sensor that has a version. -/
def versionPart (t : ItemTemplate) : SubDevice :=
  { temperaturePart with items := [t] }

/-- A sensor was set up with a static version; then its version became one by default. -/
def updatedSensor : Gateway :=
  (knowing [versionPart { name := "attr/swversion", fixed := some (.string "a") }]).run
    [.deviceAdded ⟨1⟩ "A" "m", .deviceSetUp ⟨1⟩,
      .outside fun g => { g with catalog := { descriptions := [describing
        [versionPart { name := "attr/swversion", initial := some (.string "b") }]] } }]

/-- A static item refuses the default of the new description at first, and takes it when the same
description is applied once more. -/
theorem version_changed_by_reapplication :
    ∃ p₁ p₂ r₁ r₂, updatedSensor.toPremises.applyDescription updatedSensor.catalog ⟨1⟩ 0 .start2024
        .start2024 = .ok (p₁, [⟨2⟩]) ∧
      p₁.applyDescription updatedSensor.catalog ⟨1⟩ 0 .start2024 .start2024 = .ok (p₂, [⟨2⟩]) ∧
      p₁.registry.resource? ⟨2⟩ = some r₁ ∧ p₂.registry.resource? ⟨2⟩ = some r₂ ∧
      r₁.value? "attr/swversion" = some (.text "a") ∧
      r₂.value? "attr/swversion" = some (.text "b") := by
  -- Both applications are evaluated at once, the second one on the outcome of the first.
  have hvalues : ((updatedSensor.toPremises.applyDescription updatedSensor.catalog ⟨1⟩ 0 .start2024
      .start2024).toOption.bind fun x =>
        (x.1.applyDescription updatedSensor.catalog ⟨1⟩ 0 .start2024 .start2024).toOption.map
          fun y => (x.2, y.2, (x.1.registry.resource? ⟨2⟩).map (·.value? "attr/swversion"),
            (y.1.registry.resource? ⟨2⟩).map (·.value? "attr/swversion"))) =
      some ([⟨2⟩], [⟨2⟩], some (some (.text "a")), some (some (.text "b"))) := by
    decide +kernel
  rcases hfirst : updatedSensor.toPremises.applyDescription updatedSensor.catalog ⟨1⟩ 0 .start2024
    .start2024 with e | ⟨p₁, ids₁⟩ <;> rw [hfirst] at hvalues
  · cases hvalues
  change (p₁.applyDescription updatedSensor.catalog ⟨1⟩ 0 .start2024 .start2024).toOption.map _ = _
    at hvalues
  rcases hsecond : p₁.applyDescription updatedSensor.catalog ⟨1⟩ 0 .start2024 .start2024
    with e | ⟨p₂, ids₂⟩ <;> rw [hsecond] at hvalues
  · cases hvalues
  obtain ⟨rfl, hrest⟩ := Prod.mk.inj (Option.some.inj hvalues)
  obtain ⟨rfl, hrest⟩ := Prod.mk.inj hrest
  obtain ⟨hold, hnew⟩ := Prod.mk.inj hrest
  obtain ⟨r₁, hr₁, hvalue₁⟩ := Option.map_eq_some_iff.mp hold
  obtain ⟨r₂, hr₂, hvalue₂⟩ := Option.map_eq_some_iff.mp hnew
  exact ⟨p₁, p₂, r₁, r₂, rfl, hsecond, hr₁, hr₂, hvalue₁, hvalue₂⟩

end Gateway

end ZigbeeGateway
