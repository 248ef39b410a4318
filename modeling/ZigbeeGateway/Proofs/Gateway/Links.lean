import ZigbeeGateway.Proofs.Gateway.History
import ZigbeeGateway.Proofs.Registry.Coherence

/-!
# Links of devices that are set up

Setting up a device finds or makes a live resource for each part, and links it unless the device has
a link of its unique id already.  Links are never taken back: one that was left behind by a deleted
resource stays stale, and the resource that took its place is neither found by the device nor
deleted with it.  `initDevice_links` says for every history that this is the only way to miss a
part.
-/

namespace ZigbeeGateway

open Relation

namespace Registry

variable {g g' g'' g₀ : Registry} {a : ExtAddress} {u : UniqueId} {id : ResourceId} {r : Resource}
  {d : Device}

/-! ### Extending -/

/-- No resource is lost, renamed, deleted or brought back, and a device keeps its links and gets no
stale ones. -/
structure Extends (a : ExtAddress) (g g' : Registry) : Prop where
  resources : ∀ id r, g.resource? id = some r →
    ∃ r', g'.resource? id = some r' ∧ r'.uniqueId = r.uniqueId ∧ r'.deleted = r.deleted
  device : ∀ d, g.device? a = some d → ∃ d', g'.device? a = some d'
  links : ∀ u id, g.Links a u id → g'.Links a u id
  stale : ∀ u, g'.IsStale a u → g.IsStale a u

namespace Extends

theorem exists_live? (h : Extends a g g') (hlive : g.live? id = some r) :
    ∃ r', g'.live? id = some r' ∧ r'.uniqueId = r.uniqueId := by
  obtain ⟨hr, hdeleted⟩ := live?_eq_some_iff.mp hlive
  obtain ⟨r', hr', hunique, hdeleted'⟩ := h.resources id r hr
  exact ⟨r', live?_eq_some_iff.mpr ⟨hr', hdeleted'.trans hdeleted⟩, hunique⟩

theorem refl (a : ExtAddress) (g : Registry) : Extends a g g :=
  ⟨fun _ r hr => ⟨r, hr, rfl, rfl⟩, fun d hd => ⟨d, hd⟩, fun _ _ h => h, fun _ h => h⟩

theorem trans (h : Extends a g g') (h' : Extends a g' g'') : Extends a g g'' := by
  refine ⟨fun id r hr => ?_, fun d hd => ?_, fun u id hid => h'.links u id (h.links u id hid),
    fun u hu => h.stale u (h'.stale u hu)⟩
  · obtain ⟨r', hr', hunique, hdeleted⟩ := h.resources id r hr
    obtain ⟨r'', hr'', hunique', hdeleted'⟩ := h'.resources id r' hr'
    exact ⟨r'', hr'', hunique'.trans hunique, hdeleted'.trans hdeleted⟩
  · obtain ⟨d', hd'⟩ := h.device d hd
    exact h'.device d' hd'

theorem of_links_eq (hresources : ∀ id r, g.resource? id = some r →
      ∃ r', g'.resource? id = some r' ∧ r'.uniqueId = r.uniqueId ∧ r'.deleted = r.deleted)
    (hlinks : (g'.device? a).map Device.links = (g.device? a).map Device.links) :
    Extends a g g' := by
  refine ⟨hresources, fun d hd => ?_, fun u id => (links_congr hlinks u id).mpr, ?_⟩
  · rw [hd] at hlinks
    obtain ⟨d', hd', -⟩ := Option.map_eq_some_iff.mp hlinks
    exact ⟨d', hd'⟩
  · rintro u ⟨id, hid, hgone⟩
    refine ⟨id, (links_congr hlinks u id).mp hid, ?_⟩
    cases hlive : g.live? id with
    | none => rfl
    | some r =>
      obtain ⟨hr, hdeleted⟩ := live?_eq_some_iff.mp hlive
      obtain ⟨r', hr', -, hdeleted'⟩ := hresources id r hr
      rw [live?_eq_some_iff.mpr ⟨hr', hdeleted'.trans hdeleted⟩] at hgone
      cases hgone

/-- **The stale links are the ones that were stale.** -/
theorem isStale_iff (h : Extends a g g') (hg : g.Coherent) (u : UniqueId) :
    g'.IsStale a u ↔ g.IsStale a u := by
  refine ⟨h.stale u, ?_⟩
  rintro ⟨id, hid, hgone⟩
  refine ⟨id, h.links u id hid, ?_⟩
  obtain ⟨r, hr, -⟩ := hg.exists_resource?_of_links hid
  obtain ⟨r', hr', -, hdeleted'⟩ := h.resources id r hr
  cases hdeleted : r.deleted with
  | false =>
    rw [live?_eq_some_iff.mpr ⟨hr, hdeleted⟩] at hgone
    cases hgone
  | true =>
    unfold live?
    rw [hr']
    simp [hdeleted', hdeleted]

end Extends

theorem extends_modifyResource (a : ExtAddress) (g : Registry) (id : ResourceId)
    {f : Resource → Resource} (hf : ∀ r, (f r).frame = r.frame) :
    Extends a g (g.modifyResource id f) := by
  refine .of_links_eq (fun id' r hr => ?_) rfl
  have hid : ∀ r : Resource, r.id = id → (f r).id = id := fun r hr =>
    (Resource.id_of_frame_eq (hf r)).trans hr
  rw [resource?_modifyResource g hid]
  split_ifs with h
  · subst h
    rw [hr, Option.map_some]
    exact ⟨f r, rfl, Resource.uniqueId_of_frame_eq (hf r), Resource.deleted_of_frame_eq (hf r)⟩
  · exact ⟨r, hr, rfl, rfl⟩

theorem extends_modifyDevice (g : Registry) (a : ExtAddress) {f : Device → Device}
    (haddress : ∀ d, (f d).address = d.address) (hlinks : ∀ d, (f d).links = d.links) :
    Extends a g (g.modifyDevice a f) := by
  refine .of_links_eq (fun _ r hr => ⟨r, hr, rfl, rfl⟩) ?_
  rw [device?_modifyDevice g (fun d hd => (haddress d).trans hd), if_pos rfl, Option.map_map]
  congr 1
  funext d
  exact hlinks d

theorem extends_pushResource (a : ExtAddress) (g : Registry) (r : Resource) :
    Extends a g (g.pushResource r).1 := by
  refine .of_links_eq (fun id q hq => ⟨q, ?_, rfl, rfl⟩) rfl
  rw [resource?_pushResource, hq, Option.some_or]

theorem device?_addLink (hd : g.device? a = some d) (u : UniqueId) (id : ResourceId) :
    (g.modifyDevice a fun d => d.addLink u id).device? a = some (d.addLink u id) := by
  rw [device?_modifyDevice g fun d hd => (d.address_addLink u id).trans hd, if_pos rfl, hd,
    Option.map_some]

theorem links_addLink_iff (hd : g.device? a = some d) {u' : UniqueId} {id' : ResourceId} :
    (g.modifyDevice a fun d => d.addLink u id).Links a u' id' ↔
      (d.link? u').or (if u' = u then some id else none) = some id' := by
  unfold Links
  rw [device?_addLink hd]
  simp only [Option.some.injEq, exists_eq_left', Device.link?_addLink]

theorem extends_addLink (hd : g.device? a = some d) (hlive : g.live? id = some r) (u : UniqueId) :
    Extends a g (g.modifyDevice a fun d => d.addLink u id) := by
  refine ⟨fun _ r hr => ⟨r, hr, rfl, rfl⟩, fun _ _ => ⟨_, device?_addLink hd u id⟩, ?_, ?_⟩
  · rintro u' id' ⟨d', hd', hid'⟩
    rw [hd] at hd'
    obtain rfl := Option.some.inj hd'
    rw [links_addLink_iff hd, hid', Option.some_or]
  · rintro u' ⟨id', hid', hgone⟩
    rw [links_addLink_iff hd] at hid'
    rcases Option.or_eq_some_iff.mp hid' with hlinked | ⟨-, hnew⟩
    · exact ⟨id', ⟨d, hd, hlinked⟩, hgone⟩
    · split_ifs at hnew
      obtain rfl := Option.some.inj hnew
      change g.live? id = none at hgone
      rw [hlive] at hgone
      cases hgone

/-! ### Parts -/

/-- What is known of the part of a device that was set up under a unique id: its resource is live,
and it is linked unless the device had a stale link before. -/
structure IsPart (g₀ g : Registry) (a : ExtAddress) (u : UniqueId) (id : ResourceId) : Prop where
  live : ∃ r, g.live? id = some r ∧ r.uniqueId = u
  linked : g.Links a u id ∨ g₀.IsStale a u

namespace IsPart

theorem extend (h : IsPart g₀ g a u id) (hextends : Extends a g g') : IsPart g₀ g' a u id := by
  obtain ⟨r, hlive, hunique⟩ := h.live
  obtain ⟨r', hlive', hunique'⟩ := hextends.exists_live? hlive
  exact ⟨⟨r', hlive', hunique'.trans hunique⟩, h.linked.imp_left (hextends.links u id)⟩

theorem of_extends (hextends : Extends a g₀ g) (h : IsPart g g' a u id) : IsPart g₀ g' a u id :=
  ⟨h.live, h.linked.imp_right (hextends.stale u)⟩

/-- **A part is found by its device exactly** if the device had no stale link. -/
theorem subDevice?_iff (h : IsPart g₀ g a u id) (hextends : Extends a g₀ g) (hg₀ : g₀.Coherent) :
    (∃ r, g.live? id = some r ∧ g.subDevice? a u = some r) ↔ ¬ g₀.IsStale a u := by
  constructor
  · rintro ⟨r, -, hfound⟩ hstale
    obtain ⟨id', hid', hgone⟩ := (hextends.isStale_iff hg₀ u).mpr hstale
    rw [subDevice?_of_links hid', hgone] at hfound
    cases hfound
  · intro hfresh
    obtain ⟨r, hlive, -⟩ := h.live
    refine ⟨r, hlive, ?_⟩
    rw [subDevice?_of_links (h.linked.resolve_right hfresh), hlive]

/-- **A part is deleted with its device exactly** if the device had no stale link. -/
theorem live?_deleteDevice_iff (h : IsPart g₀ g a u id) (hextends : Extends a g₀ g)
    (hg₀ : g₀.Coherent) (hg : g.Coherent) (hd : g.device? a = some d) :
    (g.deleteDevice a).live? id = none ↔ ¬ g₀.IsStale a u := by
  obtain ⟨r, hlive, hunique⟩ := h.live
  rw [live?_deleteDevice hd, ← hextends.isStale_iff hg₀]
  have hresolves := hg.links d (List.mem_of_find?_eq_some hd)
  constructor
  · rintro hgone ⟨id', hid', hdead⟩
    split_ifs at hgone with hmem
    · -- The resource is linked under its own unique id, so the stale link is a second one.
      obtain ⟨⟨u', i⟩, hlink, rfl⟩ := List.mem_map.mp hmem
      obtain ⟨q, hq, hnamed⟩ := hresolves.named u' i hlink
      rw [(live?_eq_some_iff.mp hlive).1] at hq
      obtain rfl := Option.some.inj hq
      obtain rfl : u' = u := hnamed.symm.trans hunique
      have hlinks : g.Links a u' i := ⟨d, hd, lookup_of_mem hresolves.keys hlink⟩
      rw [hid'.unique hlinks, hlive] at hdead
      cases hdead
    · rw [hlive] at hgone
      cases hgone
  · -- A part that is linked itself is deleted with the device.
    intro hfresh
    rw [hextends.isStale_iff hg₀] at hfresh
    obtain ⟨d', hd', hid⟩ := h.linked.resolve_right hfresh
    rw [hd] at hd'
    obtain rfl := Option.some.inj hd'
    rw [if_pos (List.mem_map_of_mem (mem_of_lookup hid))]

end IsPart

/-! ### Setting up one part -/

/-- The resource of a part is found, or made with a unique id that is free. -/
theorem Coherent.ensureResource (h : g.Coherent) (a : ExtAddress) {kind : ResourceKind}
    {typeName : String} {created : Instant}
    (hensure : g.ensureResource kind typeName u created = (g', id)) :
    g'.Coherent ∧ Extends a g g' ∧ ∃ r, g'.live? id = some r ∧ r.uniqueId = u := by
  unfold Registry.ensureResource at hensure
  split at hensure
  · rename_i r hfound
    obtain ⟨rfl, rfl⟩ := Prod.mk.inj hensure
    exact ⟨h, .refl a g, r, h.live?_of_byUniqueId? hfound⟩
  · rename_i hfree
    dsimp only at hensure
    generalize hnew : ((Resource.new kind typeName u created).addItem
      { suffix := Suffix.manufacturerName, type := .string }).addItem
      { suffix := Suffix.modelId, type := .string } = r at hensure
    -- The items of the identity are no part of the frame.
    have hframe : r.frame = (Resource.new kind typeName u created).frame := by
      rw [← hnew, Resource.frame_addItem, Resource.frame_addItem]
    have hunique : r.uniqueId = u := Resource.uniqueId_of_frame_eq hframe
    have hdeleted : r.deleted = false := Resource.deleted_of_frame_eq hframe
    rw [← hunique] at hfree
    obtain ⟨rfl, rfl⟩ := Prod.mk.inj hensure
    exact ⟨h.pushResource hfree, extends_pushResource a g r, _,
      live?_eq_some_iff.mpr ⟨h.resource?_pushResource_self r, hdeleted⟩, hunique⟩

/-- **One part.**  With its resource found or made, linked and set up within its frame, the registry
is coherent, nothing is lost, and the part is known. -/
theorem Coherent.setUp (h : g.Coherent) {kind : ResourceKind} {typeName : String}
    {created : Instant} {f : Resource → Resource} (hd : g.device? a = some d)
    (hensure : g.ensureResource kind typeName u created = (g', id))
    (hf : ∀ r, (f r).frame = r.frame) :
    ((g'.modifyDevice a fun d => d.addLink u id).modifyResource id f).Coherent ∧
      Extends a g ((g'.modifyDevice a fun d => d.addLink u id).modifyResource id f) ∧
      IsPart g ((g'.modifyDevice a fun d => d.addLink u id).modifyResource id f) a u id := by
  obtain ⟨hg', hensured, r, hlive, hunique⟩ := h.ensureResource a hensure
  obtain ⟨d', hd'⟩ := hensured.device d hd
  have hlinked := extends_addLink hd' hlive u
  have hchanged := extends_modifyResource a (g'.modifyDevice a fun d => d.addLink u id) id hf
  have hcoherent := hg'.addLink a (live?_eq_some_iff.mp hlive).1 hunique
  have hpart : IsPart g (g'.modifyDevice a fun d => d.addLink u id) a u id := by
    refine ⟨⟨r, hlive, hunique⟩, ?_⟩
    cases hold : d'.link? u with
    | none =>
      rw [links_addLink_iff hd', hold, Option.none_or, if_pos rfl]
      exact .inl rfl
    | some id' =>
      have hlinks : g'.Links a u id' := ⟨d', hd', hold⟩
      cases hlive' : g'.live? id' with
      | none => exact .inr (hensured.stale u ⟨id', hlinks, hlive'⟩)
      | some q =>
        -- The link is to a live resource with the unique id, and there is one such only.
        obtain ⟨q', hq', hunique'⟩ := hg'.exists_resource?_of_links hlinks
        rw [(live?_eq_some_iff.mp hlive').1] at hq'
        obtain rfl := Option.some.inj hq'
        obtain rfl := hg'.apart id' id q r hlive' hlive (hunique'.trans hunique.symm)
        exact .inl (hlinked.links u id' hlinks)
  refine ⟨hcoherent.keeps (keeps_modifyResource _ id (fun r => ?_) fun r => ?_),
    (hensured.trans hlinked).trans hchanged, hpart.extend hchanged⟩
  · exact Resource.id_of_frame_eq (hf r)
  · exact Resource.lasts_of_frame_eq (hf r)

end Registry

/-! ### Setting up a device -/

open Registry

/-- Setting up sub-resources one after another: each becomes a part. -/
theorem Premises.isPart_setUpSubDevices {p : Premises} {o : Premises.Occasion} {d : Device}
    (h : p.registry.Coherent) (hd : p.registry.device? o.address = some d)
    (handle? : Nat → Nat → Option TemplateHandle) (position : Nat)
    (planned : List (SubDevice × ResourceKind × UniqueId)) :
    (p.setUpSubDevices o handle? position planned).1.registry.Coherent ∧
      Extends o.address p.registry (p.setUpSubDevices o handle? position planned).1.registry ∧
      List.Forall₂ (fun entry id => IsPart p.registry
          (p.setUpSubDevices o handle? position planned).1.registry o.address entry.2.2 id)
        planned (p.setUpSubDevices o handle? position planned).2 := by
  induction planned generalizing p position d with
  | nil => exact ⟨h, .refl _ _, .nil⟩
  | cons entry planned ih =>
    obtain ⟨s, kind, u⟩ := entry
    obtain ⟨registry, id, f, hensure, -, hf, heq, hid⟩ :=
      p.setUpSubDevice_cases o (handle? position) s kind u
    obtain ⟨hcoherent, hextends, hpart⟩ := h.setUp hd hensure hf
    rw [← heq] at hcoherent hextends hpart
    obtain ⟨d', hd'⟩ := hextends.device d hd
    obtain ⟨hcoherent', hextends', hparts⟩ := ih hcoherent hd' (position + 1)
    rw [setUpSubDevices_cons, hid]
    -- The first part stays one; stale links that the others met were there before it.
    refine ⟨hcoherent', hextends.trans hextends', .cons (hpart.extend hextends') ?_⟩
    exact hparts.imp fun _ _ hpart => hpart.of_extends hextends

/-- What holds of the unique ids that are planned holds of the ones of the patterns. -/
theorem Premises.forall₂_of_planSubDevices {P : UniqueId → ResourceId → Prop} {a : ExtAddress}
    {subDevices : List SubDevice} {planned : List (SubDevice × ResourceKind × UniqueId)}
    {ids : List ResourceId} (hplanned : planSubDevices a subDevices = .ok planned)
    (h : List.Forall₂ (fun entry id => P entry.2.2 id) planned ids) :
    List.Forall₂ (fun s id => P (.ofPattern s.addressing a) id) subDevices ids := by
  have hmap := (List.forall₂_map_left_iff (R := P)).mpr h
  rw [uniqueIds_planSubDevices hplanned] at hmap
  exact List.forall₂_map_left_iff.mp hmap

namespace Gateway

variable {g g' start : Gateway} {a : ExtAddress} {ids : List ResourceId} {e : GatewayEvent}

/-- The description that a device is set up from: the first one that is made for it, once its
identity was recalled. -/
def descriptionFor? (g : Gateway) (a : ExtAddress) : Option Description := do
  let d ← g.registry.device? a
  let recalled := g.recallIfUnknown a d
  let d' ← recalled.registry.device? a
  let description ← recalled.catalog.find? d'.manufacturer d'.modelId
  recalled.catalog.get? description

/-- It is the one that is found for the recalled identity. -/
theorem descriptionFor?_eq_some {d d' : Device} {position : Nat} {desc : Description}
    (hd : g.registry.device? a = some d)
    (hd' : (g.recallIfUnknown a d).registry.device? a = some d')
    (hfind : (g.recallIfUnknown a d).catalog.find? d'.manufacturer d'.modelId = some position)
    (hdesc : (g.recallIfUnknown a d).catalog.get? position = some desc) :
    g.descriptionFor? a = some desc := by
  simp only [descriptionFor?, hd, hd', hfind, hdesc, Option.bind_eq_bind, Option.bind_some]

theorem keeps_recallIfUnknown (g : Gateway) (a : ExtAddress) (d : Device) :
    Keeps g.registry (g.recallIfUnknown a d).registry ∧
      Extends a g.registry (g.recallIfUnknown a d).registry := by
  rcases g.registry_recallIfUnknown a d with heq | ⟨node, heq⟩
  · rw [heq]
    exact ⟨.refl _, .refl a _⟩
  · rw [heq]
    exact ⟨keeps_modifyDevice _ a fun _ => rfl,
      extends_modifyDevice _ a (fun _ => rfl) fun _ => rfl⟩

theorem address_finishDevice (d : Device) (sleeper : Option Bool) (now : Instant) :
    (Premises.finishDevice d sleeper now).address = d.address ∧
      (Premises.finishDevice d sleeper now).links = d.links := by
  unfold Premises.finishDevice
  cases sleeper <;> exact ⟨rfl, rfl⟩

/-- In a coherent registry, setting a device up makes a part of each sub-resource. -/
theorem isPart_initDevice (h : g.registry.Coherent) (hok : g.initDevice a = (g', .ok ids)) :
    ∃ desc d, g.descriptionFor? a = some desc ∧ g'.registry.device? a = some d ∧
      g'.registry.Coherent ∧ Extends a g.registry g'.registry ∧
      List.Forall₂ (fun s id => IsPart g.registry g'.registry a (.ofPattern s.addressing a) id)
        desc.subDevices ids := by
  rcases g.initDevice_cases a with ⟨e, heq⟩ | ⟨d, hd, ⟨e, heq⟩ |
    ⟨d', description, p, ids', g'', hd', hfind, happly, hregistry, heq⟩⟩
  · rw [heq] at hok
    cases (Prod.mk.inj hok).2
  · rw [heq] at hok
    cases (Prod.mk.inj hok).2
  · rw [heq] at hok
    obtain ⟨rfl, hids⟩ := Prod.mk.inj hok
    obtain rfl := Except.ok.inj hids
    obtain ⟨desc, q, planned, o, handle?, hdesc, hq, hplanned, rfl, rfl, hset⟩ :=
      Premises.applyDescription_cases happly
    -- The identity is recalled, the parts are set up, and the device is finished.
    obtain ⟨hkeeps, hrecalled⟩ := g.keeps_recallIfUnknown o.address d
    obtain ⟨hcoherent, hextends, hparts⟩ :=
      Premises.isPart_setUpSubDevices (h.keeps hkeeps) hq handle? 0 planned
    rw [hregistry, hset]
    generalize ((g.recallIfUnknown o.address d).toPremises.setUpSubDevices o handle? 0 planned) =
      result at hcoherent hextends hparts ⊢
    have haddress := fun d' => (address_finishDevice d' desc.sleeper
      (g.recallIfUnknown o.address d).now).1
    have hlinks := fun d' => (address_finishDevice d' desc.sleeper
      (g.recallIfUnknown o.address d).now).2
    have hfinished := extends_modifyDevice result.1.registry o.address haddress hlinks
    obtain ⟨q', hq'⟩ := (hextends.trans hfinished).device q hq
    exact ⟨desc, q', descriptionFor?_eq_some hd hd' hfind hdesc, hq',
      hcoherent.keeps (keeps_modifyDevice _ _ hlinks),
      (hrecalled.trans hextends).trans hfinished,
      Premises.forall₂_of_planSubDevices hplanned
        (hparts.imp fun _ _ hpart => (hpart.of_extends hrecalled).extend hfinished)⟩

/-! ### Histories -/

theorem Traffic.keeps {touched : String → Prop} (h : Traffic touched g g') :
    Keeps g.registry g'.registry :=
  .of_evolves (h.resources.mono fun _ _ => Resource.Traffic.lasts) h.devices

theorem keeps_queue (g : Gateway) (id : ResourceId) (c : StateChange) :
    Keeps g.registry (g.queue id c).registry := by
  refine keeps_modifyResource g.registry id (fun r => ?_) fun r => ?_
  · exact Resource.id_of_frame_eq (Resource.sameShape_addChange r c).frame
  · exact Resource.lasts_of_frame_eq (Resource.sameShape_addChange r c).frame

theorem keeps_writeItem (g : Gateway) (id : ResourceId) (suffix : String) (v : Value) :
    Keeps g.registry (g.writeItem id suffix v).1.registry := by
  have hwritten := written_writeItem g id suffix v
  generalize g.writeItem id suffix v = result at hwritten ⊢
  cases hwritten with
  | refused => exact .refl _
  | unsent r device plan => exact registry_sendVendor g r device plan ▸ .refl _
  | direct _ _ htraffic => exact htraffic.keeps
  | managed _ _ htraffic => exact (g.keeps_queue id _).trans htraffic.keeps

theorem coherent_initDevice (h : g.registry.Coherent) (a : ExtAddress) :
    (g.initDevice a).1.registry.Coherent := by
  rcases g.initDevice_cases a with ⟨e, heq⟩ | ⟨d, -, ⟨e, heq⟩ | ⟨-, -, -, ids, g', -, -, -, -, heq⟩⟩
  · rw [heq]
    exact h
  · rw [heq]
    exact h.keeps (g.keeps_recallIfUnknown a d).1
  · obtain ⟨-, -, -, -, hcoherent, -⟩ := isPart_initDevice h heq
    rw [heq]
    exact hcoherent

/-- **Every event leaves the registry coherent.** -/
theorem coherent_step (h : g.registry.Coherent) : (g.step e).registry.Coherent := by
  cases e with
  | deviceAdded address manufacturer model =>
    refine h.keeps ((keeps_ensureDevice g.registry address g.hostTime).trans ?_)
    exact keeps_modifyDevice _ address fun _ => rfl
  | deviceSetUp address => exact coherent_initDevice h address
  | resourceAdded kind typeName uniqueId items =>
    rw [step]
    split
    · rename_i registry id hadd
      unfold Registry.addResource at hadd
      split_ifs at hadd with _ hfree
      -- The unique id was free, so nothing else is live under it.
      obtain ⟨rfl, -⟩ := Prod.mk.inj (Except.ok.inj hadd)
      exact h.pushResource (Option.not_isSome_iff_eq_none.mp hfree)
    · exact h
  | written id suffix v => exact h.keeps (g.keeps_writeItem id suffix v)
  | reported id suffix v => exact h.keeps (traffic_report g id suffix v).keeps
  | received indication => exact h.keeps (traffic_handleIndication g indication).keeps
  | ticked =>
    have htick : Traffic (fun _ => False) g g.tick.1 := traffic_tick g
    exact h.keeps htick.keeps
  | resourceDeleted id => exact h.keeps (keeps_deleteResource g.registry id)
  | deviceDeleted address => exact h.keeps (keeps_deleteDevice g.registry address)
  | outside change => exact h

/-- **Every history that begins with an empty registry leaves it coherent.** -/
theorem coherent_run (hstart : start.registry = {}) (events : List GatewayEvent) :
    (start.run events).registry.Coherent := by
  induction events using List.reverseRecOn with
  | nil =>
    rw [run, List.foldl_nil, hstart]
    exact coherent_empty
  | append_singleton events e ih =>
    rw [run_concat]
    exact coherent_step ih

/-- A part of a device after it was set up: the number that was given names a live resource with the
unique id, and the device finds it, and it is deleted with the device, exactly if there was no stale
link of the unique id before. -/
structure LinkedUnlessStale (g g' : Registry) (a : ExtAddress) (u : UniqueId) (id : ResourceId) :
    Prop where
  live : ∃ r, g'.live? id = some r ∧ r.uniqueId = u
  found : (∃ r, g'.live? id = some r ∧ g'.subDevice? a u = some r) ↔ ¬ g.IsStale a u
  deleted : (g'.deleteDevice a).live? id = none ↔ ¬ g.IsStale a u

/-- **The links of a device that was set up.**  After any history that begins with an empty
registry, let a device be set up.  Each number that is given belongs to a sub-resource of the
description, which is linked exactly if its unique id did not have a stale link before. -/
theorem initDevice_links (hstart : start.registry = {}) (history : List GatewayEvent)
    (hok : (start.run history).initDevice a = (g', .ok ids)) :
    ∃ desc, (start.run history).descriptionFor? a = some desc ∧
      List.Forall₂ (fun s id => LinkedUnlessStale (start.run history).registry g'.registry a
        (.ofPattern s.addressing a) id) desc.subDevices ids := by
  have hcoherent := coherent_run hstart history
  obtain ⟨desc, d, hdesc, hd, hcoherent', hextends, hparts⟩ := isPart_initDevice hcoherent hok
  refine ⟨desc, hdesc, hparts.imp fun s id hpart => ⟨hpart.live, ?_, ?_⟩⟩
  · exact hpart.subDevice?_iff hextends hcoherent
  · exact hpart.live?_deleteDevice_iff hextends hcoherent hcoherent' hd

/-- A gateway that knows sensors with one part. -/
def sensor : Gateway :=
  knowing
    [{ typeName := "ZHATemperature", restPath := "/sensors",
       addressing := [UniqueId.addressMarker, "1"] }]

/-- A device that was just added is set up, and its part is linked. -/
theorem linkedUnlessStale_new_device :
    let g := sensor.run [.deviceAdded ⟨1⟩ "A" "m"]
    ∃ desc, g.descriptionFor? ⟨1⟩ = some desc ∧
      List.Forall₂ (fun s id => LinkedUnlessStale g.registry (g.initDevice ⟨1⟩).1.registry ⟨1⟩
        (.ofPattern s.addressing ⟨1⟩) id) desc.subDevices [⟨2⟩] := by
  intro g
  have hids : (g.initDevice ⟨1⟩).2 = .ok [⟨2⟩] := by decide +kernel
  exact initDevice_links rfl [.deviceAdded ⟨1⟩ "A" "m"] (Prod.ext rfl hids)

/-- A part that was deleted and is set up anew is not found by its device, and stays when the device
is deleted. -/
theorem new_part_not_linked :
    let g := sensor.run [.deviceAdded ⟨1⟩ "A" "m", .deviceSetUp ⟨1⟩, .resourceDeleted ⟨2⟩]
    (g.initDevice ⟨1⟩).2 = .ok [⟨3⟩] ∧
      ((g.initDevice ⟨1⟩).1.registry.live? ⟨3⟩).map (·.uniqueId) =
        some (.ofPattern [UniqueId.addressMarker, "1"] ⟨1⟩) ∧
      (g.initDevice ⟨1⟩).1.registry.subDevice? ⟨1⟩
        (.ofPattern [UniqueId.addressMarker, "1"] ⟨1⟩) = none ∧
      (((g.initDevice ⟨1⟩).1.registry.deleteDevice ⟨1⟩).live? ⟨3⟩).isSome = true := by
  decide +kernel

end Gateway

end ZigbeeGateway
