import ZigbeeGateway.Proofs.Gateway.Links
import ZigbeeGateway.Proofs.Setup.Turns
import ZigbeeGateway.Proofs.Storage

/-!
# Setting up, part by part

In a coherent registry a sub-resource of a description is set up in one place: the live resource with
its unique id, which is made if there is none (`Registry.partFor`).  `Premises.setUpSubDevice_spec`
says in full what becomes of this resource, of its rows and of the links, and that all else stays.
-/

namespace ZigbeeGateway

open Registry

/-! ### New parts -/

namespace Resource

variable {r : Resource} {s : String} {item : Item}

theorem hasItem_iff : r.hasItem s = true ↔ s ∈ r.suffixes := by
  unfold hasItem item? suffixes
  rw [List.find?_isSome, List.mem_map]
  simp

theorem suffixes_addItem (r : Resource) (item : Item) :
    (r.addItem item).suffixes =
      if r.hasItem item.suffix then r.suffixes else r.suffixes ++ [item.suffix] := by
  unfold addItem suffixes
  split_ifs
  · rfl
  · simp

theorem nodup_addItem (hr : r.suffixes.Nodup) (item : Item) : (r.addItem item).suffixes.Nodup := by
  rw [suffixes_addItem]
  split_ifs with hhas
  · exact hr
  · rw [List.nodup_append]
    refine ⟨hr, List.nodup_singleton _, fun s hs s' hs' heq => hhas ?_⟩
    obtain ⟨old, hold, rfl⟩ := List.mem_map.mp hs
    rw [hasItem, item?, List.find?_isSome]
    exact ⟨old, hold, by simpa [heq] using List.mem_singleton.mp hs'⟩

theorem suffixes_new (kind : ResourceKind) (typeName : String) (u : UniqueId)
    (created : Instant) :
    (Resource.new kind typeName u created).suffixes = [Suffix.uniqueId, Suffix.type] := by
  have hset : ∀ (item : Item) (v : Value), (item.setIfFits v created).suffix = item.suffix :=
    fun item v => (Item.refit_setIfFits item v created).suffix
  unfold Resource.new suffixes
  dsimp only
  split_ifs <;> simp only [List.map_cons, List.map_nil, hset]

/-- A resource begins without the items of the identity. -/
theorem item?_new_of_mem (kind : ResourceKind) (typeName : String) (u : UniqueId)
    (created : Instant) {n : String} (hn : n ∈ Premises.identity) :
    (Resource.new kind typeName u created).item? n = none := by
  have hhas := (Resource.new kind typeName u created).hasItem_iff (s := n)
  rw [suffixes_new, hasItem] at hhas
  cases hitem : (Resource.new kind typeName u created).item? n with
  | none => rfl
  | some item =>
    rw [hitem] at hhas
    have hmem := hhas.mp rfl
    unfold Premises.identity at hn
    simp only [List.mem_cons, List.not_mem_nil, or_false] at hn
    rcases hn with rfl | rfl <;> exact absurd hmem (by decide)

end Resource

/-- The item holds text or nothing, and may be set any time. -/
structure Item.IsPlain (item : Item) : Prop where
  type : item.type = .string
  isStatic : item.isStatic = false
  value : ∀ v, item.value = some v → ∃ s, v = .text s

namespace Item

theorem isPlain_blank (suffix : String) : IsPlain { suffix, type := .string } :=
  ⟨rfl, rfl, fun v hv => by cases hv⟩

theorem IsPlain.setIfFits {item : Item} (h : item.IsPlain) (s : String) (now : Instant) :
    (item.setIfFits (.text s) now).IsPlain := by
  unfold Item.setIfFits
  split
  · rename_i item' o hset
    obtain ⟨w, hw, ⟨-, -, rfl⟩ | ⟨-, -, rfl⟩ | ⟨-, -, rfl⟩⟩ := set_cases hset
    · exact h
    · exact ⟨h.type, h.isStatic, h.value⟩
    · refine ⟨h.type, h.isStatic, fun v hv => ⟨s, ?_⟩⟩
      rw [h.type] at hw
      exact (Option.some.inj hv).symm.trans (Except.ok.inj hw).symm
  · exact h

end Item

namespace Registry

variable {g g' : Registry} {u u' : UniqueId} {id : ResourceId} {r : Resource} {n : String}
  {kind : ResourceKind} {typeName : String} {created : Instant}

/-- A resource as it is made for a part of a device. -/
def newPart (kind : ResourceKind) (typeName : String) (u : UniqueId) (created : Instant) :
    Resource :=
  ((Resource.new kind typeName u created).addItem
    { suffix := Suffix.manufacturerName, type := .string }).addItem
    { suffix := Suffix.modelId, type := .string }

/-- A part begins with blank items for its identity. -/
theorem item?_newPart_of_mem (hn : n ∈ Premises.identity) :
    (newPart kind typeName u created).item? n = some { suffix := n, type := .string } := by
  rw [newPart, Resource.item?_addItem, Resource.item?_addItem, Resource.item?_new_of_mem _ _ _ _ hn]
  unfold Premises.identity at hn
  simp only [List.mem_cons, List.not_mem_nil, or_false] at hn
  rcases hn with rfl | rfl <;> rfl

/-- The items that every part begins with. -/
theorem suffixes_newPart : (newPart kind typeName u created).suffixes =
    [Suffix.uniqueId, Suffix.type, Suffix.manufacturerName, Suffix.modelId] := by
  have hfirst : (Resource.new kind typeName u created).hasItem Suffix.manufacturerName = false := by
    rw [Bool.eq_false_iff, Ne, Resource.hasItem_iff, Resource.suffixes_new]
    decide
  have hsecond : ((Resource.new kind typeName u created).addItem
      { suffix := Suffix.manufacturerName, type := .string }).hasItem Suffix.modelId = false := by
    rw [Bool.eq_false_iff, Ne, Resource.hasItem_iff, Resource.suffixes_addItem, hfirst,
      Resource.suffixes_new]
    decide
  rw [newPart, Resource.suffixes_addItem, hsecond, Resource.suffixes_addItem, hfirst,
    Resource.suffixes_new]
  rfl

/-- The type of an item of a new part, if a template makes it where it is missing. -/
def partType (n : String) (type : DataType) : DataType :=
  if n ∈ [Suffix.uniqueId, Suffix.type, Suffix.manufacturerName, Suffix.modelId] then .string
  else type

/-- All items that a part begins with are plain. -/
theorem isPlain_newPart {item : Item} (h : (newPart kind typeName u created).item? n = some item) :
    item.IsPlain := by
  unfold newPart at h
  rw [Resource.item?_addItem, Resource.item?_addItem, Option.or_assoc, Option.or_eq_some_iff] at h
  rcases h with hold | ⟨-, hnew⟩
  · -- The unique id and the type of the resource.
    have hmem := List.mem_of_find?_eq_some hold
    unfold Resource.new at hmem
    simp only [List.mem_cons, List.not_mem_nil, or_false] at hmem
    rcases hmem with rfl | rfl
    · split_ifs
      · exact Item.isPlain_blank _
      · exact (Item.isPlain_blank _).setIfFits _ created
    · exact (Item.isPlain_blank _).setIfFits _ created
  · rcases Option.or_eq_some_iff.mp hnew with hnew | ⟨-, hnew⟩ <;>
    · split_ifs at hnew
      exact Option.some.inj hnew ▸ Item.isPlain_blank _

/-- An item of a new part, or a blank one that a template makes. -/
theorem getD_newPart {item : Item} {type : DataType}
    (h : ((newPart kind typeName u created).item? n).getD { suffix := n, type } = item) :
    item.type = partType n type ∧ item.isStatic = false ∧ item.IsFitted ∧
      ∀ v, item.value = some v → ∃ s, v = .text s := by
  have hmem := (newPart kind typeName u created).hasItem_iff (s := n)
  rw [suffixes_newPart, Resource.hasItem] at hmem
  cases hitem : (newPart kind typeName u created).item? n with
  | none =>
    rw [hitem, Option.getD_none] at h
    subst h
    rw [hitem] at hmem
    refine ⟨(if_neg fun hn => ?_).symm, rfl, Item.isFitted_of_value_eq_none rfl,
      fun v hv => by cases hv⟩
    exact absurd (hmem.mpr hn) Bool.false_ne_true
  | some old =>
    rw [hitem, Option.getD_some] at h
    subst h
    rw [hitem] at hmem
    -- What a new part begins with is its identity, and these items are plain texts.
    have hplain := isPlain_newPart hitem
    refine ⟨hplain.type.trans (if_pos (hmem.mp rfl)).symm, hplain.isStatic, fun v hv => ?_,
      hplain.value⟩
    obtain ⟨s, rfl⟩ := hplain.value v hv
    rw [hplain.type]
    rfl

/-- The resource that is set up under a unique id: the live one, or else a new one. -/
def partFor (g : Registry) (kind : ResourceKind) (typeName : String) (u : UniqueId)
    (created : Instant) : Resource :=
  (g.byUniqueId? u).getD { newPart kind typeName u created with id := ⟨g.nextId⟩ }

theorem frame_newPart : (newPart kind typeName u created).frame =
    (Resource.new kind typeName u created).frame :=
  (Resource.frame_addItem _ _).trans (Resource.frame_addItem _ _)

theorem uniqueId_newPart : (newPart kind typeName u created).uniqueId = u :=
  Resource.uniqueId_of_frame_eq frame_newPart

theorem deleted_newPart : (newPart kind typeName u created).deleted = false :=
  Resource.deleted_of_frame_eq frame_newPart

/-- What is found by its unique id in a coherent registry. -/
theorem Coherent.byUniqueId?_eq_some_iff (h : g.Coherent) :
    g.byUniqueId? u = some r ↔ g.live? r.id = some r ∧ r.uniqueId = u := by
  refine ⟨h.live?_of_byUniqueId?, fun ⟨hlive, hu⟩ => ?_⟩
  cases hfound : g.byUniqueId? u with
  | none => exact absurd hu (uniqueId_ne_of_byUniqueId?_eq_none hfound hlive)
  | some q =>
    obtain ⟨hq, hunique⟩ := h.live?_of_byUniqueId? hfound
    have hid := h.apart q.id r.id q r hq hlive (hunique.trans hu.symm)
    rw [hid, hlive] at hq
    rw [Option.some.inj hq]

theorem partFor_of_byUniqueId? (h : g.byUniqueId? u = some r) :
    g.partFor kind typeName u created = r := by
  rw [partFor, h, Option.getD_some]

theorem partFor_of_new (h : g.byUniqueId? u = none) :
    g.partFor kind typeName u created =
      { newPart kind typeName u created with id := ⟨g.nextId⟩ } := by
  rw [partFor, h, Option.getD_none]

/-- The part was there, or its number is free. -/
theorem Coherent.partFor_cases (h : g.Coherent) (kind : ResourceKind) (typeName : String)
    (u : UniqueId) (created : Instant) :
    (g.byUniqueId? u = some (g.partFor kind typeName u created) ∧
      g.resource? (g.partFor kind typeName u created).id =
        some (g.partFor kind typeName u created)) ∨
    (g.byUniqueId? u = none ∧ g.resource? (g.partFor kind typeName u created).id = none) := by
  cases hfound : g.byUniqueId? u with
  | none =>
    rw [partFor_of_new hfound]
    exact .inr ⟨rfl, h.resource?_nextId⟩
  | some r =>
    rw [partFor_of_byUniqueId? hfound]
    exact .inl ⟨rfl, h.resource?_of_byUniqueId? hfound⟩

/-- The part has the unique id and is live. -/
theorem Coherent.partFor_live (h : g.Coherent) (kind : ResourceKind) (typeName : String)
    (u : UniqueId) (created : Instant) :
    (g.partFor kind typeName u created).uniqueId = u ∧
      (g.partFor kind typeName u created).deleted = false := by
  cases hfound : g.byUniqueId? u with
  | none =>
    rw [partFor_of_new hfound]
    exact ⟨uniqueId_newPart, deleted_newPart⟩
  | some r =>
    obtain ⟨hlive, hunique⟩ := h.live?_of_byUniqueId? hfound
    rw [partFor_of_byUniqueId? hfound]
    exact ⟨hunique, (live?_eq_some_iff.mp hlive).2⟩

/-- **The part is there once it is ensured**, and no other resource changes. -/
theorem Coherent.ensureResource_spec (h : g.Coherent) (kind : ResourceKind) (typeName : String)
    (u : UniqueId) (created : Instant) :
    (g.ensureResource kind typeName u created).2 = (g.partFor kind typeName u created).id ∧
      (g.ensureResource kind typeName u created).1.devices = g.devices ∧
      ∀ id, (g.ensureResource kind typeName u created).1.resource? id =
        if id = (g.partFor kind typeName u created).id then
          some (g.partFor kind typeName u created)
        else g.resource? id := by
  unfold Registry.ensureResource
  cases hfound : g.byUniqueId? u with
  | none =>
    rw [partFor_of_new hfound]
    refine ⟨rfl, rfl, fun id => ?_⟩
    show (g.pushResource (newPart kind typeName u created)).1.resource? id = _
    split_ifs with hid
    · rw [hid]
      exact h.resource?_pushResource_self _
    · rw [resource?_pushResource, if_neg fun heq => hid heq.symm, Option.or_none]
  | some r =>
    rw [partFor_of_byUniqueId? hfound]
    refine ⟨rfl, rfl, fun id => ?_⟩
    split_ifs with hid
    · rw [hid]
      exact h.resource?_of_byUniqueId? hfound
    · rfl

end Registry

namespace Premises

/-- Storing the identity of a resource. -/
theorem row?_storeItems (p : Premises) (r : Resource) (suffixes : List String) (u : UniqueId)
    (n : String) :
    (suffixes.foldl (fun p suffix => p.storeItem r suffix) p).storage.row? u n =
      if u = r.uniqueId ∧ n ∈ suffixes then
        ((r.item? n).bind Row.ofItem?).or (p.storage.row? u n)
      else p.storage.row? u n := by
  have hstore : ∀ (p : Premises) (suffix : String), (p.storeItem r suffix).storage.row? u n =
      if u = r.uniqueId ∧ n = suffix then ((r.item? n).bind Row.ofItem?).or (p.storage.row? u n)
      else p.storage.row? u n := by
    intro p suffix
    unfold storeItem
    split
    · rename_i hnone
      split_ifs with h
      · rw [h.2, hnone]
        rfl
      · rfl
    · rename_i item hitem
      dsimp only
      rw [Storage.row?_storeItem, Resource.suffix_of_item? hitem]
      split_ifs with h
      · rw [h.1, h.2, hitem]
        rfl
      · rfl
  induction suffixes generalizing p with
  | nil => simp
  | cons suffix suffixes ih =>
    rw [List.foldl_cons, ih, hstore]
    by_cases hu : u = r.uniqueId
    · by_cases hn : n = suffix
      · simp only [hu, hn, true_and, List.mem_cons, true_or, if_true]
        -- Stored twice is stored once.
        cases (r.item? suffix).bind Row.ofItem? <;> simp
      · simp [hu, hn]
    · simp [hu]

theorem links_storeItems (p : Premises) (r : Resource) (suffixes : List String) :
    (suffixes.foldl (fun p suffix => p.storeItem r suffix) p).storage.links = p.storage.links := by
  induction suffixes generalizing p with
  | nil => rfl
  | cons suffix suffixes ih =>
    rw [List.foldl_cons, ih]
    unfold storeItem
    split
    · rfl
    · exact Storage.links_storeItem _ _ _

/-- A part of a device is set up: its identity is stored, its items are set up, it is linked, and
all else stays. -/
structure SetsUp (p p' : Premises) (o : Occasion) (handle? : Nat → Option TemplateHandle)
    (s : SubDevice) (u : UniqueId) (part : Resource) : Prop where
  resource : ∀ id, p'.registry.resource? id =
    if id = part.id then some (o.setUp handle? s (p'.storage.rowsOf u) part)
    else p.registry.resource? id
  rows : ∀ u' n, p'.storage.row? u' n =
    if u' = u then Occasion.rowFor n ((part.item? n).map (o.fill n)) (p.storage.row? u n)
    else p.storage.row? u' n
  links : p'.storage.links = (p.storage.addLink o.node u).links
  devices : p'.registry.devices =
    (p.registry.modifyDevice o.address fun d => d.addLink u part.id).devices

variable {p : Premises} {o : Occasion} {u : UniqueId}

/-- **Setting up one sub-resource, in full.** -/
theorem setUpSubDevice_spec (h : p.registry.Coherent) (handle? : Nat → Option TemplateHandle)
    (s : SubDevice) (kind : ResourceKind) :
    (p.setUpSubDevice o handle? s kind u).2 = (p.registry.partFor kind s.type u o.created).id ∧
      SetsUp p (p.setUpSubDevice o handle? s kind u).1 o handle? s u
        (p.registry.partFor kind s.type u o.created) := by
  obtain ⟨hid, hdevices, hresources⟩ := h.ensureResource_spec kind s.type u o.created
  obtain ⟨hunique, -⟩ := h.partFor_live kind s.type u o.created
  generalize p.registry.partFor kind s.type u o.created = part at *
  unfold setUpSubDevice
  split
  rename_i registry id hensure
  rw [hensure] at hid hdevices hresources
  dsimp only at hid hdevices hresources
  subst hid
  extract_lets linked named q
  -- The identity is noted on the part.
  have hkeeps : ∀ r : Resource, r.id = part.id → (o.identify r).id = part.id := fun r hr =>
    (Resource.id_of_moves (o.moves_identify r)).trans hr
  have hnamed : ∀ id, named.resource? id =
      if id = part.id then some (o.identify part) else p.registry.resource? id := by
    intro id
    refine (linked.resource?_modifyResource (f := o.identify) hkeeps id).trans ?_
    show (if id = part.id then (registry.resource? part.id).map o.identify
      else registry.resource? id) = _
    rw [hresources, hresources, if_pos rfl, Option.map_some]
    split_ifs <;> rfl
  have hfound : q.registry.resource? part.id = some (o.identify part) :=
    (hnamed part.id).trans (if_pos rfl)
  split
  · rename_i hnone
    rw [hfound] at hnone
    cases hnone
  · rename_i r hr
    obtain rfl := Option.some.inj (hfound.symm.trans hr)
    refine ⟨rfl, ?_⟩
    extract_lets stored rows
    have hstored : stored.registry = named := registry_storeItems q _ identity
    have hunique' : (o.identify part).uniqueId = u :=
      (Resource.uniqueId_of_frame_eq (o.frame_identify part)).trans hunique
    refine ⟨fun id => ?_, fun u' n => ?_, ?_, ?_⟩
    · have hset : ∀ r : Resource, r.id = part.id →
          ((r.setUpItems handle? rows o.now 0 s.items).refreshEtag).id = part.id := fun r hr =>
        (Resource.id_of_frame_eq (Resource.frame_setUpItems r handle? rows o.now 0 s.items)).trans
          hr
      refine (stored.registry.resource?_modifyResource hset id).trans ?_
      rw [hstored, hnamed, hnamed, if_pos rfl]
      split_ifs <;> rfl
    · refine (row?_storeItems q (o.identify part) identity u' n).trans ?_
      rw [hunique', o.item?_identify]
      have hlinked : ∀ u n, q.storage.row? u n = p.storage.row? u n :=
        Storage.row?_addLink p.storage o.node u
      rw [hlinked, Occasion.rowFor]
      by_cases hu : u' = u
      · simp [hu]
      · simp [hu]
    · exact links_storeItems q _ identity
    · show stored.registry.devices = _
      rw [hstored]
      show (registry.modifyDevice _ _).devices = _
      rw [modifyDevice, modifyDevice, hdevices]

/-- Setting up a sub-resource of a device leaves the registry coherent and loses nothing. -/
theorem coherent_setUpSubDevice {d : Device} (h : p.registry.Coherent)
    (hd : p.registry.device? o.address = some d) (handle? : Nat → Option TemplateHandle)
    (s : SubDevice) (kind : ResourceKind) (u : UniqueId) :
    (p.setUpSubDevice o handle? s kind u).1.registry.Coherent ∧
      Extends o.address p.registry (p.setUpSubDevice o handle? s kind u).1.registry := by
  obtain ⟨registry, id, f, hensure, -, hf, heq, -⟩ := p.setUpSubDevice_cases o handle? s kind u
  obtain ⟨hcoherent, hextends, -⟩ := h.setUp hd hensure hf
  exact heq ▸ ⟨hcoherent, hextends⟩

/-- What holds of the set up of each planned sub-resource holds of all of them together. -/
theorem rel_setUpSubDevices_of_mem {P : Premises → Premises → Prop} {d : Device}
    {planned : List (SubDevice × ResourceKind × UniqueId)} (hrefl : ∀ p, P p p)
    (htrans : ∀ p p' p'', P p p' → P p' p'' → P p p'')
    (hstep : ∀ p handle? s kind u, (s, kind, u) ∈ planned → p.registry.Coherent →
      P p (Premises.setUpSubDevice p o handle? s kind u).1)
    (h : p.registry.Coherent) (hd : p.registry.device? o.address = some d)
    (handle? : Nat → Nat → Option TemplateHandle) (position : Nat) :
    P p (p.setUpSubDevices o handle? position planned).1 := by
  induction planned generalizing p position d with
  | nil => exact hrefl p
  | cons entry planned ih =>
    obtain ⟨s, kind, u⟩ := entry
    obtain ⟨hcoherent, hextends⟩ := coherent_setUpSubDevice h hd (handle? position) s kind u
    obtain ⟨d', hd'⟩ := hextends.device d hd
    rw [setUpSubDevices_cons]
    exact htrans _ _ _ (hstep p (handle? position) s kind u List.mem_cons_self h)
      (ih (fun p handle? s kind u hmem => hstep p handle? s kind u (List.mem_cons_of_mem _ hmem))
        hcoherent hd' (position + 1))

/-- What holds of every sub-resource that is set up holds of all of them together. -/
theorem rel_setUpSubDevices {P : Premises → Premises → Prop} {d : Device} (hrefl : ∀ p, P p p)
    (htrans : ∀ p p' p'', P p p' → P p' p'' → P p p'')
    (hstep : ∀ p handle? s kind u, p.registry.Coherent →
      P p (Premises.setUpSubDevice p o handle? s kind u).1)
    (h : p.registry.Coherent) (hd : p.registry.device? o.address = some d)
    (handle? : Nat → Nat → Option TemplateHandle) (position : Nat)
    (planned : List (SubDevice × ResourceKind × UniqueId)) :
    P p (p.setUpSubDevices o handle? position planned).1 :=
  rel_setUpSubDevices_of_mem hrefl htrans (fun p handle? s kind u _ => hstep p handle? s kind u) h hd
    handle? position

/-- What the set up of every part that a description names does to resources, applying the description
does. -/
theorem rel_applyDescription {P : Registry → Registry → Prop} (hP : Registry.IsCourse P)
    {p' : Premises} {catalog : Catalog} {address : ExtAddress} {description : Nat}
    {created now : Instant} {ids : List ResourceId}
    (hstep : ∀ desc, catalog.get? description = some desc → ∀ p o handle? s kind, s ∈ desc.subDevices →
      p.registry.Coherent → P p.registry (Premises.setUpSubDevice p o handle? s kind
        (.ofPattern s.addressing address)).1.registry)
    (h : p.registry.Coherent)
    (happly : p.applyDescription catalog address description created now = .ok (p', ids)) :
    P p.registry p'.registry := by
  obtain ⟨desc, d, planned, o, handle?, hdesc, hd, hplanned, rfl, -, heq⟩ :=
    applyDescription_cases happly
  have hparts := rel_setUpSubDevices_of_mem (P := fun p p' => P p.registry p'.registry)
    (fun p => hP.refl p.registry) (fun _ _ _ => hP.trans) (fun p handle? s kind u hmem h => by
      obtain ⟨hs, rfl, -⟩ := of_mem_planSubDevices hplanned hmem
      exact hstep desc hdesc p o handle? s kind hs h) h hd handle? 0
  rw [heq]
  exact hP.trans hparts (hP.of_resources_eq rfl)

/-! ### Descriptions -/

/-- The device is finished once its parts are set up. -/
def finish (p : Premises) (address : ExtAddress) (desc : Description) (now : Instant) : Premises :=
  { p with registry := p.registry.modifyDevice address fun d => finishDevice d desc.sleeper now }

/-- **Applying a description, in full**: it is there, the device is there, every sub-resource has a
container and a unique id, and all of them are set up. -/
theorem applyDescription_eq_ok_iff {p' : Premises} {catalog : Catalog} {address : ExtAddress}
    {description : Nat} {created now : Instant} {ids : List ResourceId} :
    p.applyDescription catalog address description created now = .ok (p', ids) ↔
      ∃ desc d planned, catalog.get? description = some desc ∧
        p.registry.device? address = some d ∧
        planSubDevices address desc.subDevices = .ok planned ∧
        p' = (p.setUpSubDevices (occasion d desc address created now) (catalog.handle? description)
          0 planned).1.finish address desc now ∧
        ids = (p.setUpSubDevices (occasion d desc address created now)
          (catalog.handle? description) 0 planned).2 := by
  rw [applyDescription_eq]
  cases hdesc : catalog.get? description with
  | none => simp
  | some desc =>
    cases hd : p.registry.device? address with
    | none => simp
    | some d =>
      dsimp only
      cases hplanned : planSubDevices address desc.subDevices with
      | error e => simp [hplanned]
      | ok planned =>
        dsimp only
        constructor
        · intro h
          obtain ⟨rfl, rfl⟩ := Prod.mk.inj (Except.ok.inj h)
          exact ⟨desc, d, planned, rfl, rfl, hplanned, rfl, rfl⟩
        · rintro ⟨desc', d', planned', hdesc', hd', hplanned', rfl, rfl⟩
          obtain rfl := Option.some.inj hdesc'
          obtain rfl := Option.some.inj hd'
          obtain rfl := Except.ok.inj (hplanned.symm.trans hplanned')
          rfl

end Premises

namespace Gateway

variable {g g' : Gateway} {a : ExtAddress} {ids : List ResourceId}

/-- Recalling the identity of a device changes its node at most. -/
theorem recallIfUnknown_eq (g : Gateway) (a : ExtAddress) (d : Device) :
    g.recallIfUnknown a d = g ∨
      ∃ node, g.recallIfUnknown a d =
        g.mapRegistry fun registry => registry.modifyNode a fun _ => node := by
  unfold recallIfUnknown
  split_ifs
  · split
    · rename_i p recalled hrecall
      unfold Premises.recallDevice at hrecall
      split at hrecall
      · cases hrecall
      · obtain ⟨rfl, -⟩ := Prod.mk.inj (Except.ok.inj hrecall)
        exact .inr ⟨_, rfl⟩
    · exact .inl rfl
  · exact .inl rfl

/-- **Setting a device up, in full**: its identity is recalled, the first description made for it is
applied, and a save is scheduled. -/
theorem initDevice_eq_ok (h : g.initDevice a = (g', .ok ids)) :
    ∃ d d' description p, g.registry.device? a = some d ∧
      (g.recallIfUnknown a d).registry.device? a = some d' ∧
      (g.recallIfUnknown a d).catalog.find? d'.manufacturer d'.modelId = some description ∧
      (g.recallIfUnknown a d).toPremises.applyDescription (g.recallIfUnknown a d).catalog a
        description (g.recallIfUnknown a d).hostTime (g.recallIfUnknown a d).now = .ok (p, ids) ∧
      g' = { g.recallIfUnknown a d with toPremises := p }.scheduleSave .devices
        (g.recallIfUnknown a d).config.saveDelayShort := by
  rw [initDevice_eq] at h
  split at h
  · cases (Prod.mk.inj h).2
  · rename_i d hd
    dsimp only at h
    split at h
    · cases (Prod.mk.inj h).2
    · rename_i d' hd'
      split at h
      · cases (Prod.mk.inj h).2
      · rename_i description hfind
        split at h
        · cases (Prod.mk.inj h).2
        · rename_i p ids' happly
          obtain ⟨rfl, hids⟩ := Prod.mk.inj h
          obtain rfl := Except.ok.inj hids
          exact ⟨d, d', description, p, hd, hd', hfind, happly, rfl⟩

/-- A device that cannot be set up has its identity recalled at most. -/
theorem initDevice_eq_error {e : Error} (h : g.initDevice a = (g', .error e)) :
    g' = g ∨ ∃ node, g' = g.mapRegistry fun registry => registry.modifyNode a fun _ => node := by
  rw [initDevice_eq] at h
  split at h
  · exact .inl (Prod.mk.inj h).1.symm
  · rename_i d _
    have hrecalled := g.recallIfUnknown_eq a d
    dsimp only at h
    split at h
    · exact (Prod.mk.inj h).1 ▸ hrecalled
    · split at h
      · exact (Prod.mk.inj h).1 ▸ hrecalled
      · split at h
        · exact (Prod.mk.inj h).1 ▸ hrecalled
        · cases (Prod.mk.inj h).2

end Gateway

end ZigbeeGateway
