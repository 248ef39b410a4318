import ZigbeeGateway.Proofs.Gateway.Fares
import ZigbeeGateway.Proofs.Setup.Applied

/-!
# Static items

An item that its template declares static is set up once and then kept.  Whatever sets an item does so
by `Item.set`, which leaves a static item alone once it was set, or by the turn of a template, and a
static template leaves it alone as well.  So the item *abides* (`Item.Abides`): it stays static, and
from its first set on it holds what it held.

A description meets a resource by its unique id and an item by its name.  It keeps a static item of a
resource if every template that it has for the item is static (`Description.Freezes`), and a
description without repetition does this with all items that it declares static.  Therefore they abide
for as long as the device is set up from this description alone (`static_items_permanent`).
-/

namespace ZigbeeGateway

open Relation

variable {u : UniqueId} {n : String}

/-! ### Items -/

namespace Item

variable {i i' i'' : Item} {t : ItemTemplate}

/-- A static item stays static, and once it was set it holds what it held. -/
def Abides (i i' : Item) : Prop :=
  i.isStatic = true →
    i'.isStatic = true ∧ (i.lastSet.isSome = true → i'.holding = i.holding)

theorem Abides.refl (i : Item) : i.Abides i :=
  fun hstatic => ⟨hstatic, fun _ => rfl⟩

theorem Abides.trans (h : i.Abides i') (h' : i'.Abides i'') : i.Abides i'' := by
  intro hstatic
  obtain ⟨hstatic', hheld⟩ := h hstatic
  obtain ⟨hstatic'', hheld'⟩ := h' hstatic'
  refine ⟨hstatic'', fun hset => ?_⟩
  have hset' : i'.lastSet.isSome = true := by
    rw [show i'.lastSet = i.lastSet from congrArg Holding.lastSet (hheld hset), hset]
  rw [hheld' hset', hheld hset]

theorem abides_set {v : Value} {now : Instant} {o : SetOutcome} (h : i.set v now = .ok (i', o)) :
    i.Abides i' := by
  intro hstatic
  refine ⟨(isStatic_of_shape_eq (set_shape h)).trans hstatic, fun hset => ?_⟩
  have hfrozen : i.isFrozen = true := Bool.and_eq_true_iff.mpr ⟨hstatic, hset⟩
  have hkept := setIfFits_of_isFrozen hfrozen v now
  rw [setIfFits, h] at hkept
  exact congrArg holding hkept

/-- **A static template leaves alone what was set.** -/
theorem abides_turn (ht : t.isStatic = true) (i : Item) (handle : Option TemplateHandle)
    (row : Option Row) (now : Instant) : i.Abides (i.turn t handle row now) := by
  refine fun _ => ⟨ht, fun hset => ?_⟩
  change (i.setUp t row now).holding = i.holding
  rw [setUp, hset, ht]
  rfl

/-- So do the turns of many, if those with the name of the item are static. -/
theorem exists_turns {handle? : Nat → Option TemplateHandle} {row : Option Row} {now : Instant}
    {ts : List ItemTemplate} (hts : ∀ t ∈ ts, t.name = n → t.isStatic = true) (position : Nat)
    (i : Item) :
    ∃ i', turns n handle? row now position ts (some i) = some i' ∧ i.Abides i' := by
  induction ts generalizing i position with
  | nil => exact ⟨i, rfl, .refl i⟩
  | cons t ts ih =>
    obtain ⟨turned, hturned, hfirst⟩ : ∃ turned,
        (if t.name = n then turn? (some i) t (handle? position) row now else some i) =
          some turned ∧ i.Abides turned := by
      split_ifs with hn
      · unfold turn?
        cases t.type? with
        | none => exact ⟨i, rfl, .refl i⟩
        | some type => exact ⟨_, rfl, abides_turn (hts t List.mem_cons_self hn) i _ row now⟩
      · exact ⟨i, rfl, .refl i⟩
    obtain ⟨i', hi', hrest⟩ :=
      ih (fun t' ht' => hts t' (List.mem_cons_of_mem t ht')) (position + 1) turned
    exact ⟨i', by rw [turns, hturned, hi'], hfirst.trans hrest⟩

end Item

/-! ### Resources -/

namespace Resource

variable {r r' r'' : Resource}

/-- The resource keeps its unique id, and if it has a given one, its item with a given name abides. -/
structure Abides (u : UniqueId) (n : String) (r r' : Resource) : Prop where
  uniqueId : r'.uniqueId = r.uniqueId
  item : r.uniqueId = u → ∀ i, r.item? n = some i → ∃ i', r'.item? n = some i' ∧ i.Abides i'

theorem Abides.refl (r : Resource) : r.Abides u n r :=
  ⟨rfl, fun _ i hi => ⟨i, hi, .refl i⟩⟩

theorem Abides.trans (h : r.Abides u n r') (h' : r'.Abides u n r'') : r.Abides u n r'' := by
  refine ⟨h'.uniqueId.trans h.uniqueId, fun hu i hi => ?_⟩
  obtain ⟨i', hi', hfirst⟩ := h.item hu i hi
  obtain ⟨i'', hi'', hsecond⟩ := h'.item (h.uniqueId.trans hu) i' hi'
  exact ⟨i'', hi'', hfirst.trans hsecond⟩

theorem abides_of_items_eq (huniqueId : r'.uniqueId = r.uniqueId) (hitems : r'.items = r.items) :
    r.Abides u n r' := by
  refine ⟨huniqueId, fun _ i hi => ⟨i, ?_, .refl i⟩⟩
  rw [item?, hitems, ← item?, hi]

theorem Traffic.abides {touched : String → Prop} (h : Traffic touched r r') : r.Abides u n r' := by
  cases h with
  | set _ h =>
    -- Only a set could change the item, and a frozen item ignores it.
    obtain ⟨item, item', hitem, hset, hitems⟩ := item?_setValue h
    refine ⟨uniqueId_of_frame_eq (sameShape_setValue h).frame, fun _ i hi => ?_⟩
    rw [hitems]
    split_ifs with hs
    · rw [hs, hitem] at hi
      obtain rfl := Option.some.inj hi
      exact ⟨item', rfl, Item.abides_set hset⟩
    · exact ⟨i, hi, .refl i⟩
  | told suffix =>
    refine ⟨rfl, fun _ i hi => ?_⟩
    rw [item?_told]
    split_ifs with hs
    · rw [← hs, hi]
      exact ⟨_, rfl, Item.Abides.refl i⟩
    · exact ⟨i, hi, .refl i⟩
  | note => exact abides_of_items_eq rfl rfl
  | report => exact abides_of_items_eq rfl rfl
  | tick => exact abides_of_items_eq rfl rfl

theorem Traffic.abides_run {touched : String → Prop} (h : ReflTransGen (Traffic touched) r r') :
    r.Abides u n r' := by
  induction h with
  | refl => exact .refl r
  | tail _ hstep ih => exact ih.trans hstep.abides

end Resource

/-- **Setting up a part** keeps its item, if all templates for it are static. -/
theorem Premises.Occasion.abides_setUp {o : Occasion} {s : SubDevice} {r : Resource}
    (hs : r.uniqueId = u → ∀ t ∈ s.items, t.name = n → t.isStatic = true)
    (handle? : Nat → Option TemplateHandle) (rows : List Row) :
    r.Abides u n (o.setUp handle? s rows r) := by
  have hidentify : r.Abides u n (o.identify r) :=
    Resource.Traffic.abides_run ((r.traffic_fillIdentity _ _ _).trans
      (Resource.traffic_fillIdentity _ _ _ _))
  refine ⟨Resource.uniqueId_of_frame_eq (o.frame_setUp handle? s rows r), fun hu i hi => ?_⟩
  obtain ⟨met, hmet, hfirst⟩ := hidentify.item hu i hi
  unfold setUp
  rw [Resource.item?_refreshEtag, Resource.item?_setUpItems, hmet]
  obtain ⟨i', hi', hrest⟩ := Item.exists_turns (hs hu) 0 met
  exact ⟨i', hi', hfirst.trans hrest⟩

/-! ### Registries -/

namespace Registry

variable {g g' g'' : Registry} {id : ResourceId} {r : Resource}

/-- Every resource is kept, and abides. -/
def Abides (u : UniqueId) (n : String) (g g' : Registry) : Prop :=
  ∀ id r, g.resource? id = some r → ∃ r', g'.resource? id = some r' ∧ r.Abides u n r'

theorem isCourse_abides (u : UniqueId) (n : String) : IsCourse (Abides u n) where
  of_lookup hlookup id r hr := ⟨r, (hlookup id).trans hr, .refl r⟩
  trans h h' id r hr := by
    obtain ⟨r', hr', hfirst⟩ := h id r hr
    obtain ⟨r'', hr'', hsecond⟩ := h' id r' hr'
    exact ⟨r'', hr'', hfirst.trans hsecond⟩

theorem Abides.refl (g : Registry) : g.Abides u n g :=
  (isCourse_abides u n).refl g

theorem Abides.trans (h : g.Abides u n g') (h' : g'.Abides u n g'') : g.Abides u n g'' :=
  (isCourse_abides u n).trans h h'

theorem abides_of_evolves {touched : String → Prop} (h : Evolves (Resource.Traffic touched) g g') :
    g.Abides u n g' := by
  intro id r hr
  obtain ⟨r', hr', hrun⟩ := h.kept id r hr
  exact ⟨r', hr', Resource.Traffic.abides_run hrun⟩

theorem abides_modifyResource {f : Resource → Resource} (hid : ∀ r, r.id = id → (f r).id = id)
    (hf : ∀ r : Resource, r.Abides u n (f r)) : g.Abides u n (g.modifyResource id f) := by
  intro id' r hr
  rw [resource?_modifyResource g hid]
  split_ifs with h
  · rw [← h, hr]
    exact ⟨f r, rfl, hf r⟩
  · exact ⟨r, hr, .refl r⟩

theorem abides_addResource (h : g.addResource r = .ok (g', id)) : g.Abides u n g' := by
  unfold addResource at h
  split_ifs at h
  have hregistry : (g.pushResource r).1 = g' := congrArg Prod.fst (Except.ok.inj h)
  intro id' q hq
  refine ⟨q, ?_, .refl q⟩
  rw [← hregistry, resource?_pushResource, hq, Option.some_or]

theorem abides_deleteResource (g : Registry) (id : ResourceId) :
    g.Abides u n (g.deleteResource id) := by
  refine abides_modifyResource (fun r hr => ?_) fun r => ?_
  · split_ifs <;> exact hr
  · split_ifs
    · exact .refl r
    · exact Resource.abides_of_items_eq rfl rfl

theorem abides_deleteDevice (g : Registry) (a : ExtAddress) : g.Abides u n (g.deleteDevice a) :=
  (isCourse_abides u n).deleteDevice abides_deleteResource g a

end Registry

/-! ### Descriptions -/

/-- All templates that a description has for an item of a part of a device are static. -/
def Description.Freezes (desc : Description) (a : ExtAddress) (u : UniqueId) (n : String) : Prop :=
  ∀ s ∈ desc.subDevices, .ofPattern s.addressing a = u →
    ∀ t ∈ s.items, t.name = n → t.isStatic = true

/-- **A description without repetition freezes the items that it declares static.** -/
theorem Description.IsDistinct.freezes {desc : Description} {a : ExtAddress} {s : SubDevice}
    {t : ItemTemplate} (h : desc.IsDistinct a) (hs : s ∈ desc.subDevices) (ht : t ∈ s.items)
    (hstatic : t.isStatic = true) : desc.Freezes a (.ofPattern s.addressing a) t.name := by
  intro s' hs' hu t' ht' hn
  obtain rfl := List.inj_on_of_nodup_map h.uniqueIds hs' hs hu
  obtain rfl := List.inj_on_of_nodup_map (h.names s' hs') ht' ht hn
  exact hstatic

namespace Premises

variable {p p' : Premises} {catalog : Catalog} {a : ExtAddress} {position : Nat} {desc : Description}
  {created now : Instant} {ids : List ResourceId}

/-- **Setting up one sub-resource** changes its part alone. -/
theorem abides_setUpSubDevice (h : p.registry.Coherent) (o : Occasion)
    (handle? : Nat → Option TemplateHandle) {s : SubDevice} (kind : ResourceKind) {u' : UniqueId}
    (hs : u' = u → ∀ t ∈ s.items, t.name = n → t.isStatic = true) :
    p.registry.Abides u n (p.setUpSubDevice o handle? s kind u').1.registry := by
  obtain ⟨-, hspec⟩ := setUpSubDevice_spec (o := o) h handle? s kind (u := u')
  obtain ⟨hunique, -⟩ := h.partFor_live kind s.type u' o.created
  have hpart := h.partFor_cases kind s.type u' o.created
  generalize p.registry.partFor kind s.type u' o.created = part at *
  intro id r hr
  rw [hspec.resource]
  split_ifs with hid
  · rw [hid] at hr
    rcases hpart with ⟨-, hold⟩ | ⟨-, hfree⟩
    · obtain rfl := Option.some.inj (hr.symm.trans hold)
      exact ⟨_, rfl, Occasion.abides_setUp (fun hu => hs (hunique.symm.trans hu)) handle? _⟩
    · rw [hr] at hfree
      cases hfree
  · exact ⟨r, hr, .refl r⟩

/-- **A description that freezes an item keeps it.** -/
theorem abides_applyDescription (h : p.registry.Coherent) (hdesc : catalog.get? position = some desc)
    (hfreezes : desc.Freezes a u n)
    (happly : p.applyDescription catalog a position created now = .ok (p', ids)) :
    p.registry.Abides u n p'.registry := by
  refine rel_applyDescription (Registry.isCourse_abides u n)
    (fun desc' hdesc' p o handle? s kind hs h => ?_) h happly
  obtain rfl := Option.some.inj (hdesc.symm.trans hdesc')
  exact abides_setUpSubDevice h o handle? kind fun hu => hfreezes s hs hu

/-- A registry that can be reached stays one when a description is applied. -/
theorem reachable_applyDescription (h : p.registry.Reachable)
    (happly : p.applyDescription catalog a position created now = .ok (p', ids)) :
    p'.registry.Reachable := by
  have hattempt := h.attempt .memory (p.storage, p.outbox) catalog a position created now
  unfold applyDescription at happly
  split at happly
  · rename_i q ids' hset
    obtain ⟨rfl, -⟩ := Prod.mk.inj (Except.ok.inj happly)
    exact (congrArg (·.1.registry) hset : _ = q.registry) ▸ hattempt
  · cases happly

end Premises

/-! ### Upkeep -/

namespace Gateway

variable {g g' g₁ g₂ : Gateway} {a : ExtAddress} {desc : Description} {e : GatewayEvent}

/-- One step of a gateway, in which a device is set up from one description if it is set up at all:
any event, but that no device is set up in it; the event that sets up the device, if no other
description is found for it; or the description is applied to it directly, at any time. -/
inductive Upkeep (a : ExtAddress) (desc : Description) : Gateway → Gateway → Prop
  | event {g : Gateway} {e : GatewayEvent} (he : ∀ b, e ≠ .deviceSetUp b) : Upkeep a desc g (g.step e)
  | setUp {g : Gateway} (h : ∀ d ∈ g.descriptionFor? a, d = desc) :
    Upkeep a desc g (g.step (.deviceSetUp a))
  | applied {g : Gateway} {catalog : Catalog} {position : Nat} {created now : Instant} {p : Premises}
      {ids : List ResourceId} (hdesc : catalog.get? position = some desc)
      (h : g.toPremises.applyDescription catalog a position created now = .ok (p, ids)) :
    Upkeep a desc g { g with toPremises := p }

/-- Nothing but setting up a device thaws an item. -/
theorem abides_step (he : ∀ b, e ≠ .deviceSetUp b) :
    g.registry.Abides u n (g.step e).registry := by
  cases e with
  | deviceSetUp b => exact absurd rfl (he b)
  | deviceAdded address manufacturer model =>
    exact (Registry.isCourse_abides u n).of_resources_eq
      (g.resources_addDevice address manufacturer model)
  | resourceAdded kind typeName uniqueId items =>
    rw [step]
    split
    · rename_i hadd
      exact Registry.abides_addResource hadd
    · exact .refl _
  -- Traffic evolves a resource by sets, and these leave a static item as it is.
  | written id suffix v =>
    have hwritten := written_writeItem g id suffix v
    rw [step]
    generalize g.writeItem id suffix v = result at hwritten ⊢
    cases hwritten with
    | refused => exact .refl _
    | unsent r device plan => exact registry_sendVendor g r device plan ▸ .refl _
    | direct _ _ htraffic => exact Registry.abides_of_evolves htraffic.resources
    | @managed g' r item plan m _ _ htraffic =>
      -- Queueing a change touches no item.
      have hqueued : g.registry.Abides u n (g.queue id (g.changeFor id plan m)).registry :=
        Registry.abides_modifyResource (fun _ h => h) fun _ => Resource.abides_of_items_eq rfl rfl
      exact hqueued.trans (Registry.abides_of_evolves htraffic.resources)
  | reported id suffix v => exact Registry.abides_of_evolves (traffic_report g id suffix v).resources
  | received indication =>
    exact Registry.abides_of_evolves (traffic_handleIndication g indication).resources
  | ticked =>
    have htraffic : Traffic (fun _ => False) g g.tick.1 := traffic_tick g
    exact Registry.abides_of_evolves htraffic.resources
  | resourceDeleted id => exact g.registry.abides_deleteResource id
  | deviceDeleted address => exact g.registry.abides_deleteDevice address
  | outside change => exact .refl _

/-- **Setting up the device from a description that freezes the item** keeps it. -/
theorem abides_initDevice (h : g.registry.Coherent) (hdesc : ∀ d ∈ g.descriptionFor? a, d = desc)
    (hfreezes : desc.Freezes a u n) : g.registry.Abides u n (g.initDevice a).1.registry := by
  refine rel_initDevice (Registry.isCourse_abides u n) g a
    fun d d' position p ids hd hd' hfind happly => ?_
  obtain ⟨desc', -, -, -, -, hget, -⟩ := Premises.applyDescription_cases happly
  obtain rfl := hdesc desc' (descriptionFor?_eq_some hd hd' hfind hget)
  exact Premises.abides_applyDescription (h.keeps (g.keeps_recallIfUnknown a d).1) hget hfreezes
    happly

/-- **In each step of the upkeep**, registries that can be reached stay such, and what the description
freezes abides. -/
theorem Upkeep.abides (hstep : Upkeep a desc g g') (h : g.registry.Reachable)
    (hfreezes : desc.Freezes a u n) :
    g'.registry.Reachable ∧ g.registry.Abides u n g'.registry := by
  cases hstep with
  | event he => exact ⟨h.step _, abides_step he⟩
  | setUp hdesc => exact ⟨h.step _, abides_initDevice h.coherent hdesc hfreezes⟩
  | applied hdesc happly =>
    exact ⟨Premises.reachable_applyDescription h happly,
      Premises.abides_applyDescription h.coherent hdesc hfreezes happly⟩

/-- **And so throughout the upkeep.** -/
theorem abides_upkeep (hrun : ReflTransGen (Upkeep a desc) g g') (h : g.registry.Reachable)
    (hfreezes : desc.Freezes a u n) :
    g'.registry.Reachable ∧ g.registry.Abides u n g'.registry := by
  induction hrun with
  | refl => exact ⟨h, .refl _⟩
  | tail _ hstep ih =>
    obtain ⟨hreach, hkept⟩ := hstep.abides ih.1 hfreezes
    exact ⟨hreach, ih.2.trans hkept⟩

/-- The item of a name that the resource with a number has, deleted or not. -/
def item? (g : Gateway) (id : ResourceId) (n : String) : Option Item :=
  (g.registry.resource? id).bind (·.item? n)

/-- **Static items are permanent.**  Let a description without repetition be applied to a device, in a
registry that can be reached and with a filled catalog.  An item that it declares static is there from
then on, under the number that was given to its part, whatever happens while the device is set up from
this description alone.  From any point at which it was set, to any later one, its value and both of
its stamps stay the same. -/
theorem static_items_permanent {p p' : Premises} {catalog : Catalog} {position k : Nat}
    {created now : Instant} {ids : List ResourceId} {s : SubDevice} {t : ItemTemplate}
    (hreach : p.registry.Reachable) (hcatalog : catalog.Filled)
    (hdesc : catalog.get? position = some desc) (hdistinct : desc.IsDistinct a)
    (happly : p.applyDescription catalog a position created now = .ok (p', ids))
    (hg : g.registry = p'.registry) (hs : desc.subDevices[k]? = some s) (ht : t ∈ s.items)
    (hstatic : t.isStatic = true) :
    ∃ id, ids[k]? = some id ∧
      ∀ g₁ g₂, ReflTransGen (Upkeep a desc) g g₁ → ReflTransGen (Upkeep a desc) g₁ g₂ →
        ∃ i₁ i₂, g₁.item? id t.name = some i₁ ∧ g₂.item? id t.name = some i₂ ∧
          (i₁.lastSet.isSome = true → i₂.holding = i₁.holding) := by
  obtain ⟨kind, id, r, -, hid, hlive, hu, hitems⟩ :=
    Premises.part_of_applied hreach.coherent hcatalog hdesc hdistinct happly hs
  obtain ⟨type, handle, met, row, -, -, hitem, -⟩ := hitems t ht
  have hfreezes := hdistinct.freezes (List.mem_of_getElem? hs) ht hstatic
  refine ⟨id, hid, fun g₁ g₂ hrun hlater => ?_⟩
  have hr : g.registry.resource? id = some r := hg ▸ (Registry.live?_eq_some_iff.mp hlive).1
  obtain ⟨hreach₁, hkept₁⟩ :=
    abides_upkeep hrun (hg ▸ Premises.reachable_applyDescription hreach happly) hfreezes
  obtain ⟨-, hkept₂⟩ := abides_upkeep hlater hreach₁ hfreezes
  obtain ⟨r₁, hr₁, hresource₁⟩ := hkept₁ id r hr
  obtain ⟨r₂, hr₂, hresource₂⟩ := hkept₂ id r₁ hr₁
  obtain ⟨i₁, hi₁, hitem₁⟩ := hresource₁.item hu _ hitem
  obtain ⟨i₂, hi₂, hitem₂⟩ := hresource₂.item (hresource₁.uniqueId.trans hu) i₁ hi₁
  -- The turn of its template has made the item static.
  obtain ⟨hstatic₁, -⟩ := hitem₁ hstatic
  refine ⟨i₁, i₂, ?_, ?_, (hitem₂ hstatic₁).2⟩
  · rw [item?, hr₁, Option.bind_some, hi₁]
  · rw [item?, hr₂, Option.bind_some, hi₂]

/-- A part that says which version its software has. -/
def versionedPart : SubDevice :=
  { temperaturePart with items := [{ name := "attr/swversion", fixed := some (.string "3000-0001") }] }

/-- Another version is stored, the device is set up again, and a third version is reported. -/
def upgrades : List GatewayEvent :=
  [.outside fun g =>
      { g with
        storage := g.storage.insert (.ofPattern versionedPart.addressing ⟨1⟩)
          ⟨"attr/swversion", .text "3000-0002", 1000⟩ },
    .deviceSetUp ⟨1⟩, .reported ⟨2⟩ "attr/swversion" (.text "3000-0003")]

/-- The description that is found is in the catalog. -/
theorem mem_catalog_of_descriptionFor? (h : g.descriptionFor? a = some desc) :
    desc ∈ g.catalog.descriptions := by
  simp only [descriptionFor?, Option.bind_eq_bind, Option.bind_eq_some_iff] at h
  obtain ⟨d, -, -, -, position, -, hget⟩ := h
  rw [catalog_recallIfUnknown] at hget
  exact List.mem_of_getElem? hget

/-- The version stays the first one. -/
theorem version_permanent :
    let g₀ := (knowing [versionedPart]).run [.deviceAdded ⟨1⟩ "A" "m"]
    ∃ p' i₁ i₂, g₀.toPremises.applyDescription
        { descriptions := [describing [versionedPart]], generation := 1 } ⟨1⟩ 0 .start2024 .start2024 =
          .ok (p', [⟨2⟩]) ∧
      { g₀ with toPremises := p' }.item? ⟨2⟩ "attr/swversion" = some i₁ ∧
      i₁.holding = ⟨some (.text "3000-0001"), some .start2024, some .start2024⟩ ∧
      ({ g₀ with toPremises := p' }.run upgrades).item? ⟨2⟩ "attr/swversion" = some i₂ ∧
      i₂.holding = i₁.holding := by
  intro g₀
  have happlied : (g₀.toPremises.applyDescription
      { descriptions := [describing [versionedPart]], generation := 1 } ⟨1⟩ 0 .start2024
      .start2024).toOption.map (fun x => (x.2, ({ g₀ with toPremises := x.1 }.item? ⟨2⟩
        "attr/swversion").map Item.holding)) =
      some ([⟨2⟩], some ⟨some (.text "3000-0001"), some .start2024, some .start2024⟩) := by
    decide +kernel
  obtain ⟨⟨p', ids⟩, happly, hfacts⟩ := Option.map_eq_some_iff.mp happlied
  obtain ⟨rfl, hholding⟩ := Prod.mk.inj hfacts
  obtain ⟨i, hi, hheld⟩ := Option.map_eq_some_iff.mp hholding
  set g : Gateway := { g₀ with toPremises := p' } with hg
  -- In between the description is applied once more, and it is the only one of the catalog.
  have hrun : ReflTransGen (Upkeep ⟨1⟩ (describing [versionedPart])) g (g.run upgrades) := by
    unfold upgrades run
    simp only [List.foldl_cons, List.foldl_nil]
    refine .tail (.tail (.single (.event ?_)) (.setUp fun d hd => ?_)) (.event ?_)
    · exact fun b h => by cases h
    · have hmem : d ∈ [describing [versionedPart]] := mem_catalog_of_descriptionFor? hd
      exact List.mem_singleton.mp hmem
    · exact fun b h => by cases h
  obtain ⟨id, hid, hpermanent⟩ := static_items_permanent (Registry.reachable_run rfl _)
    (Catalog.filled_of_forall (by decide +kernel)) rfl ⟨by decide +kernel, by decide +kernel⟩
    (Except.toOption_eq_some_iff.mp happly) (g := g) rfl (k := 0) rfl List.mem_cons_self rfl
  obtain rfl : (⟨2⟩ : ResourceId) = id := Option.some.inj hid
  obtain ⟨i₁, i₂, hi₁, hi₂, hkept⟩ := hpermanent g _ .refl hrun
  obtain rfl := Option.some.inj (hi.symm.trans hi₁)
  have hset : i.lastSet = some .start2024 := congrArg Item.Holding.lastSet hheld
  exact ⟨p', i, i₂, Except.toOption_eq_some_iff.mp happly, hi, hheld, hi₂, hkept (by rw [hset]; rfl)⟩

end Gateway

end ZigbeeGateway
