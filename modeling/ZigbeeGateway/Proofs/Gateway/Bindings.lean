import ZigbeeGateway.Proofs.Catalog.Operations
import ZigbeeGateway.Proofs.Gateway.Etags
import ZigbeeGateway.Proofs.Gateway.Fares
import ZigbeeGateway.Proofs.Gateway.Offset
import ZigbeeGateway.Proofs.Gateway.Outcomes

/-!
# What items are bound to

Items keep the handles of their templates while descriptions are loaded and reloaded, and while
devices are set up anew by descriptions that no longer mention them.  A handle is good for as long as
the catalog is not reloaded: descriptions that are added come behind the others, so it resolves to
the template for which it was issued, and that has the name of the item.  After a reload it does not
resolve, until the generations have gone round.

`IsBound` says this of one handle.  It is kept by whatever is done to the catalog
(`IsBound.perform`) and holds of every handle that an item is bound to (`bindings_run`), so what a
write is planned with belongs to the item that is written (`templates_match_items`).
-/

namespace ZigbeeGateway

open Relation

namespace Catalog

variable {c c' : Catalog} {handle : TemplateHandle} {suffix : String}

/-! ### Bound handles -/

/-- A handle goes with a name after a number of reloads since a first generation: it was issued before
the last of them, or it resolves to a template with the name. -/
def IsBound (first : UInt32) (reloads : Nat) (c : Catalog) (suffix : String)
    (handle : TemplateHandle) : Prop :=
  (∃ n < reloads, handle.generation = first + UInt32.ofNat n) ∨ c.Issues suffix handle

variable {first : UInt32} {reloads : Nat}

/-- A name that a handle goes with stays when descriptions are added. -/
theorem Issues.extends (h : c.Issues suffix handle) (hextends : c.Extends c') :
    c'.Issues suffix handle := by
  obtain ⟨t, ht, hname⟩ := h
  exact ⟨t, hextends.template? ht, hname⟩

/-- **Bound handles stay bound**, whatever is done to the catalog. -/
theorem IsBound.perform (h : IsBound first reloads c suffix handle)
    (hgeneration : c.generation = first + UInt32.ofNat reloads) (op : CatalogOperation) :
    IsBound first (reloads + if c.replaces op then 1 else 0) (c.perform op) suffix handle := by
  rcases c.perform_cases op with ⟨hkeeps, hextends⟩ | ⟨hreplaces, -⟩
  · rw [hkeeps]
    rcases h with ⟨n, hn, hold⟩ | hissues
    · exact .inl ⟨n, hn, hold⟩
    · exact .inr (hissues.extends hextends)
  · -- The handle was issued before this reload.
    rw [hreplaces]
    rcases h with ⟨n, hn, hold⟩ | ⟨t, ht, -⟩
    · exact .inl ⟨n, Nat.lt_succ_of_lt hn, hold⟩
    · exact .inl ⟨reloads, Nat.lt_succ_self _, (generation_of_template? ht).trans hgeneration⟩

/-- **A bound handle that resolves** gives a template with its name, if the generations have not gone
round. -/
theorem IsBound.name_eq (h : IsBound first reloads c suffix handle)
    (hgeneration : c.generation = first + UInt32.ofNat reloads) (hfew : reloads < 2 ^ 32)
    {t : ItemTemplate} (ht : c.template? handle = some t) : t.name = suffix := by
  rcases h with ⟨n, hn, hold⟩ | ⟨t', ht', hname⟩
  · -- Fewer reloads give another generation.
    have hsame : UInt32.ofNat n = UInt32.ofNat reloads := by
      have heq := (hold.symm.trans (generation_of_template? ht)).trans hgeneration
      exact (UInt32.add_right_inj first).mp heq
    have hnat := congrArg UInt32.toNat hsame
    rw [UInt32.toNat_ofNat_of_lt' (by rw [UInt32.size]; omega),
      UInt32.toNat_ofNat_of_lt' (by rw [UInt32.size]; omega)] at hnat
    omega
  · rw [ht] at ht'
    exact Option.some.inj ht' ▸ hname

end Catalog

/-! ### Bound items -/

namespace Item

/-- The handle of an item, if it has one, is bound to its name. -/
def IsBoundIn (first : UInt32) (reloads : Nat) (c : Catalog) (item : Item) : Prop :=
  ∀ handle, item.template = some handle → c.IsBound first reloads item.suffix handle

/-- **Items stay bound** while they are bound to handles that the catalog issues. -/
theorem isLasting_isBoundIn (first : UInt32) (reloads : Nat) (c : Catalog) :
    Resource.IsLasting c.Issues (IsBoundIn first reloads c) := by
  refine ⟨fun item hblank handle hhandle => ?_, fun item item' hstep hitem handle hhandle => ?_⟩
  · rw [hblank.template] at hhandle
    cases hhandle
  · rw [hstep.refit.suffix]
    -- Only dressing an item gives it another handle.
    cases hstep with
    | set h =>
      have htemplate := eq_of_shape_eq Item.template (fun _ => rfl) (set_shape h)
      exact hitem handle (htemplate ▸ hhandle)
    | restore h =>
      obtain ⟨t, set, o, -, hset, rfl⟩ := Row.restore?_eq_some_iff.mp h
      have htemplate := eq_of_shape_eq Item.template (fun _ => rfl) (set_shape hset)
      refine hitem handle (htemplate ▸ ?_)
      split_ifs at hhandle <;> exact hhandle
    | dress hcell htemplate =>
      rcases htemplate handle hhandle with hold | hissued
      · exact hitem handle hold
      · exact .inr hissued

end Item

/-! ### What is planned -/

namespace WritePlan

/-- What is sent comes from the template. -/
theorem exists_write_of_managed {r : Resource} {device : Option Device}
    {template : Option ItemTemplate} {suffix : String} {m : ManagedWrite}
    (h : chooseRoute r device template suffix = .managed m) :
    ∃ t, template = some t ∧ t.write = some m.params := by
  obtain ⟨_, t, params, -, ht, hwrite, rfl⟩ := exists_of_chooseRoute h
  exact ⟨t, ht, hwrite⟩

end WritePlan

/-! ### Histories -/

/-- What may happen to a gateway that keeps its catalog: one of its events, or an operation of the
catalog. -/
inductive UpkeepEvent where
  | handled (e : GatewayEvent)
  | described (op : CatalogOperation)

namespace UpkeepEvent

/-- An operation of the catalog is an event outside of the registry. -/
def toEvent : UpkeepEvent → GatewayEvent
  | .handled e => e
  | .described op => .outside fun g => { g with catalog := g.catalog.perform op }

/-- Nothing else happens to the catalog. -/
def KeepsCatalog (e : UpkeepEvent) : Prop :=
  ∀ change, e = .handled (.outside change) → ∀ g : Gateway, (change g).catalog = g.catalog

end UpkeepEvent

namespace Gateway

variable {g start : Gateway}

/-- The gateway after such events. -/
def tend (g : Gateway) (events : List UpkeepEvent) : Gateway :=
  g.run (events.map UpkeepEvent.toEvent)

/-- How often the catalog is reloaded on the way. -/
def reloads (g : Gateway) : List UpkeepEvent → Nat
  | [] => 0
  | e :: rest =>
    (match e with
      | .described op => if g.catalog.replaces op then 1 else 0
      | .handled _ => 0) + (g.step e.toEvent).reloads rest

theorem catalog_initDevice (g : Gateway) (a : ExtAddress) :
    (g.initDevice a).1.catalog = g.catalog := by
  cases hanswer : g.initDevice a with
  | mk g' answer =>
    cases answer with
    | ok ids =>
      obtain ⟨d, _, _, p, _, _, _, _, rfl⟩ := initDevice_eq_ok hanswer
      exact g.catalog_recallIfUnknown a d
    | error e =>
      rcases initDevice_eq_error hanswer with rfl | ⟨node, rfl⟩ <;> rfl

/-- **The catalog is kept** by every event that is not outside of the registry. -/
theorem catalog_step (g : Gateway) {e : GatewayEvent} (he : ∀ change, e ≠ .outside change) :
    (g.step e).catalog = g.catalog := by
  cases e with
  | deviceAdded address manufacturer model => rfl
  | deviceSetUp address => exact g.catalog_initDevice address
  | resourceAdded kind typeName uniqueId items =>
    rw [step]
    split <;> rfl
  | written id suffix v =>
    have hwritten := written_writeItem g id suffix v
    rw [step]
    generalize g.writeItem id suffix v = result at hwritten ⊢
    cases hwritten with
    | refused => rfl
    | unsent r device plan => exact (g.beside_sendVendor r device plan).catalog
    | direct _ _ htraffic => exact htraffic.catalog
    | managed _ _ htraffic => exact htraffic.catalog
  | reported id suffix v => exact (traffic_report g id suffix v).catalog
  | received indication => exact (traffic_handleIndication g indication).catalog
  | ticked => exact (@traffic_tick (fun _ => False) g).catalog
  | resourceDeleted id => rfl
  | deviceDeleted address => rfl
  | outside change => exact absurd rfl (he change)

/-- **Handles are bound** at every point of a history, with as many reloads as there were. -/
theorem bindings_run {first : UInt32} (events : List UpkeepEvent) (g : Gateway) (n : Nat)
    (hkeeps : ∀ e ∈ events, e.KeepsCatalog)
    (hgeneration : g.catalog.generation = first + UInt32.ofNat n)
    (hbound : g.registry.Holds (Item.IsBoundIn first n g.catalog)) :
    (g.tend events).catalog.generation = first + UInt32.ofNat (n + g.reloads events) ∧
      (g.tend events).registry.Holds
        (Item.IsBoundIn first (n + g.reloads events) (g.tend events).catalog) := by
  -- The induction counts the reloads so far: the generation is the first one plus their number,
  -- and every item is bound in one of these generations.
  induction events generalizing g n with
  | nil => exact ⟨hgeneration, hbound⟩
  | cons e rest ih =>
    have hrest : ∀ e ∈ rest, e.KeepsCatalog := fun e he => hkeeps e (List.mem_cons_of_mem _ he)
    have hfares := hbound.fares (Item.isLasting_isBoundIn first n g.catalog) (g.fares_step e.toEvent)
    show ((g.step e.toEvent).tend rest).catalog.generation = _ ∧ _
    cases e with
    | handled e =>
      -- Of the events of the gateway none but those from outside could touch the catalog.
      have hcatalog : (g.step e).catalog = g.catalog := by
        by_cases houtside : ∃ change, e = .outside change
        · obtain ⟨change, rfl⟩ := houtside
          exact hkeeps _ List.mem_cons_self change rfl g
        · exact g.catalog_step fun change he => houtside ⟨change, he⟩
      have h := ih (g.step e) n hrest (hcatalog ▸ hgeneration) (hcatalog.symm ▸ hfares)
      rw [reloads, Nat.zero_add]
      exact h
    | described op =>
      have hstep : (g.step (UpkeepEvent.described op).toEvent).catalog = g.catalog.perform op := rfl
      have h := ih (g.step (UpkeepEvent.described op).toEvent)
        (n + if g.catalog.replaces op then 1 else 0) hrest ?_ ?_
      · rw [reloads, ← Nat.add_assoc]
        exact h
      · rw [hstep]
        rcases g.catalog.perform_cases op with ⟨hkeep, hextends⟩ | ⟨hreplaces, _, -, hraised⟩
        · rw [hkeep, hextends.generation]
          exact hgeneration
        · rw [hreplaces, hraised, hgeneration, if_pos rfl, UInt32.ofNat_add, ← UInt32.add_assoc]
          rfl
      · -- A handle of an earlier generation resolves to nothing any more, so the bindings stay
        -- right.
        intro p r hr
        obtain ⟨hdistinct, hitems⟩ := hfares p r hr
        refine ⟨hdistinct, fun item hitem handle hhandle => ?_⟩
        exact (hitems item hitem handle hhandle).perform hgeneration op

/-- **What an item is bound to is its own template**, if the catalog was reloaded less than `2 ^ 32`
times since the registry was empty.  Whenever the handle of an item resolves, the template has the
name of the item; so the template that maps the label of a write and whose parameters are sent is the
one of the item that is written, or there is none. -/
theorem templates_match_items (hstart : start.registry = {}) (events : List UpkeepEvent)
    (hkeeps : ∀ e ∈ events, e.KeepsCatalog) (hfew : start.reloads events < 2 ^ 32) :
    let g := start.tend events
    ∀ r, g.registry.Includes r →
      (∀ item ∈ r.items, ∀ handle t, item.template = some handle →
        g.catalog.template? handle = some t → t.name = item.suffix) ∧
      ∀ device suffix v plan, WritePlan.make r device g.catalog suffix v = .ok plan →
        ∃ item template, r.item? suffix = some item ∧
          item.template.bind g.catalog.template? = template ∧
          (∀ t, template = some t → t.name = suffix) ∧
          WritePlan.validate item template v = .ok plan.value ∧
          ∀ m, plan.route = .managed m →
            ∃ t, template = some t ∧ t.name = suffix ∧ t.write = some m.params := by
  intro g r hr
  -- At the start no item is bound.
  have hempty : start.registry.Holds
      (Item.IsBoundIn start.catalog.generation 0 start.catalog) := by
    intro p r hr
    rw [hstart] at hr
    cases p <;> cases hr
  obtain ⟨hgeneration, hbound⟩ := bindings_run events start 0 hkeeps (by simp) hempty
  rw [Nat.zero_add] at hgeneration hbound
  obtain ⟨p, hp⟩ := hr.exists_holder? (coherent_run hstart _) (addresses_run hstart _)
  -- The bound on reloads keeps the generations apart, so a handle that resolves is of the present
  -- one.
  have hnames : ∀ item ∈ r.items, ∀ handle t, item.template = some handle →
      g.catalog.template? handle = some t → t.name = item.suffix := by
    intro item hitem handle t hhandle ht
    exact ((hbound p r hp).items item hitem handle hhandle).name_eq hgeneration hfew ht
  refine ⟨hnames, fun device suffix v plan hplan => ?_⟩
  obtain ⟨item, hitem, -, -, -, -, hroute⟩ := WritePlan.make_cases hplan
  have hname : ∀ t, item.template.bind g.catalog.template? = some t → t.name = suffix := by
    intro t ht
    obtain ⟨handle, hhandle, ht⟩ := Option.bind_eq_some_iff.mp ht
    exact (hnames item (List.mem_of_find?_eq_some hitem) handle t hhandle ht).trans
      (Resource.suffix_of_item? hitem)
  refine ⟨item, _, hitem, rfl, hname, WritePlan.validate_of_make hplan hitem, fun m hm => ?_⟩
  obtain ⟨t, ht, hwrite⟩ := WritePlan.exists_write_of_managed (hroute.symm.trans hm)
  exact ⟨t, ht, hname t ht, hwrite⟩

/-- The part of a device with an offset alone. -/
def offsetPart : SubDevice :=
  { typeName := "ZHATemperature", restPath := "/sensors",
    addressing := [UniqueId.addressMarker, "1"],
    items := [{ name := Suffix.offset, write := some { kind := .tuya } }] }

/-- A sensor of a temperature is set up anew, when the descriptions were replaced by one that has an
offset alone. -/
def rebound : List UpkeepEvent :=
  measured.map .handled ++
    [.described (.reloaded [describing [offsetPart]]), .handled (.deviceSetUp ⟨1⟩)]

/-- The offset of the sensor is bound anew: its handle resolves, to the template that has its name and
stands where that of the temperature was.  The handle of the temperature does not resolve. -/
theorem offset_bound_after_reload :
    let g := (thermometer "ZHATemperature").tend rebound
    ∃ r ∈ g.registry.resource? ⟨2⟩,
      (r.items.filter (·.template.isSome)).map (fun item =>
          (item.suffix, (item.template.bind g.catalog.template?).isSome)) =
        [(Suffix.temperature, false), (Suffix.offset, true)] ∧
      ∀ item ∈ r.items, ∀ handle t, item.template = some handle →
        g.catalog.template? handle = some t → t.name = item.suffix := by
  intro g
  have hfound : ∃ r ∈ g.registry.resource? ⟨2⟩,
      (r.items.filter (·.template.isSome)).map (fun item =>
          (item.suffix, (item.template.bind g.catalog.template?).isSome)) =
        [(Suffix.temperature, false), (Suffix.offset, true)] := by
    decide +kernel
  obtain ⟨r, hr, hbound⟩ := hfound
  have hkeeps : ∀ e ∈ rebound, e.KeepsCatalog := by
    rintro e he change rfl
    simp [rebound, measured] at he
  have hfew : (thermometer "ZHATemperature").reloads rebound < 2 ^ 32 := by decide +kernel
  exact ⟨r, hr, hbound, (templates_match_items rfl rebound hkeeps hfew r
    (.inl (List.mem_of_find?_eq_some hr))).1⟩

end Gateway

end ZigbeeGateway
