import ZigbeeGateway.Proofs.Gateway.Atomicity
import ZigbeeGateway.Proofs.Gateway.Requests
import ZigbeeGateway.Proofs.Setup.Descriptions

/-!
# Restarts

What was announced survives a restart.  While requests, ticks and new applications of its description
go on, an item of a device that an event was published for has a row, and the row is what the item
holds, as long as the time of the row can be read back (`IsRecorded`).  A gateway that begins anew
with that store gives the item this value (`restart_recovers`).
-/

namespace ZigbeeGateway

open Registry Relation

/-- An item of which a restart brings the value back once it was announced. -/
structure ItemTemplate.IsRecovered (t : ItemTemplate) : Prop where
  typed : t.type?.isSome = true
  isStatic : t.isStatic = false
  identity : t.name ∉ Premises.identity
  update : t.name ≠ Suffix.lastUpdated

/-- An event of the daily life of one device: its parts are written, reported and moved on, it is set
up again, and the surroundings keep the descriptions, the store and what was asked of them. -/
def GatewayEvent.IsDaily (a : ExtAddress) : GatewayEvent → Prop
  | .deviceSetUp address => address = a
  | .written .. | .reported .. | .received _ | .ticked => True
  | .outside change => ∀ g, (change g).catalog = g.catalog ∧ (change g).storage = g.storage ∧
      (change g).outbox = g.outbox
  | .deviceAdded .. | .resourceAdded .. | .resourceDeleted _ | .deviceDeleted _ => False

namespace Gateway

variable {touched : String → Prop} {g g' start fresh : Gateway} {a : ExtAddress}
  {manufacturer model : String} {desc : Description} {id : ResourceId} {suffix : String} {v : Value}
  {r r' : Resource} {item : Item} {o : SetOutcome} {e : GatewayEvent}

/-! ### Announcements -/

/-- An event for an item was published after a number of other events. -/
def Announced (g : Gateway) (since : Nat) (id : ResourceId) (n : String) : Prop :=
  ∃ e ∈ g.published.drop since, e.resource = id ∧ e.suffix = n

theorem Announced.of_append {since : Nat} {n : String} {new : List Event}
    (h : g'.published = g.published ++ new) (hannounced : g'.Announced since id n) :
    g.Announced since id n ∨ ∃ e ∈ new, e.resource = id ∧ e.suffix = n := by
  obtain ⟨e, hmem, he⟩ := hannounced
  rw [h, List.drop_append] at hmem
  rcases List.mem_append.mp hmem with hold | hnew
  · exact .inl ⟨e, hold, he⟩
  · exact .inr ⟨e, List.mem_of_mem_drop hnew, he⟩

/-! ### Recorded items -/

/-- An item that is watched: the number and the unique id of its resource, its name and its type, and
how many events had been published when the watch began. -/
structure Watch where
  id : ResourceId
  uniqueId : UniqueId
  name : String
  type : DataType
  since : Nat

/-- What a row has to do with an item: if its time can be read back, its value is the one held. -/
def Vouches (row : Row) (item : Item) : Prop :=
  (Instant.ofMillis? row.millis).isSome = true → item.value = some row.value

/-- The item may be set, holds fitted values of its type, and has a row that vouches for it once it
was announced. -/
structure RecordsItem (g : Gateway) (w : Watch) (item : Item) : Prop where
  type : item.type = w.type
  isStatic : item.isStatic = false
  isFitted : item.IsFitted
  stored : g.Announced w.since w.id w.name →
    ∃ row, g.row? w.uniqueId w.name = some row ∧ Vouches row item

/-- The item is recorded, and its resource is the only live one with the unique id. -/
structure IsRecorded (g : Gateway) (w : Watch) : Prop where
  sole : ∀ id r, g.content? id = some r → r.deleted = false → r.uniqueId = w.uniqueId → id = w.id
  live : ∃ r item, g.content? w.id = some r ∧ r.deleted = false ∧ r.uniqueId = w.uniqueId ∧
    r.item? w.name = some item ∧ g.RecordsItem w item

variable {w : Watch}

/-- The same contents, events and rows keep items recorded. -/
theorem IsRecorded.of_eq (h : g.IsRecorded w) (hcontent : ∀ id, g'.content? id = g.content? id)
    (hpublished : g'.published = g.published) (hrows : ∀ u n, g'.row? u n = g.row? u n) :
    g'.IsRecorded w := by
  obtain ⟨r, item, hr, hdeleted, hunique, hitem, hrecords⟩ := h.live
  refine ⟨fun id q hq => h.sole id q ((hcontent id).symm.trans hq), r, item,
    (hcontent w.id).trans hr, hdeleted, hunique, hitem, hrecords.type, hrecords.isStatic,
    hrecords.isFitted, fun hannounced => ?_⟩
  unfold Announced at hannounced
  rw [hpublished] at hannounced
  rw [hrows]
  exact hrecords.stored hannounced

theorem IsRecorded.beside (h : g.IsRecorded w) (hbeside : Beside g g') : g'.IsRecorded w :=
  h.of_eq hbeside.content hbeside.published hbeside.rows

/-- What is announced after a resource was put back was announced before, or it is the item that is
made known. -/
theorem Announced.of_putBack (hr : g.registry.live? id = some r) (hframe : r'.frame = r.frame)
    (hitem : r'.item? suffix = some item) (known : Bool) {since : Nat} {id' : ResourceId}
    {n : String} (h : (g.putBack id suffix r' known).Announced since id' n) :
    g.Announced since id' n ∨ known = true ∧ id = id' ∧ n = suffix := by
  obtain ⟨hresource, -⟩ := live?_eq_some_iff.mp hr
  obtain ⟨-, -, -, hpublishes⟩ := putBack_spec hresource hframe hitem known
  have hid : r'.id = id :=
    (Resource.id_of_frame_eq hframe).trans (id_of_resource? hresource)
  rcases h.of_append hpublishes.published with hold | ⟨e, hmem, he, hsuffix⟩
  · exact .inl hold
  · split_ifs at hmem with hknown
    · obtain rfl := List.mem_singleton.mp hmem
      exact .inr ⟨hknown, hid.symm.trans he, hsuffix.symm⟩
    · cases hmem

/-- **Putting back a resource keeps items recorded**, if each of them keeps its value or is made
known with a value. -/
theorem IsRecorded.putBack (h : g.IsRecorded w) (hr : g.registry.live? id = some r)
    (hframe : r'.frame = r.frame) (hitem : r'.item? suffix = some item) (known : Bool)
    (hwatched : ∀ i, r.item? w.name = some i → i.isStatic = false → i.IsFitted →
      ∃ i', r'.item? w.name = some i' ∧ i'.shape = i.shape ∧ i'.IsFitted ∧
        (i'.value = i.value ∧ ¬ (known = true ∧ w.name = suffix) ∨
          known = true ∧ w.name = suffix ∧ i'.value.isSome = true)) :
    (g.putBack id suffix r' known).IsRecorded w := by
  obtain ⟨hresource, hlive⟩ := live?_eq_some_iff.mp hr
  obtain ⟨-, hcontent, hrows, -⟩ := putBack_spec hresource hframe hitem known
  have hcontentOld : g.content? id = some r.content := by rw [content?, hresource, Option.map_some]
  have hdeleted := Resource.deleted_of_frame_eq hframe
  have hunique := Resource.uniqueId_of_frame_eq hframe
  have hsole : ∀ id' q, (g.putBack id suffix r' known).content? id' = some q → q.deleted = false →
      q.uniqueId = w.uniqueId → id' = w.id := by
    intro id' q hq hqdeleted hqunique
    rw [hcontent] at hq
    split_ifs at hq with hsame
    · rw [← Option.some.inj hq] at hqunique
      exact hsame.trans (h.sole id _ hcontentOld hlive (hunique.symm.trans hqunique))
    · exact h.sole id' q hq hqdeleted hqunique
  obtain ⟨q, watched, hq, hqdeleted, hqunique, hi, hrecords⟩ := h.live
  by_cases hsame : w.id = id
  · -- The resource that is put back has the item.
    rw [hsame, hcontentOld] at hq
    obtain rfl := Option.some.inj hq
    rw [Resource.item?_content] at hi
    obtain ⟨i, hold, rfl⟩ := Option.map_eq_some_iff.mp hi
    obtain ⟨i', hi', hshape, hfitted, hvalue⟩ := hwatched i hold hrecords.isStatic hrecords.isFitted
    refine ⟨hsole, r'.content, i'.quiet, by rw [hcontent, if_pos hsame], hdeleted.trans hlive,
      hunique.trans hqunique, by rw [Resource.item?_content, hi', Option.map_some],
      (Item.type_of_shape_eq hshape).trans hrecords.type,
      (Item.isStatic_of_shape_eq hshape).trans hrecords.isStatic,
      hfitted, fun hnew => ?_⟩
    rw [hrows]
    rcases hvalue with ⟨hvalue, hquiet⟩ | ⟨hknown, hname, hsome⟩
    · -- It is not made known, and its row stays.
      rw [if_neg fun hput => hquiet ⟨hput.1, hput.2.2⟩]
      rcases hnew.of_putBack hr hframe hitem known with hold | ⟨hknown, -, hname⟩
      · obtain ⟨row, hrow, hvouches⟩ := hrecords.stored hold
        exact ⟨row, hrow, fun htime => hvalue.trans (hvouches htime)⟩
      · exact absurd ⟨hknown, hname⟩ hquiet
    · -- It is made known, and stored as it is.
      rw [if_pos ⟨hknown, hqunique.symm, hname⟩]
      rw [hname, hitem] at hi'
      obtain rfl := Option.some.inj hi'
      obtain ⟨row, hrow, hvalue⟩ := Row.exists_ofItem? hsome
      exact ⟨row, by rw [hrow, Option.some_or], fun _ => hvalue⟩
  · refine ⟨hsole, q, watched, by rw [hcontent, if_neg hsame]; exact hq, hqdeleted, hqunique, hi,
      hrecords.type, hrecords.isStatic, hrecords.isFitted, fun hnew => ?_⟩
    -- Another resource was put back, and it has another unique id.
    rw [hrows, if_neg fun hput => hsame (h.sole id _ hcontentOld hlive hput.2.1.symm).symm]
    rcases hnew.of_putBack hr hframe hitem known with hold | ⟨-, hid', -⟩
    · exact hrecords.stored hold
    · exact absurd hid'.symm hsame

/-- What a set does to a watched item. -/
theorem watched_of_setValue (hset : r.setValue suffix v g.now = .ok (r', o)) (n : String) :
    ∀ i, r.item? n = some i → i.isStatic = false → i.IsFitted →
      ∃ i', r'.item? n = some i' ∧ i'.shape = i.shape ∧ i'.IsFitted ∧
        (n = suffix → i'.value.isSome = true) ∧
        (i'.value ≠ i.value → n = suffix ∧ o.isChanged = true) := by
  obtain ⟨item, item', hitem, hitemset, hitems⟩ := Resource.item?_setValue hset
  intro i hi hstatic hfitted
  rw [hitems]
  by_cases hn : n = suffix
  · rw [hn, hitem] at hi
    obtain rfl := Option.some.inj hi
    refine ⟨item', if_pos hn, Item.set_shape hitemset, hfitted.set hitemset, ?_⟩
    obtain ⟨v', -, ⟨-, hignored, -⟩ | ⟨-, hholds, rfl⟩ | ⟨rfl, -, rfl⟩⟩ := Item.set_cases hitemset
    · rw [hstatic] at hignored
      cases hignored
    · obtain ⟨held, hheld, -⟩ := Item.holds_iff.mp hholds
      exact ⟨fun _ => by dsimp only; rw [hheld]; rfl, fun hne => absurd rfl hne⟩
    · exact ⟨fun _ => rfl, fun _ => ⟨hn, rfl⟩⟩
  · exact ⟨i, (if_neg hn).trans hi, rfl, hfitted, fun h => absurd h hn, fun hne => absurd rfl hne⟩

/-- **A deed keeps items recorded.** -/
theorem IsRecorded.deed (h : g.IsRecorded w) (hdeed : Deed touched id g g') :
    g'.IsRecorded w := by
  cases hdeed with
  | beside hbeside => exact h.beside hbeside
  | @set r r' suffix v o known _ hlive hset hknown =>
    obtain ⟨item, item', -, -, hitems⟩ := Resource.item?_setValue hset
    refine h.putBack hlive (Resource.sameShape_setValue hset).frame (by rw [hitems, if_pos rfl])
      known fun i hi hstatic hfitted => ?_
    obtain ⟨i', hi', hshape, hfitted', hsome, hchanged⟩ :=
      watched_of_setValue hset w.name i hi hstatic hfitted
    refine ⟨i', hi', hshape, hfitted', ?_⟩
    by_cases hput : known = true ∧ w.name = suffix
    · exact .inr ⟨hput.1, hput.2, hsome hput.2⟩
    · refine .inl ⟨?_, hput⟩
      by_contra hne
      obtain ⟨hn, ho⟩ := hchanged hne
      exact hput ⟨hknown ho, hn⟩

theorem IsRecorded.deeds (h : g.IsRecorded w) (hdeeds : ReflTransGen (Deed touched id) g g') :
    g'.IsRecorded w := by
  induction hdeeds with
  | refl => exact h
  | tail _ hdeed ih => exact ih.deed hdeed

theorem IsRecorded.writeItem (h : g.IsRecorded w) (id : ResourceId) (suffix : String) (v : Value) :
    (g.writeItem id suffix v).1.IsRecorded w := by
  cases hanswer : (g.writeItem id suffix v).2 with
  | ok answer => exact h.deeds (deeds_writeItem hanswer)
  | error e =>
    obtain ⟨vendors, asked, heq, -, hasked⟩ := onlyAskedVendor_writeItem hanswer
    rw [heq]
    -- Calls of vendors publish nothing.
    have hsilent : asked.filter Output.isAnnouncement = [] := by
      refine List.filter_eq_nil_iff.mpr fun o ho => ?_
      have hcall := hasked o ho
      cases o <;> first | exact Bool.false_ne_true | cases hcall
    exact h.beside ⟨⟨rfl, rfl, rfl, rfl⟩, fun _ => rfl, fun _ _ => rfl, .of_outputs rfl rfl hsilent⟩

theorem IsRecorded.applyReport (h : g.IsRecorded w) (hname : w.name ≠ Suffix.lastUpdated)
    (hok : g.applyReport id suffix v = .ok (g', o)) : g'.IsRecorded w := by
  obtain ⟨r, r', confirmed, hlive, htake, hdeeds⟩ := deeds_applyReport hok
  obtain ⟨q, hset, hcontent⟩ := takeReport_content htake
  have hshape := sameShape_takeReport htake
  obtain ⟨item, -, hitem, -⟩ := Resource.item?_setValue hset
  obtain ⟨item', hitem', -⟩ := hshape.exists_item? hitem
  refine (h.putBack hlive hshape.frame hitem' o.isChanged fun i hi hstatic hfitted => ?_).deeds
    hdeeds
  obtain ⟨i', hi', hshape', hfitted', hsome, hchanged⟩ :=
    watched_of_setValue hset w.name i hi hstatic hfitted
  -- Refreshing the time of the last update leaves the watched item alone.
  have hquiet : (r'.item? w.name).map Item.quiet = some i'.quiet := by
    rcases hcontent with hcontent | ⟨-, hcontent⟩
    · rw [Resource.map_quiet_item? hcontent, hi', Option.map_some]
    · rw [Resource.map_quiet_item? hcontent, Resource.touch, Resource.item?_setIfFits,
        if_neg hname, hi', Option.map_some]
  obtain ⟨i'', hi'', heq⟩ := Option.map_eq_some_iff.mp hquiet
  have hvalue : i''.value = i'.value := Item.eq_of_quiet_eq Item.value (fun _ => rfl) heq
  have htype : i''.type = i'.type := Item.eq_of_quiet_eq Item.type (fun _ => rfl) heq
  refine ⟨i'', hi'', ?_, ?_, ?_⟩
  · exact (Item.eq_of_quiet_eq Item.shape (fun _ => rfl) heq).trans hshape'
  · intro v hv
    rw [htype]
    exact hfitted' v (hvalue ▸ hv)
  · by_cases hput : o.isChanged = true ∧ w.name = suffix
    · exact .inr ⟨hput.1, hput.2, hvalue ▸ hsome hput.2⟩
    · refine .inl ⟨hvalue.trans ?_, hput⟩
      by_contra hne
      exact hput (hchanged hne).symm

/-! ### Setting up -/

/-- A device is known by its manufacturer and its model, and a description is the first one that is
made for them. -/
structure Knows (g : Gateway) (a : ExtAddress) (manufacturer model : String) (desc : Description) :
    Prop where
  device : ∃ d, g.registry.device? a = some d ∧ d.manufacturer = manufacturer ∧ d.modelId = model
  description : (g.catalog.find? manufacturer model).bind g.catalog.get? = some desc

/-- The gateway after the sub-resources of a description were set up. -/
def setUpWith (g : Gateway) (a : ExtAddress) (d : Device) (desc : Description) (description : Nat)
    (planned : List (SubDevice × ResourceKind × UniqueId)) : Gateway :=
  { g with
    toPremises := (g.toPremises.setUpSubDevices (Premises.occasion d desc a g.hostTime g.now)
      (g.catalog.handle? description) 0 planned).1.finish a desc g.now
  }.scheduleSave .devices g.config.saveDelayShort

/-- The numbers of the sub-resources of a description that are set up. -/
def numbersWith (g : Gateway) (a : ExtAddress) (d : Device) (desc : Description) (description : Nat)
    (planned : List (SubDevice × ResourceKind × UniqueId)) : List ResourceId :=
  (g.toPremises.setUpSubDevices (Premises.occasion d desc a g.hostTime g.now)
    (g.catalog.handle? description) 0 planned).2

variable {d : Device} {description k : Nat} {s : SubDevice} {t : ItemTemplate}
  {planned : List (SubDevice × ResourceKind × UniqueId)} {ids : List ResourceId}

/-- **A device that is known is set up** from its description. -/
theorem Knows.initDevice (h : g.Knows a manufacturer model desc)
    (hmanufacturer : manufacturer.isEmpty = false) (hmodel : model.isEmpty = false)
    (hplanned : Premises.planSubDevices a desc.subDevices = .ok planned) :
    ∃ d description, g.registry.device? a = some d ∧
      g.initDevice a =
        (g.setUpWith a d desc description planned,
          .ok (g.numbersWith a d desc description planned)) := by
  obtain ⟨d, hd, hmanufacturer', hmodel'⟩ := h.device
  obtain ⟨description, hfind, hget⟩ := Option.bind_eq_some_iff.mp h.description
  have hrecall : g.recallIfUnknown a d = g := by
    unfold recallIfUnknown
    rw [hmanufacturer', hmodel', hmanufacturer, hmodel]
    rfl
  refine ⟨d, description, hd, ?_⟩
  have happly : g.toPremises.applyDescription g.catalog a description g.hostTime g.now =
      .ok ((g.toPremises.setUpSubDevices (Premises.occasion d desc a g.hostTime g.now)
        (g.catalog.handle? description) 0 planned).1.finish a desc g.now,
        g.numbersWith a d desc description planned) :=
    Premises.applyDescription_eq_ok_iff.mpr ⟨desc, d, planned, hget, hd, hplanned, rfl, rfl⟩
  rw [Gateway.initDevice_eq]
  simp only [hd, hrecall, hmanufacturer', hmodel', hfind, happly]
  rfl

variable (desc description planned) in
/-- Setting up publishes nothing. -/
theorem published_setUpWith (h : g.registry.Coherent) (hd : g.registry.device? a = some d) :
    (g.setUpWith a d desc description planned).published = g.published := by
  -- Items are stored without being announced.
  have hstore : ∀ (r : Resource) (p : Premises) (suffix : String),
      (p.storeItem r suffix).outbox.filterMap Output.event? = p.outbox.filterMap Output.event? := by
    intro r p suffix
    unfold Premises.storeItem
    split
    · rfl
    · simp [Output.event?]
  have hparts := Premises.rel_setUpSubDevices
    (P := fun p p' => p'.outbox.filterMap Output.event? = p.outbox.filterMap Output.event?)
    (fun _ => rfl) (fun _ _ _ h h' => h'.trans h) (fun p handle? s kind u _ => ?_) h
    (o := Premises.occasion d desc a g.hostTime g.now) hd (g.catalog.handle? description) 0 planned
  · unfold setUpWith scheduleSave published
    dsimp only
    rw [List.filterMap_append]
    exact (List.append_nil _).trans hparts
  · unfold Premises.setUpSubDevice
    split
    extract_lets linked named q
    have hlinked : q.outbox.filterMap Output.event? = p.outbox.filterMap Output.event? := by
      simp [q, Premises.storeLink, Output.event?]
    split
    · exact hlinked
    · rename_i r _
      extract_lets stored rows
      exact (hstore r _ _).trans ((hstore r _ _).trans hlinked)

variable (description planned) in
/-- Setting up keeps devices known. -/
theorem Knows.setUpWith (h : g.Knows a manufacturer model desc) (hg : g.registry.Coherent)
    (hd : g.registry.device? a = some d) :
    (g.setUpWith a d desc description planned).Knows a manufacturer model desc := by
  obtain ⟨q, hq, hmanufacturer, hmodel⟩ := h.device
  obtain rfl := Option.some.inj (hd.symm.trans hq)
  obtain ⟨d', hd', hmanufacturer', hmodel', -⟩ := Premises.identity_applied
    (o := Premises.occasion d desc a g.hostTime g.now) hg hd (g.catalog.handle? description) 0
    planned desc g.now
  exact ⟨⟨d', hd', hmanufacturer'.trans hmanufacturer, hmodel'.trans hmodel⟩, h.description⟩

theorem Knows.of_eq (h : g.Knows a manufacturer model desc)
    (hdevices : g'.registry.devices = g.registry.devices) (hcatalog : g'.catalog = g.catalog) :
    g'.Knows a manufacturer model desc := by
  obtain ⟨d, hd, hidentity⟩ := h.device
  refine ⟨⟨d, ?_, hidentity⟩, ?_⟩
  · rw [← hd, Registry.device?, hdevices, Registry.device?]
  · rw [hcatalog]
    exact h.description

theorem Knows.writeItem (h : g.Knows a manufacturer model desc) (id : ResourceId) (suffix : String)
    (v : Value) : (g.writeItem id suffix v).1.Knows a manufacturer model desc := by
  have hwritten := written_writeItem g id suffix v
  generalize g.writeItem id suffix v = result at hwritten ⊢
  cases hwritten with
  | refused => exact h
  | unsent r device plan =>
    obtain ⟨asked, heq, -⟩ := sendVendor_eq g r device plan
    exact h.of_eq (by rw [heq]) (by rw [heq])
  | direct _ _ htraffic => exact h.of_eq htraffic.devices htraffic.catalog
  | managed _ _ htraffic => exact h.of_eq htraffic.devices htraffic.catalog

theorem held?_of_byUniqueId? {u : UniqueId} (h : g.registry.Coherent)
    (hr : g.registry.byUniqueId? u = some r) (n : String) : g.held? r.id n = r.value? n := by
  have hresource := h.resource?_of_byUniqueId? hr
  rw [held?, hresource, Option.bind_some]

/-- In a coherent registry an item is recorded if the live resource with the unique id records it. -/
theorem isRecorded_of_byUniqueId? (h : g.registry.Coherent)
    (hr : g.registry.byUniqueId? w.uniqueId = some r) (hid : r.id = w.id)
    (hitem : r.item? w.name = some item) (hrecords : g.RecordsItem w item) : g.IsRecorded w := by
  obtain ⟨hlive, hunique⟩ := h.live?_of_byUniqueId? hr
  obtain ⟨hresource, hdeleted⟩ := live?_eq_some_iff.mp hlive
  refine ⟨fun id q hq hqdeleted hqunique => ?_, r.content, item.quiet, ?_, hdeleted, hunique, ?_,
    hrecords.type, hrecords.isStatic, hrecords.isFitted, hrecords.stored⟩
  · obtain ⟨q, hold, rfl⟩ := Option.map_eq_some_iff.mp hq
    rw [← hid]
    exact h.apart id r.id q r (live?_eq_some_iff.mpr ⟨hold, hqdeleted⟩) hlive
      (hqunique.trans hunique.symm)
  · rw [← hid, content?, hresource, Option.map_some]
  · rw [Resource.item?_content, hitem, Option.map_some]

/-- The live resource that records an item. -/
theorem IsRecorded.exists_byUniqueId? (h : g.IsRecorded w) (hg : g.registry.Coherent) :
    ∃ r item, g.registry.byUniqueId? w.uniqueId = some r ∧ r.id = w.id ∧
      r.item? w.name = some item ∧ g.RecordsItem w item := by
  obtain ⟨q, watched, hq, hdeleted, hunique, hwatched, hrecords⟩ := h.live
  obtain ⟨r, hr, rfl⟩ := Option.map_eq_some_iff.mp hq
  rw [Resource.item?_content] at hwatched
  obtain ⟨item, hitem, rfl⟩ := Option.map_eq_some_iff.mp hwatched
  have hid := id_of_resource? hr
  refine ⟨r, item, hg.byUniqueId?_eq_some_iff.mpr ⟨live?_eq_some_iff.mpr ⟨?_, hdeleted⟩, hunique⟩,
    hid, hitem, hrecords.type, hrecords.isStatic, hrecords.isFitted, hrecords.stored⟩
  rw [hid]
  exact hr

variable (desc description planned) in
theorem coherent_setUpWith (h : g.registry.Coherent) (hd : g.registry.device? a = some d) :
    (g.setUpWith a d desc description planned).registry.Coherent := by
  obtain ⟨hcoherent, -⟩ := Premises.isPart_setUpSubDevices
    (o := Premises.occasion d desc a g.hostTime g.now) h hd (g.catalog.handle? description) 0 planned
  exact hcoherent.keeps (keeps_modifyDevice _ a fun d => (address_finishDevice d _ _).2)

section SetUpWith

variable (description) (hg : g.registry.Coherent) (hd : g.registry.device? a = some d)
  (hdistinct : desc.IsDistinct a) (hplanned : Premises.planSubDevices a desc.subDevices = .ok planned)
  (hs : desc.subDevices[k]? = some s) (ht : t ∈ s.items) (hrecovered : t.IsRecovered)
include hg hd hdistinct hplanned hs ht hrecovered

/-- The item that a template sets up, where it is recovered by restarts. -/
theorem item_setUpWith : ∃ x r type handle, t.type? = some type ∧
    Premises.IsStart g.toPremises (Premises.occasion d desc a g.hostTime g.now) planned
      (.ofPattern s.addressing a) t.name x ∧
    (g.setUpWith a d desc description planned).registry.byUniqueId? (.ofPattern s.addressing a) =
      some r ∧
    (g.numbersWith a d desc description planned)[k]? = some r.id ∧
    r.item? t.name = some ((x.1.getD { suffix := t.name, type }).turn t handle x.2 g.now) ∧
    (g.setUpWith a d desc description planned).row? (.ofPattern s.addressing a) t.name = x.2 := by
  obtain ⟨type, htype⟩ := Option.isSome_iff_exists.mp hrecovered.typed
  obtain ⟨j, hj⟩ := List.mem_iff_getElem?.mp ht
  obtain ⟨x, r, hx, hr, hid, hitem, hrow⟩ := Premises.item_of_distinct
    (o := Premises.occasion d desc a g.hostTime g.now) hg hd (g.catalog.handle? description)
    hdistinct hplanned hs hj htype hrecovered.identity
  exact ⟨x, r, type, _, htype, hx, hr, hid, hitem, hrow⟩

/-- **A recorded item stays recorded** when its device is set up again. -/
theorem IsRecorded.setUpWith (h : g.IsRecorded w)
    (hunique : w.uniqueId = .ofPattern s.addressing a) (hname : w.name = t.name) :
    (g.setUpWith a d desc description planned).IsRecorded w := by
  obtain ⟨q, old, hq, hqid, hold, hrecords⟩ := h.exists_byUniqueId? hg
  obtain ⟨x, r, type, handle, -, hx, hr, -, hitem, hrow⟩ :=
    item_setUpWith description hg hd hdistinct hplanned hs ht hrecovered
  rw [← hunique, ← hname] at hx hrow
  rw [← hunique] at hr
  have hcoherent := coherent_setUpWith desc description planned hg hd
  have hpublished := published_setUpWith desc description planned hg hd
  have hx₁ : x.1 = some old := (hx.old q hq).trans hold
  have hrefit := Item.refit_turn old t handle x.2 g.now
  refine isRecorded_of_byUniqueId? hcoherent hr ?_ (by rw [hname]; exact hitem) ?_
  · -- The resource lasts, and it is the only live one with its unique id.
    obtain ⟨-, hextends, -⟩ := Premises.isPart_setUpSubDevices
      (o := Premises.occasion d desc a g.hostTime g.now) hg hd (g.catalog.handle? description) 0
      planned
    obtain ⟨hqlive, hqunique⟩ := hg.live?_of_byUniqueId? hq
    obtain ⟨q', hlive', hunique'⟩ := hextends.exists_live? hqlive
    obtain ⟨hrlive, hrunique⟩ := hcoherent.live?_of_byUniqueId? hr
    rw [← hqid]
    exact hcoherent.apart r.id q.id r q' hrlive hlive'
      (hrunique.trans (hunique'.trans hqunique).symm)
  · rw [hx₁, Option.getD_some]
    refine ⟨hrefit.type.trans hrecords.type, hrecovered.isStatic, hrefit.isFitted hrecords.isFitted,
      fun hannounced => ?_⟩
    unfold Announced at hannounced
    rw [hpublished] at hannounced
    obtain ⟨row, hrow', hvouches⟩ := hrecords.stored hannounced
    have hx₂ : x.2 = some row := hx.row.trans hrow'
    refine ⟨row, hrow.trans hx₂, fun htime => ?_⟩
    -- The row is restored into an item that holds its value.
    have hvalue := hvouches htime
    rw [hx₂]
    refine Item.value_turn hrecords.isStatic hrecovered.isStatic htime
      (hrecords.isFitted _ hvalue) (fun v hv _ => ?_) handle g.now
    exact Option.some.inj (hv.symm.trans hvalue)

/-- **An item of a new resource is recorded**, since nothing was announced of it. -/
theorem isRecorded_new (hnew : g.registry.byUniqueId? (.ofPattern s.addressing a) = none) :
    ∃ id type, t.type? = some type ∧
      (g.numbersWith a d desc description planned)[k]? = some id ∧
      (g.setUpWith a d desc description planned).IsRecorded
        { id, uniqueId := .ofPattern s.addressing a, name := t.name,
          type := partType t.name type,
          since := (g.setUpWith a d desc description planned).published.length } := by
  obtain ⟨x, r, type, handle, htype, hx, hr, hid, hitem, -⟩ :=
    item_setUpWith description hg hd hdistinct hplanned hs ht hrecovered
  refine ⟨r.id, type, htype, hid, isRecorded_of_byUniqueId?
    (coherent_setUpWith desc description planned hg hd) hr rfl hitem ?_⟩
  obtain ⟨s', kind, -, hx₁⟩ := hx.new hnew
  rw [hx₁]
  generalize hold : Option.getD (α := Item) _ { suffix := t.name, type } = old
  obtain ⟨hplain, -, hfitted, -⟩ := getD_newPart hold
  have hrefit := fun item => Item.refit_turn item t handle x.2 g.now
  refine ⟨(hrefit _).type.trans hplain, hrecovered.isStatic, (hrefit _).isFitted hfitted,
    fun hannounced => ?_⟩
  obtain ⟨e, hmem, -⟩ := hannounced
  rw [List.drop_length] at hmem
  cases hmem

/-- **A row is restored into the item of a new resource**, if its time can be read back. -/
theorem held?_setUpWith_new {type : DataType} {row : Row}
    (hnew : g.registry.byUniqueId? (.ofPattern s.addressing a) = none) (htype : t.type? = some type)
    (hrow : g.row? (.ofPattern s.addressing a) t.name = some row) :
    ∃ id, (g.numbersWith a d desc description planned)[k]? = some id ∧
      ((Instant.ofMillis? row.millis).isSome = true →
        (partType t.name type).coerce row.value = .ok row.value →
        (g.setUpWith a d desc description planned).held? id t.name = some row.value) := by
  obtain ⟨x, r, type', handle, htype', hx, hr, hid, hitem, -⟩ :=
    item_setUpWith description hg hd hdistinct hplanned hs ht hrecovered
  obtain rfl := Option.some.inj (htype.symm.trans htype')
  refine ⟨r.id, hid, fun htime hfits => ?_⟩
  rw [held?_of_byUniqueId? (coherent_setUpWith desc description planned hg hd) hr,
    Resource.value?, hitem, Option.bind_some, show x.2 = some row from hx.row.trans hrow]
  obtain ⟨s', kind, -, hx₁⟩ := hx.new hnew
  rw [hx₁]
  generalize hold : Option.getD (α := Item) _ { suffix := t.name, type } = old
  obtain ⟨hplain, hstatic, -, htext⟩ := getD_newPart hold
  refine Item.value_turn hstatic hrecovered.isStatic htime (hplain ▸ hfits) (fun v hv hsame => ?_)
    handle g.now
  obtain ⟨text, rfl⟩ := htext v hv
  exact Value.eq_of_sameAs_text hsame

end SetUpWith

/-! ### Daily life -/

/-- What holds of a watched item and its device between events. -/
structure IsWatched (g : Gateway) (a : ExtAddress) (manufacturer model : String)
    (desc : Description) (w : Watch) : Prop where
  coherent : g.registry.Coherent
  knows : g.Knows a manufacturer model desc
  recorded : g.IsRecorded w

section Daily

variable (hmanufacturer : manufacturer.isEmpty = false) (hmodel : model.isEmpty = false)
  (hdistinct : desc.IsDistinct a) (hplanned : Premises.planSubDevices a desc.subDevices = .ok planned)
  (hs : desc.subDevices[k]? = some s) (ht : t ∈ s.items) (hrecovered : t.IsRecovered)
  (hunique : w.uniqueId = .ofPattern s.addressing a) (hname : w.name = t.name)
include hmanufacturer hmodel hdistinct hplanned hs ht hrecovered hunique hname

/-- **Every event of daily life keeps a watched item recorded.** -/
theorem IsWatched.step (h : g.IsWatched a manufacturer model desc w) (he : e.IsDaily a) :
    (g.step e).IsWatched a manufacturer model desc w := by
  have hcoherent := coherent_step (e := e) h.coherent
  have hupdate : w.name ≠ Suffix.lastUpdated := hname ▸ hrecovered.update
  cases e with
  -- Only the device itself is set up again, and this is the case the description decides.
  | deviceSetUp address =>
    obtain rfl : address = a := he
    obtain ⟨d, description, hd, heq⟩ := h.knows.initDevice hmanufacturer hmodel hplanned
    refine ⟨hcoherent, ?_, ?_⟩
    · rw [Gateway.step, heq]
      exact h.knows.setUpWith description planned h.coherent hd
    · rw [Gateway.step, heq]
      exact h.recorded.setUpWith description h.coherent hd hdistinct hplanned hs ht hrecovered
        hunique hname
  | written id suffix v =>
    exact ⟨hcoherent, h.knows.writeItem id suffix v, h.recorded.writeItem id suffix v⟩
  | reported id suffix v =>
    -- Traffic leaves devices and catalog; the row follows the item as a report takes its value.
    have htraffic := traffic_report g id suffix v
    refine ⟨hcoherent, h.knows.of_eq htraffic.devices htraffic.catalog, ?_⟩
    rw [Gateway.step, report]
    split
    · exact h.recorded.applyReport hupdate ‹_›
    · exact h.recorded
  | received i =>
    have htraffic := traffic_handleIndication g i
    refine ⟨hcoherent, h.knows.of_eq htraffic.devices htraffic.catalog, ?_⟩
    -- The note that something was decoded comes before the report and touches no row.
    have hdecoded : (g.emit [.decoded i]).IsRecorded w :=
      h.recorded.beside (beside_emit g rfl)
    rw [Gateway.step, handleIndication]
    split
    · exact h.recorded
    · dsimp only
      split
      · exact hdecoded
      · split
        · exact hdecoded.applyReport hupdate ‹_›
        · exact hdecoded
  | ticked =>
    have hbeside := beside_tick g
    exact ⟨hcoherent, h.knows.of_eq hbeside.devices hbeside.catalog, h.recorded.beside hbeside⟩
  | outside change =>
    obtain ⟨hcatalog, hstorage, houtbox⟩ := he g
    exact ⟨hcoherent, h.knows.of_eq rfl hcatalog, h.recorded.of_eq (fun _ => rfl)
      (congrArg (List.filterMap Output.event?) houtbox)
      fun u n => congrArg (·.row? u n) hstorage⟩
  -- What follows is not daily.
  | deviceAdded => cases he
  | resourceAdded => cases he
  | resourceDeleted => cases he
  | deviceDeleted => cases he

theorem IsWatched.run (h : g.IsWatched a manufacturer model desc w) (events : List GatewayEvent)
    (hevents : ∀ e ∈ events, e.IsDaily a) :
    (g.run events).IsWatched a manufacturer model desc w := by
  induction events using List.reverseRecOn with
  | nil => exact h
  | append_singleton events e ih =>
    rw [run_concat]
    refine (ih fun e he => hevents e (List.mem_append_left _ he)).step hmanufacturer hmodel hdistinct
      hplanned hs ht hrecovered hunique hname (hevents e ?_)
    exact List.mem_append_right _ (List.mem_singleton_self e)

end Daily

/-! ### Restarting -/

/-- What becomes of a device that is set up: its identity is recalled, and it is known after that. -/
theorem initDevice_eq_setUpWith (hg : g.registry.Coherent) (h : g.initDevice a = (g', .ok ids))
    (hdesc : g.descriptionFor? a = some desc) :
    ∃ (recalled : Gateway) (d : Device) (description : Nat)
      (planned : List (SubDevice × ResourceKind × UniqueId)), recalled.registry.Coherent ∧
      (∀ u, recalled.registry.byUniqueId? u = g.registry.byUniqueId? u) ∧
      recalled.registry.device? a = some d ∧
      recalled.Knows a d.manufacturer d.modelId desc ∧
      Premises.planSubDevices a desc.subDevices = .ok planned ∧
      g' = recalled.setUpWith a d desc description planned ∧
      ids = recalled.numbersWith a d desc description planned := by
  obtain ⟨d₀, d, description, p, hd₀, hd, hfind, happly, rfl⟩ := initDevice_eq_ok h
  obtain ⟨desc', q, planned, hget, hq, hplanned, rfl, rfl⟩ :=
    Premises.applyDescription_eq_ok_iff.mp happly
  obtain rfl := Option.some.inj (hd.symm.trans hq)
  obtain rfl := Option.some.inj ((descriptionFor?_eq_some hd₀ hd hfind hget).symm.trans hdesc)
  refine ⟨_, d, description, planned, hg.keeps (g.keeps_recallIfUnknown a d₀).1, fun u => ?_, hd,
    ⟨⟨d, hd, rfl, rfl⟩, ?_⟩, hplanned, rfl, rfl⟩
  · rcases g.registry_recallIfUnknown a d₀ with heq | ⟨node, heq⟩
    · rw [heq]
    · rw [heq]
      rfl
  · rw [hfind, Option.bind_some, hget]

/-- The node of a new device has blank items for its identity. -/
theorem item?_node_new (a : ExtAddress) (created : Instant) {n : String}
    (hn : n ∈ Premises.identity) :
    (Device.new a created).node.item? n = some { suffix := n, type := .string } := by
  have hmissing := Resource.item?_new_of_mem .devices "Device" (.generate a 0 0) created hn
  unfold Premises.identity at hn
  simp only [List.mem_cons, List.not_mem_nil, or_false] at hn
  have hextAddress : ∀ item : Item, item.suffix = Suffix.extAddress →
      (if item.suffix = n then some item else none) = none := by
    intro item hitem
    refine if_neg fun h => ?_
    rw [hitem] at h
    rcases hn with rfl | rfl <;> exact absurd h (by decide)
  unfold Device.new
  dsimp only
  rw [List.foldl_cons, List.foldl_cons, List.foldl_cons, List.foldl_cons, List.foldl_nil,
    Resource.item?_addItem, Resource.item?_addItem, Resource.item?_addItem, Resource.item?_addItem,
    hmissing, hextAddress _ (Item.refit_setIfFits _ _ created).suffix]
  rcases hn with rfl | rfl <;> rfl

/-- The first device of a registry, with a node that was changed. -/
theorem device?_first (d : Device) (f : Resource → Resource) :
    ((Registry.pushDevice {} d).modifyNode d.address f).device? d.address =
      some { d with node := f { d.node with id := ⟨1⟩ } } := by
  simp [Registry.modifyNode, Registry.modifyDevice, Registry.pushDevice, Registry.device?]

/-- A device that is added to an empty registry is known by the manufacturer and the model that were
given. -/
theorem knows_addDevice (hstart : g.registry = {}) (hmanufacturer : manufacturer.isEmpty = false)
    (hmodel : model.isEmpty = false)
    (hdesc : (g.catalog.find? manufacturer model).bind g.catalog.get? = some desc) :
    (g.addDevice a manufacturer model).Knows a manufacturer model desc := by
  have hitem : ∀ n ∈ Premises.identity, (Device.new a g.hostTime).node.item? n =
      some { suffix := n, type := .string } := fun n hn => item?_node_new a g.hostTime hn
  have hadded := device?_first (Device.new a g.hostTime) fun node =>
    noteIdentity node manufacturer model g.now
  have hregistry : (g.addDevice a manufacturer model).registry =
      (Registry.pushDevice {} (Device.new a g.hostTime)).modifyNode a fun node =>
        noteIdentity node manufacturer model g.now := by
    unfold addDevice mapRegistry
    rw [hstart]
    rfl
  have haddress : (Device.new a g.hostTime).address = a := rfl
  rw [haddress, ← hregistry] at hadded
  generalize Device.new a g.hostTime = d at hitem hadded
  -- Both texts are non-empty, so both are noted.
  have hnode : ∀ node : Resource, noteIdentity node manufacturer model g.now =
      (node.setIfFits Suffix.manufacturerName (.text manufacturer) g.now).setIfFits Suffix.modelId
        (.text model) g.now := by
    intro node
    simp only [noteIdentity, List.foldl_cons, List.foldl_nil, hmanufacturer, hmodel,
      Bool.false_eq_true, if_false]
  have hnumbered : ∀ n ∈ Premises.identity, ({ d.node with id := ⟨1⟩ } : Resource).item? n =
      some { suffix := n, type := .string } := hitem
  refine ⟨⟨_, hadded, ?_, ?_⟩, hdesc⟩
  · rw [Device.manufacturer, Device.nodeText, hnode, Resource.item?_setIfFits,
      if_neg (by decide), Resource.item?_setIfFits, if_pos rfl, hnumbered _ (by decide)]
    rfl
  · rw [Device.modelId, Device.nodeText, hnode, Resource.item?_setIfFits, if_pos rfl,
      Resource.item?_setIfFits, if_neg (by decide), hnumbered _ (by decide)]
    rfl

/-- **A restart brings back what was announced.**  After any history let a device be set up by making
all its parts, and let daily life go on.  A fresh gateway with the same descriptions and the store that
was left sets the device up, once it is added with the same manufacturer and model.  Every recovered
item that an event was published for has a row then, and if the time of the row can be read back, the
item has the value that it had at the end. -/
theorem restart_recovers {history events : List GatewayEvent} (hstart : start.registry = {})
    (hinit : (start.run history).initDevice a = (g, .ok ids))
    (hdesc : (start.run history).descriptionFor? a = some desc) (hdistinct : desc.IsDistinct a)
    (hnew : ∀ s ∈ desc.subDevices,
      (start.run history).registry.byUniqueId? (.ofPattern s.addressing a) = none)
    (hd : g.registry.device? a = some d) (hmanufacturer : d.manufacturer.isEmpty = false)
    (hmodel : d.modelId.isEmpty = false) (hevents : ∀ e ∈ events, e.IsDaily a)
    (hfresh : fresh.registry = {})
    (hdescriptions : fresh.catalog.descriptions = g.catalog.descriptions)
    (hstorage : fresh.storage = (g.run events).storage) :
    ∃ g' ids', (fresh.addDevice a d.manufacturer d.modelId).initDevice a = (g', .ok ids') ∧
      ∀ (k : Nat) (s : SubDevice) (id : ResourceId) (t : ItemTemplate),
        desc.subDevices[k]? = some s → ids[k]? = some id → t ∈ s.items → t.IsRecovered →
        (g.run events).Announced g.published.length id t.name →
        ∃ id' row, ids'[k]? = some id' ∧
          (g.run events).row? (.ofPattern s.addressing a) t.name = some row ∧
          ((Instant.ofMillis? row.millis).isSome = true →
            g'.held? id' t.name = (g.run events).held? id t.name) := by
  obtain ⟨recalled, d₀, description, planned, hcoherent, hsame, hd₀, hknows, hplanned, rfl, rfl⟩ :=
    initDevice_eq_setUpWith (coherent_run hstart history) hinit hdesc
  -- The description is the one that is made for the device as it is added to the fresh gateway.
  have hset := hknows.setUpWith description planned hcoherent hd₀
  have hknown : (recalled.setUpWith a d₀ desc description planned).Knows a d.manufacturer d.modelId
      desc := by
    obtain ⟨d', hd', hmanufacturer', hmodel'⟩ := hset.device
    obtain rfl := Option.some.inj (hd.symm.trans hd')
    rw [hmanufacturer', hmodel']
    exact hset
  have hcoherent' := coherent_setUpWith desc description planned hcoherent hd₀
  -- The fresh gateway knows the device, and nothing of it is there.
  have hfound : (fresh.catalog.find? d.manufacturer d.modelId).bind fresh.catalog.get? =
      some desc := by
    have hdescription := hknown.description
    unfold Catalog.find? Catalog.get? at hdescription ⊢
    rw [hdescriptions]
    exact hdescription
  have hcoherent₁ : (fresh.addDevice a d.manufacturer d.modelId).registry.Coherent :=
    coherent_run hfresh [.deviceAdded a d.manufacturer d.modelId]
  have hnew₁ : ∀ u,
      (fresh.addDevice a d.manufacturer d.modelId).registry.byUniqueId? u = none := by
    intro u
    unfold addDevice mapRegistry
    rw [hfresh]
    rfl
  have hknows₁ := knows_addDevice (a := a) hfresh hmanufacturer hmodel hfound
  obtain ⟨d₁, description₁, hd₁, hinit₁⟩ := hknows₁.initDevice hmanufacturer hmodel hplanned
  refine ⟨_, _, hinit₁, fun k s id t hs hid ht hrecovered hannounced => ?_⟩
  -- The item was recorded when it was made, and daily life has kept it recorded.
  obtain ⟨id', type, htype, hid', hrecorded⟩ := isRecorded_new description hcoherent
    hd₀ hdistinct hplanned hs ht hrecovered
    ((hsame _).trans (hnew s (List.mem_of_getElem? hs)))
  obtain rfl := Option.some.inj (hid.symm.trans hid')
  have hwatched := IsWatched.run hmanufacturer hmodel hdistinct hplanned hs ht hrecovered rfl rfl
    ⟨hcoherent', hknown, hrecorded⟩ events hevents
  obtain ⟨r, item, hr, hrid, hitem, hrecords⟩ :=
    hwatched.recorded.exists_byUniqueId? hwatched.coherent
  obtain ⟨row, hrow, hvouches⟩ := hrecords.stored hannounced
  have hrow₁ : (fresh.addDevice a d.manufacturer d.modelId).row? (.ofPattern s.addressing a) t.name =
      some row := by
    rw [← hrow]
    exact congrArg (fun storage : Storage => storage.row? _ _) hstorage
  obtain ⟨id₁, hid₁, hheld₁⟩ := held?_setUpWith_new description₁ hcoherent₁ hd₁
    hdistinct hplanned hs ht hrecovered (hnew₁ _) htype hrow₁
  refine ⟨id₁, row, hid₁, hrow, fun htime => ?_⟩
  have hvalue := hvouches htime
  have hheld := held?_of_byUniqueId? hwatched.coherent hr t.name
  rw [hrid, Resource.value?, hitem, Option.bind_some, hvalue] at hheld
  have htyped : item.type = partType t.name type := hrecords.type
  rw [hheld₁ htime (htyped ▸ hrecords.isFitted _ hvalue)]
  exact hheld.symm

/-- A sensor of a temperature was set up. -/
def setUpThermometer : Gateway :=
  plainThermometer.run [.deviceAdded ⟨1⟩ "A" "m", .deviceSetUp ⟨1⟩]

/-- It has reported a temperature. -/
def measuredThermometer : Gateway :=
  setUpThermometer.run [.reported ⟨2⟩ Suffix.temperature (.int 2100)]

/-- The gateway was started anew, and the sensor was added and set up. -/
def restartedThermometer : Gateway :=
  { plainThermometer with storage := measuredThermometer.storage }.run
    [.deviceAdded ⟨1⟩ "A" "m", .deviceSetUp ⟨1⟩]

/-- A temperature that was reported is there after a restart. -/
theorem temperature_recovered :
    measuredThermometer.held? ⟨2⟩ Suffix.temperature = some (.int 2100) ∧
      restartedThermometer.held? ⟨2⟩ Suffix.temperature =
        measuredThermometer.held? ⟨2⟩ Suffix.temperature := by
  refine ⟨by decide +kernel, ?_⟩
  have hinit : (plainThermometer.run [.deviceAdded ⟨1⟩ "A" "m"]).initDevice ⟨1⟩ =
      (setUpThermometer, .ok [⟨2⟩]) := Prod.ext rfl (by decide +kernel)
  obtain ⟨d, hd⟩ : ∃ d, setUpThermometer.registry.device? ⟨1⟩ = some d :=
    Option.isSome_iff_exists.mp (by decide +kernel)
  have hidentity : (setUpThermometer.registry.device? ⟨1⟩).map
      (fun d => (d.manufacturer, d.modelId)) = some ("A", "m") := by decide +kernel
  rw [hd] at hidentity
  obtain ⟨hmanufacturer, hmodel⟩ := Prod.mk.inj (Option.some.inj hidentity)
  -- The general theorem is applied to the gateway that starts again with the rows alone.
  obtain ⟨g', ids', hset, hitems⟩ := @restart_recovers setUpThermometer plainThermometer
    { plainThermometer with storage := measuredThermometer.storage } ⟨1⟩
    (describing [temperaturePart]) d [⟨2⟩] [.deviceAdded ⟨1⟩ "A" "m"]
    [.reported ⟨2⟩ Suffix.temperature (.int 2100)] rfl hinit rfl
    ⟨by decide +kernel, by decide⟩ (by decide +kernel) hd (by rw [hmanufacturer]; rfl)
    (by rw [hmodel]; rfl) (by simp [GatewayEvent.IsDaily]) rfl rfl rfl
  obtain ⟨id', row, hid', hrow, hheld⟩ := hitems 0 temperaturePart ⟨2⟩
    { name := Suffix.temperature } rfl rfl List.mem_cons_self
    ⟨by decide, by decide, by decide, by decide⟩ (by unfold Announced; decide +kernel)
  rw [hmanufacturer, hmodel] at hset
  have hrestarted : restartedThermometer = g' := congrArg Prod.fst hset
  have hids : Except.ok ids' = Except.ok [⟨2⟩] :=
    (congrArg Prod.snd hset).symm.trans (by decide +kernel)
  obtain rfl := Except.ok.inj hids
  obtain rfl := Option.some.inj hid'
  have htime : (measuredThermometer.row? (.ofPattern temperaturePart.addressing ⟨1⟩)
      Suffix.temperature).any (fun row => (Instant.ofMillis? row.millis).isSome) = true := by
    decide +kernel
  rw [show measuredThermometer.row? _ _ = some row from hrow, Option.any_some] at htime
  rw [hrestarted]
  exact hheld htime

/-- A clock that shows the last leap second there may be. -/
def lastLeapSecond : Clock :=
  ⟨⟨8210266876799, 1000000000⟩⟩

/-- A sensor has reported a temperature in the last leap second. -/
def lateThermometer : Gateway :=
  { plainThermometer with clock := lastLeapSecond }.run
    [.deviceAdded ⟨1⟩ "A" "m", .deviceSetUp ⟨1⟩, .reported ⟨2⟩ Suffix.temperature (.int 2100)]

/-- The row of a temperature that was reported in the last leap second has a time that cannot be read
back, and so the temperature is lost. -/
theorem temperature_lost_after_leap_second :
    lateThermometer.Announced 0 ⟨2⟩ Suffix.temperature ∧
      lateThermometer.held? ⟨2⟩ Suffix.temperature = some (.int 2100) ∧
      ({ plainThermometer with storage := lateThermometer.storage }.run
        [.deviceAdded ⟨1⟩ "A" "m", .deviceSetUp ⟨1⟩]).held? ⟨2⟩ Suffix.temperature = none := by
  unfold Announced
  decide +kernel

end Gateway

end ZigbeeGateway
