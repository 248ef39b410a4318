import ZigbeeGateway.Proofs.Gateway.Atomicity
import ZigbeeGateway.Proofs.Gateway.Requests
import ZigbeeGateway.Proofs.Setup.Parts

/-!
# ETags of a gateway

At every point of a history the ETag of every sub-resource is the one of its revision and of what is
shown of it.  No event takes a revision back, and every event that shows something else raises it:
setting up refreshes the ETag at its end, and between that items are only set (`tends_step`).

Conversely a tick refreshes no ETag, and a write or a report refreshes one only if it sets a public
item, which shows in the stamp of that item (`etag_history`).
-/

namespace ZigbeeGateway

open Relation

/-! ### Parts -/

namespace Resource

variable {r : Resource}

theorem revision_addItem (r : Resource) (item : Item) : (r.addItem item).revision = r.revision := by
  unfold addItem
  split_ifs <;> rfl

theorem setUpItem_keeps (r : Resource) (t : ItemTemplate) (handle : Option TemplateHandle)
    (rows : List Row) (now : Instant) :
    (r.suffixes.Nodup → (r.setUpItem t handle rows now).suffixes.Nodup) ∧
      (r.setUpItem t handle rows now).revision = r.revision := by
  unfold setUpItem
  split
  · exact ⟨fun hr => hr, rfl⟩
  · refine ⟨fun hr => ?_, r.revision_addItem _⟩
    rw [suffixes_modifyItem]
    · exact nodup_addItem hr _
    · exact fun i hi => (Item.refit_setUp i t _ now).suffix.trans hi

theorem setUpItems_keeps (r : Resource) (handle? : Nat → Option TemplateHandle) (rows : List Row)
    (now : Instant) (position : Nat) (ts : List ItemTemplate) :
    (r.suffixes.Nodup → (r.setUpItems handle? rows now position ts).suffixes.Nodup) ∧
      (r.setUpItems handle? rows now position ts).revision = r.revision := by
  induction ts generalizing r position with
  | nil => exact ⟨fun hr => hr, rfl⟩
  | cons t ts ih =>
    obtain ⟨hdistinct, hrevision⟩ := r.setUpItem_keeps t (handle? position) rows now
    obtain ⟨hdistinct', hrevision'⟩ := ih (r.setUpItem t (handle? position) rows now) (position + 1)
    exact ⟨fun hr => hdistinct' (hdistinct hr), hrevision'.trans hrevision⟩

/-- **A part that is set up tracks**, since its ETag is refreshed in the end. -/
theorem tends_setUp (o : Premises.Occasion) (handle? : Nat → Option TemplateHandle) (s : SubDevice)
    (rows : List Row) (r : Resource) :
    Tends r (o.setUp handle? s rows r) ∧ (o.setUp handle? s rows r).IsTagged := by
  have hidentify : Tends r (o.identify r) :=
    (Tends.of_traffic (r.traffic_fillIdentity _ _ _)).trans
      (Tends.of_traffic (traffic_fillIdentity _ _ _ _))
  obtain ⟨hdistinct, hrevision⟩ := (o.identify r).setUpItems_keeps handle? rows o.now 0 s.items
  refine ⟨hidentify.trans ⟨fun _ _ hitem => ?_, hdistinct,
    fun _ => .refreshEtag (Nat.le_of_eq hrevision.symm)⟩, isTagged_refreshEtag _⟩
  exact item_of_moves (moves_setUpItems _ handle? rows o.now 0 s.items) hitem

/-- A new part has distinct names. -/
theorem nodup_newPart (kind : ResourceKind) (typeName : String) (u : UniqueId)
    (created : Instant) : (Registry.newPart kind typeName u created).suffixes.Nodup := by
  refine nodup_addItem (nodup_addItem ?_ _) _
  rw [suffixes_new]
  decide

/-- The resource has the items of the identity. -/
def HasIdentity (r : Resource) : Prop :=
  ∀ n ∈ Premises.identity, ∃ item, r.item? n = some item ∧ item.type = .string

theorem HasIdentity.tends {r' : Resource} (hr : r.HasIdentity) (h : Tends r r') :
    r'.HasIdentity := by
  intro n hn
  obtain ⟨item, hitem, htype⟩ := hr n hn
  obtain ⟨item', hitem', htype'⟩ := h.typed n item hitem
  exact ⟨item', hitem', htype'.trans htype⟩

theorem hasIdentity_newPart (kind : ResourceKind) (typeName : String) (u : UniqueId)
    (created : Instant) : (Registry.newPart kind typeName u created).HasIdentity :=
  fun _ hn => ⟨_, Registry.item?_newPart_of_mem hn, rfl⟩

/-! ### Stamps of parts -/

theorem isProper_blank (suffix : String) (type : DataType) :
    Item.IsProper { suffix, type } := by
  intro t ht
  cases ht

theorem IsProper.addItem (hr : r.IsProper) {item : Item} (hitem : item.IsProper) :
    (r.addItem item).IsProper := by
  intro s i hi
  rw [item?_addItem, Option.or_eq_some_iff] at hi
  rcases hi with hold | ⟨-, hnew⟩
  · exact hr s i hold
  · split_ifs at hnew
    exact Option.some.inj hnew ▸ hitem

theorem isProper_newPart (kind : ResourceKind) (typeName : String) (u : UniqueId)
    {created : Instant} (hcreated : created.IsProper) :
    (Registry.newPart kind typeName u created).IsProper := by
  refine IsProper.addItem (IsProper.addItem ?_ (isProper_blank _ _)) (isProper_blank _ _)
  intro s item hitem
  have hmem := List.mem_of_find?_eq_some hitem
  unfold Resource.new at hmem
  simp only [List.mem_cons, List.not_mem_nil, or_false] at hmem
  rcases hmem with rfl | rfl
  · split_ifs
    · exact isProper_blank _ _
    · exact (isProper_blank _ _).setIfFits hcreated _
  · exact (isProper_blank _ _).setIfFits hcreated _

theorem isProper_turns {n : String} {handle? : Nat → Option TemplateHandle} {row : Option Row}
    {now : Instant} (hnow : now.IsProper) (position : Nat) (ts : List ItemTemplate)
    {item : Option Item} (hitem : ∀ i, item = some i → i.IsProper) :
    ∀ i, Item.turns n handle? row now position ts item = some i → i.IsProper := by
  induction ts generalizing item position with
  | nil => exact hitem
  | cons t ts ih =>
    refine ih (position + 1) fun i hi => ?_
    split_ifs at hi
    · unfold Item.turn? at hi
      split at hi
      · exact hitem i hi
      · obtain rfl := Option.some.inj hi
        refine Item.IsProper.turn ?_ hnow t _ row
        cases item with
        | none => exact isProper_blank _ _
        | some i => exact hitem i rfl
    · exact hitem i hi

/-- **Setting a part up keeps stamps proper.** -/
theorem isProper_setUp {o : Premises.Occasion} (hnow : o.now.IsProper)
    (handle? : Nat → Option TemplateHandle) (s : SubDevice) (rows : List Row) (hr : r.IsProper) :
    (o.setUp handle? s rows r).IsProper := by
  intro n item hitem
  unfold Premises.Occasion.setUp at hitem
  rw [item?_refreshEtag, item?_setUpItems, o.item?_identify] at hitem
  refine isProper_turns hnow 0 s.items (fun i hi => ?_) item hitem
  obtain ⟨old, hold, rfl⟩ := Option.map_eq_some_iff.mp hi
  exact Premises.Occasion.isProper_fill (hr n old hold) hnow

end Resource

/-! ### Registries -/

namespace Registry

variable {g g' g'' : Registry}

/-- Every resource goes on with its items, with distinct names, and tracks, and a new one has the
items of the identity, distinct names and its own ETag. -/
abbrev Tends : Registry → Registry → Prop :=
  Develops Resource.Tends fun r' => r'.suffixes.Nodup ∧ r'.IsTagged ∧ r'.HasIdentity

theorem isCourse_tends : IsCourse Tends :=
  isCourse_develops .refl .trans fun ⟨hdistinct, htagged, hidentity⟩ htends =>
    ⟨htends.distinct hdistinct, (htends.tracks hdistinct).tagged htagged, hidentity.tends htends⟩

namespace Tends

theorem refl (g : Registry) : Tends g g :=
  isCourse_tends.refl g

theorem trans (h : Tends g g') (h' : Tends g' g'') : Tends g g'' :=
  isCourse_tends.trans h h'

theorem of_evolves {touched : String → Prop} (h : Evolves (Resource.Traffic touched) g g') :
    Tends g g' := by
  refine ⟨fun id r hr => ?_, fun id r' hnone hr' => ?_⟩
  · obtain ⟨r', hr', hrun⟩ := h.kept id r hr
    exact ⟨r', hr', .of_traffic hrun⟩
  · obtain ⟨r, hr, -⟩ := h.exists_resource?_of hr'
    rw [hnone] at hr
    cases hr

/-- The resource with one number may be exchanged for one of its content. -/
theorem modifyResource (g : Registry) (id : ResourceId) {f : Resource → Resource}
    (hid : ∀ r, (f r).id = r.id) (hf : ∀ r : Resource, r.Tends (f r)) :
    Tends g (g.modifyResource id f) := by
  have hlookup := g.resource?_modifyResource fun r (hr : r.id = id) => (hid r).trans hr
  refine ⟨fun id' r hr => ?_, fun id' r' hnone hr' => ?_⟩
  · rw [hlookup]
    split_ifs with h
    · subst h
      exact ⟨f r, by rw [hr, Option.map_some], hf r⟩
    · exact ⟨r, hr, .refl r⟩
  · rw [hlookup] at hr'
    split_ifs at hr' with h
    · subst h
      rw [hnone] at hr'
      cases hr'
    · rw [hnone] at hr'
      cases hr'

end Tends

theorem tends_deleteResource (g : Registry) (id : ResourceId) : Tends g (g.deleteResource id) := by
  apply Tends.modifyResource
  · intro r
    split_ifs <;> rfl
  · intro r
    split_ifs
    · exact .refl r
    · exact ⟨fun _ item hitem => ⟨item, hitem, rfl⟩, fun hr => hr, fun _ => .of_eq rfl rfl rfl⟩

theorem tends_deleteDevice (g : Registry) (a : ExtAddress) : Tends g (g.deleteDevice a) :=
  isCourse_tends.deleteDevice tends_deleteResource g a

end Registry

/-! ### Setting up devices -/

namespace Premises

variable {p : Premises} {o : Occasion}

theorem tends_setUpSubDevice (h : p.registry.Coherent) (handle? : Nat → Option TemplateHandle)
    (s : SubDevice) (kind : ResourceKind) (u : UniqueId) :
    Registry.Tends p.registry (p.setUpSubDevice o handle? s kind u).1.registry := by
  obtain ⟨-, hspec⟩ := setUpSubDevice_spec (o := o) h handle? s kind
  refine ⟨fun id r hr => ?_, fun id r' hnone hr' => ?_⟩
  · rw [hspec.resource]
    split_ifs with hid
    · -- The part was there, since its number was taken.
      rcases h.partFor_cases kind s.type u o.created with ⟨-, hpart⟩ | ⟨-, hpart⟩
      · rw [hid, hpart] at hr
        exact ⟨_, rfl, Option.some.inj hr ▸ (Resource.tends_setUp o handle? s _ _).1⟩
      · rw [hid, hpart] at hr
        cases hr
    · exact ⟨r, hr, .refl r⟩
  · rw [hspec.resource] at hr'
    split_ifs at hr' with hid
    · obtain rfl := Option.some.inj hr'
      rcases h.partFor_cases kind s.type u o.created with ⟨-, hpart⟩ | ⟨hnew, -⟩
      · rw [hid, hpart] at hnone
        cases hnone
      · obtain ⟨htends, htagged⟩ := Resource.tends_setUp o handle? s
          ((p.setUpSubDevice o handle? s kind u).1.storage.rowsOf u)
          (p.registry.partFor kind s.type u o.created)
        have hidentity := Resource.hasIdentity_newPart kind s.type u o.created
        refine ⟨htends.distinct ?_, htagged, Resource.HasIdentity.tends (fun n hn => ?_) htends⟩
        · rw [Registry.partFor_of_new hnew]
          exact Resource.nodup_newPart kind s.type u o.created
        · rw [Registry.partFor_of_new hnew]
          exact hidentity n hn
    · rw [hnone] at hr'
      cases hr'

end Premises

namespace Gateway

variable {touched : String → Prop} {g g' g'' start : Gateway} {id : ResourceId} {suffix : String}
  {v : Value} {r r' : Resource} {o : SetOutcome} {e : GatewayEvent}

theorem tends_initDevice (h : g.registry.Coherent) (a : ExtAddress) :
    Registry.Tends g.registry (g.initDevice a).1.registry :=
  rel_initDevice Registry.isCourse_tends g a fun d _ _ _ _ _ _ _ happly =>
    Premises.rel_applyDescription Registry.isCourse_tends
      (fun _ _ _ _ handle? s kind _ h => Premises.tends_setUpSubDevice h handle? s kind _)
      (h.keeps (g.keeps_recallIfUnknown a d).1) happly

theorem tends_writeItem (g : Gateway) (id : ResourceId) (suffix : String) (v : Value) :
    Registry.Tends g.registry (g.writeItem id suffix v).1.registry := by
  have hwritten := written_writeItem g id suffix v
  generalize g.writeItem id suffix v = result at hwritten ⊢
  cases hwritten with
  | refused => exact .refl _
  | unsent r device plan => exact registry_sendVendor g r device plan ▸ .refl _
  | direct _ _ htraffic => exact .of_evolves htraffic.resources
  | @managed g' r item plan m _ _ htraffic =>
    refine Registry.Tends.trans ?_ (.of_evolves htraffic.resources)
    apply Registry.Tends.modifyResource
    · exact fun r => Resource.eq_of_content_eq Resource.id (fun _ => rfl) (r.content_addChange _)
    · exact fun r => .of_content_eq (r.content_addChange _)

/-- What may happen to a gateway whose sub-resources are all made by setting up devices, while the
surroundings show proper times. -/
def IsOperation : GatewayEvent → Prop
  | .resourceAdded .. => False
  | .outside change => ∀ g : Gateway, g.now.IsProper ∧ g.hostTime.IsProper →
      (change g).now.IsProper ∧ (change g).hostTime.IsProper
  | _ => True

/-- **Every operation keeps the resources tagged.** -/
theorem tends_step (h : g.registry.Coherent) (he : IsOperation e) :
    Registry.Tends g.registry (g.step e).registry := by
  cases e with
  | deviceAdded address manufacturer model =>
    apply Registry.isCourse_tends.of_resources_eq
    rw [step]
    unfold addDevice mapRegistry Registry.ensureDevice
    dsimp only
    split_ifs <;> rfl
  | deviceSetUp address => exact tends_initDevice h address
  | resourceAdded => cases he
  | written id suffix v => exact g.tends_writeItem id suffix v
  | reported id suffix v => exact .of_evolves (traffic_report g id suffix v).resources
  | received indication => exact .of_evolves (traffic_handleIndication g indication).resources
  | ticked => exact .of_evolves (@traffic_tick (fun _ => False) g).resources
  | resourceDeleted id => exact g.registry.tends_deleteResource id
  | deviceDeleted address => exact g.registry.tends_deleteDevice address
  | outside change => exact .refl _

/-! ### Stamps of a gateway -/

/-- The clocks show proper times, and so do all stamps. -/
structure IsTimely (g : Gateway) : Prop where
  now : g.now.IsProper
  hostTime : g.hostTime.IsProper
  resources : ∀ id r, g.registry.resource? id = some r → r.IsProper

/-- Each resource is there with a later state, as the stamps tell. -/
def Dates (g g' : Gateway) : Prop :=
  ∀ id r, g.registry.resource? id = some r →
    ∃ r', g'.registry.resource? id = some r' ∧ r.Dates r'

theorem Dates.trans (h : Dates g g') (h' : Dates g' g'') : Dates g g'' := by
  intro id r hr
  obtain ⟨r', hr', hdates⟩ := h id r hr
  obtain ⟨r'', hr'', hdates'⟩ := h' id r' hr'
  exact ⟨r'', hr'', hdates.trans hdates'⟩

/-- What happens to contents decides about the stamps. -/
theorem IsTimely.of_content (h : g.IsTimely) (hscene : SameScene g g')
    (hkept : ∀ id r, g.registry.resource? id = some r →
      ∃ q : Resource, g'.content? id = some q.content ∧ q.IsProper ∧ r.Dates q)
    (hnone : ∀ id, g.content? id = none → g'.content? id = none) :
    g'.IsTimely ∧ Dates g g' := by
  refine ⟨⟨hscene.now ▸ h.now, hscene.hostTime ▸ h.hostTime, fun id r' hr' => ?_⟩,
    fun id r hr => ?_⟩
  · cases hr : g.registry.resource? id with
    | none =>
      have hgone := hnone id (by rw [content?, hr, Option.map_none])
      rw [content?, hr'] at hgone
      cases hgone
    | some r =>
      obtain ⟨q, hq, hproper, -⟩ := hkept id r hr
      rw [content?, hr', Option.map_some] at hq
      exact hproper.of_content_eq (Option.some.inj hq)
  · obtain ⟨q, hq, -, hdates⟩ := hkept id r hr
    obtain ⟨r', hr', hcontent⟩ := Option.map_eq_some_iff.mp hq
    exact ⟨r', hr', hdates.trans (.of_content_eq hcontent)⟩

theorem IsTimely.beside (h : g.IsTimely) (hbeside : Beside g g') :
    g'.IsTimely ∧ Dates g g' := by
  refine h.of_content hbeside.toSameScene (fun id r hr => ⟨r, ?_, h.resources id r hr,
    .of_content_eq rfl⟩) fun id hid => (hbeside.content id).trans hid
  rw [hbeside.content, content?, hr, Option.map_some]

theorem IsTimely.putBack {item : Item} (h : g.IsTimely) (hr : g.registry.resource? id = some r)
    (hframe : r'.frame = r.frame) (hitem : r'.item? suffix = some item) (hproper : r'.IsProper)
    (hdates : r.Dates r') (known : Bool) :
    (g.putBack id suffix r' known).IsTimely ∧ Dates g (g.putBack id suffix r' known) := by
  obtain ⟨hscene, hcontent, -⟩ := putBack_spec hr hframe hitem known
  refine h.of_content hscene (fun id' q hq => ?_) fun id' hid' => ?_
  · rw [hcontent]
    split_ifs with hid
    · rw [hid, hr] at hq
      exact ⟨r', rfl, hproper, Option.some.inj hq ▸ hdates⟩
    · exact ⟨q, by rw [content?, hq, Option.map_some], h.resources id' q hq, .of_content_eq rfl⟩
  · rw [hcontent]
    split_ifs with hid
    · rw [hid, content?, hr] at hid'
      cases hid'
    · exact hid'

/-- **A deed keeps stamps proper, and refreshes an ETag only with the stamp of a public item.** -/
theorem IsTimely.deed (h : g.IsTimely) (hdeed : Deed touched id g g') :
    g'.IsTimely ∧ Dates g g' := by
  cases hdeed with
  | beside hbeside => exact h.beside hbeside
  | @set r r' suffix v o known _ hlive hset =>
    have hr := (Registry.live?_eq_some_iff.mp hlive).1
    have hproper := h.resources id r hr
    obtain ⟨item, item', -, -, hitems⟩ := Resource.item?_setValue hset
    exact h.putBack hr (Resource.sameShape_setValue hset).frame (by rw [hitems, if_pos rfl])
      (hproper.setValue h.now hset) (hproper.dates_setValue hset) known

theorem IsTimely.deeds (h : g.IsTimely) (hdeeds : ReflTransGen (Deed touched id) g g') :
    g'.IsTimely ∧ Dates g g' := by
  induction hdeeds with
  | refl => exact ⟨h, fun id r hr => ⟨r, hr, .of_content_eq rfl⟩⟩
  | tail _ hdeed ih =>
    obtain ⟨htimely, hdates⟩ := ih.1.deed hdeed
    exact ⟨htimely, ih.2.trans hdates⟩

theorem IsTimely.applyReport (h : g.IsTimely) (hok : g.applyReport id suffix v = .ok (g', o)) :
    g'.IsTimely ∧ Dates g g' := by
  obtain ⟨r, r', confirmed, hlive, htake, hdeeds⟩ := deeds_applyReport hok
  have hr := (Registry.live?_eq_some_iff.mp hlive).1
  have hproper := h.resources id r hr
  obtain ⟨q, hset, hcontent⟩ := takeReport_content htake
  have hproper' := hproper.setValue h.now hset
  have hshape := sameShape_takeReport htake
  obtain ⟨item, -, hitem, -⟩ := Resource.item?_setValue hset
  obtain ⟨item', hitem', -⟩ := hshape.exists_item? hitem
  -- The item is set first, and the time of the last update may be set after it.
  have htaken : r'.IsProper ∧ r.Dates r' := by
    rcases hcontent with hcontent | ⟨-, hcontent⟩
    · exact ⟨hproper'.of_content_eq hcontent,
        (hproper.dates_setValue hset).trans (.of_content_eq hcontent)⟩
    · exact ⟨(hproper'.setIfFits h.now _ _).of_content_eq hcontent,
        ((hproper.dates_setValue hset).trans (hproper'.dates_setIfFits _ _ _)).trans
          (.of_content_eq hcontent)⟩
  obtain ⟨htimely, hdates⟩ := h.putBack hr hshape.frame hitem' htaken.1 htaken.2 o.isChanged
  obtain ⟨htimely', hdates'⟩ := htimely.deeds hdeeds
  exact ⟨htimely', hdates.trans hdates'⟩

theorem IsTimely.writeItem (h : g.IsTimely) (id : ResourceId) (suffix : String) (v : Value) :
    (g.writeItem id suffix v).1.IsTimely ∧ Dates g (g.writeItem id suffix v).1 := by
  cases hanswer : (g.writeItem id suffix v).2 with
  | ok answer => exact h.deeds (deeds_writeItem hanswer)
  | error e =>
    obtain ⟨vendors, asked, heq, -⟩ := onlyAskedVendor_writeItem hanswer
    rw [heq]
    exact ⟨⟨h.now, h.hostTime, h.resources⟩, fun id r hr => ⟨r, hr, .of_content_eq rfl⟩⟩

theorem IsTimely.report (h : g.IsTimely) (id : ResourceId) (suffix : String) (v : Value) :
    (g.report id suffix v).1.IsTimely ∧ Dates g (g.report id suffix v).1 := by
  unfold Gateway.report
  split
  · exact h.applyReport ‹_›
  · exact ⟨h, fun id r hr => ⟨r, hr, .of_content_eq rfl⟩⟩

/-- A refused report leaves the gateway as it was. -/
theorem report_of_error {e : Error} (h : (g.report id suffix v).2 = .error e) :
    (g.report id suffix v).1 = g := by
  unfold Gateway.report at h ⊢
  split at h
  · cases h
  · rfl

theorem IsTimely.recallIfUnknown (h : g.IsTimely) (a : ExtAddress) (d : Device) :
    (g.recallIfUnknown a d).IsTimely := by
  rcases g.recallIfUnknown_eq a d with heq | ⟨node, heq⟩
  · rw [heq]
    exact h
  · rw [heq]
    exact ⟨h.now, h.hostTime, h.resources⟩

/-- A part is made at the time of the host and set up at the time of the clock. -/
theorem IsTimely.initDevice (h : g.IsTimely) (hcoherent : g.registry.Coherent) (a : ExtAddress) :
    (g.initDevice a).1.IsTimely := by
  generalize hinit : g.initDevice a = result
  obtain ⟨g', answer⟩ := result
  cases answer with
  | error e =>
    rcases initDevice_eq_error hinit with rfl | ⟨node, rfl⟩
    · exact h
    · exact ⟨h.now, h.hostTime, h.resources⟩
  | ok ids =>
    obtain ⟨d, d', description, p, hd, hd', -, happly, rfl⟩ := initDevice_eq_ok hinit
    obtain ⟨hnow, hhost, hresources⟩ := h.recallIfUnknown a d
    obtain ⟨desc, q, planned, -, hq, -, rfl, -⟩ := Premises.applyDescription_eq_ok_iff.mp happly
    refine ⟨hnow, hhost, ?_⟩
    refine Premises.rel_setUpSubDevices
      (P := fun p p' => (∀ id r, p.registry.resource? id = some r → r.IsProper) →
        ∀ id r, p'.registry.resource? id = some r → r.IsProper)
      (fun _ h => h) (fun _ _ _ h h' hp => h' (h hp)) (fun p handle? s kind u hcoherent hp => ?_)
      (hcoherent.keeps (g.keeps_recallIfUnknown a d).1) hq _ 0 planned hresources
    obtain ⟨-, hspec⟩ := Premises.setUpSubDevice_spec
      (o := Premises.occasion q desc a (g.recallIfUnknown a d).hostTime (g.recallIfUnknown a d).now)
      hcoherent handle? s kind (u := u)
    intro id r hr
    rw [hspec.resource] at hr
    split_ifs at hr
    · obtain rfl := Option.some.inj hr
      refine Resource.isProper_setUp hnow handle? s _ ?_
      -- The part was there with proper stamps, or it is new.
      rcases hcoherent.partFor_cases kind s.type u (g.recallIfUnknown a d).hostTime with
        ⟨-, hpart⟩ | ⟨hnew, -⟩
      · exact hp _ _ hpart
      · rw [Registry.partFor_of_new hnew]
        exact Resource.isProper_newPart kind s.type u hhost
    · exact hp id r hr

theorem IsTimely.received (h : g.IsTimely) (i : Indication) : (g.handleIndication i).1.IsTimely := by
  have hdecoded : (g.emit [.decoded i]).IsTimely := ⟨h.now, h.hostTime, h.resources⟩
  unfold handleIndication
  split
  · exact h
  · dsimp only
    split
    · exact hdecoded
    · split
      · exact (hdecoded.applyReport ‹_›).1
      · exact hdecoded

theorem isProper_deleteResource {g : Registry}
    (hg : ∀ id r, g.resource? id = some r → r.IsProper) (id : ResourceId) :
    ∀ id' r, (g.deleteResource id).resource? id' = some r → r.IsProper := by
  intro id' r hr
  unfold Registry.deleteResource at hr
  rw [g.resource?_modifyResource] at hr
  · split_ifs at hr
    · obtain ⟨q, hq, rfl⟩ := Option.map_eq_some_iff.mp hr
      have hproper := hg id q hq
      split_ifs
      · exact hproper
      · exact hproper
    · exact hg id' r hr
  · intro r hr
    split_ifs <;> exact hr

/-- **Every operation leaves proper times.** -/
theorem IsTimely.step (h : g.IsTimely) (hcoherent : g.registry.Coherent) (he : IsOperation e) :
    (g.step e).IsTimely := by
  cases e with
  | deviceAdded address manufacturer model =>
    refine ⟨h.now, h.hostTime, fun id r hr => h.resources id r ?_⟩
    rw [← hr, Gateway.step]
    unfold addDevice mapRegistry Registry.ensureDevice
    dsimp only
    split_ifs <;> rfl
  | deviceSetUp address => exact h.initDevice hcoherent address
  | resourceAdded => cases he
  | written id suffix v => exact (h.writeItem id suffix v).1
  | reported id suffix v => exact (h.report id suffix v).1
  | received indication => exact h.received indication
  | ticked => exact (h.beside g.beside_tick).1
  | resourceDeleted id => exact ⟨h.now, h.hostTime, isProper_deleteResource h.resources id⟩
  | deviceDeleted address =>
    refine ⟨h.now, h.hostTime, ?_⟩
    exact Registry.rel_deleteDevice
      (P := fun g g' => (∀ id r, g.resource? id = some r → r.IsProper) →
        ∀ id r, g'.resource? id = some r → r.IsProper)
      (fun _ h => h) (fun _ _ _ h h' hp => h' (h hp)) (fun _ _ h => h)
      (fun _ id h => isProper_deleteResource h id) g.registry address h.resources
  | outside change =>
    obtain ⟨hnow, hhost⟩ := he g ⟨h.now, h.hostTime⟩
    exact ⟨hnow, hhost, h.resources⟩

/-! ### Histories -/

/-- What holds between operations: the registry is coherent, times are proper, and every sub-resource
has distinct names, its own ETag and the items of the identity. -/
structure IsTended (g : Gateway) : Prop where
  coherent : g.registry.Coherent
  timely : g.IsTimely
  distinct : ∀ id r, g.registry.resource? id = some r → r.suffixes.Nodup
  tagged : ∀ id r, g.registry.resource? id = some r → r.IsTagged
  identity : ∀ id r, g.registry.resource? id = some r → r.HasIdentity

theorem IsTended.step (h : g.IsTended) (he : IsOperation e) : (g.step e).IsTended := by
  have htends := tends_step h.coherent he
  have hresources : ∀ id r', (g.step e).registry.resource? id = some r' →
      r'.suffixes.Nodup ∧ r'.IsTagged ∧ r'.HasIdentity := by
    intro id r' hr'
    cases hr : g.registry.resource? id with
    | none => exact htends.created id r' hr hr'
    | some r =>
      obtain ⟨q, hq, hrq⟩ := htends.kept id r hr
      obtain rfl := Option.some.inj (hr'.symm.trans hq)
      have hdistinct := h.distinct id r hr
      exact ⟨hrq.distinct hdistinct, (hrq.tracks hdistinct).tagged (h.tagged id r hr),
        (h.identity id r hr).tends hrq⟩
  exact ⟨coherent_step h.coherent, h.timely.step h.coherent he,
    fun id r hr => (hresources id r hr).1, fun id r hr => (hresources id r hr).2.1,
    fun id r hr => (hresources id r hr).2.2⟩

theorem isTended_run (hstart : start.registry = {}) (hnow : start.now.IsProper)
    (hhost : start.hostTime.IsProper) (history : List GatewayEvent)
    (hhistory : ∀ e ∈ history, IsOperation e) : (start.run history).IsTended := by
  induction history using List.reverseRecOn with
  | nil =>
    have hnone : ∀ id, start.registry.resource? id = none := fun id => by rw [hstart]; rfl
    refine ⟨coherent_run hstart [], ⟨hnow, hhost, ?_⟩, ?_, ?_, ?_⟩ <;>
    · intro id r hr
      rw [run, List.foldl_nil, hnone id] at hr
      cases hr
  | append_singleton history e ih =>
    rw [run_concat]
    exact (ih fun e he => hhistory e (List.mem_append_left _ he)).step
      (hhistory e (List.mem_append_right _ (List.mem_singleton_self e)))

/-- **ETags at every point of a history** of operations that begins with an empty registry.  Every
sub-resource has the ETag of its revision and of what is shown of it.  No operation loses it or takes
its revision back, and one that shows something else of it raises the revision.  Ticks leave revision
and ETag alone, and so does a write or a report that is refused or after which every public item has
the stamp that it had. -/
theorem etag_history (hstart : start.registry = {}) (hnow : start.now.IsProper)
    (hhost : start.hostTime.IsProper) (history : List GatewayEvent)
    (hhistory : ∀ e ∈ history, IsOperation e) :
    let g := start.run history
    ∀ id r, g.registry.resource? id = some r → r.etag = r.computeEtag ∧
      (∀ e, IsOperation e → ∃ r', (g.step e).registry.resource? id = some r' ∧
        r.revision ≤ r'.revision ∧ (r'.shown ≠ r.shown → r.revision < r'.revision)) ∧
      (∃ r', g.tick.1.registry.resource? id = some r' ∧
        r'.revision = r.revision ∧ r'.etag = r.etag) ∧
      ∀ id' suffix v,
        (∃ r', (g.writeItem id' suffix v).1.registry.resource? id = some r' ∧
          ((∃ e, (g.writeItem id' suffix v).2 = .error e) ∨
              (∀ s, r.shows s = true → r'.stamp? s = r.stamp? s) →
            r'.revision = r.revision ∧ r'.etag = r.etag)) ∧
        ∃ r', (g.report id' suffix v).1.registry.resource? id = some r' ∧
          ((∃ e, (g.report id' suffix v).2 = .error e) ∨
              (∀ s, r.shows s = true → r'.stamp? s = r.stamp? s) →
            r'.revision = r.revision ∧ r'.etag = r.etag) := by
  intro g id r hr
  have htended : g.IsTended := isTended_run hstart hnow hhost history hhistory
  refine ⟨htended.tagged id r hr, fun e he => ?_, ?_, fun id' suffix v => ⟨?_, ?_⟩⟩
  · obtain ⟨r', hr', htends⟩ := (tends_step htended.coherent he).kept id r hr
    have htracks := htends.tracks (htended.distinct id r hr)
    exact ⟨r', hr', htracks.revision, htracks.shown⟩
  · have hcontent := g.beside_tick.content id
    rw [content?, content?, hr, Option.map_some] at hcontent
    obtain ⟨r', hr', heq⟩ := Option.map_eq_some_iff.mp hcontent
    exact ⟨r', hr', Resource.eq_of_content_eq Resource.revision (fun _ => rfl) heq,
      Resource.eq_of_content_eq Resource.etag (fun _ => rfl) heq⟩
  · obtain ⟨r', hr', hdates⟩ := (htended.timely.writeItem id' suffix v).2 id r hr
    refine ⟨r', hr', ?_⟩
    rintro (⟨e, hrefused⟩ | hstamps)
    · obtain ⟨vendors, asked, heq, -⟩ := onlyAskedVendor_writeItem hrefused
      rw [heq, hr] at hr'
      exact Option.some.inj hr' ▸ ⟨rfl, rfl⟩
    · exact hdates.tag_of_stamps hstamps
  · obtain ⟨r', hr', hdates⟩ := (htended.timely.report id' suffix v).2 id r hr
    refine ⟨r', hr', ?_⟩
    rintro (⟨e, hrefused⟩ | hstamps)
    · rw [report_of_error hrefused, hr] at hr'
      exact Option.some.inj hr' ▸ ⟨rfl, rfl⟩
    · exact hdates.tag_of_stamps hstamps

/-- A device is added and set up. -/
def joined : List GatewayEvent :=
  [.deviceAdded ⟨1⟩ "A" "m", .deviceSetUp ⟨1⟩]

/-- The device reports a temperature after that. -/
def joinedAndMeasured : List GatewayEvent :=
  joined ++ [.reported ⟨2⟩ Suffix.temperature (.int 2100)]

/-- A report of a temperature shows something else and so raises the revision; a tick after it leaves
the revision and the ETag. -/
theorem etag_of_measurement :
    ∃ r r' r'', (plainThermometer.run joined).registry.resource? ⟨2⟩ = some r ∧
      (plainThermometer.run joinedAndMeasured).registry.resource? ⟨2⟩ = some r' ∧
      (plainThermometer.run joinedAndMeasured).tick.1.registry.resource? ⟨2⟩ = some r'' ∧
      r.etag = r.computeEtag ∧ r.revision < r'.revision ∧ r'.etag = r'.computeEtag ∧
      r''.revision = r'.revision ∧ r''.etag = r'.etag := by
  have hoperations : ∀ e ∈ joined, IsOperation e := by
    simp [joined, IsOperation]
  have hlonger : ∀ e ∈ joinedAndMeasured, IsOperation e := by
    simp [joinedAndMeasured, joined, IsOperation]
  obtain ⟨r, hr⟩ : ∃ r, (plainThermometer.run joined).registry.resource? ⟨2⟩ = some r :=
    Option.isSome_iff_exists.mp (by decide +kernel)
  -- The measurement is shown, so the revision is raised.
  have hshown : ((plainThermometer.run joinedAndMeasured).registry.resource? ⟨2⟩).map
      Resource.shown ≠ ((plainThermometer.run joined).registry.resource? ⟨2⟩).map
      Resource.shown := by
    decide +kernel
  obtain ⟨htagged, hsteps, -⟩ :=
    @etag_history plainThermometer rfl (by decide) (by decide) joined hoperations ⟨2⟩ r hr
  obtain ⟨r', hr', -, hraised⟩ := hsteps (.reported ⟨2⟩ Suffix.temperature (.int 2100)) trivial
  rw [← run_concat] at hr'
  obtain ⟨htagged', -, ⟨r'', htick, hrevision, hetag⟩, -⟩ :=
    @etag_history plainThermometer rfl (by decide) (by decide) joinedAndMeasured hlonger ⟨2⟩ r' hr'
  refine ⟨r, r', r'', hr, hr', htick, htagged, hraised fun h => hshown ?_, htagged', hrevision,
    hetag⟩
  rw [hr, joinedAndMeasured, hr', Option.map_some, Option.map_some, h]

end Gateway

end ZigbeeGateway
