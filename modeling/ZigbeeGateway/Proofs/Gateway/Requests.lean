import ZigbeeGateway.Proofs.Gateway.History
import ZigbeeGateway.Proofs.Gateway.Publishing
import ZigbeeGateway.Proofs.Resource.Tags
import ZigbeeGateway.Proofs.Storage

/-!
# Requests, deed by deed

Traffic says what a request does to resources.  The *deeds* of a request say how what it does becomes
known: an item of one resource is set and put back, and a changed value is always made known, which
stores the item and publishes it; beside that nothing is set, stored or published (`Deed`).

A write that is carried out is a run of deeds (`deeds_writeItem`), and so is all that a report brings
about once it was taken (`deeds_applyReport`).  Which items deeds may set is part of the relation:
what follows from a request are derived items only (`IsDerived`).
-/

namespace ZigbeeGateway

/-- Whether taking a report of an item refreshes the time of the last update on the side. -/
def Suffix.RefreshesUpdate (s : String) : Prop :=
  Suffix.category s = "state" ∧ s ≠ Suffix.lastUpdated

namespace Gateway

open Relation

variable {touched : String → Prop} {g g' g'' : Gateway} {id : ResourceId} {suffix : String}
  {v : Value} {r r' : Resource} {item : Item} {o : SetOutcome}

/-- The row of an item. -/
def row? (g : Gateway) (u : UniqueId) (n : String) : Option Row :=
  g.storage.row? u n

/-- The content of the resource with a number. -/
def content? (g : Gateway) (id : ResourceId) : Option Resource :=
  (g.registry.resource? id).map Resource.content

/-! ### What is set aside -/

/-- What a request leaves alone, whatever it sets: devices, descriptions and the time. -/
structure SameScene (g g' : Gateway) : Prop where
  devices : g'.registry.devices = g.registry.devices
  catalog : g'.catalog = g.catalog
  now : g'.now = g.now
  hostTime : g'.hostTime = g.hostTime

namespace SameScene

theorem refl (g : Gateway) : SameScene g g :=
  ⟨rfl, rfl, rfl, rfl⟩

theorem trans (h : SameScene g g') (h' : SameScene g' g'') : SameScene g g'' :=
  ⟨h'.devices.trans h.devices, h'.catalog.trans h.catalog, h'.now.trans h.now,
    h'.hostTime.trans h.hostTime⟩

end SameScene

/-- Nothing is set, stored or published. -/
structure Beside (g g' : Gateway) : Prop extends SameScene g g' where
  content : ∀ id, g'.content? id = g.content? id
  rows : ∀ u n, g'.row? u n = g.row? u n
  publishes : Publishes g g' []

namespace Beside

theorem refl (g : Gateway) : Beside g g :=
  ⟨.refl g, fun _ => rfl, fun _ _ => rfl, .refl g⟩

theorem trans (h : Beside g g') (h' : Beside g' g'') : Beside g g'' :=
  ⟨h.toSameScene.trans h'.toSameScene, fun id => (h'.content id).trans (h.content id),
    fun u n => (h'.rows u n).trans (h.rows u n), h.publishes.trans h'.publishes⟩

theorem published (h : Beside g g') : g'.published = g.published :=
  h.publishes.published.trans (List.append_nil _)

end Beside

theorem content?_modifyResource (g : Gateway) {f : Resource → Resource}
    (hf : ∀ r, (f r).content = r.content) (id id' : ResourceId) :
    (g.modifyResource id f).content? id' = g.content? id' := by
  refine g.registry.map_resource?_modifyResource Resource.content (fun r hr => ?_) hf id'
  exact (Resource.eq_of_content_eq Resource.id (fun _ => rfl) (hf r)).trans hr

theorem beside_modifyResource (g : Gateway) {f : Resource → Resource}
    (hf : ∀ r, (f r).content = r.content) (id : ResourceId) :
    Beside g (g.modifyResource id f) :=
  ⟨⟨rfl, rfl, rfl, rfl⟩, g.content?_modifyResource hf id, fun _ _ => rfl, .of_eq rfl rfl⟩

/-- What is no announcement may leave the gateway. -/
theorem beside_emit (g : Gateway) {outputs : List Output}
    (hsilent : outputs.filter Output.isAnnouncement = []) : Beside g (g.emit outputs) :=
  ⟨⟨rfl, rfl, rfl, rfl⟩, fun _ => rfl, fun _ _ => rfl, .of_outputs rfl rfl hsilent⟩

theorem beside_noteOverflow (g : Gateway) (overflows : Bool) :
    Beside g (g.noteOverflow overflows) :=
  ⟨⟨rfl, rfl, rfl, rfl⟩, fun _ => rfl, fun _ _ => rfl, .of_eq rfl rfl⟩

theorem beside_sendAll (g : Gateway) (requests : List TaskRequest) :
    Beside g (g.sendAll requests).1 := by
  rw [sendAll_eq]
  refine beside_emit g (List.filter_eq_nil_iff.mpr fun o ho => ?_)
  have hsending := isSending_sendings _ _ _ o ho
  cases o <;> first | exact Bool.false_ne_true | cases hsending

/-- A resource that is put back has its content, and all others keep theirs. -/
theorem content?_put (hr : g.registry.resource? id = some r) (hid : r'.id = id)
    (id' : ResourceId) :
    (g.modifyResource id fun _ => r').content? id' =
      if id' = id then some r'.content else g.content? id' :=
  Registry.map_resource?_put Resource.content hr hid id'

theorem content_dueRequests (r : Resource) (now : Instant) :
    (r.dueRequests now).1.content = r.content := by
  unfold Resource.dueRequests
  split_ifs
  · rfl
  · split <;> rfl

theorem beside_issuePending (g : Gateway) (id : ResourceId) : Beside g (g.issuePending id) := by
  unfold issuePending
  split
  · exact .refl g
  · rename_i r hr
    have hcontent := content_dueRequests r g.now
    have hid : (r.dueRequests g.now).1.id = id :=
      (Resource.eq_of_content_eq Resource.id (fun _ => rfl) hcontent).trans
        (Registry.id_of_resource? hr)
    have hput : Beside g (g.modifyResource id fun _ => (r.dueRequests g.now).1) := by
      refine ⟨⟨rfl, rfl, rfl, rfl⟩, fun id' => ?_, fun _ _ => rfl, .of_eq rfl rfl⟩
      rw [content?_put hr hid, hcontent]
      split_ifs with h
      · rw [h, content?, hr, Option.map_some]
      · rfl
    exact hput.trans (beside_sendAll _ _)

/-- **A tick sets, stores and publishes nothing.** -/
theorem beside_tick (g : Gateway) : Beside g g.tick.1 := by
  have hmoved : Beside g (g.mapRegistry fun registry =>
      { registry with resources := g.registry.resources.map fun r =>
          if r.deleted then r else (r.dueRequests g.now).1 }) := by
    have hcontent : ∀ r : Resource,
        (if r.deleted then r else (r.dueRequests g.now).1).content = r.content := by
      intro r
      split_ifs
      · rfl
      · exact content_dueRequests r g.now
    refine ⟨⟨rfl, rfl, rfl, rfl⟩, fun id => ?_, fun _ _ => rfl, .of_eq rfl rfl⟩
    show (Registry.resource? { g.registry with resources := _ } id).map _ = _
    rw [Registry.resource?_map g.registry fun r =>
      Resource.eq_of_content_eq Resource.id (fun _ => rfl) (hcontent r), Option.map_map]
    congr 1
    funext r
    exact hcontent r
  exact hmoved.trans (beside_sendAll _ _)

theorem beside_sendVendor (g : Gateway) (r : Resource) (device : Option Device)
    (plan : WritePlan) : Beside g (g.sendVendor r device plan).1 := by
  obtain ⟨asked, heq, hasked⟩ := sendVendor_eq g r device plan
  rw [heq]
  refine ⟨⟨rfl, rfl, rfl, rfl⟩, fun _ => rfl, fun _ _ => rfl, .of_outputs rfl rfl ?_⟩
  rcases hasked with rfl | ⟨pattern, rfl | ⟨task, rfl⟩⟩ <;> rfl

/-! ### Making an item known -/

/-- The event that says that an item of a resource was updated. -/
def update (r : Resource) (item : Item) (suffix : String) : Event :=
  { container := r.kind, suffix, resource := r.id, item := some item }

/-- The push mark of an item may be taken back, and clients told. -/
theorem beside_push (g : Gateway) (r : Resource) (item : Item) : Beside g (g.push r item) := by
  unfold push
  split_ifs
  · have hemit : Beside g (g.emit [.pushed (pushMessage r item.suffix)]) := beside_emit g rfl
    exact hemit.trans (beside_modifyResource _ (fun r => r.content_told item.suffix) r.id)
  · exact .refl g

/-- **Making an item known** stores it and publishes one event, and sets nothing. -/
structure Raises (g g' : Gateway) (r : Resource) (item : Item) (suffix : String) : Prop
    extends SameScene g g' where
  content : ∀ id, g'.content? id = g.content? id
  rows : ∀ u n, g'.row? u n = (g.storage.storeItem r.uniqueId item).row? u n
  publishes : Publishes g g' [update r item suffix]

theorem raises_raise (hr : g.registry.resource? id = some r) (hitem : r.item? suffix = some item) :
    Raises g (g.raise id suffix) r item suffix := by
  unfold raise
  rw [hr]
  dsimp only
  rw [hitem]
  dsimp only
  rw [← Registry.id_of_resource? hr]
  set stored : Gateway := { g with
    storage := g.storage.storeItem r.uniqueId item
    outbox := g.outbox ++ [.stored r.uniqueId suffix] } with hstored
  set marked := stored.modifyResource r.id fun r => { r with needsSave := true } with hmarked
  set scheduled := marked.scheduleSave r.kind g.config.saveDelayShort with hscheduled
  have hfirst : Beside stored marked :=
    beside_modifyResource stored (f := fun r => { r with needsSave := true }) (fun _ => rfl) r.id
  have hsecond : Beside marked scheduled :=
    ⟨⟨rfl, rfl, rfl, rfl⟩, fun _ => rfl, fun _ _ => rfl, .of_outputs rfl rfl rfl⟩
  have hbeside := (hfirst.trans hsecond).trans (beside_push scheduled r item)
  have hstoring : Publishes g stored [] := .of_outputs rfl rfl rfl
  -- Only the last step publishes.
  exact ⟨⟨hbeside.devices, hbeside.catalog, hbeside.now, hbeside.hostTime⟩, hbeside.content,
    hbeside.rows, (hstoring.trans hbeside.publishes).trans (publishes_publish _ _)⟩

/-! ### Putting a resource back -/

section PutBack

variable (hr : g.registry.resource? id = some r) (hframe : r'.frame = r.frame)
  (hitem : r'.item? suffix = some item)
include hr hframe

theorem resource?_put :
    (g.modifyResource id fun _ => r').registry.resource? id = some r' := by
  have hid : r'.id = id :=
    (Resource.id_of_frame_eq hframe).trans (Registry.id_of_resource? hr)
  have hlookup := g.registry.resource?_modifyResource (f := fun _ => r') (fun _ _ => hid) id
  rwa [if_pos rfl, hr, Option.map_some] at hlookup

include hitem

/-- A resource that is put back with an item made known is there with its content; the item is
stored and published exactly if it is made known. -/
theorem putBack_spec (known : Bool) :
    SameScene g (g.putBack id suffix r' known) ∧
      (∀ id', (g.putBack id suffix r' known).content? id' =
        if id' = id then some r'.content else g.content? id') ∧
      (∀ u n, (g.putBack id suffix r' known).row? u n =
        if known = true ∧ u = r.uniqueId ∧ n = suffix then (Row.ofItem? item).or (g.row? u n)
        else g.row? u n) ∧
      Publishes g (g.putBack id suffix r' known)
        (if known then [update r' item suffix] else []) := by
  have hunique := Resource.uniqueId_of_frame_eq hframe
  have hid : r'.id = id :=
    (Resource.id_of_frame_eq hframe).trans (Registry.id_of_resource? hr)
  unfold putBack
  -- What is not known is put back alone; what is known is stored and announced as well.
  cases known with
  | false =>
    rw [if_neg Bool.false_ne_true, if_neg Bool.false_ne_true]
    refine ⟨⟨rfl, rfl, rfl, rfl⟩, content?_put hr hid, fun u n => ?_, .of_eq rfl rfl⟩
    rw [if_neg fun h => Bool.false_ne_true h.1]
    rfl
  | true =>
    rw [if_pos rfl, if_pos rfl]
    have hraises := raises_raise (resource?_put hr hframe) hitem
    refine ⟨⟨hraises.devices, hraises.catalog, hraises.now, hraises.hostTime⟩, fun id' => ?_,
      fun u n => ?_, ?_⟩
    · rw [hraises.content, content?_put hr hid]
    · rw [hraises.rows, Storage.row?_storeItem, hunique, Resource.suffix_of_item? hitem]
      simp only [true_and]
      split_ifs with h
      · rw [h.1]
        rfl
      · rfl
    · have hput : Publishes g (g.modifyResource id fun _ => r') [] := .of_eq rfl rfl
      exact hput.trans hraises.publishes

end PutBack

/-! ### Deeds -/

/-- One deed of a request to a resource: an item that may be touched is set and put back, and made
known at least if its value changed; or nothing is set, stored or published. -/
inductive Deed (touched : String → Prop) (id : ResourceId) : Gateway → Gateway → Prop
  | set {g : Gateway} {r r' : Resource} {suffix : String} {v : Value} {o : SetOutcome}
      {known : Bool} (hsuffix : touched suffix) (hlive : g.registry.live? id = some r)
      (hset : r.setValue suffix v g.now = .ok (r', o))
      (hknown : o.isChanged = true → known = true) :
      Deed touched id g (g.putBack id suffix r' known)
  | beside {g g' : Gateway} (h : Beside g g') : Deed touched id g g'

/-- Deeds may touch more. -/
theorem Deed.mono {wider : String → Prop} (hwider : ∀ s, touched s → wider s)
    (h : Deed touched id g g') : Deed wider id g g' := by
  cases h with
  | set hsuffix hlive hset hknown => exact .set (hwider _ hsuffix) hlive hset hknown
  | beside h => exact .beside h

theorem deeds_mono {wider : String → Prop} (hwider : ∀ s, touched s → wider s)
    (h : ReflTransGen (Deed touched id) g g') : ReflTransGen (Deed wider id) g g' :=
  ReflTransGen.mono (fun _ _ hdeed => hdeed.mono hwider) _ _ h

theorem deed_applyValue {always : Bool} (hsuffix : touched suffix)
    (h : g.applyValue id suffix v always = .ok (g', o)) : Deed touched id g g' := by
  obtain ⟨r, r', hlive, hset, rfl⟩ := applyValue_cases h
  exact .set hsuffix hlive hset fun hchanged => by rw [hchanged, Bool.true_or]

/-- Runs of deeds survive all that follows from a request. -/
theorem isKept_deeds (id : ResourceId) :
    IsKept (ReflTransGen (Deed Suffix.IsDerived id)) id where
  refl _ := .refl
  trans h h' := h.trans h'
  set hs h := .single (deed_applyValue hs h)
  note g overflows := .single (.beside (beside_noteOverflow g overflows))

/-- What a write brings about sets derived items. -/
theorem deeds_applyEffect (g : Gateway) (id : ResourceId) (policy : WritePolicy)
    (previous : Option Value) (v : Value) :
    ReflTransGen (Deed Suffix.IsDerived id) g (g.applyEffect id policy previous v) :=
  (isKept_deeds id).applyEffect g policy previous v

/-! ### Writes and reports -/

theorem deeds_writeManaged {plan : WritePlan} {m : ManagedWrite} {answer : WriteOutcome}
    (htouched : touched plan.suffix) (h : (g.writeManaged id plan m).2 = .ok answer) :
    ReflTransGen (Deed touched id) g (g.writeManaged id plan m).1 := by
  unfold writeManaged at h ⊢
  dsimp only at h ⊢
  split at h
  · cases h
  · rename_i set o hset
    have hqueued : Beside g (g.modifyResource id fun r => r.addChange (g.changeFor id plan m)) :=
      beside_modifyResource g (fun r => r.content_addChange _) id
    exact ((ReflTransGen.single (.beside hqueued)).tail (deed_applyValue htouched hset)).tail
      (.beside (beside_issuePending set id))

theorem deeds_writeDirect {plan : WritePlan} {answer : WriteOutcome}
    (htouched : touched plan.suffix) (hderived : ∀ s, Suffix.IsDerived s → touched s)
    (h : (g.writeDirect id plan).2 = .ok answer) :
    ReflTransGen (Deed touched id) g (g.writeDirect id plan).1 := by
  unfold writeDirect at h ⊢
  split at h
  · cases h
  · rename_i set o hset
    exact .head (deed_applyValue htouched hset)
      (deeds_mono hderived (deeds_applyEffect set id _ _ _))

/-- **A write that is carried out is a run of deeds**, which set the written item and derived
items. -/
theorem deeds_writeItem {answer : WriteOutcome}
    (h : (g.writeItem id suffix v).2 = .ok answer) :
    ReflTransGen (Deed (fun s => s = suffix ∨ Suffix.IsDerived s) id) g
      (g.writeItem id suffix v).1 := by
  unfold writeItem at h ⊢
  split at h
  · cases h
  · rename_i r _
    dsimp only at h ⊢
    split at h
    · cases h
    · rename_i plan hmake
      obtain ⟨-, -, -, hsuffix, -⟩ := WritePlan.make_cases hmake
      split at h
      · exact deeds_writeManaged (.inl hsuffix) h
      · exact deeds_writeDirect (.inl hsuffix) (fun _ => .inr) h
      · -- A vendor has sent the write before it is carried out.
        have hasked := beside_sendVendor g r (g.registry.owner? id) plan
        split at h
        · rename_i sent hsent
          rw [hsent] at hasked
          exact .head (.beside hasked) (deeds_writeDirect (.inl hsuffix) (fun _ => .inr) h)
        · cases h

/-- Taking a report sets the item, and may refresh the time of the last update. -/
theorem takeReport_content {now : Instant} {confirmed : List StateChange}
    (h : takeReport r suffix v now = .ok (r', o, confirmed)) :
    ∃ q, r.setValue suffix v now = .ok (q, o) ∧
      (r'.content = q.content ∨
        Suffix.RefreshesUpdate suffix ∧ r'.content = (q.touch now).content) := by
  obtain ⟨q, hset, hheard⟩ := takeReport_cases h
  -- The pending changes are no content.
  have hcontent : r'.content = (noteUpdate q suffix now).content := by
    generalize noteUpdate q suffix now = noted at hheard ⊢
    rcases hheard with ⟨-, rfl, -⟩ | ⟨x, -, rfl, -⟩ <;> rfl
  refine ⟨q, hset, ?_⟩
  rw [hcontent, noteUpdate]
  split_ifs with htouch
  · simp only [Bool.and_eq_true, decide_eq_true_eq] at htouch
    exact .inr ⟨htouch, rfl⟩
  · exact .inl rfl

theorem sameShape_takeReport {now : Instant} {confirmed : List StateChange}
    (h : takeReport r suffix v now = .ok (r', o, confirmed)) : Resource.SameShape r r' := by
  have hrun : ReflTransGen (Resource.Traffic fun _ => True) r r' :=
    traffic_takeReport trivial (fun _ => trivial) h
  exact Resource.Traffic.sameShape_run hrun

/-- **A report is taken into the resource**, which is put back, and all that follows is a run of
deeds, which set derived items. -/
theorem deeds_applyReport (h : g.applyReport id suffix v = .ok (g', o)) :
    ∃ r r' confirmed, g.registry.live? id = some r ∧
      takeReport r suffix v g.now = .ok (r', o, confirmed) ∧
      ReflTransGen (Deed Suffix.IsDerived id) (g.putBack id suffix r' o.isChanged) g' := by
  obtain ⟨r, r', confirmed, hlive, htake, rfl⟩ := applyReport_cases h
  exact ⟨r, r', confirmed, hlive, htake, (isKept_deeds id).afterReport _ suffix confirmed⟩

end Gateway

end ZigbeeGateway
