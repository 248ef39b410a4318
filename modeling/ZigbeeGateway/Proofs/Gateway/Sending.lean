import ZigbeeGateway.Proofs.Gateway.Confirmations
import ZigbeeGateway.Proofs.Gateway.Links
import ZigbeeGateway.Proofs.Resource.Due

/-!
# What is sent, and for whom

Tasks are asked for at two places only: when a managed write is sent and when a tick moves pending
changes on.  All else that is done to a resource stays with this resource and asks for no task.  It is
*confined*, and so is a write, together with the requests that it brings about (`Confined`).

`requests_step` says of every event that it asks for tasks of live resources only.
-/

namespace ZigbeeGateway

open Relation

/-- The tasks that were asked for, the oldest first. -/
def Premises.requests (p : Premises) : List TaskRequest :=
  p.outbox.filterMap Output.request?

/-! ### Setting up -/

namespace Premises

theorem requests_storeItem (p : Premises) (r : Resource) (suffix : String) :
    (p.storeItem r suffix).requests = p.requests := by
  unfold storeItem
  split
  · rfl
  · simp [requests, Output.request?]

theorem requests_setUpSubDevice (p : Premises) (o : Occasion)
    (handle? : Nat → Option TemplateHandle) (s : SubDevice) (kind : ResourceKind)
    (uniqueId : UniqueId) :
    (p.setUpSubDevice o handle? s kind uniqueId).1.requests = p.requests := by
  unfold setUpSubDevice
  split
  extract_lets linked named q
  have hlinked : q.requests = p.requests := by
    simp [q, requests, storeLink, Output.request?]
  split
  · exact hlinked
  · rename_i r _
    extract_lets stored rows
    exact ((requests_storeItem _ r _).trans (requests_storeItem q r _)).trans hlinked

theorem requests_setUpSubDevices (p : Premises) (o : Occasion)
    (handle? : Nat → Nat → Option TemplateHandle) (position : Nat)
    (planned : List (SubDevice × ResourceKind × UniqueId)) :
    (p.setUpSubDevices o handle? position planned).1.requests = p.requests := by
  induction planned generalizing p position with
  | nil => rfl
  | cons entry planned ih =>
    obtain ⟨s, kind, u⟩ := entry
    rw [setUpSubDevices_cons, ih]
    exact p.requests_setUpSubDevice o (handle? position) s kind u

/-- **Setting a device up asks for no task.** -/
theorem requests_setUpDevice (p : Premises) (catalog : Catalog) (address : ExtAddress)
    (description : Nat) (created now : Instant) :
    (p.setUpDevice catalog address description created now).1.requests = p.requests := by
  rw [setUpDevice_eq]
  split
  · rfl
  · rfl
  · split
    · rfl
    · exact requests_setUpSubDevices _ _ _ _ _

end Premises

namespace Gateway

variable {g g' g'' : Gateway} {id : ResourceId} {suffix : String} {v : Value} {r r' : Resource}
  {item : Item} {o : SetOutcome} {new new' : List TaskRequest} {start : Gateway} {e : GatewayEvent}

theorem requests_recallIfUnknown (g : Gateway) (a : ExtAddress) (d : Device) :
    (g.recallIfUnknown a d).requests = g.requests := by
  unfold recallIfUnknown
  split_ifs
  · split
    · rename_i p recalled hrecall
      unfold Premises.recallDevice at hrecall
      split at hrecall
      · cases hrecall
      · obtain ⟨rfl, -⟩ := Prod.mk.inj (Except.ok.inj hrecall)
        rfl
    · rfl
  · rfl

theorem requests_initDevice (g : Gateway) (a : ExtAddress) :
    (g.initDevice a).1.requests = g.requests := by
  unfold initDevice
  split
  · rfl
  · rename_i d _
    have hrecalled := g.requests_recallIfUnknown a d
    dsimp only
    split
    · exact hrecalled
    · split
      · exact hrecalled
      · rename_i description _
        have hset := (g.recallIfUnknown a d).toPremises.requests_setUpDevice
          (g.recallIfUnknown a d).catalog a description (g.recallIfUnknown a d).hostTime
          (g.recallIfUnknown a d).now
        split <;> rename_i p _ heq <;> rw [heq] at hset
        · exact hset.trans hrecalled
        · refine Eq.trans ?_ (hset.trans hrecalled)
          simp [scheduleSave, Premises.requests, Output.request?]

/-! ### Confined to one resource -/

/-- Nothing happens to any other resource, and these tasks are asked for. -/
structure Confined (id : ResourceId) (new : List TaskRequest) (g g' : Gateway) : Prop where
  others : ∀ id', id' ≠ id → g'.registry.resource? id' = g.registry.resource? id'
  requests : g'.requests = g.requests ++ new

namespace Confined

theorem refl (id : ResourceId) (g : Gateway) : Confined id [] g g :=
  ⟨fun _ _ => rfl, (List.append_nil _).symm⟩

theorem trans (h : Confined id new g g') (h' : Confined id new' g' g'') :
    Confined id (new ++ new') g g'' :=
  ⟨fun id' hid => (h'.others id' hid).trans (h.others id' hid),
    by rw [h'.requests, h.requests, List.append_assoc]⟩

/-- What does not concern the registry. -/
theorem of_registry_eq (hregistry : g'.registry = g.registry)
    (hrequests : g'.requests = g.requests ++ new) : Confined id new g g' :=
  ⟨fun _ _ => by rw [hregistry], hrequests⟩

end Confined

theorem confined_modifyResource (g : Gateway) {f : Resource → Resource}
    (hf : ∀ r, r.id = id → (f r).id = id) : Confined id [] g (g.modifyResource id f) := by
  refine ⟨fun id' hid => ?_, (List.append_nil _).symm⟩
  exact (g.registry.resource?_modifyResource hf id').trans (if_neg hid)

theorem requests_publish (g : Gateway) (e : Event) : (g.publish e).requests = g.requests := by
  unfold publish Premises.requests emit
  split
  rename_i bus notices _
  dsimp only
  rw [List.filterMap_append]
  refine (congrArg _ ?_).trans (List.append_nil _)
  rw [List.filterMap_eq_nil_iff]
  intro output houtput
  -- An event is published, and the same event is delivered.
  rcases List.mem_cons.mp houtput with rfl | hdelivered
  · rfl
  · obtain ⟨notice, -, hnotice⟩ := List.mem_filterMap.mp hdelivered
    cases notice <;> cases hnotice
    rfl

theorem confined_push (g : Gateway) (r : Resource) (item : Item) :
    Confined r.id [] g (g.push r item) := by
  unfold push
  split_ifs
  · have hemit : Confined r.id [] g (g.emit [.pushed (pushMessage r item.suffix)]) :=
      .of_registry_eq rfl (by simp [Premises.requests, emit, Output.request?])
    exact hemit.trans (confined_modifyResource _ fun _ h => h)
  · exact .refl r.id g

/-- **Making an item known** is confined to its resource. -/
theorem confined_raise (g : Gateway) (id : ResourceId) (suffix : String) :
    Confined id [] g (g.raise id suffix) := by
  unfold raise
  split
  · exact .refl id g
  · rename_i r hr
    obtain rfl := Registry.id_of_resource? hr
    split
    · exact .refl r.id g
    · rename_i item _
      extract_lets stored marked scheduled pushed
      -- Four steps before the event is published, and none of them makes a request.
      have hstored : Confined r.id [] g stored :=
        .of_registry_eq rfl (by simp [stored, Premises.requests, Output.request?])
      have hmarked : Confined r.id [] stored marked :=
        confined_modifyResource stored (f := fun r => { r with needsSave := true }) fun _ h => h
      have hscheduled : Confined r.id [] marked scheduled :=
        .of_registry_eq rfl (by simp [scheduled, scheduleSave, Premises.requests, Output.request?])
      have hpushed : Confined r.id [] scheduled pushed := confined_push scheduled r item
      refine (((hstored.trans hmarked).trans hscheduled).trans hpushed).trans
        (.of_registry_eq rfl ?_)
      rw [requests_publish, List.append_nil]

theorem confined_putBack (g : Gateway) (hid : r'.id = id) (suffix : String) (known : Bool) :
    Confined id [] g (g.putBack id suffix r' known) := by
  have hput : Confined id [] g (g.modifyResource id fun _ => r') :=
    confined_modifyResource g fun _ _ => hid
  unfold putBack
  split_ifs
  · exact hput.trans (confined_raise _ id suffix)
  · exact hput

theorem confined_applyValue {always : Bool} (h : g.applyValue id suffix v always = .ok (g', o)) :
    Confined id [] g g' := by
  obtain ⟨r, r', hlive, hset, rfl⟩ := applyValue_cases h
  refine confined_putBack g ?_ suffix _
  rw [Resource.id_of_frame_eq (Resource.sameShape_setValue hset).frame,
    Registry.id_of_resource? (Registry.live?_eq_some_iff.mp hlive).1]

/-- What follows from a request is confined to its resource. -/
theorem isKept_confined (id : ResourceId) : IsKept (Confined id []) id where
  refl g := .refl id g
  trans h h' := h.trans h'
  set _ h := confined_applyValue h
  note _ _ := .of_registry_eq rfl (List.append_nil _).symm

/-- **Taking a report** is confined to its resource. -/
theorem confined_applyReport (h : g.applyReport id suffix v = .ok (g', o)) :
    Confined id [] g g' := by
  obtain ⟨r, r', confirmed, hlive, htake, rfl⟩ := applyReport_cases h
  have hid : r'.id = id := by
    rw [Resource.id_of_frame_eq (sameShape_takeReport htake).frame,
      Registry.id_of_resource? (Registry.live?_eq_some_iff.mp hlive).1]
  exact (confined_putBack g hid suffix o.isChanged).trans
    ((isKept_confined id).afterReport _ suffix confirmed)

/-! ### Sending -/

theorem requests_sendAll (g : Gateway) (requests : List TaskRequest) :
    (g.sendAll requests).1.requests = g.requests ++ requests := by
  rw [sendAll_eq]
  dsimp only [Premises.requests, emit]
  rw [List.filterMap_append, requests_sendings]

theorem registry_sendAll (g : Gateway) (requests : List TaskRequest) :
    (g.sendAll requests).1.registry = g.registry := by
  rw [sendAll_eq]
  rfl

theorem confined_sendAll (g : Gateway) (id : ResourceId) (requests : List TaskRequest) :
    Confined id requests g (g.sendAll requests).1 :=
  .of_registry_eq (g.registry_sendAll requests) (g.requests_sendAll requests)

theorem frame_dueRequests (r : Resource) (now : Instant) : (r.dueRequests now).1.frame = r.frame :=
  (Resource.Traffic.sameShape_run (@traffic_dueRequests (fun _ => True) r now)).frame

/-- **Sending what is due** of one resource is confined to it. -/
theorem confined_issuePending (hr : g.registry.resource? id = some r) :
    Confined id (r.dueRequests g.now).2 g (g.issuePending id) := by
  have hid : (r.dueRequests g.now).1.id = id :=
    (Resource.id_of_frame_eq (frame_dueRequests r g.now)).trans (Registry.id_of_resource? hr)
  have hput : Confined id [] g (g.modifyResource id fun _ => (r.dueRequests g.now).1) :=
    confined_modifyResource g fun _ _ => hid
  unfold issuePending
  rw [hr]
  exact hput.trans (confined_sendAll _ id _)

theorem live?_issuePending (hlive : g.registry.live? id = some r) :
    (g.issuePending id).registry.live? id = some (r.dueRequests g.now).1 := by
  obtain ⟨hr, hdeleted⟩ := Registry.live?_eq_some_iff.mp hlive
  have hframe := frame_dueRequests r g.now
  unfold issuePending
  rw [hr]
  dsimp only
  rw [Registry.live?_eq_some_iff, registry_sendAll]
  exact ⟨resource?_put hr hframe, (Resource.deleted_of_frame_eq hframe).trans hdeleted⟩

/-- A vendor is asked for no task. -/
theorem requests_sendVendor (g : Gateway) (r : Resource) (device : Option Device)
    (plan : WritePlan) : (g.sendVendor r device plan).1.requests = g.requests := by
  obtain ⟨asked, heq, hasked⟩ := sendVendor_eq g r device plan
  rw [heq]
  rcases hasked with rfl | ⟨pattern, rfl | ⟨task, rfl⟩⟩ <;>
    simp [Premises.requests, Output.request?]

/-! ### Writes -/

/-- The resource that is written, once its change was queued and its item was set. -/
theorem exists_resource?_applyValue {c : StateChange} {always : Bool}
    (hlive : g.registry.live? id = some r)
    (h : (g.queue id c).applyValue id suffix v always = .ok (g', o)) :
    ∃ r', g'.registry.live? id = some r' ∧ r'.changes = (r.addChange c).changes ∧ r'.id = r.id ∧
      r'.uniqueId = r.uniqueId ∧ g'.now = g.now := by
  have hqueued := live?_queue hlive c
  obtain ⟨r₁, r₂, hlive₁, hset, rfl⟩ := applyValue_cases h
  obtain rfl := Option.some.inj (hlive₁.symm.trans hqueued)
  obtain ⟨hr₁, hdeleted⟩ := Registry.live?_eq_some_iff.mp hlive₁
  have hframe := (Resource.sameShape_setValue hset).frame
  obtain ⟨-, item, -, -, hitems⟩ := Resource.item?_setValue hset
  obtain ⟨hscene, hcontent, -⟩ := putBack_spec hr₁ hframe ((hitems suffix).trans (if_pos rfl))
    (o.isChanged || (always && o.isAccepted))
  have hchanges := changes?_putBack hr₁ hframe suffix (o.isChanged || (always && o.isAccepted)) id
  have hthere := hcontent id
  rw [if_pos rfl] at hchanges hthere
  obtain ⟨r', hr', hsame⟩ := Option.map_eq_some_iff.mp hthere
  rw [changes?, hr', Option.map_some, Option.some_inj, Resource.changes_setValue hset] at hchanges
  -- The content tells all but the changes.
  have hframe' := hframe.trans (Resource.sameShape_addChange r c).frame
  refine ⟨r', Registry.live?_eq_some_iff.mpr ⟨hr', ?_⟩, hchanges, ?_, ?_, hscene.now⟩
  · rw [Resource.eq_of_content_eq Resource.deleted (fun _ => rfl) hsame,
      Resource.deleted_of_frame_eq hframe, hdeleted]
  · rw [Resource.eq_of_content_eq Resource.id (fun _ => rfl) hsame,
      Resource.id_of_frame_eq hframe']
  · rw [Resource.eq_of_content_eq Resource.uniqueId (fun _ => rfl) hsame,
      Resource.uniqueId_of_frame_eq hframe']

/-- **A managed write, step by step**: its change is queued, the item is set, and what is due is
sent. -/
theorem exists_writeManaged {plan : WritePlan} {m : ManagedWrite} {answer : WriteOutcome}
    (hlive : g.registry.live? id = some r) (h : (g.writeManaged id plan m).2 = .ok answer) :
    ∃ r' : Resource, r'.changes = (r.addChange (g.changeFor id plan m)).changes ∧ r'.id = r.id ∧
      r'.uniqueId = r.uniqueId ∧
      Confined id (r'.dueRequests g.now).2 g (g.writeManaged id plan m).1 ∧
      (g.writeManaged id plan m).1.registry.live? id = some (r'.dueRequests g.now).1 := by
  unfold writeManaged at h ⊢
  dsimp only at h ⊢
  split at h
  · cases h
  · rename_i set o hset
    obtain ⟨r', hlive', hchanges, hid, hunique, hnow⟩ := exists_resource?_applyValue hlive hset
    have hqueued : Confined id [] g (g.queue id (g.changeFor id plan m)) :=
      confined_modifyResource g fun r hr =>
        (Resource.id_of_frame_eq (Resource.sameShape_addChange r _).frame).trans hr
    have hsent := confined_issuePending (Registry.live?_eq_some_iff.mp hlive').1
    have hleft := live?_issuePending hlive'
    rw [hnow] at hsent hleft
    exact ⟨r', hchanges, hid, hunique, (hqueued.trans (confined_applyValue hset)).trans hsent, hleft⟩

/-- A direct write is confined, and asks for no task. -/
theorem confined_writeDirect (g : Gateway) (id : ResourceId) (plan : WritePlan) :
    Confined id [] g (g.writeDirect id plan).1 := by
  unfold writeDirect
  split
  · exact .refl id g
  · rename_i set o hset
    exact (confined_applyValue hset).trans ((isKept_confined id).applyEffect set _ _ _)

/-- **A write is confined** to its resource, with all tasks that it asks for. -/
theorem confined_writeItem (hlive : g.registry.live? id = some r) (howns : r.OwnsChanges)
    (hdistinct : r.HasDistinctTargets) (suffix : String) (v : Value) :
    ∃ new, Confined id new g (g.writeItem id suffix v).1 ∧ ∀ q ∈ new, q.resource = id := by
  have hrid := Registry.id_of_resource? (Registry.live?_eq_some_iff.mp hlive).1
  cases hmake : WritePlan.make r (g.registry.owner? id) g.catalog suffix v with
  | error e =>
    refine ⟨[], ?_, List.forall_mem_nil _⟩
    unfold writeItem
    rw [hlive]
    dsimp only
    rw [hmake]
    exact .refl id g
  | ok plan =>
    obtain ⟨item, h⟩ := exists_planned hlive hmake
    rw [h.writeItem_eq]
    split
    · rename_i m _
      obtain ⟨g', hpending, -⟩ := writeManaged_eq_pending hlive (h.names ▸ h.found) h.fitted m
      obtain ⟨r', hchanges, hid, -, hconfined, -⟩ :=
        exists_writeManaged hlive (congrArg Prod.snd hpending)
      refine ⟨_, hconfined, fun q hq => ?_⟩
      -- The change that is queued names the resource, like all others.
      have howns' : r'.OwnsChanges := by
        have hqueued := howns.addChange hdistinct (c := g.changeFor id plan m)
          (List.nodup_singleton _) hrid.symm
        refine hqueued.carry_eq ?_ hchanges
        rw [hid, Resource.id_of_frame_eq (Resource.sameShape_addChange r _).frame]
      rw [howns'.resource_of_due hq, hid, hrid]
    · exact ⟨[], confined_writeDirect g id plan, List.forall_mem_nil _⟩
    · have hasked : Confined id [] g (g.sendVendor r (g.registry.owner? id) plan).1 :=
        .of_registry_eq (registry_sendVendor g r _ plan)
          ((requests_sendVendor g r _ plan).trans (List.append_nil _).symm)
      refine ⟨[], ?_, List.forall_mem_nil _⟩
      split <;> rename_i sent hsent <;> rw [hsent] at hasked
      · exact hasked.trans (confined_writeDirect sent id plan)
      · exact hasked

/-! ### Histories -/

theorem ownsChanges_of_grows (h : Registry.Grows g.registry g'.registry)
    (howns : ∀ id r, g.registry.resource? id = some r → r.OwnsChanges) :
    ∀ id r, g'.registry.resource? id = some r → r.OwnsChanges :=
  h.forall_resource? (fun _ hnew => .of_isNew hnew) (fun _ _ hr hmoves => hr.move hmoves) howns

/-- **Every event leaves changes with the resource that they name.** -/
theorem ownsChanges_step (hsound : ∀ id r, g.registry.resource? id = some r → r.Sound)
    (howns : ∀ id r, g.registry.resource? id = some r → r.OwnsChanges) :
    ∀ id r, (g.step e).registry.resource? id = some r → r.OwnsChanges := by
  by_cases hwritten : ∃ id suffix v, e = .written id suffix v
  · obtain ⟨id, suffix, v, rfl⟩ := hwritten
    have hwritten := written_writeItem g id suffix v
    rw [step]
    generalize g.writeItem id suffix v = result at hwritten ⊢
    cases hwritten with
    | refused => exact howns
    | unsent r device plan => exact registry_sendVendor g r device plan ▸ howns
    | direct _ _ htraffic => exact ownsChanges_of_grows htraffic.grows howns
    | managed _ _ htraffic =>
      refine ownsChanges_of_grows htraffic.grows (forall_resource?_queue howns fun r hr => ?_)
      exact (howns id r hr).addChange (hsound id r hr).distinct (List.nodup_singleton _)
        (Registry.id_of_resource? hr).symm
  · exact ownsChanges_of_grows
      (grows_step fun id suffix v he => hwritten ⟨id, suffix, v, he⟩) howns

/-- What every gateway that begins with nothing keeps to: numbers and links are coherent, resources are
sound, and pending changes name the resource that holds them. -/
structure Regular (g : Gateway) : Prop where
  coherent : g.registry.Coherent
  sound : ∀ id r, g.registry.resource? id = some r → r.Sound
  owns : ∀ id r, g.registry.resource? id = some r → r.OwnsChanges

theorem Regular.step (h : g.Regular) (e : GatewayEvent) : (g.step e).Regular :=
  ⟨coherent_step h.coherent, sound_step h.sound, ownsChanges_step h.sound h.owns⟩

/-- **Every history that begins with nothing leaves the gateway regular.** -/
theorem regular_run (hstart : start.registry = {}) (events : List GatewayEvent) :
    (start.run events).Regular := by
  induction events using List.reverseRecOn with
  | nil =>
    have hnone : ∀ id r, start.registry.resource? id ≠ some r := by
      intro id r hr
      rw [hstart] at hr
      cases hr
    exact ⟨coherent_run hstart [], fun id r hr => absurd hr (hnone id r),
      fun id r hr => absurd hr (hnone id r)⟩
  | append_singleton events e ih =>
    rw [run_concat]
    exact ih.step e

theorem requests_tick (g : Gateway) :
    g.tick.1.requests = g.requests ++ g.registry.live.flatMap fun r => (r.dueRequests g.now).2 :=
  requests_sendAll _ _

theorem requests_report (g : Gateway) (id : ResourceId) (suffix : String) (v : Value) :
    (g.report id suffix v).1.requests = g.requests := by
  unfold report
  split
  · rename_i happly
    exact (confined_applyReport happly).requests.trans (List.append_nil _)
  · rfl

theorem requests_handleIndication (g : Gateway) (i : Indication) :
    (g.handleIndication i).1.requests = g.requests := by
  have hemit : (g.emit [.decoded i]).requests = g.requests := by
    simp [Premises.requests, emit, Output.request?]
  unfold handleIndication
  split
  · rfl
  · dsimp only
    split
    · exact hemit
    · split
      · rename_i happly
        exact (confined_applyReport happly).requests.trans ((List.append_nil _).trans hemit)
      · exact hemit

/-- **Tasks are asked for live resources only**, whatever happens to the gateway. -/
theorem requests_step (h : g.Regular) (hinside : ∀ change, e ≠ .outside change) :
    ∃ new, (g.step e).requests = g.requests ++ new ∧
      ∀ q ∈ new, ∃ r, g.registry.live? q.resource = some r := by
  -- An event that sends nothing makes the empty list of requests.
  have hnone : (g.step e).requests = g.requests →
      ∃ new, (g.step e).requests = g.requests ++ new ∧
        ∀ q ∈ new, ∃ r, g.registry.live? q.resource = some r :=
    fun h => ⟨[], h.trans (List.append_nil _).symm, List.forall_mem_nil _⟩
  cases e with
  | deviceAdded | resourceDeleted | deviceDeleted => exact hnone rfl
  | deviceSetUp address => exact hnone (g.requests_initDevice address)
  | resourceAdded kind typeName uniqueId items =>
    refine hnone ?_
    rw [step]
    split <;> rfl
  | written id suffix v =>
    rw [step]
    cases hlive : g.registry.live? id with
    | none =>
      refine ⟨[], ?_, List.forall_mem_nil _⟩
      unfold writeItem
      rw [hlive, List.append_nil]
    | some r =>
      have hr := (Registry.live?_eq_some_iff.mp hlive).1
      -- What a write asks for belongs to the resource it writes.
      obtain ⟨new, hconfined, hnew⟩ :=
        confined_writeItem hlive (h.owns id r hr) (h.sound id r hr).distinct suffix v
      refine ⟨new, hconfined.requests, fun q hq => ⟨r, ?_⟩⟩
      rw [hnew q hq, hlive]
  | reported id suffix v => exact hnone (g.requests_report id suffix v)
  | received indication => exact hnone (g.requests_handleIndication indication)
  | ticked =>
    refine ⟨_, requests_tick g, fun q hq => ?_⟩
    -- A tick asks for live resources only, and a change names the resource that holds it.
    obtain ⟨r, hmem, hdue⟩ := List.mem_flatMap.mp hq
    obtain ⟨hmem, hdeleted⟩ := List.mem_filter.mp hmem
    have hr := h.coherent.resource?_of_mem hmem
    refine ⟨r, ?_⟩
    rw [(h.owns r.id r hr).resource_of_due hdue]
    exact Registry.live?_eq_some_iff.mpr ⟨hr, by simpa using hdeleted⟩
  | outside change => exact absurd rfl (hinside change)

end Gateway

end ZigbeeGateway
