import ZigbeeGateway.Proofs.Registry.Fares
import ZigbeeGateway.Proofs.Setup.Descriptions

/-!
# How the items of a gateway fare

Every event lets the items of the registry fare, with the handles that the catalog issues at that
point (`fares_step`).  What holds of blank items and survives the steps of an item therefore holds of
all items of all resources and nodes, at every point of a history that begins with an empty registry
(`holds_run`), and names and types stay as they are from one point to any later one
(`continues_run`).
-/

namespace ZigbeeGateway

open Relation

variable {issued : String → TemplateHandle → Prop}

namespace Registry

open Premises

variable {g g' : Registry}

/-- The part at a position is planned from the sub-resource at this position, so its items are bound
to handles that the catalog issues for their names. -/
theorem issues_of_planned {catalog : Catalog} {description : Nat} {desc : Description}
    {a : ExtAddress} {planned : List (SubDevice × ResourceKind × UniqueId)}
    (hdesc : catalog.get? description = some desc)
    (hplanned : planSubDevices a desc.subDevices = .ok planned) (k : Nat) (s : SubDevice)
    (u : UniqueId) (hk : (planned.map fun part => (part.1, part.2.2))[k]? = some (s, u)) (i : Nat)
    (t : ItemTemplate) (ht : s.items[i]? = some t) (h : TemplateHandle)
    (hh : catalog.handle? description (0 + k) i = some h) : catalog.Issues t.name h := by
  rw [Nat.zero_add] at hh
  rw [List.getElem?_map, Option.map_eq_some_iff] at hk
  obtain ⟨⟨s', kind, u'⟩, hk, heq⟩ := hk
  obtain ⟨rfl, rfl⟩ := Prod.mk.inj heq
  have hs : desc.subDevices[k]? = some s' := by
    rw [← map_fst_planSubDevices hplanned, List.getElem?_map, hk, Option.map_some]
  exact ⟨t, (Catalog.template?_of_handle? hh).trans (Catalog.at?_eq_some hdesc hs ht), rfl⟩

/-- **Applying a description** binds items to handles that its catalog issues for their names. -/
theorem fares_setUpDevice {σ : Type} (g : Registry) (store : Persistence σ) (kept : σ)
    (catalog : Catalog) (a : ExtAddress) (description : Nat) (created now : Instant) :
    Fares catalog.Issues g
      (g.setUpDevice store kept catalog a description created now).registry := by
  unfold setUpDevice
  split
  · exact .refl g
  · exact .refl g
  · rename_i desc device hdesc _
    split
    · exact .refl g
    · rename_i planned hplanned
      have hparts : Fares catalog.Issues g
          (g.setUpParts store (occasion device desc a created now) (catalog.handle? description) 0
            (planned.map fun part => (part.1, part.2.2)) kept).registry :=
        fares_setUpParts _ _ 0 g kept (issues_of_planned hdesc hplanned)
      dsimp only
      split
      · exact hparts
      · -- The finish of a device writes at most one item of its node.
        refine hparts.trans (.modifyDevice _ (fun d hd => ?_) fun d _ => ?_)
        · unfold finishDevice
          dsimp only
          split <;> exact hd
        · unfold finishDevice
          dsimp only
          split
          · exact .refl
          · exact Resource.fares_setIfFits _ _ _ _

/-! ### What lasts -/

/-- All nodes and resources have distinct names, and all their items have a property. -/
def Holds (P : Item → Prop) (g : Registry) : Prop :=
  ∀ p r, g.holder? p = some r → r.Holds P

theorem Holds.fares {P : Item → Prop} (hP : Resource.IsLasting issued P) (hg : g.Holds P)
    (h : Fares issued g g') : g'.Holds P := by
  intro p r' hr'
  cases hr : g.holder? p with
  | none => exact (h.made p r' hr hr').holds hP
  | some r =>
    obtain ⟨q, hq, hrun⟩ := h.kept p r hr
    obtain rfl := Option.some.inj (hr'.symm.trans hq)
    exact (hg p r hr).fares_run hP hrun

/-- What is held goes on, place by place. -/
def Continues (g g' : Registry) : Prop :=
  ∀ p r, g.holder? p = some r → ∃ r', g'.holder? p = some r' ∧ r.Continues r'

theorem Fares.continues (h : Fares issued g g') : Continues g g' := by
  intro p r hr
  obtain ⟨r', hr', hrun⟩ := h.kept p r hr
  exact ⟨r', hr', Resource.continues_run hrun⟩

end Registry

namespace Premises

/-- Recalling an item of the identity restores it, and refreshes the ETag if there is a row. -/
theorem fares_restoreIdentity (rows : List Row) (node : Resource) (suffix : String) :
    ReflTransGen (Resource.Fares issued) node (restoreIdentity rows node suffix).1 := by
  unfold restoreIdentity
  split
  · exact .refl
  · split
    · exact .single (.beside rfl)
    · rename_i item hrestored
      obtain ⟨old, hold, hrow⟩ := Option.bind_eq_some_iff.mp hrestored
      refine .tail (.single (.item node fun hnode i hi hs => ?_)) (.beside rfl)
      rw [Resource.eq_of_mem_items hnode hold hi hs]
      exact .single (.restore hrow)

end Premises

namespace Gateway

variable {g g' start : Gateway} {e : GatewayEvent}

theorem fares_addDevice (g : Gateway) (a : ExtAddress) (manufacturer model : String) :
    Registry.Fares issued g.registry (g.addDevice a manufacturer model).registry := by
  have hnoted : ∀ node : Resource, ReflTransGen (Resource.Fares issued) node
      (noteIdentity node manufacturer model g.now) := by
    intro node
    simp only [noteIdentity, List.foldl_cons, List.foldl_nil]
    have hnote : ∀ (node : Resource) (suffix value : String),
        ReflTransGen (Resource.Fares issued) node
          (if value.isEmpty then node else node.setIfFits suffix (.text value) g.now) := by
      intro node suffix value
      split_ifs
      · exact .refl
      · exact node.fares_setIfFits _ _ _
    exact (hnote node _ _).trans (hnote _ _ _)
  unfold addDevice mapRegistry
  exact (Registry.fares_ensureDevice _ a g.hostTime).trans
    (.modifyNode _ (f := fun node => noteIdentity node manufacturer model g.now) fun _ _ =>
      hnoted _)

theorem fares_recallIfUnknown (g : Gateway) (a : ExtAddress) (d : Device) :
    Registry.Fares issued g.registry (g.recallIfUnknown a d).registry := by
  unfold recallIfUnknown
  split_ifs
  · split
    · rename_i p recalled hrecall
      unfold Premises.recallDevice at hrecall
      split at hrecall
      · cases hrecall
      · rename_i device hdevice
        let rows := g.storage.deviceRows device.uniqueId
        let node := (Premises.restoreIdentity rows device.node Suffix.manufacturerName).1
        have hregistry : g.registry.modifyNode a
            (fun _ => (Premises.restoreIdentity rows node Suffix.modelId).1) = p.registry :=
          congrArg (·.1.registry) (Except.ok.inj hrecall)
        refine hregistry ▸ .modifyNode _ fun d hd => ?_
        obtain rfl := Option.some.inj (hdevice.symm.trans hd)
        exact (Premises.fares_restoreIdentity _ _ _).trans (Premises.fares_restoreIdentity _ _ _)
    · exact .refl _
  · exact .refl _

theorem catalog_recallIfUnknown (g : Gateway) (a : ExtAddress) (d : Device) :
    (g.recallIfUnknown a d).catalog = g.catalog := by
  rcases g.recallIfUnknown_eq a d with heq | ⟨node, heq⟩
  · rw [heq]
  · rw [heq]
    rfl

/-- **Setting a device up**, as far as it goes. -/
theorem fares_initDevice (g : Gateway) (a : ExtAddress) :
    Registry.Fares g.catalog.Issues g.registry (g.initDevice a).1.registry := by
  unfold initDevice
  split
  · exact .refl _
  · rename_i d _
    have hrecall : Registry.Fares g.catalog.Issues g.registry (g.recallIfUnknown a d).registry :=
      g.fares_recallIfUnknown a d
    dsimp only
    rw [g.catalog_recallIfUnknown a d]
    split
    · exact hrecall
    · split
      · exact hrecall
      · rename_i description _
        have hset := hrecall.trans ((g.recallIfUnknown a d).registry.fares_setUpDevice .memory
          ((g.recallIfUnknown a d).storage, (g.recallIfUnknown a d).outbox) g.catalog a description
          (g.recallIfUnknown a d).hostTime (g.recallIfUnknown a d).now)
        -- Whether the attempt fails or not, its registry is the one of the gateway.
        split <;> rename_i p _ heq
        · exact congrArg (·.1.registry) heq ▸ hset
        · exact congrArg (·.1.registry) heq ▸ hset

theorem fares_writeItem (g : Gateway) (id : ResourceId) (suffix : String) (v : Value) :
    Registry.Fares issued g.registry (g.writeItem id suffix v).1.registry := by
  have hwritten := written_writeItem g id suffix v
  generalize g.writeItem id suffix v = result at hwritten ⊢
  cases hwritten with
  | refused => exact .refl _
  | unsent r device plan => exact registry_sendVendor g r device plan ▸ .refl _
  | direct _ _ htraffic => exact .of_evolves htraffic.resources htraffic.devices
  | @managed g' r item plan m _ _ htraffic =>
    refine .trans ?_ (.of_evolves htraffic.resources htraffic.devices)
    exact .modifyResource _ (f := fun r => r.addChange (g.changeFor id plan m)) (fun _ h => h)
      fun _ _ => .single (.beside rfl)

/-- **Every event lets the items fare**, with the handles that the catalog issues at that point. -/
theorem fares_step (g : Gateway) (e : GatewayEvent) :
    Registry.Fares g.catalog.Issues g.registry (g.step e).registry := by
  cases e with
  | deviceAdded address manufacturer model => exact g.fares_addDevice address manufacturer model
  | deviceSetUp address => exact g.fares_initDevice address
  | resourceAdded kind typeName uniqueId items =>
    rw [step]
    split
    · rename_i hadd
      exact Registry.fares_addResource (g.blankResource_induction kind typeName uniqueId items
        (Resource.isMade_new _ _ _ _) fun _ suffix type hr => hr.addBlank suffix type) hadd
    · exact .refl _
  | written id suffix v => exact g.fares_writeItem id suffix v
  | reported id suffix v =>
    have htraffic := traffic_report g id suffix v
    exact .of_evolves htraffic.resources htraffic.devices
  | received indication =>
    have htraffic := traffic_handleIndication g indication
    exact .of_evolves htraffic.resources htraffic.devices
  | ticked =>
    have htraffic : Traffic (fun _ => False) g g.tick.1 := traffic_tick g
    exact .of_evolves htraffic.resources htraffic.devices
  | resourceDeleted id => exact g.registry.fares_deleteResource id
  | deviceDeleted address => exact g.registry.fares_deleteDevice address
  | outside change => exact .refl _

/-! ### Histories -/

/-- **What holds of blank items and survives their steps** holds of all items at every point of a
history. -/
theorem holds_run {P : Item → Prop} (hP : ∀ issued, Resource.IsLasting issued P)
    (hstart : start.registry = {}) (events : List GatewayEvent) :
    (start.run events).registry.Holds P := by
  induction events using List.reverseRecOn with
  | nil =>
    intro p r hr
    rw [run, List.foldl_nil, hstart] at hr
    cases p <;> cases hr
  | append_singleton events e ih =>
    rw [run_concat]
    exact ih.fares (hP _) (fares_step _ e)

/-- **Names and types stay** from one point of a history to any later one. -/
theorem continues_run (g : Gateway) (later : List GatewayEvent) :
    g.registry.Continues (g.run later).registry := by
  induction later using List.reverseRecOn with
  | nil => exact fun p r hr => ⟨r, hr, .refl r⟩
  | append_singleton later e ih =>
    intro p r hr
    obtain ⟨r', hr', hcontinues⟩ := ih p r hr
    obtain ⟨r'', hr'', hcontinues'⟩ := (fares_step (g.run later) e).continues p r' hr'
    exact ⟨r'', by rw [run_concat, hr''], hcontinues.trans hcontinues'⟩

/-- Addresses are given to one device each. -/
theorem addresses_run (hstart : start.registry = {}) (events : List GatewayEvent) :
    ((start.run events).registry.devices.map (·.address)).Nodup := by
  induction events using List.reverseRecOn with
  | nil =>
    rw [run, List.foldl_nil, hstart]
    exact List.nodup_nil
  | append_singleton events e ih =>
    rw [run_concat]
    exact (fares_step _ e).addresses ih

end Gateway

end ZigbeeGateway
