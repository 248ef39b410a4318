import ZigbeeGateway.Proofs.Catalog.Operations
import ZigbeeGateway.Proofs.Gateway.Requests
import ZigbeeGateway.Proofs.Resource.Fares

/-!
# How the items of a registry fare

Nodes and other resources hold items alike, so they are looked up alike, by *place*.  A registry fares
if at every place the items fare and what comes in is made from nothing; all operations of a registry
do this, up to applying a description (`fares_setUpDevice`).

The handles that a description is applied with are the ones its catalog issues (`Catalog.Issues`).
-/

namespace ZigbeeGateway

open Relation

variable {issued : String → TemplateHandle → Prop}

/-! ### Issued handles -/

/-- A handle resolves to a template with a given name. -/
def Catalog.Issues (c : Catalog) (suffix : String) (h : TemplateHandle) : Prop :=
  ∃ t, c.template? h = some t ∧ t.name = suffix

/-! ### Places -/

/-- Where items are held. -/
inductive Place where
  | node (address : ExtAddress)
  | resource (id : ResourceId)

namespace Registry

variable {g g' g'' : Registry} {a : ExtAddress} {id : ResourceId} {r r' : Resource}

/-- The node or the resource at a place. -/
def holder? (g : Registry) : Place → Option Resource
  | .node a => (g.device? a).map (·.node)
  | .resource id => g.resource? id

/-- A resource is in the registry, perhaps as a node, deleted or not. -/
def Includes (g : Registry) (r : Resource) : Prop :=
  r ∈ g.resources ∨ ∃ d ∈ g.devices, d.node = r

/-- With distinct numbers and addresses, what is in the registry is found at its place. -/
theorem Includes.exists_holder? (h : g.Includes r) (hg : Coherent g)
    (haddresses : (g.devices.map (·.address)).Nodup) : ∃ p, g.holder? p = some r := by
  rcases h with hr | ⟨d, hd, rfl⟩
  · exact ⟨.resource r.id, hg.resource?_of_mem hr⟩
  · refine ⟨.node d.address, ?_⟩
    rw [holder?, device?, find?_key_of_mem Device.address haddresses hd, Option.map_some]

/-- The items of the registry fare. -/
structure Fares (issued : String → TemplateHandle → Prop) (g g' : Registry) : Prop where
  kept : ∀ p r, g.holder? p = some r →
    ∃ r', g'.holder? p = some r' ∧ ReflTransGen (Resource.Fares issued) r r'
  made : ∀ p r', g.holder? p = none → g'.holder? p = some r' → r'.IsMade issued
  /-- Addresses stay apart. -/
  addresses : (g.devices.map (·.address)).Nodup → (g'.devices.map (·.address)).Nodup

namespace Fares

theorem refl (g : Registry) : Fares issued g g := by
  refine ⟨fun _ r hr => ⟨r, hr, .refl⟩, fun p r hnone hr => ?_, fun h => h⟩
  rw [hnone] at hr
  cases hr

theorem trans (h : Fares issued g g') (h' : Fares issued g' g'') : Fares issued g g'' := by
  refine ⟨fun p r hr => ?_, fun p r'' hnone hr'' => ?_, fun hg => h'.addresses (h.addresses hg)⟩
  · obtain ⟨r', hr', hrun⟩ := h.kept p r hr
    obtain ⟨r'', hr'', hrun'⟩ := h'.kept p r' hr'
    exact ⟨r'', hr'', hrun.trans hrun'⟩
  · cases hmid : g'.holder? p with
    | none => exact h'.made p r'' hmid hr''
    | some r' =>
      obtain ⟨q, hq, hrun⟩ := h'.kept p r' hmid
      obtain rfl := Option.some.inj (hr''.symm.trans hq)
      exact (h.made p r' hnone hmid).fares hrun

/-- At each place there is what was there, something that has fared, or something new. -/
theorem of_holders (h : ∀ p, g'.holder? p = g.holder? p ∨
      (∃ r r', g.holder? p = some r ∧ g'.holder? p = some r' ∧
        ReflTransGen (Resource.Fares issued) r r') ∨
      ∃ r', g.holder? p = none ∧ g'.holder? p = some r' ∧ r'.IsMade issued)
    (haddresses : (g.devices.map (·.address)).Nodup → (g'.devices.map (·.address)).Nodup) :
    Fares issued g g' := by
  refine ⟨fun p r hr => ?_, fun p r' hnone hr' => ?_, haddresses⟩
  · rcases h p with hsame | ⟨q, q', hq, hq', hrun⟩ | ⟨r', hnone, -⟩
    · exact ⟨r, hsame.trans hr, .refl⟩
    · rw [hr] at hq
      exact ⟨q', hq', Option.some.inj hq ▸ hrun⟩
    · rw [hr] at hnone
      cases hnone
  · rcases h p with hsame | ⟨q, q', hq, -⟩ | ⟨q', -, hq', hmade⟩
    · rw [hsame, hnone] at hr'
      cases hr'
    · rw [hnone] at hq
      cases hq
    · rw [hr'] at hq'
      exact Option.some.inj hq' ▸ hmade

/-- The resource with one number is exchanged. -/
theorem modifyResource (g : Registry) {f : Resource → Resource}
    (hid : ∀ r, r.id = id → (f r).id = id)
    (hf : ∀ r, g.resource? id = some r → ReflTransGen (Resource.Fares issued) r (f r)) :
    Fares issued g (g.modifyResource id f) := by
  refine .of_holders (fun p => ?_) fun h => h
  cases p with
  | node a => exact .inl rfl
  | resource id' =>
    simp only [holder?, resource?_modifyResource g hid]
    split_ifs with h
    · subst h
      cases hr : g.resource? id' with
      | none => exact .inl rfl
      | some r => exact .inr (.inl ⟨r, f r, rfl, rfl, hf r hr⟩)
    · exact .inl rfl

/-- The device with one address is exchanged. -/
theorem modifyDevice (g : Registry) {f : Device → Device}
    (ha : ∀ d, d.address = a → (f d).address = a)
    (hf : ∀ d, g.device? a = some d → ReflTransGen (Resource.Fares issued) d.node (f d).node) :
    Fares issued g (g.modifyDevice a f) := by
  refine .of_holders (fun p => ?_) fun h => ?_
  · cases p with
    | resource id => exact .inl rfl
    | node a' =>
      simp only [holder?, device?_modifyDevice g ha]
      split_ifs with h
      · subst h
        cases hd : g.device? a' with
        | none => exact .inl rfl
        | some d => exact .inr (.inl ⟨d.node, (f d).node, rfl, rfl, hf d hd⟩)
      · exact .inl rfl
  · have hsame : (g.modifyDevice a f).devices.map (·.address) = g.devices.map (·.address) := by
      unfold Registry.modifyDevice
      rw [List.map_map]
      refine List.map_congr_left fun d _ => ?_
      rw [Function.comp_apply]
      split_ifs with hd
      · rw [ha d hd, hd]
      · rfl
    rw [hsame]
    exact h

theorem modifyNode (g : Registry) {f : Resource → Resource}
    (hf : ∀ d, g.device? a = some d → ReflTransGen (Resource.Fares issued) d.node (f d.node)) :
    Fares issued g (g.modifyNode a f) :=
  .modifyDevice g (f := fun d => { d with node := f d.node }) (fun _ h => h) hf

/-- A resource comes in that has made its items. -/
theorem pushResource (g : Registry) (hr : r.IsMade issued) :
    Fares issued g (g.pushResource r).1 := by
  refine .of_holders (fun p => ?_) fun h => h
  cases p with
  | node a => exact .inl rfl
  | resource id' =>
    simp only [holder?, resource?_pushResource]
    cases hnone : g.resource? id' with
    | some q => exact .inl Option.some_or
    | none =>
      rw [Option.none_or]
      split_ifs
      · exact .inr (.inr ⟨_, rfl, rfl, hr.fares (.single (.beside rfl))⟩)
      · exact .inl rfl

/-- A device comes in whose node has made its items. -/
theorem pushDevice {d : Device} (hfree : g.device? d.address = none)
    (hd : d.node.IsMade issued) : Fares issued g (g.pushDevice d) := by
  have hdevice : ∀ a, (g.pushDevice d).device? a = (g.device? a).or
      (if d.address = a then some { d with node := { d.node with id := ⟨g.nextId⟩ } } else none) := by
    intro a
    unfold Registry.pushDevice device?
    rw [List.find?_append]
    congr 1
    split_ifs with h <;> simp [h]
  refine .of_holders (fun p => ?_) fun h => ?_
  · cases p with
    | resource id => exact .inl rfl
    | node a =>
      simp only [holder?, hdevice]
      cases hnone : g.device? a with
      | some q => exact .inl (congrArg _ Option.some_or)
      | none =>
        rw [Option.none_or]
        split_ifs
        · exact .inr (.inr ⟨_, rfl, rfl, hd.fares (.single (.beside rfl))⟩)
        · exact .inl rfl
  · unfold Registry.pushDevice
    rw [List.map_append, List.nodup_append]
    refine ⟨h, List.nodup_singleton _, fun a ha b hb heq => ?_⟩
    -- The address was not found, so no device has it.
    obtain ⟨q, hq, rfl⟩ := List.mem_map.mp ha
    obtain rfl := List.mem_singleton.mp hb
    have hmissing := List.find?_eq_none.mp hfree q hq
    simp [heq] at hmissing

/-- Resources go through daily traffic, and devices stay. -/
theorem of_evolves {touched : String → Prop} (h : Evolves (Resource.Traffic touched) g g')
    (hdevices : g'.devices = g.devices) : Fares issued g g' := by
  have hdevice : ∀ a, g'.device? a = g.device? a := fun a => by rw [device?, hdevices, device?]
  refine .of_holders (fun p => ?_) fun hg => hdevices ▸ hg
  cases p with
  | node a => exact .inl (by rw [holder?, hdevice, holder?])
  | resource id =>
    simp only [holder?]
    cases hr : g.resource? id with
    | some r =>
      obtain ⟨r', hr', hrun⟩ := h.kept id r hr
      exact .inr (.inl ⟨r, r', rfl, hr', Resource.fares_traffic_run hrun⟩)
    | none =>
      cases hr' : g'.resource? id with
      | none => exact .inl rfl
      | some r' =>
        obtain ⟨r, hr'', -⟩ := h.exists_resource?_of hr'
        rw [hr] at hr''
        cases hr''

end Fares

/-! ### Operations -/

theorem fares_deleteResource (g : Registry) (id : ResourceId) :
    Fares issued g (g.deleteResource id) := by
  refine .modifyResource g (fun r hr => ?_) fun r _ => .single (.beside ?_)
  · split_ifs <;> exact hr
  · split_ifs <;> rfl

theorem fares_deleteDevice (g : Registry) (a : ExtAddress) : Fares issued g (g.deleteDevice a) := by
  apply rel_deleteDevice Fares.refl fun _ _ _ h h' => h.trans h'
  · exact fun g a => .modifyDevice g (f := Device.markDeleted) (fun _ h => h) fun _ _ =>
      .single (.beside rfl)
  · exact fares_deleteResource

theorem fares_addResource (hr : r.IsMade issued) (h : g.addResource r = .ok (g', id)) :
    Fares issued g g' := by
  unfold addResource at h
  split_ifs at h
  have hregistry : (g.pushResource r).1 = g' := congrArg Prod.fst (Except.ok.inj h)
  exact hregistry ▸ .pushResource g hr

/-- The node of a new device has made its items. -/
theorem isMade_newDevice (a : ExtAddress) (created : Instant) :
    (Device.new a created).node.IsMade issued := by
  unfold Device.new
  extract_lets node blank held extAddress rest
  have hextAddress : ReflTransGen (Item.Fares issued) blank extAddress :=
    (Item.fares_setIfFits blank _ created).tail (.dress rfl fun _ h => .inl h)
  have hnode : node.IsMade issued := Resource.isMade_new _ _ _ _
  simp only [rest, List.foldl_cons, List.foldl_nil]
  exact (((hnode.addItem (Item.isBlank_new _ _) hextAddress).addBlank _ _).addBlank _ _).addBlank
    _ _

theorem fares_ensureDevice (g : Registry) (a : ExtAddress) (created : Instant) :
    Fares issued g (g.ensureDevice a created) := by
  unfold ensureDevice
  split_ifs with hthere
  · exact .refl g
  · exact .pushDevice (Option.not_isSome_iff_eq_none.mp hthere) (isMade_newDevice a created)

theorem fares_locateOrAdd {s : SubDevice} {u : UniqueId} {created : Instant}
    (h : g.locateOrAdd s u created = .ok (g', id)) : Fares issued g g' := by
  unfold locateOrAdd at h
  split at h
  · obtain ⟨rfl, -⟩ := Prod.mk.inj (Except.ok.inj h)
    exact .refl g
  · split at h
    · cases h
    · exact fares_addResource (((Resource.isMade_new _ _ _ _).addBlank _ _).addBlank _ _) h

end Registry

namespace Premises

/-- **Setting a part up**: its identity is noted, and its items are set up by their templates. -/
theorem Occasion.fares_setUp (o : Occasion) {handle? : Nat → Option TemplateHandle} {s : SubDevice}
    (hhandle : ∀ i t, s.items[i]? = some t → ∀ h, handle? i = some h → issued t.name h)
    (rows : List Row) (r : Resource) :
    ReflTransGen (Resource.Fares issued) r (o.setUp handle? s rows r) := by
  have hidentify : ReflTransGen (Resource.Fares issued) r (o.identify r) :=
    (r.fares_fillIdentity _ _ _).trans (Resource.fares_fillIdentity _ _ _ _)
  refine (hidentify.trans (Resource.fares_setUpItems _ rows o.now 0 s.items ?_)).tail (.beside rfl)
  intro i t ht h hh
  rw [Nat.zero_add] at hh
  exact hhandle i t ht h hh

end Premises

namespace Registry

open Premises

variable {g g' : Registry} {σ : Type} {store : Persistence σ} {kept : σ}

/-- **Setting up the parts** of a description, as far as it goes. -/
theorem fares_setUpParts (o : Occasion) {handle? : Nat → Nat → Option TemplateHandle}
    (parts : List (SubDevice × UniqueId)) (position : Nat) (g : Registry) (kept : σ)
    (hhandle : ∀ k s u, parts[k]? = some (s, u) → ∀ i t, s.items[i]? = some t →
      ∀ h, handle? (position + k) i = some h → issued t.name h) :
    Fares issued g (g.setUpParts store o handle? position parts kept).registry := by
  induction parts generalizing position g kept with
  | nil => exact .refl g
  | cons part rest ih =>
    obtain ⟨s, u⟩ := part
    -- The positions are shifted with the list, so the handles stay those of the templates.
    have hrest : ∀ k s u, rest[k]? = some (s, u) → ∀ i t, s.items[i]? = some t →
        ∀ h, handle? (position + 1 + k) i = some h → issued t.name h := by
      intro k s u hk i t ht h hh
      refine hhandle (k + 1) s u hk i t ht h ?_
      rwa [← Nat.add_assoc, Nat.add_right_comm]
    unfold setUpParts
    split
    · exact .refl g
    · rename_i located id hlocate
      extract_lets linked
      -- Locating a part and linking it makes items only out of blank ones.
      have hlinked : Fares issued g linked :=
        ((fares_locateOrAdd hlocate).trans (fares_ensureDevice _ _ _)).trans
          (.modifyDevice _ (fun d hd => (d.address_addLink u id).trans hd) fun d _ => by
            unfold Device.addLink
            split_ifs <;> exact .refl)
      split
      · exact hlinked.trans (ih _ _ _ hrest)
      · rename_i r _
        dsimp only
        refine (hlinked.trans (.modifyResource _ (fun r hr => ?_) fun r _ =>
          o.fares_setUp (hhandle 0 s u rfl) _ r)).trans (ih _ _ _ hrest)
        exact (Resource.id_of_frame_eq (o.frame_setUp _ s _ r)).trans hr

end Registry

end ZigbeeGateway
