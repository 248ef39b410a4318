import ZigbeeGateway.Proofs.Resource.Soundness
import ZigbeeGateway.Registry

/-!
# The evolution of a registry

Whatever happens to a gateway happens to its resources one by one.  A registry *evolves* if every
resource goes through a run of steps and none appears or goes; it *grows* if resources move and new
ones may come in, which are numbered and have nothing pending.
-/

namespace ZigbeeGateway

open Relation

namespace Registry

variable {g g' g'' : Registry} {id : ResourceId} {r r' : Resource}
  {R : Resource → Resource → Prop}

/-! ### Lookups -/

theorem id_of_resource? (h : g.resource? id = some r) : r.id = id := by
  simpa using List.find?_some h

/-- The live resources are the ones that are not deleted. -/
theorem live?_eq_some_iff : g.live? id = some r ↔ g.resource? id = some r ∧ r.deleted = false := by
  unfold live?
  rw [Option.filter_eq_some_iff]
  simp

/-- The resources after one was changed. -/
theorem resource?_modifyResource (g : Registry) {f : Resource → Resource}
    (hf : ∀ r, r.id = id → (f r).id = id) (id' : ResourceId) :
    (g.modifyResource id f).resource? id' =
      if id' = id then (g.resource? id).map f else g.resource? id' :=
  find?_map_update Resource.id id f hf g.resources id'

/-- What a change of one resource keeps of it, it keeps of all. -/
theorem map_resource?_modifyResource {α : Type*} (g : Registry) (view : Resource → α)
    {f : Resource → Resource} (hid : ∀ r, r.id = id → (f r).id = id)
    (hview : ∀ r, view (f r) = view r) (id' : ResourceId) :
    ((g.modifyResource id f).resource? id').map view = (g.resource? id').map view := by
  rw [resource?_modifyResource g hid]
  split_ifs with h
  · subst h
    rw [Option.map_map]
    congr 1
    funext r
    exact hview r
  · rfl

/-- What is seen of the resources after one was put in its place. -/
theorem map_resource?_put {α : Type*} (view : Resource → α) (hr : g.resource? id = some r)
    (hid : r'.id = id) (id' : ResourceId) :
    ((g.modifyResource id fun _ => r').resource? id').map view =
      if id' = id then some (view r') else (g.resource? id').map view := by
  rw [resource?_modifyResource g fun _ _ => hid]
  split_ifs
  · rw [hr, Option.map_some, Option.map_some]
  · rfl

/-- Two changes of one resource are one change. -/
theorem modifyResource_modifyResource (g : Registry) {f f' : Resource → Resource}
    (hf : ∀ r, r.id = id → (f r).id = id) :
    (g.modifyResource id f).modifyResource id f' = g.modifyResource id fun r => f' (f r) := by
  unfold modifyResource
  simp only [List.map_map]
  congr 1
  refine List.map_congr_left fun r _ => ?_
  rw [Function.comp_apply]
  by_cases h : r.id = id
  · rw [if_pos h, if_pos h, if_pos (hf r h)]
  · rw [if_neg h, if_neg h, if_neg h]

theorem resource?_map (g : Registry) {f : Resource → Resource} (hf : ∀ r, (f r).id = r.id)
    (id : ResourceId) :
    Registry.resource? { g with resources := g.resources.map f } id = (g.resource? id).map f := by
  unfold resource?
  rw [List.find?_map]
  congr 2
  funext r
  dsimp only [Function.comp_apply]
  rw [hf]

theorem resource?_pushResource (g : Registry) (r : Resource) (id : ResourceId) :
    (g.pushResource r).1.resource? id =
      (g.resource? id).or (if ⟨g.nextId⟩ = id then some { r with id := ⟨g.nextId⟩ } else none) := by
  unfold pushResource resource?
  rw [List.find?_append]
  congr 1
  split_ifs with h <;> simp [h]

/-! ### Evolving -/

/-- Resources go through runs of steps, none appears or goes, and no number is taken back. -/
structure Evolves (R : Resource → Resource → Prop) (g g' : Registry) : Prop where
  kept : ∀ id r, g.resource? id = some r → ∃ r', g'.resource? id = some r' ∧ ReflTransGen R r r'
  ids : g'.resources.map Resource.id = g.resources.map Resource.id
  issued : g.nextId ≤ g'.nextId

theorem Evolves.refl (R : Resource → Resource → Prop) (g : Registry) : Evolves R g g :=
  ⟨fun _ r hr => ⟨r, hr, .refl⟩, rfl, Nat.le_refl _⟩

theorem Evolves.trans (h : Evolves R g g') (h' : Evolves R g' g'') : Evolves R g g'' := by
  refine ⟨fun id r hr => ?_, h'.ids.trans h.ids, Nat.le_trans h.issued h'.issued⟩
  obtain ⟨r', hr', hrun⟩ := h.kept id r hr
  obtain ⟨r'', hr'', hrun'⟩ := h'.kept id r' hr'
  exact ⟨r'', hr'', hrun.trans hrun'⟩

theorem Evolves.mono {R' : Resource → Resource → Prop} (hR : ∀ r r', R r r' → R' r r')
    (h : Evolves R g g') : Evolves R' g g' := by
  refine ⟨fun id r hr => ?_, h.ids, h.issued⟩
  obtain ⟨r', hr', hrun⟩ := h.kept id r hr
  exact ⟨r', hr', ReflTransGen.mono hR _ _ hrun⟩

/-- Each resource was there. -/
theorem Evolves.exists_resource?_of (h : Evolves R g g') (hr' : g'.resource? id = some r') :
    ∃ r, g.resource? id = some r ∧ ReflTransGen R r r' := by
  obtain ⟨r, hr⟩ : ∃ r, g.resource? id = some r := by
    -- The numbers are the same, so this one was taken.
    have hmem : r'.id ∈ g'.resources.map Resource.id :=
      List.mem_map_of_mem (List.mem_of_find?_eq_some hr')
    rw [h.ids, id_of_resource? hr'] at hmem
    obtain ⟨r, hr, hid⟩ := List.mem_map.mp hmem
    rw [← Option.isSome_iff_exists, resource?, List.find?_isSome]
    exact ⟨r, hr, by simpa using hid⟩
  obtain ⟨q, hq, hrun⟩ := h.kept id r hr
  rw [hr'] at hq
  obtain rfl := Option.some.inj hq
  exact ⟨r, hr, hrun⟩

theorem evolves_modifyResource {f : Resource → Resource} (hid : ∀ r, r.id = id → (f r).id = id)
    (hf : ∀ r, g.resource? id = some r → ReflTransGen R r (f r)) :
    Evolves R g (g.modifyResource id f) := by
  refine ⟨fun id' r hr => ?_, ?_, Nat.le_refl _⟩
  · rw [resource?_modifyResource g hid]
    split_ifs with h
    · subst h
      exact ⟨f r, by rw [hr, Option.map_some], hf r hr⟩
    · exact ⟨r, hr, .refl⟩
  · unfold modifyResource
    rw [List.map_map]
    refine List.map_congr_left fun r _ => ?_
    rw [Function.comp_apply]
    split_ifs with h
    · rw [hid r h, h]
    · rfl

theorem evolves_putBack {touched : String → Prop} (hr : g.resource? id = some r)
    (h : ReflTransGen (Resource.Traffic touched) r r') :
    Evolves (Resource.Traffic touched) g (g.modifyResource id fun _ => r') := by
  apply evolves_modifyResource
  · intro _ _
    rw [Resource.Traffic.id_run h, id_of_resource? hr]
  · intro q hq
    rw [hr] at hq
    exact Option.some.inj hq ▸ h

theorem evolves_map {f : Resource → Resource} (hid : ∀ r, (f r).id = r.id)
    (hf : ∀ r, ReflTransGen R r (f r)) :
    Evolves R g { g with resources := g.resources.map f } := by
  refine ⟨fun id r hr => ⟨f r, ?_, hf r⟩, ?_, Nat.le_refl _⟩
  · rw [resource?_map g hid, hr, Option.map_some]
  · rw [List.map_map]
    exact List.map_congr_left fun r _ => hid r

/-! ### Deleting a device -/

/-- What every mark of a device and every deletion of a resource does, the deletion of a device
does. -/
theorem rel_deleteDevice {P : Registry → Registry → Prop} (hrefl : ∀ g, P g g)
    (htrans : ∀ g g' g'', P g g' → P g' g'' → P g g'')
    (hmark : ∀ g a, P g (g.modifyDevice a Device.markDeleted))
    (hdelete : ∀ g id, P g (g.deleteResource id)) (g : Registry) (a : ExtAddress) :
    P g (g.deleteDevice a) := by
  have hrun : ∀ (links : List (UniqueId × ResourceId)) (g : Registry),
      P g (links.foldl (fun g link => g.deleteResource link.2) g) := by
    intro links
    induction links with
    | nil => exact hrefl
    | cons link links ih => exact fun g => htrans _ _ _ (hdelete g link.2) (ih _)
  unfold deleteDevice
  split
  · exact hrefl g
  · exact htrans _ _ _ (hmark g a) (hrun _ _)

/-! ### Courses of resources -/

/-- A relation between registries that says what becomes of resources: it holds if they stay the same,
and from step to step. -/
structure IsCourse (P : Registry → Registry → Prop) : Prop where
  of_lookup : ∀ {g g'}, (∀ id, g'.resource? id = g.resource? id) → P g g'
  trans : ∀ {g g' g''}, P g g' → P g' g'' → P g g''

namespace IsCourse

variable {P : Registry → Registry → Prop}

theorem refl (h : IsCourse P) (g : Registry) : P g g :=
  h.of_lookup fun _ => rfl

/-- Devices do not matter to what becomes of resources. -/
theorem of_resources_eq (h : IsCourse P) (hsame : g'.resources = g.resources) : P g g' := by
  refine h.of_lookup fun id => ?_
  rw [resource?, hsame, ← resource?]

/-- The deletion of a device does to resources what their deletions do. -/
theorem deleteDevice (h : IsCourse P) (hdelete : ∀ g id, P g (g.deleteResource id)) (g : Registry)
    (a : ExtAddress) : P g (g.deleteDevice a) :=
  rel_deleteDevice h.refl (fun _ _ _ => h.trans) (fun _ _ => h.of_resources_eq rfl) hdelete g a

end IsCourse

/-- Every resource goes on in one way, and new ones come in in another. -/
structure Develops (R : Resource → Resource → Prop) (new : Resource → Prop) (g g' : Registry) :
    Prop where
  kept : ∀ id r, g.resource? id = some r → ∃ r', g'.resource? id = some r' ∧ R r r'
  created : ∀ id r', g.resource? id = none → g'.resource? id = some r' → new r'

/-- Developments are courses of resources, if resources may stay as they are and go on, the new ones as
well. -/
theorem isCourse_develops {new : Resource → Prop} (hrefl : ∀ r, R r r)
    (htrans : ∀ {r r' r''}, R r r' → R r' r'' → R r r'') (hnew : ∀ {r r'}, new r → R r r' → new r') :
    IsCourse (Develops R new) where
  of_lookup hlookup := by
    refine ⟨fun id r hr => ⟨r, by rw [hlookup, hr], hrefl r⟩, fun id r hnone hr => ?_⟩
    rw [hlookup, hnone] at hr
    cases hr
  trans := by
    intro g g' g'' h h'
    refine ⟨fun id r hr => ?_, fun id r'' hnone hr'' => ?_⟩
    · obtain ⟨r', hr', hfirst⟩ := h.kept id r hr
      obtain ⟨r'', hr'', hsecond⟩ := h'.kept id r' hr'
      exact ⟨r'', hr'', htrans hfirst hsecond⟩
    · -- What is new in the end came in with the second step, or with the first one and went on.
      cases hmid : g'.resource? id with
      | none => exact h'.created id r'' hmid hr''
      | some r' =>
        obtain ⟨q, hq, hsecond⟩ := h'.kept id r' hmid
        obtain rfl := Option.some.inj (hr''.symm.trans hq)
        exact hnew (h.created id r' hnone hmid) hsecond

/-! ### Growing -/

/-- Resources move, and new ones may come in that have nothing pending and hold fitted values. -/
abbrev Grows : Registry → Registry → Prop :=
  Develops (ReflTransGen Resource.Move) fun r' =>
    ∃ r : Resource, r.IsNew ∧ ReflTransGen Resource.Move r r'

theorem isCourse_grows : IsCourse Grows :=
  isCourse_develops (fun _ => .refl) .trans fun ⟨r, hnew, hrun⟩ hrun' => ⟨r, hnew, hrun.trans hrun'⟩

theorem Grows.refl (g : Registry) : Grows g g :=
  isCourse_grows.refl g

theorem Grows.trans (h : Grows g g') (h' : Grows g' g'') : Grows g g'' :=
  isCourse_grows.trans h h'

/-- What holds of new resources and survives moves holds of all resources of a registry that has
grown. -/
theorem Grows.forall_resource? {P : Resource → Prop} (h : Grows g g') (hnew : ∀ r, r.IsNew → P r)
    (hmoves : ∀ r r', P r → ReflTransGen Resource.Move r r' → P r')
    (hall : ∀ id r, g.resource? id = some r → P r) : ∀ id r, g'.resource? id = some r → P r := by
  intro id r' hr'
  cases hr : g.resource? id with
  | some r =>
    obtain ⟨q, hq, hrun⟩ := h.kept id r hr
    rw [hr'] at hq
    exact hmoves r r' (hall id r hr) (Option.some.inj hq ▸ hrun)
  | none =>
    obtain ⟨r, hblank, hrun⟩ := h.created id r' hr hr'
    exact hmoves r r' (hnew r hblank) hrun

theorem Evolves.grows (hR : ∀ r r', R r r' → Resource.Move r r') (h : Evolves R g g') :
    Grows g g' := by
  refine ⟨fun id r hr => ?_, fun id r' hnone hr' => ?_⟩
  · obtain ⟨r', hr', hrun⟩ := h.kept id r hr
    exact ⟨r', hr', ReflTransGen.mono hR _ _ hrun⟩
  · obtain ⟨r, hr, -⟩ := h.exists_resource?_of hr'
    rw [hnone] at hr
    cases hr

theorem grows_pushResource (g : Registry) {r : Resource} (hr : r.IsNew) :
    Grows g (g.pushResource r).1 := by
  refine ⟨fun id q hq => ⟨q, ?_, .refl⟩, fun id q hnone hq => ?_⟩
  · rw [resource?_pushResource, hq, Option.some_or]
  · rw [resource?_pushResource, hnone, Option.none_or] at hq
    split_ifs at hq
    obtain rfl := Option.some.inj hq
    exact ⟨{ r with id := ⟨g.nextId⟩ }, ⟨hr.changes, hr.fitted⟩, .refl⟩

end Registry

end ZigbeeGateway
