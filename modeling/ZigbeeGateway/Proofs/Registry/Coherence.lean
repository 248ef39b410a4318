import ZigbeeGateway.Proofs.Registry.Evolution

/-!
# Coherent registries

A registry is *coherent* if no number is given out twice, no two live resources share a unique id,
and every device links resources under the unique ids that they have.  A registry that *keeps* what
it has stays coherent (`Coherent.keeps`); so it does when a resource with a free unique id comes in
(`Coherent.pushResource`) and when a device links a resource under its unique id
(`Coherent.addLink`).

Resources are linked by number and deleted without their links, so a link may be *stale*: its
resource is deleted.
-/

namespace ZigbeeGateway

open Relation

/-! ### Resources that last -/

namespace Resource

variable {r r' : Resource}

/-- One resource at two times: it has its unique id, and is not brought back once it is deleted. -/
def Lasts (r r' : Resource) : Prop :=
  r'.uniqueId = r.uniqueId ∧ (r.deleted = true → r'.deleted = true)

theorem lasts_of_frame_eq (h : r'.frame = r.frame) : r.Lasts r' := by
  refine ⟨uniqueId_of_frame_eq h, fun hdeleted => ?_⟩
  rw [deleted_of_frame_eq h, hdeleted]

theorem Traffic.lasts {touched : String → Prop} (h : Traffic touched r r') : r.Lasts r' :=
  lasts_of_frame_eq (Traffic.sameShape_run (.single h)).frame

theorem lasts_run (h : ReflTransGen Lasts r r') : r.Lasts r' := by
  induction h with
  | refl => exact ⟨rfl, fun h => h⟩
  | tail _ hstep ih => exact ⟨hstep.1.trans ih.1, fun hdeleted => hstep.2 (ih.2 hdeleted)⟩

end Resource

/-! ### Links -/

namespace Device

variable {d : Device} {u u' : UniqueId} {id : ResourceId}

theorem address_addLink (d : Device) (u : UniqueId) (id : ResourceId) :
    (d.addLink u id).address = d.address := by
  unfold addLink
  split_ifs <;> rfl

theorem link?_addLink (d : Device) (u : UniqueId) (id : ResourceId) (u' : UniqueId) :
    (d.addLink u id).link? u' = (d.link? u').or (if u' = u then some id else none) := by
  unfold addLink
  split_ifs with hlinked hu hu
  · subst hu
    obtain ⟨old, hold⟩ := Option.isSome_iff_exists.mp hlinked
    rw [hold, Option.some_or]
  · rw [Option.or_none]
  · subst hu
    rw [link?, link?, List.lookup_append, List.lookup_cons_self]
  · rw [link?, link?, List.lookup_append, List.lookup_cons, List.lookup_nil, beq_false_of_ne hu]

end Device

namespace Registry

variable {g g' g'' : Registry} {a : ExtAddress} {u : UniqueId} {id : ResourceId} {r r' : Resource}
  {d : Device}

theorem device?_modifyDevice (g : Registry) {f : Device → Device}
    (hf : ∀ d, d.address = a → (f d).address = a) (b : ExtAddress) :
    (g.modifyDevice a f).device? b = if b = a then (g.device? a).map f else g.device? b :=
  find?_map_update Device.address a f hf g.devices b

/-- Links have unique ids of their own, and each names a resource by the unique id that it has. -/
structure Resolves (g : Registry) (links : List (UniqueId × ResourceId)) : Prop where
  keys : (links.map Prod.fst).Nodup
  named : ∀ u id, (u, id) ∈ links → ∃ r, g.resource? id = some r ∧ r.uniqueId = u

/-- A link of a resource under its unique id may be added. -/
theorem Resolves.addLink (h : g.Resolves d.links) (hr : g.resource? id = some r)
    (hu : r.uniqueId = u) : g.Resolves (d.addLink u id).links := by
  unfold Device.addLink
  split_ifs with hlinked
  · exact h
  · refine ⟨?_, fun u' id' hmem => ?_⟩
    · rw [List.map_append, List.nodup_append]
      refine ⟨h.keys, List.nodup_singleton _, fun u' hu' v hv heq => hlinked ?_⟩
      obtain ⟨⟨k, i⟩, hmem, rfl⟩ := List.mem_map.mp hu'
      obtain rfl := List.mem_singleton.mp hv
      rw [Device.link?, ← heq, lookup_of_mem h.keys hmem]
      rfl
    · rcases List.mem_append.mp hmem with hold | hnew
      · exact h.named u' id' hold
      · obtain ⟨rfl, rfl⟩ := Prod.mk.inj (List.mem_singleton.mp hnew)
        exact ⟨r, hr, hu⟩

/-- Numbers are given out once, unique ids of live resources are their own, and devices link
resources under the unique ids that these have. -/
structure Coherent (g : Registry) : Prop where
  distinct : (g.resources.map Resource.id).Nodup
  issued : ∀ id ∈ g.resources.map Resource.id, id.value < g.nextId
  apart : ∀ id id' r r', g.live? id = some r → g.live? id' = some r' → r.uniqueId = r'.uniqueId →
    id = id'
  links : ∀ d ∈ g.devices, g.Resolves d.links

theorem coherent_empty : Coherent {} := by
  refine ⟨List.nodup_nil, ?_, ?_, ?_⟩
  · intro _ h
    cases h
  · intro _ _ _ _ h
    cases (live?_eq_some_iff.mp h).1
  · intro _ h
    cases h

namespace Coherent

/-- Every resource of the list is found under its number. -/
theorem resource?_of_mem (h : Coherent g) (hr : r ∈ g.resources) : g.resource? r.id = some r :=
  find?_key_of_mem Resource.id h.distinct hr

/-- What is found by a unique id is live and has this unique id. -/
theorem live?_of_byUniqueId? (h : Coherent g) (hr : g.byUniqueId? u = some r) :
    g.live? r.id = some r ∧ r.uniqueId = u := by
  have hfound := List.find?_some hr
  simp only [Bool.and_eq_true, Bool.not_eq_true', decide_eq_true_eq] at hfound
  have hresource := h.resource?_of_mem (List.mem_of_find?_eq_some hr)
  exact ⟨live?_eq_some_iff.mpr ⟨hresource, hfound.1⟩, hfound.2⟩

theorem resource?_of_byUniqueId? (h : Coherent g) (hr : g.byUniqueId? u = some r) :
    g.resource? r.id = some r :=
  (live?_eq_some_iff.mp (h.live?_of_byUniqueId? hr).1).1

end Coherent

/-- No live resource has a unique id that is not found. -/
theorem uniqueId_ne_of_byUniqueId?_eq_none (h : g.byUniqueId? u = none) (hr : g.live? id = some r) :
    r.uniqueId ≠ u := by
  obtain ⟨hresource, hdeleted⟩ := live?_eq_some_iff.mp hr
  intro hu
  have hmissing := List.find?_eq_none.mp h r (List.mem_of_find?_eq_some hresource)
  simp [hdeleted, hu] at hmissing

/-! ### Keeping -/

/-- The resources last, and no device has a link that was not there. -/
structure Keeps (g g' : Registry) : Prop where
  resources : Evolves Resource.Lasts g g'
  links : ∀ d' ∈ g'.devices, d'.links = [] ∨ ∃ d ∈ g.devices, d'.links = d.links

namespace Keeps

theorem refl (g : Registry) : Keeps g g :=
  ⟨.refl _ g, fun d hd => .inr ⟨d, hd, rfl⟩⟩

theorem trans (h : Keeps g g') (h' : Keeps g' g'') : Keeps g g'' := by
  refine ⟨h.resources.trans h'.resources, fun d'' hd'' => ?_⟩
  rcases h'.links d'' hd'' with hnone | ⟨d', hd', heq⟩
  · exact .inl hnone
  · rw [heq]
    exact h.links d' hd'

theorem of_evolves (h : Evolves Resource.Lasts g g') (hdevices : g'.devices = g.devices) :
    Keeps g g' :=
  ⟨h, fun d hd => .inr ⟨d, hdevices ▸ hd, rfl⟩⟩

end Keeps

theorem keeps_modifyResource (g : Registry) (id : ResourceId) {f : Resource → Resource}
    (hid : ∀ r, (f r).id = r.id) (hf : ∀ r : Resource, r.Lasts (f r)) :
    Keeps g (g.modifyResource id f) :=
  .of_evolves (evolves_modifyResource (fun r hr => (hid r).trans hr) fun r _ => .single (hf r)) rfl

theorem keeps_modifyDevice (g : Registry) (a : ExtAddress) {f : Device → Device}
    (hf : ∀ d, (f d).links = d.links) : Keeps g (g.modifyDevice a f) := by
  refine ⟨⟨fun _ r hr => ⟨r, hr, .refl⟩, rfl, Nat.le_refl _⟩, fun d' hd' => ?_⟩
  obtain ⟨d, hd, rfl⟩ := List.mem_map.mp hd'
  refine .inr ⟨d, hd, ?_⟩
  split_ifs
  · exact hf d
  · rfl

theorem keeps_ensureDevice (g : Registry) (a : ExtAddress) (created : Instant) :
    Keeps g (g.ensureDevice a created) := by
  unfold ensureDevice
  split_ifs
  · exact .refl g
  · refine ⟨⟨fun _ r hr => ⟨r, hr, .refl⟩, rfl, Nat.le_succ _⟩, fun d hd => ?_⟩
    rcases List.mem_append.mp hd with hold | hnew
    · exact .inr ⟨d, hold, rfl⟩
    · obtain rfl := List.mem_singleton.mp hnew
      exact .inl rfl

theorem keeps_deleteResource (g : Registry) (id : ResourceId) : Keeps g (g.deleteResource id) := by
  apply keeps_modifyResource
  · intro r
    split_ifs <;> rfl
  · intro r
    split_ifs with hdeleted
    · exact ⟨rfl, fun h => h⟩
    · exact ⟨rfl, fun _ => rfl⟩

theorem keeps_deleteDevice (g : Registry) (a : ExtAddress) : Keeps g (g.deleteDevice a) := by
  apply rel_deleteDevice Keeps.refl fun _ _ _ h h' => h.trans h'
  · exact fun g a => keeps_modifyDevice g a (f := Device.markDeleted) fun _ => rfl
  · exact keeps_deleteResource

/-! ### Staying coherent -/

namespace Coherent

/-- **A registry that keeps what it has stays coherent.** -/
theorem keeps (h : Coherent g) (hkeeps : Keeps g g') : Coherent g' := by
  -- Nothing is brought back: what is live was live, under its unique id.
  have hback : ∀ id r', g'.live? id = some r' →
      ∃ r, g.live? id = some r ∧ r.uniqueId = r'.uniqueId := by
    intro id r' hlive
    obtain ⟨hr', hdeleted'⟩ := live?_eq_some_iff.mp hlive
    obtain ⟨r, hr, hrun⟩ := hkeeps.resources.exists_resource?_of hr'
    obtain ⟨hunique, hdeleted⟩ := Resource.lasts_run hrun
    refine ⟨r, live?_eq_some_iff.mpr ⟨hr, ?_⟩, hunique.symm⟩
    cases hgone : r.deleted with
    | false => rfl
    | true =>
      rw [hdeleted hgone] at hdeleted'
      cases hdeleted'
  refine ⟨?_, fun id hid => ?_, fun id id' r r' hr hr' heq => ?_, fun d' hd' => ?_⟩
  · rw [hkeeps.resources.ids]
    exact h.distinct
  · rw [hkeeps.resources.ids] at hid
    exact Nat.lt_of_lt_of_le (h.issued id hid) hkeeps.resources.issued
  · obtain ⟨q, hq, hunique⟩ := hback id r hr
    obtain ⟨q', hq', hunique'⟩ := hback id' r' hr'
    exact h.apart id id' q q' hq hq' (hunique.trans (heq.trans hunique'.symm))
  · rcases hkeeps.links d' hd' with hnone | ⟨d, hd, heq⟩
    · rw [hnone]
      exact ⟨List.nodup_nil, fun _ _ hmem => by cases hmem⟩
    · rw [heq]
      refine ⟨(h.links d hd).keys, fun u id hmem => ?_⟩
      obtain ⟨r, hr, hunique⟩ := (h.links d hd).named u id hmem
      obtain ⟨r', hr', hrun⟩ := hkeeps.resources.kept id r hr
      exact ⟨r', hr', (Resource.lasts_run hrun).1.trans hunique⟩

theorem resource?_nextId (h : Coherent g) : g.resource? ⟨g.nextId⟩ = none := by
  cases hr : g.resource? ⟨g.nextId⟩ with
  | none => rfl
  | some r =>
    have hissued := h.issued r.id (List.mem_map_of_mem (List.mem_of_find?_eq_some hr))
    rw [id_of_resource? hr] at hissued
    exact absurd hissued (Nat.lt_irrefl _)

theorem resource?_pushResource_self (h : Coherent g) (r : Resource) :
    (g.pushResource r).1.resource? ⟨g.nextId⟩ = some { r with id := ⟨g.nextId⟩ } := by
  rw [resource?_pushResource, h.resource?_nextId, Option.none_or, if_pos rfl]

/-- **A resource with a free unique id may come in.** -/
theorem pushResource (h : Coherent g) (hfree : g.byUniqueId? r.uniqueId = none) :
    Coherent (g.pushResource r).1 := by
  -- What is live is an old resource or the new one.
  have hlive : ∀ id q, (g.pushResource r).1.live? id = some q →
      g.live? id = some q ∨ (id = ⟨g.nextId⟩ ∧ q.uniqueId = r.uniqueId) := by
    intro id q hq
    obtain ⟨hq, hdeleted⟩ := live?_eq_some_iff.mp hq
    rw [resource?_pushResource] at hq
    rcases Option.or_eq_some_iff.mp hq with hold | ⟨-, hnew⟩
    · exact .inl (live?_eq_some_iff.mpr ⟨hold, hdeleted⟩)
    · split_ifs at hnew with hid
      obtain rfl := Option.some.inj hnew
      exact .inr ⟨hid.symm, rfl⟩
  have hids : (g.pushResource r).1.resources.map Resource.id =
      g.resources.map Resource.id ++ [⟨g.nextId⟩] := by
    simp [Registry.pushResource]
  refine ⟨?_, fun id hid => ?_, fun id id' q q' hq hq' heq => ?_, fun d hd => ?_⟩
  · rw [hids, List.nodup_append]
    refine ⟨h.distinct, List.nodup_singleton _, fun id hid id' hid' heq => ?_⟩
    have hissued := h.issued id hid
    rw [heq, List.mem_singleton.mp hid'] at hissued
    exact absurd hissued (Nat.lt_irrefl _)
  · rw [hids] at hid
    show id.value < g.nextId + 1
    rcases List.mem_append.mp hid with hold | hnew
    · exact Nat.lt_succ_of_lt (h.issued id hold)
    · rw [List.mem_singleton.mp hnew]
      exact Nat.lt_succ_self _
  · rcases hlive id q hq with hold | ⟨hid, hunique⟩ <;>
      rcases hlive id' q' hq' with hold' | ⟨hid', hunique'⟩
    · exact h.apart id id' q q' hold hold' heq
    · exact absurd (heq.trans hunique') (uniqueId_ne_of_byUniqueId?_eq_none hfree hold)
    · exact absurd (heq.symm.trans hunique) (uniqueId_ne_of_byUniqueId?_eq_none hfree hold')
    · rw [hid, hid']
  · refine ⟨(h.links d hd).keys, fun u id hmem => ?_⟩
    obtain ⟨q, hq, hunique⟩ := (h.links d hd).named u id hmem
    exact ⟨q, by rw [resource?_pushResource, hq, Option.some_or], hunique⟩

/-- **A device may link a resource** under the unique id that it has. -/
theorem addLink (h : Coherent g) (a : ExtAddress) (hr : g.resource? id = some r)
    (hu : r.uniqueId = u) : Coherent (g.modifyDevice a fun d => d.addLink u id) := by
  refine ⟨h.distinct, h.issued, h.apart, fun d' hd' => ?_⟩
  obtain ⟨d, hd, rfl⟩ := List.mem_map.mp hd'
  have hlinks : g.Resolves (if d.address = a then d.addLink u id else d).links := by
    split_ifs
    · exact (h.links d hd).addLink hr hu
    · exact h.links d hd
  exact ⟨hlinks.keys, hlinks.named⟩

end Coherent

/-! ### Stale links -/

/-- A device links a number under a unique id. -/
def Links (g : Registry) (a : ExtAddress) (u : UniqueId) (id : ResourceId) : Prop :=
  ∃ d, g.device? a = some d ∧ d.link? u = some id

/-- A device has a link of a unique id to a resource that is not live. -/
def IsStale (g : Registry) (a : ExtAddress) (u : UniqueId) : Prop :=
  ∃ id, g.Links a u id ∧ g.live? id = none

theorem links_congr (h : (g'.device? a).map Device.links = (g.device? a).map Device.links)
    (u : UniqueId) (id : ResourceId) : g'.Links a u id ↔ g.Links a u id := by
  have hlookup : ∀ g : Registry,
      g.Links a u id ↔ ((g.device? a).map Device.links).bind (·.lookup u) = some id := by
    intro g
    unfold Links
    cases g.device? a <;> simp [Device.link?]
  rw [hlookup, hlookup, h]

theorem Links.unique {id' : ResourceId} (h : g.Links a u id) (h' : g.Links a u id') : id = id' := by
  obtain ⟨d, hd, hid⟩ := h
  obtain ⟨d', hd', hid'⟩ := h'
  rw [hd] at hd'
  obtain rfl := Option.some.inj hd'
  rw [hid] at hid'
  exact Option.some.inj hid'

theorem subDevice?_of_links (h : g.Links a u id) : g.subDevice? a u = g.live? id := by
  obtain ⟨d, hd, hid⟩ := h
  simp only [subDevice?, hd, hid, Option.bind_eq_bind, Option.bind_some]

/-- In a coherent registry what a device links is there under its unique id. -/
theorem Coherent.exists_resource?_of_links (h : Coherent g) (hlinks : g.Links a u id) :
    ∃ r, g.resource? id = some r ∧ r.uniqueId = u := by
  obtain ⟨d, hd, hid⟩ := hlinks
  exact (h.links d (List.mem_of_find?_eq_some hd)).named u id (mem_of_lookup hid)

/-- The live resources after one was deleted. -/
theorem live?_deleteResource (g : Registry) (id id' : ResourceId) :
    (g.deleteResource id).live? id' = if id' = id then none else g.live? id' := by
  unfold live? deleteResource
  rw [resource?_modifyResource]
  · split_ifs with hid
    · cases g.resource? id with
      | none => rfl
      | some r =>
        rw [Option.map_some]
        split_ifs with hdeleted
        · simp [hdeleted]
        · rfl
    · rfl
  · intro r hr
    split_ifs
    · exact hr
    · exact hr

/-- **The live resources after a device was deleted**: all that it does not link. -/
theorem live?_deleteDevice (hd : g.device? a = some d) (id : ResourceId) :
    (g.deleteDevice a).live? id = if id ∈ d.links.map Prod.snd then none else g.live? id := by
  -- The links are followed one by one; the devices play no part.
  have hrun : ∀ (links : List (UniqueId × ResourceId)) (g : Registry),
      (links.foldl (fun g link => g.deleteResource link.2) g).live? id =
        if id ∈ links.map Prod.snd then none else g.live? id := by
    intro links
    induction links with
    | nil => exact fun g => by simp
    | cons link links ih =>
      intro g
      rw [List.foldl_cons, ih, live?_deleteResource, List.map_cons]
      by_cases hmem : id ∈ links.map Prod.snd
      · rw [if_pos hmem, if_pos (List.mem_cons_of_mem _ hmem)]
      · rw [if_neg hmem]
        simp [List.mem_cons, hmem]
  unfold deleteDevice
  rw [hd]
  exact hrun d.links _

end Registry

end ZigbeeGateway
