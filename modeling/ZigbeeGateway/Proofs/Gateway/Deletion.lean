import ZigbeeGateway.Proofs.Gateway.Sending
import ZigbeeGateway.Proofs.Setup.Parts

/-!
# Deletion is final

Deleted resources stay in the registry under their numbers.  Everything that changes a resource looks
for a live one first, by its number or its unique id, so what is deleted *rests*: it stays exactly as
it is, whatever happens to the gateway (`rests_step`).  A device that is added and set up again gets
new resources for its parts, although these have the unique ids of the old ones.

The node of a device is no resource in this sense: nothing finds it by its number.
-/

namespace ZigbeeGateway

open Relation

namespace Registry

variable {g g' g'' : Registry} {id : ResourceId} {r : Resource}

/-! ### What is deleted rests -/

/-- What is deleted stays exactly as it is. -/
def Rests (g g' : Registry) : Prop :=
  ∀ id r, g.resource? id = some r → r.deleted = true → g'.resource? id = some r

theorem isCourse_rests : IsCourse Rests where
  of_lookup hlookup id _ hr _ := (hlookup id).trans hr
  trans h h' id r hr hdeleted := h' id r (h id r hr hdeleted) hdeleted

theorem Rests.refl (g : Registry) : Rests g g :=
  isCourse_rests.refl g

theorem Rests.trans (h : Rests g g') (h' : Rests g' g'') : Rests g g'' :=
  isCourse_rests.trans h h'

/-- A change of one resource that leaves it alone if it is deleted. -/
theorem rests_modifyResource {f : Resource → Resource} (hid : ∀ r, r.id = id → (f r).id = id)
    (hf : ∀ r, g.resource? id = some r → r.deleted = true → f r = r) :
    Rests g (g.modifyResource id f) := by
  intro id' r hr hdeleted
  rw [resource?_modifyResource g hid]
  split_ifs with h
  · subst h
    rw [hr, Option.map_some, hf r hr hdeleted]
  · exact hr

/-- A change of a live resource. -/
theorem rests_modifyResource_of_live {f : Resource → Resource} (hlive : g.live? id = some r)
    (hid : ∀ r, r.id = id → (f r).id = id) : Rests g (g.modifyResource id f) := by
  obtain ⟨hr, halive⟩ := live?_eq_some_iff.mp hlive
  refine rests_modifyResource hid fun q hq hdeleted => ?_
  rw [← Option.some.inj (hr.symm.trans hq), halive] at hdeleted
  cases hdeleted

theorem rests_pushResource (g : Registry) (r : Resource) : Rests g (g.pushResource r).1 := by
  intro id q hq _
  rw [resource?_pushResource, hq, Option.some_or]

theorem rests_addResource (h : g.addResource r = .ok (g', id)) : Rests g g' := by
  unfold addResource at h
  split_ifs at h
  have hregistry : (g.pushResource r).1 = g' := congrArg Prod.fst (Except.ok.inj h)
  exact hregistry ▸ rests_pushResource g r

theorem rests_deleteResource (g : Registry) (id : ResourceId) : Rests g (g.deleteResource id) := by
  refine rests_modifyResource (fun r hr => ?_) fun r _ hdeleted => if_pos hdeleted
  split_ifs <;> exact hr

theorem rests_deleteDevice (g : Registry) (a : ExtAddress) : Rests g (g.deleteDevice a) :=
  isCourse_rests.deleteDevice rests_deleteResource g a

theorem rests_ensureResource (g : Registry) (kind : ResourceKind) (typeName : String)
    (u : UniqueId) (created : Instant) :
    Rests g (g.ensureResource kind typeName u created).1 := by
  unfold ensureResource
  split
  · exact .refl g
  · exact rests_pushResource g _

/-- **The resource with a number is gone**: nothing live is found under it or has it. -/
theorem Coherent.id_ne_of_mem (h : g.Coherent) (hgone : g.live? id = none) {q : Resource}
    (hmem : q ∈ g.resources) (hdeleted : q.deleted = false) : q.id ≠ id := by
  rintro rfl
  rw [live?_eq_some_iff.mpr ⟨h.resource?_of_mem hmem, hdeleted⟩] at hgone
  cases hgone

/-- Deletion leaves resources their items and their ETags. -/
theorem exists_resource?_deleteResource (g : Registry) (id' : ResourceId)
    (hr : g.resource? id = some r) :
    ∃ r', (g.deleteResource id').resource? id = some r' ∧ r'.items = r.items ∧
      r'.etag = r.etag := by
  unfold deleteResource
  rw [resource?_modifyResource]
  · split_ifs with h
    · subst h
      rw [hr, Option.map_some]
      exact ⟨_, rfl, by split_ifs <;> rfl, by split_ifs <;> rfl⟩
    · exact ⟨r, hr, rfl, rfl⟩
  · intro r hr
    split_ifs <;> exact hr

@[inherit_doc exists_resource?_deleteResource]
theorem exists_resource?_deleteDevice (g : Registry) (a : ExtAddress)
    (hr : g.resource? id = some r) :
    ∃ r', (g.deleteDevice a).resource? id = some r' ∧ r'.items = r.items ∧ r'.etag = r.etag := by
  refine rel_deleteDevice
    (P := fun g g' => ∀ r, g.resource? id = some r →
      ∃ r', g'.resource? id = some r' ∧ r'.items = r.items ∧ r'.etag = r.etag)
    (fun _ r hr => ⟨r, hr, rfl, rfl⟩) (fun _ _ _ h h' r hr => ?_) (fun _ _ r hr => ⟨r, hr, rfl, rfl⟩)
    (fun g id' r hr => exists_resource?_deleteResource g id' hr) g a r hr
  obtain ⟨r', hr', hitems, hetag⟩ := h r hr
  obtain ⟨r'', hr'', hitems', hetag'⟩ := h' r' hr'
  exact ⟨r'', hr'', hitems'.trans hitems, hetag'.trans hetag⟩

end Registry

namespace Premises

/-- Setting up one part changes a live resource. -/
theorem rests_setUpSubDevice {p : Premises} (h : p.registry.Coherent) (o : Occasion)
    (handle? : Nat → Option TemplateHandle) (s : SubDevice) (kind : ResourceKind) (u : UniqueId) :
    Registry.Rests p.registry (p.setUpSubDevice o handle? s kind u).1.registry := by
  obtain ⟨registry, id, f, hensure, -, hframe, heq, -⟩ := p.setUpSubDevice_cases o handle? s kind u
  obtain ⟨-, -, r, hlive, -⟩ := h.ensureResource o.address hensure
  have hensured : Registry.Rests p.registry registry := by
    have hrests := p.registry.rests_ensureResource kind s.type u o.created
    rwa [hensure] at hrests
  rw [heq]
  refine hensured.trans (Registry.Rests.trans (Registry.isCourse_rests.of_resources_eq rfl)
    (Registry.rests_modifyResource_of_live (r := r) hlive fun q hq => ?_))
  exact (Resource.id_of_frame_eq (hframe q)).trans hq

end Premises

namespace Gateway

variable {g g' start : Gateway} {id : ResourceId} {r : Resource} {e : GatewayEvent}
  {new : List TaskRequest}

/-- What is confined to a live resource leaves alone what is deleted. -/
theorem Confined.rests (h : Confined id new g g') (hlive : g.registry.live? id = some r) :
    Registry.Rests g.registry g'.registry := by
  obtain ⟨hr, halive⟩ := Registry.live?_eq_some_iff.mp hlive
  intro id' q hq hdeleted
  by_cases hid : id' = id
  · subst hid
    rw [← Option.some.inj (hr.symm.trans hq), halive] at hdeleted
    cases hdeleted
  · rw [h.others id' hid, hq]

theorem rests_applyReport {suffix : String} {v : Value} {o : SetOutcome}
    (h : g.applyReport id suffix v = .ok (g', o)) : Registry.Rests g.registry g'.registry := by
  obtain ⟨r, -, -, hlive, -⟩ := applyReport_cases h
  exact (confined_applyReport h).rests hlive

theorem rests_initDevice (h : g.registry.Coherent) (a : ExtAddress) :
    Registry.Rests g.registry (g.initDevice a).1.registry :=
  rel_initDevice Registry.isCourse_rests g a fun d _ _ _ _ _ _ _ happly =>
    Premises.rel_applyDescription Registry.isCourse_rests
      (fun _ _ _ o handle? s kind _ h => Premises.rests_setUpSubDevice h o handle? s kind _)
      (h.keeps (g.keeps_recallIfUnknown a d).1) happly

theorem rests_tick (g : Gateway) : Registry.Rests g.registry g.tick.1.registry := by
  intro id r hr hdeleted
  have hid : ∀ r : Resource, (if r.deleted then r else (r.dueRequests g.now).1).id = r.id := by
    intro r
    split_ifs
    · rfl
    · exact Resource.id_of_frame_eq (frame_dueRequests r g.now)
  unfold tick
  dsimp only
  rw [registry_sendAll]
  refine (g.registry.resource?_map hid id).trans ?_
  rw [hr, Option.map_some, if_pos hdeleted]

/-- **What is deleted stays exactly as it is**, whatever happens to the gateway. -/
theorem rests_step (h : g.Regular) (e : GatewayEvent) :
    Registry.Rests g.registry (g.step e).registry := by
  cases e with
  | deviceAdded address manufacturer model =>
    exact Registry.isCourse_rests.of_resources_eq (g.resources_addDevice address manufacturer model)
  | deviceSetUp address => exact rests_initDevice h.coherent address
  | resourceAdded kind typeName uniqueId items =>
    rw [step]
    split
    · rename_i hadd
      exact Registry.rests_addResource hadd
    · exact .refl _
  -- A write, a report and a tick change items and changes of live resources alone.
  | written id suffix v =>
    rw [step]
    cases hlive : g.registry.live? id with
    | none =>
      unfold writeItem
      rw [hlive]
      exact .refl _
    | some r =>
      have hr := (Registry.live?_eq_some_iff.mp hlive).1
      obtain ⟨new, hconfined, -⟩ :=
        confined_writeItem hlive (h.owns id r hr) (h.sound id r hr).distinct suffix v
      exact hconfined.rests hlive
  | reported id suffix v =>
    rw [step, report]
    split
    · exact rests_applyReport ‹_›
    · exact .refl _
  | received indication =>
    rw [step]
    unfold handleIndication
    split
    · exact .refl _
    · dsimp only
      split
      · exact .refl _
      · split
        · rename_i happly
          exact rests_applyReport (g := g.emit [.decoded indication]) happly
        · exact .refl _
  | ticked => exact rests_tick g
  | resourceDeleted id => exact g.registry.rests_deleteResource id
  | deviceDeleted address => exact g.registry.rests_deleteDevice address
  | outside change => exact .refl _

theorem rests_run (h : g.Regular) (later : List GatewayEvent) :
    Registry.Rests g.registry (g.run later).registry := by
  induction later generalizing g with
  | nil => exact .refl _
  | cons e later ih => exact (rests_step h e).trans (ih (h.step e))

/-! ### What is gone -/

/-- An event deletes the resource with a number, on its own or with a device that links it. -/
def Deletes (g : Gateway) (id : ResourceId) : GatewayEvent → Prop
  | .resourceDeleted id' => id' = id
  | .deviceDeleted a => ∃ d, g.registry.device? a = some d ∧ id ∈ d.links.map Prod.snd
  | _ => False

/-- A resource is gone from the gateway: it is kept as it was, is never live, written, reported to or
found, and no task is asked for it. -/
structure IsGone (g : Gateway) (id : ResourceId) (r : Resource) : Prop where
  /-- Its items and its ETag are the ones that it had. -/
  kept : ∃ r', g.registry.resource? id = some r' ∧ r'.deleted = true ∧ r'.items = r.items ∧
    r'.etag = r.etag
  dead : g.registry.live? id = none ∧ ∀ q ∈ g.registry.live, q.id ≠ id
  unwritable : ∀ suffix v, g.writeItem id suffix v = (g, .error (.resourceNotFound id.text))
  unreportable : ∀ suffix v, g.applyReport id suffix v = .error (.resourceNotFound id.text)
  unfound : ∀ a endpoint typeStart q, g.registry.find? a endpoint typeStart = some q → q.id ≠ id
  unnamed : ∀ u q, g.registry.byUniqueId? u = some q → q.id ≠ id
  unlinked : ∀ a u q, g.registry.subDevice? a u = some q → q.id ≠ id
  unseen : ∀ category, g.view? id category = none
  /-- The next event asks for no task of the resource. -/
  unasked : ∀ e, (∀ change, e ≠ .outside change) →
    ∃ new, (g.step e).requests = g.requests ++ new ∧ ∀ q ∈ new, q.resource ≠ id

/-- What is deleted is gone. -/
theorem Regular.isGone (h : g.Regular) {r' : Resource} (hr' : g.registry.resource? id = some r')
    (hdeleted : r'.deleted = true) (hitems : r'.items = r.items) (hetag : r'.etag = r.etag) :
    g.IsGone id r := by
  have hdead : g.registry.live? id = none := by
    unfold Registry.live?
    rw [hr']
    simp [hdeleted]
  -- The lookups below all search for live resources, and no such resource has the identifier.
  have hother : ∀ q ∈ g.registry.resources, q.deleted = false → q.id ≠ id :=
    fun q hmem => h.coherent.id_ne_of_mem hdead hmem
  refine ⟨⟨r', hr', hdeleted, hitems, hetag⟩, ⟨hdead, fun q hq => ?_⟩, fun suffix v => ?_,
    fun suffix v => ?_, fun a endpoint typeStart q hq => ?_, fun u q hq => ?_, fun a u q hq => ?_,
    fun category => ?_, fun e hinside => ?_⟩
  · obtain ⟨hmem, halive⟩ := List.mem_filter.mp hq
    exact hother q hmem (by simpa using halive)
  · unfold writeItem
    rw [hdead]
  · unfold applyReport
    rw [hdead]
  · have halive := List.find?_some hq
    simp only [Bool.and_eq_true, Bool.not_eq_true'] at halive
    exact hother q (List.mem_of_find?_eq_some hq) halive.1.1.1
  · have halive := List.find?_some hq
    simp only [Bool.and_eq_true, Bool.not_eq_true'] at halive
    exact hother q (List.mem_of_find?_eq_some hq) halive.1
  · simp only [Registry.subDevice?, Option.bind_eq_bind, Option.bind_eq_some_iff] at hq
    obtain ⟨d, -, id', -, hlive⟩ := hq
    obtain ⟨hq, halive⟩ := Registry.live?_eq_some_iff.mp hlive
    exact hother q (List.mem_of_find?_eq_some hq) halive
  · unfold view?
    rw [hdead]
    rfl
  · -- Requests are made of live resources only, so none of this one is made by a later event.
    obtain ⟨new, hrequests, hlive⟩ := requests_step h hinside
    refine ⟨new, hrequests, fun q hq heq => ?_⟩
    obtain ⟨r, hr⟩ := hlive q hq
    rw [heq, hdead] at hr
    cases hr

/-- An event that deletes a resource leaves its items and its ETag. -/
theorem exists_deleted (hr : g.registry.resource? id = some r) (he : g.Deletes id e) :
    ∃ r', (g.step e).registry.resource? id = some r' ∧ r'.deleted = true ∧ r'.items = r.items ∧
      r'.etag = r.etag := by
  obtain ⟨r', hr', hitems, hetag, hdead⟩ : ∃ r', (g.step e).registry.resource? id = some r' ∧
      r'.items = r.items ∧ r'.etag = r.etag ∧ (g.step e).registry.live? id = none := by
    -- A resource is deleted by its number or with the device that links it.
    cases e with
    | resourceDeleted id' =>
      obtain rfl : id' = id := he
      obtain ⟨r', hr', hitems, hetag⟩ := g.registry.exists_resource?_deleteResource id' hr
      refine ⟨r', hr', hitems, hetag, ?_⟩
      exact (g.registry.live?_deleteResource id' id').trans (if_pos rfl)
    | deviceDeleted a =>
      obtain ⟨d, hd, hlinked⟩ := he
      obtain ⟨r', hr', hitems, hetag⟩ := g.registry.exists_resource?_deleteDevice a hr
      exact ⟨r', hr', hitems, hetag, (Registry.live?_deleteDevice hd id).trans (if_pos hlinked)⟩
    | _ => cases he
  refine ⟨r', hr', ?_, hitems, hetag⟩
  cases hdeleted : r'.deleted with
  | true => rfl
  | false =>
    rw [Registry.live?_eq_some_iff.mpr ⟨hr', hdeleted⟩] at hdead
    cases hdead

/-- **Deletion is final.**  After any history that begins with an empty registry, let an event delete
a resource, on its own or with a device that links it.  The resource is gone then, and it is gone
after everything that may happen later. -/
theorem isGone_of_deleted (hstart : start.registry = {}) (history : List GatewayEvent)
    (hr : (start.run history).registry.resource? id = some r)
    (he : (start.run history).Deletes id e) (later : List GatewayEvent) :
    (start.run (history ++ e :: later)).IsGone id r := by
  obtain ⟨r', hr', hdeleted, hitems, hetag⟩ := exists_deleted hr he
  have hregular := (regular_run hstart history).step e
  have hrests := rests_run hregular later id r' hr' hdeleted
  have hrun : start.run (history ++ e :: later) = ((start.run history).step e).run later := by
    rw [run_append]
    rfl
  have hregular' := regular_run hstart (history ++ e :: later)
  rw [hrun] at hregular' ⊢
  exact hregular'.isGone hrests hdeleted hitems hetag

/-- A thermometer is deleted and comes back: its old part is gone, and it has a new one. -/
theorem old_part_is_gone :
    let history : List GatewayEvent := [.deviceAdded ⟨1⟩ "A" "m", .deviceSetUp ⟨1⟩]
    let g := plainThermometer.run (history ++ .deviceDeleted ⟨1⟩ :: history)
    (∃ r, (plainThermometer.run history).registry.live? ⟨2⟩ = some r ∧ g.IsGone ⟨2⟩ r) ∧
      g.registry.live.map (·.id) = [⟨3⟩] := by
  intro history g
  have hlive : ((plainThermometer.run history).registry.live? ⟨2⟩).isSome = true := by
    decide +kernel
  have hlinked : ((plainThermometer.run history).registry.device? ⟨1⟩).any
      (fun d => decide (⟨2⟩ ∈ d.links.map Prod.snd)) = true := by
    decide +kernel
  obtain ⟨r, hr⟩ := Option.isSome_iff_exists.mp hlive
  obtain ⟨d, hd, hmem⟩ := (Option.any_eq_true _ _).mp hlinked
  have hdeletes : (plainThermometer.run history).Deletes ⟨2⟩ (.deviceDeleted ⟨1⟩) :=
    ⟨d, hd, of_decide_eq_true hmem⟩
  refine ⟨⟨r, hr, ?_⟩, by decide +kernel⟩
  exact isGone_of_deleted rfl history (Registry.live?_eq_some_iff.mp hr).1 hdeletes history

end Gateway

end ZigbeeGateway
