import Mathlib.Data.List.Induction
import Mathlib.Data.List.Perm.Basic
import ZigbeeGateway.Proofs.Gateway.SettingUp

/-!
# Numbers and unique ids

The nodes of devices and the other resources are numbered by one counter.  Deleted ones keep their
number and their unique id, and only what is live has a unique id to itself.  A registry is *numbered*
if it keeps to this.  Whatever happens to it on its own is refused and changes nothing, or leaves it
numbered (`undergo_cases`).

Nothing is asked of the devices and resources that are added: these may be deleted already, and a
device may link what is not there.
-/

namespace ZigbeeGateway

/-- Something that happens to a registry on its own. -/
inductive RegistryEvent : Type 1 where
  | deviceAdded (d : Device)
  /-- A device is looked up, and made if it is not there. -/
  | deviceEnsured (address : ExtAddress) (created : Instant)
  | resourceAdded (r : Resource)
  | resourceDeleted (id : ResourceId)
  | deviceDeleted (address : ExtAddress)
  /-- A device is set up, with anything that keeps items. -/
  | deviceSetUp {σ : Type} (store : Persistence σ) (kept : σ) (catalog : Catalog)
    (address : ExtAddress) (description : Nat) (created now : Instant)

namespace Registry

variable {g g' : Registry} {id : ResourceId} {r : Resource} {d : Device} {σ : Type}

/-- The registry after an event, and why the request was refused if it was. -/
def undergo (g : Registry) : RegistryEvent → Registry × Option Error
  | .deviceAdded d =>
    match g.addDevice d with
    | .ok g' => (g', none)
    | .error e => (g, some e)
  | .deviceEnsured address created => (g.ensureDevice address created, none)
  | .resourceAdded r =>
    match g.addResource r with
    | .ok (g', _) => (g', none)
    | .error e => (g, some e)
  | .resourceDeleted id => (g.deleteResource id, none)
  | .deviceDeleted address => (g.deleteDevice address, none)
  | .deviceSetUp store kept catalog address description created now =>
    let attempt := g.setUpDevice store kept catalog address description created now
    (attempt.registry, match attempt.answer with
      | .ok _ => none
      | .error e => some e)

/-- The registry after a history that begins with nothing. -/
def after (history : List RegistryEvent) : Registry :=
  history.foldl (fun g e => (g.undergo e).1) {}

/-! ### Numbers -/

/-- The numbers of all nodes and all other resources, deleted or not. -/
def numbers (g : Registry) : List ResourceId :=
  g.devices.map (·.node.id) ++ g.resources.map Resource.id

/-- One counter has numbered everything, and what is live has a unique id to itself. -/
structure Numbered (g : Registry) : Prop where
  distinct : g.numbers.Nodup
  issued : ∀ id ∈ g.numbers, id.value < g.nextId
  /-- No number was given out in vain. -/
  counted : g.nextId = g.numbers.length + 1
  named : ∀ r ∈ g.resources, r.uniqueId.isEmpty = false
  apart : (g.live.map Resource.uniqueId).Nodup

theorem numbered_empty : Numbered {} :=
  ⟨List.nodup_nil, List.forall_mem_nil _, rfl, List.forall_mem_nil _, List.nodup_nil⟩

theorem numbers_pushDevice (g : Registry) (d : Device) :
    (g.pushDevice d).numbers.Perm (⟨g.nextId⟩ :: g.numbers) := by
  unfold numbers pushDevice
  rw [List.map_append, List.map_singleton, List.append_assoc]
  exact List.perm_middle

theorem numbers_pushResource (g : Registry) (r : Resource) :
    (g.pushResource r).1.numbers.Perm (⟨g.nextId⟩ :: g.numbers) := by
  unfold numbers pushResource
  rw [List.map_append, List.map_singleton, ← List.append_assoc]
  exact List.perm_append_singleton _ _

/-- Finishing a device leaves its node the number. -/
theorem id_node_finishDevice (d : Device) (sleeper : Option Bool) (now : Instant) :
    (Premises.finishDevice d sleeper now).node.id = d.node.id := by
  unfold Premises.finishDevice
  cases sleeper with
  | none => rfl
  | some b =>
    have hset : Relation.ReflTransGen (Resource.Traffic fun _ => True) d.node
        (d.node.setIfFits Suffix.sleeper (.bool b) now) :=
      Resource.traffic_setIfFits trivial d.node (.bool b) now
    exact Resource.id_of_frame_eq (Resource.Traffic.sameShape_run hset).frame

namespace Numbered

/-- The next number may be given out. -/
theorem give (h : Numbered g) (hnumbers : g'.numbers.Perm (⟨g.nextId⟩ :: g.numbers))
    (hnext : g'.nextId = g.nextId + 1) (hnamed : ∀ r ∈ g'.resources, r.uniqueId.isEmpty = false)
    (hapart : (g'.live.map Resource.uniqueId).Nodup) : Numbered g' := by
  have hfresh : (⟨g.nextId⟩ : ResourceId) ∉ g.numbers := fun hmem =>
    Nat.lt_irrefl _ (h.issued _ hmem)
  refine ⟨hnumbers.nodup_iff.mpr (List.nodup_cons.mpr ⟨hfresh, h.distinct⟩), fun id hid => ?_, ?_,
    hnamed, hapart⟩
  · rw [hnext]
    rcases List.mem_cons.mp (hnumbers.mem_iff.mp hid) with rfl | hold
    · exact Nat.lt_succ_self _
    · exact Nat.lt_succ_of_lt (h.issued id hold)
  · rw [hnext, hnumbers.length_eq, List.length_cons, h.counted]

theorem pushDevice (h : Numbered g) (d : Device) : Numbered (g.pushDevice d) :=
  h.give (numbers_pushDevice g d) rfl h.named h.apart

theorem ensureDevice (h : Numbered g) (a : ExtAddress) (created : Instant) :
    Numbered (g.ensureDevice a created) := by
  unfold Registry.ensureDevice
  split_ifs
  · exact h
  · exact h.pushDevice _

/-- A resource may come in with a unique id that is not empty and that no live resource has. -/
theorem pushResource (h : Numbered g) (hnamed : r.uniqueId.isEmpty = false)
    (hfree : g.byUniqueId? r.uniqueId = none) : Numbered (g.pushResource r).1 := by
  refine h.give (numbers_pushResource g r) rfl (fun q hq => ?_) ?_
  · rcases List.mem_append.mp hq with hold | hnew
    · exact h.named q hold
    · rw [List.mem_singleton.mp hnew]
      exact hnamed
  · have hlive : (g.pushResource r).1.live =
        g.live ++ if r.deleted then [] else [{ r with id := ⟨g.nextId⟩ }] := by
      unfold live Registry.pushResource
      rw [List.filter_append]
      cases r.deleted <;> simp
    rw [hlive, List.map_append, List.nodup_append]
    refine ⟨h.apart, ?_, fun u hu u' hu' heq => ?_⟩
    · split_ifs
      · exact List.nodup_nil
      · exact List.nodup_singleton _
    · -- A live resource with the unique id would have been found.
      obtain ⟨q, hq, rfl⟩ := List.mem_map.mp hu
      obtain rfl : u' = r.uniqueId := by
        split_ifs at hu'
        · cases hu'
        · exact List.mem_singleton.mp hu'
      obtain ⟨hmem, hdeleted⟩ := List.mem_filter.mp hq
      have hmissing := List.find?_eq_none.mp hfree q hmem
      simp_all

/-- What is there may change, as long as it keeps its number and lasts. -/
theorem map (h : Numbered g) (onDevice : Device → Device) (onResource : Resource → Resource)
    (hnode : ∀ d, (onDevice d).node.id = d.node.id) (hid : ∀ r, (onResource r).id = r.id)
    (hlasts : ∀ r : Resource, r.Lasts (onResource r)) :
    Numbered { g with
      devices := g.devices.map onDevice
      resources := g.resources.map onResource } := by
  -- Neither function touches a number.
  have hnumbers : Registry.numbers { g with
      devices := g.devices.map onDevice
      resources := g.resources.map onResource } = g.numbers := by
    unfold Registry.numbers
    simp only [List.map_map]
    congr 1
    · exact List.map_congr_left fun d _ => hnode d
    · exact List.map_congr_left fun r _ => hid r
  refine ⟨?_, ?_, ?_, fun r' hr' => ?_, ?_⟩
  · rw [hnumbers]
    exact h.distinct
  · rw [hnumbers]
    exact h.issued
  · rw [hnumbers]
    exact h.counted
  · obtain ⟨r, hr, rfl⟩ := List.mem_map.mp hr'
    rw [(hlasts r).1]
    exact h.named r hr
  · -- What is live was live, under its unique id.
    have hunique : Resource.uniqueId ∘ onResource = Resource.uniqueId :=
      funext fun r => (hlasts r).1
    unfold live
    rw [List.filter_map, List.map_map, hunique]
    refine h.apart.sublist (List.Sublist.map _ (List.monotone_filter_right _ fun r hr => ?_))
    cases hdeleted : r.deleted with
    | false => rfl
    | true => simp [(hlasts r).2 hdeleted] at hr

theorem modifyDevice (h : Numbered g) (a : ExtAddress) {f : Device → Device}
    (hf : ∀ d, (f d).node.id = d.node.id) : Numbered (g.modifyDevice a f) := by
  have hmap := h.map (fun d => if d.address = a then f d else d) id
    (fun d => by split_ifs <;> simp [hf]) (fun _ => rfl) fun _ => ⟨rfl, fun h => h⟩
  rwa [List.map_id] at hmap

theorem modifyResource (h : Numbered g) (id : ResourceId) {f : Resource → Resource}
    (hid : ∀ r, (f r).id = r.id) (hf : ∀ r : Resource, r.Lasts (f r)) :
    Numbered (g.modifyResource id f) := by
  have hmap := h.map (fun d => d) (fun r => if r.id = id then f r else r) (fun _ => rfl)
    (fun r => by split_ifs <;> simp [hid]) fun r => by
      split_ifs
      · exact hf r
      · exact ⟨rfl, fun h => h⟩
  rwa [List.map_id'] at hmap

theorem deleteResource (h : Numbered g) (id : ResourceId) : Numbered (g.deleteResource id) := by
  refine h.modifyResource id (fun r => ?_) fun r => ?_
  · split_ifs <;> rfl
  · split_ifs with hdeleted
    · exact ⟨rfl, fun h => h⟩
    · exact ⟨rfl, fun _ => rfl⟩

theorem deleteDevice (h : Numbered g) (a : ExtAddress) : Numbered (g.deleteDevice a) := by
  refine rel_deleteDevice (P := fun g g' => Numbered g → Numbered g') (fun _ h => h)
    (fun _ _ _ hg hg' h => hg' (hg h)) (fun g a h => ?_) (fun g id h => h.deleteResource id) g a h
  exact h.modifyDevice a fun _ => rfl

/-! ### Setting up -/

/-- The resource of a planned part is found, or made under its unique id. -/
theorem ensureResource (h : Numbered g) {s : SubDevice} {kind : ResourceKind} {u : UniqueId}
    (hplanned : s.IsPlanned kind u) (created : Instant) :
    Numbered (g.ensureResource kind s.type u created).1 := by
  unfold Registry.ensureResource
  split
  · exact h
  · rename_i hfree
    dsimp only
    generalize hnew : ((Resource.new kind s.type u created).addItem _).addItem _ = r
    have hunique : r.uniqueId = u := by
      rw [← hnew]
      exact Resource.uniqueId_of_frame_eq
        ((Resource.frame_addItem _ _).trans (Resource.frame_addItem _ _))
    exact h.pushResource (hunique ▸ hplanned.2) (hunique ▸ hfree)

/-- Planned parts are set up without fail, and the registry stays numbered. -/
theorem setUpParts (store : Persistence σ) {o : Premises.Occasion}
    {parts : List (SubDevice × UniqueId)} (h : Numbered g) (hd : g.device? o.address = some d)
    (hplanned : ∀ part ∈ parts, ∃ kind, part.1.IsPlanned kind part.2)
    (handle? : Nat → Nat → Option TemplateHandle) (position : Nat) (kept : σ) :
    (∃ ids, (g.setUpParts store o handle? position parts kept).answer = .ok ids) ∧
      Numbered (g.setUpParts store o handle? position parts kept).registry := by
  induction parts generalizing g d position kept with
  | nil => exact ⟨⟨[], rfl⟩, h⟩
  | cons part rest ih =>
    obtain ⟨s, u⟩ := part
    obtain ⟨kind, hpart⟩ := hplanned _ List.mem_cons_self
    obtain ⟨id, r, rows, kept', -, -, -, heq⟩ :=
      setUpParts_cons store hpart hd handle? position rest kept
    obtain ⟨d', hd'⟩ := exists_device?_linkPart hd o.created kind s.type u
    have hframe := o.frame_setUp (handle? position) s rows
    -- Linking a part adds at most one resource under the next number, and setting it up keeps the
    -- frame.
    have hlinked : Numbered (g.linkPart o.address o.created kind s.type u) :=
      (h.ensureResource hpart o.created).modifyDevice o.address fun d => by
        unfold Device.addLink
        split_ifs <;> rfl
    have hfirst := hlinked.modifyResource id (fun r => Resource.id_of_frame_eq (hframe r))
      fun r => Resource.lasts_of_frame_eq (hframe r)
    obtain ⟨⟨ids, hids⟩, hrest⟩ := ih hfirst hd'
      (fun part hmem => hplanned part (List.mem_cons_of_mem _ hmem)) (position + 1) kept'
    rw [heq]
    exact ⟨⟨_, congrArg (Except.map _) hids⟩, hrest⟩

/-- An attempt to set up a device fails before anything is touched, or the registry stays
numbered. -/
theorem setUpDevice (store : Persistence σ) (kept : σ) (catalog : Catalog) (a : ExtAddress)
    (description : Nat) (created now : Instant) (h : Numbered g) :
    (∃ e, g.setUpDevice store kept catalog a description created now = ⟨g, kept, .error e⟩) ∨
      (∃ ids, (g.setUpDevice store kept catalog a description created now).answer = .ok ids) ∧
        Numbered (g.setUpDevice store kept catalog a description created now).registry := by
  unfold Registry.setUpDevice
  cases hdesc : catalog.get? description with
  | none => exact .inl ⟨_, rfl⟩
  | some desc =>
    cases hd : g.device? a with
    | none => exact .inl ⟨_, rfl⟩
    | some d =>
      dsimp only
      cases hplanned : Premises.planSubDevices a desc.subDevices with
      | error e => exact .inl ⟨_, rfl⟩
      | ok planned =>
        dsimp only
        generalize hlist : planned.map _ = list
        -- Every part has its kind and its unique id, so none of them fails to be made.
        have hready : ∀ part ∈ list, ∃ kind, part.1.IsPlanned kind part.2 := by
          intro part hmem
          rw [← hlist] at hmem
          obtain ⟨⟨s, kind, u⟩, hentry, rfl⟩ := List.mem_map.mp hmem
          exact ⟨kind, Premises.isPlanned_of_mem hplanned hentry⟩
        obtain ⟨⟨ids, hids⟩, hset⟩ := h.setUpParts store
          (o := Premises.occasion d desc a created now) hd hready (catalog.handle? description) 0
          kept
        rw [hids]
        exact .inr ⟨⟨ids, rfl⟩, hset.modifyDevice a (id_node_finishDevice · desc.sleeper now)⟩

end Numbered

/-! ### Histories -/

theorem addDevice_cases (g : Registry) (d : Device) :
    (∃ e, g.addDevice d = .error e) ∨ g.addDevice d = .ok (g.pushDevice d) := by
  unfold addDevice
  split_ifs
  · exact .inl ⟨_, rfl⟩
  · exact .inr rfl

theorem addResource_cases (g : Registry) (r : Resource) :
    (∃ e, g.addResource r = .error e) ∨
      r.uniqueId.isEmpty = false ∧ g.byUniqueId? r.uniqueId = none ∧
        g.addResource r = .ok (g.pushResource r) := by
  unfold addResource
  split_ifs with hempty htaken
  · exact .inl ⟨_, rfl⟩
  · exact .inl ⟨_, rfl⟩
  · exact .inr ⟨by simpa using hempty, Option.not_isSome_iff_eq_none.mp htaken, rfl⟩

/-- **One event**: it is refused and changes nothing, also where setting up a device is refused on
the way, or the registry stays numbered. -/
theorem undergo_cases (h : Numbered g) (e : RegistryEvent) :
    (∃ error, g.undergo e = (g, some error)) ∨
      (g.undergo e).2 = none ∧ Numbered (g.undergo e).1 := by
  -- An event that is refused leaves the registry; the other ones number what they add.
  cases e with
  | deviceAdded d =>
    dsimp only [undergo]
    rcases g.addDevice_cases d with ⟨e, heq⟩ | heq
    · exact heq ▸ .inl ⟨e, rfl⟩
    · exact heq ▸ .inr ⟨rfl, h.pushDevice d⟩
  | deviceEnsured address created => exact .inr ⟨rfl, h.ensureDevice address created⟩
  | resourceAdded r =>
    dsimp only [undergo]
    rcases g.addResource_cases r with ⟨e, heq⟩ | ⟨hnamed, hfree, heq⟩
    · exact heq ▸ .inl ⟨e, rfl⟩
    · exact heq ▸ .inr ⟨rfl, h.pushResource hnamed hfree⟩
  | resourceDeleted id => exact .inr ⟨rfl, h.deleteResource id⟩
  | deviceDeleted address => exact .inr ⟨rfl, h.deleteDevice address⟩
  | deviceSetUp store kept catalog address description created now =>
    dsimp only [undergo]
    rcases h.setUpDevice store kept catalog address description created now with
      ⟨e, heq⟩ | ⟨⟨ids, hids⟩, hset⟩
    · exact heq ▸ .inl ⟨e, rfl⟩
    · rw [hids]
      exact .inr ⟨rfl, hset⟩

/-- **A registry is numbered after every history.** -/
theorem numbered_after (history : List RegistryEvent) : Numbered (after history) := by
  induction history using List.reverseRecOn with
  | nil => exact numbered_empty
  | append_singleton history e ih =>
    unfold after at ih ⊢
    rw [List.foldl_concat]
    rcases undergo_cases ih e with ⟨error, heq⟩ | ⟨-, hnumbered⟩
    · rw [heq]
      exact ih
    · exact hnumbered

/-- **Numbers and unique ids in every history of a registry.**  All nodes and resources, deleted or
not, have numbers of their own below the next one, and the next one only counts them: as long as
fewer than 2 ^ 32 - 1 numbers were given out it needs no more than 32 bits.  No resource has the empty
unique id, and no two live ones share theirs.  A request that is refused changes nothing. -/
theorem numbers_and_uniqueIds (history : List RegistryEvent) :
    let g := after history
    g.numbers.Nodup ∧ (∀ id ∈ g.numbers, id.value < g.nextId) ∧
      g.nextId = g.numbers.length + 1 ∧
      (∀ r ∈ g.resources, r.uniqueId ≠ .empty) ∧
      (g.live.map Resource.uniqueId).Nodup ∧
      ∀ e error, (g.undergo e).2 = some error → (g.undergo e).1 = g := by
  intro g
  have h : Numbered g := numbered_after history
  refine ⟨h.distinct, h.issued, h.counted, fun r hr hempty => ?_, h.apart, fun e error hrefused => ?_⟩
  · have hnamed := h.named r hr
    rw [hempty] at hnamed
    cases hnamed
  · rcases undergo_cases h e with ⟨error', heq⟩ | ⟨hdone, -⟩
    · rw [heq]
    · rw [hdone] at hrefused
      cases hrefused

end Registry

end ZigbeeGateway
