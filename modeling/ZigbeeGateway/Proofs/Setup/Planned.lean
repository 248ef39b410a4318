import Mathlib.Tactic.SplitIfs
import ZigbeeGateway.Gateway.Devices
import ZigbeeGateway.Proofs.Registry.Coherence

/-!
# Setting up what is planned

Once the sub-resources of a description are planned, every one has a container and a unique id that is
not empty.  Nothing can fail then and nothing is passed over, whatever keeps the items
(`setUpParts_cons`): the steps that can fail are the plain ones of `Registry.linkPart`.  With the
storage as the persistence, setting up is a recursion over the plan (`setUpParts_memory`), so a
description is applied completely or not at all (`setUpDevice_eq`, `initDevice_eq`).
-/

namespace ZigbeeGateway

open Relation

/-! ### Noting the identity -/

namespace Resource

theorem traffic_fillIdentity (r : Resource) (suffix value : String) (now : Instant) :
    ReflTransGen (Traffic fun _ => True) r (r.fillIdentity suffix value now) := by
  unfold fillIdentity
  split_ifs
  · exact traffic_setIfFits trivial r _ now
  · exact .refl

theorem frame_fillIdentity (r : Resource) (suffix value : String) (now : Instant) :
    (r.fillIdentity suffix value now).frame = r.frame :=
  (Traffic.sameShape_run (traffic_fillIdentity r suffix value now)).frame

end Resource

namespace Premises.Occasion

/-- Noting the identity is a run of moves. -/
theorem moves_identify (o : Occasion) (r : Resource) :
    ReflTransGen Resource.Move r (o.identify r) :=
  ReflTransGen.mono (fun _ _ => .traffic) _ _
    ((r.traffic_fillIdentity Suffix.manufacturerName o.manufacturer o.now).trans
      (Resource.traffic_fillIdentity _ Suffix.modelId o.model o.now))

/-- Noting the identity keeps the frame. -/
theorem frame_identify (o : Occasion) (r : Resource) : (o.identify r).frame = r.frame :=
  (Resource.frame_fillIdentity _ _ _ _).trans (Resource.frame_fillIdentity _ _ _ _)

end Premises.Occasion

/-! ### Plans -/

/-- What is planned can be set up: it has its container and a unique id that is not empty. -/
def SubDevice.IsPlanned (s : SubDevice) (kind : ResourceKind) (uniqueId : UniqueId) : Prop :=
  s.kind? = some kind ∧ uniqueId.isEmpty = false

namespace Premises

variable {address : ExtAddress} {s : SubDevice} {rest subDevices : List SubDevice}
  {planned : List (SubDevice × ResourceKind × UniqueId)} {kind : ResourceKind} {u : UniqueId}

/-- A sub-resource is planned with its container and the unique id of its pattern. -/
theorem planSubDevices_cons_eq_ok_iff : planSubDevices address (s :: rest) = .ok planned ↔
    ∃ kind others, s.IsPlanned kind (.ofPattern s.addressing address) ∧
      planSubDevices address rest = .ok others ∧
      planned = (s, kind, .ofPattern s.addressing address) :: others := by
  unfold SubDevice.IsPlanned
  simp only [planSubDevices]
  cases (UniqueId.ofPattern s.addressing address).isEmpty with
  | true => simp
  | false =>
    cases s.kind? with
    | none => simp
    | some kind =>
      cases planSubDevices address rest with
      | error e => simp [Except.map]
      | ok others => simp [Except.map, eq_comm]

/-- What is planned comes from a sub-resource of the description. -/
theorem of_mem_planSubDevices (h : planSubDevices address subDevices = .ok planned)
    (hmem : (s, kind, u) ∈ planned) :
    s ∈ subDevices ∧ u = .ofPattern s.addressing address ∧ s.IsPlanned kind u := by
  induction subDevices generalizing planned with
  | nil =>
    obtain rfl := Except.ok.inj h
    cases hmem
  | cons s' rest ih =>
    obtain ⟨kind', others, hplanned, hrest, rfl⟩ := planSubDevices_cons_eq_ok_iff.mp h
    rcases List.mem_cons.mp hmem with heq | hmem
    · obtain ⟨rfl, rfl, rfl⟩ : s = s' ∧ kind = kind' ∧ u = _ := by simpa using heq
      exact ⟨List.mem_cons_self, rfl, hplanned⟩
    · obtain ⟨hs, hu, hplanned'⟩ := ih hrest hmem
      exact ⟨List.mem_cons_of_mem s' hs, hu, hplanned'⟩

theorem isPlanned_of_mem (h : planSubDevices address subDevices = .ok planned)
    (hmem : (s, kind, u) ∈ planned) : s.IsPlanned kind u :=
  (of_mem_planSubDevices h hmem).2.2

/-- The planned unique ids are the ones of the patterns. -/
theorem uniqueIds_planSubDevices (h : planSubDevices address subDevices = .ok planned) :
    planned.map (·.2.2) = subDevices.map fun s => UniqueId.ofPattern s.addressing address := by
  induction subDevices generalizing planned with
  | nil =>
    obtain rfl := Except.ok.inj h
    rfl
  | cons s rest ih =>
    obtain ⟨kind, others, -, hrest, rfl⟩ := planSubDevices_cons_eq_ok_iff.mp h
    rw [List.map_cons, List.map_cons, ih hrest]

/-- **Planning fails exactly at a sub-resource without a unique id or without a container**, wherever
it stands. -/
theorem planSubDevices_fails_iff : (∃ e, planSubDevices address subDevices = .error e) ↔
    ∃ s ∈ subDevices, (UniqueId.ofPattern s.addressing address).isEmpty = true ∨
      s.kind? = none := by
  induction subDevices with
  | nil => simp [planSubDevices]
  | cons s rest ih =>
    rw [List.exists_mem_cons_iff, ← ih]
    simp only [planSubDevices]
    cases (UniqueId.ofPattern s.addressing address).isEmpty with
    | true => simp
    | false =>
      cases s.kind? with
      | none => simp
      | some kind => cases planSubDevices address rest <;> simp [Except.map]

end Premises

/-! ### Locating what is planned -/

namespace Registry

variable {σ : Type} {g : Registry} {s : SubDevice} {kind : ResourceKind} {u : UniqueId}

/-- Makes sure that there is a live resource with a unique id, and gives its number.  A new one has
the two items of the identity. -/
def ensureResource (g : Registry) (kind : ResourceKind) (typeName : String) (uniqueId : UniqueId)
    (created : Instant) : Registry × ResourceId :=
  match g.byUniqueId? uniqueId with
  | some r => (g, r.id)
  | none =>
    let r := (Resource.new kind typeName uniqueId created)
      |>.addItem { suffix := Suffix.manufacturerName, type := .string }
      |>.addItem { suffix := Suffix.modelId, type := .string }
    g.pushResource r

/-- What is planned is located without fail. -/
theorem locateOrAdd_eq (h : s.IsPlanned kind u) (created : Instant) :
    g.locateOrAdd s u created = .ok (g.ensureResource kind s.type u created) := by
  unfold locateOrAdd ensureResource
  cases hfree : g.byUniqueId? u with
  | some r => rfl
  | none =>
    rw [h.1]
    dsimp only
    generalize hnew : ((Resource.new kind s.type u created).addItem _).addItem _ = r
    have hunique : r.uniqueId = u := by
      rw [← hnew]
      exact Resource.uniqueId_of_frame_eq
        ((Resource.frame_addItem _ _).trans (Resource.frame_addItem _ _))
    rw [addResource, hunique, h.2, hfree]
    rfl

/-- What was located is found under its number. -/
theorem exists_resource?_ensureResource (g : Registry) (kind : ResourceKind) (typeName : String)
    (u : UniqueId) (created : Instant) :
    ∃ r, (g.ensureResource kind typeName u created).1.resource?
      (g.ensureResource kind typeName u created).2 = some r := by
  unfold ensureResource
  split
  · rename_i r hr
    rw [← Option.isSome_iff_exists, resource?, List.find?_isSome]
    exact ⟨r, List.mem_of_find?_eq_some hr, by simp⟩
  · rename_i hfree
    dsimp only
    rw [resource?_pushResource]
    simp [pushResource]

theorem devices_ensureResource (g : Registry) (kind : ResourceKind) (typeName : String)
    (u : UniqueId) (created : Instant) :
    (g.ensureResource kind typeName u created).1.devices = g.devices := by
  unfold ensureResource
  split <;> rfl

/-- The registry with the resource of a part found or made and linked by the device. -/
def linkPart (g : Registry) (address : ExtAddress) (created : Instant) (kind : ResourceKind)
    (typeName : String) (u : UniqueId) : Registry :=
  (g.ensureResource kind typeName u created).1.modifyDevice address fun d =>
    d.addLink u (g.ensureResource kind typeName u created).2

/-- The device is there as long as its parts are linked. -/
theorem exists_device?_linkPart {a : ExtAddress} {d : Device} (hd : g.device? a = some d)
    (created : Instant) (kind : ResourceKind) (typeName : String) (u : UniqueId) :
    ∃ d', (g.linkPart a created kind typeName u).device? a = some d' := by
  unfold linkPart
  rw [device?_modifyDevice _ fun d hd => (d.address_addLink _ _).trans hd, if_pos rfl, device?,
    devices_ensureResource]
  exact ⟨_, by rw [← device?, hd, Option.map_some]⟩

/-- **One planned sub-resource is set up without fail and not passed over**, whatever keeps the
items: its resource is found or made, linked, kept and set up, and then it is the turn of the
others. -/
theorem setUpParts_cons (store : Persistence σ) {o : Premises.Occasion} {d : Device}
    (h : s.IsPlanned kind u) (hd : g.device? o.address = some d)
    (handle? : Nat → Nat → Option TemplateHandle) (position : Nat)
    (rest : List (SubDevice × UniqueId)) (kept : σ) :
    ∃ id r rows kept', id = (g.ensureResource kind s.type u o.created).2 ∧
      (g.linkPart o.address o.created kind s.type u).resource? id = some r ∧
      o.record store kept u (o.identify r) = (rows, kept') ∧
      setUpParts store o handle? position ((s, u) :: rest) g kept =
        let attempt := setUpParts store o handle? (position + 1) rest
          ((g.linkPart o.address o.created kind s.type u).modifyResource id
            (o.setUp (handle? position) s rows)) kept'
        { attempt with answer := attempt.answer.map (id :: ·) } := by
  obtain ⟨r, hr⟩ := g.exists_resource?_ensureResource kind s.type u o.created
  have hlinked : (g.linkPart o.address o.created kind s.type u).resource?
      (g.ensureResource kind s.type u o.created).2 = some r := hr
  refine ⟨_, r, (o.record store kept u (o.identify r)).1, (o.record store kept u (o.identify r)).2,
    rfl, hlinked, rfl, ?_⟩
  have hthere : ((g.ensureResource kind s.type u o.created).1.device? o.address).isSome := by
    rw [device?, devices_ensureResource, ← device?, hd]
    rfl
  conv_lhs => unfold setUpParts
  rw [locateOrAdd_eq h]
  dsimp only
  rw [ensureDevice, if_pos hthere, ← linkPart, hlinked]

end Registry

/-! ### With the storage as the persistence -/

namespace Premises

/-- Records a link between a node and a part. -/
def storeLink (p : Premises) (node part : UniqueId) : Premises :=
  { p with
    storage := p.storage.addLink node part
    outbox := p.outbox ++ [.linked node part] }

/-- Changes the resource with a number. -/
def modifyResource (p : Premises) (id : ResourceId) (f : Resource → Resource) : Premises :=
  { p with registry := p.registry.modifyResource id f }

/-- Sets up one sub-resource and gives its number. -/
def setUpSubDevice (p : Premises) (o : Occasion) (handle? : Nat → Option TemplateHandle)
    (s : SubDevice) (kind : ResourceKind) (uniqueId : UniqueId) : Premises × ResourceId :=
  let (registry, id) := p.registry.ensureResource kind s.type uniqueId o.created
  let registry := registry.modifyDevice o.address fun d => d.addLink uniqueId id
  let registry := registry.modifyResource id fun r =>
    (r.fillIdentity Suffix.manufacturerName o.manufacturer o.now).fillIdentity
      Suffix.modelId o.model o.now
  let p := { p with registry }.storeLink o.node uniqueId
  match p.registry.resource? id with
  | none => (p, id)
  | some r =>
    let p := identity.foldl (fun p suffix => p.storeItem r suffix) p
    let rows := p.storage.rowsOf uniqueId
    (p.modifyResource id fun r => (r.setUpItems handle? rows o.now 0 s.items).refreshEtag, id)

/-- Sets up planned sub-resources, which start at a given position of the description. -/
def setUpSubDevices (p : Premises) (o : Occasion) (handle? : Nat → Nat → Option TemplateHandle) :
    Nat → List (SubDevice × ResourceKind × UniqueId) → Premises × List ResourceId
  | _, [] => (p, [])
  | position, (s, kind, uniqueId) :: rest =>
    let (p, id) := p.setUpSubDevice o (handle? position) s kind uniqueId
    let (p, ids) := p.setUpSubDevices o handle? (position + 1) rest
    (p, id :: ids)

theorem setUpSubDevices_cons (p : Premises) (o : Occasion)
    (handle? : Nat → Nat → Option TemplateHandle) (position : Nat) (s : SubDevice)
    (kind : ResourceKind) (uniqueId : UniqueId)
    (planned : List (SubDevice × ResourceKind × UniqueId)) :
    p.setUpSubDevices o handle? position ((s, kind, uniqueId) :: planned) =
      (((p.setUpSubDevice o (handle? position) s kind uniqueId).1.setUpSubDevices o handle?
          (position + 1) planned).1,
        (p.setUpSubDevice o (handle? position) s kind uniqueId).2 ::
          ((p.setUpSubDevice o (handle? position) s kind uniqueId).1.setUpSubDevices o handle?
            (position + 1) planned).2) :=
  rfl

theorem registry_storeItems (p : Premises) (r : Resource) (suffixes : List String) :
    (suffixes.foldl (fun p suffix => p.storeItem r suffix) p).registry = p.registry := by
  induction suffixes generalizing p with
  | nil => rfl
  | cons suffix suffixes ih =>
    rw [List.foldl_cons, ih]
    unfold storeItem
    split <;> rfl

/-- Items are handed to the storage one by one. -/
theorem storeItems_memory (p : Premises) (r : Resource) (suffixes : List String) :
    Persistence.memory.storeItems (p.storage, p.outbox) r suffixes =
      ((suffixes.foldl (fun p suffix => p.storeItem r suffix) p).storage,
        (suffixes.foldl (fun p suffix => p.storeItem r suffix) p).outbox) := by
  induction suffixes generalizing p with
  | nil => rfl
  | cons suffix suffixes ih =>
    rw [List.foldl_cons, ← ih, Persistence.storeItems, List.foldl_cons]
    congr 1
    unfold storeItem
    cases hitem : r.item? suffix with
    | none => rfl
    | some item =>
      dsimp only [Persistence.memory]
      rw [Resource.suffix_of_item? hitem]

/-- The premises with what an attempt leaves. -/
def after (g : Registry) (kept : Storage × List Output) : Premises :=
  { registry := g, storage := kept.1, outbox := kept.2 }

/-- One part with the storage as the persistence. -/
theorem setUpSubDevice_eq {p : Premises} {o : Occasion} {s : SubDevice} {kind : ResourceKind}
    {u : UniqueId} {id : ResourceId} {r : Resource} {rows : List Row}
    {kept : Storage × List Output}
    (hid : id = (p.registry.ensureResource kind s.type u o.created).2)
    (hr : (p.registry.linkPart o.address o.created kind s.type u).resource? id = some r)
    (hkept : o.record .memory (p.storage, p.outbox) u (o.identify r) = (rows, kept))
    (handle? : Nat → Option TemplateHandle) :
    p.setUpSubDevice o handle? s kind u =
      (after ((p.registry.linkPart o.address o.created kind s.type u).modifyResource id
        (o.setUp handle? s rows)) kept, id) := by
  unfold Registry.linkPart at hr ⊢
  unfold setUpSubDevice
  split
  rename_i registry id' hensure
  extract_lets linked named q
  rw [hensure] at hid hr ⊢
  dsimp only at hid hr
  subst hid
  have hkeeps : ∀ q : Resource, q.id = id → (o.identify q).id = id := fun q hq =>
    (Resource.id_of_frame_eq (o.frame_identify q)).trans hq
  have hfound : q.registry.resource? id = some (o.identify r) := by
    refine (linked.resource?_modifyResource (f := o.identify) hkeeps id).trans ?_
    rw [if_pos rfl, hr, Option.map_some]
  rw [hfound]
  dsimp only
  -- What is handed to the storage are the link and then the identity.
  have hstored := (storeItems_memory q (o.identify r) identity).symm
  have hregistry := registry_storeItems q (o.identify r) identity
  rw [Occasion.record, show Persistence.memory.storeLink (p.storage, p.outbox) o.node u =
    (q.storage, q.outbox) from rfl, ← hstored] at hkept
  generalize identity.foldl (fun p suffix => p.storeItem (o.identify r) suffix) q = q' at *
  obtain ⟨rfl, rfl⟩ := Prod.mk.inj hkept
  unfold modifyResource after
  dsimp only
  rw [hregistry]
  congr 2
  exact Registry.modifyResource_modifyResource linked hkeeps

/-- **With the storage as the persistence, a plan is carried out in full.** -/
theorem setUpParts_memory {p : Premises} {o : Occasion} {d : Device}
    {planned : List (SubDevice × ResourceKind × UniqueId)}
    (hplanned : ∀ s kind u, (s, kind, u) ∈ planned → s.IsPlanned kind u)
    (hd : p.registry.device? o.address = some d) (handle? : Nat → Nat → Option TemplateHandle)
    (position : Nat) :
    p.registry.setUpParts .memory o handle? position (planned.map fun (s, _, u) => (s, u))
        (p.storage, p.outbox) =
      ⟨(p.setUpSubDevices o handle? position planned).1.registry,
        ((p.setUpSubDevices o handle? position planned).1.storage,
          (p.setUpSubDevices o handle? position planned).1.outbox),
        .ok (p.setUpSubDevices o handle? position planned).2⟩ := by
  induction planned generalizing p position d with
  | nil => rfl
  | cons entry planned ih =>
    obtain ⟨s, kind, u⟩ := entry
    obtain ⟨id, r, rows, kept, hid, hr, hkept, heq⟩ := Registry.setUpParts_cons .memory
      (hplanned s kind u List.mem_cons_self) hd handle? position
      (planned.map fun (s, _, u) => (s, u)) (p.storage, p.outbox)
    obtain ⟨d', hd'⟩ := Registry.exists_device?_linkPart hd o.created kind s.type u
    have hstep := setUpSubDevice_eq hid hr hkept (handle? position)
    have hrest := ih (p := (p.setUpSubDevice o (handle? position) s kind u).1) (d := d')
      (fun s kind u hmem => hplanned s kind u (List.mem_cons_of_mem _ hmem))
      (by rw [hstep]; exact hd') (position + 1)
    rw [List.map_cons, heq, setUpSubDevices_cons]
    rw [hstep] at hrest ⊢
    dsimp only [after] at hrest ⊢
    rw [hrest]
    rfl

/-- **A description is applied completely or not at all**: the sub-resources are planned first, and
then all of them are set up. -/
theorem setUpDevice_eq (p : Premises) (catalog : Catalog) (address : ExtAddress)
    (description : Nat) (created now : Instant) :
    p.setUpDevice catalog address description created now =
      match catalog.get? description, p.registry.device? address with
      | none, _ =>
        (p, .error (.resourceNotFound
          ("description " ++ String.ofList (Nat.toDigits 10 description))))
      | _, none => (p, .error (.resourceNotFound address.text))
      | some desc, some device =>
        match planSubDevices address desc.subDevices with
        | .error e => (p, .error (.schema e))
        | .ok planned =>
          let (p, ids) := p.setUpSubDevices (occasion device desc address created now)
            (catalog.handle? description) 0 planned
          ({ p with registry := p.registry.modifyDevice address fun d =>
              finishDevice d desc.sleeper now }, .ok ids) := by
  unfold setUpDevice Registry.setUpDevice
  cases hdesc : catalog.get? description with
  | none => rfl
  | some desc =>
    cases hd : p.registry.device? address with
    | none => rfl
    | some d =>
      dsimp only
      cases hplanned : planSubDevices address desc.subDevices with
      | error e => rfl
      | ok planned =>
        dsimp only
        rw [setUpParts_memory (fun s kind u => isPlanned_of_mem hplanned) hd]

/-- An attempt that fails changes nothing, and else it comes to what applying the description does. -/
theorem setUpDevice_cases (p : Premises) (catalog : Catalog) (address : ExtAddress)
    (description : Nat) (created now : Instant) :
    (∃ e, p.setUpDevice catalog address description created now = (p, .error e) ∧
      p.applyDescription catalog address description created now = .error e) ∨
    ∃ p' ids, p.setUpDevice catalog address description created now = (p', .ok ids) ∧
      p.applyDescription catalog address description created now = .ok (p', ids) := by
  unfold applyDescription
  rw [setUpDevice_eq]
  split
  · exact .inl ⟨_, rfl, rfl⟩
  · exact .inl ⟨_, rfl, rfl⟩
  · split
    · exact .inl ⟨_, rfl, rfl⟩
    · exact .inr ⟨_, _, rfl, rfl⟩

/-- Applying a description sets up what is planned and finishes the device. -/
theorem applyDescription_eq (p : Premises) (catalog : Catalog) (address : ExtAddress)
    (description : Nat) (created now : Instant) :
    p.applyDescription catalog address description created now =
      match catalog.get? description, p.registry.device? address with
      | none, _ =>
        .error (.resourceNotFound
          ("description " ++ String.ofList (Nat.toDigits 10 description)))
      | _, none => .error (.resourceNotFound address.text)
      | some desc, some device =>
        match planSubDevices address desc.subDevices with
        | .error e => .error (.schema e)
        | .ok planned =>
          let (p, ids) := p.setUpSubDevices (occasion device desc address created now)
            (catalog.handle? description) 0 planned
          .ok ({ p with registry := p.registry.modifyDevice address fun d =>
            finishDevice d desc.sleeper now }, ids) := by
  unfold applyDescription
  rw [setUpDevice_eq]
  cases catalog.get? description with
  | none => rfl
  | some desc =>
    cases p.registry.device? address with
    | none => rfl
    | some d =>
      dsimp only
      cases planSubDevices address desc.subDevices <;> rfl

end Premises

/-- A device is set up from the first description made for it, completely or not at all. -/
theorem Gateway.initDevice_eq (g : Gateway) (address : ExtAddress) :
    g.initDevice address =
      match g.registry.device? address with
      | none => (g, .error (.resourceNotFound address.text))
      | some d =>
        let g := g.recallIfUnknown address d
        match g.registry.device? address with
        | none => (g, .error (.resourceNotFound address.text))
        | some d =>
          match g.catalog.find? d.manufacturer d.modelId with
          | none => (g, .error (.schema (.noMatch d.manufacturer d.modelId)))
          | some description =>
            match g.toPremises.applyDescription g.catalog address description g.hostTime
              g.now with
            | .error e => (g, .error e)
            | .ok (p, ids) =>
              ({ g with toPremises := p }.scheduleSave .devices g.config.saveDelayShort,
                .ok ids) := by
  unfold initDevice
  cases g.registry.device? address with
  | none => rfl
  | some d =>
    dsimp only
    generalize g.recallIfUnknown address d = g
    cases g.registry.device? address with
    | none => rfl
    | some d =>
      dsimp only
      cases g.catalog.find? d.manufacturer d.modelId with
      | none => rfl
      | some description =>
        dsimp only
        rcases g.toPremises.setUpDevice_cases g.catalog address description g.hostTime g.now with
          ⟨e, heq, heq'⟩ | ⟨p, ids, heq, heq'⟩
        all_goals rw [heq, heq']

end ZigbeeGateway
