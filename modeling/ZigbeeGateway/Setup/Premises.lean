import ZigbeeGateway.Catalog
import ZigbeeGateway.Persistence
import ZigbeeGateway.Registry
import ZigbeeGateway.Setup.Pattern
import ZigbeeGateway.Setup.Template

/-!
# Setting up devices

A description is applied to a device by making its resources and items, restoring stored rows,
filling in default values, and binding the items to their templates.  The unique ids of all
sub-resources are planned before anything is touched, and then the sub-resources are set up one after
another.  An attempt that fails on the way leaves what it has done until then.
-/

namespace ZigbeeGateway

/-- The registry together with what is stored of it and what was asked of the surroundings. -/
structure Premises where
  /-- The devices and resources. -/
  registry : Registry := {}
  /-- What is stored. -/
  storage : Storage := {}
  /-- What was asked of the surroundings, the oldest first. -/
  outbox : List Output := []

namespace Premises

/-- The two items that say what a device is. -/
def identity : List String :=
  [Suffix.manufacturerName, Suffix.modelId]

/-- Stores an item of a resource, if the resource has it. -/
def storeItem (p : Premises) (r : Resource) (suffix : String) : Premises :=
  match r.item? suffix with
  | none => p
  | some item =>
    { p with
      storage := p.storage.storeItem r.uniqueId item
      outbox := p.outbox ++ [.stored r.uniqueId suffix] }

/-! ### Planning -/

/-- What a description needs to know of the device it is applied to. -/
structure Occasion where
  address : ExtAddress
  /-- The unique id of its node. -/
  node : UniqueId
  manufacturer : String
  model : String
  /-- The time for new resources. -/
  created : Instant
  /-- The time for values. -/
  now : Instant

/-- What a description needs to know of a device. -/
def occasion (d : Device) (desc : Description) (address : ExtAddress) (created now : Instant) :
    Occasion where
  address := address
  node := d.uniqueId
  manufacturer := if d.manufacturer.isEmpty then desc.manufacturer else d.manufacturer
  model := d.modelId
  created := created
  now := now

/-- The sub-resources of a description with their containers and unique ids, or the first one that
cannot be set up. -/
def planSubDevices (address : ExtAddress) :
    List SubDevice → Except SchemaError (List (SubDevice × ResourceKind × UniqueId))
  | [] => .ok []
  | s :: rest =>
    let uniqueId := UniqueId.ofPattern s.addressing address
    match uniqueId.isEmpty, s.kind? with
    | false, some kind => (planSubDevices address rest).map ((s, kind, uniqueId) :: ·)
    | _, _ => .error (.partialFailure address.text s.type)

/-! ### Setting up resources -/

/-- A resource after the identity of its device was noted. -/
def Occasion.identify (o : Occasion) (r : Resource) : Resource :=
  (r.fillIdentity Suffix.manufacturerName o.manufacturer o.now).fillIdentity Suffix.modelId o.model
    o.now

/-- Has the link and the identity of a part kept, and then gives its rows. -/
def Occasion.record {σ : Type} (o : Occasion) (store : Persistence σ) (kept : σ)
    (uniqueId : UniqueId) (r : Resource) : List Row × σ :=
  store.loadItems (store.storeItems (store.storeLink kept o.node uniqueId) r identity) uniqueId

/-- A resource after its identity was noted and its items were set up by a sub-resource of a
description, with the ETag refreshed. -/
def Occasion.setUp (o : Occasion) (handle? : Nat → Option TemplateHandle) (s : SubDevice)
    (rows : List Row) (r : Resource) : Resource :=
  ((o.identify r).setUpItems handle? rows o.now 0 s.items).refreshEtag

/-- Marks a device as managed and notes whether it sleeps, where that is known. -/
def finishDevice (d : Device) (sleeper : Option Bool) (now : Instant) : Device :=
  let d := { d with managed := true }
  match sleeper with
  | none => d
  | some b => { d with node := d.node.setIfFits Suffix.sleeper (.bool b) now }

end Premises

/-! ### Attempts -/

/-- What an attempt to set up a device comes to: the registry and the state of the persistence as it
leaves them, and the numbers of the sub-resources or the reason why it failed. -/
structure Attempt (σ : Type) where
  registry : Registry
  kept : σ
  answer : Except Error (List ResourceId)

namespace Registry

/-- Finds the live resource with the unique id of a sub-resource.  If there is none, one is added with
the two items of the identity, which needs a container. -/
def locateOrAdd (g : Registry) (s : SubDevice) (uniqueId : UniqueId) (created : Instant) :
    Except Error (Registry × ResourceId) :=
  match g.byUniqueId? uniqueId with
  | some r => .ok (g, r.id)
  | none =>
    match s.kind? with
    | none => .error (.schema (.invalid (.noContainer s.restPath)))
    | some kind =>
      g.addResource ((Resource.new kind s.type uniqueId created)
        |>.addItem { suffix := Suffix.manufacturerName, type := .string }
        |>.addItem { suffix := Suffix.modelId, type := .string })

open Premises

variable {σ : Type}

/-- Sets up sub-resources with their unique ids, which start at a given position of the description.
The first one that cannot be located ends the attempt; one that is not found under its number is
passed over. -/
def setUpParts (store : Persistence σ) (o : Occasion)
    (handle? : Nat → Nat → Option TemplateHandle) :
    Nat → List (SubDevice × UniqueId) → Registry → σ → Attempt σ
  | _, [], g, kept => ⟨g, kept, .ok []⟩
  | position, (s, uniqueId) :: rest, g, kept =>
    match g.locateOrAdd s uniqueId o.created with
    | .error e => ⟨g, kept, .error e⟩
    | .ok (located, id) =>
      let linked := (located.ensureDevice o.address o.created).modifyDevice o.address fun d =>
        d.addLink uniqueId id
      match linked.resource? id with
      | none => setUpParts store o handle? (position + 1) rest linked kept
      | some r =>
        let (rows, kept) := o.record store kept uniqueId (o.identify r)
        let attempt := setUpParts store o handle? (position + 1) rest
          (linked.modifyResource id (o.setUp (handle? position) s rows)) kept
        { attempt with answer := attempt.answer.map (id :: ·) }

/-- Applies the description at a position of a catalog to a device.  Gives the numbers of the
sub-resources in the order of the description. -/
def setUpDevice (g : Registry) (store : Persistence σ) (kept : σ) (catalog : Catalog)
    (address : ExtAddress) (description : Nat) (created now : Instant) : Attempt σ :=
  match catalog.get? description, g.device? address with
  | none, _ =>
    ⟨g, kept, .error
      (.resourceNotFound ("description " ++ String.ofList (Nat.toDigits 10 description)))⟩
  | _, none => ⟨g, kept, .error (.resourceNotFound address.text)⟩
  | some desc, some device =>
    match planSubDevices address desc.subDevices with
    | .error e => ⟨g, kept, .error (.schema e)⟩
    | .ok planned =>
      let attempt := setUpParts store (occasion device desc address created now)
        (catalog.handle? description) 0 (planned.map fun (s, _, uniqueId) => (s, uniqueId)) g kept
      match attempt.answer with
      | .error _ => attempt
      | .ok _ =>
        { attempt with
          registry := attempt.registry.modifyDevice address fun d =>
            finishDevice d desc.sleeper now }

end Registry

namespace Premises

/-- Applies a description to a device, with the storage as the persistence. -/
def setUpDevice (p : Premises) (catalog : Catalog) (address : ExtAddress) (description : Nat)
    (created now : Instant) : Premises × Except Error (List ResourceId) :=
  let attempt := p.registry.setUpDevice .memory (p.storage, p.outbox) catalog address description
    created now
  ({ registry := attempt.registry, storage := attempt.kept.1, outbox := attempt.kept.2 },
    attempt.answer)

/-- What becomes of applying a description to a device, if it does not fail. -/
def applyDescription (p : Premises) (catalog : Catalog) (address : ExtAddress) (description : Nat)
    (created now : Instant) : Except Error (Premises × List ResourceId) :=
  match p.setUpDevice catalog address description created now with
  | (p, .ok ids) => .ok (p, ids)
  | (_, .error e) => .error e

/-! ### What is recalled -/

/-- Restores one item of the identity of a node from the first row with its suffix, if there is
one.  The ETag is refreshed whether the row can be restored or not. -/
def restoreIdentity (rows : List Row) (node : Resource) (suffix : String) : Resource × Bool :=
  match rows.find? (·.suffix = suffix) with
  | none => (node, false)
  | some row =>
    match (node.item? suffix).bind row.restore? with
    | none => (node.refreshEtag, false)
    | some item => ((node.modifyItem suffix fun _ => item).refreshEtag, true)

/-- Restores manufacturer and model of a device from what is stored, and says whether both were
found. -/
def recallDevice (p : Premises) (address : ExtAddress) : Except Error (Premises × Bool) :=
  match p.registry.device? address with
  | none => .error (.resourceNotFound address.text)
  | some d =>
    let rows := p.storage.deviceRows d.uniqueId
    let (node, manufacturer) := restoreIdentity rows d.node Suffix.manufacturerName
    let (node, model) := restoreIdentity rows node Suffix.modelId
    .ok ({ p with registry := p.registry.modifyNode address fun _ => node }, manufacturer && model)

end Premises

end ZigbeeGateway
