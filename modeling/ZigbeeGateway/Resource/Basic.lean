import ZigbeeGateway.Error
import ZigbeeGateway.Item
import ZigbeeGateway.Json.Printer
import ZigbeeGateway.Sha256
import ZigbeeGateway.StateChange
import ZigbeeGateway.UniqueId

/-!
# Resources

A resource is an ordered collection of items with distinct suffixes.  Its ETag is the hash of its
revision and its public items; each accepted set of a public item raises the revision.  The resource
also holds the state changes that wait for the hardware.
-/

namespace ZigbeeGateway

structure Resource where
  id : ResourceId
  kind : ResourceKind
  /-- The type, such as `ZHATemperature`. -/
  typeName : String
  uniqueId : UniqueId
  items : List Item := []
  /-- How often the ETag was refreshed. -/
  revision : Nat := 0
  etag : String := ""
  /-- The writes that wait for their confirmation, the oldest first. -/
  changes : List StateChange := []
  /-- Whether there is something to save. -/
  needsSave : Bool := false
  deleted : Bool := false
  deriving DecidableEq, Repr

namespace Resource

/-- Whether the resource is virtual: it has no hardware of its own. -/
def isVirtual (r : Resource) : Bool :=
  r.typeName.toList.take 4 = ['C', 'L', 'I', 'P']

/-! ### Items -/

/-- The item with a suffix. -/
def item? (r : Resource) (suffix : String) : Option Item :=
  r.items.find? (·.suffix = suffix)

def hasItem (r : Resource) (suffix : String) : Bool :=
  (r.item? suffix).isSome

/-- Changes the item with a suffix and leaves the ETag alone. -/
def modifyItem (r : Resource) (suffix : String) (f : Item → Item) : Resource :=
  { r with items := r.items.map fun i => if i.suffix = suffix then f i else i }

/-- Adds an item behind the others, unless its suffix is taken. -/
def addItem (r : Resource) (item : Item) : Resource :=
  if r.hasItem item.suffix then r else { r with items := r.items ++ [item] }

/-- Adds items one after another and says of each whether it was added. -/
def addItems (r : Resource) : List Item → Resource × List Bool
  | [] => (r, [])
  | item :: rest =>
    let (added, others) := (r.addItem item).addItems rest
    (added, (!r.hasItem item.suffix) :: others)

/-- The public items, in order. -/
def publicItems (r : Resource) : List Item :=
  r.items.filter (·.isPublic)

/-! ### ETags -/

/-- The bytes of a text in UTF-8. -/
def utf8 (s : List Char) : List UInt8 :=
  s.flatMap String.utf8EncodeChar

/-- What is hashed of an item: its suffix, and the JSON text of its value if there is one, each
closed by a zero byte. -/
def itemBytes (item : Item) : List UInt8 :=
  utf8 item.suffix.toList ++ 0 ::
    ((item.value.map fun v => utf8 v.toJson.text).getD [] ++ [0])

/-- What is hashed of the resource. -/
def etagBytes (r : Resource) : List UInt8 :=
  Sha256.bigEndian 8 r.revision ++ r.publicItems.flatMap itemBytes

/-- The number of hexadecimal digits of an ETag. -/
def etagLength : Nat := 32

/-- The ETag of the current revision and items. -/
def computeEtag (r : Resource) : String :=
  let hex := (Sha256.digest r.etagBytes).flatMap fun b => Text.padded 16 2 b.toNat
  String.ofList (hex.take etagLength)

/-- Raises the revision and computes the ETag anew. -/
def refreshEtag (r : Resource) : Resource :=
  let raised := { r with revision := r.revision + 1 }
  { raised with etag := raised.computeEtag }

/-! ### Making and setting -/

/-- A resource with its two first items, made at a given time.  An empty unique id is not set. -/
def new (kind : ResourceKind) (typeName : String) (uniqueId : UniqueId) (created : Instant) :
    Resource :=
  let uid : Item := { suffix := Suffix.uniqueId, type := .string }
  let uid := if uniqueId.isEmpty then uid else uid.setIfFits (.text uniqueId.text) created
  let type : Item := { suffix := Suffix.type, type := .string }
  let type := type.setIfFits (.text typeName) created
  let r : Resource := { id := ⟨0⟩, kind, typeName, uniqueId, items := [uid, type] }
  { r with etag := r.computeEtag }

/-- Sets the value of an item. -/
def setValue (r : Resource) (suffix : String) (v : Value) (now : Instant) :
    Except Error (Resource × SetOutcome) :=
  match r.item? suffix with
  | none => .error (.parameterNotAvailable suffix)
  | some item =>
    match item.set v now with
    | .error e => .error (.value e)
    | .ok (item, outcome) =>
      let r := r.modifyItem suffix fun _ => item
      .ok (if outcome.isAccepted && item.isPublic then r.refreshEtag else r, outcome)

/-- Sets the value of an item if there is one and the value fits. -/
def setIfFits (r : Resource) (suffix : String) (v : Value) (now : Instant) : Resource :=
  match r.setValue suffix v now with
  | .ok (r, _) => r
  | .error _ => r

/-- Sets the time of the last update, if the resource has that item. -/
def touch (r : Resource) (now : Instant) : Resource :=
  r.setIfFits Suffix.lastUpdated (.time now) now

/-- Whether every item was set in the range of instants. -/
def stampsInRange (r : Resource) : Bool :=
  r.items.all Item.stampInRange

/-! ### State changes -/

/-- Takes a suffix away from older changes.  The new change records the value that the item had
before the write it replaces. -/
def supersede (older : List StateChange) (new : StateChange) (suffix : String) :
    List StateChange × StateChange :=
  let new := older.foldl (fun new c =>
    match c.target? suffix with
    | some t => new.inheritPrevious suffix t.previous
    | none => new) new
  (older.map (·.removeTarget suffix), new)

/-- Queues a change.  Older changes lose the targets that it writes too, and those without a target
are dropped. -/
def addChange (r : Resource) (new : StateChange) : Resource :=
  let (older, new) := (new.targets.map (·.suffix)).foldl
    (fun (older, new) suffix => supersede older new suffix) (r.changes, new)
  { r with changes := older.filter (!·.targets.isEmpty) ++ [new] }

/-- The first pending change with a target for a suffix. -/
def pendingChange? (r : Resource) (suffix : String) : Option StateChange :=
  r.changes.find? fun c => (c.target? suffix).isSome

/-- Hands a report to the pending changes.  Gives the changes that are confirmed by it, which are no
longer pending. -/
def verifyReport (r : Resource) (suffix : String) (reported : Value) : Resource × List StateChange :=
  let verified := r.changes.map (·.verify suffix reported)
  ({ r with changes := verified.filter (!·.isConfirmed) }, verified.filter (·.isConfirmed))

/-- Moves the pending changes on to a time.  Gives the actions that are due, each with its change;
changes in a final state are dropped. -/
def tickChanges (r : Resource) (now : Instant) : Resource × List (ChangeAction × StateChange) :=
  let ticked := r.changes.map (·.tick now)
  ({ r with changes := (ticked.map Prod.fst).filter (!·.isFinished) },
    ticked.filterMap fun (c, action) => action.map fun action => (action, c))

/-- Deletes the resource; its pending changes are dropped. -/
def markDeleted (r : Resource) : Resource :=
  { r with deleted := true, changes := [] }

end Resource

end ZigbeeGateway
