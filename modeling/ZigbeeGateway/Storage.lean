import ZigbeeGateway.Item
import ZigbeeGateway.ResourceKind
import ZigbeeGateway.UniqueId
import ZigbeeGateway.Value.Json

/-!
# Storage

What survives a restart: a row for each stored item, the links between nodes and their parts, and
the saves that have been asked for.  Deadlines count milliseconds of a clock that never goes back.
-/

namespace ZigbeeGateway

/-- A stored item. -/
structure Row where
  suffix : String
  value : Value
  /-- When the item was last set, in milliseconds since 1970. -/
  millis : Int
  deriving DecidableEq, Repr

namespace Row

/-- The row of an item, if the item has a value. -/
def ofItem? (item : Item) : Option Row :=
  item.value.map fun value =>
    ⟨item.suffix, value, ((item.lastSet.map Instant.toMillis).getD 0)⟩

def toJson (r : Row) : Json :=
  .ofFields
    [("suffix", .string r.suffix), ("value", r.value.toStored), ("timestamp_ms", .integer r.millis)]

def ofDocument? (d : Json.Document) : Option Row := do
  let r ← d.record? ["suffix", "value", "timestamp_ms"]
  return {
    suffix := ← r.required? "suffix" Json.Document.text?
    value := ← r.required? "value" Value.ofStored?
    millis := ← r.required? "timestamp_ms" (Json.Document.integer? (-2 ^ 63) (2 ^ 63 - 1)) }

def read? (s : String) : Option Row :=
  (Json.Document.read? s).bind ofDocument?

/-- Puts the row into an item: its value and, as both stamps, its time.  A stamp that the set has
driven out of range is left as it is. -/
def restore? (r : Row) (item : Item) : Option Item := do
  let t ← Instant.ofMillis? r.millis
  let (item, _) ← (item.set r.value t).toOption
  return if item.stampInRange then item.restamp t else item

end Row

/-- A table that is saved as a whole: the resources of one container. -/
abbrev SaveTable := ResourceKind

/-- One optional deadline for each table. -/
structure Deadlines where
  sensors : Option Nat := none
  lights : Option Nat := none
  devices : Option Nat := none
  deriving DecidableEq, Repr

namespace Deadlines

/-- The deadline of a table. -/
def get (d : Deadlines) : SaveTable → Option Nat
  | .sensors => d.sensors
  | .lights => d.lights
  | .devices => d.devices

/-- Sets the deadline of a table. -/
def set (d : Deadlines) (table : SaveTable) (deadline : Option Nat) : Deadlines :=
  match table with
  | .sensors => { d with sensors := deadline }
  | .lights => { d with lights := deadline }
  | .devices => { d with devices := deadline }

end Deadlines

/-- Stored items, links and pending saves. -/
structure Storage where
  /-- The rows of each unique id, in the order in which they were first stored. -/
  rows : List (UniqueId × List Row) := []
  /-- The links from nodes to their parts, each once. -/
  links : List (UniqueId × UniqueId) := []
  /-- The pending saves. -/
  pending : Deadlines := {}
  /-- How many tables were saved. -/
  saves : Nat := 0
  deriving DecidableEq, Repr

namespace Storage

def rowsOf (s : Storage) (uniqueId : UniqueId) : List Row :=
  (s.rows.lookup uniqueId).getD []

def row? (s : Storage) (uniqueId : UniqueId) (suffix : String) : Option Row :=
  (s.rowsOf uniqueId).find? (·.suffix = suffix)

/-- Puts a row among others, in the place of the one with its suffix if there is one. -/
def putRow (rows : List Row) (row : Row) : List Row :=
  if rows.any (·.suffix = row.suffix) then
    rows.map fun r => if r.suffix = row.suffix then row else r
  else rows ++ [row]

/-- Inserts or replaces a row. -/
def insert (s : Storage) (uniqueId : UniqueId) (row : Row) : Storage :=
  if s.rows.any (·.1 = uniqueId) then
    { s with rows := s.rows.map fun (u, rows) => (u, if u = uniqueId then putRow rows row else rows) }
  else { s with rows := s.rows ++ [(uniqueId, [row])] }

/-- Stores an item that has a value. -/
def storeItem (s : Storage) (uniqueId : UniqueId) (item : Item) : Storage :=
  match Row.ofItem? item with
  | some row => s.insert uniqueId row
  | none => s

/-- The rows of a node and of all its parts: of every unique id that begins with the node's. -/
def deviceRows (s : Storage) (node : UniqueId) : List Row :=
  (s.rows.filter fun (u, _) => node.text.toList.isPrefixOf u.text.toList).flatMap Prod.snd

/-- Records a link. -/
def addLink (s : Storage) (node part : UniqueId) : Storage :=
  if s.links.contains (node, part) then s else { s with links := s.links ++ [(node, part)] }

/-- Asks at a time for a save of a table within a delay.  A deadline that is earlier already
stays. -/
def scheduleSave (s : Storage) (now : Nat) (table : SaveTable) (delay : Nat) : Storage :=
  let deadline := ((s.pending.get table).map (min · (now + delay))).getD (now + delay)
  { s with pending := s.pending.set table (some deadline) }

/-- The tables whose save is due at a time. -/
def dueTables (s : Storage) (now : Nat) : List SaveTable :=
  ResourceKind.all.filter fun table => (s.pending.get table).any (· ≤ now)

/-- Completes the saves that are due at a time and gives their tables. -/
def takeDue (s : Storage) (now : Nat) : Storage × List SaveTable :=
  let due := s.dueTables now
  ({ s with
    pending := due.foldl (fun pending table => pending.set table none) s.pending
    saves := s.saves + due.length }, due)

end Storage

end ZigbeeGateway
