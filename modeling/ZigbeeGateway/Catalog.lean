import ZigbeeGateway.Description.Handle
import ZigbeeGateway.Description.Reading
import ZigbeeGateway.Error
import ZigbeeGateway.FileTree

/-!
# The catalog of descriptions

Descriptions without faults, in the order in which they were added.  The first one that is made for
a device is used.  Handles of templates stay good while descriptions are added and stop resolving
when the catalog is reloaded.
-/

namespace ZigbeeGateway

/-- A collection of descriptions. -/
structure Catalog where
  descriptions : List Description := []
  /-- How often the catalog was reloaded, modulo `2 ^ 32`. -/
  generation : UInt32 := 0

namespace Catalog

/-- Adds a description and gives its position. -/
def add (c : Catalog) (d : Description) : Except SchemaError (Catalog × Nat) :=
  match d.fault? with
  | some fault => .error (.invalid fault)
  | none => .ok ({ c with descriptions := c.descriptions ++ [d] }, c.descriptions.length)

/-- Reads a description from JSON text and adds it. -/
def load (c : Catalog) (text : String) : Except SchemaError (Catalog × Nat) :=
  match Description.read? text with
  | none => .error .json
  | some d => c.add d

/-- Reads a description from the content of a file and adds it. -/
def loadFile (c : Catalog) (path content : String) : Except SchemaError (Catalog × Nat) :=
  match Description.read? content with
  | none => .error .json
  | some d => c.add { d with path := some path }

/-- The part of a file name behind its last dot, if something is in front of the dot. -/
def extension? (name : String) : Option String :=
  let reversed := name.toList.reverse
  match reversed.dropWhile (· ≠ '.') with
  | _ :: _ :: _ => some (String.ofList (reversed.takeWhile (· ≠ '.')).reverse)
  | _ => none

mutual

/-- Loads what is found at a path: every file whose name ends in `.json`, passing over those that
are no proper description.  Gives the number of descriptions. -/
def loadEntry (c : Catalog) (path name : String) : FileTree → Catalog × Nat
  | .file content =>
    if extension? name = some "json" then
      match c.loadFile path content with
      | .ok (c, _) => (c, 1)
      | .error _ => (c, 0)
    else (c, 0)
  | .folder entries => c.loadEntries path entries

/-- Loads all entries of a folder. -/
def loadEntries (c : Catalog) (path : String) : List (String × FileTree) → Catalog × Nat
  | [] => (c, 0)
  | (name, tree) :: rest =>
    let (c, first) := c.loadEntry (FileTree.entryPath path name) name tree
    let (c, others) := c.loadEntries path rest
    (c, first + others)

end

/-- Loads every description below the folder at a path and gives their number. -/
def loadFolder (c : Catalog) (tree : FileTree) (path : String) :
    Except SchemaError (Catalog × Nat) :=
  match tree.find? path with
  | some (.folder entries) => .ok (c.loadEntries path entries)
  | _ => .error .unreadable

/-- Loads one description from the file at a path and gives its position. -/
def loadPath (c : Catalog) (tree : FileTree) (path : String) :
    Except SchemaError (Catalog × Nat) :=
  match tree.find? path with
  | some (.file content) => c.loadFile path content
  | _ => .error .unreadable

/-- Replaces all descriptions, or none if one of them has a fault. -/
def reload (c : Catalog) (ds : List Description) : Except SchemaError Catalog :=
  match ds.findSome? Description.fault? with
  | some fault => .error (.invalid fault)
  | none => .ok { descriptions := ds, generation := c.generation + 1 }

/-- Reads descriptions from JSON texts and puts them in the place of all others.  Nothing is replaced
if one of them cannot be read or has a fault. -/
def reloadTexts (c : Catalog) (texts : List String) : Except SchemaError Catalog :=
  match texts.mapM Description.read? with
  | none => .error .json
  | some ds => c.reload ds

def size (c : Catalog) : Nat :=
  c.descriptions.length

/-- The position of the first description that is made for a manufacturer and a model. -/
def find? (c : Catalog) (manufacturer model : String) : Option Nat :=
  c.descriptions.findIdx? fun d => d.accepts manufacturer model

/-- The description at a position. -/
def get? (c : Catalog) (description : Nat) : Option Description :=
  c.descriptions[description]?

/-- The template of an item by positions. -/
def at? (c : Catalog) (description subDevice item : Nat) : Option ItemTemplate := do
  let d ← c.descriptions[description]?
  let s ← d.subDevices[subDevice]?
  s.items[item]?

/-- Issues a handle for the template at given positions, if there is one. -/
def handle? (c : Catalog) (description subDevice item : Nat) : Option TemplateHandle :=
  (c.at? description subDevice item).map fun _ =>
    { generation := c.generation, description, subDevice, item }

/-- The sub-resource a handle points into, unless the catalog was reloaded since. -/
def subDevice? (c : Catalog) (h : TemplateHandle) : Option SubDevice :=
  if h.generation = c.generation then do
    let d ← c.descriptions[h.description]?
    d.subDevices[h.subDevice]?
  else none

/-- The template a handle points to, unless the catalog was reloaded since. -/
def template? (c : Catalog) (h : TemplateHandle) : Option ItemTemplate :=
  (c.subDevice? h).bind fun s => s.items[h.item]?

end Catalog

end ZigbeeGateway
