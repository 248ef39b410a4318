import ZigbeeGateway.Resource.Basic
import ZigbeeGateway.Storage

/-!
# Setting up items

What a template does to an item: its value comes from a stored row, else from the template, and all
its flags come from the template.
-/

namespace ZigbeeGateway

namespace Item

/-- Gives an item the value the template starts with, if that fits.  An item that holds this value
already keeps its stamps. -/
def fillFrom (item : Item) (t : ItemTemplate) (now : Instant) : Item :=
  match t.startValue? with
  | none => item
  | some v =>
    match item.type.coerce v with
    | .ok w => if item.holds w then item else item.setIfFits w now
    | .error _ => item

/-- Restores an item from its row, or else fills it from its template.  A static item that is set up
is kept. -/
def setUp (item : Item) (t : ItemTemplate) (row : Option Row) (now : Instant) : Item :=
  if item.lastSet.isSome && t.isStatic then item
  else
    match row.bind (·.restore? item) with
    | some restored => restored
    | none => item.fillFrom t now

/-- Binds an item to its template.  An interval that the template does not state is kept. -/
def bind (item : Item) (t : ItemTemplate) (handle : Option TemplateHandle) : Item :=
  { item with
    template := handle
    isPublic := t.isPublic
    awake := t.awake
    isStatic := t.isStatic
    refreshInterval := t.refreshInterval.or item.refreshInterval }

end Item

namespace Resource

/-- Sets up the item of a template, adding it if need be. -/
def setUpItem (r : Resource) (t : ItemTemplate) (handle : Option TemplateHandle) (rows : List Row)
    (now : Instant) : Resource :=
  match t.type? with
  | none => r
  | some type =>
    let row := rows.find? (·.suffix = t.name)
    (r.addItem { suffix := t.name, type }).modifyItem t.name fun item =>
      (item.setUp t row now).bind t handle

/-- Sets up the items of all templates, which start at a given position of the sub-resource. -/
def setUpItems (r : Resource) (handle? : Nat → Option TemplateHandle) (rows : List Row)
    (now : Instant) : Nat → List ItemTemplate → Resource
  | _, [] => r
  | position, t :: rest =>
    (r.setUpItem t (handle? position) rows now).setUpItems handle? rows now (position + 1) rest

/-- Sets an item of the identity, if it is there and empty and something is known. -/
def fillIdentity (r : Resource) (suffix value : String) (now : Instant) : Resource :=
  if (r.item? suffix).any (·.text.isEmpty) && !value.isEmpty then
    r.setIfFits suffix (.text value) now
  else r

end Resource

end ZigbeeGateway
