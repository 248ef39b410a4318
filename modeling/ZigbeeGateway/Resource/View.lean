import ZigbeeGateway.Device

/-!
# The public view of a resource

The JSON object that clients see.  Items of the category `attr` are members of the object itself,
all others stand in an object of their category.  Public items of the node come first, so that items
of the resource win.
-/

namespace ZigbeeGateway

/-- The category whose items are members of the outer object. -/
def View.topLevel : String := "attr"

namespace View

/-- The public value of an item: null without a value, except that a time of last update says so. -/
def itemJson (item : Item) : Json :=
  match item.value with
  | some v => v.toJson
  | none => if item.suffix = Suffix.lastUpdated then .string "none" else .null

/-- Puts a value at the place of a suffix.  A value under a category that is taken by something else
than an object is lost. -/
def place (fields : Json.Fields) (suffix : String) (value : Json) : Json.Fields :=
  let category := Suffix.category suffix
  let key := Suffix.key suffix
  if category = topLevel then Json.Fields.insert key value fields
  else
    match Json.Fields.find? fields category with
    | none => Json.Fields.insert category (.object [(key, value)]) fields
    | some (.object nested) =>
      Json.Fields.insert category (.object (Json.Fields.insert key value nested)) fields
    | some _ => fields

/-- The value at the place of a suffix. -/
def valueAt? (fields : Json.Fields) (suffix : String) : Option Json :=
  let category := Suffix.category suffix
  let key := Suffix.key suffix
  if category = topLevel then Json.Fields.find? fields key
  else
    match Json.Fields.find? fields category with
    | some (.object nested) => Json.Fields.find? nested key
    | _ => none

/-- The items that are shown as part of a combined member only. -/
def combined : List String :=
  [Suffix.orientationX, Suffix.orientationY, Suffix.orientationZ, Suffix.x, Suffix.y]

/-- A colour coordinate of 16 bits scaled to one and rounded to four decimals. -/
def coordinate (item : Item) : Json :=
  let scale := Binary64.ofDecimal false 65535 (-4)
  let tenThousand := Binary64.ofInt 10000
  .real ((((Binary64.ofInt item.number).div scale).round).div tenThousand)

/-- Whether an item is shown, possibly only within one category. -/
def isShown (category : Option String) (item : Item) : Bool :=
  item.isPublic && category.all fun c => Suffix.category item.suffix = c

/-- The items of a node that are shown with each of its parts. -/
def nodeItems (category : Option String) (device : Option Device) : List Item :=
  match device with
  | none => []
  | some d =>
    d.node.items.filter fun i =>
      isShown category i && i.suffix ≠ Suffix.uniqueId && i.suffix ≠ Suffix.type

/-- Combines the three axes of an orientation, if all are shown. -/
def placeOrientation (shown : List Item) (fields : Json.Fields) : Json.Fields :=
  let find (suffix : String) := shown.find? (·.suffix = suffix)
  match find Suffix.orientationX, find Suffix.orientationY, find Suffix.orientationZ with
  | some x, some y, some z =>
    place fields "state/orientation"
      (.array [.integer x.number, .integer y.number, .integer z.number])
  | _, _, _ => fields

/-- Combines the two colour coordinates, if both are shown. -/
def placeColour (shown : List Item) (fields : Json.Fields) : Json.Fields :=
  let find (suffix : String) := shown.find? (·.suffix = suffix)
  match find Suffix.x, find Suffix.y with
  | some x, some y => place fields "state/xy" (.array [coordinate x, coordinate y])
  | _, _ => fields

end View

/-- The view of a resource with the items of its node, possibly of one category only.  The whole view
also has the endpoint and the ETag. -/
def Resource.view (r : Resource) (device : Option Device) (category : Option String) :
    Json.Fields :=
  let shown := r.items.filter (View.isShown category)
  let single := shown.filter fun i => !View.combined.contains i.suffix
  let fields := (View.nodeItems category device ++ single).foldl
    (fun fields i => View.place fields i.suffix (View.itemJson i)) []
  let fields := View.placeColour shown (View.placeOrientation shown fields)
  if category.isNone then
    let fields :=
      match r.uniqueId.endpoint? with
      | some endpoint => Json.Fields.insert "ep" (.integer endpoint.toNat) fields
      | none => fields
    Json.Fields.insert "etag" (.string r.etag) fields
  else fields

end ZigbeeGateway
