/-!
# Template handles

An item remembers its template by a handle, which says where the template stands in a catalog and
for which generation of the catalog that is true.
-/

namespace ZigbeeGateway

/-- Where the template of an item stands. -/
structure TemplateHandle where
  /-- The generation of the catalog that issued the handle. -/
  generation : UInt32
  /-- The position of the description. -/
  description : Nat
  /-- The position of the sub-resource in the description. -/
  subDevice : Nat
  /-- The position of the item in the sub-resource. -/
  item : Nat
  deriving DecidableEq, Repr

end ZigbeeGateway
