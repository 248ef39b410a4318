import ZigbeeGateway.Binary64.Basic

/-!
# JSON values

Objects are lists of fields sorted by name, each name once; `insert` and `find?` keep and use that
order.  Integers and real numbers are told apart: `1` and `1.0` are different values.
-/

namespace ZigbeeGateway

inductive Json where
  | null
  | bool (b : Bool)
  | integer (n : Int)
  | real (x : Binary64)
  | string (s : String)
  | array (elements : List Json)
  | object (fields : List (String × Json))
  deriving Repr, Inhabited

namespace Json

/-- The fields of an object. -/
abbrev Fields := List (String × Json)

/-- The value of a field. -/
def Fields.find? (fields : Fields) (name : String) : Option Json :=
  fields.lookup name

/-- Sets a field, replacing an earlier value and keeping the names sorted. -/
def Fields.insert (name : String) (value : Json) : Fields → Fields
  | [] => [(name, value)]
  | (n, v) :: rest =>
    if name = n then (name, value) :: rest
    else if name < n then (name, value) :: (n, v) :: rest
    else (n, v) :: insert name value rest

/-- The object with the given fields; of two fields with one name the later one stays. -/
def ofFields (fields : Fields) : Json :=
  .object (fields.foldl (fun acc (name, value) => Fields.insert name value acc) [])

end Json

end ZigbeeGateway
