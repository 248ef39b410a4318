import ZigbeeGateway.Json.Document

/-!
# Records in JSON

Typed reading of documents.  A record is written as an object of named members, or as an array of
its leading members in the order in which they are declared.  Members that a record does not know
are passed over unread; a known member that occurs twice is an error.
-/

namespace ZigbeeGateway.Json

/-- The members of a record that are present. -/
abbrev Record := List (String × Document)

namespace Document

/-- The members of a record whose member names are given in the order of declaration. -/
def record? (names : List String) : Document → Option Record
  | .array elements =>
    if elements.length ≤ names.length then some (names.zip elements) else none
  | .object members => do
    let named ← members.mapM fun (name, d) => name.map fun name => (name, d)
    let known := named.filter fun (name, _) => names.contains name
    if (known.map Prod.fst).Nodup then some known else none
  | _ => none

/-- A string. -/
def text? : Document → Option String
  | .string content => content
  | _ => none

/-- A truth value. -/
def bool? : Document → Option Bool
  | .bool b => some b
  | _ => none

/-- An integer between two bounds, which are included.  A number with a point or an exponent is no
integer. -/
def integer? (low high : Int) : Document → Option Int
  | .number n =>
    match n.value? with
    | some (.integer n) => if low ≤ n ∧ n ≤ high then some n else none
    | _ => none
  | _ => none

/-- A natural number of at most `bound`. -/
def natural? (bound : Nat) (d : Document) : Option Nat :=
  (d.integer? 0 bound).map Int.toNat

/-- The name of a choice that carries nothing: a string, or an object that maps it to null. -/
def choice? : Document → Option String
  | .string content => content
  | .object [(name, .null)] => name
  | _ => none

/-- An array whose elements are all read alike. -/
def list? {α : Type} (read : Document → Option α) : Document → Option (List α)
  | .array elements => elements.mapM read
  | _ => none

/-- Null for nothing, or something. -/
def orNull? {α : Type} (read : Document → Option α) : Document → Option (Option α)
  | .null => some none
  | d => (read d).map some

end Document

namespace Record

/-- A member that must be present. -/
def required? {α : Type} (r : Record) (name : String) (read : Document → Option α) : Option α :=
  (r.lookup name).bind read

/-- A member that has a value of its own when it is absent. -/
def orElse? {α : Type} (r : Record) (name : String) (absent : α) (read : Document → Option α) :
    Option α :=
  match r.lookup name with
  | none => some absent
  | some d => read d

/-- A member that may be absent or null. -/
def optional? {α : Type} (r : Record) (name : String) (read : Document → Option α) :
    Option (Option α) :=
  r.orElse? name none (Document.orNull? read)

end Record

end ZigbeeGateway.Json
