import ZigbeeGateway.Description.Basic

/-!
# Reading device descriptions

The JSON form of descriptions and of write parameters.
-/

namespace ZigbeeGateway

open Json Json.Document

def DataType.ofDocument? (d : Document) : Option DataType :=
  d.choice?.bind DataType.ofName?

def WriteKind.ofDocument? (d : Document) : Option WriteKind :=
  d.choice?.bind WriteKind.ofName?

namespace Description

/-- One string, or an array of strings. -/
def oneOrMany? : Document → Option (List String)
  | .array elements => elements.mapM text?
  | d => d.text?.map ([·])

/-- A number of at most `bound`, or a text of one, or null. -/
def optionalUnsigned? (bound : Nat) : Document → Option (Option Nat)
  | .null => some none
  | .string content => do
    let n ← unsigned? (← content)
    if n ≤ bound then some (some n) else none
  | d => (d.natural? bound).map some

/-- A number of one byte. -/
def byte? (d : Document) : Option (Option UInt8) :=
  (optionalUnsigned? (2 ^ 8 - 1) d).map (·.map UInt8.ofNat)

/-- A number of two bytes. -/
def word? (d : Document) : Option (Option UInt16) :=
  (optionalUnsigned? (2 ^ 16 - 1) d).map (·.map UInt16.ofNat)

def writeParameters? (d : Document) : Option WriteParameters := do
  let r ← d.record?
    ["fn", "ep", "cl", "at", "dt", "mf", "cmd", "state.timeout", "change.timeout"]
  let seconds := natural? (2 ^ 64 - 1)
  return {
    kind := ← r.orElse? "fn" .zclAttribute WriteKind.ofDocument?
    endpoint := ← r.orElse? "ep" none byte?
    cluster := ← r.orElse? "cl" none word?
    attributeId := ← r.orElse? "at" none word?
    dataType := ← r.orElse? "dt" none byte?
    manufacturerCode := ← r.orElse? "mf" none word?
    command := ← r.orElse? "cmd" none byte?
    stateTimeout := ← r.optional? "state.timeout" seconds
    changeTimeout := ← r.optional? "change.timeout" seconds }

/-- The number of containers that are open around a member of an item template: the description,
its sub-resources, one of them, its items, and the template. -/
def templateDepth : Nat := 5

/-- A value with its label. -/
def labelled? : Document → Option (Json × String)
  | .array [value, label] => do
    return (← value.value? (templateDepth + 2), ← label.text?)
  | _ => none

def itemTemplate? (d : Document) : Option ItemTemplate := do
  let r ← d.record?
    ["name", "type", "default", "static", "public", "awake", "refresh.interval", "write", "values"]
  let anything := Document.value? templateDepth
  return {
    name := ← r.required? "name" text?
    declaredType := ← r.optional? "type" DataType.ofDocument?
    initial := ← r.optional? "default" anything
    fixed := ← r.optional? "static" anything
    isPublic := ← r.orElse? "public" true bool?
    awake := ← r.orElse? "awake" false bool?
    refreshInterval := ← r.optional? "refresh.interval" (natural? (2 ^ 64 - 1))
    write := ← r.optional? "write" writeParameters?
    values := ← r.orElse? "values" [] (list? labelled?) }

def subDevice? (d : Document) : Option SubDevice := do
  let r ← d.record? ["type", "restapi", "uuid", "items"]
  return {
    typeName := ← r.required? "type" text?
    restPath := ← r.required? "restapi" text?
    addressing := ← r.required? "uuid" oneOrMany?
    items := ← r.orElse? "items" [] (list? itemTemplate?) }

def ofDocument? (d : Document) : Option Description := do
  let r ← d.record? ["manufacturername", "modelid", "product", "sleeper", "status", "subdevices"]
  return {
    manufacturerNames := ← r.required? "manufacturername" oneOrMany?
    modelIds := ← r.required? "modelid" oneOrMany?
    product := ← r.optional? "product" text?
    sleeper := ← r.optional? "sleeper" bool?
    status := ← r.optional? "status" text?
    subDevices := ← r.orElse? "subdevices" [] (list? subDevice?) }

/-- Reads a description from JSON text.  It may still have faults. -/
def read? (s : String) : Option Description :=
  (Document.read? s).bind ofDocument?

/-- Reads write parameters from JSON text. -/
def readWriteParameters? (s : String) : Option WriteParameters :=
  (Document.read? s).bind writeParameters?

end Description

end ZigbeeGateway
