import ZigbeeGateway.Description.Constants
import ZigbeeGateway.ResourceKind
import ZigbeeGateway.Suffix
import ZigbeeGateway.Text.Wildcard
import ZigbeeGateway.Value.Json

/-!
# Device descriptions

A description says for which manufacturers and models it is made, which sub-resources such a device
has, and which items they hold.
-/

namespace ZigbeeGateway

/-- How a write reaches a device. -/
inductive WriteKind where
  /-- By writing an attribute, which can be read back. -/
  | zclAttribute
  /-- By a command of the cluster. -/
  | zclCommand
  /-- By a data point of the Tuya protocol. -/
  | tuya
  deriving DecidableEq, Repr

namespace WriteKind

def name : WriteKind → String
  | .zclAttribute => "zcl:attr"
  | .zclCommand => "zcl:cmd"
  | .tuya => "tuya"

/-- The kind with a name; `zcl` is short for attributes. -/
def ofName? (s : String) : Option WriteKind :=
  if s = "zcl:attr" ∨ s = "zcl" then some .zclAttribute
  else if s = "zcl:cmd" then some .zclCommand
  else if s = "tuya" then some .tuya
  else none

/-- Whether a written value can be read back from the device. -/
def supportsReadBack : WriteKind → Bool
  | .zclAttribute => true
  | _ => false

end WriteKind

/-- How writes of an item are encoded. -/
structure WriteParameters where
  kind : WriteKind := .zclAttribute
  /-- The endpoint, where it is not the one of the resource. -/
  endpoint : Option UInt8 := none
  cluster : Option UInt16 := none
  /-- The attribute or the data point. -/
  attributeId : Option UInt16 := none
  /-- The data type of the attribute. -/
  dataType : Option UInt8 := none
  /-- The manufacturer code. -/
  manufacturerCode : Option UInt16 := none
  command : Option UInt8 := none
  /-- Seconds before the value is read back or the write given up. -/
  stateTimeout : Option Nat := none
  /-- Seconds before the whole change is given up. -/
  changeTimeout : Option Nat := none
  deriving DecidableEq, Repr

/-- The template of an item. -/
structure ItemTemplate where
  name : String
  /-- The type, where it is not the default one of the suffix. -/
  declaredType : Option DataType := none
  /-- The value for an item that has no better one. -/
  initial : Option Json := none
  /-- The value of an item that is set up once and then kept. -/
  fixed : Option Json := none
  /-- Whether the item is shown to clients. -/
  isPublic : Bool := true
  /-- Whether a report of the item means that the node is awake. -/
  awake : Bool := false
  /-- Seconds between two refreshes. -/
  refreshInterval : Option Nat := none
  /-- How writes reach the hardware. -/
  write : Option WriteParameters := none
  /-- Values with their labels. -/
  values : List (Json × String) := []
  deriving Repr

namespace ItemTemplate

/-- The type of the item, if it is known. -/
def type? (t : ItemTemplate) : Option DataType :=
  t.declaredType.or (Suffix.defaultType? t.name)

/-- Whether the template has a proper suffix and a type. -/
def isValid (t : ItemTemplate) : Bool :=
  t.name.toList.contains '/' && t.type?.isSome

/-- Whether the item is set up once and then kept. -/
def isStatic (t : ItemTemplate) : Bool :=
  t.fixed.isSome

/-- The value an item starts with. -/
def startValue? (t : ItemTemplate) : Option Value :=
  (t.fixed.or t.initial).bind Value.ofJson?

/-- The value of a label. -/
def labelValue? (t : ItemTemplate) (label : String) : Option Value :=
  (t.values.find? (·.2 = label)).bind fun (json, _) => Value.ofJson? json

end ItemTemplate

/-- The template of a sub-resource. -/
structure SubDevice where
  /-- The type of the resource, possibly a constant. -/
  typeName : String
  /-- The path of the container. -/
  restPath : String
  /-- The pattern of the unique id. -/
  addressing : List String
  items : List ItemTemplate := []
  deriving Repr

namespace SubDevice

/-- The type of the resource. -/
def type (s : SubDevice) : String :=
  Description.resolve s.typeName

/-- The container of the resource, if the path names one. -/
def kind? (s : SubDevice) : Option ResourceKind :=
  ResourceKind.ofPath? s.restPath

end SubDevice

/-- The description of a device. -/
structure Description where
  /-- Patterns of manufacturer names, possibly constants. -/
  manufacturerNames : List String
  /-- Patterns of model ids. -/
  modelIds : List String
  /-- The name of the product. -/
  product : Option String := none
  /-- Whether the node sleeps, where that is known. -/
  sleeper : Option Bool := none
  /-- How mature the description is. -/
  status : Option String := none
  subDevices : List SubDevice := []
  /-- The file the description comes from. -/
  path : Option String := none
  deriving Repr

/-- What is wrong with a description. -/
inductive Description.Fault where
  /-- There is no manufacturer name or no model id. -/
  | namesMissing
  /-- The path of a sub-resource names no container. -/
  | unknownContainer (path type : String)
  /-- A sub-resource has no type. -/
  | emptyType
  /-- An item of a sub-resource has no proper suffix or no type. -/
  | invalidItem (name type : String)
  /-- A sub-resource that is to be made has no container. -/
  | noContainer (path : String)
  deriving DecidableEq, Repr

namespace Description

def Fault.message : Fault → String
  | .namesMissing => "manufacturername and modelid are required"
  | .unknownContainer path type => "unknown restapi " ++ path ++ " for " ++ type
  | .emptyType => "empty sub-device type"
  | .invalidItem name type => name ++ " in " ++ type
  | .noContainer path => "unknown restapi " ++ path

/-- The first fault of a sub-resource. -/
def subDeviceFault? (s : SubDevice) : Option Fault :=
  if s.kind?.isNone then some (.unknownContainer s.restPath s.typeName)
  else if s.type.isEmpty then some .emptyType
  else (s.items.find? (!·.isValid)).map fun t => .invalidItem t.name s.typeName

/-- The first fault of a description. -/
def fault? (d : Description) : Option Fault :=
  if d.manufacturerNames.isEmpty || d.modelIds.isEmpty then some .namesMissing
  else d.subDevices.findSome? subDeviceFault?

/-- Whether a description is made for a manufacturer and a model.  Only manufacturer patterns may be
constants. -/
def accepts (d : Description) (manufacturer model : String) : Bool :=
  (d.manufacturerNames.any fun p => (Text.Wildcard.mk (resolve p)).accepts manufacturer) &&
    d.modelIds.any fun p => (Text.Wildcard.mk p).accepts model

/-- The template of the first item with a suffix. -/
def template? (d : Description) (suffix : String) : Option ItemTemplate :=
  d.subDevices.findSome? fun s => s.items.find? (·.name = suffix)

/-- The first manufacturer name. -/
def manufacturer (d : Description) : String :=
  (d.manufacturerNames.head?.map resolve).getD ""

end Description

end ZigbeeGateway
