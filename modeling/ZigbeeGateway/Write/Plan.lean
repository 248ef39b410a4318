import ZigbeeGateway.Catalog
import ZigbeeGateway.Device
import ZigbeeGateway.Text.Blank
import ZigbeeGateway.WritePolicy

/-!
# Planning writes

Before anything happens, a write is checked and its route is chosen: kept by the gateway, followed
by a state change of a managed device, or handed to the encoder of a vendor.
-/

namespace ZigbeeGateway

/-- A write that a state change follows. -/
structure ManagedWrite where
  kind : WriteKind
  endpoint : UInt8
  /-- How the write is encoded. -/
  params : WriteParameters
  deriving DecidableEq, Repr

/-- The way a write takes. -/
inductive Route where
  /-- It is kept by the gateway. -/
  | software
  /-- It is sent, and a state change waits for its confirmation. -/
  | managed (write : ManagedWrite)
  /-- It is handed to a vendor encoder. -/
  | vendor
  deriving DecidableEq, Repr

/-- A write that passed all checks. -/
structure WritePlan where
  suffix : String
  /-- The value, fitted to the type of the item. -/
  value : Value
  /-- The value of the item before the write. -/
  previous : Option Value
  policy : WritePolicy
  route : Route
  deriving DecidableEq, Repr

namespace WritePlan

/-- Whether a resource is a sensor with hardware of its own. -/
def isPhysicalSensor (r : Resource) : Bool :=
  r.kind = .sensors && !r.isVirtual

/-- Whether an item of a resource may not be written.  The state of a physical sensor is for reading,
except for its button event. -/
def isReadOnly (r : Resource) (suffix : String) : Bool :=
  match WritePolicy.of suffix with
  | .readOnly => true
  | .readOnlyOnSensors => isPhysicalSensor r
  | _ =>
    isPhysicalSensor r && Suffix.category suffix = "state" && suffix ≠ Suffix.buttonEvent

/-- Whether a value is a text that is a finite number between blanks. -/
def isCoordinate : Value → Bool
  | .text s => (Binary64.read? (Text.trim s.toList)).any (·.isFinite)
  | _ => false

/-- The value that is meant: a text stands for the value of a label where the template has labels. -/
def meant (template : Option ItemTemplate) (v : Value) : Except ValueError Value :=
  match v, template with
  | .text label, some t =>
    if t.values.isEmpty then .ok v
    else
      match t.labelValue? label with
      | some v => .ok v
      | none => .error (.unknownLabel label)
  | _, _ => .ok v

/-- The value that an item takes for a write, or why it takes none. -/
def validate (item : Item) (template : Option ItemTemplate) (v : Value) :
    Except ValueError Value := do
  let v ← meant template v
  let v ← item.type.coerce v
  if WritePolicy.of item.suffix = .coordinate && !isCoordinate v then
    .error (.rejected item.suffix v.display)
  else .ok v

/-- The type of thermostats, whose offset the hardware applies. -/
def thermostatType : String := "ZHAThermostat"

/-- The endpoint of a managed write: the one of the template, else of the resource, else one. -/
def endpoint (r : Resource) (params : WriteParameters) : UInt8 :=
  (params.endpoint.or r.uniqueId.endpoint?).getD 1

/-- The way of a write. -/
def chooseRoute (r : Resource) (device : Option Device) (template : Option ItemTemplate)
    (suffix : String) : Route :=
  let policy := WritePolicy.of suffix
  if policy.isSoftware || r.isVirtual then .software
  else
    match device.filter (·.managed), template.bind (·.write) with
    | some _, some params =>
      .managed { kind := params.kind, endpoint := endpoint r params, params }
    | _, _ =>
      if policy = .offset && r.typeName ≠ thermostatType then .software else .vendor

/-- The template an item is bound to, if its handle still resolves. -/
def template? (catalog : Catalog) (item : Item) : Option ItemTemplate :=
  item.template.bind catalog.template?

/-- Checks a write and chooses its way. -/
def make (r : Resource) (device : Option Device) (catalog : Catalog) (suffix : String) (v : Value) :
    Except Error WritePlan :=
  if r.deleted then .error (.resourceNotFound r.id.text)
  else
    match r.item? suffix with
    | none => .error (.parameterNotAvailable suffix)
    | some item =>
      if isReadOnly r suffix then .error (.notModifiable suffix)
      else
        let template := template? catalog item
        match validate item template v with
        | .error e => .error (.value e)
        | .ok value =>
          .ok {
            suffix, value
            previous := item.value
            policy := WritePolicy.of suffix
            route := chooseRoute r device template suffix }

end WritePlan

end ZigbeeGateway
