import ZigbeeGateway.Description.Basic
import ZigbeeGateway.Value.Coercion

/-!
# Errors

Why a request fails, with the number and the message that clients see.
-/

namespace ZigbeeGateway

/-- What can go wrong with descriptions. -/
inductive SchemaError where
  /-- The text is not the JSON of a description. -/
  | json
  /-- A file or a folder cannot be read. -/
  | unreadable
  /-- The description has a fault. -/
  | invalid (fault : Description.Fault)
  /-- A sub-resource of a device has no unique id. -/
  | partialFailure (device type : String)
  /-- No description is made for the device. -/
  | noMatch (manufacturer model : String)
  deriving DecidableEq, Repr

def SchemaError.message : SchemaError → String
  | .json => "JSON parse error"
  | .unreadable => "I/O error"
  | .invalid fault => "invalid item template: " ++ fault.message
  | .partialFailure device type => "sub-device " ++ type ++ " of " ++ device ++ " could not be set up"
  | .noMatch manufacturer model => "no description for " ++ manufacturer ++ " / " ++ model

/-- Why a request fails. -/
inductive Error where
  /-- The value is refused. -/
  | value (cause : ValueError)
  /-- A description cannot be loaded or applied. -/
  | schema (cause : SchemaError)
  /-- The resource does not exist or is deleted. -/
  | resourceNotFound (name : String)
  /-- The resource has no such item. -/
  | parameterNotAvailable (suffix : String)
  /-- The item may not be written. -/
  | notModifiable (suffix : String)
  /-- There is one of that name already. -/
  | duplicate (name : String)
  /-- The write could not be handed to the hardware. -/
  | actionFailed (suffix : String)
  deriving DecidableEq, Repr

namespace Error

def code : Error → Nat
  | .resourceNotFound _ => 3
  | .parameterNotAvailable _ => 6
  | .value _ => 7
  | .notModifiable _ => 8
  | .duplicate _ => 100
  | .schema _ | .actionFailed _ => 901

def message : Error → String
  | .value cause => "value error: " ++ cause.message
  | .schema cause => "schema error: " ++ cause.message
  | .resourceNotFound name => "resource " ++ name ++ " not available"
  | .parameterNotAvailable suffix => "parameter " ++ suffix ++ " not available"
  | .notModifiable suffix => "parameter " ++ suffix ++ " not modifiable"
  | .duplicate name => name ++ " already exists"
  | .actionFailed suffix => "could not set attribute " ++ suffix

end Error

end ZigbeeGateway
