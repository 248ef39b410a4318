/-!
# Containers and ids of resources

Resources live in three containers and have a number within the gateway.
-/

namespace ZigbeeGateway

/-- The container of a resource. -/
inductive ResourceKind where
  | sensors
  | lights
  | devices
  deriving DecidableEq, Repr

namespace ResourceKind

def all : List ResourceKind := [.sensors, .lights, .devices]

def name : ResourceKind → String
  | .sensors => "sensors"
  | .lights => "lights"
  | .devices => "devices"

def ofName? (s : String) : Option ResourceKind :=
  all.find? (·.name = s)

/-- The container at a path such as `/sensors`; any number of slashes may be in front. -/
def ofPath? (path : String) : Option ResourceKind :=
  ofName? (String.ofList (path.toList.dropWhile (· = '/')))

end ResourceKind

/-- The number of a resource within the gateway. -/
structure ResourceId where
  value : Nat
  deriving DecidableEq, Repr

/-- The number in decimal. -/
def ResourceId.text (id : ResourceId) : String :=
  String.ofList (Nat.toDigits 10 id.value)

end ZigbeeGateway
