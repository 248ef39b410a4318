import ZigbeeGateway.DataType

/-!
# Item suffixes

An item is named within its resource by a suffix such as `state/temperature`: a category, a slash
and a key.  The suffixes that the gateway itself knows have a default type.
-/

namespace ZigbeeGateway.Suffix

/-! ### Suffixes with a meaning of their own -/

def uniqueId : String := "attr/uniqueid"
def extAddress : String := "attr/extaddress"
def manufacturerName : String := "attr/manufacturername"
def modelId : String := "attr/modelid"
def type : String := "attr/type"
def sleeper : String := "attr/sleeper"
def temperature : String := "state/temperature"
def humidity : String := "state/humidity"
def lightLevel : String := "state/lightlevel"
def dark : String := "state/dark"
def daylight : String := "state/daylight"
def buttonEvent : String := "state/buttonevent"
def lastUpdated : String := "state/lastupdated"
def orientationX : String := "state/orientation_x"
def orientationY : String := "state/orientation_y"
def orientationZ : String := "state/orientation_z"
def x : String := "state/x"
def y : String := "state/y"
def offset : String := "config/offset"
def tholdDark : String := "config/tholddark"
def tholdOffset : String := "config/tholdoffset"

/-! ### Parts of a suffix -/

/-- The part in front of the first slash, or the whole suffix without one. -/
def category (suffix : String) : String :=
  String.ofList (suffix.toList.takeWhile (· ≠ '/'))

/-- The part behind the first slash, or the whole suffix without one. -/
def key (suffix : String) : String :=
  match suffix.toList.dropWhile (· ≠ '/') with
  | [] => suffix
  | _ :: rest => String.ofList rest

/-! ### Default types -/

/-- The known suffixes by type. -/
def knownTypes : List (DataType × List String) :=
  [(.string,
      ["attr/uniqueid", "attr/manufacturername", "attr/modelid", "attr/name", "attr/type",
        "attr/swversion", "state/notification", "state/armstate", "state/panel", "config/mode",
        "config/devicemode", "config/clickmode", "config/lat", "config/long", "config/alert",
        "config/triggerdistance", "config/group"]),
    (.bool,
      ["attr/sleeper", "state/dark", "state/daylight", "state/presence", "state/open",
        "state/lowbattery", "state/tampered", "state/on", "state/reachable", "state/vibration",
        "state/heating", "config/on", "config/reachable", "config/ledindication",
        "config/usertest", "config/lock", "config/resetpresence", "config/selftest"]),
    (.time, ["attr/lastseen", "state/lastupdated", "state/localtime", "config/lastchangetime"]),
    (.uint64, ["attr/extaddress"]),
    (.int16,
      ["state/temperature", "state/pressure", "state/orientation_x", "state/orientation_y",
        "state/orientation_z", "config/offset", "config/heatsetpoint"]),
    (.int8, ["config/sunriseoffset", "config/sunsetoffset"]),
    (.uint8,
      ["state/battery", "state/valve", "config/battery", "config/sensitivity",
        "config/sensitivitymax", "config/lastchangesource", "config/melody", "config/volume"]),
    (.uint16,
      ["state/humidity", "state/lightlevel", "state/x", "state/y", "config/tholddark",
        "config/tholdoffset", "config/duration", "config/delay", "config/pending",
        "config/lastchangeamount"]),
    (.uint32,
      ["state/lux", "state/buttonevent", "config/hostflags", "config/enrolled", "config/checkin",
        "config/detectionrange"])]

/-- The type that items with a suffix have unless something else is declared. -/
def defaultType? (suffix : String) : Option DataType :=
  (knownTypes.find? fun (_, suffixes) => suffixes.contains suffix).map Prod.fst

end ZigbeeGateway.Suffix
