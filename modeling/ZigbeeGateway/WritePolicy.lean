import ZigbeeGateway.Suffix

/-!
# Write policies

What a write of an item is allowed to do, by the suffix of the item.  Items that are not listed are
written to the hardware.
-/

namespace ZigbeeGateway

/-- The policy for writes of one item. -/
inductive WritePolicy where
  /-- Never writable. -/
  | readOnly
  /-- Read-only on physical sensors, writable on virtual ones. -/
  | readOnlyOnSensors
  /-- A threshold of the light level, from which dark and daylight follow. -/
  | threshold
  /-- A text that has to be numeric. -/
  | coordinate
  /-- Kept by the gateway only. -/
  | software
  /-- Written to the hardware, and its change is added to measured values. -/
  | offset
  /-- Written to the hardware. -/
  | hardware
  deriving DecidableEq, Repr

namespace WritePolicy

/-- The policies that are not `hardware`, with their suffixes. -/
def table : List (WritePolicy × List String) :=
  [(.readOnly,
      ["attr/uniqueid", "attr/extaddress", "attr/manufacturername", "attr/modelid", "attr/type",
        "attr/swversion", "attr/lastseen", "state/lastupdated", "config/pending",
        "config/sensitivitymax", "config/hostflags", "config/lastchangeamount",
        "config/lastchangesource", "config/lastchangetime", "config/enrolled"]),
    (.readOnlyOnSensors, ["config/battery", "config/reachable"]),
    (.threshold, ["config/tholddark", "config/tholdoffset"]),
    (.coordinate, ["config/lat", "config/long"]),
    (.software, ["attr/name", "config/on", "config/sunriseoffset", "config/sunsetoffset"]),
    (.offset, ["config/offset"])]

/-- The policy for a suffix. -/
def of (suffix : String) : WritePolicy :=
  ((table.find? fun (_, suffixes) => suffixes.contains suffix).map Prod.fst).getD .hardware

/-- Whether a write never reaches the hardware. -/
def isSoftware : WritePolicy → Bool
  | .threshold | .coordinate | .software => true
  | _ => false

def name : WritePolicy → String
  | .readOnly => "ReadOnly"
  | .readOnlyOnSensors => "ReadOnlyOnSensors"
  | .threshold => "Threshold"
  | .coordinate => "Coordinate"
  | .software => "Software"
  | .offset => "Offset"
  | .hardware => "Hardware"

end WritePolicy

end ZigbeeGateway
