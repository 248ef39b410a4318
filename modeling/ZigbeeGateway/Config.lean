import ZigbeeGateway.Json.Record

/-!
# Configuration

Times, save delays and light thresholds of a gateway.  All times are in milliseconds.
-/

namespace ZigbeeGateway

structure Config where
  /-- The time between two ticks. -/
  tickInterval : Nat := 1000
  /-- How long a write may stay in one state before it is read back. -/
  stateTimeout : Nat := 5000
  /-- How long a write may stay unconfirmed. -/
  changeTimeout : Nat := 180000
  /-- The save delay after routine changes. -/
  saveDelayShort : Nat := 5000
  /-- The save delay for data of low priority. -/
  saveDelayLong : Nat := 900000
  /-- The save delay for data that rarely changes. -/
  saveDelayHuge : Nat := 3600000
  /-- The dark threshold of sensors that have none of their own. -/
  tholdDark : Nat := 12000
  /-- The daylight offset of sensors that have none of their own. -/
  tholdOffset : Nat := 7000
  deriving DecidableEq, Repr, Inhabited

namespace Config

/-- The member names in the order of declaration. -/
def names : List String :=
  ["tick_interval", "state_timeout", "change_timeout", "save_delay_short", "save_delay_long",
    "save_delay_huge", "thold_dark", "thold_offset"]

/-- Reads a configuration; absent members keep their default. -/
def ofDocument? (d : Json.Document) : Option Config := do
  let r ← d.record? names
  let standard : Config := {}
  let millis := Json.Document.natural? (2 ^ 64 - 1)
  let level := Json.Document.natural? (2 ^ 16 - 1)
  return {
    tickInterval := ← r.orElse? "tick_interval" standard.tickInterval millis
    stateTimeout := ← r.orElse? "state_timeout" standard.stateTimeout millis
    changeTimeout := ← r.orElse? "change_timeout" standard.changeTimeout millis
    saveDelayShort := ← r.orElse? "save_delay_short" standard.saveDelayShort millis
    saveDelayLong := ← r.orElse? "save_delay_long" standard.saveDelayLong millis
    saveDelayHuge := ← r.orElse? "save_delay_huge" standard.saveDelayHuge millis
    tholdDark := ← r.orElse? "thold_dark" standard.tholdDark level
    tholdOffset := ← r.orElse? "thold_offset" standard.tholdOffset level }

/-- Reads a configuration from JSON text. -/
def read? (s : String) : Option Config :=
  (Json.Document.read? s).bind ofDocument?

def toJson (c : Config) : Json :=
  .ofFields
    [("tick_interval", .integer c.tickInterval), ("state_timeout", .integer c.stateTimeout),
      ("change_timeout", .integer c.changeTimeout),
      ("save_delay_short", .integer c.saveDelayShort),
      ("save_delay_long", .integer c.saveDelayLong),
      ("save_delay_huge", .integer c.saveDelayHuge), ("thold_dark", .integer c.tholdDark),
      ("thold_offset", .integer c.tholdOffset)]

end Config

end ZigbeeGateway
