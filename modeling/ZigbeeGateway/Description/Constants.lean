import ZigbeeGateway.Powers
import ZigbeeGateway.Text.Blank
import ZigbeeGateway.Text.Integer

/-!
# Constants and numbers in descriptions

Descriptions may name manufacturers and resource types by constants, and write numbers in decimal
or in hexadecimal.
-/

namespace ZigbeeGateway.Description

/-- The constants and what they stand for. -/
def constants : List (String × String) :=
  [("$MF_BOSCH", "BOSCH"),
    ("$MF_IKEA", "IKEA of Sweden"),
    ("$MF_LUMI", "LUMI"),
    ("$MF_PHILIPS", "Philips"),
    ("$MF_SIGNIFY", "Signify Netherlands B.V."),
    ("$MF_TUYA", "_TZ3000_"),
    ("$MF_XIAOMI", "XIAOMI"),
    ("$TYPE_AIR_QUALITY_SENSOR", "ZHAAirQuality"),
    ("$TYPE_ALARM_SENSOR", "ZHAAlarm"),
    ("$TYPE_ANCILLARY_CONTROL", "ZHAAncillaryControl"),
    ("$TYPE_BATTERY_SENSOR", "ZHABattery"),
    ("$TYPE_DOOR_LOCK", "ZHADoorLock"),
    ("$TYPE_FIRE_SENSOR", "ZHAFire"),
    ("$TYPE_HUMIDITY_SENSOR", "ZHAHumidity"),
    ("$TYPE_LIGHT_LEVEL_SENSOR", "ZHALightLevel"),
    ("$TYPE_OPEN_CLOSE_SENSOR", "ZHAOpenClose"),
    ("$TYPE_PRESENCE_SENSOR", "ZHAPresence"),
    ("$TYPE_PRESSURE_SENSOR", "ZHAPressure"),
    ("$TYPE_SWITCH", "ZHASwitch"),
    ("$TYPE_TEMPERATURE_SENSOR", "ZHATemperature"),
    ("$TYPE_THERMOSTAT", "ZHAThermostat"),
    ("$TYPE_VIBRATION_SENSOR", "ZHAVibration"),
    ("$TYPE_WATER_LEAK_SENSOR", "ZHAWater")]

/-- What a constant stands for; any other text stands for itself. -/
def resolve (s : String) : String :=
  (constants.lookup s).getD s

/-- Reads a number below `2 ^ 64` between blanks: hexadecimal behind `0x` or `0X`, else decimal. -/
def unsigned? (s : String) : Option Nat :=
  match Text.trim s.toList with
  | '0' :: 'x' :: digits | '0' :: 'X' :: digits =>
    (Text.readNatural 16 (2 ^ 64 - 1) digits).toOption
  | digits => (Text.readNatural 10 (2 ^ 64 - 1) digits).toOption

end ZigbeeGateway.Description
