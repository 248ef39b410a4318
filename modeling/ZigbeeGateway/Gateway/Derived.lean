import ZigbeeGateway.Gateway.Basic

/-!
# Derived items

Items that follow from others: dark and daylight from the light level and its thresholds, and the
correction of measured values when their offset is written.
-/

namespace ZigbeeGateway

/-- The value as an integer; zero for texts and times. -/
def Value.number : Value → Int
  | .int n => n.toInt
  | .uint n => min n.toNat Item.greatest
  | .real x => x.toInt64
  | .bool b => if b then 1 else 0
  | .text _ | .time _ => 0

/-- The integer that an item of a resource holds, if it holds a value. -/
def Resource.number? (r : Resource) (suffix : String) : Option Int :=
  ((r.item? suffix).filter (·.value.isSome)).map Item.number

/-! ### The light level -/

namespace Resource

variable (config : Config) (r : Resource)

/-- The light level up to which it is dark. -/
def darkLevel : Int :=
  (r.number? Suffix.tholdDark).getD config.tholdDark

/-- How far above the dark threshold daylight begins. -/
def daylightOffset : Int :=
  (r.number? Suffix.tholdOffset).getD config.tholdOffset

/-- The light level from which on there is daylight: a sum of 64-bit integers, which wraps around. -/
def daylightLevel : Int :=
  (Int64.ofInt (r.darkLevel config) + Int64.ofInt (r.daylightOffset config)).toInt

/-- Whether the sum leaves the range of 64-bit integers. -/
def daylightOverflows : Bool :=
  (Int64.ofInt (r.darkLevel config)).toBitVec.saddOverflow
    (Int64.ofInt (r.daylightOffset config)).toBitVec

end Resource

namespace Gateway

/-! ### Offsets -/

/-- The number of what an offset holds; without a value it counts as zero. -/
def numberHeld (v : Option Value) : Int :=
  (v.map Value.number).getD 0

/-- The change of an offset by a write: a difference of 64-bit integers, which wraps around. -/
def offsetChange (previous : Option Value) (v : Value) : Int :=
  (Int64.ofInt v.number - Int64.ofInt (numberHeld previous)).toInt

/-- Whether the difference leaves the range of 64-bit integers. -/
def offsetOverflows (previous : Option Value) (v : Value) : Bool :=
  (Int64.ofInt v.number).toBitVec.ssubOverflow (Int64.ofInt (numberHeld previous)).toBitVec

/-- A number cut to the 64-bit signed range. -/
def saturate (n : Int) : Int :=
  max (-2 ^ 63) (min n Item.greatest)

/-- The measured items that an offset corrects, with the bounds of the corrected value. -/
def corrected : List (String × Option (Int × Int)) :=
  [(Suffix.temperature, none), (Suffix.humidity, some (0, 10000))]

/-- The corrected value of a measured item. -/
def correct (current delta : Int) (bounds : Option (Int × Int)) : Int :=
  let next := saturate (current + delta)
  match bounds with
  | none => next
  | some (low, high) => max low (min next high)

/-- Adds the change of an offset to one measured item, if it has a value. -/
def correctItem (g : Gateway) (id : ResourceId) (delta : Int) (suffix : String)
    (bounds : Option (Int × Int)) : Gateway :=
  match (g.registry.resource? id).bind (·.number? suffix) with
  | none => g
  | some current => g.applyIfFits id suffix (.int (Int64.ofInt (correct current delta bounds)))

/-- Adds the change of an offset to all measured items. -/
def applyOffset (g : Gateway) (id : ResourceId) (delta : Int) : Gateway :=
  corrected.foldl (fun g (suffix, bounds) => g.correctItem id delta suffix bounds) g

/-! ### Flags and effects -/

/-- The flags that follow from a light level and its thresholds. -/
def lightFlags (config : Config) (r : Resource) (level : Int) : List (String × Bool) :=
  [(Suffix.dark, level ≤ r.darkLevel config), (Suffix.daylight, r.daylightLevel config ≤ level)]

/-- Sets the flags that follow from the light level, as far as the resource has them. -/
def recomputeLight (g : Gateway) (id : ResourceId) : Gateway :=
  match g.registry.resource? id with
  | none => g
  | some r =>
    match r.number? Suffix.lightLevel with
    | none => g
    | some level =>
      ((lightFlags g.config r level).filter fun (suffix, _) => r.hasItem suffix).foldl
        (fun g (suffix, flag) => g.applyIfFits id suffix (.bool flag))
        (g.noteOverflow (r.daylightOverflows g.config))

/-- What a write of a value does to other items. -/
def applyEffect (g : Gateway) (id : ResourceId) (policy : WritePolicy) (previous : Option Value)
    (v : Value) : Gateway :=
  match policy with
  | .offset =>
    let change := offsetChange previous v
    let noted := g.noteOverflow (offsetOverflows previous v)
    if change = 0 then noted else noted.applyOffset id change
  | .threshold => g.recomputeLight id
  | _ => g

end Gateway

end ZigbeeGateway
