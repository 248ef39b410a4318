import ZigbeeGateway.Time.Date

/-!
# Instants

An instant is a second of Universal Time and a fraction of it in nanoseconds.  A leap second has no
number of its own: it is the fraction beyond one of the second before it.
-/

namespace ZigbeeGateway

/-- A point in time. -/
structure Instant where
  /-- Seconds since 1970-01-01T00:00:00Z, leap seconds not counted. -/
  seconds : Int
  /-- Nanoseconds into the second, from `10 ^ 9` on inside a leap second. -/
  nanos : Nat
  deriving DecidableEq, Repr, Inhabited

namespace Instant

/-- The nanoseconds of a second. -/
def nanosPerSecond : Nat := 1000000000

/-- The seconds of a day. -/
def secondsPerDay : Nat := 86400

/-- Whether one instant is earlier than another. -/
def before (a b : Instant) : Bool :=
  a.seconds < b.seconds || (a.seconds = b.seconds && a.nanos < b.nanos)

/-- The first and the last year in which an instant may lie. -/
def firstYear : Int := -262143

@[inherit_doc firstYear]
def lastYear : Int := 262142

/-- Whether the instant lies in a year that instants may lie in. -/
def inRange (t : Instant) : Bool :=
  let first := (Time.Date.mk firstYear 1 1).toDays * secondsPerDay
  let last := (Time.Date.mk (lastYear + 1) 1 1).toDays * secondsPerDay
  first ≤ t.seconds && t.seconds < last

/-- The instant after a number of nanoseconds.  A step that ends inside the leap second it starts in
only moves the fraction; any other step first leaves the leap second. -/
def addNanos (t : Instant) (n : Nat) : Instant :=
  if nanosPerSecond ≤ t.nanos ∧ t.nanos + n < 2 * nanosPerSecond then ⟨t.seconds, t.nanos + n⟩
  else
    let total := t.nanos % nanosPerSecond + n
    ⟨t.seconds + (total / nanosPerSecond : Nat), total % nanosPerSecond⟩

/-- The instant a microsecond later. -/
def addMicrosecond (t : Instant) : Instant :=
  t.addNanos 1000

/-- The second of the day. -/
def secondOfDay (t : Instant) : Int :=
  t.seconds % secondsPerDay

/-- The nanoseconds from one instant to a later one, zero if it is not later.  A leap second at
either end is counted once the times of day differ. -/
def elapsedNanos (since now : Instant) : Nat :=
  let leap : Int :=
    if since.secondOfDay < now.secondOfDay ∧ nanosPerSecond ≤ since.nanos then 1
    else if now.secondOfDay < since.secondOfDay ∧ nanosPerSecond ≤ now.nanos then -1
    else 0
  ((now.seconds - since.seconds + leap) * nanosPerSecond + now.nanos - since.nanos).toNat

/-- Whole milliseconds since 1970-01-01T00:00:00Z. -/
def toMillis (t : Instant) : Int :=
  t.seconds * 1000 + (t.nanos / 1000000 : Nat)

/-- The instant a number of milliseconds after 1970-01-01T00:00:00Z, if it is in range. -/
def ofMillis? (millis : Int) : Option Instant :=
  let t : Instant := ⟨millis / 1000, (millis % 1000).toNat * 1000000⟩
  if t.inRange then some t else none

/-- The instant cut to whole milliseconds. -/
def truncToMillis (t : Instant) : Instant :=
  ⟨t.seconds, t.nanos - t.nanos % 1000000⟩

/-- The date of the instant. -/
def date (t : Instant) : Time.Date :=
  .ofDays (t.seconds / secondsPerDay)

/-- 2024-01-01T00:00:00Z, where a clock that was not set starts. -/
def start2024 : Instant := ⟨1704067200, 0⟩

end Instant

end ZigbeeGateway
