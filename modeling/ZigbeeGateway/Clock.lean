import ZigbeeGateway.Time.Instant

/-!
# Clocks

A clock that only moves when it is told to.
-/

namespace ZigbeeGateway

structure Clock where
  now : Instant := Instant.start2024
  deriving DecidableEq, Repr, Inhabited

/-- Moves a clock on by seconds and nanoseconds.  A clock that would leave the range of instants
stays where it is. -/
def Clock.advance (c : Clock) (seconds nanos : Nat) : Clock :=
  let t := c.now.addNanos (seconds * Instant.nanosPerSecond + nanos)
  if t.inRange then ⟨t⟩ else c

end ZigbeeGateway
