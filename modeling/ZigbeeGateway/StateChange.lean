import ZigbeeGateway.Description.Basic

/-!
# State changes

A state change follows a write to a device until the device reports the written values.  Ticks make
it ask for the write, then for reading back what was written, and at last give it up; reports verify
its targets one by one.

    waitSync ── tick: write ──▶ waitSync ── tick: read ──▶ waitRead ── tick: read ──▶ waitRead
        └── all targets verified ──▶ confirmed        └── no more time ──▶ timedOut
-/

namespace ZigbeeGateway

/-- How far a state change is. -/
inductive ChangeState where
  /-- The write is due or was sent. -/
  | waitSync
  /-- Reading back was asked for. -/
  | waitRead
  /-- Every target was reported with its value. -/
  | confirmed
  /-- Time ran out. -/
  | timedOut
  deriving DecidableEq, Repr

namespace ChangeState

def all : List ChangeState := [.waitSync, .waitRead, .confirmed, .timedOut]

/-- The name that is shown. -/
def display : ChangeState → String
  | .waitSync => "wait-sync"
  | .waitRead => "wait-read"
  | .confirmed => "confirmed"
  | .timedOut => "timed-out"

/-- The name that is stored. -/
def name : ChangeState → String
  | .waitSync => "WaitSync"
  | .waitRead => "WaitRead"
  | .confirmed => "Confirmed"
  | .timedOut => "TimedOut"

/-- The state with a stored name. -/
def ofName? (s : String) : Option ChangeState :=
  all.find? (·.name = s)

/-- Whether the state is never left. -/
def isFinal : ChangeState → Bool
  | .confirmed | .timedOut => true
  | _ => false

end ChangeState

/-- What a state change asks for. -/
inductive ChangeAction where
  /-- Send the write of all targets. -/
  | write
  /-- Read the targets back. -/
  | read
  deriving DecidableEq, Repr

def ChangeAction.name : ChangeAction → String
  | .write => "write"
  | .read => "read"

/-- One item of a write. -/
structure Target where
  suffix : String
  value : Value
  /-- The value of the item before the write. -/
  previous : Option Value := none
  /-- How the write is encoded. -/
  params : Option WriteParameters := none
  /-- Whether the device reported the value. -/
  verified : Bool := false
  deriving DecidableEq, Repr

/-- A write that waits for its confirmation. -/
structure StateChange where
  resource : ResourceId
  endpoint : UInt8
  kind : WriteKind
  /-- The items, each suffix once. -/
  targets : List Target := []
  /-- How far the change is. -/
  state : ChangeState := .waitSync
  /-- Milliseconds in one state before reading back. -/
  stateTimeout : Nat := 5000
  /-- Nanoseconds that add to `stateTimeout`. -/
  stateTimeoutNanos : Nat := 0
  /-- Milliseconds before the change is given up. -/
  changeTimeout : Nat := 180000
  /-- Nanoseconds that add to `changeTimeout`. -/
  changeTimeoutNanos : Nat := 0
  created : Instant
  stateEntered : Instant
  /-- Whether the write was asked for. -/
  writeIssued : Bool := false
  deriving DecidableEq, Repr

namespace StateChange

/-- A change without targets. -/
def new (resource : ResourceId) (kind : WriteKind) (endpoint : UInt8) (now : Instant) :
    StateChange :=
  { resource, kind, endpoint, created := now, stateEntered := now }

/-- The target of a suffix. -/
def target? (c : StateChange) (suffix : String) : Option Target :=
  c.targets.find? (·.suffix = suffix)

/-- Adds a target, or puts it in the place of the one with its suffix. -/
def addTarget (c : StateChange) (t : Target) : StateChange :=
  if (c.target? t.suffix).isSome then
    { c with targets := c.targets.map fun u => if u.suffix = t.suffix then t else u }
  else { c with targets := c.targets ++ [t] }

/-- Drops the target of a suffix. -/
def removeTarget (c : StateChange) (suffix : String) : StateChange :=
  { c with targets := c.targets.filter (·.suffix ≠ suffix) }

/-- Records another value as the one before the write of a suffix. -/
def inheritPrevious (c : StateChange) (suffix : String) (previous : Option Value) : StateChange :=
  { c with targets := c.targets.map fun t => if t.suffix = suffix then { t with previous } else t }

/-- Whether every target was verified. -/
def isConfirmed (c : StateChange) : Bool :=
  c.state = .confirmed

/-- Whether the change is in a final state. -/
def isFinished (c : StateChange) : Bool :=
  c.state.isFinal

/-- Whether a report of a value verifies a target. -/
def isVerifiedBy (c : StateChange) (suffix : String) (reported : Value) : Bool :=
  !c.state.isFinal && (c.target? suffix).any (·.value.sameAs reported)

/-- Takes a report.  The change is confirmed once all its targets are verified. -/
def verify (c : StateChange) (suffix : String) (reported : Value) : StateChange :=
  if c.isVerifiedBy suffix reported then
    let targets := c.targets.map fun t => if t.suffix = suffix then { t with verified := true } else t
    { c with
      targets
      state := if targets.all (·.verified) then .confirmed else c.state }
  else c

/-- The nanoseconds of a millisecond. -/
def nanosPerMilli : Nat := 1000000

/-- The nanoseconds in one state before reading back. -/
def stateTime (c : StateChange) : Nat :=
  c.stateTimeout * nanosPerMilli + c.stateTimeoutNanos

/-- The nanoseconds before the change is given up. -/
def changeTime (c : StateChange) : Nat :=
  c.changeTimeout * nanosPerMilli + c.changeTimeoutNanos

/-- Whether a number of nanoseconds has passed. -/
def hasPassed (since now : Instant) (nanos : Nat) : Bool :=
  nanos ≤ Instant.elapsedNanos since now

/-- Moves the change on to a time and says what has to be done. -/
def tick (c : StateChange) (now : Instant) : StateChange × Option ChangeAction :=
  if c.state.isFinal then (c, none)
  else if hasPassed c.created now c.changeTime then ({ c with state := .timedOut }, none)
  else if !c.writeIssued then ({ c with writeIssued := true, stateEntered := now }, some .write)
  else if !hasPassed c.stateEntered now c.stateTime then (c, none)
  else if c.kind.supportsReadBack then
    ({ c with state := .waitRead, stateEntered := now }, some .read)
  else ({ c with state := .timedOut, stateEntered := now }, none)

end StateChange

end ZigbeeGateway
