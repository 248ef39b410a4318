import ZigbeeGateway.Powers

/-!
# Broadcast channels

A channel keeps the last messages up to its capacity, and each receiver remembers how far it has
read.  A receiver that falls behind further than that loses the oldest messages and is told how
many.
-/

namespace ZigbeeGateway

/-- A channel from one sender to many receivers. -/
structure Broadcast (α : Type) where
  /-- How many messages are kept. -/
  capacity : Nat
  /-- How many messages were sent. -/
  sent : Nat := 0
  /-- The last messages, the oldest first. -/
  kept : List α := []
  /-- How many messages each receiver is past. -/
  positions : List Nat := []
  deriving DecidableEq, Repr

/-- What a receiver gets. -/
inductive Delivery (α : Type) where
  /-- So many messages are lost. -/
  | lagged (count : Nat)
  | message (a : α)
  deriving DecidableEq, Repr

namespace Broadcast

variable {α : Type}

/-- The least power of two that is not below a number. -/
def powerOfTwo (n : Nat) : Nat :=
  if n ≤ 1 then 1 else 2 ^ (Nat.log2 (n - 1) + 1)

/-- The greatest capacity that memory can be asked for. -/
def greatestCapacity : Nat := 2 ^ 48

/-- A channel without receivers, whose capacity is rounded up to a power of two.  A channel has to
keep something, and what it keeps has to fit into memory. -/
def ofCapacity? (capacity : Nat) : Option (Broadcast α) :=
  if capacity = 0 ∨ greatestCapacity < capacity then none
  else some { capacity := powerOfTwo capacity }

/-- Adds a receiver of all later messages. -/
def subscribe (b : Broadcast α) : Broadcast α :=
  { b with positions := b.positions ++ [b.sent] }

/-- Sends a message; without a receiver it is gone. -/
def send (b : Broadcast α) (a : α) : Broadcast α :=
  if b.positions.isEmpty then b
  else
    let kept := b.kept ++ [a]
    { b with sent := b.sent + 1, kept := kept.drop (kept.length - b.capacity) }

/-- What waits for a receiver that is past a number of messages. -/
def waiting (b : Broadcast α) (position : Nat) : List (Delivery α) :=
  let behind := b.sent - position
  let lost := behind - b.capacity
  (if lost = 0 then [] else [.lagged lost]) ++
    (b.kept.drop (b.kept.length - behind)).map .message

/-- Reads all that waits for a receiver. -/
def drain (b : Broadcast α) (receiver : Nat) : Broadcast α × List (Delivery α) :=
  match b.positions[receiver]? with
  | none => (b, [])
  | some position => ({ b with positions := b.positions.set receiver b.sent }, b.waiting position)

end Broadcast

end ZigbeeGateway
