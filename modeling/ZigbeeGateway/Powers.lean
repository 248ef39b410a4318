/-!
# Powers

A library that a module loads may bring powers of its own and prefer them, and the same text would
then mean one thing here and another thing there.  The instance of this module goes first.
-/

namespace ZigbeeGateway

/-- A power of numbers is the built-in one. -/
@[default_instance 20000]
instance (priority := 20000) builtInPow {α : Type} [NatPow α] : Pow α Nat := instPowNat

end ZigbeeGateway
