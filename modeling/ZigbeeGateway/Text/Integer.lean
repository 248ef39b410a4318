import ZigbeeGateway.Text.Digits

/-!
# Reading integers

Integer text is an optional plus sign, or for signed integers a minus sign, and at least one
digit.  The characters are judged from left to right: the first one that is no digit, or that
takes the number out of its bounds, decides the error.
-/

namespace ZigbeeGateway.Text

/-- Why a text is not an integer. -/
inductive IntegerError where
  /-- There is no text at all. -/
  | empty
  /-- A character is not a digit of the base, or a sign stands alone. -/
  | invalidDigit
  /-- The number is above the greatest one allowed. -/
  | tooLarge
  /-- The number is below the least one allowed. -/
  | tooSmall
  deriving DecidableEq, Repr

/-- The error as it is shown to users. -/
def IntegerError.message : IntegerError → String
  | .empty => "cannot parse integer from empty string"
  | .invalidDigit => "invalid digit found in string"
  | .tooLarge => "number too large to fit in target type"
  | .tooSmall => "number too small to fit in target type"

/-- Reads digits on top of the value `n`, which may not grow beyond `bound`. -/
def readDigits (base bound : Nat) (overflow : IntegerError) :
    Nat → List Char → Except IntegerError Nat
  | n, [] => .ok n
  | n, c :: rest =>
    match digit? base c with
    | none => .error .invalidDigit
    | some d =>
      if n * base + d ≤ bound then readDigits base bound overflow (n * base + d) rest
      else .error overflow

/-- Reads a natural number of at most `bound`. -/
def readNatural (base bound : Nat) : List Char → Except IntegerError Nat
  | [] => .error .empty
  | ['+'] => .error .invalidDigit
  | '+' :: digits => readDigits base bound .tooLarge 0 digits
  | digits => readDigits base bound .tooLarge 0 digits

/-- Reads an integer between `-bound - 1` and `bound`. -/
def readInteger (base bound : Nat) : List Char → Except IntegerError Int
  | ['-'] => .error .invalidDigit
  | '-' :: digits => (readDigits base (bound + 1) .tooSmall 0 digits).map fun n => -(n : Int)
  | s => (readNatural base bound s).map fun n => (n : Int)

end ZigbeeGateway.Text
