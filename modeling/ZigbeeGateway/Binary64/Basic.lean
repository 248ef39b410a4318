import ZigbeeGateway.Powers

/-!
# Binary64 numbers

The finite numbers of the binary64 format are whole multiples of one unit, `2 ^ -1074`.  Sorted by
magnitude they are numbered from zero on; `units` gives the magnitude of a rank in units.  All
arithmetic is exact arithmetic on natural numbers followed by one rounding, `ofRatio`, to the
nearest number, a half going to the even rank.
-/

namespace ZigbeeGateway

/-- The number of finite magnitudes: `2 ^ 52` below the least normal number and for each of the
2046 binades. -/
def Binary64.rankCount : Nat := 2047 * 2 ^ 52

/-- A binary64 number.  There is a single value that is not a number. -/
inductive Binary64 where
  | nan
  /-- Beyond every finite number on one side. -/
  | infinite (negative : Bool)
  /-- A finite number, by its sign and the rank of its magnitude. -/
  | finite (negative : Bool) (rank : Fin Binary64.rankCount)
  deriving DecidableEq, Repr

namespace Binary64

/-- How many units make one. -/
def one : Nat := 2 ^ 1074

/-- The magnitude of a rank in units.  Ranks below `2 ^ 53` are their own magnitude; from there on
each run of `2 ^ 52` ranks has steps twice as wide as the run before. -/
def units (rank : Nat) : Nat :=
  if rank < 2 ^ 52 then rank else (2 ^ 52 + rank % 2 ^ 52) * 2 ^ (rank / 2 ^ 52 - 1)

/-- The greatest rank whose magnitude is at most `u` units. -/
def rankBelow (u : Nat) : Nat :=
  let shift := Nat.log2 u - 52
  shift * 2 ^ 52 + u / 2 ^ shift

/-- The rank nearest to `num / den`, a half going to the even rank.  It reaches `rankCount` when
the ratio is too great for a finite number. -/
def nearestRank (num den : Nat) : Nat :=
  let rank := rankBelow (num * one / den)
  let twice := 2 * num * one
  let middle := (units rank + units (rank + 1)) * den
  if twice > middle ∨ (twice = middle ∧ rank % 2 = 1) then rank + 1 else rank

/-- The number nearest to `num / den`, with a sign. -/
def ofRatio (negative : Bool) (num den : Nat) : Binary64 :=
  let rank := nearestRank num den
  if h : rank < rankCount then .finite negative ⟨rank, h⟩ else .infinite negative

/-- Zero, with a sign. -/
def zero (negative : Bool) : Binary64 :=
  .finite negative ⟨0, by decide⟩

/-- The number nearest to an integer. -/
def ofInt (n : Int) : Binary64 :=
  ofRatio (n < 0) n.natAbs 1

/-- The number nearest to `digits * 10 ^ exponent`, with a sign. -/
def ofDecimal (negative : Bool) (digits : Nat) (exponent : Int) : Binary64 :=
  let places := (Nat.toDigits 10 digits).length + exponent
  if digits = 0 ∨ places < -400 then zero negative
  else if places > 400 then .infinite negative
  else ofRatio negative (digits * 10 ^ exponent.toNat) (10 ^ (-exponent).toNat)

/-- Whether the number is neither infinite nor not a number. -/
def isFinite : Binary64 → Bool
  | .finite _ _ => true
  | _ => false

/-- Whether the sign is minus. -/
def isNegative : Binary64 → Bool
  | .nan => false
  | .infinite negative => negative
  | .finite negative _ => negative

/-- Whether two numbers are numerically equal: the two zeros are, and nothing equals a value that
is not a number. -/
def numEq : Binary64 → Binary64 → Bool
  | .finite s x, .finite t y => x = y && (s = t || x.val = 0)
  | .infinite s, .infinite t => s = t
  | _, _ => false

/-- The number with the opposite sign. -/
def neg : Binary64 → Binary64
  | .nan => .nan
  | .infinite negative => .infinite !negative
  | .finite negative rank => .finite (!negative) rank

/-- The rounded product. -/
def mul : Binary64 → Binary64 → Binary64
  | .finite s x, .finite t y => ofRatio (s != t) (units x * units y) (one * one)
  | .infinite s, .infinite t => .infinite (s != t)
  | .infinite s, .finite t y => if y.val = 0 then .nan else .infinite (s != t)
  | .finite s x, .infinite t => if x.val = 0 then .nan else .infinite (s != t)
  | _, _ => .nan

/-- The rounded quotient. -/
def div : Binary64 → Binary64 → Binary64
  | .finite s x, .finite t y =>
    if y.val = 0 then if x.val = 0 then .nan else .infinite (s != t)
    else ofRatio (s != t) (units x) (units y)
  | .infinite s, .finite t _ => .infinite (s != t)
  | .finite s _, .infinite t => zero (s != t)
  | _, _ => .nan

/-- The integer a number denotes, if it denotes one. -/
def toInt? : Binary64 → Option Int
  | .finite negative rank =>
    if units rank % one = 0 then
      let n : Int := (units rank / one : Nat)
      some (if negative then -n else n)
    else none
  | _ => none

/-- The number cut to an integer toward zero and then to the 64-bit signed range; zero for what is
not a number. -/
def toInt64 : Binary64 → Int
  | .nan => 0
  | .infinite negative => if negative then -2 ^ 63 else 2 ^ 63 - 1
  | .finite negative rank =>
    let n : Int := (units rank / one : Nat)
    if negative then max (-n) (-2 ^ 63) else min n (2 ^ 63 - 1)

/-- The nearest integral number, a half going away from zero. -/
def round : Binary64 → Binary64
  | .finite negative rank => ofRatio negative ((2 * units rank + one) / (2 * one)) 1
  | x => x

end Binary64

end ZigbeeGateway
