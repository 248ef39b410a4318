import ZigbeeGateway.Binary64.Basic

/-!
# Shortest decimals

Among the decimals that round to a given binary64 number, `shortest` picks one with the fewest
digits, and of those the nearest to the number.  For each count of digits it is enough to test the
two neighbours of the number on the grid of decimals with that many digits.
-/

namespace ZigbeeGateway

/-- The decimal `digits * 10 ^ exponent`. -/
structure Decimal where
  /-- The digits, read as a natural number. -/
  digits : Nat
  /-- The power of ten of the last digit. -/
  exponent : Int
  deriving DecidableEq, Repr

/-- Which of two equally near decimals is taken. -/
inductive TieRule where
  | up
  /-- The one whose last digit is even. -/
  | even
  deriving DecidableEq, Repr

namespace Binary64

/-- The power of ten of the first digit of `u` units, for a positive `u`. -/
def leadingExponent (u : Nat) : Int :=
  if one ≤ u then (Nat.toDigits 10 (u / one)).length - 1
  else -(Nat.toDigits 10 ((one + u - 1) / u - 1)).length

/-- Whether `c * 10 ^ exponent` rounds to the given rank: it lies between the middles to the
neighbouring ranks, the middles themselves included for an even rank. -/
def roundsTo (rank c : Nat) (exponent : Int) : Bool :=
  let scale := 10 ^ (-exponent).toNat
  let low := (units (rank - 1) + units rank) * scale
  let high := (units rank + units (rank + 1)) * scale
  let x := c * 10 ^ exponent.toNat * (2 * one)
  if rank % 2 = 0 then low ≤ x && x ≤ high else low < x && x < high

/-- The neighbour of the number on the grid of multiples of `10 ^ exponent` that rounds to it, the
nearer one if both do. -/
def onGrid? (tie : TieRule) (rank : Nat) (exponent : Int) : Option Nat :=
  let num := units rank * 10 ^ (-exponent).toNat
  let step := one * 10 ^ exponent.toNat
  let below := num / step
  let above := below + 1
  match roundsTo rank below exponent, roundsTo rank above exponent with
  | true, true =>
    let toBelow := num - below * step
    let toAbove := above * step - num
    if toBelow < toAbove then some below
    else if toAbove < toBelow then some above
    else
      match tie with
      | .up => some above
      | .even => some (if below % 2 = 0 then below else above)
  | true, false => some below
  | false, true => some above
  | false, false => none

/-- Drops zeros at the end of the digits, at most `fuel` of them. -/
def dropZeros : Nat → Decimal → Decimal
  | 0, d => d
  | fuel + 1, d =>
    if d.digits ≠ 0 ∧ d.digits % 10 = 0 then dropZeros fuel ⟨d.digits / 10, d.exponent + 1⟩ else d

/-- The shortest decimal that rounds to the magnitude of a rank.  Seventeen digits always
suffice. -/
def shortest (tie : TieRule) (rank : Nat) : Decimal :=
  if rank = 0 then ⟨0, 0⟩
  else
    let leading := leadingExponent (units rank)
    let found := (List.range 17).findSome? fun (more : Nat) =>
      let exponent := leading - more
      (onGrid? tie rank exponent).map fun c => dropZeros 17 ⟨c, exponent⟩
    found.getD ⟨units rank, -1074⟩

end Binary64

end ZigbeeGateway
