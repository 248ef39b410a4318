import ZigbeeGateway.Binary64.Basic
import ZigbeeGateway.Text.Digits

/-!
# JSON numerals

A numeral is kept as written until its value is asked for, because a numeral in a member that
nobody reads may be out of range.  Whole numerals in the range of 64-bit integers are integers.
All others are real numbers, found in two rounded steps: the leading digits that fit 64 bits are
rounded to a number, which is then multiplied or divided by a rounded power of ten.
-/

namespace ZigbeeGateway.Json

/-- A number as it is written. -/
structure Numeral where
  /-- Whether there is a minus sign. -/
  negative : Bool
  /-- The digits in front of the point; no zero leads other digits. -/
  whole : List Char
  /-- The digits behind the point, empty without a point. -/
  fraction : List Char
  /-- The sign and the digits of the exponent. -/
  exponent : Option (Bool × List Char)
  deriving DecidableEq, Repr

/-- The value of a numeral. -/
inductive Number where
  | integer (n : Int)
  | real (x : Binary64)
  deriving DecidableEq, Repr

namespace Numeral

/-- The greatest significand that is kept. -/
def significandBound : Nat := 2 ^ 64 - 1

/-- Appends digits to a significand as long as it stays within its bound.  Gives the significand
and the number of digits that were left over. -/
def appendDigits : Nat → List Char → Nat × Nat
  | n, [] => (n, 0)
  | n, c :: rest =>
    let next := 10 * n + (c.toNat - 48)
    if next ≤ significandBound then appendDigits next rest else (n, rest.length + 1)

/-- The rounded power `10 ^ k`. -/
def powerOfTen (k : Nat) : Binary64 :=
  Binary64.ofRatio false (10 ^ k) 1

/-- The number `significand * 10 ^ exponent` in two rounded steps, or none when it is beyond the
finite numbers.  Powers below `10 ^ -308` are divided out one table entry at a time. -/
def scaled? (significand : Nat) (exponent : Int) : Option Binary64 :=
  let x := Binary64.ofRatio false significand 1
  if 0 ≤ exponent then
    if exponent ≤ 308 then
      let y := x.mul (powerOfTen exponent.toNat)
      if y.isFinite then some y else none
    else if significand = 0 then some x
    else none
  else
    let k := (-exponent).toNat
    if k ≤ 308 then some (x.div (powerOfTen k))
    else if k ≤ 616 then some ((x.div (powerOfTen 308)).div (powerOfTen (k - 308)))
    else some (Binary64.zero false)

/-- The greatest exponent that is read; a numeral beyond it is zero or out of range. -/
def exponentBound : Nat := 2 ^ 31 - 1

/-- The real number a numeral denotes, if it is in range. -/
def real? (n : Numeral) : Option Binary64 :=
  let (significand, dropped) := appendDigits 0 n.whole
  let (significand, unused) := appendDigits significand n.fraction
  let start : Int := dropped - (n.fraction.length - unused : Nat)
  let magnitude? :=
    match n.exponent with
    | none => scaled? significand start
    | some (down, digits) =>
      let power := Text.decimalValue digits
      if exponentBound < power then
        if significand = 0 ∨ down then some (Binary64.zero false) else none
      else scaled? significand (if down then start - power else start + power)
  magnitude?.map fun x => if n.negative then x.neg else x

/-- The value of a numeral, if it is in range.  Minus zero is a real number. -/
def value? (n : Numeral) : Option Number :=
  let magnitude := Text.decimalValue n.whole
  if n.fraction = [] ∧ n.exponent = none then
    if !n.negative && magnitude ≤ significandBound then some (.integer magnitude)
    else if n.negative && 0 < magnitude && magnitude ≤ 2 ^ 63 then some (.integer (-magnitude))
    else n.real?.map .real
  else n.real?.map .real

end Numeral

end ZigbeeGateway.Json
