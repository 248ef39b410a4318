import ZigbeeGateway.Binary64.Shortest
import ZigbeeGateway.Text.Digits

/-!
# Text of binary64 numbers

Numbers are written with their shortest digits; a `RealLayout` says where the point goes.  They are
read from decimal or exponent form and rounded once, to the nearest.
-/

namespace ZigbeeGateway

/-- How a real number is laid out. -/
structure RealLayout where
  /-- Which of two equally near shortest decimals is written. -/
  tie : TieRule
  /-- The exponents of the first digit that are written without an exponent. -/
  positional : Int → Bool
  /-- Whether a whole number gets a point and a zero. -/
  markWhole : Bool

namespace RealLayout

/-- Digits with a point and zeros, and no exponent. -/
def positionalText (layout : RealLayout) (digits : List Char) (exponent : Int) : List Char :=
  let count : Int := digits.length
  if 0 ≤ exponent then
    digits ++ List.replicate exponent.toNat '0' ++ (if layout.markWhole then ['.', '0'] else [])
  else if 0 < count + exponent then
    let whole := (count + exponent).toNat
    digits.take whole ++ '.' :: digits.drop whole
  else '0' :: '.' :: (List.replicate (-(count + exponent)).toNat '0' ++ digits)

/-- Digits with a point behind the first one, and an exponent that always has a sign. -/
def scientificText (digits : List Char) (exponent : Int) : List Char :=
  let power := exponent + digits.length - 1
  let mantissa := digits.take 1 ++ (if 1 < digits.length then '.' :: digits.drop 1 else [])
  mantissa ++ 'e' :: (if power < 0 then '-' else '+') :: Nat.toDigits 10 power.natAbs

/-- The text of a number. -/
def text (layout : RealLayout) : Binary64 → List Char
  | .nan => ['N', 'a', 'N']
  | .infinite negative => (if negative then ['-'] else []) ++ ['i', 'n', 'f']
  | .finite negative rank =>
    let d := Binary64.shortest layout.tie rank
    let digits := Nat.toDigits 10 d.digits
    let body :=
      if layout.positional (d.exponent + digits.length - 1) then
        layout.positionalText digits d.exponent
      else scientificText digits d.exponent
    (if negative then ['-'] else []) ++ body

end RealLayout

namespace Binary64

/-- Reads the exponent behind an `e`: an optional sign and at least one digit, up to the end. -/
def readExponent? (s : List Char) : Option Int :=
  let (negative, digits) :=
    match s with
    | '-' :: rest => (true, rest)
    | '+' :: rest => (false, rest)
    | _ => (false, s)
  if digits ≠ [] ∧ digits.all Text.isDecimal then
    let n : Int := Text.decimalValue digits
    some (if negative then -n else n)
  else none

/-- Reads an unsigned decimal: digits with at most one point among them and at least one digit,
then possibly an exponent. -/
def readUnsigned? (negative : Bool) (s : List Char) : Option Binary64 :=
  let whole := s.takeWhile Text.isDecimal
  let rest := s.dropWhile Text.isDecimal
  let (fraction, rest) :=
    match rest with
    | '.' :: more => (more.takeWhile Text.isDecimal, more.dropWhile Text.isDecimal)
    | _ => ([], rest)
  if whole ++ fraction = [] then none
  else
    let exponent? :=
      match rest with
      | [] => some 0
      | 'e' :: more | 'E' :: more => readExponent? more
      | _ => none
    exponent?.map fun exponent =>
      ofDecimal negative (Text.decimalValue (whole ++ fraction)) (exponent - fraction.length)

/-- Reads a number: an optional sign and then a decimal, or `inf`, `infinity` or `nan` in any
case. -/
def read? (s : List Char) : Option Binary64 :=
  let (negative, body) :=
    match s with
    | '-' :: rest => (true, rest)
    | '+' :: rest => (false, rest)
    | _ => (false, s)
  let word := String.ofList (body.map Char.toLower)
  if word = "nan" then some .nan
  else if word = "inf" ∨ word = "infinity" then some (.infinite negative)
  else readUnsigned? negative body

end Binary64

end ZigbeeGateway
