import ZigbeeGateway.Powers
import ZigbeeGateway.Text.Blank
import ZigbeeGateway.Text.Digits
import ZigbeeGateway.Time.Instant

/-!
# Text of instants

Instants are written as date and time of day without a zone, or in the form of RFC 3339.  They are
read from RFC 3339, or from the form without a zone, which is taken as Universal Time and is more
lenient: numbers may have blanks in front and need not be padded.
-/

namespace ZigbeeGateway.Instant

open ZigbeeGateway.Text

/-! ### Writing -/

/-- A year: four digits, and a sign where four digits are not enough. -/
def yearText (year : Int) : List Char :=
  if 0 ≤ year ∧ year ≤ 9999 then padded 10 4 year.toNat
  else (if year < 0 then '-' else '+') :: padded 10 4 year.natAbs

/-- Date and time of day down to the second.  A leap second is the second 60. -/
def secondsText (t : Instant) : List Char :=
  let date := t.date
  let second := t.secondOfDay.toNat
  yearText date.year ++ '-' :: padded 10 2 date.month ++ '-' :: padded 10 2 date.day ++
    'T' :: padded 10 2 (second / 3600) ++ ':' :: padded 10 2 (second / 60 % 60) ++
    ':' :: padded 10 2 (second % 60 + t.nanos / nanosPerSecond)

/-- Date and time of day with three decimals and no zone. -/
def text (t : Instant) : List Char :=
  t.secondsText ++ '.' :: padded 10 3 (t.nanos % nanosPerSecond / 1000000)

/-- The form of RFC 3339 with as many groups of three decimals as are needed. -/
def rfc3339Text (t : Instant) : List Char :=
  let nanos := t.nanos % nanosPerSecond
  let fraction :=
    if nanos = 0 then []
    else if nanos % 1000000 = 0 then '.' :: padded 10 3 (nanos / 1000000)
    else if nanos % 1000 = 0 then '.' :: padded 10 6 (nanos / 1000)
    else '.' :: padded 10 9 nanos
  t.secondsText ++ fraction ++ ['Z']

/-! ### Reading -/

/-- Date and time of day as they are read, before they are known to exist. -/
structure Fields where
  year : Int
  month : Nat
  day : Nat
  hour : Nat
  minute : Nat
  second : Nat
  nanos : Nat

/-- The instant at an offset from Universal Time, in seconds.  Second 60 is a leap second. -/
def Fields.toInstant? (f : Fields) (offset : Int) : Option Instant :=
  let date : Time.Date := ⟨f.year, f.month, f.day⟩
  if firstYear ≤ f.year ∧ f.year ≤ lastYear ∧ date.IsValid ∧ f.hour ≤ 23 ∧ f.minute ≤ 59 ∧
      f.second ≤ 60 then
    let second := min f.second 59
    let leap := if f.second = 60 then nanosPerSecond else 0
    let seconds : Int := date.toDays * secondsPerDay + (f.hour * 3600 + f.minute * 60 + second : Nat)
    some ⟨seconds - offset, f.nanos + leap⟩
  else none

/-- Takes between `least` and `most` decimal digits. -/
def takeNumber? (least most : Nat) (s : List Char) : Option (Nat × List Char) :=
  let digits := (s.take most).takeWhile isDecimal
  if least ≤ digits.length then some (decimalValue digits, s.drop digits.length) else none

/-- Takes one given character. -/
def takeChar? (c : Char) : List Char → Option (List Char)
  | d :: rest => if c = d then some rest else none
  | [] => none

/-- Takes a fraction of a second, if there is a point.  Digits behind the ninth are dropped. -/
def takeFraction? : List Char → Option (Nat × List Char)
  | '.' :: s => do
    let (n, rest) ← takeNumber? 1 9 s
    let places := s.length - rest.length
    return (n * 10 ^ (9 - places), rest.dropWhile isDecimal)
  | s => some (0, s)

/-- Takes a zone: `Z`, or a sign, two digits of hours, a colon and two digits of minutes.  Gives
the offset from Universal Time in seconds. -/
def takeZone? : List Char → Option (Int × List Char)
  | [] => none
  | sign :: rest =>
    if sign = 'Z' ∨ sign = 'z' then some (0, rest)
    else if sign = '+' ∨ sign = '-' ∨ sign = '\u2212' then do
      let (hours, rest) ← takeNumber? 2 2 rest
      let rest ← takeChar? ':' rest
      let (minutes, rest) ← takeNumber? 2 2 rest
      if hours ≤ 23 ∧ minutes ≤ 59 then
        let offset : Int := (hours * 3600 + minutes * 60 : Nat)
        some (if sign = '+' then offset else -offset, rest)
      else none
    else none

/-- Reads the form of RFC 3339; a blank or a lower-case letter may stand between date and time. -/
def readRfc3339? (s : List Char) : Option Instant := do
  let (year, s) ← takeNumber? 4 4 s
  let s ← takeChar? '-' s
  let (month, s) ← takeNumber? 2 2 s
  let s ← takeChar? '-' s
  let (day, s) ← takeNumber? 2 2 s
  let s ← (takeChar? 'T' s).or ((takeChar? 't' s).or (takeChar? ' ' s))
  let (hour, s) ← takeNumber? 2 2 s
  let s ← takeChar? ':' s
  let (minute, s) ← takeNumber? 2 2 s
  let s ← takeChar? ':' s
  let (second, s) ← takeNumber? 2 2 s
  let (nanos, s) ← takeFraction? s
  let (offset, s) ← takeZone? s
  if s = [] then Fields.toInstant? ⟨year, month, day, hour, minute, second, nanos⟩ offset else none

/-- Takes a year: up to four digits, or a sign and any number of digits. -/
def takeYear? (s : List Char) : Option (Int × List Char) :=
  match trimFront s with
  | '-' :: rest => (takeNumber? 1 rest.length rest).map fun (n, rest) => (-n, rest)
  | '+' :: rest => (takeNumber? 1 rest.length rest).map fun (n, rest) => (n, rest)
  | rest => (takeNumber? 1 4 rest).map fun (n, rest) => (n, rest)

/-- Takes one or two digits behind blanks. -/
def takeShort? (s : List Char) : Option (Nat × List Char) :=
  takeNumber? 1 2 (trimFront s)

/-- Reads date and time of day without a zone. -/
def readPlain? (s : List Char) : Option Instant := do
  let (year, s) ← takeYear? s
  let s ← takeChar? '-' s
  let (month, s) ← takeShort? s
  let s ← takeChar? '-' s
  let (day, s) ← takeShort? s
  let s ← takeChar? 'T' s
  let (hour, s) ← takeShort? s
  let s ← takeChar? ':' s
  let (minute, s) ← takeShort? s
  let s ← takeChar? ':' s
  let (second, s) ← takeShort? s
  let (nanos, s) ← takeFraction? s
  if s = [] then Fields.toInstant? ⟨year, month, day, hour, minute, second, nanos⟩ 0 else none

/-- Reads an instant in either form. -/
def read? (s : List Char) : Option Instant :=
  (readRfc3339? s).or (readPlain? s)

end ZigbeeGateway.Instant
