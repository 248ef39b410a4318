import ZigbeeGateway.Binary64.Text
import ZigbeeGateway.Json.Basic

/-!
# JSON text

The compact text of a JSON value: no blanks, and in strings only quotes, backslashes and control
characters are escaped.
-/

namespace ZigbeeGateway.Json

/-- Real numbers have their shortest digits, a tie going to the even digit.  A number whose first
digit has an exponent from -5 to 15 is written with a point and at least one decimal, any other
with an exponent. -/
def realLayout : RealLayout where
  tie := .even
  positional exponent := -5 ≤ exponent && exponent ≤ 15
  markWhole := true

/-- How a character is written inside a string. -/
def escape (c : Char) : List Char :=
  if c = '"' then ['\\', '"']
  else if c = '\\' then ['\\', '\\']
  else if c = '\x08' then ['\\', 'b']
  else if c = '\x0c' then ['\\', 'f']
  else if c = '\n' then ['\\', 'n']
  else if c = '\x0d' then ['\\', 'r']
  else if c = '\t' then ['\\', 't']
  else if c.toNat < 0x20 then '\\' :: 'u' :: Text.padded 16 4 c.toNat
  else [c]

/-- A string in quotes. -/
def quoted (s : List Char) : List Char :=
  '"' :: (s.flatMap escape ++ ['"'])

/-- A real number; infinities and what is not a number have no JSON text of their own. -/
def realText (x : Binary64) : List Char :=
  if x.isFinite then realLayout.text x else ['n', 'u', 'l', 'l']

mutual

/-- The text of a value. -/
def text : Json → List Char
  | .null => ['n', 'u', 'l', 'l']
  | .bool true => ['t', 'r', 'u', 'e']
  | .bool false => ['f', 'a', 'l', 's', 'e']
  | .integer n => Text.integerText n
  | .real x => realText x
  | .string s => quoted s.toList
  | .array elements => '[' :: (elementsText elements ++ [']'])
  | .object fields => '{' :: (fieldsText fields ++ ['}'])

/-- The texts of the elements of an array with commas between them. -/
def elementsText : List Json → List Char
  | [] => []
  | [element] => text element
  | element :: rest => text element ++ ',' :: elementsText rest

/-- The texts of the fields of an object with commas between them. -/
def fieldsText : List (String × Json) → List Char
  | [] => []
  | [(name, value)] => quoted name.toList ++ ':' :: text value
  | (name, value) :: rest => quoted name.toList ++ ':' :: (text value ++ ',' :: fieldsText rest)

end

end ZigbeeGateway.Json
