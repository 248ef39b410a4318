import ZigbeeGateway.Json.Basic
import ZigbeeGateway.Json.Numeral

/-!
# Reading JSON text

A text is cut into tokens, and a machine with a stack of open arrays and objects builds a
`Document` from them.  A document keeps what is written: the order of members, names that occur
twice, and numbers that are out of range.  Only `Document.value?` judges those, so that a part
that nobody asks for does no harm.
-/

namespace ZigbeeGateway.Json

/-- One place in a string: a character or an escaped 16-bit unit. -/
inductive StringUnit where
  | char (c : Char)
  | escaped (unit : Nat)
  deriving DecidableEq, Repr

/-- The characters that string units stand for.  Half a surrogate pair stands for none. -/
def joinUnits : List StringUnit → Option (List Char)
  | [] => some []
  | .char c :: rest => (joinUnits rest).map (c :: ·)
  | .escaped high :: .escaped low :: rest =>
    if 0xd800 ≤ high ∧ high < 0xdc00 then
      if 0xdc00 ≤ low ∧ low < 0xe000 then
        let code := 0x10000 + (high - 0xd800) * 0x400 + (low - 0xdc00)
        (joinUnits rest).map (Char.ofNat code :: ·)
      else none
    else if 0xdc00 ≤ high ∧ high < 0xe000 then none
    else (joinUnits (.escaped low :: rest)).map (Char.ofNat high :: ·)
  | .escaped unit :: rest =>
    if 0xd800 ≤ unit ∧ unit < 0xe000 then none
    else (joinUnits rest).map (Char.ofNat unit :: ·)

/-- The character that a one-letter escape stands for. -/
def shortEscape? : Char → Option Char
  | '"' => some '"'
  | '\\' => some '\\'
  | '/' => some '/'
  | 'b' => some '\x08'
  | 'f' => some '\x0c'
  | 'n' => some '\n'
  | 'r' => some '\x0d'
  | 't' => some '\t'
  | _ => none

/-- The value of four hexadecimal digits. -/
def hexUnit? (a b c d : Char) : Option Nat := do
  let a ← Text.digit? 16 a
  let b ← Text.digit? 16 b
  let c ← Text.digit? 16 c
  let d ← Text.digit? 16 d
  return ((a * 16 + b) * 16 + c) * 16 + d

/-- Reads the rest of a string behind its opening quote. -/
def readUnits : List Char → Option (List StringUnit × List Char)
  | [] => none
  | '"' :: rest => some ([], rest)
  | '\\' :: 'u' :: a :: b :: c :: d :: rest =>
    match hexUnit? a b c d, readUnits rest with
    | some unit, some (units, rest) => some (.escaped unit :: units, rest)
    | _, _ => none
  | '\\' :: e :: rest =>
    match shortEscape? e, readUnits rest with
    | some c, some (units, rest) => some (.char c :: units, rest)
    | _, _ => none
  | c :: rest =>
    if c = '\\' ∨ c.toNat < 0x20 then none
    else (readUnits rest).map fun (units, rest) => (.char c :: units, rest)

/-- Takes at least one decimal digit from the front. -/
def readDigitRun? (s : List Char) : Option (List Char × List Char) :=
  let digits := s.takeWhile Text.isDecimal
  if digits = [] then none else some (digits, s.dropWhile Text.isDecimal)

/-- Takes the digits in front of the point: a lone zero, or a run that does not start with one. -/
def readWhole? : List Char → Option (List Char × List Char)
  | '0' :: rest => some (['0'], rest)
  | s => readDigitRun? s

/-- Takes the point and the digits behind it, if there is a point. -/
def readFraction? : List Char → Option (List Char × List Char)
  | '.' :: rest => readDigitRun? rest
  | s => some ([], s)

/-- Takes an exponent, if there is one. -/
def readPower? : List Char → Option (Option (Bool × List Char) × List Char)
  | e :: rest =>
    if e = 'e' ∨ e = 'E' then
      let (down, rest) :=
        match rest with
        | '-' :: rest => (true, rest)
        | '+' :: rest => (false, rest)
        | _ => (false, rest)
      (readDigitRun? rest).map fun (digits, rest) => (some (down, digits), rest)
    else some (none, e :: rest)
  | [] => some (none, [])

/-- Takes a numeral behind its sign. -/
def readNumeral? (negative : Bool) (s : List Char) : Option (Numeral × List Char) := do
  let (whole, s) ← readWhole? s
  let (fraction, s) ← readFraction? s
  let (exponent, s) ← readPower? s
  return (⟨negative, whole, fraction, exponent⟩, s)

/-- A token of JSON text.  A string that holds half a surrogate pair has no content. -/
inductive Token where
  | beginArray
  | endArray
  | beginObject
  | endObject
  | comma
  | colon
  | null
  | bool (b : Bool)
  | number (n : Numeral)
  | string (content : Option String)
  deriving DecidableEq, Repr

/-- Takes the first token of a text that does not start with a blank. -/
def readToken? : List Char → Option (Token × List Char)
  | '[' :: rest => some (.beginArray, rest)
  | ']' :: rest => some (.endArray, rest)
  | '{' :: rest => some (.beginObject, rest)
  | '}' :: rest => some (.endObject, rest)
  | ',' :: rest => some (.comma, rest)
  | ':' :: rest => some (.colon, rest)
  | 'n' :: 'u' :: 'l' :: 'l' :: rest => some (.null, rest)
  | 't' :: 'r' :: 'u' :: 'e' :: rest => some (.bool true, rest)
  | 'f' :: 'a' :: 'l' :: 's' :: 'e' :: rest => some (.bool false, rest)
  | '"' :: rest =>
    (readUnits rest).map fun (units, rest) =>
      (.string ((joinUnits units).map String.ofList), rest)
  | '-' :: rest => (readNumeral? true rest).map fun (n, rest) => (.number n, rest)
  | s => (readNumeral? false s).map fun (n, rest) => (.number n, rest)

/-- Whether a character may stand between tokens. -/
def isGap (c : Char) : Bool :=
  c = ' ' || c = '\t' || c = '\n' || c = '\x0d'

/-- Cuts a text into tokens.  Each token has at least one character, so the length of the text is
fuel enough. -/
def tokensWithin : Nat → List Char → Option (List Token)
  | fuel, s =>
    match s.dropWhile isGap with
    | [] => some []
    | c :: rest =>
      match fuel with
      | 0 => none
      | fuel + 1 =>
        match readToken? (c :: rest) with
        | none => none
        | some (token, rest) => (tokensWithin fuel rest).map (token :: ·)

/-- The tokens of a text. -/
def tokens? (s : List Char) : Option (List Token) :=
  tokensWithin s.length s

/-- JSON as it is written. -/
inductive Document where
  | null
  | bool (b : Bool)
  | number (n : Numeral)
  | string (content : Option String)
  | array (elements : List Document)
  | object (members : List (Option String × Document))
  deriving Repr, Inhabited

/-- A container that is still open. -/
inductive Frame where
  /-- An array with its elements so far, the last one first. -/
  | elements (before : List Document)
  /-- An object with its members so far, the last one first, that waits for a name. -/
  | members (before : List (Option String × Document))
  /-- An object that waits for the value of a name. -/
  | member (before : List (Option String × Document)) (name : Option String)
  deriving Repr

/-- What may come next. -/
inductive Expectation where
  | value
  /-- The first element of an array, or its end. -/
  | elementOrEnd
  | name
  /-- The first name of an object, or its end. -/
  | nameOrEnd
  | colon
  /-- What follows a complete value. -/
  | next (d : Document)
  deriving Repr

/-- A reader part way through: the open containers, the innermost first, and what may come. -/
structure Reader where
  /-- The open containers. -/
  open? : List Frame
  /-- What may come next. -/
  expect : Expectation
  deriving Repr

namespace Reader

/-- The document that a token is by itself. -/
def literal? : Token → Option Document
  | .null => some .null
  | .bool b => some (.bool b)
  | .number n => some (.number n)
  | .string content => some (.string content)
  | _ => none

/-- Starts a value. -/
def startValue (frames : List Frame) (t : Token) : Option Reader :=
  match t with
  | .beginArray => some ⟨.elements [] :: frames, .elementOrEnd⟩
  | .beginObject => some ⟨.members [] :: frames, .nameOrEnd⟩
  | _ => (literal? t).map fun d => ⟨frames, .next d⟩

/-- Takes one token. -/
def step (r : Reader) (t : Token) : Option Reader :=
  match r.expect, t, r.open? with
  | .value, t, frames => startValue frames t
  | .elementOrEnd, .endArray, .elements _ :: frames => some ⟨frames, .next (.array [])⟩
  | .elementOrEnd, t, frames => startValue frames t
  | .nameOrEnd, .endObject, .members _ :: frames => some ⟨frames, .next (.object [])⟩
  | .nameOrEnd, .string name, .members before :: frames => some ⟨.member before name :: frames, .colon⟩
  | .name, .string name, .members before :: frames => some ⟨.member before name :: frames, .colon⟩
  | .colon, .colon, frames => some ⟨frames, .value⟩
  | .next d, .comma, .elements before :: frames => some ⟨.elements (d :: before) :: frames, .value⟩
  | .next d, .comma, .member before name :: frames =>
    some ⟨.members ((name, d) :: before) :: frames, .name⟩
  | .next d, .endArray, .elements before :: frames =>
    some ⟨frames, .next (.array (d :: before).reverse)⟩
  | .next d, .endObject, .member before name :: frames =>
    some ⟨frames, .next (.object ((name, d) :: before).reverse)⟩
  | _, _, _ => none

/-- The document that is complete once nothing is open. -/
def result? (r : Reader) : Option Document :=
  match r.open?, r.expect with
  | [], .next d => some d
  | _, _ => none

end Reader

/-- Reads a whole text as one document. -/
def Document.read? (s : String) : Option Document := do
  let tokens ← tokens? s.toList
  let reader ← tokens.foldlM Reader.step ⟨[], .value⟩
  reader.result?

/-- How many arrays and objects may be open at once in a value. -/
def depthBound : Nat := 127

/-- The JSON value of a number. -/
def Number.value : Number → Json
  | .integer n => .integer n
  | .real x => .real x

mutual

/-- The value of a document that stands inside `depth` open containers, unless a number is out of
range, a string has no content or too many containers are open. -/
def Document.value? (depth : Nat) : Document → Option Json
  | .null => some .null
  | .bool b => some (.bool b)
  | .number n => n.value?.map Number.value
  | .string content => content.map .string
  | .array elements =>
    if depth < depthBound then (elementValues? (depth + 1) elements).map .array else none
  | .object members =>
    if depth < depthBound then (memberValues? (depth + 1) members).map ofFields else none

/-- The values of the elements of an array. -/
def elementValues? (depth : Nat) : List Document → Option (List Json)
  | [] => some []
  | d :: rest =>
    match d.value? depth, elementValues? depth rest with
    | some value, some values => some (value :: values)
    | _, _ => none

/-- The values of the members of an object. -/
def memberValues? (depth : Nat) : List (Option String × Document) → Option (List (String × Json))
  | [] => some []
  | (name, d) :: rest =>
    match name, d.value? depth, memberValues? depth rest with
    | some name, some value, some values => some ((name, value) :: values)
    | _, _, _ => none

end

/-- Reads a whole text as one value. -/
def read? (s : String) : Option Json :=
  (Document.read? s).bind (Document.value? 0)

end ZigbeeGateway.Json
