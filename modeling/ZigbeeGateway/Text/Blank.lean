/-!
# Blank characters

The characters with the Unicode property White_Space, and trimming them from the ends of a text.
-/

namespace ZigbeeGateway.Text

/-- The code points with the property White_Space, as ranges whose ends are included. -/
def blankRanges : List (Nat × Nat) :=
  [(0x9, 0xd), (0x20, 0x20), (0x85, 0x85), (0xa0, 0xa0), (0x1680, 0x1680), (0x2000, 0x200a),
    (0x2028, 0x2029), (0x202f, 0x202f), (0x205f, 0x205f), (0x3000, 0x3000)]

/-- Whether a character is white space. -/
def isBlank (c : Char) : Bool :=
  blankRanges.any fun (first, last) => first ≤ c.toNat && c.toNat ≤ last

/-- Drops the blanks in front. -/
def trimFront (s : List Char) : List Char :=
  s.dropWhile isBlank

/-- Drops the blanks at both ends. -/
def trim (s : List Char) : List Char :=
  (trimFront (trimFront s).reverse).reverse

end ZigbeeGateway.Text
