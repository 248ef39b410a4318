/-!
# Wildcard patterns

In a pattern `*` stands for any run of characters, `?` for exactly one, and every other character
for itself.  There is no escape, so a pattern cannot ask for a literal `*` or `?`.

A pattern is matched from its end, against all tails of the text at once, so that the work grows with
the product of the two lengths however many stars there are.  The lemmas `covers_nil`,
`covers_star_nil`, `covers_star_cons`, `covers_literal_nil` and `covers_literal_cons` are the rules of
matching: together they determine `covers`.
-/

namespace ZigbeeGateway.Text

/-- Replaces each entry by whether it or a later one holds. -/
def orLater : List Bool → List Bool
  | [] => []
  | b :: rest =>
    let later := orLater rest
    (b || later.headD false) :: later

/-- Whether one character of a pattern other than the star stands for a character. -/
def standsFor (p c : Char) : Bool :=
  p = '?' || p = c

/-- Of each tail of a text, from the whole text down to the empty one, whether a pattern covers it. -/
def coveredTails : List Char → List Char → List Bool
  | [], s => s.map (fun _ => false) ++ [true]
  | p :: pattern, s =>
    let covered := coveredTails pattern s
    if p = '*' then orLater covered
    else List.zipWith (fun c rest => standsFor p c && rest) s covered.tail ++ [false]

/-- Whether a pattern covers a whole text. -/
def covers (pattern s : List Char) : Bool :=
  (coveredTails pattern s).headD false

/-- A pattern over texts. -/
structure Wildcard where
  pattern : String
  deriving DecidableEq, Repr

/-- Whether a wildcard pattern covers a text. -/
def Wildcard.accepts (w : Wildcard) (s : String) : Bool :=
  covers w.pattern.toList s.toList

/-! ### The rules of matching -/

/-- A star covers a tail if the rest of the pattern covers it or a shorter one. -/
theorem coveredTails_star (pattern s : List Char) :
    coveredTails ('*' :: pattern) s = orLater (coveredTails pattern s) := rfl

/-- Any other character covers a tail by its first character. -/
theorem coveredTails_literal {p : Char} (h : p ≠ '*') (pattern s : List Char) :
    coveredTails (p :: pattern) s =
      List.zipWith (fun c rest => standsFor p c && rest) s (coveredTails pattern s).tail
        ++ [false] := by
  rw [coveredTails, if_neg h]

/-- There is one entry for the empty text. -/
theorem coveredTails_nil (pattern : List Char) :
    coveredTails pattern [] = [covers pattern []] := by
  induction pattern with
  | nil => rfl
  | cons p pattern ih =>
    by_cases h : p = '*'
    · rw [covers, h, coveredTails_star, ih]
      rfl
    · rw [covers, coveredTails_literal h]
      rfl

/-- The entries for a text are the one for the whole text and those for the rest of it. -/
theorem coveredTails_cons (pattern : List Char) (c : Char) (s : List Char) :
    coveredTails pattern (c :: s) = covers pattern (c :: s) :: coveredTails pattern s := by
  induction pattern generalizing c s with
  | nil => rfl
  | cons p pattern ih =>
    by_cases h : p = '*'
    · rw [covers, h, coveredTails_star, coveredTails_star, ih]
      rfl
    · rw [covers, coveredTails_literal h, coveredTails_literal h, ih]
      cases s with
      | nil =>
        rw [coveredTails_nil]
        rfl
      | cons d s =>
        rw [ih]
        rfl

/-- The empty pattern covers only the empty text. -/
theorem covers_nil (s : List Char) : covers [] s = s.isEmpty := by
  cases s <;> rfl

/-- A star covers the empty text if the rest of the pattern does. -/
theorem covers_star_nil (pattern : List Char) : covers ('*' :: pattern) [] = covers pattern [] := by
  rw [covers, coveredTails_star, coveredTails_nil]
  exact Bool.or_false _

/-- A star stands for nothing, or for one character and what it stands for behind it. -/
theorem covers_star_cons (pattern : List Char) (c : Char) (s : List Char) :
    covers ('*' :: pattern) (c :: s) = (covers pattern (c :: s) || covers ('*' :: pattern) s) := by
  rw [covers, coveredTails_star, coveredTails_cons]
  rfl

/-- Any other character needs a character to stand for. -/
theorem covers_literal_nil {p : Char} (h : p ≠ '*') (pattern : List Char) :
    covers (p :: pattern) [] = false := by
  rw [covers, coveredTails_literal h]
  rfl

/-- Any other character stands for one character, and the rest of the pattern covers the rest. -/
theorem covers_literal_cons {p : Char} (h : p ≠ '*') (pattern : List Char) (c : Char)
    (s : List Char) : covers (p :: pattern) (c :: s) = (standsFor p c && covers pattern s) := by
  rw [covers, coveredTails_literal h, coveredTails_cons]
  cases s with
  | nil =>
    rw [coveredTails_nil]
    rfl
  | cons d s =>
    rw [coveredTails_cons]
    rfl

/-- A lone star covers everything. -/
theorem covers_star (s : List Char) : covers ['*'] s = true := by
  induction s with
  | nil => rfl
  | cons c s ih => rw [covers_star_cons, ih, Bool.or_true]

end ZigbeeGateway.Text
