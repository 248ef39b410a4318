import ZigbeeGateway.Proofs.Json.Document

/-!
# Real numbers read back

A numeral is read in two rounded steps.  If its digits make a number below `2 ^ 53` and at most 22 of
them are decimals, the first step is exact, so that the number is rounded only once (`real?_of_short`).
A real number whose shortest decimal is of that size is then read back from its text
(`read?_realText_of_short`).
-/

namespace ZigbeeGateway

/-- Whether the digits that are printed for a decimal make a number below `2 ^ 53`, at most 22 of them
behind the point.  A decimal without a fraction is printed with a zero behind the point. -/
structure Decimal.IsShort (d : Decimal) : Prop where
  digits : d.digits * 10 ^ (d.exponent + 1).toNat < 2 ^ 53
  places : -22 ≤ d.exponent

/-- A short decimal has at most sixteen digits, and without a fraction it ends before the sixteenth
place. -/
theorem Decimal.IsShort.length_toDigits {d : Decimal} (h : d.IsShort) (hd : 0 < d.digits) :
    (Nat.toDigits 10 d.digits).length ≤ 16 ∧
      (0 ≤ d.exponent → (Nat.toDigits 10 d.digits).length + d.exponent ≤ 15) := by
  have hdigits : d.digits * 10 ^ (d.exponent + 1).toNat < 10 ^ 16 :=
    h.digits.trans (by decide)
  have hlt : d.digits < 10 ^ 16 :=
    Nat.lt_of_le_of_lt (Nat.le_mul_of_pos_right _ (Nat.pow_pos (by omega))) hdigits
  refine ⟨(Nat.length_toDigits_le_iff (by omega) (by omega)).mpr hlt, fun hwhole => ?_⟩
  have hplace : (d.exponent + 1).toNat < 16 := by
    by_contra hge
    have hpow : 10 ^ 16 ≤ d.digits * 10 ^ (d.exponent + 1).toNat :=
      (Nat.pow_le_pow_right (by omega) (by omega)).trans (Nat.le_mul_of_pos_left _ hd)
    omega
  have hshort : d.digits < 10 ^ (16 - (d.exponent + 1).toNat) := by
    refine Nat.lt_of_mul_lt_mul_right (a := 10 ^ (d.exponent + 1).toNat) ?_
    rwa [← Nat.pow_add, Nat.sub_add_cancel (Nat.le_of_lt hplace)]
  have hlength := (Nat.length_toDigits_le_iff (by omega) (by omega)).mpr hshort
  omega

namespace Json.Numeral

open Binary64 Text

/-- Digits that do not exceed the bound are all kept. -/
theorem appendDigits_eq {n : Nat} {digits : List Char}
    (h : Nat.ofDigitChars 10 digits n ≤ significandBound) :
    appendDigits n digits = (Nat.ofDigitChars 10 digits n, 0) := by
  induction digits generalizing n with
  | nil => rfl
  | cons c digits ih =>
    rw [Nat.ofDigitChars_cons] at h ⊢
    have hnext : 10 * n + (c.toNat - 48) ≤ significandBound := by
      rw [Nat.ofDigitChars_eq_ofDigitChars_zero] at h
      have hgrow : 10 * n + (c.toNat - 48) ≤
          10 ^ digits.length * (10 * n + (c.toNat - '0'.toNat)) :=
        Nat.le_mul_of_pos_left _ (Nat.pow_pos (by omega))
      omega
    unfold appendDigits
    dsimp only
    rw [if_pos hnext]
    exact ih h

/-- A significand of 53 binary digits and a power of ten up to `10 ^ 22` are exact, so the quotient
is rounded once. -/
theorem scaled?_of_short {significand k : Nat} (hs : significand < 2 ^ 53) (hk : 0 < k)
    (hk' : k ≤ 22) :
    scaled? significand (-k) = some (ofRatio false significand (10 ^ k)) := by
  obtain ⟨x, hx, hxunits⟩ := exists_ofRatio_eq false hs (Nat.zero_le 900)
  have hfive : 5 ^ k < 2 ^ 53 :=
    Nat.lt_of_le_of_lt (Nat.pow_le_pow_right (by omega) hk') (by decide)
  obtain ⟨y, hy, hyunits⟩ := exists_ofRatio_eq false hfive (show k ≤ 900 by omega)
  rw [← Nat.mul_pow] at hy hyunits
  rw [Nat.pow_zero, Nat.mul_one] at hx hxunits
  unfold scaled? powerOfTen
  dsimp only
  have hkint : (-(-(k : Int))).toNat = k := by omega
  rw [if_neg (by omega), hkint, if_pos (by omega), hx, hy,
    div_of_exact hxunits hyunits (Nat.pow_pos (by omega))]
  rfl

/-- The power of ten of the last digit. -/
def lastPlace (n : Numeral) : Int :=
  match n.exponent with
  | none => -n.fraction.length
  | some (true, digits) => -n.fraction.length - decimalValue digits
  | some (false, digits) => -n.fraction.length + decimalValue digits

variable {n : Numeral} {significand k : Nat}

/-- Digits that are all kept are scaled by the power of ten of the last one. -/
theorem real?_of_kept (hsignificand : Nat.ofDigitChars 10 (n.whole ++ n.fraction) 0 = significand)
    (hkept : significand ≤ significandBound)
    (hpower : ∀ down digits, n.exponent = some (down, digits) →
      decimalValue digits ≤ exponentBound) :
    n.real? = (scaled? significand n.lastPlace).map fun x => if n.negative then x.neg else x := by
  rw [Nat.ofDigitChars_append] at hsignificand
  -- The whole part is no greater than the significand, so it is kept digit by digit, too.
  have hgrow : Nat.ofDigitChars 10 n.whole 0 ≤ significand := by
    rw [← hsignificand]
    generalize Nat.ofDigitChars 10 n.whole 0 = kept
    rw [Nat.ofDigitChars_eq_ofDigitChars_zero]
    exact Nat.le_add_right_of_le (Nat.le_mul_of_pos_left _ (Nat.pow_pos (by omega)))
  unfold real?
  rw [appendDigits_eq (hgrow.trans hkept)]
  dsimp only
  rw [appendDigits_eq (hsignificand ▸ hkept), hsignificand]
  dsimp only
  unfold lastPlace
  cases hexponent : n.exponent with
  | none => simp
  | some power =>
    obtain ⟨down, digits⟩ := power
    have hbound := hpower down digits hexponent
    have hin : ¬exponentBound < decimalValue digits := by omega
    cases down <;> simp [hin]

/-- **A short numeral is rounded once.** -/
theorem real?_of_short (hsignificand : Nat.ofDigitChars 10 (n.whole ++ n.fraction) 0 = significand)
    (hs : significand < 2 ^ 53) (hplace : n.lastPlace = -k) (hk : 0 < k) (hk' : k ≤ 22)
    (hpower : ∀ down digits, n.exponent = some (down, digits) →
      decimalValue digits ≤ exponentBound) :
    n.real? = some (ofRatio n.negative significand (10 ^ k)) := by
  have hkept : significand ≤ significandBound := by
    unfold significandBound
    omega
  rw [real?_of_kept hsignificand hkept hpower, hplace, scaled?_of_short hs hk hk', Option.map_some]
  rcases n.negative.eq_false_or_eq_true with hnegative | hnegative
  · rw [hnegative, if_pos rfl, neg_ofRatio, Bool.not_false]
  · rw [hnegative, if_neg Bool.false_ne_true]

/-! ### Short decimals -/

variable {d : Decimal}

theorem realLayout_positional {power : Int} :
    realLayout.positional power = true ↔ -5 ≤ power ∧ power ≤ 15 := by
  simp [realLayout]

/-- The numeral of a decimal with a fraction has the digits of the decimal, the last of them in the
same place. -/
theorem digits_ofDecimal_of_neg (negative : Bool) (hneg : d.exponent < 0) :
    Nat.ofDigitChars 10 ((ofDecimal negative d).whole ++ (ofDecimal negative d).fraction) 0 =
      d.digits ∧ (ofDecimal negative d).lastPlace = d.exponent := by
  have hcount : 0 < (Nat.toDigits 10 d.digits).length := Nat.length_toDigits_pos
  unfold ofDecimal
  dsimp only
  -- The four ways to print: digits and zeros, a point within, a point in front, and with a power.
  split_ifs with hpositional hwhole hpoint
  · omega
  · refine ⟨?_, ?_⟩
    · rw [List.take_append_drop, Nat.ofDigitChars_ten_toDigits]
    · rw [lastPlace, List.length_drop]
      dsimp only
      omega
  · refine ⟨?_, ?_⟩
    · rw [← List.append_assoc, Nat.ofDigitChars_append, List.singleton_append,
        ← List.replicate_succ, Nat.ofDigitChars_replicate_zero, Nat.mul_zero,
        Nat.ofDigitChars_ten_toDigits]
    · rw [lastPlace, List.length_append, List.length_replicate]
      dsimp only
      omega
  · refine ⟨?_, ?_⟩
    · rw [List.take_append_drop, Nat.ofDigitChars_ten_toDigits]
    · unfold lastPlace
      dsimp only
      rw [List.length_drop]
      by_cases hdown : d.exponent + (Nat.toDigits 10 d.digits).length - 1 < 0
      · simp only [hdown, decide_true, decimalValue_toDigits]
        omega
      · simp only [hdown, decide_false, decimalValue_toDigits]
        omega

/-- The numeral of a decimal without a fraction has one zero more than the decimal. -/
theorem ofDecimal_of_short_whole (negative : Bool) (hd : 0 < d.digits ∨ d = ⟨0, 0⟩)
    (h : d.IsShort) (hwhole : 0 ≤ d.exponent) :
    ofDecimal negative d =
      ⟨negative, Nat.toDigits 10 d.digits ++ List.replicate d.exponent.toNat '0', ['0'], none⟩ := by
  have hpositional : realLayout.positional
      (d.exponent + (Nat.toDigits 10 d.digits).length - 1) = true := by
    rw [realLayout_positional]
    rcases hd with hd | rfl
    · have hlength := (h.length_toDigits hd).2 hwhole
      omega
    · decide
  unfold ofDecimal
  dsimp only
  rw [if_pos hpositional, if_pos hwhole]

/-- The exponent that is written for a short decimal is small. -/
theorem exponent_ofDecimal_of_short (negative : Bool) (hd : 0 < d.digits) (h : d.IsShort)
    (hneg : d.exponent < 0) :
    ∀ down digits, (ofDecimal negative d).exponent = some (down, digits) →
      decimalValue digits ≤ exponentBound := by
  have hplaces := h.places
  have hlength := (h.length_toDigits hd).1
  intro down digits
  unfold ofDecimal exponentBound
  dsimp only
  split_ifs
  · intro hnone
    cases hnone
  · intro hnone
    cases hnone
  · intro hnone
    cases hnone
  · intro hsome
    cases hsome
    rw [decimalValue_toDigits]
    omega

/-- **A short decimal is rounded once.** -/
theorem real?_ofDecimal_of_short (negative : Bool) (hd : 0 < d.digits ∨ d = ⟨0, 0⟩)
    (h : d.IsShort) :
    (ofDecimal negative d).real? =
      some (ofRatio negative (d.digits * 10 ^ d.exponent.toNat) (10 ^ (-d.exponent).toNat)) := by
  have hdigits := h.digits
  have hplaces := h.places
  rcases Int.lt_or_le d.exponent 0 with hneg | hwhole
  · have hpos : 0 < d.digits := by
      rcases hd with hd | rfl
      · exact hd
      · exact absurd hneg (Int.lt_irrefl 0)
    obtain ⟨hvalue, hplace⟩ := digits_ofDecimal_of_neg negative hneg
    have hexponent : d.exponent.toNat = 0 ∧ (d.exponent + 1).toNat = 0 := by omega
    rw [hexponent.2, Nat.pow_zero, Nat.mul_one] at hdigits
    rw [real?_of_short hvalue hdigits (k := (-d.exponent).toNat) (by omega) (by omega) (by omega)
      (exponent_ofDecimal_of_short negative hpos h hneg), negative_ofDecimal, hexponent.1,
      Nat.pow_zero, Nat.mul_one]
  · -- The zero behind the point scales the ratio by ten.
    have hexponent : (d.exponent + 1).toNat = d.exponent.toNat + 1 ∧ (-d.exponent).toNat = 0 := by
      omega
    rw [hexponent.1] at hdigits
    have hvalue : Nat.ofDigitChars 10
        ((Nat.toDigits 10 d.digits ++ List.replicate d.exponent.toNat '0') ++ ['0']) 0 =
        d.digits * 10 ^ (d.exponent.toNat + 1) := by
      rw [List.append_assoc, ← List.replicate_succ', Nat.ofDigitChars_append,
        Nat.ofDigitChars_replicate_zero, Nat.ofDigitChars_ten_toDigits, Nat.mul_comm]
    rw [ofDecimal_of_short_whole negative hd h hwhole,
      real?_of_short hvalue hdigits (k := 1) rfl (by omega) (by omega) (fun _ _ hnone => by cases hnone),
      Nat.pow_succ, ← Nat.mul_assoc, hexponent.2]
    exact congrArg some (ofRatio_mul_right negative (by omega) _ 1)

/-- **A real number with a short decimal is read back.** -/
theorem real?_shortest (negative : Bool) (rank : Fin rankCount)
    (h : (shortest .even rank).IsShort) :
    (ofDecimal negative (shortest .even rank)).real? = some (.finite negative rank) := by
  rw [real?_ofDecimal_of_short negative (shortest_digits .even rank) h]
  exact congrArg some (ofRatio_shortest .even negative rank (by have := h.places; omega))

end Json.Numeral

/-- What is read for the text of a real number is what the reader makes of its shortest decimal. -/
theorem Json.read?_realText (negative : Bool) (rank : Fin Binary64.rankCount) :
    Json.read? (String.ofList (Json.realText (.finite negative rank))) =
      (Json.Numeral.ofDecimal negative (Binary64.shortest .even rank)).real?.map .real := by
  have hread := Json.Document.read?_text (.real (.finite negative rank))
  rw [Json.text] at hread
  rw [Json.read?, hread, Option.bind_some, Json.written, Json.writtenReal, Json.Document.value?,
    Json.Numeral.value?_ofDecimal, Option.map_map]
  rfl

/-- **A real number with a short decimal is read back from its text.** -/
theorem Json.read?_realText_of_short (negative : Bool) (rank : Fin Binary64.rankCount)
    (h : (Binary64.shortest .even rank).IsShort) :
    Json.read? (String.ofList (Json.realText (.finite negative rank))) =
      some (.real (.finite negative rank)) := by
  rw [read?_realText, Numeral.real?_shortest negative rank h, Option.map_some]

end ZigbeeGateway
