import ZigbeeGateway.Json.Document
import ZigbeeGateway.Json.Printer
import ZigbeeGateway.Proofs.Text.Digits

/-!
# Numerals read back

Integers and real numbers are printed as numerals: `Numeral.ofInteger` and `Numeral.ofDecimal` say
which.  The reader takes a numeral from the front of a text as it stands there, provided that what
follows does not go on with it (`readNumeral?_magnitudeText`).  An integer of 64 bits is the value of
its numeral (`value?_ofInteger`); a real number is what the reader makes of its shortest digits.
-/

namespace ZigbeeGateway

open Text

theorem Text.isDecimal_of_mem_toDigits {n : Nat} {c : Char} (h : c ∈ Nat.toDigits 10 n) :
    isDecimal c = true :=
  isDecimal_of_isDigit (Nat.isDigit_of_mem_toDigits (by omega) le_rfl h)

/-- No zero leads the digits of a positive number. -/
theorem Text.exists_head?_toDigits {n : Nat} (h : 0 < n) :
    ∃ c ∈ (Nat.toDigits 10 n).head?, c ≠ '0' := by
  induction n using Nat.strong_induction_on with
  | _ n ih =>
    rw [Nat.toDigits_eq_if (by omega)]
    split_ifs with hn
    · refine ⟨n.digitChar, rfl, ?_⟩
      rw [Ne, Nat.digitChar_eq_zero]
      omega
    · obtain ⟨c, hc, hne⟩ := ih (n / 10) (by omega) (by omega)
      exact ⟨c, by rw [List.head?_append, hc]; rfl, hne⟩

theorem Text.decimalValue_toDigits (n : Nat) : decimalValue (Nat.toDigits 10 n) = n :=
  Nat.ofDigitChars_ten_toDigits

namespace Json

/-- Whether a text does not go on with a numeral in front of it. -/
def EndsNumeral (rest : List Char) : Prop :=
  ∀ c ∈ rest.head?, isDecimal c = false ∧ c ≠ '.' ∧ c ≠ 'e' ∧ c ≠ 'E'

theorem endsNumeral_nil : EndsNumeral [] := by
  intro c hc
  cases hc

namespace Numeral

/-! ### The text of a numeral -/

/-- The point and the digits behind it. -/
def fractionText (n : Numeral) : List Char :=
  if n.fraction = [] then [] else '.' :: n.fraction

/-- The exponent with its sign. -/
def powerText (n : Numeral) : List Char :=
  match n.exponent with
  | none => []
  | some (down, digits) => 'e' :: (if down then '-' else '+') :: digits

/-- The numeral behind its sign. -/
def magnitudeText (n : Numeral) : List Char :=
  n.whole ++ (n.fractionText ++ n.powerText)

/-- The text of a numeral. -/
def text (n : Numeral) : List Char :=
  if n.negative then '-' :: n.magnitudeText else n.magnitudeText

/-- Whether a numeral is made of digits, and no zero leads other digits in front of the point. -/
structure IsProper (n : Numeral) : Prop where
  whole : n.whole = ['0'] ∨ ∃ c ∈ n.whole.head?, c ≠ '0'
  isDecimal_whole : ∀ c ∈ n.whole, isDecimal c = true
  isDecimal_fraction : ∀ c ∈ n.fraction, isDecimal c = true
  exponent : ∀ down digits, n.exponent = some (down, digits) →
    digits ≠ [] ∧ ∀ c ∈ digits, isDecimal c = true

/-! ### Taking a numeral -/

variable {n : Numeral} {digits rest : List Char}

theorem readDigitRun?_append (hne : digits ≠ []) (hdigits : ∀ c ∈ digits, isDecimal c = true)
    (hrest : ∀ c ∈ rest.head?, isDecimal c = false) :
    readDigitRun? (digits ++ rest) = some (digits, rest) := by
  have hstop : rest.takeWhile isDecimal = [] ∧ rest.dropWhile isDecimal = rest := by
    cases rest with
    | nil => exact ⟨rfl, rfl⟩
    | cons c rest => simp [hrest c rfl]
  unfold readDigitRun?
  dsimp only
  rw [List.takeWhile_append_of_pos hdigits, List.dropWhile_append_of_pos hdigits, hstop.1, hstop.2,
    List.append_nil, if_neg hne]

theorem readWhole?_append (h : n.IsProper) (hrest : ∀ c ∈ rest.head?, isDecimal c = false) :
    readWhole? (n.whole ++ rest) = some (n.whole, rest) := by
  rcases h.whole with hzero | ⟨c, hhead, hc⟩
  · rw [hzero]
    rfl
  · obtain ⟨digits, hwhole⟩ := List.head?_eq_some_iff.mp hhead
    have hdecimal := h.isDecimal_whole
    rw [hwhole] at hdecimal ⊢
    rw [List.cons_append]
    unfold readWhole?
    split
    · rename_i heq
      exact absurd (List.cons.inj heq).1 hc
    · exact readDigitRun?_append (List.cons_ne_nil c digits) hdecimal hrest

theorem readFraction?_append (h : n.IsProper)
    (hrest : ∀ c ∈ rest.head?, isDecimal c = false ∧ c ≠ '.') :
    readFraction? (n.fractionText ++ rest) = some (n.fraction, rest) := by
  unfold fractionText
  split_ifs with hnone
  · rw [hnone, List.nil_append]
    unfold readFraction?
    split
    · exact absurd rfl (hrest '.' rfl).2
    · rfl
  · exact readDigitRun?_append hnone h.isDecimal_fraction fun c hc => (hrest c hc).1

theorem readPower?_append (h : n.IsProper) (hrest : EndsNumeral rest) :
    readPower? (n.powerText ++ rest) = some (n.exponent, rest) := by
  unfold powerText
  split
  · rename_i hnone
    rw [hnone, List.nil_append]
    cases rest with
    | nil => rfl
    | cons c rest =>
      obtain ⟨-, -, he, he'⟩ := hrest c rfl
      simp [readPower?, he, he']
  · rename_i down digits hsome
    obtain ⟨hne, hdecimal⟩ := h.exponent down digits hsome
    have hrun := readDigitRun?_append hne hdecimal fun c hc => (hrest c hc).1
    cases down <;> simp [readPower?, hrun, hsome]

/-- What follows the digits in front of the point is no digit. -/
theorem isDecimal_head?_powerText (hrest : EndsNumeral rest) :
    ∀ c ∈ (n.powerText ++ rest).head?, isDecimal c = false ∧ c ≠ '.' := by
  unfold powerText
  split
  · exact fun c hc => ⟨(hrest c hc).1, (hrest c hc).2.1⟩
  · intro c hc
    obtain rfl := Option.some.inj hc
    exact ⟨rfl, by decide⟩

theorem isDecimal_head?_fractionText (hrest : EndsNumeral rest) :
    ∀ c ∈ (n.fractionText ++ (n.powerText ++ rest)).head?, isDecimal c = false := by
  unfold fractionText
  split_ifs
  · exact fun c hc => (isDecimal_head?_powerText hrest c hc).1
  · intro c hc
    obtain rfl := Option.some.inj hc
    rfl

/-- **A numeral is taken as it stands.** -/
theorem readNumeral?_magnitudeText (h : n.IsProper) (hrest : EndsNumeral rest) :
    readNumeral? n.negative (n.magnitudeText ++ rest) = some (n, rest) := by
  unfold readNumeral? magnitudeText
  rw [List.append_assoc, List.append_assoc,
    readWhole?_append h (isDecimal_head?_fractionText hrest)]
  dsimp only [Option.bind_eq_bind, Option.bind_some]
  rw [readFraction?_append h (isDecimal_head?_powerText hrest)]
  dsimp only [Option.bind_some]
  rw [readPower?_append h hrest]
  rfl

/-- A token that begins with a digit is a numeral. -/
theorem readToken?_of_isDecimal {c : Char} (hc : isDecimal c = true) (s : List Char) :
    readToken? (c :: s) = (readNumeral? false (c :: s)).map fun (n, rest) => (.number n, rest) := by
  have hne : ∀ d, isDecimal d = false → c ≠ d := by
    rintro d hd rfl
    rw [hc] at hd
    cases hd
  unfold readToken?
  split <;> first
    | rfl
    | exact absurd (List.cons.inj ‹_›).1 (hne _ rfl)

theorem IsProper.exists_magnitudeText_eq_cons (h : n.IsProper) :
    ∃ c s, n.magnitudeText = c :: s ∧ isDecimal c = true := by
  obtain ⟨c, digits, hwhole⟩ : ∃ c digits, n.whole = c :: digits := by
    rcases h.whole with hzero | ⟨c, hhead, -⟩
    · exact ⟨'0', [], hzero⟩
    · exact ⟨c, List.head?_eq_some_iff.mp hhead⟩
  refine ⟨c, digits ++ (n.fractionText ++ n.powerText), ?_, ?_⟩
  · rw [magnitudeText, hwhole, List.cons_append]
  · exact h.isDecimal_whole c (by rw [hwhole]; exact List.mem_cons_self)

theorem readToken?_text (h : n.IsProper) (hrest : EndsNumeral rest) :
    readToken? (n.text ++ rest) = some (.number n, rest) := by
  have hnumeral := readNumeral?_magnitudeText h hrest
  unfold text
  split_ifs with hnegative
  · rw [hnegative] at hnumeral
    rw [List.cons_append]
    show (readNumeral? true (n.magnitudeText ++ rest)).map _ = _
    rw [hnumeral]
    rfl
  · rw [eq_false_of_ne_true hnegative] at hnumeral
    obtain ⟨c, s, htext, hc⟩ := h.exists_magnitudeText_eq_cons
    rw [htext, List.cons_append] at hnumeral ⊢
    rw [readToken?_of_isDecimal hc, hnumeral]
    rfl

/-! ### Integers -/

/-- The numeral that an integer is printed as. -/
def ofInteger (i : Int) : Numeral where
  negative := i < 0
  whole := Nat.toDigits 10 i.natAbs
  fraction := []
  exponent := none

theorem text_ofInteger (i : Int) : (ofInteger i).text = integerText i := by
  unfold text magnitudeText fractionText powerText integerText ofInteger
  simp

theorem isProper_ofInteger (i : Int) : (ofInteger i).IsProper where
  whole := by
    rcases Nat.eq_zero_or_pos i.natAbs with hzero | hpos
    · exact .inl (by rw [ofInteger, hzero]; rfl)
    · exact .inr (exists_head?_toDigits hpos)
  isDecimal_whole c hc := isDecimal_of_mem_toDigits hc
  isDecimal_fraction c hc := absurd hc List.not_mem_nil
  exponent down digits h := by cases h

/-- **The numeral of a 64-bit integer has the value of the integer.** -/
theorem value?_ofInteger {i : Int} (hlow : -2 ^ 63 ≤ i) (hhigh : i < 2 ^ 64) :
    (ofInteger i).value? = some (.integer i) := by
  unfold value? ofInteger
  dsimp only
  rw [decimalValue_toDigits, if_pos ⟨rfl, rfl⟩]
  -- Zero has no sign, so no integer is printed as the real number minus zero.
  by_cases hnegative : i < 0
  · have hvalue : -(i.natAbs : Int) = i := by omega
    have hbound : i.natAbs ≤ 2 ^ 63 := by omega
    rw [if_neg (by simp [hnegative])]
    simp only [hnegative, hbound, hvalue]
    have hne : i ≠ 0 := by omega
    simp [hne]
  · have hvalue : (i.natAbs : Int) = i := by omega
    have hbound : i.natAbs ≤ significandBound := by
      unfold significandBound
      omega
    simp [hnegative, hvalue, hbound]

/-! ### Real numbers -/

/-- The numeral that a decimal is printed as. -/
def ofDecimal (negative : Bool) (d : Decimal) : Numeral :=
  let digits := Nat.toDigits 10 d.digits
  let count : Int := digits.length
  let power := d.exponent + count - 1
  if realLayout.positional power then
    if 0 ≤ d.exponent then
      ⟨negative, digits ++ List.replicate d.exponent.toNat '0', ['0'], none⟩
    else if 0 < count + d.exponent then
      let whole := (count + d.exponent).toNat
      ⟨negative, digits.take whole, digits.drop whole, none⟩
    else ⟨negative, ['0'], List.replicate (-(count + d.exponent)).toNat '0' ++ digits, none⟩
  else ⟨negative, digits.take 1, digits.drop 1, some (power < 0, Nat.toDigits 10 power.natAbs)⟩

variable {negative : Bool} {d : Decimal}

theorem magnitudeText_of_point {whole fraction : List Char} (h : fraction ≠ []) :
    magnitudeText ⟨negative, whole, fraction, none⟩ = whole ++ '.' :: fraction := by
  simp [magnitudeText, fractionText, powerText, h]

/-- A decimal without an exponent: zeros fill the places between its digits and the point. -/
theorem magnitudeText_of_positional (h : realLayout.positional (d.exponent +
      (Nat.toDigits 10 d.digits).length - 1) = true) :
    (ofDecimal negative d).magnitudeText =
      realLayout.positionalText (Nat.toDigits 10 d.digits) d.exponent := by
  unfold ofDecimal RealLayout.positionalText
  dsimp only
  rw [if_pos h]
  by_cases hwhole : 0 ≤ d.exponent
  · rw [if_pos hwhole, if_pos hwhole, magnitudeText_of_point (List.cons_ne_nil _ _)]
    rfl
  · rw [if_neg hwhole, if_neg hwhole]
    split_ifs with hpoint
    · refine magnitudeText_of_point ?_
      rw [Ne, List.drop_eq_nil_iff]
      omega
    · refine magnitudeText_of_point ?_
      simp [Nat.toDigits_ne_nil]

/-- A decimal with an exponent: one digit is in front of the point. -/
theorem magnitudeText_of_scientific (h : realLayout.positional (d.exponent +
      (Nat.toDigits 10 d.digits).length - 1) = false) :
    (ofDecimal negative d).magnitudeText =
      RealLayout.scientificText (Nat.toDigits 10 d.digits) d.exponent := by
  unfold ofDecimal RealLayout.scientificText
  dsimp only
  rw [if_neg (ne_true_of_eq_false h)]
  have hfraction : (Nat.toDigits 10 d.digits).drop 1 = [] ↔
      ¬1 < (Nat.toDigits 10 d.digits).length := by
    rw [List.drop_eq_nil_iff]
    omega
  simp only [magnitudeText, fractionText, powerText, hfraction, ite_not, decide_eq_true_eq]
  simp

theorem negative_ofDecimal : (ofDecimal negative d).negative = negative := by
  unfold ofDecimal
  dsimp only
  split_ifs <;> rfl

/-- A real number is printed as the numeral of its shortest decimal. -/
theorem realText_finite (negative : Bool) (rank : Fin Binary64.rankCount) :
    realText (.finite negative rank) = (ofDecimal negative (Binary64.shortest .even rank)).text := by
  have hmagnitude : ∀ d, (ofDecimal negative d).magnitudeText =
      if realLayout.positional (d.exponent + (Nat.toDigits 10 d.digits).length - 1) then
        realLayout.positionalText (Nat.toDigits 10 d.digits) d.exponent
      else RealLayout.scientificText (Nat.toDigits 10 d.digits) d.exponent := by
    intro d
    split_ifs with h
    · exact magnitudeText_of_positional h
    · exact magnitudeText_of_scientific (eq_false_of_ne_true h)
  rw [text, negative_ofDecimal, hmagnitude]
  show (if negative = true then ['-'] else []) ++ _ = _
  cases negative <;> rfl

/-- A decimal is printed with a point or with an exponent. -/
theorem value?_ofDecimal (negative : Bool) (d : Decimal) :
    (ofDecimal negative d).value? = (ofDecimal negative d).real?.map .real := by
  have hreal : ¬((ofDecimal negative d).fraction = [] ∧ (ofDecimal negative d).exponent = none) := by
    unfold ofDecimal
    dsimp only
    split_ifs with hpositional hwhole hpoint
    · simp
    · rw [List.drop_eq_nil_iff]
      dsimp only
      omega
    · simp [Nat.toDigits_ne_nil]
    · simp
  unfold value?
  dsimp only
  rw [if_neg hreal]

theorem isProper_of_point {whole fraction : List Char}
    (hlead : whole = ['0'] ∨ ∃ c ∈ whole.head?, c ≠ '0')
    (hwhole : ∀ c ∈ whole, isDecimal c = true) (hfraction : ∀ c ∈ fraction, isDecimal c = true) :
    IsProper ⟨negative, whole, fraction, none⟩ :=
  ⟨hlead, hwhole, hfraction, fun _ _ h => by cases h⟩

/-- The numeral of a decimal is proper, since no zero leads the digits of a decimal. -/
theorem isProper_ofDecimal (negative : Bool) (hd : 0 < d.digits ∨ d = ⟨0, 0⟩) :
    (ofDecimal negative d).IsProper := by
  have hzeros : ∀ k, ∀ c ∈ List.replicate k '0', isDecimal c = true := by
    intro k c hc
    rw [List.eq_of_mem_replicate hc]
    rfl
  -- Zero is the only decimal whose digits begin with a zero.
  rcases hd with hd | rfl
  · obtain ⟨first, hfirst, hlead⟩ := exists_head?_toDigits hd
    have hdecimal : ∀ c ∈ Nat.toDigits 10 d.digits, isDecimal c = true :=
      fun c hc => isDecimal_of_mem_toDigits hc
    unfold ofDecimal
    dsimp only
    split_ifs with hpositional hwhole hpoint
    · refine isProper_of_point (.inr ⟨first, ?_, hlead⟩) ?_ (hzeros 1)
      · rw [List.head?_append, hfirst]
        rfl
      · exact List.forall_mem_append.mpr ⟨hdecimal, hzeros _⟩
    · refine isProper_of_point (.inr ⟨first, ?_, hlead⟩) ?_ ?_
      · rwa [List.head?_take, if_neg (by omega)]
      · exact fun c hc => hdecimal c (List.mem_of_mem_take hc)
      · exact fun c hc => hdecimal c (List.mem_of_mem_drop hc)
    · exact isProper_of_point (.inl rfl) (hzeros 1)
        (List.forall_mem_append.mpr ⟨hzeros _, hdecimal⟩)
    · refine ⟨.inr ⟨first, ?_, hlead⟩, ?_, ?_, ?_⟩
      · rwa [List.head?_take, if_neg (by omega)]
      · exact fun c hc => hdecimal c (List.mem_of_mem_take hc)
      · exact fun c hc => hdecimal c (List.mem_of_mem_drop hc)
      · rintro _ _ h
        cases h
        exact ⟨Nat.toDigits_ne_nil, fun c hc => isDecimal_of_mem_toDigits hc⟩
  · exact isProper_of_point (.inl rfl) (hzeros 1) (hzeros 1)

end Numeral

end Json

end ZigbeeGateway
