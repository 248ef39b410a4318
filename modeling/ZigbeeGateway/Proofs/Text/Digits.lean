import Mathlib.Data.List.TakeWhile
import Mathlib.Data.Nat.Digits.Lemmas
import ZigbeeGateway.Powers
import ZigbeeGateway.Text.Digits

/-!
# Digits of numbers

The digits of a number in a base, up to some place, make the number again, as far as it fits
(`ofDigits_map_range`).  Padding adds zeros in front, so decimal digits still have the value of the
number (`decimalValue_padded`); a number that fits the width has exactly that many digits
(`length_padded`).
-/

namespace ZigbeeGateway

/-- The digits of a number in a base, the least one first. -/
theorem ofDigits_map_range (base x count : Nat) :
    Nat.ofDigits base ((List.range count).map fun i => x / base ^ i % base) = x % base ^ count := by
  induction count with
  | zero => simp [Nat.mod_one]
  | succ count ih =>
    rw [List.range_succ, List.map_append, List.map_singleton, Nat.ofDigits_append,
      Nat.ofDigits_singleton, ih, List.length_map, List.length_range, Nat.mod_pow_succ]

namespace Text

theorem isDecimal_of_isDigit {c : Char} (h : c.isDigit = true) : isDecimal c = true := by
  simp only [Char.isDigit, Bool.and_eq_true, decide_eq_true_eq] at h
  simp only [isDecimal, Bool.and_eq_true, decide_eq_true_eq]
  exact h

theorem isDecimal_of_mem_padded {width n : Nat} {c : Char} (h : c ∈ padded 10 width n) :
    isDecimal c = true := by
  rcases List.mem_append.mp h with hzero | hdigit
  · rw [List.eq_of_mem_replicate hzero]
    rfl
  · exact isDecimal_of_isDigit (Nat.isDigit_of_mem_toDigits (by omega) le_rfl hdigit)

/-- **Padded digits have the value of their number.** -/
theorem decimalValue_padded (width n : Nat) : decimalValue (padded 10 width n) = n := by
  show Nat.ofDigitChars 10 (List.replicate _ '0' ++ Nat.toDigits 10 n) 0 = n
  rw [Nat.ofDigitChars_append, Nat.ofDigitChars_replicate_zero]
  simp [Nat.ofDigitChars_toDigits]

theorem length_padded {base width n : Nat} (hbase : 1 < base) (hwidth : 0 < width)
    (h : n < base ^ width) : (padded base width n).length = width := by
  have hdigits := (Nat.length_toDigits_le_iff hbase hwidth).mpr h
  rw [padded, List.length_leftpad]
  omega

theorem le_length_padded (width n : Nat) : width ≤ (padded 10 width n).length := by
  rw [padded, List.length_leftpad]
  omega

end Text

end ZigbeeGateway
