import Mathlib.Order.Monotone.Basic
import Mathlib.Tactic.SplitIfs
import ZigbeeGateway.Binary64.Shortest

/-!
# Rounding to the nearest rank

Magnitudes increase with their ranks (`units_strictMono`), and `rankBelow` finds the last one that is
not above a given number of units.  So a ratio between the middles to the neighbours of a magnitude is
rounded to this magnitude (`nearestRank_of_between`), in particular one that `roundsTo` accepts
(`nearestRank_of_roundsTo`).  A number of at most 53 binary digits, shifted within the range of the
format, is a magnitude itself (`exists_units_eq`).
-/

namespace ZigbeeGateway.Binary64

/-! ### Magnitudes -/

/-- A significand of 53 binary digits below which `s` more follow; without further digits it may be
shorter.  The upper bound is where the next run of ranks begins. -/
theorem units_shift {s m : Nat} (hm : m ≤ 2 ^ 53) (hs : s = 0 ∨ 2 ^ 52 ≤ m) :
    units (s * 2 ^ 52 + m) = m * 2 ^ s := by
  unfold units
  by_cases hsmall : s * 2 ^ 52 + m < 2 ^ 52
  · obtain rfl : s = 0 := by omega
    rw [if_pos hsmall]
    omega
  · rw [if_neg hsmall]
    rcases Nat.lt_or_ge m (2 ^ 53) with hlt | hge
    · have hquotient : (s * 2 ^ 52 + m) / 2 ^ 52 = s + 1 := by omega
      have hremainder : 2 ^ 52 + (s * 2 ^ 52 + m) % 2 ^ 52 = m := by omega
      rw [hquotient, hremainder, Nat.add_sub_cancel]
    · obtain rfl : m = 2 ^ 53 := by omega
      have hquotient : (s * 2 ^ 52 + 2 ^ 53) / 2 ^ 52 = s + 2 := by omega
      have hremainder : (s * 2 ^ 52 + 2 ^ 53) % 2 ^ 52 = 0 := by omega
      have hpow : 2 ^ (s + 2 - 1) = 2 * 2 ^ s := Nat.pow_succ'
      rw [hquotient, hremainder, hpow]
      omega

/-- Every rank has such a significand. -/
theorem exists_shift (rank : Nat) :
    ∃ s m, rank = s * 2 ^ 52 + m ∧ m < 2 ^ 53 ∧ (s = 0 ∨ 2 ^ 52 ≤ m) := by
  by_cases h : rank < 2 ^ 52
  · exact ⟨0, rank, by omega, by omega, .inl rfl⟩
  · exact ⟨rank / 2 ^ 52 - 1, 2 ^ 52 + rank % 2 ^ 52, by omega, by omega, .inr (by omega)⟩

/-- **Magnitudes increase with their ranks.** -/
theorem units_strictMono : StrictMono units := by
  refine strictMono_nat_of_lt_succ fun rank => ?_
  obtain ⟨s, m, rfl, hm, hs⟩ := exists_shift rank
  rw [units_shift (Nat.le_of_lt hm) hs, Nat.add_assoc, units_shift (by omega) (by omega)]
  exact Nat.mul_lt_mul_of_pos_right (Nat.lt_succ_self m) (Nat.two_pow_pos s)

/-- What `rankBelow` makes of a number: its greatest 53 binary digits, if it has more. -/
theorem exists_rankBelow_eq (u : Nat) :
    rankBelow u = (Nat.log2 u - 52) * 2 ^ 52 + u / 2 ^ (Nat.log2 u - 52) ∧
      u / 2 ^ (Nat.log2 u - 52) < 2 ^ 53 ∧
      (Nat.log2 u - 52 = 0 ∨ 2 ^ 52 ≤ u / 2 ^ (Nat.log2 u - 52)) := by
  refine ⟨rfl, ?_, ?_⟩
  · have hself : u < 2 ^ (Nat.log2 u + 1) := Nat.lt_log2_self
    rw [Nat.div_lt_iff_lt_mul (Nat.two_pow_pos _), ← Nat.pow_add]
    exact Nat.lt_of_lt_of_le hself (Nat.pow_le_pow_right (by omega) (by omega))
  · rcases Nat.eq_zero_or_pos (Nat.log2 u - 52) with hzero | hpos
    · exact .inl hzero
    · right
      have hne : u ≠ 0 := by
        rintro rfl
        rw [Nat.log2_zero] at hpos
        omega
      rw [Nat.le_div_iff_mul_le (Nat.two_pow_pos _), ← Nat.pow_add]
      calc 2 ^ (52 + (Nat.log2 u - 52)) = 2 ^ Nat.log2 u := by congr 1; omega
        _ ≤ u := Nat.log2_self_le hne

/-- `rankBelow` finds the last magnitude that is not above a number of units. -/
theorem units_rankBelow (u : Nat) :
    units (rankBelow u) ≤ u ∧ u < units (rankBelow u + 1) := by
  obtain ⟨hrank, hlt, hs⟩ := exists_rankBelow_eq u
  rw [hrank, Nat.add_assoc, units_shift (Nat.le_of_lt hlt) hs, units_shift (by omega) (by omega)]
  exact ⟨Nat.div_mul_le_self u _,
    (Nat.div_lt_iff_lt_mul (Nat.two_pow_pos _)).mp (Nat.lt_succ_self _)⟩

/-! ### The nearest rank -/

variable {num den rank : Nat}

/-- The neighbours of the rank that is found first enclose the ratio. -/
theorem units_rankBelow_ratio (num : Nat) (hden : 0 < den) :
    units (rankBelow (num * one / den)) * den ≤ num * one ∧
      num * one < units (rankBelow (num * one / den) + 1) * den := by
  obtain ⟨hbelow, habove⟩ := units_rankBelow (num * one / den)
  exact ⟨(Nat.le_div_iff_mul_le hden).mp hbelow, (Nat.div_lt_iff_lt_mul hden).mp habove⟩

/-- **A ratio between the middles to the neighbours is rounded to the rank between them**, and a
middle goes to the even rank. -/
theorem nearestRank_of_between (hden : 0 < den)
    (hlow : (units (rank - 1) + units rank) * den ≤ 2 * num * one)
    (hhigh : 2 * num * one ≤ (units rank + units (rank + 1)) * den)
    (htie : rank % 2 = 1 → (units (rank - 1) + units rank) * den ≠ 2 * num * one ∧
      2 * num * one ≠ (units rank + units (rank + 1)) * den) :
    nearestRank num den = rank := by
  obtain ⟨hbelow, habove⟩ := units_rankBelow_ratio num hden
  unfold nearestRank
  dsimp only
  generalize rankBelow (num * one / den) = r at hbelow habove ⊢
  generalize hn : num * one = n at hbelow habove
  have htwice : 2 * num * one = 2 * n := by rw [Nat.mul_assoc, hn]
  simp only [htwice, Nat.add_mul] at hlow hhigh htie ⊢
  -- Beyond the neighbours of `rank` the ratio would be outside the middles.
  have hstep : units rank * den < units (rank + 1) * den :=
    Nat.mul_lt_mul_of_pos_right (units_strictMono (Nat.lt_succ_self rank)) hden
  have hle : r ≤ rank := by
    by_contra hlt
    have hmono : units (rank + 1) * den ≤ units r * den :=
      Nat.mul_le_mul_right den (units_strictMono.monotone (by omega))
    omega
  have hge : rank ≤ r + 1 := by
    by_contra hlt
    have hmono : units (r + 1) * den ≤ units (rank - 1) * den :=
      Nat.mul_le_mul_right den (units_strictMono.monotone (by omega))
    have hstep' : units (rank - 1) * den < units rank * den :=
      Nat.mul_lt_mul_of_pos_right (units_strictMono (by omega)) hden
    omega
  rcases Nat.lt_or_ge r rank with hlt | hge'
  · obtain rfl : rank = r + 1 := by omega
    rw [Nat.add_sub_cancel] at hlow htie
    rw [if_pos (by omega)]
  · obtain rfl : rank = r := by omega
    rw [if_neg (by omega)]

/-- A ratio that is a magnitude is rounded to its rank. -/
theorem nearestRank_of_eq (hden : 0 < den) (h : num * one = units rank * den) :
    nearestRank num den = rank := by
  have htwice : 2 * num * one = 2 * (units rank * den) := by rw [Nat.mul_assoc, h]
  have hbelow : units (rank - 1) * den ≤ units rank * den :=
    Nat.mul_le_mul_right den (units_strictMono.monotone (Nat.sub_le rank 1))
  have habove : units rank * den < units (rank + 1) * den :=
    Nat.mul_lt_mul_of_pos_right (units_strictMono (Nat.lt_succ_self rank)) hden
  refine nearestRank_of_between hden ?_ ?_ fun hodd => ?_
  · rw [htwice, Nat.add_mul]
    omega
  · rw [htwice, Nat.add_mul]
    omega
  · have hbelow' : units (rank - 1) * den < units rank * den :=
      Nat.mul_lt_mul_of_pos_right (units_strictMono (by omega)) hden
    rw [htwice, Nat.add_mul, Nat.add_mul]
    omega

theorem units_zero : units 0 = 0 :=
  rfl

theorem nearestRank_zero (hden : 0 < den) : nearestRank 0 den = 0 :=
  nearestRank_of_eq hden (by rw [units_zero, Nat.zero_mul, Nat.zero_mul])

/-- A decimal that `roundsTo` accepts is rounded to the rank. -/
theorem nearestRank_of_roundsTo {c : Nat} {exponent : Int}
    (h : roundsTo rank c exponent = true) :
    nearestRank (c * 10 ^ exponent.toNat) (10 ^ (-exponent).toNat) = rank := by
  have htwice : 2 * (c * 10 ^ exponent.toNat) * one = c * 10 ^ exponent.toNat * (2 * one) := by
    rw [Nat.mul_comm 2, Nat.mul_assoc]
  unfold roundsTo at h
  dsimp only at h
  refine nearestRank_of_between (Nat.pow_pos (by omega)) ?_ ?_ fun hodd => ?_
  · rw [htwice]
    split_ifs at h <;> simp only [Bool.and_eq_true, decide_eq_true_eq] at h <;> omega
  · rw [htwice]
    split_ifs at h <;> simp only [Bool.and_eq_true, decide_eq_true_eq] at h <;> omega
  · rw [if_neg (by omega)] at h
    simp only [Bool.and_eq_true, decide_eq_true_eq] at h
    rw [htwice]
    omega

/-- Only the ratio counts. -/
theorem nearestRank_mul_right {k : Nat} (hk : 0 < k) (num den : Nat) :
    nearestRank (num * k) (den * k) = nearestRank num den := by
  have hquotient : num * k * one / (den * k) = num * one / den := by
    rw [Nat.mul_right_comm, Nat.mul_div_mul_right _ _ hk]
  unfold nearestRank
  dsimp only
  rw [hquotient]
  generalize units (rankBelow (num * one / den)) + units (rankBelow (num * one / den) + 1) = middle
  have htwice : 2 * (num * k) * one = 2 * num * one * k := by
    rw [← Nat.mul_assoc, Nat.mul_right_comm]
  have hiff : middle * (den * k) = middle * den * k := (Nat.mul_assoc _ _ _).symm
  simp only [htwice, hiff, gt_iff_lt, Nat.mul_lt_mul_right hk, Nat.mul_left_inj hk.ne']

theorem ofRatio_of_nearestRank {negative : Bool} {rank : Fin rankCount}
    (h : nearestRank num den = rank) : ofRatio negative num den = .finite negative rank := by
  unfold ofRatio
  dsimp only
  generalize nearestRank num den = nearest at h ⊢
  subst h
  exact dif_pos rank.isLt

theorem ofRatio_mul_right (negative : Bool) {k : Nat} (hk : 0 < k) (num den : Nat) :
    ofRatio negative (num * k) (den * k) = ofRatio negative num den := by
  unfold ofRatio
  simp only [nearestRank_mul_right hk]

theorem neg_ofRatio (negative : Bool) (num den : Nat) :
    (ofRatio negative num den).neg = ofRatio (!negative) num den := by
  unfold ofRatio
  dsimp only
  split_ifs <;> rfl

/-! ### Magnitudes that are exact -/

/-- **A number of at most 53 binary digits is a magnitude**, also when zeros follow them. -/
theorem exists_units_eq {m k : Nat} (hm : m < 2 ^ 53) (hk : k ≤ 2000) :
    ∃ rank < rankCount, units rank = m * 2 ^ k := by
  obtain ⟨hrank, hlt, hs⟩ := exists_rankBelow_eq (m * 2 ^ k)
  -- The digits that are cut off are among the zeros.
  have hshift : Nat.log2 (m * 2 ^ k) - 52 ≤ k := by
    rcases Nat.eq_zero_or_pos m with rfl | hpos
    · rw [Nat.zero_mul, Nat.log2_zero]
      omega
    · have hlog : Nat.log2 (m * 2 ^ k) < 53 + k := by
        rw [Nat.log2_lt (Nat.mul_pos hpos (Nat.two_pow_pos k)).ne', Nat.pow_add]
        exact Nat.mul_lt_mul_of_pos_right hm (Nat.two_pow_pos k)
      omega
  have hexact : m * 2 ^ k / 2 ^ (Nat.log2 (m * 2 ^ k) - 52) * 2 ^ (Nat.log2 (m * 2 ^ k) - 52) =
      m * 2 ^ k :=
    Nat.div_mul_cancel (Nat.dvd_mul_left_of_dvd (Nat.pow_dvd_pow 2 hshift) m)
  refine ⟨rankBelow (m * 2 ^ k), ?_, ?_⟩
  · unfold rankCount
    omega
  · rw [hrank, units_shift (Nat.le_of_lt hlt) hs, hexact]

/-- A whole number with at most 53 binary digits in front of its zeros is exact. -/
theorem exists_ofRatio_eq (negative : Bool) {m k : Nat} (hm : m < 2 ^ 53) (hk : k ≤ 900) :
    ∃ rank : Fin rankCount, ofRatio negative (m * 2 ^ k) 1 = .finite negative rank ∧
      units rank = m * 2 ^ k * one := by
  have hone : m * 2 ^ (k + 1074) = m * 2 ^ k * one := by
    rw [one, Nat.mul_assoc, ← Nat.pow_add]
  obtain ⟨rank, hrank, hunits⟩ := exists_units_eq hm (k := k + 1074) (by omega)
  rw [hone] at hunits
  refine ⟨⟨rank, hrank⟩, ofRatio_of_nearestRank (nearestRank_of_eq Nat.one_pos ?_), hunits⟩
  rw [Nat.mul_one]
  exact hunits.symm

/-- **The quotient of two exact numbers is rounded once.** -/
theorem div_of_exact {s t : Bool} {x y : Fin rankCount} {a b : Nat} (hx : units x = a * one)
    (hy : units y = b * one) (hb : 0 < b) :
    (finite s x).div (finite t y) = ofRatio (s != t) a b := by
  have hone : 0 < one := by
    rw [one, Nat.pow_pos_iff]
    omega
  have hy0 : y.val ≠ 0 := by
    intro hzero
    rw [hzero, units_zero] at hy
    exact absurd hy (Nat.mul_pos hb hone).ne
  show (if y.val = 0 then _ else ofRatio (s != t) (units x) (units y)) = _
  rw [if_neg hy0, hx, hy, ofRatio_mul_right _ hone]

end ZigbeeGateway.Binary64
