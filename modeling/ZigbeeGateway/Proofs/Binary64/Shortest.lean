import Mathlib.Tactic.Ring
import ZigbeeGateway.Proofs.Binary64.Rounding

/-!
# Shortest decimals

The shortest decimal of a positive magnitude is positive (`shortest_digits_pos`), and it is rounded to
the magnitude it was made for (`ofRatio_shortest`).
-/

namespace ZigbeeGateway.Binary64

variable {tie : TieRule} {rank c : Nat} {exponent : Int}

/-- The neighbour on a grid is one that rounds to the rank. -/
theorem roundsTo_of_onGrid? (h : onGrid? tie rank exponent = some c) :
    roundsTo rank c exponent = true := by
  unfold onGrid? at h
  extract_lets num step below above at h
  clear_value above below step num
  split at h
  · rename_i hbelow habove
    -- Both neighbours round to the rank, so it does not matter which one is taken.
    have hc : c = below ∨ c = above := by
      cases tie <;> dsimp only at h <;> split_ifs at h <;> cases h <;> simp only [true_or, or_true]
    rcases hc with rfl | rfl
    · exact hbelow
    · exact habove
  · rename_i hbelow _
    exact Option.some.inj h ▸ hbelow
  · rename_i _ habove
    exact Option.some.inj h ▸ habove
  · cases h

/-- Zero rounds to no positive magnitude. -/
theorem pos_of_roundsTo (hrank : rank ≠ 0) (h : roundsTo rank c exponent = true) : 0 < c := by
  have hlow : 0 < (units (rank - 1) + units rank) * 10 ^ (-exponent).toNat := by
    have hunits : units (rank - 1) < units rank := units_strictMono (by omega)
    exact Nat.mul_pos (by omega) (Nat.pow_pos (by omega))
  by_contra hzero
  obtain rfl : c = 0 := by omega
  unfold roundsTo at h
  simp only [Nat.zero_mul] at h
  split_ifs at h <;> simp only [Bool.and_eq_true, decide_eq_true_eq] at h <;> omega

/-- A zero at the end of the digits may be dropped. -/
theorem roundsTo_mul_ten (rank c : Nat) (exponent : Int) :
    roundsTo rank (c * 10) exponent = roundsTo rank c (exponent + 1) := by
  rcases Int.lt_or_le exponent 0 with hneg | hpos
  · -- In front of the point the digit is dropped from both sides of each comparison.
    obtain ⟨k, hk⟩ : ∃ k, (-exponent).toNat = k + 1 := ⟨(-exponent).toNat - 1, by omega⟩
    have hk' : (-(exponent + 1)).toNat = k := by omega
    have hzero : exponent.toNat = 0 ∧ (exponent + 1).toNat = 0 := by omega
    have hscale : ∀ u, u * 10 ^ (k + 1) = 10 * (u * 10 ^ k) := by
      intro u
      rw [Nat.pow_succ]
      ring
    have hx : ∀ u, c * 10 * 1 * u = 10 * (c * 1 * u) := by
      intro u
      ring
    unfold roundsTo
    dsimp only
    rw [hk, hk', hzero.1, hzero.2, Nat.pow_zero, hscale, hscale, hx]
    simp only [Nat.mul_le_mul_left_iff, Nat.mul_lt_mul_left, Nat.zero_lt_succ]
  · have hzero : (-exponent).toNat = 0 ∧ (-(exponent + 1)).toNat = 0 := by omega
    have hsucc : (exponent + 1).toNat = exponent.toNat + 1 := by omega
    unfold roundsTo
    dsimp only
    rw [hzero.1, hzero.2, hsucc, Nat.pow_succ, Nat.mul_assoc c 10, Nat.mul_comm 10]

/-- Dropping zeros keeps the rank, and digits that are not zero. -/
theorem roundsTo_dropZeros (rank fuel : Nat) (d : Decimal) :
    roundsTo rank (dropZeros fuel d).digits (dropZeros fuel d).exponent =
      roundsTo rank d.digits d.exponent := by
  induction fuel generalizing d with
  | zero => rfl
  | succ fuel ih =>
    unfold dropZeros
    split_ifs with h
    · rw [ih, ← roundsTo_mul_ten, Nat.div_mul_cancel (Nat.dvd_of_mod_eq_zero h.2)]
    · rfl

/-- **A shortest decimal rounds to the rank** it was made for, unless it is the exact number of units
that stands in when no decimal of seventeen digits is found. -/
theorem roundsTo_shortest (hrank : rank ≠ 0) :
    roundsTo rank (shortest tie rank).digits (shortest tie rank).exponent = true ∨
      shortest tie rank = ⟨units rank, -1074⟩ := by
  unfold shortest
  rw [if_neg hrank]
  dsimp only
  cases hfound : (List.range 17).findSome? fun (more : Nat) =>
      (onGrid? tie rank (leadingExponent (units rank) - more)).map fun c =>
        dropZeros 17 ⟨c, leadingExponent (units rank) - more⟩ with
  | none => exact .inr rfl
  | some d =>
    obtain ⟨more, -, hmore⟩ := List.exists_of_findSome?_eq_some hfound
    obtain ⟨c, hgrid, rfl⟩ := Option.map_eq_some_iff.mp hmore
    left
    rw [Option.getD_some, roundsTo_dropZeros]
    exact roundsTo_of_onGrid? hgrid

theorem shortest_zero (tie : TieRule) : shortest tie 0 = ⟨0, 0⟩ :=
  rfl

/-- The digits of a positive magnitude are positive. -/
theorem shortest_digits_pos (hrank : rank ≠ 0) : 0 < (shortest tie rank).digits := by
  rcases roundsTo_shortest hrank with hrounds | hexact
  · exact pos_of_roundsTo hrank hrounds
  · rw [hexact]
    exact Nat.lt_of_le_of_lt (Nat.zero_le _) (units_strictMono (Nat.pos_of_ne_zero hrank))

theorem shortest_digits (tie : TieRule) (rank : Nat) :
    0 < (shortest tie rank).digits ∨ shortest tie rank = ⟨0, 0⟩ := by
  rcases Nat.eq_zero_or_pos rank with rfl | hpos
  · exact .inr (shortest_zero tie)
  · exact .inl (shortest_digits_pos hpos.ne')

/-- **A shortest decimal with few places, rounded once, is the number it was made for.** -/
theorem ofRatio_shortest (tie : TieRule) (negative : Bool) (rank : Fin rankCount)
    (hplaces : -1074 < (shortest tie rank).exponent) :
    ofRatio negative ((shortest tie rank).digits * 10 ^ (shortest tie rank).exponent.toNat)
      (10 ^ (-(shortest tie rank).exponent).toNat) = .finite negative rank := by
  refine ofRatio_of_nearestRank ?_
  by_cases hrank : rank.val = 0
  · rw [hrank, shortest_zero]
    dsimp only
    rw [Nat.zero_mul]
    exact nearestRank_zero (Nat.pow_pos (by omega))
  · refine nearestRank_of_roundsTo ((roundsTo_shortest hrank).resolve_right fun hexact => ?_)
    rw [hexact] at hplaces
    exact Int.lt_irrefl _ hplaces

end ZigbeeGateway.Binary64
