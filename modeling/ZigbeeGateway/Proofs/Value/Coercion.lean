import Mathlib.Tactic.SplitIfs
import ZigbeeGateway.Value.Coercion

/-!
# Fitted values

What `DataType.coerce` gives is fitted already: fitting it a second time changes nothing
(`coerce_coerce`).  The integer types are the ones with an argument of their own: `coerce` succeeds
exactly on the values that denote an integer within the bounds, and gives that integer in the one
representation of the type (`coerce_eq_ok_iff`).  A 64-bit integer never rounds to an infinity
(`isFinite_ofInt`), so a real type accepts what it made of an integer.
-/

namespace ZigbeeGateway

/-! ### Integers as real numbers -/

namespace Binary64

/-- Scaling by a power of two moves the greatest binary digit by the exponent. -/
theorem log2_mul_two_pow_lt (n k : Nat) (hn : n < 2 ^ 65) : Nat.log2 (n * 2 ^ k) < 65 + k := by
  by_cases h0 : n * 2 ^ k = 0
  · rw [h0, Nat.log2_zero]
    omega
  · rw [Nat.log2_lt h0, Nat.pow_add]
    exact Nat.mul_lt_mul_of_pos_right hn (Nat.two_pow_pos k)

/-- The ranks below an integer of at most 65 bits stay far away from the greatest rank. -/
theorem rankBelow_mul_one_le (n : Nat) (hn : n < 2 ^ 65) : rankBelow (n * one) ≤ 1089 * 2 ^ 52 := by
  have hlog : Nat.log2 (n * one) < 65 + 1074 := by
    rw [one]
    exact log2_mul_two_pow_lt n 1074 hn
  -- The quotient keeps the 53 greatest binary digits, and the shift counts the others.
  have hself : n * one < 2 ^ (Nat.log2 (n * one) + 1) := Nat.lt_log2_self
  have hquotient : n * one / 2 ^ (Nat.log2 (n * one) - 52) < 2 ^ 53 := by
    rw [Nat.div_lt_iff_lt_mul (Nat.two_pow_pos _), ← Nat.pow_add]
    exact Nat.lt_of_lt_of_le hself (Nat.pow_le_pow_right (by omega) (by omega))
  have hshift : (Nat.log2 (n * one) - 52) * 2 ^ 52 ≤ 1087 * 2 ^ 52 :=
    Nat.mul_le_mul_right _ (by omega)
  calc rankBelow (n * one) ≤ 1087 * 2 ^ 52 + 2 ^ 53 :=
        Nat.add_le_add hshift (Nat.le_of_lt hquotient)
    _ = 1089 * 2 ^ 52 := rfl

theorem isFinite_ofInt (n : Int) (hn : n.natAbs < 2 ^ 65) : (ofInt n).isFinite = true := by
  have hbelow := rankBelow_mul_one_le _ hn
  have hnearest : nearestRank n.natAbs 1 < rankCount := by
    -- Rounding goes up by one rank at most.
    have hstep : nearestRank n.natAbs 1 ≤ rankBelow (n.natAbs * one) + 1 := by
      unfold nearestRank
      rw [Nat.div_one]
      dsimp only
      split <;> omega
    unfold rankCount
    omega
  unfold ofInt ofRatio
  rw [dif_pos hnearest]
  rfl

end Binary64

/-! ### Sameness -/

namespace Binary64

variable {x y z : Binary64}

theorem numEq_symm (h : x.numEq y = true) : y.numEq x = true := by
  cases x <;> cases y <;>
    simp only [numEq, Bool.and_eq_true, Bool.or_eq_true, decide_eq_true_eq, Bool.false_eq_true] at h ⊢
  · exact h.symm
  · obtain ⟨rfl, h⟩ := h
    exact ⟨rfl, h.imp_left Eq.symm⟩

theorem numEq_trans (h : x.numEq y = true) (h' : y.numEq z = true) : x.numEq z = true := by
  cases x <;> cases y <;> cases z <;>
    simp only [numEq, Bool.and_eq_true, Bool.or_eq_true, decide_eq_true_eq, Bool.false_eq_true]
      at h h' ⊢
  · exact h.trans h'
  · obtain ⟨rfl, h⟩ := h
    obtain ⟨rfl, h'⟩ := h'
    rcases h with rfl | h
    · exact ⟨rfl, h'⟩
    · exact ⟨rfl, .inr h⟩

end Binary64

namespace Value

variable {u v w : Value}

/-- Texts are the same only if they are equal. -/
theorem eq_of_sameAs_text {s : String} (h : (Value.text s).sameAs v = true) : Value.text s = v := by
  unfold sameAs at h
  simpa using h

theorem sameAs_symm (h : v.sameAs w = true) : w.sameAs v = true := by
  cases v <;> cases w <;> simp [sameAs] at h ⊢ <;>
    first | exact h.symm | exact Binary64.numEq_symm h

theorem sameAs_trans (h : u.sameAs v = true) (h' : v.sameAs w = true) : u.sameAs w = true := by
  cases u <;> cases v <;> cases w <;> simp [sameAs] at h h' ⊢ <;>
    first | exact h.trans h' | exact Binary64.numEq_trans h h'

/-- Values that are the same are the same as the same values. -/
theorem sameAs_congr (h : v.sameAs w = true) (u : Value) : u.sameAs v = u.sameAs w := by
  rw [Bool.eq_iff_iff]
  exact ⟨fun hv => sameAs_trans hv h, fun hw => sameAs_trans hw (sameAs_symm h)⟩

end Value

/-! ### Integer types -/

namespace DataType

/-- An integer in the representation of a type. -/
def integer (t : DataType) (n : Int) : Value :=
  if t.isSigned then .int (Int64.ofInt n) else .uint (UInt64.ofNat n.toNat)

/-- The bounds of signed types are 64-bit signed, those of the others 64-bit unsigned. -/
theorem bounds?_range {t : DataType} {low high : Int} (h : t.bounds? = some (low, high)) :
    if t.isSigned then -2 ^ 63 ≤ low ∧ high < 2 ^ 63 else 0 ≤ low ∧ high < 2 ^ 64 := by
  cases t <;> simp [bounds?] at h <;> obtain ⟨rfl, rfl⟩ := h <;> decide

/-- Within the bounds the representation denotes the integer. -/
theorem toInt?_integer {t : DataType} {low high n : Int} (h : t.bounds? = some (low, high))
    (hlow : low ≤ n) (hhigh : n ≤ high) : (t.integer n).toInt? = some n := by
  have hrange := bounds?_range h
  unfold integer
  split_ifs at hrange ⊢ with hs
  · rw [Value.toInt?, Int64.toInt_ofInt_of_le (by omega) (by omega)]
  · have hsize : n.toNat < UInt64.size := by
      rw [UInt64.size]
      omega
    rw [Value.toInt?, UInt64.toNat_ofNat_of_lt' hsize, Int.toNat_of_nonneg (by omega)]

/-- An integer type takes the values that denote an integer within its bounds, and holds that
integer. -/
theorem coerce_eq_ok_iff {t : DataType} {low high : Int} (h : t.bounds? = some (low, high))
    (v w : Value) :
    t.coerce v = .ok w ↔ ∃ n, v.toInt? = some n ∧ low ≤ n ∧ n ≤ high ∧ w = t.integer n := by
  have hcoerce : t.coerce v = t.coerceInteger low high v := by
    unfold coerce
    rw [h]
  -- What is left is the integer that the value denotes, if there is one.
  rw [hcoerce, coerceInteger]
  cases hv : v.toInt? with
  | none => simp
  | some n =>
    dsimp only
    rw [← integer]
    -- With bounds, an integer is taken exactly if it is within them.
    by_cases hn : low ≤ n ∧ n ≤ high
    · rw [if_pos hn]
      constructor
      · intro hw
        exact ⟨n, rfl, hn.1, hn.2, (Except.ok.inj hw).symm⟩
      · rintro ⟨m, hm, -, -, rfl⟩
        obtain rfl := Option.some.inj hm
        rfl
    · rw [if_neg hn]
      constructor
      · intro hw
        cases hw
      · rintro ⟨m, hm, hlow, hhigh, -⟩
        obtain rfl := Option.some.inj hm
        exact absurd ⟨hlow, hhigh⟩ hn

/-- An integer within the bounds of a type is fitted. -/
theorem coerce_integer {t : DataType} {low high n : Int} (h : t.bounds? = some (low, high))
    (hlow : low ≤ n) (hhigh : n ≤ high) : t.coerce (t.integer n) = .ok (t.integer n) :=
  (coerce_eq_ok_iff h _ _).2 ⟨n, toInt?_integer h hlow hhigh, hlow, hhigh, rfl⟩

end DataType

/-! ### Every type -/

/-- Cutting an instant to milliseconds twice is cutting it once. -/
theorem Instant.truncToMillis_truncToMillis (t : Instant) :
    t.truncToMillis.truncToMillis = t.truncToMillis := by
  unfold truncToMillis
  congr 1
  dsimp only
  omega

namespace DataType

/-- What a type without integer bounds gives is fitted. -/
theorem coerce_coerce_of_bounds?_eq_none {t : DataType} (ht : t.bounds? = none) {v w : Value}
    (h : t.coerce v = .ok w) : t.coerce w = .ok w := by
  unfold coerce at h ⊢
  rw [ht] at h ⊢
  dsimp only at h ⊢
  split at h
  · obtain rfl := Except.ok.inj h
    rfl
  · -- A real number is taken if it is finite.
    rename_i x
    split_ifs at h with hx
    obtain rfl := Except.ok.inj h
    dsimp only
    rw [if_pos hx]
  · -- An integer becomes a real number, which is finite.
    rename_i n
    obtain rfl := Except.ok.inj h
    have hn : n.toInt.natAbs < 2 ^ 65 := by
      have h1 := n.toInt_lt
      have h2 := n.le_toInt
      omega
    dsimp only
    rw [if_pos (Binary64.isFinite_ofInt _ hn)]
  · rename_i n
    obtain rfl := Except.ok.inj h
    have hn : ((n.toNat : Int)).natAbs < 2 ^ 65 := by
      have h1 := n.toNat_lt
      omega
    dsimp only
    rw [if_pos (Binary64.isFinite_ofInt _ hn)]
  · obtain rfl := Except.ok.inj h
    rfl
  · obtain rfl := Except.ok.inj h
    dsimp only
    -- A time is cut to milliseconds, and cutting it twice changes nothing.
    rw [Instant.truncToMillis_truncToMillis]
  · -- A text is taken as a time if it can be read as one, and what was read is cut, too.
    split at h
    · obtain rfl := Except.ok.inj h
      dsimp only
      rw [Instant.truncToMillis_truncToMillis]
    · cases h
  · cases h

/-- **Fitting is idempotent**: a value that a type gave is accepted by the type as it is. -/
theorem coerce_coerce {t : DataType} {v w : Value} (h : t.coerce v = .ok w) :
    t.coerce w = .ok w := by
  cases ht : t.bounds? with
  | none => exact coerce_coerce_of_bounds?_eq_none ht h
  | some bounds =>
    obtain ⟨low, high⟩ := bounds
    obtain ⟨n, -, hlow, hhigh, rfl⟩ := (coerce_eq_ok_iff ht _ _).1 h
    exact coerce_integer ht hlow hhigh

/-- A fitted value is the same as itself, since no type takes what is not a number. -/
theorem sameAs_self_of_coerce {type : DataType} {v w : Value}
    (h : type.coerce v = .ok w) : w.sameAs w = true := by
  have hfits := coerce_coerce h
  cases w with
  | real x =>
    cases x with
    | nan => cases type <;> cases hfits
    | infinite negative => simp [Value.sameAs, Binary64.numEq]
    | finite negative rank => simp [Value.sameAs, Binary64.numEq]
  | _ => simp [Value.sameAs]

end DataType

end ZigbeeGateway
