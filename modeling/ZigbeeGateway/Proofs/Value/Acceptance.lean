import Mathlib.Algebra.Order.Ring.Rat
import Mathlib.Tactic.Lift
import ZigbeeGateway.Proofs.Value.Coercion

/-!
# The values that fit a type

A value *denotes* an integer if it is this integer, be it signed, unsigned or a real number; of the real
numbers only those below `10 ^ 30` count (`Value.Denotes`).  An integer type takes exactly the values that
denote an integer within its bounds, holds this integer in its one representation, and says of any other
value whether it denotes an integer at all (`DataType.coerce_eq_ok_iff_denotes`,
`DataType.coerce_eq_error_iff`).  The other types take values by their kind.
-/

namespace ZigbeeGateway

/-! ### Real numbers as rational numbers -/

namespace Binary64

/-- The rational number that a finite number is. -/
def toRat? : Binary64 → Option ℚ
  | .finite negative rank => some ((if negative then -1 else 1) * (units rank / one))
  | _ => none

/-- A quotient of natural numbers is an integer if the division leaves no remainder. -/
theorem natCast_div_eq_intCast_iff {u d : Nat} (hd : 0 < d) {n : Int} :
    (u : ℚ) / d = n ↔ u % d = 0 ∧ ((u / d : Nat) : Int) = n := by
  have hne : (d : ℚ) ≠ 0 := by
    exact_mod_cast hd.ne'
  rw [div_eq_iff hne]
  constructor
  · intro h
    have hint : (u : Int) = n * d := by exact_mod_cast h
    -- The integer is not negative, so that the quotient is one of natural numbers.
    have hn : 0 ≤ n := by
      by_contra hneg
      have hless : n * d < 0 := Int.mul_neg_of_neg_of_pos (by omega) (by omega)
      omega
    lift n to Nat using hn
    have hu : u = n * d := by exact_mod_cast hint
    rw [hu, Nat.mul_mod_left, Nat.mul_div_cancel _ hd]
    exact ⟨rfl, rfl⟩
  · rintro ⟨hmod, rfl⟩
    have hu : u / d * d = u := Nat.div_mul_cancel (Nat.dvd_of_mod_eq_zero hmod)
    exact_mod_cast hu.symm

theorem one_pos : 0 < one := by
  rw [one, Nat.pow_pos_iff]
  omega

/-- The integer that a number denotes is the number. -/
theorem toInt?_eq_some_iff {x : Binary64} {n : Int} :
    x.toInt? = some n ↔ x.toRat? = some (n : ℚ) := by
  cases x with
  | nan => simp [toInt?, toRat?]
  | infinite negative => simp [toInt?, toRat?]
  | finite negative rank =>
    have hpositive := natCast_div_eq_intCast_iff (u := units rank) one_pos (n := n)
    have hnegative := natCast_div_eq_intCast_iff (u := units rank) one_pos (n := -n)
    unfold toInt? toRat?
    -- The fraction is whole if and only if its denominator divides; the sign is taken out first.
    cases negative with
    | false =>
      simp only [Bool.false_eq_true, ↓reduceIte, one_mul, Option.some.injEq]
      rw [hpositive]
      split_ifs with hmod
      · simp only [hmod, Option.some.injEq, true_and]
      · simp only [hmod, false_and]
    | true =>
      have hsign : (-1 : ℚ) * (units rank / one) = n ↔ (units rank : ℚ) / one = (-n : Int) := by
        rw [neg_one_mul, neg_eq_iff_eq_neg, Int.cast_neg]
      simp only [↓reduceIte, Option.some.injEq]
      rw [hsign, hnegative]
      split_ifs with hmod
      · simp only [hmod, Option.some.injEq, true_and, neg_eq_iff_eq_neg]
      · simp only [hmod, false_and]

end Binary64

/-! ### The integer of a value -/

namespace Value

variable {v : Value} {m n : Int}

/-- The value is the integer.  A real number has to be below `10 ^ 30`. -/
def Denotes : Value → Int → Prop
  | .int k, n => k.toInt = n
  | .uint k, n => k.toNat = n
  | .real x, n => x.toRat? = some (n : ℚ) ∧ |n| < 10 ^ 30
  | _, _ => False

theorem toInt?_eq_some_iff : v.toInt? = some n ↔ v.Denotes n := by
  cases v with
  | real x =>
    have hbound : n.natAbs < integerBound ↔ |n| < 10 ^ 30 := by
      rw [integerBound, Int.abs_eq_natAbs]
      omega
    simp [toInt?, Denotes, Option.filter_eq_some_iff, Binary64.toInt?_eq_some_iff, hbound]
  | _ => simp [toInt?, Denotes]

theorem toInt?_eq_none_iff : v.toInt? = none ↔ ∀ n, ¬ v.Denotes n := by
  simp only [← toInt?_eq_some_iff]
  exact Option.eq_none_iff_forall_ne_some

theorem Denotes.unique (hm : v.Denotes m) (hn : v.Denotes n) : m = n := by
  rw [← toInt?_eq_some_iff] at hm hn
  exact Option.some.inj (hm.symm.trans hn)

end Value

namespace DataType

variable {t : DataType} {v w : Value} {low high n : Int} {e : ValueError}

/-! ### Integer types -/

/-- The value is the integer in the representation of the type. -/
def Represents (t : DataType) (n : Int) (w : Value) : Prop :=
  if t.isSigned then ∃ k : Int64, w = .int k ∧ k.toInt = n
  else ∃ k : UInt64, w = .uint k ∧ k.toNat = n

/-- Within the bounds an integer has one representation. -/
theorem represents_iff (h : t.bounds? = some (low, high)) (hlow : low ≤ n) (hhigh : n ≤ high) :
    t.Represents n w ↔ w = t.integer n := by
  have hrange := bounds?_range h
  unfold Represents integer
  split_ifs at hrange ⊢
  · constructor
    · rintro ⟨k, rfl, rfl⟩
      rw [Int64.ofInt_toInt]
    · rintro rfl
      exact ⟨_, rfl, Int64.toInt_ofInt_of_le (by omega) (by omega)⟩
  · constructor
    · rintro ⟨k, rfl, rfl⟩
      rw [Int.toNat_natCast, UInt64.ofNat_toNat]
    · rintro rfl
      have hsize : n.toNat < UInt64.size := by
        rw [UInt64.size]
        omega
      exact ⟨_, rfl, by rw [UInt64.toNat_ofNat_of_lt' hsize, Int.toNat_of_nonneg (by omega)]⟩

/-- **An integer type takes the values that denote an integer within its bounds**, and holds this
integer in its representation. -/
theorem coerce_eq_ok_iff_denotes (h : t.bounds? = some (low, high)) :
    t.coerce v = .ok w ↔ ∃ n, v.Denotes n ∧ low ≤ n ∧ n ≤ high ∧ t.Represents n w := by
  rw [coerce_eq_ok_iff h]
  refine exists_congr fun n => ?_
  rw [Value.toInt?_eq_some_iff]
  refine and_congr_right fun _ => and_congr_right fun hlow => and_congr_right fun hhigh => ?_
  exact (represents_iff h hlow hhigh).symm

/-- **An integer type refuses all others**: an integer beyond the bounds as out of range, and what
denotes no integer for its kind. -/
theorem coerce_eq_error_iff (h : t.bounds? = some (low, high)) :
    t.coerce v = .error e ↔
      (∃ n, v.Denotes n ∧ ¬ (low ≤ n ∧ n ≤ high) ∧ e = .outOfRange t v.display) ∨
        (∀ n, ¬ v.Denotes n) ∧ e = .typeMismatch t v.kindName := by
  have hcoerce : t.coerce v = t.coerceInteger low high v := by
    unfold coerce
    rw [h]
  rw [hcoerce, coerceInteger]
  cases hv : v.toInt? with
  | none =>
    have hnone := Value.toInt?_eq_none_iff.mp hv
    simp [hnone, eq_comm]
  | some n =>
    have hn := Value.toInt?_eq_some_iff.mp hv
    have hiff : ∀ m, v.Denotes m ↔ m = n := fun m => ⟨fun hm => hm.unique hn, fun hm => hm ▸ hn⟩
    simp only [hiff, exists_eq_left]
    split_ifs with hbounds
    · simp [hbounds]
    · simp [hbounds, eq_comm]

/-! ### The other types -/

theorem coerce_bool_eq_ok_iff : DataType.bool.coerce v = .ok w ↔ ∃ b, v = .bool b ∧ w = v := by
  unfold coerce
  dsimp only [bounds?]
  cases v <;> simp [@eq_comm _ w]

theorem coerce_string_eq_ok_iff :
    DataType.string.coerce v = .ok w ↔ ∃ s, v = .text s ∧ w = v := by
  unfold coerce
  dsimp only [bounds?]
  cases v <;> simp [@eq_comm _ w]

theorem coerce_real_eq_ok_iff :
    DataType.real.coerce v = .ok w ↔
      (∃ k, v = .int k ∧ w = .real (.ofInt k.toInt)) ∨
        (∃ k, v = .uint k ∧ w = .real (.ofInt k.toNat)) ∨
        ∃ x, v = .real x ∧ x.isFinite = true ∧ w = v := by
  unfold coerce
  dsimp only [bounds?]
  cases v with
  | real x =>
    dsimp only
    split_ifs with hx <;> simp [hx, @eq_comm _ w]
  | _ => simp [@eq_comm _ w]

theorem coerce_time_eq_ok_iff :
    DataType.time.coerce v = .ok w ↔
      ∃ instant, (v = .time instant ∨ ∃ s, v = .text s ∧ Instant.read? s.toList = some instant) ∧
        w = .time instant.truncToMillis := by
  unfold coerce
  dsimp only [bounds?]
  cases v with
  | text s =>
    dsimp only
    cases hs : Instant.read? s.toList <;> simp [hs, @eq_comm _ w]
  | _ => simp [@eq_comm _ w]

/-- The values that a type without bounds takes as they are. -/
theorem coerce_self_cases (ht : t.bounds? = none) (h : t.coerce v = .ok v) :
    (t = .bool ∧ ∃ b, v = .bool b) ∨ (t = .real ∧ ∃ x, v = .real x ∧ x.isFinite = true) ∨
      (t = .string ∧ ∃ s, v = .text s) ∨
      t = .time ∧ ∃ instant, v = .time instant ∧ instant.truncToMillis = instant := by
  cases t with
  | bool =>
    obtain ⟨b, hb, -⟩ := coerce_bool_eq_ok_iff.mp h
    exact .inl ⟨rfl, b, hb⟩
  | real =>
    obtain ⟨k, rfl, hk⟩ | ⟨k, rfl, hk⟩ | ⟨x, hx, hfinite, -⟩ := coerce_real_eq_ok_iff.mp h
    · cases hk
    · cases hk
    · exact .inr (.inl ⟨rfl, x, hx, hfinite⟩)
  | string =>
    obtain ⟨s, hs, -⟩ := coerce_string_eq_ok_iff.mp h
    exact .inr (.inr (.inl ⟨rfl, s, hs⟩))
  | time =>
    obtain ⟨instant, -, rfl⟩ := coerce_time_eq_ok_iff.mp h
    exact .inr (.inr (.inr ⟨rfl, _, rfl, Instant.truncToMillis_truncToMillis instant⟩))
  | _ => cases ht

/-- **The values that fit a type, and what the type makes of them.**  An integer type takes the values
that denote an integer within its bounds and represents this integer; it refuses an integer beyond its
bounds as out of range, and all else for its kind.  So values that denote one integer become one value.
A real type takes integers and finite real numbers, the types of truth values and texts take their own
kind, and a type for times takes times and texts that are read as a time.  What a type gives, it takes
as it is. -/
theorem coerce_characterized (v : Value) :
    (∀ (t : DataType) low high, t.bounds? = some (low, high) →
      (∀ w, t.coerce v = .ok w ↔ ∃ n, v.Denotes n ∧ low ≤ n ∧ n ≤ high ∧ t.Represents n w) ∧
      (∀ e, t.coerce v = .error e ↔
        (∃ n, v.Denotes n ∧ ¬ (low ≤ n ∧ n ≤ high) ∧ e = .outOfRange t v.display) ∨
          (∀ n, ¬ v.Denotes n) ∧ e = .typeMismatch t v.kindName) ∧
      ∀ v' n w, v.Denotes n → v'.Denotes n → (t.coerce v = .ok w ↔ t.coerce v' = .ok w)) ∧
    (∀ w, DataType.real.coerce v = .ok w ↔
      (∃ k, v = .int k ∧ w = .real (.ofInt k.toInt)) ∨
        (∃ k, v = .uint k ∧ w = .real (.ofInt k.toNat)) ∨
        ∃ x, v = .real x ∧ x.isFinite = true ∧ w = v) ∧
    (∀ w, DataType.bool.coerce v = .ok w ↔ ∃ b, v = .bool b ∧ w = v) ∧
    (∀ w, DataType.string.coerce v = .ok w ↔ ∃ s, v = .text s ∧ w = v) ∧
    (∀ w, DataType.time.coerce v = .ok w ↔
      ∃ instant, (v = .time instant ∨ ∃ s, v = .text s ∧ Instant.read? s.toList = some instant) ∧
        w = .time instant.truncToMillis) ∧
    ∀ (t : DataType) w, t.coerce v = .ok w → t.coerce w = .ok w := by
  refine ⟨?_, fun w => coerce_real_eq_ok_iff, fun w => coerce_bool_eq_ok_iff,
    fun w => coerce_string_eq_ok_iff, fun w => coerce_time_eq_ok_iff, fun t w => coerce_coerce⟩
  intro t low high h
  refine ⟨fun w => coerce_eq_ok_iff_denotes h, fun e => coerce_eq_error_iff h, ?_⟩
  intro v' n w hn hn'
  rw [coerce_eq_ok_iff_denotes h, coerce_eq_ok_iff_denotes h]
  have hiff : ∀ m, v.Denotes m ↔ v'.Denotes m := fun m =>
    ⟨fun hm => hm.unique hn ▸ hn', fun hm => hm.unique hn' ▸ hn⟩
  simp only [hiff]

/-- The integer `2 ^ 53` as a real number. -/
def wholeReal : Value := .real (.ofInt 9007199254740992)

theorem wholeReal_fits :
    DataType.int64.bounds? = some (-2 ^ 63, 2 ^ 63 - 1) ∧ wholeReal.Denotes 9007199254740992 ∧
      (Value.uint 9007199254740992).Denotes 9007199254740992 ∧
      DataType.int64.coerce wholeReal = .ok (.int 9007199254740992) ∧
      DataType.int64.coerce (.uint 9007199254740992) = .ok (.int 9007199254740992) ∧
      DataType.int64.coerce (.int 9007199254740992) = .ok (.int 9007199254740992) := by
  obtain ⟨hinteger, -, -, -, -, hagain⟩ := coerce_characterized wholeReal
  have hreal : wholeReal.Denotes 9007199254740992 :=
    Value.toInt?_eq_some_iff.mp (by decide +kernel)
  have huint : (Value.uint 9007199254740992).Denotes 9007199254740992 := rfl
  obtain ⟨hok, -, hsame⟩ := hinteger .int64 (-2 ^ 63) (2 ^ 63 - 1) rfl
  have hfits := (hok (.int 9007199254740992)).mpr
    ⟨9007199254740992, hreal, by decide, by decide, 9007199254740992, rfl, rfl⟩
  exact ⟨rfl, hreal, huint, hfits, (hsame _ _ _ hreal huint).mp hfits, hagain _ _ hfits⟩

end DataType

end ZigbeeGateway
