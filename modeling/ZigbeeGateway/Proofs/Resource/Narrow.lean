import ZigbeeGateway.Gateway.Derived
import ZigbeeGateway.Proofs.Resource.Items

/-!
# Narrow integer items

The integer types of at most 32 bits are narrow.  Their values are integers in one representation
each (`DataType.exists_eq_integer`), a set leaves an item of such a type with exactly the fitted
value (`Resource.value?_setValue`), and the numbers are so far away from the ends of the 64-bit
range that sums and differences of them are exact (`Gateway.saturate_of_narrow`).

Where a difference or a sum does wrap around is said for all values: an offset changes by the exact
difference just as far as this fits 64 bits (`Gateway.offsetOverflows_eq_false_iff`,
`Gateway.offsetChange_of_fits`), and so with the threshold of daylight
(`Resource.daylightLevel_of_fits`).
-/

namespace ZigbeeGateway

namespace DataType

variable {t : DataType} {low high n m : Int} {v w : Value}

/-- Whether the type is an integer type of at most 32 bits. -/
def isNarrow : DataType → Bool
  | .int8 | .int16 | .int32 | .uint8 | .uint16 | .uint32 | .enum => true
  | _ => false

/-- A narrow type has narrow bounds. -/
theorem exists_bounds?_of_isNarrow (h : t.isNarrow = true) :
    ∃ low high, t.bounds? = some (low, high) ∧ -2 ^ 31 ≤ low ∧ high < 2 ^ 32 := by
  cases t <;> simp [isNarrow] at h <;> exact ⟨_, _, rfl, by decide, by decide⟩

theorem number_integer (h : t.bounds? = some (low, high)) (hhigh : high < 2 ^ 32)
    (hn : low ≤ n ∧ n ≤ high) : (t.integer n).number = n := by
  have hvalue := toInt?_integer h hn.1 hn.2
  unfold integer at hvalue ⊢
  split_ifs at hvalue ⊢
  · exact Option.some.inj hvalue
  · -- An unsigned value of a narrow type is below the greatest number, so it is not cut.
    have hnat := Option.some.inj hvalue
    rw [Value.number, hnat, Item.greatest]
    omega

/-- **A fitted value of a narrow type** is an integer within the bounds, in its representation. -/
theorem exists_eq_integer (h : t.bounds? = some (low, high)) (hhigh : high < 2 ^ 32)
    (hw : t.coerce v = .ok w) :
    low ≤ w.number ∧ w.number ≤ high ∧ w = t.integer w.number ∧ v.toInt? = some w.number := by
  obtain ⟨n, hn, hlow, hhigh', rfl⟩ := (coerce_eq_ok_iff h v w).mp hw
  rw [number_integer h hhigh ⟨hlow, hhigh'⟩]
  exact ⟨hlow, hhigh', rfl, hn⟩

theorem sameAs_integer : (t.integer n).sameAs w = true ↔ t.integer n = w := by
  unfold integer
  split_ifs <;> simp [Value.sameAs]

theorem sameAs_integer_right : w.sameAs (t.integer n) = true ↔ w = t.integer n := by
  unfold integer
  split_ifs <;> cases w <;> simp [Value.sameAs]

end DataType

namespace Resource

variable {r r' : Resource} {suffix : String}

theorem number?_congr (h : r'.value? suffix = r.value? suffix) :
    r'.number? suffix = r.number? suffix := by
  -- The number of an item depends on its value alone.
  have hvalue : ∀ q : Resource, q.number? suffix = (q.value? suffix).map fun v =>
      Item.number { suffix := "", type := .bool, value := some v } := by
    intro q
    unfold number? value?
    cases q.item? suffix with
    | none => rfl
    | some item =>
      cases hv : item.value with
      | none => simp [Option.filter, hv]
      | some v =>
        simp only [Option.filter, hv, Option.isSome_some, ↓reduceIte, Option.map_some,
          Option.bind_some, Option.some.injEq]
        unfold Item.number
        rw [hv]
  rw [hvalue, hvalue, h]

theorem number?_of_integer {t : DataType} {n : Int} (h : r.value? suffix = some (t.integer n)) :
    r.number? suffix = some (t.integer n).number := by
  obtain ⟨item, hitem, hvalue⟩ := Option.bind_eq_some_iff.mp h
  unfold number?
  rw [hitem]
  simp only [Option.filter, hvalue, Option.isSome_some, ↓reduceIte, Option.map_some,
    Option.some.injEq]
  unfold Item.number
  rw [hvalue]
  unfold DataType.integer
  split_ifs <;> rfl

theorem number?_of_value?_eq_none (h : r.value? suffix = none) : r.number? suffix = none := by
  unfold number?
  unfold value? at h
  cases hitem : r.item? suffix with
  | none => rfl
  | some item =>
    rw [hitem, Option.bind_some] at h
    simp [Option.filter, h]

/-- **A set of a narrow item that is not static** leaves it with the fitted value. -/
theorem value?_setValue {item : Item} {low high : Int} {v w : Value} {now : Instant}
    {o : SetOutcome}
    (hitem : r.item? suffix = some item) (hstatic : item.isStatic = false)
    (hbounds : item.type.bounds? = some (low, high)) (hw : item.type.coerce v = .ok w)
    (h : r.setValue suffix v now = .ok (r', o)) : r'.value? suffix = some w := by
  obtain ⟨old, new, hold, hset, hitems⟩ := item?_setValue h
  rw [hitem] at hold
  obtain rfl := Option.some.inj hold
  rw [value?, hitems, if_pos rfl, Option.bind_some]
  obtain ⟨w', hw', hcases⟩ := Item.set_cases hset
  rw [hw] at hw'
  obtain rfl := Except.ok.inj hw'
  rcases hcases with ⟨-, hkept, -⟩ | ⟨-, hholds, rfl⟩ | ⟨-, -, rfl⟩
  · -- A static item would be kept.
    rw [hstatic] at hkept
    cases hkept
  · -- The item holds the value already: integers are the same only if they are equal.
    obtain ⟨n, -, -, -, rfl⟩ := (DataType.coerce_eq_ok_iff hbounds v w).mp hw
    unfold Item.holds at hholds
    cases hvalue : item.value with
    | none =>
      rw [hvalue] at hholds
      cases hholds
    | some x =>
      rw [hvalue] at hholds
      exact congrArg some (DataType.sameAs_integer_right.mp hholds)
  · rfl

end Resource

namespace Gateway

/-- **Corrections of narrow numbers are exact**: nothing is cut to the 64-bit range. -/
theorem saturate_of_narrow {n d : Int} (hn : -2 ^ 31 ≤ n ∧ n < 2 ^ 32)
    (hd : -2 ^ 33 ≤ d ∧ d ≤ 2 ^ 33) : saturate (n + d) = n + d := by
  unfold saturate Item.greatest
  omega

end Gateway

/-! ### Sums that wrap around -/

/-- Numbers of values are 64-bit integers. -/
theorem Value.number_range (v : Value) : -2 ^ 63 ≤ v.number ∧ v.number < 2 ^ 63 := by
  cases v with
  | int n => exact ⟨n.le_toInt, n.toInt_lt⟩
  | uint n =>
    rw [number, Item.greatest]
    omega
  | real x =>
    rw [number]
    cases x with
    | nan => exact ⟨by decide, by decide⟩
    | infinite negative => cases negative <;> exact ⟨by decide, by decide⟩
    | finite negative rank =>
      have hpositive : (0 : Int) ≤ (Binary64.units rank / Binary64.one : Nat) :=
        Int.natCast_nonneg _
      -- A finite number saturates at the ends of the range.
      unfold Binary64.toInt64
      dsimp only
      split_ifs <;> omega
  | bool b => cases b <;> exact ⟨by decide, by decide⟩
  | text | time =>
    rw [number]
    omega

namespace Gateway

variable {previous : Option Value} {v : Value}

theorem numberHeld_range (previous : Option Value) :
    -2 ^ 63 ≤ numberHeld previous ∧ numberHeld previous < 2 ^ 63 := by
  cases previous with
  | none => exact ⟨by decide, by decide⟩
  | some p => exact p.number_range

theorem toInt_ofInt_number (v : Value) : (Int64.ofInt v.number).toInt = v.number :=
  Int64.toInt_ofInt_of_le v.number_range.1 v.number_range.2

theorem toInt_ofInt_numberHeld (previous : Option Value) :
    (Int64.ofInt (numberHeld previous)).toInt = numberHeld previous :=
  Int64.toInt_ofInt_of_le (numberHeld_range previous).1 (numberHeld_range previous).2

/-- **No overflow** is noted exactly if the difference is a 64-bit integer. -/
theorem offsetOverflows_eq_false_iff :
    offsetOverflows previous v = false ↔
      -2 ^ 63 ≤ v.number - numberHeld previous ∧ v.number - numberHeld previous < 2 ^ 63 := by
  unfold offsetOverflows BitVec.ssubOverflow
  rw [Int64.toInt_toBitVec, Int64.toInt_toBitVec, toInt_ofInt_number, toInt_ofInt_numberHeld,
    Bool.or_eq_false_iff, decide_eq_false_iff_not, decide_eq_false_iff_not]
  omega

/-- **An offset changes by the difference** of the numbers, if it is a 64-bit integer. -/
theorem offsetChange_of_fits
    (h : -2 ^ 63 ≤ v.number - numberHeld previous ∧ v.number - numberHeld previous < 2 ^ 63) :
    offsetChange previous v = v.number - numberHeld previous := by
  rw [offsetChange, ← Int64.ofInt_sub, Int64.toInt_ofInt_of_le h.1 h.2]

/-- Differences that wrap around still tell numbers apart. -/
theorem offsetChange_inj {previous' : Option Value} :
    offsetChange previous v = offsetChange previous' v ↔
      numberHeld previous = numberHeld previous' := by
  refine ⟨fun h => ?_, fun h => by rw [offsetChange, h, offsetChange]⟩
  have hsame := Int64.sub_right_inj _ |>.mp (Int64.toInt_inj.mp h)
  rw [← toInt_ofInt_numberHeld previous, hsame, toInt_ofInt_numberHeld]

end Gateway

namespace Resource

variable {config : Config} {r : Resource} {s : String} {n : Int}

/-- **Daylight begins at the sum** of the threshold and the offset, if it is a 64-bit integer. -/
theorem daylightLevel_of_fits
    (h : -2 ^ 63 ≤ r.darkLevel config + r.daylightOffset config ∧
      r.darkLevel config + r.daylightOffset config < 2 ^ 63) :
    r.daylightLevel config = r.darkLevel config + r.daylightOffset config := by
  rw [daylightLevel, ← Int64.ofInt_add, Int64.toInt_ofInt_of_le h.1 h.2]

/-- **No overflow** is noted exactly if the sum of two 64-bit integers is one. -/
theorem daylightOverflows_eq_false_iff
    (hdark : -2 ^ 63 ≤ r.darkLevel config ∧ r.darkLevel config < 2 ^ 63)
    (hoffset : -2 ^ 63 ≤ r.daylightOffset config ∧ r.daylightOffset config < 2 ^ 63) :
    r.daylightOverflows config = false ↔
      -2 ^ 63 ≤ r.darkLevel config + r.daylightOffset config ∧
        r.darkLevel config + r.daylightOffset config < 2 ^ 63 := by
  unfold daylightOverflows BitVec.saddOverflow
  rw [Int64.toInt_toBitVec, Int64.toInt_toBitVec, Int64.toInt_ofInt_of_le hdark.1 hdark.2,
    Int64.toInt_ofInt_of_le hoffset.1 hoffset.2, Bool.or_eq_false_iff, decide_eq_false_iff_not,
    decide_eq_false_iff_not]
  omega

/-- The numbers of a narrow item that holds fitted values are within the bounds of narrow types. -/
theorem number?_range_of_isNarrow
    (hnarrow : ∀ item, r.item? s = some item → item.type.isNarrow = true ∧ item.IsFitted)
    (h : r.number? s = some n) : -2 ^ 31 ≤ n ∧ n < 2 ^ 32 := by
  cases hvalue : r.value? s with
  | none =>
    rw [number?_of_value?_eq_none hvalue] at h
    cases h
  | some w =>
    obtain ⟨item, hitem, hw⟩ := Option.bind_eq_some_iff.mp hvalue
    obtain ⟨htype, hfitted⟩ := hnarrow item hitem
    obtain ⟨low, high, hbounds, hlow, hhigh⟩ := DataType.exists_bounds?_of_isNarrow htype
    obtain ⟨hge, hle, hinteger, -⟩ := DataType.exists_eq_integer hbounds hhigh (hfitted w hw)
    rw [hinteger] at hvalue
    have hn := number?_of_integer hvalue
    rw [h, ← hinteger, Option.some_inj] at hn
    omega

/-- **Narrow thresholds do not overflow**, and daylight begins at their sum. -/
theorem daylight_of_isNarrow
    (hnarrow : ∀ s, s = Suffix.tholdDark ∨ s = Suffix.tholdOffset →
      ∀ item, r.item? s = some item → item.type.isNarrow = true ∧ item.IsFitted)
    (hconfig : config.tholdDark < 2 ^ 16 ∧ config.tholdOffset < 2 ^ 16) :
    r.daylightOverflows config = false ∧
      r.daylightLevel config = r.darkLevel config + r.daylightOffset config := by
  have hdark : -2 ^ 31 ≤ r.darkLevel config ∧ r.darkLevel config < 2 ^ 32 := by
    unfold darkLevel
    cases h : r.number? Suffix.tholdDark with
    | none => rw [Option.getD_none]; omega
    | some n => exact number?_range_of_isNarrow (hnarrow _ (.inl rfl)) h
  have hoffset : -2 ^ 31 ≤ r.daylightOffset config ∧ r.daylightOffset config < 2 ^ 32 := by
    unfold daylightOffset
    cases h : r.number? Suffix.tholdOffset with
    | none => rw [Option.getD_none]; omega
    | some n => exact number?_range_of_isNarrow (hnarrow _ (.inr rfl)) h
  have hsum : -2 ^ 63 ≤ r.darkLevel config + r.daylightOffset config ∧
      r.darkLevel config + r.daylightOffset config < 2 ^ 63 := by omega
  exact ⟨(daylightOverflows_eq_false_iff (by omega) (by omega)).mpr hsum,
    daylightLevel_of_fits hsum⟩

end Resource

end ZigbeeGateway
