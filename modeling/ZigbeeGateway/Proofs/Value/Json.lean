import ZigbeeGateway.Proofs.Time.Text
import ZigbeeGateway.Proofs.Value.Coercion
import ZigbeeGateway.Value.Json

/-!
# Values read back from JSON

The public form of a value does not tell signed from unsigned integers, nor times from texts.  The
type of an item does: what is read from the form of a value of the type fits the type again, and what
the type makes of it is the value (`coerce_ofJson?_toJson`).
-/

namespace ZigbeeGateway.DataType

open Value

variable {t : DataType} {v : Value} {low high n : Int}

/-- An integer in the range of signed or unsigned 64-bit integers is read as that integer. -/
theorem toInt?_ofInt (hlow : -2 ^ 63 ≤ n) (hhigh : n < 2 ^ 64) : (ofInt n).toInt? = some n := by
  unfold ofInt
  split_ifs with hsigned hunsigned
  · rw [toInt?, Int64.toInt_ofInt_of_le (by omega) (by omega)]
  · have hsize : n.toNat < UInt64.size := by
      rw [UInt64.size]
      omega
    rw [toInt?, UInt64.toNat_ofNat_of_lt' hsize, Int.toNat_of_nonneg hunsigned.1]
  · omega

/-- The form of an integer of a type is the integer. -/
theorem toJson_integer (h : t.bounds? = some (low, high)) (hlow : low ≤ n) (hhigh : n ≤ high) :
    (t.integer n).toJson = .integer n := by
  have hrange := bounds?_range h
  unfold integer
  split_ifs at hrange ⊢
  · rw [toJson, Int64.toInt_ofInt_of_le (by omega) (by omega)]
  · have hsize : n.toNat < UInt64.size := by
      rw [UInt64.size]
      omega
    rw [toJson, UInt64.toNat_ofNat_of_lt' hsize, Int.toNat_of_nonneg (by omega)]

theorem coerce_ofInt (h : t.bounds? = some (low, high)) (hlow : low ≤ n) (hhigh : n ≤ high) :
    t.coerce (ofInt n) = .ok (t.integer n) := by
  have hrange := bounds?_range h
  refine (coerce_eq_ok_iff h _ _).mpr ⟨n, toInt?_ofInt ?_ ?_, hlow, hhigh, rfl⟩
  · split_ifs at hrange <;> omega
  · split_ifs at hrange <;> omega

theorem coerce_text {s : String} {instant : Instant} (h : Instant.read? s.toList = some instant) :
    DataType.time.coerce (.text s) = .ok (.time instant.truncToMillis) := by
  unfold coerce
  dsimp only [bounds?]
  rw [h]

end ZigbeeGateway.DataType
