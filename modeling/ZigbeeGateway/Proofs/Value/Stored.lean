import ZigbeeGateway.Proofs.Json.Reals
import ZigbeeGateway.Proofs.Time.Stored
import ZigbeeGateway.Proofs.Value.Acceptance
import ZigbeeGateway.Proofs.Value.Json

/-!
# Values read back from storage

The stored form of a value is written as JSON text, read as a document and fitted to the type of the
item again.  Truth values, texts and integers come back as they were; a time does if its year has four
digits, and a real number if the two rounded steps in which its decimal is read give it back
(`coerce_ofStored?_iff`).
-/

namespace ZigbeeGateway

/-- Whether a value comes back from storage as it was. -/
def Value.SurvivesStorage : Value → Prop
  | .real x => Json.read? (String.ofList (Json.realText x)) = some (.real x)
  | .time t => t.HasPlainYear
  | .bool _ | .int _ | .uint _ | .text _ => True

namespace DataType

open Value

variable {t : DataType} {v : Value} {low high n : Int}

theorem survivesStorage_integer (t : DataType) (n : Int) : (t.integer n).SurvivesStorage := by
  unfold integer
  split_ifs <;> trivial

/-- An integer of a type is read from its stored form. -/
theorem ofStored?_integer (h : t.bounds? = some (low, high)) (hlow : low ≤ n) (hhigh : n ≤ high) :
    ofStored? (t.integer n).toStored.written = some (ofInt n) := by
  have hstored : (t.integer n).toStored = .integer n := by
    rw [← toJson_integer h hlow hhigh]
    unfold integer
    split_ifs <;> rfl
  have hrange := bounds?_range h
  have hvalue : (Json.Numeral.ofInteger n).value? = some (.integer n) := by
    refine Json.Numeral.value?_ofInteger ?_ ?_
    · split_ifs at hrange <;> omega
    · split_ifs at hrange <;> omega
  rw [hstored, Json.written, ofStored?, hvalue, Option.map_some]

/-- A real number is what the reader makes of its text. -/
theorem ofStored?_real (negative : Bool) (rank : Fin Binary64.rankCount) :
    ofStored? (Value.real (.finite negative rank)).toStored.written =
      (Json.Numeral.ofDecimal negative (Binary64.shortest .even rank)).real?.map .real := by
  show ofStored? (.number (.ofDecimal negative (Binary64.shortest .even rank))) = _
  rw [ofStored?, Json.Numeral.value?_ofDecimal, Option.map_map]
  rfl

theorem coerce_real_real_iff {x y : Binary64} (hx : x.isFinite = true) :
    DataType.real.coerce (.real y) = .ok (.real x) ↔ y = x := by
  rw [coerce_real_eq_ok_iff]
  constructor
  · rintro (⟨k, ⟨⟩, -⟩ | ⟨k, ⟨⟩, -⟩ | ⟨z, -, -, hw⟩)
    exact (Value.real.inj hw).symm
  · rintro rfl
    exact .inr (.inr ⟨_, rfl, hx, rfl⟩)

theorem coerce_ofStored?_real_iff {x : Binary64} (hx : x.isFinite = true) :
    (∃ w, ofStored? (Value.real x).toStored.written = some w ∧
      DataType.real.coerce w = .ok (.real x)) ↔ (Value.real x).SurvivesStorage := by
  cases x with
  | nan => cases hx
  | infinite negative => cases hx
  | finite negative rank =>
    rw [SurvivesStorage, Json.read?_realText, ofStored?_real]
    simp only [Option.map_eq_some_iff]
    constructor
    · rintro ⟨w, ⟨y, hread, rfl⟩, hfits⟩
      obtain rfl := (coerce_real_real_iff hx).mp hfits
      exact ⟨_, hread, rfl⟩
    · rintro ⟨y, hread, hy⟩
      obtain rfl := Json.real.inj hy
      exact ⟨_, ⟨_, hread, rfl⟩, (coerce_real_real_iff hx).mpr rfl⟩

theorem coerce_ofStored?_time_iff {instant : Instant} (h : instant.Occurs)
    (hcut : instant.truncToMillis = instant) :
    (∃ w, ofStored? (Value.time instant).toStored.written = some w ∧
      DataType.time.coerce w = .ok (.time instant)) ↔ (Value.time instant).SurvivesStorage := by
  have hstored : ofStored? (Value.time instant).toStored.written =
      some (.text (String.ofList instant.rfc3339Text)) :=
    rfl
  have hread := h.read?_rfc3339Text hcut
  rw [SurvivesStorage, hstored]
  constructor
  · rintro ⟨w, hw, hfits⟩
    obtain rfl := Option.some.inj hw
    -- A time that is written with a sign is not read back, so no value comes out of it.
    by_contra hyear
    rw [if_neg hyear] at hread
    obtain ⟨read, hkind | ⟨s, hkind, hs⟩, -⟩ := coerce_time_eq_ok_iff.mp hfits
    · cases hkind
    · rw [← Value.text.inj hkind, String.toList_ofList, hread] at hs
      cases hs
  · intro hyear
    rw [if_pos hyear] at hread
    refine ⟨_, rfl, ?_⟩
    rw [coerce_text (by rw [String.toList_ofList, hread]), hcut]

/-- **What comes back from storage is the value that was stored, exactly if the value survives.** -/
theorem coerce_ofStored?_iff (h : t.coerce v = .ok v)
    (htime : ∀ instant, v = .time instant → instant.Occurs) :
    (∃ w, ofStored? v.toStored.written = some w ∧ t.coerce w = .ok v) ↔ v.SurvivesStorage := by
  cases ht : t.bounds? with
  | some bounds =>
    obtain ⟨low, high⟩ := bounds
    obtain ⟨n, -, hlow, hhigh, rfl⟩ := (coerce_eq_ok_iff ht _ _).mp h
    exact iff_of_true ⟨ofInt n, ofStored?_integer ht hlow hhigh, coerce_ofInt ht hlow hhigh⟩
      (survivesStorage_integer t n)
  | none =>
    obtain ⟨rfl, b, rfl⟩ | ⟨rfl, x, rfl, hx⟩ | ⟨rfl, s, rfl⟩ | ⟨rfl, instant, rfl, hcut⟩ :=
      coerce_self_cases ht h
    · exact iff_of_true ⟨_, rfl, h⟩ trivial
    · exact coerce_ofStored?_real_iff hx
    · exact iff_of_true ⟨_, rfl, h⟩ trivial
    · exact coerce_ofStored?_time_iff (htime instant rfl) hcut

end DataType

end ZigbeeGateway
