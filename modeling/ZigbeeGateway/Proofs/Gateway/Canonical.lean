import ZigbeeGateway.Proofs.Gateway.Etags
import ZigbeeGateway.Proofs.Gateway.Fares
import ZigbeeGateway.Proofs.Value.Acceptance

/-!
# Canonical items

Values come into items from reports, writes, default values, stored rows, the identity of devices,
corrections and time stamps.  Whatever the way, an item is *canonical* at every point of a history:
either nothing was ever set, or it holds a value in the one representation of its type and has both
stamps.  One step of an item keeps this (`isLasting_isCanonical`), so it holds of every item of every
node and every other resource, which have distinct names; and names and types are never changed
(`items_canonical`).
-/

namespace ZigbeeGateway

open Relation

/-! ### The values of a type -/

namespace DataType

variable {t : DataType} {v w : Value}

/-- The values of a type: integers within its bounds, finite real numbers, times in whole
milliseconds. -/
def Admits (t : DataType) (v : Value) : Prop :=
  match t.bounds?, t with
  | some (low, high), t =>
    if t.isSigned then ∃ n : Int64, v = .int n ∧ low ≤ n.toInt ∧ n.toInt ≤ high
    else ∃ n : UInt64, v = .uint n ∧ low ≤ n.toNat ∧ n.toNat ≤ high
  | none, .bool => ∃ b, v = .bool b
  | none, .real => ∃ x, v = .real x ∧ x.isFinite = true
  | none, .string => ∃ s, v = .text s
  | none, .time => ∃ instant, v = .time instant ∧ instant.nanos % 1000000 = 0
  | none, _ => False

theorem admits_integer {low high n : Int} (h : t.bounds? = some (low, high)) (hlow : low ≤ n)
    (hhigh : n ≤ high) : t.Admits (t.integer n) := by
  have hrange := bounds?_range h
  unfold Admits integer
  rw [h]
  dsimp only
  split_ifs at hrange ⊢
  · have hn : (Int64.ofInt n).toInt = n := Int64.toInt_ofInt_of_le (by omega) (by omega)
    exact ⟨_, rfl, hn.symm ▸ hlow, hn.symm ▸ hhigh⟩
  · have hsize : n.toNat < UInt64.size := by
      rw [UInt64.size]
      omega
    refine ⟨_, rfl, ?_⟩
    rw [UInt64.toNat_ofNat_of_lt' hsize, Int.toNat_of_nonneg (by omega)]
    exact ⟨hlow, hhigh⟩

/-- **What fits a type as it is, is one of its values.** -/
theorem admits_of_coerce (h : t.coerce v = .ok v) : t.Admits v := by
  cases ht : t.bounds? with
  | some bounds =>
    obtain ⟨low, high⟩ := bounds
    obtain ⟨n, -, hlow, hhigh, rfl⟩ := (coerce_eq_ok_iff ht _ _).mp h
    exact admits_integer ht hlow hhigh
  | none =>
    obtain ⟨rfl, b, rfl⟩ | ⟨rfl, x, rfl, hx⟩ | ⟨rfl, s, rfl⟩ | ⟨rfl, instant, rfl, hcut⟩ :=
      coerce_self_cases ht h
    · exact ⟨b, rfl⟩
    · exact ⟨x, rfl, hx⟩
    · exact ⟨s, rfl⟩
    · -- A time that is cut to milliseconds is left as it is.
      refine ⟨instant, rfl, ?_⟩
      rw [← hcut, Instant.truncToMillis]
      dsimp only
      omega

end DataType

namespace Item

variable {item item' : Item} {v : Value} {now : Instant} {o : SetOutcome}

/-- Nothing was ever set, or the item holds a value as its type represents it and has both stamps. -/
def IsCanonical (item : Item) : Prop :=
  (item.value = none ∧ item.lastSet = none ∧ item.lastChanged = none) ∨
    ∃ v set changed, item.value = some v ∧ item.lastSet = some set ∧
      item.lastChanged = some changed ∧ item.type.coerce v = .ok v

/-- A set leaves a stamp. -/
theorem isSome_lastSet_of_set (h : item.set v now = .ok (item', o)) :
    item'.lastSet.isSome = true := by
  unfold Item.set at h
  split at h
  · cases h
  · split_ifs at h with hfrozen
    · obtain ⟨rfl, -⟩ := Prod.mk.inj (Except.ok.inj h)
      rw [Bool.and_eq_true] at hfrozen
      exact hfrozen.2
    · obtain ⟨rfl, -⟩ := Prod.mk.inj (Except.ok.inj h)
      rfl
    · obtain ⟨rfl, -⟩ := Prod.mk.inj (Except.ok.inj h)
      rfl

/-- **A set of a canonical item** leaves a canonical item. -/
theorem IsCanonical.set (hitem : item.IsCanonical) (h : item.set v now = .ok (item', o)) :
    item'.IsCanonical := by
  obtain ⟨w, hw, ⟨-, -, rfl⟩ | ⟨-, hholds, rfl⟩ | ⟨-, -, rfl⟩⟩ := set_cases h
  · exact hitem
  · -- The item held the value already.
    obtain ⟨held, hheld, -⟩ := holds_iff.mp hholds
    rcases hitem with ⟨hnone, -⟩ | ⟨v', set, changed, hv', -, hchanged, hfits⟩
    · rw [hnone] at hheld
      cases hheld
    · exact .inr ⟨v', _, changed, hv', rfl, hchanged, hfits⟩
  · exact .inr ⟨w, _, _, rfl, rfl, rfl, DataType.coerce_coerce hw⟩

/-- **A restored row** leaves a canonical item: a value was set, so both stamps may be put back. -/
theorem IsCanonical.restore (hitem : item.IsCanonical) {row : Row}
    (h : row.restore? item = some item') : item'.IsCanonical := by
  obtain ⟨t, set, o, -, hset, rfl⟩ := Row.restore?_eq_some_iff.mp h
  have hcanonical := hitem.set hset
  split_ifs
  · rcases hcanonical with ⟨-, hnone, -⟩ | ⟨v, _, _, hv, -, -, hfits⟩
    · have hsome := isSome_lastSet_of_set hset
      rw [hnone] at hsome
      cases hsome
    · exact .inr ⟨v, t, t, hv, rfl, rfl, hfits⟩
  · exact hcanonical

/-- Flags and templates play no part. -/
theorem IsCanonical.of_cell_eq (hitem : item.IsCanonical) (h : item'.cell = item.cell) :
    item'.IsCanonical := by
  unfold cell at h
  injection h with _ htype hvalue hset hchanged
  unfold IsCanonical
  rw [htype, hvalue, hset, hchanged]
  exact hitem

/-- **Being canonical lasts**, whatever handles are issued. -/
theorem isLasting_isCanonical (issued : String → TemplateHandle → Prop) :
    Resource.IsLasting issued IsCanonical := by
  refine ⟨fun item hblank => .inl ⟨hblank.value, hblank.lastSet, hblank.lastChanged⟩,
    fun item item' hstep hitem => ?_⟩
  cases hstep with
  | set h => exact hitem.set h
  | restore h => exact hitem.restore h
  | dress hcell => exact hitem.of_cell_eq hcell

/-- What a canonical item holds is one of the values of its type. -/
theorem IsCanonical.admits (hitem : item.IsCanonical) (hv : item.value = some v) :
    item.type.Admits v := by
  rcases hitem with ⟨hnone, -⟩ | ⟨w, _, _, hw, -, -, hfits⟩
  · rw [hnone] at hv
    cases hv
  · obtain rfl := Option.some.inj (hw.symm.trans hv)
    exact DataType.admits_of_coerce hfits

end Item

/-! ### Histories -/

namespace Gateway

variable {start : Gateway}

/-- **All items are canonical at every point of a history** that begins with an empty registry.  The
items of a node or of any other resource have distinct names, and each of them either was never set
or holds a value as its type represents it, with both stamps; such a value is one of the values of
the type.  Whatever follows, nodes and resources keep their items, in order and with their names and
types. -/
theorem items_canonical (hstart : start.registry = {}) (events later : List GatewayEvent) :
    (∀ r, (start.run events).registry.Includes r →
      r.suffixes.Nodup ∧ ∀ item ∈ r.items, item.IsCanonical ∧
        ∀ v, item.value = some v → item.type.Admits v) ∧
    ∀ p r, (start.run events).registry.holder? p = some r →
      ∃ r', (start.run (events ++ later)).registry.holder? p = some r' ∧ r.layout <+: r'.layout := by
  have hholds := holds_run Item.isLasting_isCanonical hstart events
  refine ⟨fun r hr => ?_, fun p r hr => ?_⟩
  · obtain ⟨p, hp⟩ := hr.exists_holder? (coherent_run hstart events) (addresses_run hstart events)
    obtain ⟨hdistinct, hitems⟩ := hholds p r hp
    exact ⟨hdistinct, fun item hitem =>
      ⟨hitems item hitem, fun v hv => (hitems item hitem).admits hv⟩⟩
  · obtain ⟨r', hr', hcontinues⟩ := continues_run (start.run events) later p r hr
    refine ⟨r', ?_, hcontinues.layout (hholds p r hr).distinct⟩
    rw [run_append]
    exact hr'

/-- A report of a temperature leaves every item of the sensor canonical, and the items stay when the
device is deleted. -/
theorem measured_temperature_canonical :
    ∃ r, (plainThermometer.run joinedAndMeasured).registry.resource? ⟨2⟩ = some r ∧
      r.suffixes.Nodup ∧ (∀ item ∈ r.items, item.IsCanonical) ∧
      ∃ r', (plainThermometer.run (joinedAndMeasured ++ [.deviceDeleted ⟨1⟩])).registry.resource?
        ⟨2⟩ = some r' ∧ r.layout <+: r'.layout := by
  obtain ⟨r, hr⟩ : ∃ r, (plainThermometer.run joinedAndMeasured).registry.resource? ⟨2⟩ = some r :=
    Option.isSome_iff_exists.mp (by decide +kernel)
  obtain ⟨hcanonical, hlayout⟩ :=
    @items_canonical plainThermometer rfl joinedAndMeasured [.deviceDeleted ⟨1⟩]
  obtain ⟨hdistinct, hitems⟩ := hcanonical r (.inl (List.mem_of_find?_eq_some hr))
  exact ⟨r, hr, hdistinct, fun item hitem => (hitems item hitem).1, hlayout (.resource ⟨2⟩) r hr⟩

end Gateway

end ZigbeeGateway
