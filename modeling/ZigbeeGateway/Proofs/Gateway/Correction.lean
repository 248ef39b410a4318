import ZigbeeGateway.Proofs.Gateway.Writes
import ZigbeeGateway.Proofs.Resource.Narrow

/-!
# Corrections

What a change of an offset does to the measured items, if they are narrow: the temperature is moved
by the difference if it stays within its type and stays as it is otherwise, the humidity is moved
and cut to its bounds, and nothing else changes (`applyOffset_corrected`).
-/

namespace ZigbeeGateway.Gateway

open Relation

variable {g : Gateway} {id : ResourceId} {suffix : String} {r : Resource} {item : Item}
  {low high n m d : Int}

/-- Setting a narrow item to an integer: it holds the integer if that fits, and what it held
otherwise. -/
theorem exists_live?_applyIfFits (hlive : g.registry.live? id = some r)
    (hitem : r.item? suffix = some item) (hstatic : item.isStatic = false)
    (hbounds : item.type.bounds? = some (low, high)) (hm : -2 ^ 63 ≤ m ∧ m < 2 ^ 63)
    (hvalue : r.value? suffix = some (item.type.integer n)) :
    ∃ r', (g.applyIfFits id suffix (.int (Int64.ofInt m))).registry.live? id = some r' ∧
      ReflTransGen (Resource.Traffic (· = suffix)) r r' ∧
      r'.value? suffix = some (item.type.integer (if low ≤ m ∧ m ≤ high then m else n)) := by
  have hnumber : (Value.int (Int64.ofInt m)).toInt? = some m := by
    rw [Value.toInt?, Int64.toInt_ofInt_of_le hm.1 (by omega)]
  split_ifs with hfits
  · -- The set goes through; making it known touches no item.
    have hcoerce : item.type.coerce (.int (Int64.ofInt m)) = .ok (item.type.integer m) :=
      (DataType.coerce_eq_ok_iff hbounds _ _).mpr ⟨m, hnumber, hfits.1, hfits.2, rfl⟩
    obtain ⟨g', o, happly⟩ := exists_applyValue_eq_ok hlive hitem hcoerce false
    have hset : g.applyIfFits id suffix (.int (Int64.ofInt m)) = g' := by
      unfold applyIfFits
      rw [happly]
    obtain ⟨q, r', hq, hr', rfl⟩ := applyValue_cases happly
    rw [hlive] at hq
    obtain rfl := Option.some.inj hq
    obtain ⟨q, hq, hrun⟩ := exists_live?_putBack hlive (Resource.sameShape_setValue hr') suffix
      (o.isChanged || (false && o.isAccepted))
    refine ⟨q, hset ▸ hq, ?_, ?_⟩
    · exact .head (.set rfl hr') (Resource.Traffic.mono_run (fun _ => False.elim) hrun)
    · rw [Resource.Traffic.value?_run hrun not_false]
      exact Resource.value?_setValue hitem hstatic hbounds hcoerce hr'
  · -- A set that went through would have found the integer within the bounds.
    have hrefused : g.applyIfFits id suffix (.int (Int64.ofInt m)) = g := by
      unfold applyIfFits
      split
      · rename_i happly
        obtain ⟨q, r', hq, hr', -⟩ := applyValue_cases happly
        rw [hlive] at hq
        obtain rfl := Option.some.inj hq
        obtain ⟨old, new, hold, hset, -⟩ := Resource.setValue_cases hr'
        rw [hitem] at hold
        obtain rfl := Option.some.inj hold
        obtain ⟨w, hw, -⟩ := Item.set_cases hset
        obtain ⟨k, hk, hlow, hhigh, -⟩ := (DataType.coerce_eq_ok_iff hbounds _ _).mp hw
        rw [hnumber] at hk
        obtain rfl := Option.some.inj hk
        exact absurd ⟨hlow, hhigh⟩ hfits
      · rfl
    exact ⟨r, by rw [hrefused, hlive], .refl, hvalue⟩

/-- Correcting a narrow item that holds a number. -/
theorem exists_live?_correctItem (bounds : Option (Int × Int))
    (hlive : g.registry.live? id = some r) (hitem : r.item? suffix = some item)
    (hstatic : item.isStatic = false) (hbounds : item.type.bounds? = some (low, high))
    (hhigh : high < 2 ^ 32) (hn : low ≤ n ∧ n ≤ high)
    (hvalue : r.value? suffix = some (item.type.integer n))
    (hcorrect : correct n d bounds = m) (hm : -2 ^ 63 ≤ m ∧ m < 2 ^ 63) :
    ∃ r', (g.correctItem id d suffix bounds).registry.live? id = some r' ∧
      ReflTransGen (Resource.Traffic (· = suffix)) r r' ∧
      r'.value? suffix = some (item.type.integer (if low ≤ m ∧ m ≤ high then m else n)) := by
  have hnumber : (g.registry.resource? id).bind (·.number? suffix) = some n := by
    rw [(Registry.live?_eq_some_iff.mp hlive).1, Option.bind_some,
      Resource.number?_of_integer hvalue, DataType.number_integer hbounds hhigh hn]
  unfold correctItem
  rw [hnumber]
  dsimp only
  rw [hcorrect]
  exact exists_live?_applyIfFits hlive hitem hstatic hbounds hm hvalue

/-- An item without a number is not corrected. -/
theorem correctItem_of_value?_eq_none {bounds : Option (Int × Int)}
    (hlive : g.registry.live? id = some r) (hvalue : r.value? suffix = none) :
    g.correctItem id d suffix bounds = g := by
  unfold correctItem
  rw [(Registry.live?_eq_some_iff.mp hlive).1, Option.bind_some,
    Resource.number?_of_value?_eq_none hvalue]

/-- An item that can be corrected: its type is narrow, and it takes sets. -/
def IsCorrectable (r : Resource) (suffix : String) : Prop :=
  ∀ item, r.item? suffix = some item → item.type.isNarrow = true ∧ item.isStatic = false

theorem IsCorrectable.of_sameShape {r' : Resource} (h : IsCorrectable r suffix)
    (hshape : Resource.SameShape r r') : IsCorrectable r' suffix :=
  hshape.forall_item? (fun type static => type.isNarrow = true ∧ static = false) h

/-- The number of a narrow item is within its bounds, and the item holds it. -/
theorem exists_bounds_of_number? (hr : r.Sound) (hcorrectable : IsCorrectable r suffix)
    (hitem : r.item? suffix = some item) (hn : r.number? suffix = some n) :
    ∃ low high, item.type.bounds? = some (low, high) ∧ -2 ^ 31 ≤ low ∧ high < 2 ^ 32 ∧ low ≤ n ∧
      n ≤ high ∧ r.value? suffix = some (item.type.integer n) := by
  obtain ⟨low, high, hbounds, hlow, hhigh⟩ :=
    DataType.exists_bounds?_of_isNarrow (hcorrectable item hitem).1
  cases hvalue : item.value with
  | none =>
    have hnone : r.value? suffix = none := by
      rw [Resource.value?, hitem, Option.bind_some, hvalue]
    rw [Resource.number?_of_value?_eq_none hnone] at hn
    cases hn
  | some w =>
    obtain ⟨hlow', hhigh', hw, -⟩ :=
      DataType.exists_eq_integer hbounds hhigh (hr.fitted suffix item hitem w hvalue)
    have hheld : r.value? suffix = some (item.type.integer w.number) := by
      rw [Resource.value?, hitem, Option.bind_some, hvalue, ← hw]
    rw [Resource.number?_of_integer hheld, ← hw] at hn
    obtain rfl := Option.some.inj hn
    exact ⟨low, high, hbounds, hlow, hhigh, hlow', hhigh', hheld⟩

/-- **Correcting one item**: without a value it stays without one, and a number is corrected if the
result fits its type. -/
theorem correctItem_number? (bounds : Option (Int × Int))
    (hlive : g.registry.live? id = some r) (hr : r.Sound) (hcorrectable : IsCorrectable r suffix)
    (hrange : ∀ n, -2 ^ 31 ≤ n → n < 2 ^ 32 →
      -2 ^ 63 ≤ correct n d bounds ∧ correct n d bounds < 2 ^ 63) :
    ∃ r', (g.correctItem id d suffix bounds).registry.live? id = some r' ∧
      ReflTransGen (Resource.Traffic (· = suffix)) r r' ∧
      (r.value? suffix = none → r'.value? suffix = none) ∧
      ∀ item n, r.item? suffix = some item → r.number? suffix = some n →
        ∃ low high, item.type.bounds? = some (low, high) ∧ -2 ^ 31 ≤ n ∧ n < 2 ^ 32 ∧
          r'.number? suffix = some
            (if low ≤ correct n d bounds ∧ correct n d bounds ≤ high then correct n d bounds
              else n) := by
  cases hvalue : r.value? suffix with
  | none =>
    refine ⟨r, ?_, .refl, fun _ => hvalue, fun item n _ hn => ?_⟩
    · rw [correctItem_of_value?_eq_none hlive hvalue, hlive]
    · rw [Resource.number?_of_value?_eq_none hvalue] at hn
      cases hn
  | some w =>
    obtain ⟨item, hitem, hw⟩ := Option.bind_eq_some_iff.mp hvalue
    -- A sound resource holds an integer of the type, so there is a number to correct.
    have hnumber : ∃ n, r.number? suffix = some n := by
      obtain ⟨low, high, hbounds, -, hhigh⟩ :=
        DataType.exists_bounds?_of_isNarrow (hcorrectable item hitem).1
      obtain ⟨-, -, hinteger, -⟩ :=
        DataType.exists_eq_integer hbounds hhigh (hr.fitted suffix item hitem w hw)
      rw [hinteger] at hvalue
      exact ⟨_, Resource.number?_of_integer hvalue⟩
    obtain ⟨n, hn⟩ := hnumber
    obtain ⟨low, high, hbounds, hlow, hhigh, hlow', hhigh', hheld⟩ :=
      exists_bounds_of_number? hr hcorrectable hitem hn
    have hm := hrange n (by omega) (by omega)
    obtain ⟨r', hr', hrun, hvalue'⟩ := exists_live?_correctItem bounds hlive hitem
      (hcorrectable item hitem).2 hbounds hhigh ⟨hlow', hhigh'⟩ hheld rfl hm
    refine ⟨r', hr', hrun, fun h => by simp at h, fun item' k hitem' hk => ?_⟩
    rw [hitem] at hitem'
    rw [hn] at hk
    obtain rfl := Option.some.inj hitem'
    obtain rfl := Option.some.inj hk
    refine ⟨low, high, hbounds, by omega, by omega, ?_⟩
    rw [Resource.number?_of_integer hvalue', DataType.number_integer hbounds hhigh]
    split_ifs with hfits
    · exact hfits
    · exact ⟨hlow', hhigh'⟩

end ZigbeeGateway.Gateway

namespace ZigbeeGateway

/-- A number of a type after a difference was added to it.  It stays as it is if the sum does not
fit the type. -/
def DataType.shift (t : DataType) (n d : Int) : Int :=
  match t.bounds? with
  | some (low, high) => if low ≤ n + d ∧ n + d ≤ high then n + d else n
  | none => n

namespace Gateway

open Relation

variable {g : Gateway} {id : ResourceId} {r : Resource} {d : Int}

/-- Corrections of narrow numbers are exact. -/
theorem correct_none {n : Int} (hn : -2 ^ 31 ≤ n ∧ n < 2 ^ 32) (hd : -2 ^ 33 ≤ d ∧ d ≤ 2 ^ 33) :
    correct n d none = n + d :=
  saturate_of_narrow hn hd

theorem correct_some {n low high : Int} (hn : -2 ^ 31 ≤ n ∧ n < 2 ^ 32)
    (hd : -2 ^ 33 ≤ d ∧ d ≤ 2 ^ 33) :
    correct n d (some (low, high)) = max low (min (n + d) high) := by
  unfold correct
  dsimp only
  rw [saturate_of_narrow hn hd]

theorem exists_item?_of_number? {suffix : String} {n : Int} (h : r.number? suffix = some n) :
    ∃ item, r.item? suffix = some item := by
  unfold Resource.number? at h
  cases hitem : r.item? suffix with
  | none =>
    rw [hitem] at h
    cases h
  | some item => exact ⟨item, rfl⟩

/-- What a change of an offset by a difference makes of the measured items.  Without values they
stay without; the temperature is shifted within its type; the humidity is shifted and cut to its
bounds, or not touched by no difference. -/
structure Corrected (r r' : Resource) (d : Int) : Prop where
  noTemperature : r.value? Suffix.temperature = none → r'.value? Suffix.temperature = none
  noHumidity : r.value? Suffix.humidity = none → r'.value? Suffix.humidity = none
  temperature : ∀ item n, r.item? Suffix.temperature = some item →
    r.number? Suffix.temperature = some n →
      r'.number? Suffix.temperature = some (item.type.shift n d)
  humidity : ∀ n, r.number? Suffix.humidity = some n →
    r'.number? Suffix.humidity = some (if d = 0 then n else max 0 (min (n + d) 10000))

/-- Measured items that keep their values are corrected by no difference. -/
theorem corrected_zero {r' : Resource} (hr : r.Sound)
    (hcorrectable : IsCorrectable r Suffix.temperature)
    (htemperature : r'.value? Suffix.temperature = r.value? Suffix.temperature)
    (hhumidity : r'.value? Suffix.humidity = r.value? Suffix.humidity) : Corrected r r' 0 := by
  refine ⟨fun h => htemperature.trans h, fun h => hhumidity.trans h, fun item n hitem hn => ?_,
    fun n hn => ?_⟩
  · obtain ⟨low, high, hbounds, -, -, hlow, hhigh, -⟩ :=
      exists_bounds_of_number? hr hcorrectable hitem hn
    rw [Resource.number?_congr htemperature, hn, DataType.shift, hbounds]
    simp [hlow, hhigh]
  · rw [Resource.number?_congr hhumidity, hn, if_pos rfl]

theorem Corrected.congr {q q' : Resource} (h : Corrected q q' d) (hshape : Resource.SameShape r q)
    (htemperature : q.value? Suffix.temperature = r.value? Suffix.temperature)
    (hhumidity : q.value? Suffix.humidity = r.value? Suffix.humidity) : Corrected r q' d := by
  refine ⟨fun hnone => h.noTemperature (htemperature.trans hnone),
    fun hnone => h.noHumidity (hhumidity.trans hnone), fun item n hitem hn => ?_, fun n hn => ?_⟩
  · obtain ⟨item', hitem', heq⟩ := hshape.exists_item? hitem
    rw [h.temperature item' n hitem' ((Resource.number?_congr htemperature).trans hn),
      Item.type_of_shape_eq heq]
  · exact h.humidity n ((Resource.number?_congr hhumidity).trans hn)

/-- **What a change of an offset does**: the measured items are corrected, and no other item is
touched. -/
theorem applyOffset_corrected (hlive : g.registry.live? id = some r) (hr : r.Sound)
    (htemperature : IsCorrectable r Suffix.temperature)
    (hhumidity : ∀ item, r.item? Suffix.humidity = some item →
      item.type = .uint16 ∧ item.isStatic = false)
    (hd : -2 ^ 33 ≤ d ∧ d ≤ 2 ^ 33) (hne : d ≠ 0) :
    ∃ r', (g.applyOffset id d).registry.live? id = some r' ∧
      ReflTransGen (Resource.Traffic fun s => s = Suffix.temperature ∨ s = Suffix.humidity) r r' ∧
      Corrected r r' d := by
  have hboth : ∀ s, s = Suffix.temperature → s = Suffix.temperature ∨ s = Suffix.humidity :=
    fun _ => .inl
  have hboth' : ∀ s, s = Suffix.humidity → s = Suffix.temperature ∨ s = Suffix.humidity :=
    fun _ => .inr
  have hdistinct : Suffix.temperature ≠ Suffix.humidity := by decide
  have hhumidityCorrectable : IsCorrectable r Suffix.humidity := fun item hitem =>
    ⟨by rw [(hhumidity item hitem).1]; rfl, (hhumidity item hitem).2⟩
  -- The temperature comes first.
  obtain ⟨r₁, hlive₁, hrun₁, hnone₁, hnumber₁⟩ :=
    correctItem_number? (d := d) none hlive hr htemperature (fun n hlow hhigh => by
      rw [correct_none ⟨hlow, hhigh⟩ hd]
      omega)
  have hshape₁ := Resource.Traffic.sameShape_run hrun₁
  have hr₁ : r₁.Sound := hr.traffic hrun₁
  -- The humidity comes second and is not touched by the first correction.
  obtain ⟨r₂, hlive₂, hrun₂, hnone₂, hnumber₂⟩ :=
    correctItem_number? (d := d) (some (0, 10000)) hlive₁ hr₁
      (hhumidityCorrectable.of_sameShape hshape₁) (fun n hlow hhigh => by
        rw [correct_some ⟨hlow, hhigh⟩ hd]
        omega)
  have hhumidity₁ : r₁.value? Suffix.humidity = r.value? Suffix.humidity :=
    Resource.Traffic.value?_run hrun₁ hdistinct.symm
  have htemperature₂ : r₂.value? Suffix.temperature = r₁.value? Suffix.temperature :=
    Resource.Traffic.value?_run hrun₂ hdistinct
  refine ⟨r₂, hlive₂, ?_, ⟨?_, ?_, ?_, ?_⟩⟩
  · exact (Resource.Traffic.mono_run hboth hrun₁).trans
      (Resource.Traffic.mono_run hboth' hrun₂)
  · exact fun h => htemperature₂.trans (hnone₁ h)
  · exact fun h => hnone₂ (hhumidity₁.trans h)
  · intro item n hitem hn
    obtain ⟨low, high, hbounds, hlow, hhigh, hshifted⟩ := hnumber₁ item n hitem hn
    rw [Resource.number?_congr htemperature₂, hshifted, correct_none ⟨hlow, hhigh⟩ hd,
      DataType.shift, hbounds]
  · intro n hn
    rw [← Resource.number?_congr hhumidity₁] at hn
    obtain ⟨item, hitem⟩ := exists_item?_of_number? hn
    obtain ⟨low, high, hbounds, hlow, hhigh, hshifted⟩ := hnumber₂ item n hitem hn
    obtain ⟨old, hold, heq⟩ := hshape₁.exists_item?_of hitem
    rw [Item.type_of_shape_eq heq, (hhumidity old hold).1] at hbounds
    obtain ⟨rfl, rfl⟩ := Prod.mk.inj (Option.some.inj hbounds)
    rw [hshifted, correct_some ⟨hlow, hhigh⟩ hd, if_pos (by omega), if_neg hne]

end Gateway

end ZigbeeGateway
