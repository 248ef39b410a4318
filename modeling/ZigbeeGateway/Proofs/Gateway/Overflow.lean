import ZigbeeGateway.Proofs.Gateway.Recomputation

/-!
# Overflows

A request forms two kinds of sums of 64-bit integers: the change of an offset, and the light level from
which on there is daylight.  Where one of them leaves the range of 64-bit integers the overflow is
noted, and nothing else is: setting items, telling of them and correcting measured values notes none.
So what an effect notes is known exactly (`overflowed_recomputeLight`, `overflowed_applyEffect_offset`).
-/

namespace ZigbeeGateway

open Relation

/-- Whether a recomputation of the flags forms a sum that overflows. -/
def Resource.lightOverflows (config : Config) (r : Resource) : Bool :=
  (r.number? Suffix.lightLevel).isSome && r.daylightOverflows config

theorem Resource.lightOverflows_congr {r r' : Resource} (config : Config)
    (h : ∀ s, Suffix.IsLightInput s → r'.value? s = r.value? s) :
    r'.lightOverflows config = r.lightOverflows config := by
  obtain ⟨hdark, hoffset⟩ := thresholds_congr config h
  unfold lightOverflows daylightOverflows
  rw [number?_congr (h _ (.inl rfl)), hdark, hoffset]

namespace Gateway

variable {g g' : Gateway} {id : ResourceId} {s : String} {v : Value} {r : Resource}
  {o : SetOutcome}

/-! ### Sets -/

theorem overflowed_putBack (g : Gateway) (id : ResourceId) (s : String) (r : Resource)
    (known : Bool) : (g.putBack id s r known).overflowed = g.overflowed := by
  obtain ⟨premises, bus, heq⟩ := g.exists_putBack_eq id s r known
  rw [heq]

theorem overflowed_applyValue {always : Bool} (h : g.applyValue id s v always = .ok (g', o)) :
    g'.overflowed = g.overflowed := by
  obtain ⟨r, r', -, -, rfl⟩ := applyValue_cases h
  exact overflowed_putBack g id s r' _

theorem overflowed_applyIfFits (g : Gateway) (id : ResourceId) (s : String) (v : Value) :
    (g.applyIfFits id s v).overflowed = g.overflowed := by
  unfold applyIfFits
  split
  · exact overflowed_applyValue ‹_›
  · rfl

/-- Corrections are cut to the 64-bit range, so that they do not overflow. -/
theorem overflowed_applyOffset (g : Gateway) (id : ResourceId) (change : Int) :
    (g.applyOffset id change).overflowed = g.overflowed := by
  have hcorrect : ∀ (g : Gateway) s bounds,
      (g.correctItem id change s bounds).overflowed = g.overflowed := by
    intro g s bounds
    unfold correctItem
    split
    · rfl
    · exact overflowed_applyIfFits g id s _
  unfold applyOffset corrected
  rw [List.foldl_cons, List.foldl_cons, List.foldl_nil, hcorrect, hcorrect]

/-! ### Effects -/

/-- **A recomputation** notes if the sum overflows that it forms. -/
theorem overflowed_recomputeLight (hlive : g.registry.live? id = some r) :
    (g.recomputeLight id).overflowed = (g.overflowed || r.lightOverflows g.config) := by
  unfold Resource.lightOverflows
  cases hlevel : r.number? Suffix.lightLevel with
  | none =>
    rw [recomputeLight_of_number?_eq_none hlive hlevel, Option.isSome_none, Bool.false_and,
      Bool.or_false]
  | some level =>
    rw [recomputeLight_eq hlive hlevel, overflowed_applyIfFits, overflowed_applyIfFits]
    rfl

/-- **A second recomputation** notes nothing more. -/
theorem overflowed_recomputeLight_again (hlive : g.registry.live? id = some r) :
    ((g.recomputeLight id).recomputeLight id).overflowed = (g.recomputeLight id).overflowed := by
  obtain ⟨q, hq, -, -⟩ := exists_items_recomputeLight hlive
  have hconfig : (g.recomputeLight id).config = g.config :=
    congrArg Scene.config ((isKept_scene id).recomputeLight g)
  have hsame : q.lightOverflows g.config = r.lightOverflows g.config := by
    refine Resource.lightOverflows_congr _ fun s hs => ?_
    rw [← held?_of_live? hq, held?_deeds_input ((isKept_deeds id).recomputeLight g) hs,
      held?_of_live? hlive]
  rw [overflowed_recomputeLight hq, hconfig, hsame, overflowed_recomputeLight hlive, Bool.or_assoc,
    Bool.or_self]

/-- **The effect of an offset** notes if the difference overflows by which it changes. -/
theorem overflowed_applyEffect_offset (g : Gateway) (id : ResourceId) (previous : Option Value)
    (v : Value) :
    (g.applyEffect id .offset previous v).overflowed =
      (g.overflowed || offsetOverflows previous v) := by
  unfold applyEffect
  dsimp only
  split_ifs
  · rfl
  · rw [overflowed_applyOffset]
    rfl

/-- Writes to the hardware have no effect of their own. -/
theorem overflowed_applyEffect_of_ne {policy : WritePolicy} (hoffset : policy ≠ .offset)
    (hthreshold : policy ≠ .threshold) (g : Gateway) (previous : Option Value) (v : Value) :
    (g.applyEffect id policy previous v).overflowed = g.overflowed := by
  cases policy with
  | offset => exact absurd rfl hoffset
  | threshold => exact absurd rfl hthreshold
  | _ => rfl

/-- Sending what is due notes nothing. -/
theorem overflowed_issuePending (g : Gateway) (id : ResourceId) :
    (g.issuePending id).overflowed = g.overflowed := by
  unfold issuePending
  split
  · rfl
  · dsimp only
    rw [sendAll_eq]
    rfl

end Gateway

end ZigbeeGateway
