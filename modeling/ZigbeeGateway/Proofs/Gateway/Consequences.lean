import Mathlib.Tactic.SplitIfs
import ZigbeeGateway.Gateway.Reports

/-!
# What follows from requests

A write of an offset or a threshold and a report of a light level bring about more sets, of items that
are *derived* from others.  All of these are sets of one resource that are given up where they do not
fit, one after another, and at most an overflow is noted with them.  So what every such set and every
such note keeps is kept by all that follows from a request: it is enough to say for a relation that it
survives one of each (`IsKept`), and the rest is said here once.
-/

namespace ZigbeeGateway

/-- The items that follow from others. -/
def Suffix.IsDerived (s : String) : Prop :=
  s = Suffix.temperature ∨ s = Suffix.humidity ∨ s = Suffix.dark ∨ s = Suffix.daylight

namespace Gateway

/-- A recomputation notes at most an overflow and then sets the flags that the resource has.  So what
survives each of these steps survives all of it. -/
theorem rel_recomputeLight {P : Gateway → Gateway → Prop} {id : ResourceId} (hrefl : ∀ g, P g g)
    (htrans : ∀ {g g' g''}, P g g' → P g' g'' → P g g'')
    (hnote : ∀ g overflows, P g (g.noteOverflow overflows))
    (hdark : ∀ g v, P g (g.applyIfFits id Suffix.dark v))
    (hdaylight : ∀ g v, P g (g.applyIfFits id Suffix.daylight v)) (g : Gateway) :
    P g (g.recomputeLight id) := by
  -- The flags are set by a fold, along which a transitive relation is kept.
  have hrun : ∀ (flags : List (String × Bool)) (g : Gateway),
      (∀ flag ∈ flags, ∀ g v, P g (g.applyIfFits id flag.1 v)) →
      P g (flags.foldl (fun g flag => g.applyIfFits id flag.1 (.bool flag.2)) g) := by
    intro flags
    induction flags with
    | nil => exact fun g _ => hrefl g
    | cons flag flags ih =>
      intro g hflags
      exact htrans (hflags flag List.mem_cons_self g _)
        (ih _ fun flag hflag => hflags flag (List.mem_cons_of_mem _ hflag))
  unfold recomputeLight
  split
  · exact hrefl g
  · split
    · exact hrefl g
    · refine htrans (hnote g _) (hrun _ _ fun flag hflag => ?_)
      have hmem := (List.mem_filter.mp hflag).1
      simp only [lightFlags, List.mem_cons, List.not_mem_nil, or_false] at hmem
      rcases hmem with rfl | rfl
      · exact hdark
      · exact hdaylight

/-- A relation between an earlier and a later gateway survives sets of the derived items of a
resource, and notes of overflows. -/
structure IsKept (P : Gateway → Gateway → Prop) (id : ResourceId) : Prop where
  refl : ∀ g, P g g
  trans : ∀ {g g' g''}, P g g' → P g' g'' → P g g''
  set : ∀ {g g' : Gateway} {s : String} {v : Value} {o : SetOutcome}, Suffix.IsDerived s →
    g.applyValue id s v false = .ok (g', o) → P g g'
  note : ∀ g overflows, P g (g.noteOverflow overflows)

namespace IsKept

variable {P : Gateway → Gateway → Prop} {id : ResourceId} {s : String}

theorem applyIfFits (h : IsKept P id) (hs : Suffix.IsDerived s) (g : Gateway) (v : Value) :
    P g (g.applyIfFits id s v) := by
  unfold Gateway.applyIfFits
  split
  · exact h.set hs ‹_›
  · exact h.refl g

theorem correctItem (h : IsKept P id) (hs : Suffix.IsDerived s) (g : Gateway) (delta : Int)
    (bounds : Option (Int × Int)) : P g (g.correctItem id delta s bounds) := by
  unfold Gateway.correctItem
  split
  · exact h.refl g
  · exact h.applyIfFits hs g _

/-- Light levels bring about flags, which are derived items. -/
theorem recomputeLight (h : IsKept P id) (g : Gateway) : P g (g.recomputeLight id) :=
  rel_recomputeLight h.refl h.trans h.note (h.applyIfFits (.inr (.inr (.inl rfl))))
    (h.applyIfFits (.inr (.inr (.inr rfl)))) g

/-- What a write brings about sets derived items. -/
theorem applyEffect (h : IsKept P id) (g : Gateway) (policy : WritePolicy)
    (previous : Option Value) (v : Value) : P g (g.applyEffect id policy previous v) := by
  unfold Gateway.applyEffect
  split
  · have hnoted := h.note g (offsetOverflows previous v)
    dsimp only
    split_ifs
    · exact hnoted
    · unfold applyOffset corrected
      rw [List.foldl_cons, List.foldl_cons, List.foldl_nil]
      refine h.trans hnoted ?_
      exact h.trans (h.correctItem (.inl rfl) _ _ _) (h.correctItem (.inr (.inl rfl)) _ _ _)
  · exact h.recomputeLight g
  · exact h.refl g

theorem applyConfirmed (h : IsKept P id) (g : Gateway) (confirmed : List StateChange) :
    P g (g.applyConfirmed id confirmed) := by
  unfold Gateway.applyConfirmed
  induction confirmed.flatMap (·.targets) generalizing g with
  | nil => exact h.refl g
  | cons t targets ih => exact h.trans (h.applyEffect g _ _ _) (ih _)

/-- **What follows from a report that was taken** survives, too. -/
theorem afterReport (h : IsKept P id) (g : Gateway) (suffix : String)
    (confirmed : List StateChange) :
    P g (if suffix = Suffix.lightLevel then (g.applyConfirmed id confirmed).recomputeLight id
      else g.applyConfirmed id confirmed) := by
  have hconfirmed := h.applyConfirmed g confirmed
  split_ifs
  · exact h.trans hconfirmed (h.recomputeLight _)
  · exact hconfirmed

end IsKept

end Gateway

end ZigbeeGateway
