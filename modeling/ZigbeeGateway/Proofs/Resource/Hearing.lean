import ZigbeeGateway.Proofs.Resource.Confirmation

/-!
# What pending changes hear

Changes of a resource may have any number of targets.  In an *orderly* resource no suffix is waited
for twice and every pending change may still go on; this is kept over the whole life of a resource
(`Orderly.move`, `Orderly.addChange`), and it is all that a report needs: it verifies exactly the
targets that it confirms, and confirms exactly the changes that have one of them and lack no other
(`StateChange.hears_verify`).
-/

namespace ZigbeeGateway

open Relation

namespace StateChange

variable {c : StateChange} {t : Target} {s : String} {v : Value} {p : Target → Bool}

/-- What a change makes of a report that confirms some of its targets.  These are verified from then
on, and the change is confirmed if it had any of them and no other target is left to verify. -/
structure Hears (p : Target → Bool) (c c' : StateChange) : Prop where
  targets : c'.targets = c.targets.map fun t => if p t then { t with verified := true } else t
  isConfirmed : c'.isConfirmed = true ↔
    (∃ t ∈ c.targets, p t = true) ∧ ∀ t ∈ c.targets, t.verified = true ∨ p t = true
  rest : c' = { c with
    targets := c'.targets
    state := if c'.isConfirmed then .confirmed else c.state }

/-- A report that confirms nothing is not heard. -/
theorem hears_self (hopen : c.isFinished = false) (hp : ∀ t ∈ c.targets, p t = false) :
    c.Hears p c := by
  have hunconfirmed := isConfirmed_of_isFinished hopen
  refine ⟨?_, ?_, ?_⟩
  · rw [List.map_congr_left (g := id) fun t ht => by rw [hp t ht, if_neg Bool.false_ne_true, id],
      List.map_id]
  · rw [hunconfirmed]
    refine iff_of_false Bool.false_ne_true ?_
    rintro ⟨⟨t, ht, hpt⟩, -⟩
    exact Bool.false_ne_true ((hp t ht).symm.trans hpt)
  · rw [hunconfirmed, if_neg Bool.false_ne_true]

/-- A report verifies a change if it confirms one of its targets. -/
theorem isVerifiedBy_iff (hopen : c.isFinished = false)
    (hnodup : (c.targets.map (·.suffix)).Nodup) :
    c.isVerifiedBy s v = true ↔ ∃ t ∈ c.targets, t.isConfirmedBy s v = true := by
  have hfinal : c.state.isFinal = false := hopen
  unfold isVerifiedBy
  rw [hfinal, Bool.not_false, Bool.true_and, Option.any_eq_true]
  constructor
  · rintro ⟨t, hfound, hsame⟩
    have hs : t.suffix = s := by simpa using List.find?_some hfound
    exact ⟨t, List.mem_of_find?_eq_some hfound, by simp [Target.isConfirmedBy, hs, hsame]⟩
  · rintro ⟨t, ht, hconfirmed⟩
    obtain rfl := Target.suffix_of_isConfirmedBy hconfirmed
    exact ⟨t, find?_key_of_mem Target.suffix hnodup ht, Target.sameAs_of_isConfirmedBy hconfirmed⟩

/-- The suffixes are distinct, so a confirmed target is the one that its suffix marks. -/
theorem mark_eq (hnodup : (c.targets.map (·.suffix)).Nodup) (ht : t ∈ c.targets)
    (hconfirmed : t.isConfirmedBy s v = true) :
    (c.targets.map fun u => if u.suffix = s then { u with verified := true } else u) =
      c.targets.map fun u => if u.isConfirmedBy s v then { u with verified := true } else u := by
  refine List.map_congr_left fun u hu => ?_
  by_cases hs : u.suffix = s
  · obtain rfl : u = t := List.inj_on_of_nodup_map hnodup hu ht
      (hs.trans (Target.suffix_of_isConfirmedBy hconfirmed).symm)
    rw [if_pos hs, if_pos hconfirmed]
  · rw [if_neg hs, if_neg fun h => hs (Target.suffix_of_isConfirmedBy h)]

/-- After a report every target is verified exactly if it was before or is one that hears. -/
theorem all_verified_iff (p : Target → Bool) (ts : List Target) :
    (ts.map fun t => if p t then { t with verified := true } else t).all (·.verified) = true ↔
      ∀ t ∈ ts, t.verified = true ∨ p t = true := by
  rw [List.all_map, List.all_eq_true]
  refine forall₂_congr fun t _ => ?_
  rw [Function.comp_apply]
  split_ifs with hp <;> simp [hp]

/-- **Reports are heard by the targets that they confirm**, and by no others. -/
theorem hears_verify (hopen : c.isFinished = false) (hnodup : (c.targets.map (·.suffix)).Nodup)
    (s : String) (v : Value) : c.Hears (·.isConfirmedBy s v) (c.verify s v) := by
  have hverified := isVerifiedBy_iff (s := s) (v := v) hopen hnodup
  unfold verify
  split_ifs with h
  · obtain ⟨t, ht, hconfirmed⟩ := hverified.mp h
    rw [mark_eq hnodup ht hconfirmed]
    -- The change was not confirmed before, so it is now if all its targets are verified.
    have hunfinished : c.state ≠ .confirmed := by
      simpa [isConfirmed] using isConfirmed_of_isFinished hopen
    have hstate : ∀ b : Bool, (if b then ChangeState.confirmed else c.state) = .confirmed ↔
        b = true := by
      intro b
      cases b <;> simp [hunfinished]
    dsimp only
    refine ⟨rfl, ?_, ?_⟩
    · rw [← all_verified_iff, isConfirmed, decide_eq_true_iff, hstate]
      exact ⟨fun hall => ⟨⟨t, ht, hconfirmed⟩, hall⟩, fun hboth => hboth.2⟩
    · simp only [isConfirmed, hstate, decide_eq_true_eq]
  · refine hears_self hopen fun t ht => ?_
    cases hp : t.isConfirmedBy s v
    · rfl
    · exact absurd (hverified.mpr ⟨t, ht, hp⟩) h

end StateChange

namespace Resource

open StateChange

variable {r r' : Resource}

/-- What is waited for is in order: no suffix twice, and nothing that is finished. -/
structure Orderly (r : Resource) : Prop where
  distinct : r.HasDistinctTargets
  unfinished : ∀ c ∈ r.changes, c.isFinished = false

namespace Orderly

theorem nodup (hr : r.Orderly) {c : StateChange} (hc : c ∈ r.changes) :
    (c.targets.map (·.suffix)).Nodup := by
  have hpart : c.targets.Sublist r.pendingTargets :=
    List.sublist_flatten_of_mem (List.mem_map_of_mem hc)
  exact hr.distinct.sublist (hpart.map _)

theorem of_isNew (h : r.IsNew) : r.Orderly := by
  refine ⟨?_, ?_⟩
  · simp [HasDistinctTargets, h.pendingTargets_eq_nil]
  · simp [h.changes]

theorem carry (hr : r.Orderly) (h : Carries r r') : r'.Orderly := by
  refine ⟨hr.distinct.of_sublist h.sublist, fun c hc => ?_⟩
  obtain ⟨old, hold, -, hopen⟩ := h.change c hc
  exact hopen (hr.unfinished old hold)

/-- **Moves keep a resource orderly.** -/
theorem move (hr : r.Orderly) (h : ReflTransGen Move r r') : r'.Orderly := by
  induction h with
  | refl => exact hr
  | tail _ hmove ih => exact ih.carry hmove.carries

/-- **Queueing keeps a resource orderly**, whatever the change writes. -/
theorem addChange (hr : r.Orderly) {c : StateChange} (hopen : c.isFinished = false)
    (hnodup : (c.targets.map (·.suffix)).Nodup) : (r.addChange c).Orderly := by
  refine ⟨hr.distinct.addChange hnodup, fun d hd => ?_⟩
  unfold isFinished
  rcases exists_of_mem_addChange hr.distinct hnodup hd with ⟨old, hold, -, -, hstate⟩ | ⟨-, hstate⟩
  · exact hstate ▸ hr.unfinished old hold
  · exact hstate ▸ hopen

end Orderly

end Resource

end ZigbeeGateway
