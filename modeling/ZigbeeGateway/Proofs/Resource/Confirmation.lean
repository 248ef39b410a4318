import ZigbeeGateway.Proofs.Resource.Soundness

/-!
# Confirmations

In a sound resource a report confirms at most one pending target: the one of its suffix, if the
reported value is the one that it writes (`Sound.verifyReport_cases`).  The target is then no longer
pending; all others stay.
-/

namespace ZigbeeGateway

/-- Whether a report is the confirmation of a target. -/
def Target.isConfirmedBy (t : Target) (s : String) (v : Value) : Bool :=
  t.suffix = s && t.value.sameAs v

theorem Target.suffix_of_isConfirmedBy {t : Target} {s : String} {v : Value}
    (h : t.isConfirmedBy s v = true) : t.suffix = s := by
  unfold isConfirmedBy at h
  simpa using (Bool.and_eq_true_iff.mp h).1

theorem Target.sameAs_of_isConfirmedBy {t : Target} {s : String} {v : Value}
    (h : t.isConfirmedBy s v = true) : t.value.sameAs v = true := by
  unfold isConfirmedBy at h
  exact (Bool.and_eq_true_iff.mp h).2

/-- Values that are the same confirm the same targets. -/
theorem Target.isConfirmedBy_congr {v w : Value} (h : v.sameAs w = true) (t : Target) (s : String) :
    t.isConfirmedBy s v = t.isConfirmedBy s w := by
  rw [isConfirmedBy, isConfirmedBy, Value.sameAs_congr h]

namespace StateChange

variable {c : StateChange} {t : Target} {s : String} {v : Value}

theorem isConfirmed_of_isFinished (hopen : c.isFinished = false) : c.isConfirmed = false := by
  unfold isFinished at hopen
  unfold isConfirmed
  cases hstate : c.state <;> simp [hstate, ChangeState.isFinal] at hopen ⊢

/-- A change with one target is verified by the confirmation of its target. -/
theorem isVerifiedBy_of_single (hopen : c.isFinished = false) (htargets : c.targets = [t]) :
    c.isVerifiedBy s v = t.isConfirmedBy s v := by
  have hfinal : c.state.isFinal = false := hopen
  unfold isVerifiedBy Target.isConfirmedBy target?
  rw [hfinal, htargets, List.find?_singleton]
  by_cases hs : t.suffix = s <;> simp [hs]

theorem verify_of_single (hopen : c.isFinished = false) (htargets : c.targets = [t]) :
    (c.verify s v).isConfirmed = t.isConfirmedBy s v := by
  unfold verify
  rw [isVerifiedBy_of_single hopen htargets, htargets]
  cases hmatch : t.isConfirmedBy s v
  · simp [isConfirmed_of_isFinished hopen]
  · simp [Target.suffix_of_isConfirmedBy hmatch, isConfirmed]

/-- A part of single changes that is chosen by confirmation holds the targets chosen by it. -/
theorem targetsOf_verify (p : Bool → Bool) {cs : List StateChange}
    (hcs : ∀ c ∈ cs, c.isFinished = false ∧ c.targets.length = 1) :
    (targetsOf ((cs.map (·.verify s v)).filter fun c => p c.isConfirmed)).map Target.asQueued =
      ((targetsOf cs).filter fun t => p (t.isConfirmedBy s v)).map Target.asQueued := by
  induction cs with
  | nil => rfl
  | cons c cs ih =>
    obtain ⟨hopen, hlength⟩ := hcs c List.mem_cons_self
    obtain ⟨t, htargets⟩ := List.length_eq_one_iff.mp hlength
    have hrest := ih fun d hd => hcs d (List.mem_cons_of_mem _ hd)
    have hqueued : (c.verify s v).targets.map Target.asQueued = [t.asQueued] := by
      rw [verify_asQueued, htargets, List.map_singleton]
    rw [List.map_cons, List.filter_cons, verify_of_single hopen htargets, targetsOf_cons, htargets,
      List.singleton_append, List.filter_cons]
    split_ifs
    · rw [targetsOf_cons, List.map_append, hqueued, hrest, List.map_cons, List.singleton_append]
    · exact hrest

end StateChange

namespace Resource

open StateChange

variable {r : Resource}

/-- In a sound resource a change is verified exactly if a target is confirmed. -/
theorem Sound.exists_isVerifiedBy_iff (hr : r.Sound) (s : String) (v : Value) :
    (∃ c ∈ r.changes, c.isVerifiedBy s v = true) ↔
      ∃ t ∈ r.pendingTargets, t.isConfirmedBy s v = true := by
  constructor
  · rintro ⟨c, hc, hverified⟩
    obtain ⟨hopen, hlength⟩ := hr.single c hc
    obtain ⟨t, htargets⟩ := List.length_eq_one_iff.mp hlength
    rw [isVerifiedBy_of_single hopen htargets] at hverified
    exact ⟨t, List.mem_flatMap.mpr ⟨c, hc, by simp [htargets]⟩, hverified⟩
  · rintro ⟨t, ht, hconfirmed⟩
    obtain ⟨c, hc, ht⟩ := List.mem_flatMap.mp ht
    obtain ⟨hopen, hlength⟩ := hr.single c hc
    obtain ⟨u, htargets⟩ := List.length_eq_one_iff.mp hlength
    rw [htargets] at ht
    obtain rfl := List.mem_singleton.mp ht
    exact ⟨c, hc, by rw [isVerifiedBy_of_single hopen htargets, hconfirmed]⟩

/-- **What a report confirms.**  Either no pending target is confirmed, and all stay pending; or the
one of the suffix is, and the suffix is no longer waited for. -/
theorem Sound.verifyReport_cases (hr : r.Sound) (s : String) (v : Value) :
    ((∀ t ∈ r.pendingTargets, t.isConfirmedBy s v = false) ∧
      targetsOf (r.verifyReport s v).2 = []) ∨
    ∃ t ∈ r.pendingTargets, t.isConfirmedBy s v = true ∧
      (∃ u, targetsOf (r.verifyReport s v).2 = [u] ∧ u.asQueued = t.asQueued) ∧
      ∀ u ∈ (r.verifyReport s v).1.pendingTargets, u.suffix ≠ s := by
  have hconfirmed : (targetsOf (r.verifyReport s v).2).map Target.asQueued =
      (r.pendingTargets.filter fun t => t.isConfirmedBy s v).map Target.asQueued :=
    targetsOf_verify (fun b => b) hr.single
  have hleft : (r.verifyReport s v).1.pendingTargets.map Target.asQueued =
      (r.pendingTargets.filter fun t => !t.isConfirmedBy s v).map Target.asQueued :=
    targetsOf_verify (fun b => !b) hr.single
  by_cases hnone : ∀ t ∈ r.pendingTargets, t.isConfirmedBy s v = false
  · refine .inl ⟨hnone, ?_⟩
    have hempty : r.pendingTargets.filter (fun t => t.isConfirmedBy s v) = [] := by
      rw [List.filter_eq_nil_iff]
      intro t ht
      simp [hnone t ht]
    rw [hempty, List.map_nil] at hconfirmed
    exact List.map_eq_nil_iff.mp hconfirmed
  · push Not at hnone
    obtain ⟨t, ht, hmatch⟩ := hnone
    have hmatch : t.isConfirmedBy s v = true := by simpa using hmatch
    -- The suffixes are distinct, so the target is the only one that is confirmed.
    have honly : r.pendingTargets.filter (fun t => t.isConfirmedBy s v) = [t] :=
      filter_eq_singleton Target.suffix hr.distinct ht hmatch fun u _ hu => by
        rw [Target.suffix_of_isConfirmedBy hu, Target.suffix_of_isConfirmedBy hmatch]
    rw [honly, List.map_singleton] at hconfirmed
    obtain ⟨u, hu, heq⟩ := List.map_eq_singleton_iff.mp hconfirmed
    refine .inr ⟨t, ht, hmatch, ⟨u, hu, heq⟩, ?_⟩
    intro w hw hs
    have hmem := hleft ▸ List.mem_map_of_mem (f := Target.asQueued) hw
    obtain ⟨q, hq, hqw⟩ := List.mem_map.mp hmem
    obtain ⟨hq, hunconfirmed⟩ := List.mem_filter.mp hq
    have hqs : q.suffix = t.suffix := by
      rw [(Target.eq_of_asQueued_eq hqw).1, hs, Target.suffix_of_isConfirmedBy hmatch]
    rw [hr.distinct.eq_of_suffix_eq hq ht hqs, hmatch] at hunconfirmed
    cases hunconfirmed

end Resource

end ZigbeeGateway
