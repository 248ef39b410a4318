import Mathlib.Logic.Relation
import ZigbeeGateway.Proofs.Resource.Pending

/-!
# Traffic

What happens to a resource from day to day is made of a few small steps: an item is set, its update
is made known, a report verifies what is pending, time passes.  `Traffic` is the relation of one
step, over the suffixes whose items may be set, and runs of it are chains of steps.

Every step keeps the shape of the resource, the values of all other items and the pending targets,
as far as they do not go (`Traffic.sameShape`, `Traffic.value?_eq`, `Traffic.sublist`).  Queueing a
change is not traffic.
-/

namespace ZigbeeGateway.Resource

open Relation StateChange

variable {touched : String → Prop} {r r' : Resource}

/-- One step of daily traffic, in which the items with the touched suffixes may be set. -/
inductive Traffic (touched : String → Prop) : Resource → Resource → Prop
  | set {r r' : Resource} {suffix : String} {v : Value} {now : Instant} {o : SetOutcome}
      (hsuffix : touched suffix) (h : r.setValue suffix v now = .ok (r', o)) : Traffic touched r r'
  /-- It is noted that there is something to save. -/
  | note (r : Resource) : Traffic touched r { r with needsSave := true }
  | told (r : Resource) (suffix : String) :
      Traffic touched r (r.modifyItem suffix fun i => { i with needPush := false })
  | report (r : Resource) (suffix : String) (v : Value) :
      Traffic touched r (r.verifyReport suffix v).1
  /-- The pending changes move on to a time. -/
  | tick (r : Resource) (now : Instant) : Traffic touched r (r.tickChanges now).1

theorem item?_told (r : Resource) (suffix s : String) :
    (r.modifyItem suffix fun i => { i with needPush := false }).item? s =
      if s = suffix then (r.item? suffix).map fun i => { i with needPush := false }
      else r.item? s :=
  item?_modifyItem r (f := fun i => { i with needPush := false }) (fun _ hi => hi) s

namespace Traffic

theorem mono {wider : String → Prop} (hwider : ∀ s, touched s → wider s)
    (h : Traffic touched r r') : Traffic wider r r' := by
  cases h with
  | set hsuffix h => exact .set (hwider _ hsuffix) h
  | note => exact .note r
  | told suffix => exact .told r suffix
  | report suffix v => exact .report r suffix v
  | tick now => exact .tick r now

theorem sameShape (h : Traffic touched r r') : SameShape r r' := by
  cases h with
  | set _ h => exact sameShape_setValue h
  | note => exact ⟨rfl, fun _ => rfl⟩
  | told suffix => exact sameShape_modifyItem r (fun _ _ => rfl) fun _ hi => hi
  | report suffix v => exact ⟨rfl, fun _ => rfl⟩
  | tick now => exact ⟨rfl, fun _ => rfl⟩

/-- Items that are not touched keep their values. -/
theorem value?_eq (h : Traffic touched r r') {s : String} (hs : ¬ touched s) :
    r'.value? s = r.value? s := by
  cases h with
  | set hsuffix h =>
    refine value?_setValue_of_ne h ?_
    rintro rfl
    exact hs hsuffix
  | note => rfl
  | told suffix =>
    rw [value?, item?_told]
    split_ifs with hsuffix
    · subst hsuffix
      rw [value?]
      cases r.item? s <;> rfl
    · rfl
  | report suffix v => rfl
  | tick now => rfl

theorem isFitted (h : Traffic touched r r') (hr : ∀ s item, r.item? s = some item → item.IsFitted) :
    ∀ s item, r'.item? s = some item → item.IsFitted := by
  intro s item hitem
  -- Only a set writes a value, and what it writes is fitted.
  cases h with
  | set _ h =>
    obtain ⟨old, new, hold, hset, hitems⟩ := item?_setValue h
    rw [hitems] at hitem
    split_ifs at hitem with hs
    · obtain rfl := Option.some.inj hitem
      exact (hr _ old hold).set hset
    · exact hr s item hitem
  | note => exact hr s item hitem
  | told suffix =>
    rw [item?_told] at hitem
    split_ifs at hitem with hs
    · obtain ⟨old, hold, rfl⟩ := Option.map_eq_some_iff.mp hitem
      exact hr suffix old hold
    · exact hr s item hitem
  | report suffix v => exact hr s item hitem
  | tick now => exact hr s item hitem

/-- Pending targets stay as they were queued, or go. -/
theorem sublist (h : Traffic touched r r') :
    (r'.pendingTargets.map Target.asQueued).Sublist (r.pendingTargets.map Target.asQueued) := by
  cases h with
  | set _ h =>
    rw [pendingTargets, changes_setValue h]
    exact List.Sublist.refl _
  | note => exact List.Sublist.refl _
  | told suffix => exact List.Sublist.refl _
  | report suffix v => exact pendingTargets_verifyReport r suffix v
  | tick now => exact pendingTargets_tickChanges r now

/-- Pending changes come from pending changes with as many targets, and are not finished unless
these were. -/
theorem exists_change (h : Traffic touched r r') {c : StateChange} (hc : c ∈ r'.changes) :
    ∃ old ∈ r.changes, c.targets.length = old.targets.length ∧
      (old.isFinished = false → c.isFinished = false) := by
  cases h with
  | set _ h => exact ⟨c, changes_setValue h ▸ hc, rfl, fun h => h⟩
  | note => exact ⟨c, hc, rfl, fun h => h⟩
  | told suffix => exact ⟨c, hc, rfl, fun h => h⟩
  | report suffix v =>
    obtain ⟨old, hold, htargets, hstate⟩ := exists_of_mem_verifyReport hc
    refine ⟨old, hold, ?_, ?_⟩
    · simpa using congrArg List.length htargets
    · intro hopen
      rw [isFinished, hstate]
      exact hopen
  | tick now =>
    obtain ⟨old, hold, htargets, hopen⟩ := exists_of_mem_tickChanges hc
    exact ⟨old, hold, congrArg List.length htargets, fun _ => hopen⟩

theorem mono_run {wider : String → Prop} (hwider : ∀ s, touched s → wider s)
    (h : ReflTransGen (Traffic touched) r r') : ReflTransGen (Traffic wider) r r' :=
  ReflTransGen.mono (fun _ _ hstep => hstep.mono hwider) _ _ h

theorem sameShape_run (h : ReflTransGen (Traffic touched) r r') : SameShape r r' := by
  induction h with
  | refl => exact .refl r
  | tail _ hstep ih => exact ih.trans hstep.sameShape

theorem value?_run (h : ReflTransGen (Traffic touched) r r') {s : String} (hs : ¬ touched s) :
    r'.value? s = r.value? s := by
  induction h with
  | refl => rfl
  | tail _ hstep ih => rw [hstep.value?_eq hs, ih]

theorem sublist_run (h : ReflTransGen (Traffic touched) r r') :
    (r'.pendingTargets.map Target.asQueued).Sublist (r.pendingTargets.map Target.asQueued) := by
  induction h with
  | refl => exact List.Sublist.refl _
  | tail _ hstep ih => exact hstep.sublist.trans ih

theorem id_run (h : ReflTransGen (Traffic touched) r r') : r'.id = r.id :=
  id_of_frame_eq (sameShape_run h).frame

end Traffic

end ZigbeeGateway.Resource
