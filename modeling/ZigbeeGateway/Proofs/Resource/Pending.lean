import Mathlib.Data.List.Flatten
import Mathlib.Data.List.Nodup
import ZigbeeGateway.Proofs.Resource.Items

/-!
# Pending targets

The targets of all pending changes of a resource together are what the resource waits for.  Queueing
a change takes its suffixes away from the older targets and hands their previous values on
(`Resource.pendingTargets_addChange`); reports and ticks only mark targets as verified and drop
whole changes (`Resource.pendingTargets_verifyReport`, `Resource.pendingTargets_tickChanges`).
-/

namespace ZigbeeGateway

/-! ### Targets of changes -/

/-- A target as it was queued, whether it was verified since or not. -/
def Target.asQueued (t : Target) : Target :=
  { t with verified := false }

/-- The target with the previous value of the older target that it supersedes, if there is one. -/
def Target.adopt (older : List Target) (t : Target) : Target :=
  match older.find? (·.suffix = t.suffix) with
  | some u => { t with previous := u.previous }
  | none => t

@[simp] theorem Target.adopt_suffix (older : List Target) (t : Target) :
    (t.adopt older).suffix = t.suffix := by
  unfold adopt
  split <;> rfl

@[simp] theorem Target.adopt_value (older : List Target) (t : Target) :
    (t.adopt older).value = t.value := by
  unfold adopt
  split <;> rfl

@[simp] theorem Target.adopt_params (older : List Target) (t : Target) :
    (t.adopt older).params = t.params := by
  unfold adopt
  split <;> rfl

@[simp] theorem Target.adopt_verified (older : List Target) (t : Target) :
    (t.adopt older).verified = t.verified := by
  unfold adopt
  split <;> rfl

/-- The previous value of a target is its own or comes from an older target of its suffix. -/
theorem Target.adopt_previous (older : List Target) (t : Target) :
    (t.adopt older).previous = t.previous ∨
      ∃ u ∈ older, u.suffix = t.suffix ∧ (t.adopt older).previous = u.previous := by
  unfold adopt
  split
  · rename_i u hu
    exact .inr ⟨u, List.mem_of_find?_eq_some hu, by simpa using List.find?_some hu, rfl⟩
  · exact .inl rfl

/-- Targets that are equal as queued agree in all but their verification. -/
theorem Target.eq_of_asQueued_eq {t u : Target} (h : t.asQueued = u.asQueued) :
    t.suffix = u.suffix ∧ t.value = u.value ∧ t.previous = u.previous ∧ t.params = u.params := by
  cases t
  cases u
  simpa [asQueued] using h

namespace StateChange

variable {older : List StateChange} {new : StateChange} {s : String}

/-- The targets of changes, in order. -/
def targetsOf (cs : List StateChange) : List Target :=
  cs.flatMap (·.targets)

@[simp] theorem targetsOf_nil : targetsOf [] = [] := rfl

@[simp] theorem targetsOf_cons (c : StateChange) (cs : List StateChange) :
    targetsOf (c :: cs) = c.targets ++ targetsOf cs := rfl

@[simp] theorem targetsOf_append (cs ds : List StateChange) :
    targetsOf (cs ++ ds) = targetsOf cs ++ targetsOf ds :=
  List.flatMap_append

/-- Changes without targets do not count. -/
theorem targetsOf_filter_targets (cs : List StateChange) :
    targetsOf (cs.filter (!·.targets.isEmpty)) = targetsOf cs := by
  induction cs with
  | nil => rfl
  | cons c cs ih =>
    rw [List.filter_cons]
    split_ifs with hc
    · rw [targetsOf_cons, targetsOf_cons, ih]
    · have hnil : c.targets = [] := by simpa using hc
      rw [targetsOf_cons, ih, hnil, List.nil_append]

/-- The targets after a filter on the targets of each change. -/
theorem targetsOf_map_filter (cs : List StateChange) (p : Target → Bool) :
    targetsOf (cs.map fun c => { c with targets := c.targets.filter p }) =
      (targetsOf cs).filter p := by
  induction cs with
  | nil => rfl
  | cons c cs ih => rw [List.map_cons, targetsOf_cons, ih, targetsOf_cons, List.filter_append]

/-! ### Superseding -/

/-- Without a target of the suffix nothing is inherited. -/
theorem supersede_snd_of_not_mem (new : StateChange) (h : s ∉ (targetsOf older).map (·.suffix)) :
    (Resource.supersede older new s).2 = new := by
  induction older with
  | nil => rfl
  | cons c older ih =>
    rw [targetsOf_cons, List.map_append, List.mem_append, not_or] at h
    have hnone : c.target? s = none := by
      rw [target?, List.find?_eq_none]
      intro t ht hs
      exact h.1 (List.mem_map.mpr ⟨t, ht, by simpa using hs⟩)
    rw [Resource.supersede, List.foldl_cons, hnone]
    exact ih h.2

/-- The new change inherits the previous value from the one older target of the suffix. -/
theorem supersede_snd (new : StateChange) (hnodup : ((targetsOf older).map (·.suffix)).Nodup) :
    (Resource.supersede older new s).2 =
      match (targetsOf older).find? (·.suffix = s) with
      | some u => new.inheritPrevious s u.previous
      | none => new := by
  induction older with
  | nil => rfl
  | cons c older ih =>
    rw [targetsOf_cons, List.map_append, List.nodup_append] at hnodup
    obtain ⟨-, holder, hdisjoint⟩ := hnodup
    rw [targetsOf_cons, List.find?_append]
    rw [Resource.supersede, List.foldl_cons]
    cases hc : c.target? s with
    | none =>
      rw [target?] at hc
      rw [hc, Option.none_or]
      exact ih holder
    | some u =>
      have hu : u.suffix = s := by simpa using List.find?_some hc
      -- The suffixes are distinct, so the later changes have no target of this one.
      have hfree : s ∉ (targetsOf older).map (·.suffix) := by
        intro hs
        exact hdisjoint s (List.mem_map.mpr ⟨u, List.mem_of_find?_eq_some hc, hu⟩) s hs rfl
      rw [target?] at hc
      rw [hc, Option.some_or]
      exact supersede_snd_of_not_mem _ hfree

/-- Recording the previous value of the one older target is adopting it. -/
theorem supersede_snd_targets (new : StateChange)
    (hnodup : ((targetsOf older).map (·.suffix)).Nodup) :
    (Resource.supersede older new s).2 =
      { new with targets := new.targets.map fun t =>
          if t.suffix = s then t.adopt (targetsOf older) else t } := by
  rw [supersede_snd new hnodup]
  -- There is nothing to inherit unless an older change has a target of the suffix.
  cases hu : (targetsOf older).find? (·.suffix = s) with
  | none =>
    have hid : (fun t : Target => if t.suffix = s then t.adopt (targetsOf older) else t) = id := by
      funext t
      split_ifs with ht
      · rw [Target.adopt, ht, hu, id]
      · rfl
    rw [hid, List.map_id]
  | some u =>
    dsimp only
    rw [inheritPrevious]
    congr 1
    apply List.map_congr_left
    intro t _
    split_ifs with ht
    · rw [Target.adopt, ht, hu]
    · rfl

theorem targetsOf_supersede (older : List StateChange) (new : StateChange) (s : String) :
    targetsOf (Resource.supersede older new s).1 = (targetsOf older).filter (·.suffix ≠ s) := by
  have holder : (Resource.supersede older new s).1 =
      older.map fun c => { c with targets := c.targets.filter (·.suffix ≠ s) } := rfl
  rw [holder]
  exact targetsOf_map_filter older fun t => decide (t.suffix ≠ s)

/-- Superseding one suffix does not change what targets of other suffixes adopt. -/
theorem adopt_supersede (new : StateChange) {t : Target} (ht : t.suffix ≠ s) :
    t.adopt (targetsOf (Resource.supersede older new s).1) = t.adopt (targetsOf older) := by
  have hboth : (fun u : Target =>
        decide (decide (u.suffix ≠ s) = true ∧ decide (u.suffix = t.suffix) = true)) =
      fun u => decide (u.suffix = t.suffix) := by
    funext u
    by_cases hu : u.suffix = t.suffix
    · simp [hu, ht]
    · simp [hu]
  rw [Target.adopt, Target.adopt, targetsOf_supersede, List.find?_filter, hboth]

/-- **Superseding several suffixes**: they are taken away from every older change, and the targets
of the new change with these suffixes adopt what they replace. -/
theorem supersede_all {suffixes : List String} (hsuffixes : suffixes.Nodup)
    (hnodup : ((targetsOf older).map (·.suffix)).Nodup) :
    suffixes.foldl (fun (older, new) s => Resource.supersede older new s) (older, new) =
      (older.map fun c => { c with targets := c.targets.filter fun t => t.suffix ∉ suffixes },
        { new with targets := new.targets.map fun t =>
            if t.suffix ∈ suffixes then t.adopt (targetsOf older) else t }) := by
  -- One suffix after another, over the older changes and the new one at once: superseding the
  -- first leaves the others to be superseded.
  induction suffixes generalizing older new with
  | nil => simp
  | cons s suffixes ih =>
    rw [List.nodup_cons] at hsuffixes
    -- Superseding only removes targets, so their suffixes stay distinct.
    have hnodup' : ((targetsOf (Resource.supersede older new s).1).map (·.suffix)).Nodup := by
      rw [targetsOf_supersede]
      exact hnodup.sublist (List.filter_sublist.map _)
    rw [List.foldl_cons]
    show suffixes.foldl _ ((Resource.supersede older new s).1,
      (Resource.supersede older new s).2) = _
    rw [ih hsuffixes.2 hnodup', supersede_snd_targets new hnodup]
    refine Prod.ext ?_ ?_
    · -- The older changes lose the first suffix and then the others.
      show (older.map fun c => { c with targets := c.targets.filter (·.suffix ≠ s) }).map _ = _
      rw [List.map_map]
      apply List.map_congr_left
      intro c _
      dsimp only [Function.comp_apply]
      rw [List.filter_filter]
      congr 1
      apply List.filter_congr
      intro t _
      by_cases ht : t.suffix = s <;> simp [ht]
    · -- A target of the new change has one suffix, so it adopts once.
      dsimp only
      rw [List.map_map]
      congr 1
      apply List.map_congr_left
      intro t _
      by_cases ht : t.suffix = s
      · simp [ht, hsuffixes.1]
      · by_cases hmem : t.suffix ∈ suffixes
        · simp [ht, hmem, adopt_supersede new ht]
        · simp [ht, hmem]

/-! ### Verification and ticks -/

theorem verify_asQueued (c : StateChange) (s : String) (v : Value) :
    (c.verify s v).targets.map Target.asQueued = c.targets.map Target.asQueued := by
  unfold verify
  split_ifs
  · rw [List.map_map]
    apply List.map_congr_left
    intro t _
    dsimp only [Function.comp_apply]
    split_ifs <;> rfl
  · rfl

theorem verify_state (c : StateChange) (s : String) (v : Value) :
    (c.verify s v).state = c.state ∨ (c.verify s v).state = .confirmed := by
  unfold verify
  split_ifs
  · dsimp only
    split_ifs
    · exact .inr rfl
    · exact .inl rfl
  · exact .inl rfl

theorem tick_targets (c : StateChange) (now : Instant) : (c.tick now).1.targets = c.targets := by
  unfold tick
  split_ifs <;> rfl

end StateChange

/-! ### Pending changes of a resource -/

namespace Resource

open StateChange

variable {r : Resource} {new : StateChange} {s : String}

/-- The targets that wait for the hardware. -/
def pendingTargets (r : Resource) : List Target :=
  targetsOf r.changes

/-- No suffix is waited for twice. -/
def HasDistinctTargets (r : Resource) : Prop :=
  (r.pendingTargets.map (·.suffix)).Nodup

/-- A change is pending for a suffix exactly if a target is. -/
theorem isSome_pendingChange?_iff :
    (r.pendingChange? s).isSome = true ↔ ∃ t ∈ r.pendingTargets, t.suffix = s := by
  rw [pendingChange?, List.find?_isSome]
  simp only [target?, List.find?_isSome, pendingTargets, targetsOf, List.mem_flatMap,
    decide_eq_true_eq]
  constructor
  · rintro ⟨c, hc, t, ht, hs⟩
    exact ⟨t, ⟨c, hc, ht⟩, hs⟩
  · rintro ⟨t, ⟨c, hc, ht⟩, hs⟩
    exact ⟨c, hc, t, ht, hs⟩

/-- With distinct suffixes a pending target is the one of its suffix. -/
theorem HasDistinctTargets.eq_of_suffix_eq (hr : r.HasDistinctTargets) {t u : Target}
    (ht : t ∈ r.pendingTargets) (hu : u ∈ r.pendingTargets) (h : t.suffix = u.suffix) : t = u :=
  List.inj_on_of_nodup_map hr ht hu h

/-- Queueing a change leaves all but the changes alone. -/
theorem addChange_eq (r : Resource) (new : StateChange) :
    r.addChange new = { r with changes := (r.addChange new).changes } := by
  unfold addChange
  split
  rfl

theorem item?_addChange (r : Resource) (new : StateChange) (s : String) :
    (r.addChange new).item? s = r.item? s := by
  rw [addChange_eq]
  rfl

theorem sameShape_addChange (r : Resource) (new : StateChange) : SameShape r (r.addChange new) := by
  rw [addChange_eq]
  exact ⟨rfl, fun _ => rfl⟩

/-- The changes after one was queued. -/
theorem changes_addChange (hr : r.HasDistinctTargets) (hnew : (new.targets.map (·.suffix)).Nodup) :
    (r.addChange new).changes =
      ((r.changes.map fun c =>
        { c with
          targets := c.targets.filter fun t => t.suffix ∉ new.targets.map (·.suffix) }).filter
          (!·.targets.isEmpty)) ++
        [{ new with targets := new.targets.map fun t => t.adopt r.pendingTargets }] := by
  unfold addChange
  rw [supersede_all hnew hr]
  dsimp only
  congr 3
  apply List.map_congr_left
  intro t ht
  rw [if_pos (List.mem_map_of_mem ht)]
  rfl

/-- A pending change after one was queued is what is left of an older one, or the new one. -/
theorem exists_of_mem_addChange (hr : r.HasDistinctTargets)
    (hnew : (new.targets.map (·.suffix)).Nodup) {c : StateChange}
    (hc : c ∈ (r.addChange new).changes) :
    (∃ old ∈ r.changes, c.targets.Sublist old.targets ∧ c.targets ≠ [] ∧ c.state = old.state) ∨
      (c.targets = new.targets.map (·.adopt r.pendingTargets) ∧ c.state = new.state) := by
  rw [changes_addChange hr hnew] at hc
  rcases List.mem_append.mp hc with hleft | hlast
  · obtain ⟨hold, hnonempty⟩ := List.mem_filter.mp hleft
    obtain ⟨old, hmem, rfl⟩ := List.mem_map.mp hold
    exact .inl ⟨old, hmem, List.filter_sublist, by simpa using hnonempty, rfl⟩
  · obtain rfl := List.mem_singleton.mp hlast
    exact .inr ⟨rfl, rfl⟩

/-- **Queueing a change**: the older targets lose its suffixes, and its own targets come last, each
with the previous value of the one it supersedes. -/
theorem pendingTargets_addChange (hr : r.HasDistinctTargets)
    (hnew : (new.targets.map (·.suffix)).Nodup) :
    (r.addChange new).pendingTargets =
      (r.pendingTargets.filter fun t => t.suffix ∉ new.targets.map (·.suffix)) ++
        new.targets.map fun t => t.adopt r.pendingTargets := by
  rw [pendingTargets, changes_addChange hr hnew, targetsOf_append, targetsOf_filter_targets,
    targetsOf_map_filter r.changes fun t => decide (t.suffix ∉ new.targets.map (·.suffix))]
  rw [targetsOf_cons, targetsOf_nil, List.append_nil]
  rfl

theorem HasDistinctTargets.addChange (hr : r.HasDistinctTargets)
    (hnew : (new.targets.map (·.suffix)).Nodup) : (r.addChange new).HasDistinctTargets := by
  rw [HasDistinctTargets, pendingTargets_addChange hr hnew, List.map_append, List.map_map]
  have hadopted : (Target.suffix ∘ fun t : Target => t.adopt r.pendingTargets) =
      fun t => t.suffix := by
    funext t
    exact Target.adopt_suffix _ t
  show (_ ++ new.targets.map (Target.suffix ∘ fun t : Target => t.adopt r.pendingTargets)).Nodup
  rw [hadopted, List.nodup_append]
  refine ⟨hr.sublist (List.filter_sublist.map _), hnew, ?_⟩
  -- What is left of the older targets has suffixes that the new change does not write.
  rintro a ha b hb rfl
  obtain ⟨t, ht, rfl⟩ := List.mem_map.mp ha
  have hfree := (List.mem_filter.mp ht).2
  exact absurd hb (by simpa using hfree)

theorem pendingTargets_sublist_of_map {r' : Resource} {f : StateChange → StateChange}
    {p : StateChange → Bool} (hf : ∀ c ∈ r.changes,
      (f c).targets.map Target.asQueued = c.targets.map Target.asQueued)
    (hr' : r'.changes = (r.changes.map f).filter p) :
    (r'.pendingTargets.map Target.asQueued).Sublist (r.pendingTargets.map Target.asQueued) := by
  have hmap : ((r.changes.map f).flatMap (·.targets)).map Target.asQueued =
      (r.changes.flatMap (·.targets)).map Target.asQueued := by
    rw [List.map_flatMap, List.map_flatMap, List.flatMap_map]
    exact List.flatMap_congr hf
  rw [pendingTargets, pendingTargets, targetsOf, targetsOf, ← hmap, hr']
  exact (List.filter_sublist.flatMap _).map _

/-- **Reports** verify targets and drop confirmed changes. -/
theorem pendingTargets_verifyReport (r : Resource) (s : String) (v : Value) :
    ((r.verifyReport s v).1.pendingTargets.map Target.asQueued).Sublist
      (r.pendingTargets.map Target.asQueued) :=
  pendingTargets_sublist_of_map (fun c _ => verify_asQueued c s v) rfl

/-- **Ticks** drop finished changes. -/
theorem pendingTargets_tickChanges (r : Resource) (now : Instant) :
    ((r.tickChanges now).1.pendingTargets.map Target.asQueued).Sublist
      (r.pendingTargets.map Target.asQueued) := by
  apply pendingTargets_sublist_of_map (f := fun c => (c.tick now).1)
    (p := fun c => !c.isFinished)
  · intro c _
    rw [tick_targets]
  · rw [tickChanges, List.map_map]
    rfl

/-- What is left by a report was pending before, with its targets as queued and in its state. -/
theorem exists_of_mem_verifyReport {v : Value} {c : StateChange}
    (hc : c ∈ (r.verifyReport s v).1.changes) :
    ∃ old ∈ r.changes, c.targets.map Target.asQueued = old.targets.map Target.asQueued ∧
      c.state = old.state := by
  obtain ⟨hc, hunconfirmed⟩ := List.mem_filter.mp hc
  obtain ⟨old, hold, rfl⟩ := List.mem_map.mp hc
  refine ⟨old, hold, verify_asQueued old s v, ?_⟩
  rcases old.verify_state s v with hstate | hstate
  · exact hstate
  · -- A confirmed change would have been dropped.
    simp [isConfirmed, hstate] at hunconfirmed

/-- What is left by a tick was pending before, with its targets, and is not finished. -/
theorem exists_of_mem_tickChanges {now : Instant} {c : StateChange}
    (hc : c ∈ (r.tickChanges now).1.changes) :
    ∃ old ∈ r.changes, c.targets = old.targets ∧ c.isFinished = false := by
  obtain ⟨hc, hunfinished⟩ := List.mem_filter.mp hc
  rw [List.map_map] at hc
  obtain ⟨old, hold, rfl⟩ := List.mem_map.mp hc
  exact ⟨old, hold, tick_targets old now, by simpa using hunfinished⟩

/-- The targets of the changes that a tick gives out are pending. -/
theorem mem_pendingTargets_of_tickChanges {now : Instant} {action : ChangeAction} {c : StateChange}
    (h : (action, c) ∈ (r.tickChanges now).2) {t : Target} (ht : t ∈ c.targets) :
    t ∈ r.pendingTargets := by
  rw [tickChanges] at h
  obtain ⟨⟨ticked, due⟩, hticked, hdue⟩ := List.mem_filterMap.mp h
  obtain ⟨old, hold, heq⟩ := List.mem_map.mp hticked
  obtain ⟨action', -, heq'⟩ := Option.map_eq_some_iff.mp hdue
  cases heq'
  have htargets : c.targets = old.targets := by
    rw [← tick_targets old now, heq]
  exact List.mem_flatMap.mpr ⟨old, hold, htargets ▸ ht⟩

theorem HasDistinctTargets.of_sublist {r' : Resource} (hr : r.HasDistinctTargets)
    (h : (r'.pendingTargets.map Target.asQueued).Sublist (r.pendingTargets.map Target.asQueued)) :
    r'.HasDistinctTargets := by
  have hsuffixes := (h.map (·.suffix))
  rw [List.map_map, List.map_map] at hsuffixes
  exact hr.sublist hsuffixes

/-- A part of the pending targets, as they were queued, consists of pending targets. -/
theorem exists_mem_of_sublist {r' : Resource}
    (h : (r'.pendingTargets.map Target.asQueued).Sublist (r.pendingTargets.map Target.asQueued))
    {t : Target} (ht : t ∈ r'.pendingTargets) :
    ∃ u ∈ r.pendingTargets, u.suffix = t.suffix ∧ u.value = t.value ∧ u.previous = t.previous ∧
      u.params = t.params := by
  obtain ⟨u, hu, heq⟩ := List.mem_map.mp (h.subset (List.mem_map_of_mem ht))
  exact ⟨u, hu, Target.eq_of_asQueued_eq heq⟩

end Resource

end ZigbeeGateway
