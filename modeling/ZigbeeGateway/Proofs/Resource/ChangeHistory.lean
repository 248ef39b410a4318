import Mathlib.Data.List.Induction
import ZigbeeGateway.Proofs.Resource.Pending
import ZigbeeGateway.Proofs.Runs
import ZigbeeGateway.Write.Task

/-!
# The history of pending changes

Changes are queued, reports come in and time passes, in any order.  What a resource waits for is
then *current*: for each suffix at most one target is pending, it writes what the newest queued
change of the suffix writes, and the value it records as the one before the write comes from the
first change of the stretch in which the suffix has been waited for without a break.

`Coherent` is the invariant, `Coherent.queue`, `Coherent.report` and `Coherent.tick` are its steps,
and `coherent_after` is the run.
-/

namespace ZigbeeGateway

/-- A change as it is built: nothing has happened to it, and each suffix has one target at most. -/
structure StateChange.IsFresh (c : StateChange) : Prop where
  /-- It waits to be written. -/
  state : c.state = .waitSync
  /-- There is something to write. -/
  nonempty : c.targets ≠ []
  /-- Each suffix is written once. -/
  nodup : (c.targets.map (·.suffix)).Nodup

namespace StateChange

theorem nodup_addTarget {c : StateChange} (h : (c.targets.map (·.suffix)).Nodup) (t : Target) :
    ((c.addTarget t).targets.map (·.suffix)).Nodup := by
  unfold addTarget
  split_ifs with hhas
  · -- The target takes the place of the one with its suffix.
    rw [List.map_map]
    have hsame : (Target.suffix ∘ fun u => if u.suffix = t.suffix then t else u) =
        fun u => u.suffix := by
      funext u
      dsimp only [Function.comp_apply]
      split_ifs with hu
      · exact hu.symm
      · rfl
    show (c.targets.map (Target.suffix ∘ fun u => if u.suffix = t.suffix then t else u)).Nodup
    rw [hsame]
    exact h
  · -- The target comes last, and its suffix is free.
    have hfree : t.suffix ∉ c.targets.map (·.suffix) := by
      intro hmem
      obtain ⟨u, hu, hs⟩ := List.mem_map.mp hmem
      apply hhas
      rw [target?, List.find?_isSome]
      exact ⟨u, hu, by simpa using hs⟩
    rw [List.map_append, List.nodup_append]
    refine ⟨h, List.nodup_singleton _, ?_⟩
    rintro a ha b hb rfl
    rw [List.map_singleton, List.mem_singleton] at hb
    exact hfree (hb ▸ ha)

theorem targets_addTarget_ne_nil (c : StateChange) (t : Target) : (c.addTarget t).targets ≠ [] := by
  unfold addTarget
  split_ifs with hhas
  · intro hnil
    rw [List.map_eq_nil_iff] at hnil
    rw [target?, hnil] at hhas
    cases hhas
  · simp

/-- A new change with one target after another is fresh, whatever its timeouts are. -/
theorem isFresh_foldl_addTarget (c : StateChange) (hstate : c.state = .waitSync)
    (htargets : c.targets = []) {ts : List Target} (hts : ts ≠ []) :
    (ts.foldl addTarget c).IsFresh := by
  have hrun : ∀ (ts : List Target) (c : StateChange), c.state = .waitSync →
      (c.targets.map (·.suffix)).Nodup → (ts ≠ [] ∨ c.targets ≠ []) →
      (ts.foldl addTarget c).IsFresh := by
    intro ts
    induction ts with
    | nil =>
      intro c hstate hnodup hsome
      exact ⟨hstate, hsome.resolve_left (fun h => h rfl), hnodup⟩
    | cons t ts ih =>
      intro c hstate hnodup _
      rw [List.foldl_cons]
      refine ih _ ?_ (nodup_addTarget hnodup t) (.inr (targets_addTarget_ne_nil c t))
      unfold addTarget
      split_ifs <;> exact hstate
  exact hrun ts c hstate (by simp [htargets]) (.inl hts)

end StateChange

/-- What happens to the pending changes of a resource. -/
inductive ChangeEvent where
  /-- A change is queued. -/
  | queued (c : StateChange)
  /-- The device reports a value. -/
  | reported (suffix : String) (v : Value)
  /-- Time has passed. -/
  | ticked (now : Instant)

namespace ChangeEvent

/-- Changes are queued as they were built. -/
def IsProper : ChangeEvent → Prop
  | .queued c => c.IsFresh
  | _ => True

/-- The target that an event queues for a suffix. -/
def target? (s : String) : ChangeEvent → Option Target
  | .queued c => c.target? s
  | _ => none

/-- The newest target that was queued for a suffix. -/
def newest? (events : List ChangeEvent) (s : String) : Option Target :=
  events.reverse.findSome? (target? s)

theorem newest?_concat (events : List ChangeEvent) (e : ChangeEvent) (s : String) :
    newest? (events ++ [e]) s = (e.target? s).or (newest? events s) := by
  rw [newest?, List.reverse_append, List.reverse_singleton, List.singleton_append,
    List.findSome?_cons]
  cases e.target? s <;> rfl

end ChangeEvent

namespace Resource

open ChangeEvent

variable {r : Resource} {events : List ChangeEvent} {e : ChangeEvent}

/-- One step of the history of pending changes. -/
def follow (r : Resource) : ChangeEvent → Resource
  | .queued c => r.addChange c
  | .reported suffix v => (r.verifyReport suffix v).1
  | .ticked now => (r.tickChanges now).1

/-- A target is the newest one of its suffix, and the value before the write is the one recorded by
the change with which the waiting for the suffix began. -/
def IsCurrent (r : Resource) (events : List ChangeEvent) (t : Target) : Prop :=
  (∃ newest, newest? events t.suffix = some newest ∧ t.value = newest.value ∧
    t.params = newest.params) ∧
  Since follow (fun q => (q.pendingChange? t.suffix).isSome = true)
    (fun _ e => ∃ first, e.target? t.suffix = some first ∧ t.previous = first.previous) r events

/-- What holds of the pending changes of a resource at every point of its history. -/
structure Coherent (r : Resource) (events : List ChangeEvent) : Prop where
  /-- No suffix is waited for twice. -/
  distinct : (events.foldl follow r).HasDistinctTargets
  /-- Every target is current. -/
  current : ∀ t ∈ (events.foldl follow r).pendingTargets, r.IsCurrent events t
  /-- No change is in a final state or without targets. -/
  unfinished : ∀ c ∈ (events.foldl follow r).changes, c.isFinished = false ∧ c.targets ≠ []

/-- A target that was current stays so if the event queues none for its suffix. -/
theorem IsCurrent.extend {t u : Target} (h : r.IsCurrent events t) (hs : t.suffix = u.suffix)
    (hvalue : t.value = u.value) (hprevious : t.previous = u.previous)
    (hparams : t.params = u.params)
    (hnone : e.target? u.suffix = none) (hu : u ∈ ((events ++ [e]).foldl follow r).pendingTargets) :
    r.IsCurrent (events ++ [e]) u := by
  obtain ⟨⟨newest, hnewest, hv, hp⟩, hsince⟩ := h
  rw [hs] at hnewest hsince
  refine ⟨⟨newest, ?_, hvalue ▸ hv, hparams ▸ hp⟩, ?_⟩
  · rw [newest?_concat, hnone, Option.none_or, hnewest]
  · rw [hprevious] at hsince
    exact hsince.extend (isSome_pendingChange?_iff.mpr ⟨u, hu, rfl⟩)

/-- What only verifies targets and drops changes keeps the pending targets current. -/
theorem Coherent.current_of_sublist (h : r.Coherent events) (hnone : ∀ s, e.target? s = none)
    (hsub : (((events ++ [e]).foldl follow r).pendingTargets.map Target.asQueued).Sublist
      ((events.foldl follow r).pendingTargets.map Target.asQueued)) :
    ∀ t ∈ ((events ++ [e]).foldl follow r).pendingTargets, r.IsCurrent (events ++ [e]) t := by
  intro t ht
  obtain ⟨u, hu, hs, hvalue, hprevious, hparams⟩ := exists_mem_of_sublist hsub ht
  exact (h.current u hu).extend hs hvalue hprevious hparams (hnone _) ht

/-- A report keeps the history coherent. -/
theorem Coherent.report (h : r.Coherent events) (s : String) (v : Value) :
    r.Coherent (events ++ [ChangeEvent.reported s v]) := by
  have hstep : (events ++ [ChangeEvent.reported s v]).foldl follow r =
      ((events.foldl follow r).verifyReport s v).1 := by
    rw [List.foldl_concat]
    rfl
  -- A report only takes targets away.
  have hsub := pendingTargets_verifyReport (events.foldl follow r) s v
  rw [← hstep] at hsub
  refine ⟨h.distinct.of_sublist hsub, h.current_of_sublist (fun _ => rfl) hsub, ?_⟩
  rw [hstep]
  intro c hc
  obtain ⟨old, hold, htargets, hstate⟩ := exists_of_mem_verifyReport hc
  obtain ⟨hopen, hsome⟩ := h.unfinished old hold
  constructor
  · rw [StateChange.isFinished, hstate]
    exact hopen
  · intro hnil
    rw [hnil, List.map_nil] at htargets
    exact hsome (List.map_eq_nil_iff.mp htargets.symm)

/-- A tick keeps the history coherent. -/
theorem Coherent.tick (h : r.Coherent events) (now : Instant) :
    r.Coherent (events ++ [ChangeEvent.ticked now]) := by
  have hstep : (events ++ [ChangeEvent.ticked now]).foldl follow r =
      ((events.foldl follow r).tickChanges now).1 := by
    rw [List.foldl_concat]
    rfl
  have hsub := pendingTargets_tickChanges (events.foldl follow r) now
  rw [← hstep] at hsub
  refine ⟨h.distinct.of_sublist hsub, h.current_of_sublist (fun _ => rfl) hsub, ?_⟩
  rw [hstep]
  intro c hc
  obtain ⟨old, hold, htargets, hopen⟩ := exists_of_mem_tickChanges hc
  exact ⟨hopen, htargets ▸ (h.unfinished old hold).2⟩

/-- A target of a queued change is current: either it goes on with the stretch of the one that it
supersedes, or it begins a stretch of its own. -/
theorem Coherent.current_adopt (h : r.Coherent events) {c : StateChange} (hc : c.IsFresh)
    {u : Target} (hu : u ∈ c.targets)
    (hpending : (((events ++ [ChangeEvent.queued c]).foldl follow r).pendingChange?
      u.suffix).isSome = true) :
    r.IsCurrent (events ++ [ChangeEvent.queued c])
      (u.adopt (events.foldl follow r).pendingTargets) := by
  have hself : c.target? u.suffix = some u := find?_key_of_mem Target.suffix hc.nodup hu
  rw [IsCurrent, Target.adopt_suffix, Target.adopt_value, Target.adopt_params]
  refine ⟨⟨u, ?_, rfl, rfl⟩, ?_⟩
  · rw [newest?_concat, ChangeEvent.target?, hself, Option.some_or]
  · rw [Target.adopt]
    cases hfound : (events.foldl follow r).pendingTargets.find? (·.suffix = u.suffix) with
    | some w =>
      -- The stretch of the superseded target goes on.
      have hw : w.suffix = u.suffix := by simpa using List.find?_some hfound
      have hsince := (h.current w (List.mem_of_find?_eq_some hfound)).2
      rw [hw] at hsince
      exact hsince.extend hpending
    | none =>
      -- Nothing was waited for, so this event begins the stretch.
      have hidle : ¬ ((events.foldl follow r).pendingChange? u.suffix).isSome = true := by
        rw [isSome_pendingChange?_iff]
        rintro ⟨w, hw, hs⟩
        exact List.find?_eq_none.mp hfound w hw (by simpa using hs)
      exact Since.start hidle ⟨u, hself, rfl⟩ hpending

/-- **Queueing a change keeps the history coherent.** -/
theorem Coherent.queue (h : r.Coherent events) {c : StateChange} (hc : c.IsFresh) :
    r.Coherent (events ++ [ChangeEvent.queued c]) := by
  have hstep : (events ++ [ChangeEvent.queued c]).foldl follow r =
      (events.foldl follow r).addChange c := by
    rw [List.foldl_concat]
    rfl
  -- What is pending then is what the new change does not write, and the targets of the new change.
  have htargets := pendingTargets_addChange h.distinct hc.nodup
  rw [← hstep] at htargets
  refine ⟨?_, ?_, ?_⟩
  · rw [hstep]
    exact h.distinct.addChange hc.nodup
  · intro t ht
    rw [htargets] at ht
    rcases List.mem_append.mp ht with hold | hnew
    · -- A target that is left is of a suffix that the new change does not write.
      obtain ⟨hold, hfree⟩ := List.mem_filter.mp hold
      have hnone : (ChangeEvent.queued c).target? t.suffix = none := by
        rw [ChangeEvent.target?, StateChange.target?, List.find?_eq_none]
        intro u hu hs
        simp only [List.mem_map, not_exists, not_and, decide_eq_true_eq] at hfree hs
        exact hfree u hu hs
      refine (h.current t hold).extend rfl rfl rfl rfl hnone ?_
      rw [htargets]
      exact ht
    · -- A new target adopts the origin of the one it supersedes.
      obtain ⟨u, hu, rfl⟩ := List.mem_map.mp hnew
      rw [← htargets] at ht
      exact h.current_adopt hc hu
        (isSome_pendingChange?_iff.mpr ⟨_, ht, Target.adopt_suffix _ _⟩)
  · rw [hstep]
    intro d hd
    unfold StateChange.isFinished
    -- A change that lost all its targets is dropped, so every one that is left has some.
    rcases exists_of_mem_addChange h.distinct hc.nodup hd with
      ⟨old, hold, -, hnonempty, hstate⟩ | ⟨hadopted, hstate⟩
    · exact ⟨hstate ▸ (h.unfinished old hold).1, hnonempty⟩
    · rw [hstate, hc.state, hadopted]
      exact ⟨rfl, fun hnil => hc.nonempty (List.map_eq_nil_iff.mp hnil)⟩

/-- **Every history is coherent**, from a resource without pending changes on. -/
theorem coherent_after (hr : r.changes = []) (hproper : ∀ e ∈ events, e.IsProper) :
    r.Coherent events := by
  induction events using List.reverseRecOn with
  | nil =>
    have hnone : r.pendingTargets = [] := by rw [pendingTargets, hr, StateChange.targetsOf_nil]
    refine ⟨?_, ?_, ?_⟩
    · simp [HasDistinctTargets, hnone]
    · simp [hnone]
    · simp [hr]
  | append_singleton events e ih =>
    have h := ih fun e he => hproper e (List.mem_append_left _ he)
    have he := hproper e (by simp)
    cases e with
    | queued c => exact h.queue he
    | reported s v => exact h.report s v
    | ticked now => exact h.tick now

/-- **Only the newest writes are waited for, written and read back.**  After any history of a
resource no suffix has two pending targets; every pending target is current; no pending change is
finished or empty; and whatever a tick gives out, and every request made of it, consists of current
targets. -/
theorem pending_targets_are_newest (r : Resource) (events : List ChangeEvent) (hr : r.changes = [])
    (hproper : ∀ e ∈ events, e.IsProper) :
    ((events.foldl follow r).pendingTargets.map (·.suffix)).Nodup ∧
    (∀ t ∈ (events.foldl follow r).pendingTargets, r.IsCurrent events t) ∧
    (∀ c ∈ (events.foldl follow r).changes, c.isFinished = false ∧ c.targets ≠ []) ∧
    ∀ now action c, (action, c) ∈ ((events.foldl follow r).tickChanges now).2 →
      (∀ t ∈ c.targets, r.IsCurrent events t) ∧
      ∀ address, ∀ item ∈ (TaskRequest.ofChange address action c).items,
        ∃ newest, newest? events item.suffix = some newest ∧ item.value = newest.value ∧
          item.params = newest.params := by
  have h := coherent_after hr hproper
  refine ⟨h.distinct, h.current, h.unfinished, ?_⟩
  intro now action c hc
  have hcurrent : ∀ t ∈ c.targets, r.IsCurrent events t := fun t ht =>
    h.current t (mem_pendingTargets_of_tickChanges hc ht)
  refine ⟨hcurrent, ?_⟩
  intro address item hitem
  obtain ⟨t, ht, rfl⟩ := List.mem_map.mp hitem
  exact (hcurrent t ht).1

/-- Two writes of an offset, the second before the first is confirmed: the target writes 70, and the
value before the write is still that of the first one. -/
theorem isCurrent_second_write :
    let r : Resource :=
      { id := ⟨1⟩, kind := .sensors, typeName := "ZHATemperature", uniqueId := .empty }
    let write (v previous : Int64) : StateChange :=
      (StateChange.new r.id .tuya 1 .start2024).addTarget
        { suffix := Suffix.offset, value := .int v, previous := some (.int previous) }
    r.IsCurrent [.queued (write 50 0), .ticked .start2024, .queued (write 70 50)]
      { suffix := Suffix.offset, value := .int 70, previous := some (.int 0) } := by
  intro r write
  have hfresh : ∀ v previous, (write v previous).IsFresh := by
    intro v previous
    show (List.foldl StateChange.addTarget (StateChange.new r.id .tuya 1 .start2024) [_]).IsFresh
    exact StateChange.isFresh_foldl_addTarget _ rfl rfl (List.cons_ne_nil _ _)
  refine (pending_targets_are_newest r _ rfl ?_).2.1 _ ?_
  · intro e he
    simp only [List.mem_cons, List.not_mem_nil, or_false] at he
    rcases he with rfl | rfl | rfl
    · exact hfresh 50 0
    · trivial
    · exact hfresh 70 50
  · decide

end Resource

end ZigbeeGateway
