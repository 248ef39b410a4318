import ZigbeeGateway.Proofs.Resource.ChangeHistory
import ZigbeeGateway.Proofs.Resource.Hearing

/-!
# Changes with nothing left to hear

A pending change waits for the reports of its unverified targets, and the last of them confirms it.
Queueing another change takes targets away as well, and completion is not looked at again then: if
all unverified targets of an old change are superseded and a verified one is left, the old change is
*stranded*.  It stays pending with nothing left to wait for, until a tick gives it up or a value
that was reported already is reported once more.

Reports and ticks strand nothing (`IsWaiting.report`, `IsWaiting.tick`), and queueing does so
exactly if it leaves verified targets only (`isWaiting_addChange_iff`); so every pending change of a
history waits for something exactly if no queued change stranded one (`waiting_unless_stranded`).
-/

namespace ZigbeeGateway

/-- Whether there is a target whose value has not been reported. -/
def StateChange.IsWaiting (c : StateChange) : Prop :=
  ∃ t ∈ c.targets, t.verified = false

/-- Changes are queued as they were built, with nothing verified. -/
def ChangeEvent.IsUnheard (e : ChangeEvent) : Prop :=
  e.IsProper ∧ ∀ c, e = .queued c → ∀ t ∈ c.targets, t.verified = false

namespace Resource

open StateChange

variable {r : Resource} {new : StateChange} {events : List ChangeEvent}

/-- Every pending change waits for a report. -/
def IsWaiting (r : Resource) : Prop :=
  ∀ c ∈ r.changes, c.IsWaiting

/-- Queueing the change would leave some pending change with targets, all of them verified. -/
def Strands (r : Resource) (new : StateChange) : Prop :=
  ∃ c ∈ r.changes, (∃ t ∈ c.targets, t.suffix ∉ new.targets.map (·.suffix)) ∧
    ∀ t ∈ c.targets, t.suffix ∉ new.targets.map (·.suffix) → t.verified = true

theorem Coherent.orderly (h : r.Coherent events) : (events.foldl follow r).Orderly :=
  ⟨h.distinct, fun c hc => (h.unfinished c hc).1⟩

/-- **Reports strand nothing**: a change whose last unverified target is reported is confirmed. -/
theorem IsWaiting.report (hr : r.Orderly) (hwait : r.IsWaiting) (s : String) (v : Value) :
    (r.verifyReport s v).1.IsWaiting := by
  intro c hc
  obtain ⟨hc, hunconfirmed⟩ := List.mem_filter.mp hc
  obtain ⟨old, hold, rfl⟩ := List.mem_map.mp hc
  have hears := hears_verify (hr.unfinished old hold) (hr.nodup hold) s v
  by_cases hheard : ∃ t ∈ old.targets, t.isConfirmedBy s v = true
  · -- The change heard the report and is not confirmed, so some other target is unverified.
    have hopen : ¬ ∀ t ∈ old.targets, t.verified = true ∨ t.isConfirmedBy s v = true := by
      intro hall
      rw [hears.isConfirmed.mpr ⟨hheard, hall⟩] at hunconfirmed
      cases hunconfirmed
    simp only [not_forall, not_or, Bool.not_eq_true] at hopen
    obtain ⟨t, ht, hverified, hother⟩ := hopen
    refine ⟨t, ?_, hverified⟩
    rw [hears.targets]
    exact List.mem_map.mpr ⟨t, ht, by rw [hother, if_neg Bool.false_ne_true]⟩
  · -- A change that did not hear the report waits for what it waited for.
    obtain ⟨t, ht, hverified⟩ := hwait old hold
    have hother : t.isConfirmedBy s v = false :=
      Bool.eq_false_iff.mpr fun hconfirmed => hheard ⟨t, ht, hconfirmed⟩
    refine ⟨t, ?_, hverified⟩
    rw [hears.targets]
    exact List.mem_map.mpr ⟨t, ht, by rw [hother, if_neg Bool.false_ne_true]⟩

/-- **Ticks strand nothing.** -/
theorem IsWaiting.tick (hwait : r.IsWaiting) (now : Instant) :
    (r.tickChanges now).1.IsWaiting := by
  intro c hc
  obtain ⟨old, hold, htargets, -⟩ := exists_of_mem_tickChanges hc
  rw [StateChange.IsWaiting, htargets]
  exact hwait old hold

/-- **Queueing** leaves every pending change waiting exactly if it strands none. -/
theorem isWaiting_addChange_iff (hr : r.HasDistinctTargets) (hnew : new.IsFresh)
    (hunheard : ∀ t ∈ new.targets, t.verified = false) :
    (r.addChange new).IsWaiting ↔ ¬ r.Strands new := by
  have hchanges := changes_addChange hr hnew.nodup
  constructor
  · rintro hwait ⟨c, hc, ⟨t, ht, hleft⟩, hverified⟩
    -- What is left of the stranded change is pending.
    obtain ⟨u, hu, hunverified⟩ := hwait
      { c with targets := c.targets.filter fun t => t.suffix ∉ new.targets.map (·.suffix) } (by
        rw [hchanges]
        refine List.mem_append_left _ (List.mem_filter.mpr ⟨List.mem_map_of_mem hc, ?_⟩)
        rw [Bool.not_eq_true', List.isEmpty_eq_false_iff_exists_mem]
        exact ⟨t, List.mem_filter.mpr ⟨ht, decide_eq_true hleft⟩⟩)
    obtain ⟨hu, huleft⟩ := List.mem_filter.mp hu
    rw [hverified u hu (of_decide_eq_true huleft)] at hunverified
    cases hunverified
  · intro hnone c hc
    rw [hchanges] at hc
    rcases List.mem_append.mp hc with hold | hlast
    · obtain ⟨hold, hnonempty⟩ := List.mem_filter.mp hold
      obtain ⟨old, hmem, rfl⟩ := List.mem_map.mp hold
      rw [Bool.not_eq_true', List.isEmpty_eq_false_iff_exists_mem] at hnonempty
      obtain ⟨t, ht⟩ := hnonempty
      obtain ⟨ht, hleft⟩ := List.mem_filter.mp ht
      by_contra hdone
      refine hnone ⟨old, hmem, ⟨t, ht, of_decide_eq_true hleft⟩, fun u hu huleft => ?_⟩
      cases hverified : u.verified with
      | true => rfl
      | false =>
        exact absurd ⟨u, List.mem_filter.mpr ⟨hu, decide_eq_true huleft⟩, hverified⟩ hdone
    · obtain rfl := List.mem_singleton.mp hlast
      obtain ⟨t, ht⟩ := List.exists_mem_of_ne_nil _ hnew.nonempty
      refine ⟨t.adopt r.pendingTargets, List.mem_map_of_mem ht, ?_⟩
      rw [Target.adopt_verified]
      exact hunheard t ht

/-- **Pending changes wait for a report unless one was stranded.**  Every change that is pending at
any point of a history has a target to be verified, exactly if no change was queued that stranded
another. -/
theorem waiting_unless_stranded (r : Resource) (events : List ChangeEvent) (hr : r.changes = [])
    (hunheard : ∀ e ∈ events, e.IsUnheard) :
    (∀ before, before <+: events → (before.foldl follow r).IsWaiting) ↔
      ∀ before new, before ++ [.queued new] <+: events →
        ¬ (before.foldl follow r).Strands new := by
  have hcoherent : ∀ before, before <+: events → r.Coherent before := fun before hbefore =>
    coherent_after hr fun e he => (hunheard e (hbefore.subset he)).1
  -- At one event: what waits after a change was queued is decided by whether it strands an older
  -- one.
  have hqueue : ∀ before new, before ++ [.queued new] <+: events →
      (((before ++ [.queued new]).foldl follow r).IsWaiting ↔
        ¬ (before.foldl follow r).Strands new) := by
    intro before new hbefore
    obtain ⟨hfresh, hnew⟩ := hunheard (.queued new) (hbefore.subset (by simp))
    rw [List.foldl_concat]
    exact isWaiting_addChange_iff
      (hcoherent before ((List.prefix_append _ _).trans hbefore)).distinct hfresh (hnew new rfl)
  constructor
  · intro hwait before new hbefore
    exact (hqueue before new hbefore).mp (hwait _ hbefore)
  · intro hnone before
    -- Event after event: reports and ticks keep the changes waiting by themselves.
    induction before using List.reverseRecOn with
    | nil =>
      rintro - c hc
      rw [List.foldl_nil, hr] at hc
      cases hc
    | append_singleton before e ih =>
      intro hbefore
      have hinit := (List.prefix_append before [e]).trans hbefore
      have hwait := ih hinit
      cases e with
      | queued new => exact (hqueue before new hbefore).mpr (hnone before new hbefore)
      | reported s v =>
        rw [List.foldl_concat]
        exact hwait.report (hcoherent before hinit).orderly s v
      | ticked now =>
        rw [List.foldl_concat]
        exact hwait.tick now

/-! ### Half of a colour -/

/-- A light without anything pending. -/
def light : Resource :=
  { id := ⟨1⟩, kind := .lights, typeName := "Color light", uniqueId := .empty }

/-- A write of colour coordinates to the light. -/
def colourWrite (coordinates : List (String × UInt64)) : StateChange :=
  (coordinates.map fun (suffix, v) => { suffix, value := .uint v }).foldl StateChange.addTarget
    (StateChange.new light.id .zclAttribute 1 .start2024)

theorem isUnheard_colourWrite {coordinates : List (String × UInt64)} (hsome : coordinates ≠ [])
    (hunheard : ∀ t ∈ (colourWrite coordinates).targets, t.verified = false) :
    (ChangeEvent.queued (colourWrite coordinates)).IsUnheard := by
  refine ⟨isFresh_foldl_addTarget _ rfl rfl (by simpa using hsome), ?_⟩
  rintro c heq
  cases heq
  exact hunheard

/-- Half of a colour was reported: the write waits for the other half. -/
theorem isWaiting_half_colour :
    (([.queued (colourWrite [(Suffix.x, 100), (Suffix.y, 200)]),
      .reported Suffix.x (.uint 100)] : List ChangeEvent).foldl follow light).IsWaiting := by
  refine (waiting_unless_stranded light _ rfl ?_).mpr ?_ _ (List.prefix_refl _)
  · intro e he
    simp only [List.mem_cons, List.not_mem_nil, or_false] at he
    rcases he with rfl | rfl
    · exact isUnheard_colourWrite (List.cons_ne_nil _ _) (by decide)
    · exact ⟨trivial, fun c heq => by cases heq⟩
  · -- The one change is queued when nothing is pending.
    rintro before new hbefore ⟨c, hc, -⟩
    rcases before with _ | ⟨e, before⟩
    · cases hc
    · rw [List.cons_append, List.cons_prefix_cons] at hbefore
      rcases before with _ | ⟨e', before⟩
      · have hlast := (List.cons_prefix_cons.mp hbefore.2).1
        cases hlast
      · have hlong := hbefore.2.length_le
        simp at hlong

/-- One half of a colour was reported, and the other half is written anew: the first write is left
pending although all that is left of it was reported, and the next tick sends it once more. -/
theorem half_colour_stranded :
    let events : List ChangeEvent := [.queued (colourWrite [(Suffix.x, 100), (Suffix.y, 200)]),
      .reported Suffix.x (.uint 100), .queued (colourWrite [(Suffix.y, 250)])]
    light.changes = [] ∧ (∀ e ∈ events, e.IsUnheard) ∧
      ¬ (events.foldl follow light).IsWaiting ∧
      ((events.foldl follow light).tickChanges .start2024).2.map
          (fun (action, c) => (action, c.targets.map fun t => (t.suffix, t.verified))) =
        [(.write, [(Suffix.x, true)]), (.write, [(Suffix.y, false)])] := by
  intro events
  refine ⟨rfl, ?_, ?_, by decide +kernel⟩
  · intro e he
    simp only [events, List.mem_cons, List.not_mem_nil, or_false] at he
    rcases he with rfl | rfl | rfl
    · exact isUnheard_colourWrite (List.cons_ne_nil _ _) (by decide)
    · exact ⟨trivial, fun c heq => by cases heq⟩
    · exact isUnheard_colourWrite (List.cons_ne_nil _ _) (by decide)
  · intro hwait
    obtain ⟨t, ht, hunverified⟩ := hwait ((events.foldl follow light).changes.head (by decide +kernel))
      (List.head_mem _)
    have hall : ∀ t ∈ ((events.foldl follow light).changes.head (by decide +kernel)).targets,
        t.verified = true := by decide +kernel
    rw [hall t ht] at hunverified
    cases hunverified

/-! ### Writes of one item -/

/-- No pending change has more than one target. -/
def IsSingle (r : Resource) : Prop :=
  ∀ c ∈ r.changes, c.targets.length ≤ 1

/-- What is superseded of a single target is the whole change. -/
theorem not_strands_of_isSingle (hsingle : r.IsSingle) (hwait : r.IsWaiting) :
    ¬ r.Strands new := by
  rintro ⟨c, hc, ⟨t, ht, hleft⟩, hverified⟩
  obtain ⟨u, hu, hunverified⟩ := hwait c hc
  obtain ⟨only, honly⟩ : ∃ only, c.targets = [only] :=
    List.length_eq_one_iff.mp (Nat.le_antisymm (hsingle c hc) (List.length_pos_of_mem ht))
  rw [honly, List.mem_singleton] at ht hu
  rw [hu, ← ht, hverified t (by rw [honly, ht]; exact List.mem_singleton_self _) hleft]
    at hunverified
  cases hunverified

theorem IsSingle.addChange (hr : r.HasDistinctTargets) (hsingle : r.IsSingle)
    (hnew : (new.targets.map (·.suffix)).Nodup) (hone : new.targets.length ≤ 1) :
    (r.addChange new).IsSingle := by
  intro c hc
  rcases exists_of_mem_addChange hr hnew hc with ⟨old, hold, hsub, -, -⟩ | ⟨htargets, -⟩
  · exact Nat.le_trans hsub.length_le (hsingle old hold)
  · rw [htargets, List.length_map]
    exact hone

theorem IsSingle.report (hsingle : r.IsSingle) (s : String) (v : Value) :
    (r.verifyReport s v).1.IsSingle := by
  intro c hc
  obtain ⟨old, hold, htargets, -⟩ := exists_of_mem_verifyReport hc
  have hlength := congrArg List.length htargets
  rw [List.length_map, List.length_map] at hlength
  exact hlength ▸ hsingle old hold

theorem IsSingle.tick (hsingle : r.IsSingle) (now : Instant) :
    (r.tickChanges now).1.IsSingle := by
  intro c hc
  obtain ⟨old, hold, htargets, -⟩ := exists_of_mem_tickChanges hc
  exact htargets ▸ hsingle old hold

/-- **Writes of one item each are never stranded**, in whatever order they are superseded, reported
and given up. -/
theorem waiting_of_single_targets (hr : r.changes = []) (hunheard : ∀ e ∈ events, e.IsUnheard)
    (hone : ∀ c, ChangeEvent.queued c ∈ events → c.targets.length ≤ 1) :
    (events.foldl follow r).IsWaiting := by
  -- A change with one target cannot be stranded, so both facts are carried together.
  suffices h : (events.foldl follow r).IsSingle ∧ (events.foldl follow r).IsWaiting from h.2
  induction events using List.reverseRecOn with
  | nil =>
    constructor <;> intro c hc <;> rw [List.foldl_nil, hr] at hc <;> cases hc
  | append_singleton before e ih =>
    have hbefore : ∀ e ∈ before, e.IsUnheard := fun e he => hunheard e (List.mem_append_left _ he)
    obtain ⟨hsingle, hwait⟩ := ih hbefore fun c hc => hone c (List.mem_append_left _ hc)
    have hcoherent : r.Coherent before := coherent_after hr fun e he => (hbefore e he).1
    rw [List.foldl_concat]
    cases e with
    | queued new =>
      obtain ⟨hfresh, hnew⟩ := hunheard (.queued new) (by simp)
      exact ⟨hsingle.addChange hcoherent.distinct hfresh.nodup (hone new (by simp)),
        (isWaiting_addChange_iff hcoherent.distinct hfresh (hnew new rfl)).mpr
          (not_strands_of_isSingle hsingle hwait)⟩
    | reported s v => exact ⟨hsingle.report s v, hwait.report hcoherent.orderly s v⟩
    | ticked now => exact ⟨hsingle.tick now, hwait.tick now⟩

end Resource

end ZigbeeGateway
