import Mathlib.Data.List.Induction
import Mathlib.Logic.Function.Iterate
import ZigbeeGateway.Proofs.Resource.Stamps

/-!
# Histories of an item

An item is set, made static and stamped anew, at times in whatever order.  Its stamps stay *in order*
all the while: the value never changed later than the item was set (`Item.InOrder`).  So the two stamps
are equal after an accepted set exactly if the set changed the value (`Item.InOrder.lastChanged_set_iff`),
for otherwise the stamp of the set lies behind all stamps before.

A stamp is a time that was given, or lies a microsecond behind such a time for each set since
(`Item.exists_lastSet_run`).  So stamps leave the range of instants only where the times that are given
come too close to its end.
-/

namespace ZigbeeGateway

/-! ### Microseconds -/

namespace Instant

variable {t : Instant} {k n : Nat}

/-- The instant a number of microseconds later. -/
def addMicroseconds (n : Nat) (t : Instant) : Instant :=
  addMicrosecond^[n] t

theorem addMicroseconds_succ (n : Nat) (t : Instant) :
    t.addMicroseconds (n + 1) = (t.addMicroseconds n).addMicrosecond :=
  Function.iterate_succ_apply' addMicrosecond n t

theorem seconds_le_addMicrosecond (t : Instant) : t.seconds ≤ t.addMicrosecond.seconds := by
  unfold addMicrosecond addNanos nanosPerSecond
  split_ifs
  · exact Int.le_refl _
  · dsimp only
    omega

theorem seconds_addMicroseconds_mono (t : Instant) (h : k ≤ n) :
    (t.addMicroseconds k).seconds ≤ (t.addMicroseconds n).seconds := by
  induction h with
  | refl => exact Int.le_refl _
  | step _ ih =>
    rw [addMicroseconds_succ]
    exact Int.le_trans ih (seconds_le_addMicrosecond _)

/-- Between two instants of the range all are in range. -/
theorem inRange_addMicroseconds (ht : t.inRange = true)
    (hlast : (t.addMicroseconds n).inRange = true) (h : k ≤ n) :
    (t.addMicroseconds k).inRange = true := by
  have hfirst : t.seconds ≤ (t.addMicroseconds k).seconds :=
    t.seconds_addMicroseconds_mono (Nat.zero_le k)
  have hless := t.seconds_addMicroseconds_mono h
  -- Only the seconds count, and they never go back.
  unfold inRange at *
  simp only [Bool.and_eq_true, decide_eq_true_eq] at *
  omega

end Instant

namespace Item

open Instant

/-! ### Calls -/

/-- What is done to an item. -/
inductive Call where
  | set (v : Value) (now : Instant)
  | setStatic (isStatic : Bool)
  | restamp (t : Instant)

/-- The time that is given with a call. -/
def Call.time? : Call → Option Instant
  | .set _ now => some now
  | .setStatic _ => none
  | .restamp t => some t

/-- The item after a call.  A set that is refused leaves it as it is. -/
def perform (item : Item) : Call → Item
  | .set v now => item.setIfFits v now
  | .setStatic isStatic => { item with isStatic }
  | .restamp t => item.restamp t

/-- The item after calls, the first one first. -/
def run (item : Item) (calls : List Call) : Item :=
  calls.foldl perform item

variable {item item' : Item} {suffix : String} {type : DataType} {v : Value} {now t stamp : Instant}
  {o : SetOutcome} {call : Call} {calls : List Call}

@[simp] theorem run_nil (item : Item) : item.run [] = item :=
  rfl

theorem run_concat (item : Item) (calls : List Call) (call : Call) :
    item.run (calls ++ [call]) = (item.run calls).perform call :=
  List.foldl_concat ..

/-- A set that is accepted gives the item its next stamp. -/
theorem lastSet_set (h : item.set v now = .ok (item', o)) (ho : o.isAccepted = true) :
    item'.lastSet = some (nextStamp item.lastSet now) := by
  obtain ⟨w, -, ⟨rfl, -, -⟩ | ⟨-, -, rfl⟩ | ⟨-, -, rfl⟩⟩ := set_cases h
  · cases ho
  · rfl
  · rfl

theorem eq_of_ignored (h : item.set v now = .ok (item', o)) (ho : o.isAccepted = false) :
    item' = item := by
  obtain ⟨w, -, ⟨-, -, rfl⟩ | ⟨rfl, -, -⟩ | ⟨rfl, -, -⟩⟩ := set_cases h
  · rfl
  · cases ho
  · cases ho

/-- The value that an item holds changes just if the set says so. -/
theorem isChanged_iff_value_ne (h : item.set v now = .ok (item', o)) :
    o.isChanged = true ↔ item'.value ≠ item.value := by
  obtain ⟨w, hw, ⟨rfl, -, rfl⟩ | ⟨rfl, -, rfl⟩ | ⟨rfl, hholds, rfl⟩⟩ := set_cases h
  · simp [SetOutcome.isChanged]
  · simp [SetOutcome.isChanged]
  · -- A fitted value is the same as itself, so that it would have been held.
    have hself := DataType.sameAs_self_of_coerce hw
    have hne : some w ≠ item.value := by
      intro hvalue
      rw [holds_iff.mpr ⟨w, hvalue.symm, hself⟩] at hholds
      cases hholds
    simpa [SetOutcome.isChanged] using hne

/-! ### Stamps in order -/

/-- The value did not change later than the item was set, and stamps are proper. -/
structure InOrder (item : Item) : Prop where
  not_later : ¬ Later item.lastSet item.lastChanged
  isProper : item.IsProper

namespace InOrder

theorem new : InOrder { suffix, type } :=
  ⟨fun h => h, by rintro t ⟨⟩⟩

theorem restamp (ht : t.IsProper) : (item.restamp t).InOrder := by
  refine ⟨Later.irrefl (some t), ?_⟩
  rintro t' ⟨⟩
  exact ht

theorem set (hitem : item.InOrder) (hnow : now.IsProper) (h : item.set v now = .ok (item', o)) :
    item'.InOrder := by
  refine ⟨?_, hitem.isProper.set hnow h⟩
  have hlater := hitem.isProper.later_nextStamp now
  obtain ⟨w, -, ⟨-, -, rfl⟩ | ⟨-, -, rfl⟩ | ⟨-, -, rfl⟩⟩ := set_cases h
  · exact hitem.not_later
  · exact fun hchanged => hitem.not_later (hlater.trans hchanged)
  · exact Later.irrefl _

/-- **The stamps are equal just after the sets that change the value.** -/
theorem lastChanged_set_iff (hitem : item.InOrder) (h : item.set v now = .ok (item', o))
    (ho : o.isAccepted = true) :
    item'.lastChanged = item'.lastSet ↔ item'.value ≠ item.value := by
  rw [← isChanged_iff_value_ne h]
  have hlater := hitem.isProper.later_nextStamp now
  obtain ⟨w, -, ⟨rfl, -, -⟩ | ⟨rfl, -, rfl⟩ | ⟨rfl, -, rfl⟩⟩ := set_cases h
  · cases ho
  · -- The stamp of this set is later than all before, that of the last change among them.
    have hne : item.lastChanged ≠ some (nextStamp item.lastSet now) := by
      intro hchanged
      exact hitem.not_later (hchanged ▸ hlater)
    simpa [SetOutcome.isChanged] using hne
  · simp [SetOutcome.isChanged]

/-- A call keeps the stamps in order. -/
theorem perform (hitem : item.InOrder) (hcall : ∀ t, call.time? = some t → t.IsProper) :
    (item.perform call).InOrder := by
  cases call with
  | set v now =>
    show (item.setIfFits v now).InOrder
    unfold setIfFits
    split
    · exact hitem.set (hcall now rfl) ‹_›
    · exact hitem
  | setStatic isStatic => exact ⟨hitem.not_later, hitem.isProper⟩
  | restamp t => exact restamp (hcall t rfl)

/-- And so do any number of calls. -/
theorem run (hitem : item.InOrder)
    (hcalls : ∀ call ∈ calls, ∀ t, call.time? = some t → t.IsProper) :
    (item.run calls).InOrder := by
  induction calls using List.reverseRecOn with
  | nil => exact hitem
  | append_singleton calls call ih =>
    rw [run_concat]
    have ih := ih fun call' hcall' => hcalls call' (List.mem_append_left _ hcall')
    exact ih.perform (hcalls call (by simp))

end InOrder

/-! ### Stamps in range -/

/-- What a call does to the stamp of an item: nothing, or the stamp is the time of the call or lies a
microsecond behind the stamp before. -/
theorem lastSet_perform (item : Item) (call : Call) :
    (item.perform call).lastSet = item.lastSet ∨ (item.perform call).lastSet = call.time? ∨
      (item.perform call).lastSet = item.lastSet.map addMicrosecond := by
  cases call with
  | set v now =>
    rw [show item.perform (.set v now) = item.setIfFits v now from rfl, setIfFits]
    split
    · rename_i item' o hset
      cases ho : o.isAccepted with
      | false => exact .inl (by rw [eq_of_ignored hset ho])
      | true =>
        rw [lastSet_set hset ho]
        -- An accepted set stamps with its time, or one microsecond behind a stamp that is not
        -- earlier.
        cases item.lastSet with
        | none => exact .inr (.inl rfl)
        | some t =>
          rw [nextStamp]
          split_ifs
          · exact .inr (.inl rfl)
          · exact .inr (.inr rfl)
    · exact .inl rfl
  | setStatic isStatic => exact .inl rfl
  | restamp t => exact .inr (.inl rfl)

/-- **Where stamps come from**: the stamp of a new item after some calls is a time that was given, and
at most as many microseconds as there are calls. -/
theorem exists_lastSet_run (h : (run { suffix, type } calls).lastSet = some stamp) :
    ∃ call ∈ calls, ∃ t k, call.time? = some t ∧ k ≤ calls.length ∧ stamp = t.addMicroseconds k := by
  induction calls using List.reverseRecOn generalizing stamp with
  | nil => cases h
  | append_singleton calls call ih =>
    rw [run_concat] at h
    rw [List.length_append, List.length_singleton]
    -- Each microsecond behind a time takes a call of its own.
    rcases lastSet_perform (run { suffix, type } calls) call with hsame | htime | hnext
    · obtain ⟨call', hcall', t, k, ht, hk, rfl⟩ := ih (hsame.symm.trans h)
      exact ⟨call', List.mem_append_left _ hcall', t, k, ht, by omega, rfl⟩
    · exact ⟨call, by simp, stamp, 0, htime.symm.trans h, by omega, rfl⟩
    · obtain ⟨before, hbefore, rfl⟩ := Option.map_eq_some_iff.mp (hnext.symm.trans h)
      obtain ⟨call', hcall', t, k, ht, hk, rfl⟩ := ih hbefore
      exact ⟨call', List.mem_append_left _ hcall', t, k + 1, ht, by omega,
        (addMicroseconds_succ k t).symm⟩

/-- Stamps stay in range if every time that is given leaves room for a microsecond per call. -/
theorem stampInRange_run
    (h : ∀ call ∈ calls, ∀ t, call.time? = some t →
      t.inRange = true ∧ (t.addMicroseconds calls.length).inRange = true) :
    (run { suffix, type } calls).stampInRange = true := by
  rw [stampInRange, Option.all_eq_true]
  intro stamp hstamp
  obtain ⟨call, hcall, t, k, ht, hk, rfl⟩ := exists_lastSet_run hstamp
  exact inRange_addMicroseconds (h call hcall t ht).1 (h call hcall t ht).2 hk

/-- **The stamps along a history.**  After any calls on a new item, at whatever times, its value did
not change later than it was set.  A set that is refused then, or ignored, leaves the item as it is.
A set that is accepted gets a stamp later than the one before: the time of the set if that is later,
and else the microsecond behind; and just after it the stamps are equal exactly if it changed the
value.  No stamp leaves the range of instants as long as the times leave room for a microsecond per
call. -/
theorem stamps_along_history {suffix : String} {type : DataType} {calls : List Call} {v : Value}
    {now : Instant} (hcalls : ∀ call ∈ calls, ∀ t, call.time? = some t → t.IsProper)
    (hnow : now.IsProper) :
    let item := run { suffix, type } calls
    ¬ Later item.lastSet item.lastChanged ∧
      (∀ e, item.set v now = .error e → item.perform (.set v now) = item) ∧
      (∀ item' o, item.set v now = .ok (item', o) →
        item.perform (.set v now) = item' ∧
        (o.isAccepted = false → item' = item) ∧
        (o.isAccepted = true →
          Later item.lastSet item'.lastSet ∧
          (Later item.lastSet (some now) → item'.lastSet = some now) ∧
          (∀ t, item.lastSet = some t → t.before now = false →
            item'.lastSet = some t.addMicrosecond) ∧
          ¬ Later item'.lastSet item'.lastChanged ∧
          (item'.lastChanged = item'.lastSet ↔ item'.value ≠ item.value))) ∧
      ((∀ call ∈ calls, ∀ t, call.time? = some t →
          t.inRange = true ∧ (t.addMicroseconds calls.length).inRange = true) →
        item.stampInRange = true) := by
  intro item
  -- All of it follows from one invariant of the history: the stamps are in order.
  have hitem : item.InOrder := InOrder.new.run hcalls
  have hperform : item.perform (.set v now) = item.setIfFits v now := rfl
  refine ⟨hitem.not_later, fun e h => ?_, fun item' o h => ⟨?_, eq_of_ignored h, fun ho => ?_⟩,
    stampInRange_run⟩
  · rw [hperform, setIfFits, h]
  · rw [hperform, setIfFits, h]
  · have hstamp := lastSet_set h ho
    refine ⟨hstamp ▸ hitem.isProper.later_nextStamp now, fun hlater => ?_, fun t ht hbefore => ?_,
      (hitem.set hnow h).not_later, hitem.lastChanged_set_iff h ho⟩
    · rw [hstamp]
      cases hlast : item.lastSet with
      | none => rfl
      | some t =>
        rw [hlast] at hlater
        have hbefore : t.before now = true := hlater
        rw [nextStamp, if_pos hbefore]
    · rw [hstamp, ht, nextStamp, hbefore, if_neg Bool.false_ne_true]

/-- A temperature is set, and then stamped anew within the last microsecond of a leap second. -/
def leapSecondCalls : List Call :=
  [.set (.int 2100) ⟨1700000010, 0⟩, .setStatic false, .restamp ⟨1483228799, 1999999500⟩]

theorem stamp_leaves_leap_second :
    (∀ call ∈ leapSecondCalls, ∀ t, call.time? = some t → t.IsProper) ∧
      (Instant.mk 1483228799 0).IsProper ∧
      (∀ call ∈ leapSecondCalls, ∀ t, call.time? = some t →
        t.inRange = true ∧ (t.addMicroseconds leapSecondCalls.length).inRange = true) ∧
      (run { suffix := "state/temperature", type := .int16 } leapSecondCalls).stampInRange = true ∧
      ∃ item', (run { suffix := "state/temperature", type := .int16 } leapSecondCalls).set
          (.uint 2100) ⟨1483228799, 0⟩ = .ok (item', .unchanged) ∧
        item'.lastSet = some ⟨1483228800, 500⟩ ∧ item'.lastChanged ≠ item'.lastSet := by
  have hproper : ∀ call ∈ leapSecondCalls, ∀ t, call.time? = some t → t.IsProper := by
    simp [leapSecondCalls, Call.time?, Instant.IsProper, nanosPerSecond]
  have hnow : (Instant.mk 1483228799 0).IsProper := by decide
  have hroom : ∀ call ∈ leapSecondCalls, ∀ t, call.time? = some t →
      t.inRange = true ∧ (t.addMicroseconds leapSecondCalls.length).inRange = true := by
    simp only [leapSecondCalls, List.forall_mem_cons, Call.time?]
    refine ⟨?_, ?_, ?_, ?_⟩
    · rintro t ⟨⟩
      decide
    · rintro t ⟨⟩
    · rintro t ⟨⟩
      decide
    · rintro call ⟨⟩
  obtain ⟨-, -, hset, hrange⟩ := @stamps_along_history "state/temperature" .int16
    leapSecondCalls (.uint 2100) ⟨1483228799, 0⟩ hproper hnow
  refine ⟨hproper, hnow, hroom, hrange hroom, _, rfl, ?_⟩
  obtain ⟨-, -, haccepted⟩ := hset _ .unchanged rfl
  obtain ⟨-, -, hstalled, -, hequal⟩ := haccepted rfl
  exact ⟨hstalled _ rfl rfl, fun h => absurd rfl (hequal.mp h)⟩

end Item

end ZigbeeGateway
