import Mathlib.Data.List.Chain
import ZigbeeGateway.Proofs.Resource.Due

/-!
# The course of a change

A pending change is told the time, by ticks, and what the device reports, in any order.  At some ticks
it asks for an action.  What it asks for is paced (`Paced`): the write comes first and once, reads
follow it if the kind of the change can be read back, two actions in a row are at least the state
timeout apart, and none comes once the change timeout has passed.  The change also asks and times out
exactly when it should, and a final state is never left (`keepsTime_of_isUntold`).

How long a time is since another one is told by the times of day where a leap second is involved, and
such differences do not add up.  Outside leap seconds they do (`Instant.elapsedNanos_eq`), and the
number of reads is bounded by how often the state timeout fits into the change timeout.
-/

namespace ZigbeeGateway

/-! ### Times outside leap seconds -/

namespace Instant

variable {since now : Instant}

/-- Whether the instant is in a leap second. -/
def isLeap (t : Instant) : Bool :=
  nanosPerSecond ≤ t.nanos

/-- Nanoseconds since 1970-01-01T00:00:00Z, leap seconds not counted. -/
def toNanos (t : Instant) : Int :=
  t.seconds * nanosPerSecond + t.nanos

/-- **Differences add up** outside leap seconds. -/
theorem elapsedNanos_eq (hsince : since.isLeap = false) (hnow : now.isLeap = false) :
    elapsedNanos since now = (now.toNanos - since.toNanos).toNat := by
  rw [isLeap, decide_eq_false_iff_not] at hsince hnow
  unfold elapsedNanos toNanos
  rw [if_neg fun h => hsince h.2, if_neg fun h => hnow h.2]
  dsimp only [nanosPerSecond]
  omega

theorem toNanos_le (hsince : since.isLeap = false) (horder : now.before since = false) :
    since.toNanos ≤ now.toNanos := by
  rw [isLeap, decide_eq_false_iff_not, nanosPerSecond] at hsince
  simp only [before, Bool.or_eq_false_iff, Bool.and_eq_false_iff, decide_eq_false_iff_not] at horder
  unfold toNanos nanosPerSecond
  omega

end Instant

theorem WriteKind.supportsReadBack_iff (k : WriteKind) :
    k.supportsReadBack = true ↔ k = .zclAttribute := by
  cases k <;> decide

/-! ### What a change is told -/

/-- What a pending change is told. -/
inductive Signal where
  /-- The time. -/
  | time (now : Instant)
  /-- The value of an item that the device reported. -/
  | report (suffix : String) (v : Value)

namespace StateChange

open ChangeAction (write read)

variable {c c₀ : StateChange} {asked : List (Instant × ChangeAction)} {now : Instant}

/-- The change after a signal. -/
def told (c : StateChange) : Signal → StateChange
  | .time now => (c.tick now).1
  | .report suffix v => c.verify suffix v

/-- What the change asks for at a signal, with the time. -/
def answer (c : StateChange) : Signal → Option (Instant × ChangeAction)
  | .time now => (c.tick now).2.map (now, ·)
  | .report _ _ => none

/-- The change after some signals. -/
def after (c : StateChange) (signals : List Signal) : StateChange :=
  signals.foldl told c

/-- All that the change asks for at some signals, each action with its time. -/
def askedAt (c : StateChange) : List Signal → List (Instant × ChangeAction)
  | [] => []
  | s :: signals => (c.answer s).toList ++ (c.told s).askedAt signals

theorem after_append (c : StateChange) (xs ys : List Signal) :
    c.after (xs ++ ys) = (c.after xs).after ys :=
  List.foldl_append

theorem askedAt_append (c : StateChange) (xs ys : List Signal) :
    c.askedAt (xs ++ ys) = c.askedAt xs ++ (c.after xs).askedAt ys := by
  induction xs generalizing c with
  | nil => rfl
  | cons s xs ih =>
    rw [List.cons_append, askedAt, ih, askedAt, List.append_assoc]
    rfl

/-! ### Final states -/

theorem isVerifiedBy_of_isFinished (h : c.isFinished = true) (suffix : String) (v : Value) :
    c.isVerifiedBy suffix v = false := by
  rw [isFinished] at h
  rw [isVerifiedBy, h]
  rfl

theorem verify_of_isFinished (h : c.isFinished = true) (suffix : String) (v : Value) :
    c.verify suffix v = c := by
  rw [verify, if_neg (by simp [isVerifiedBy_of_isFinished h])]

theorem tick_of_isFinished (h : c.isFinished = true) (now : Instant) : c.tick now = (c, none) := by
  rw [isFinished] at h
  rw [tick, if_pos h]

theorem told_of_isFinished (h : c.isFinished = true) (s : Signal) :
    c.told s = c ∧ c.answer s = none := by
  cases s with
  | time now =>
    rw [told, answer, tick_of_isFinished h]
    exact ⟨rfl, rfl⟩
  | report suffix v => exact ⟨verify_of_isFinished h suffix v, rfl⟩

/-- **A final state is never left**, and nothing is asked for in it. -/
theorem after_of_isFinished (h : c.isFinished = true) (signals : List Signal) :
    c.after signals = c ∧ c.askedAt signals = [] := by
  induction signals with
  | nil => exact ⟨rfl, rfl⟩
  | cons s signals ih =>
    obtain ⟨htold, hanswer⟩ := told_of_isFinished h s
    refine ⟨?_, ?_⟩
    · show (c.told s).after signals = c
      rw [htold, ih.1]
    · rw [askedAt, hanswer, htold, ih.2]
      rfl

/-! ### One tick -/

/-- What a tick does to a change, and what the change asks for then. -/
inductive Ticked (c : StateChange) (now : Instant) : StateChange → Option ChangeAction → Prop
  /-- A final state is not left. -/
  | final (hfinal : c.isFinished = true) : Ticked c now c none
  /-- The change timeout has passed. -/
  | late (hopen : c.isFinished = false) (hlate : hasPassed c.created now c.changeTime = true) :
      Ticked c now { c with state := .timedOut } none
  /-- The write is due. -/
  | write (hopen : c.isFinished = false) (hearly : hasPassed c.created now c.changeTime = false)
      (hidle : c.writeIssued = false) : Ticked c now (c.sent now) (some .write)
  /-- The device may still report what was written. -/
  | wait (hopen : c.isFinished = false) (hearly : hasPassed c.created now c.changeTime = false)
      (hissued : c.writeIssued = true) (hwait : hasPassed c.stateEntered now c.stateTime = false) :
      Ticked c now c none
  /-- What was written is read back. -/
  | read (hopen : c.isFinished = false) (hearly : hasPassed c.created now c.changeTime = false)
      (hissued : c.writeIssued = true) (hwaited : hasPassed c.stateEntered now c.stateTime = true)
      (hkind : c.kind = .zclAttribute) :
      Ticked c now { c with state := .waitRead, stateEntered := now } (some .read)
  /-- What was written cannot be read back. -/
  | unread (hopen : c.isFinished = false) (hearly : hasPassed c.created now c.changeTime = false)
      (hissued : c.writeIssued = true) (hwaited : hasPassed c.stateEntered now c.stateTime = true)
      (hkind : c.kind ≠ .zclAttribute) :
      Ticked c now { c with state := .timedOut, stateEntered := now } none

theorem ticked (c : StateChange) (now : Instant) : Ticked c now (c.tick now).1 (c.tick now).2 := by
  unfold tick
  split_ifs with hfinal hlate hidle hwait hkind
  · exact .final hfinal
  all_goals rw [Bool.not_eq_true] at hfinal
  · exact .late hfinal hlate
  all_goals rw [Bool.not_eq_true] at hlate
  · exact .write hfinal hlate (by simpa using hidle)
  all_goals rw [Bool.not_eq_true', Bool.not_eq_false] at hidle
  · exact .wait hfinal hlate hidle (by simpa using hwait)
  all_goals rw [Bool.not_eq_true', Bool.not_eq_false] at hwait
  all_goals rw [c.kind.supportsReadBack_iff] at hkind
  · exact .read hfinal hlate hidle hwait hkind
  · exact .unread hfinal hlate hidle hwait hkind

/-! ### Pace -/

/-- Actions that keep to the times of a change. -/
structure Paced (c : StateChange) (asked : List (Instant × ChangeAction)) : Prop where
  /-- The write comes first, -/
  first : ∀ x ∈ asked.head?, x.2 = write
  /-- and only reads come later. -/
  later : ∀ x ∈ asked.tail, x.2 = read
  /-- Only attributes are read back. -/
  readable : ∀ x ∈ asked, x.2 = read → c.kind = .zclAttribute
  /-- Between two actions lies the state timeout. -/
  spaced : asked.IsChain fun x y => hasPassed x.1 y.1 c.stateTime = true
  /-- No action comes once the change timeout has passed. -/
  timely : ∀ x ∈ asked, hasPassed c.created x.1 c.changeTime = false

namespace Paced

theorem nil (c : StateChange) : Paced c [] := by
  refine ⟨?_, ?_, ?_, .nil, ?_⟩ <;> simp

/-- The write may be asked for first. -/
theorem write (c : StateChange) (hearly : hasPassed c.created now c.changeTime = false) :
    Paced c [(now, .write)] := by
  refine ⟨?_, ?_, ?_, .singleton _, ?_⟩ <;> simp [hearly]

/-- A read may follow what was asked for. -/
theorem read (h : Paced c asked) (hasked : asked ≠ []) (hkind : c.kind = .zclAttribute)
    (hspaced : ∀ x ∈ asked.getLast?, hasPassed x.1 now c.stateTime = true)
    (hearly : hasPassed c.created now c.changeTime = false) :
    Paced c (asked ++ [(now, .read)]) := by
  refine ⟨?_, ?_, fun _ _ _ => hkind, ?_, ?_⟩
  · rw [List.head?_append_of_ne_nil _ hasked]
    exact h.first
  · rw [List.tail_append_of_ne_nil hasked]
    intro x hx
    rcases List.mem_append.mp hx with hold | hnew
    · exact h.later x hold
    · rw [List.mem_singleton.mp hnew]
  · refine h.spaced.append (.singleton _) fun x hx y hy => ?_
    obtain rfl := Option.mem_some.mp hy
    exact hspaced x hx
  · intro x hx
    rcases List.mem_append.mp hx with hold | hnew
    · exact h.timely x hold
    · rw [List.mem_singleton.mp hnew]
      exact hearly

/-- Without reading back there is one action at most. -/
theorem eq_singleton (h : Paced c asked) (hkind : c.kind ≠ .zclAttribute) (hasked : asked ≠ []) :
    ∃ w, asked = [(w, .write)] := by
  obtain ⟨⟨w, action⟩, rest, rfl⟩ := List.exists_cons_of_ne_nil hasked
  obtain rfl : action = .write := h.first _ rfl
  cases rest with
  | nil => exact ⟨w, rfl⟩
  | cons y rest =>
    exact absurd (h.readable y (by simp) (h.later y List.mem_cons_self)) hkind

end Paced

/-! ### The run -/

/-- A change that was made and not told anything, whatever its times and its targets are. -/
structure IsUntold (c : StateChange) : Prop where
  state : c.state = .waitSync
  idle : c.writeIssued = false

theorem IsUntold.addTarget (h : c.IsUntold) (t : Target) : (c.addTarget t).IsUntold := by
  unfold StateChange.addTarget
  split_ifs <;> exact ⟨h.state, h.idle⟩

/-- Where a change is after it asked for some actions. -/
structure OnCourse (c₀ : StateChange) (asked : List (Instant × ChangeAction)) (c : StateChange) :
    Prop where
  paced : Paced c₀ asked
  kind : c.kind = c₀.kind
  created : c.created = c₀.created
  stateTime : c.stateTime = c₀.stateTime
  changeTime : c.changeTime = c₀.changeTime
  /-- The write is known to have been asked for. -/
  issued : c.writeIssued = !asked.isEmpty
  /-- The time in a state is counted from the last action. -/
  entered : c.isFinished = false → ∀ x ∈ asked.getLast?, c.stateEntered = x.1

namespace OnCourse

theorem ne_nil (h : OnCourse c₀ asked c) (hissued : c.writeIssued = true) : asked ≠ [] := by
  rintro rfl
  rw [h.issued] at hissued
  cases hissued

theorem eq_nil (h : OnCourse c₀ asked c) (hidle : c.writeIssued = false) : asked = [] := by
  rw [h.issued, Bool.not_eq_false', List.isEmpty_iff] at hidle
  exact hidle

theorem of_isUntold (h : c.IsUntold) : OnCourse c [] c :=
  ⟨.nil c, rfl, rfl, rfl, rfl, h.idle, by simp⟩

/-- Giving up asks for nothing. -/
theorem timedOut (h : OnCourse c₀ asked c) (t : Instant) :
    OnCourse c₀ asked { c with state := .timedOut, stateEntered := t } :=
  ⟨h.paced, h.kind, h.created, h.stateTime, h.changeTime, h.issued, fun hopen => nomatch hopen⟩

theorem tick (h : OnCourse c₀ asked c) (now : Instant) :
    OnCourse c₀ (asked ++ (c.answer (.time now)).toList) (c.tick now).1 := by
  have hticked := ticked c now
  show OnCourse c₀ (asked ++ ((c.tick now).2.map (now, ·)).toList) (c.tick now).1
  generalize (c.tick now).1 = c', (c.tick now).2 = action at hticked ⊢
  cases hticked with
  | final => simpa using h
  | late => simpa using h.timedOut c.stateEntered
  | write hopen hearly hidle =>
    obtain rfl := h.eq_nil hidle
    rw [h.created, h.changeTime] at hearly
    exact ⟨.write c₀ hearly, h.kind, h.created, h.stateTime, h.changeTime, rfl, by simp [sent]⟩
  | wait => simpa using h
  | read hopen hearly hissued hwaited hkind =>
    have hasked := h.ne_nil hissued
    rw [h.created, h.changeTime] at hearly
    rw [h.stateTime] at hwaited
    -- The state was entered at the last action, so the state timeout lies between it and this one.
    refine ⟨h.paced.read hasked (h.kind ▸ hkind) (fun x hx => ?_) hearly, h.kind, h.created,
      h.stateTime, h.changeTime, ?_, ?_⟩
    · exact h.entered hopen x hx ▸ hwaited
    · simp [hissued]
    · simp
  | unread => simpa using h.timedOut now

theorem verify (h : OnCourse c₀ asked c) (suffix : String) (v : Value) :
    OnCourse c₀ asked (c.verify suffix v) := by
  cases hfinal : c.isFinished with
  | true =>
    rw [verify_of_isFinished hfinal]
    exact h
  | false =>
    have hentered := h.entered hfinal
    unfold StateChange.verify
    split_ifs
    · exact ⟨h.paced, h.kind, h.created, h.stateTime, h.changeTime, h.issued, fun _ => hentered⟩
    · exact h

theorem told (h : OnCourse c₀ asked c) (s : Signal) :
    OnCourse c₀ (asked ++ (c.answer s).toList) (c.told s) := by
  cases s with
  | time now => exact h.tick now
  | report suffix v =>
    rw [answer, Option.toList_none, List.append_nil]
    exact h.verify suffix v

/-- A change stays on its course, whatever it is told. -/
theorem run (h : OnCourse c₀ asked c) (signals : List Signal) :
    OnCourse c₀ (asked ++ c.askedAt signals) (c.after signals) := by
  induction signals generalizing asked c with
  | nil => simpa [askedAt, after] using h
  | cons s signals ih =>
    rw [askedAt, ← List.append_assoc]
    exact ih (h.told s)

end OnCourse

/-! ### How many reads there are -/

/-- The number of reads. -/
def reads (asked : List (Instant × ChangeAction)) : Nat :=
  asked.countP (·.2 = .read)

/-- Actions that are spaced spread over as many spaces. -/
theorem spread {x : Instant × ChangeAction} {space : Nat} (hspace : 0 < space)
    (hspaced : (x :: asked).IsChain fun x y => hasPassed x.1 y.1 space = true)
    (hplain : ∀ y ∈ x :: asked, y.1.isLeap = false) :
    ∃ last ∈ x :: asked, x.1.toNanos + (asked.length * space : Nat) ≤ last.1.toNanos := by
  induction asked generalizing x with
  | nil => exact ⟨x, List.mem_cons_self, by simp⟩
  | cons y asked ih =>
    obtain ⟨hxy, hrest⟩ := List.isChain_cons_cons.mp hspaced
    obtain ⟨last, hlast, hspread⟩ := ih hrest fun z hz => hplain z (List.mem_cons_of_mem x hz)
    refine ⟨last, List.mem_cons_of_mem x hlast, ?_⟩
    -- A positive space has passed only if the clock ran forwards in between.
    rw [hasPassed, decide_eq_true_eq, Instant.elapsedNanos_eq (hplain x List.mem_cons_self)
      (hplain y (by simp))] at hxy
    rw [List.length_cons, Nat.succ_mul]
    omega

namespace Paced

theorem reads_eq {x : Instant × ChangeAction} (h : Paced c (x :: asked)) :
    reads (x :: asked) = asked.length := by
  have hx : x.2 = .write := h.first x rfl
  have hrest : asked.countP (·.2 = .read) = asked.length := by
    rw [List.countP_eq_length]
    exact fun y hy => decide_eq_true (h.later y hy)
  rw [reads, List.countP_cons_of_neg (by simp [hx]), hrest]

/-- **Few reads**: as long as no leap second is involved, and the write does not come before the
change was made, the reads fit into the change timeout. -/
theorem reads_mul_lt (h : Paced c asked) (htime : 0 < c.changeTime)
    (hcreated : c.created.isLeap = false)
    (hplain : ∀ x ∈ asked, x.1.isLeap = false ∧ x.1.before c.created = false) :
    reads asked * c.stateTime < c.changeTime := by
  cases asked with
  | nil => simpa [reads] using htime
  | cons x asked =>
    rw [h.reads_eq]
    rcases Nat.eq_zero_or_pos c.stateTime with hzero | hspace
    · rwa [hzero, Nat.mul_zero]
    · -- All spaces lie between when the change was made and its last action, which is in time.
      obtain ⟨last, hlast, hspread⟩ := spread hspace h.spaced fun y hy => (hplain y hy).1
      have hstart := Instant.toNanos_le hcreated (hplain x List.mem_cons_self).2
      have htimely := h.timely last hlast
      rw [hasPassed, decide_eq_false_iff_not,
        Instant.elapsedNanos_eq hcreated (hplain last hlast).1] at htimely
      omega

end Paced

/-! ### What a tick brings about -/

/-- **The write is asked for** at the first tick in time. -/
theorem OnCourse.write_iff (h : OnCourse c₀ asked c) (now : Instant) :
    (c.tick now).2 = some .write ↔
      c.isFinished = false ∧ hasPassed c₀.created now c₀.changeTime = false ∧ asked = [] := by
  rw [← h.created, ← h.changeTime]
  have hticked := ticked c now
  generalize (c.tick now).1 = c', (c.tick now).2 = action at hticked ⊢
  cases hticked with
  | final hfinal => simp [hfinal]
  | late _ hlate => simp [hlate]
  | write hopen hearly hidle => simp [hopen, hearly, h.eq_nil hidle]
  | wait _ _ hissued | read _ _ hissued | unread _ _ hissued => simp [h.ne_nil hissued]

/-- **A read is asked for** at each tick in time, once the last action was a state timeout ago. -/
theorem OnCourse.read_iff (h : OnCourse c₀ asked c) (now : Instant) :
    (c.tick now).2 = some .read ↔
      c.isFinished = false ∧ hasPassed c₀.created now c₀.changeTime = false ∧
        c₀.kind = .zclAttribute ∧
          ∃ x ∈ asked.getLast?, hasPassed x.1 now c₀.stateTime = true := by
  rw [← h.kind, ← h.created, ← h.stateTime, ← h.changeTime]
  have hticked := ticked c now
  generalize (c.tick now).1 = c', (c.tick now).2 = action at hticked ⊢
  -- Each outcome of the tick has its own reason, and only one of them reads.
  cases hticked with
  | final hfinal => simp [hfinal]
  | late _ hlate => simp [hlate]
  | write _ _ hidle => simp [h.eq_nil hidle]
  | wait hopen _ _ hwait =>
    refine iff_of_false nofun ?_
    rintro ⟨-, -, -, x, hx, hwaited⟩
    rw [← h.entered hopen x hx, hwait] at hwaited
    cases hwaited
  | read hopen hearly hissued hwaited hkind =>
    have hlast := List.getLast?_eq_some_getLast (h.ne_nil hissued)
    refine iff_of_true rfl ⟨hopen, hearly, hkind, _, hlast, ?_⟩
    rw [← h.entered hopen _ hlast]
    exact hwaited
  | unread _ _ _ _ hkind => simp [hkind]

/-- **A tick gives a change up** exactly if the change timeout has passed, or if the write was asked
for a state timeout ago and cannot be read back. -/
theorem OnCourse.timedOut_iff (h : OnCourse c₀ asked c) (now : Instant) :
    c.state ≠ .timedOut ∧ (c.tick now).1.state = .timedOut ↔
      c.isFinished = false ∧ (hasPassed c₀.created now c₀.changeTime = true ∨
        c₀.kind ≠ .zclAttribute ∧
          ∃ w, (w, .write) ∈ asked ∧ hasPassed w now c₀.stateTime = true) := by
  rw [← h.kind, ← h.created, ← h.stateTime, ← h.changeTime]
  have hstate : c.isFinished = false → c.state ≠ .timedOut := by
    rintro hopen hfinal
    rw [isFinished, hfinal] at hopen
    cases hopen
  -- Without reading back only the write was asked for, and the state was entered then.
  have hentered : c.isFinished = false → c.kind ≠ .zclAttribute → ∀ w, (w, .write) ∈ asked →
      c.stateEntered = w := by
    intro hopen hkind w hw
    obtain ⟨v, rfl⟩ := h.paced.eq_singleton (h.kind ▸ hkind) (List.ne_nil_of_mem hw)
    obtain rfl : w = v := congrArg Prod.fst (List.mem_singleton.mp hw)
    exact h.entered hopen _ rfl
  have hticked := ticked c now
  generalize (c.tick now).1 = c', (c.tick now).2 = action at hticked ⊢
  cases hticked with
  | final hfinal => simp [hfinal]
  | late hopen hlate => simp [hopen, hlate, hstate hopen]
  | write hopen hearly hidle =>
    obtain rfl := h.eq_nil hidle
    simp [hopen, hearly, sent]
  | wait hopen hearly hissued hwait =>
    refine iff_of_false (fun h => h.1 h.2) ?_
    rintro ⟨-, hlate | ⟨hkind, w, hw, hwaited⟩⟩
    · exact Bool.false_ne_true (hearly.symm.trans hlate)
    · rw [← hentered hopen hkind w hw, hwait] at hwaited
      cases hwaited
  | read hopen hearly hissued hwaited hkind => simp [hearly, hkind]
  | unread hopen hearly hissued hwaited hkind =>
    refine iff_of_true ⟨hstate hopen, rfl⟩ ⟨hopen, .inr ⟨hkind, ?_⟩⟩
    obtain ⟨w, rfl⟩ := h.paced.eq_singleton (h.kind ▸ hkind) (h.ne_nil hissued)
    have hw := List.mem_singleton_self (w, ChangeAction.write)
    exact ⟨w, hw, hentered hopen hkind w hw ▸ hwaited⟩

/-! ### All that a change keeps to -/

/-- That a change keeps to its times while it is told some signals. -/
structure KeepsTime (c : StateChange) (signals : List Signal) : Prop where
  /-- What it asks for is paced. -/
  paced : c.Paced (c.askedAt signals)
  /-- It asks for the write as soon as it is told the time, -/
  writes : ∀ now, ((c.after signals).tick now).2 = some .write ↔
    (c.after signals).isFinished = false ∧ hasPassed c.created now c.changeTime = false ∧
      c.askedAt signals = []
  /-- and for a read whenever it has waited. -/
  readsBack : ∀ now, ((c.after signals).tick now).2 = some .read ↔
    (c.after signals).isFinished = false ∧ hasPassed c.created now c.changeTime = false ∧
      c.kind = .zclAttribute ∧
        ∃ x ∈ (c.askedAt signals).getLast?, hasPassed x.1 now c.stateTime = true
  /-- It times out when it should. -/
  timedOut : ∀ now,
    (c.after signals).state ≠ .timedOut ∧ ((c.after signals).tick now).1.state = .timedOut ↔
      (c.after signals).isFinished = false ∧ (hasPassed c.created now c.changeTime = true ∨
        c.kind ≠ .zclAttribute ∧
          ∃ w, (w, .write) ∈ c.askedAt signals ∧ hasPassed w now c.stateTime = true)
  /-- Once it is finished it does not change, does not ask for anything and is not verified. -/
  final : (c.after signals).isFinished = true → ∀ more,
    c.after (signals ++ more) = c.after signals ∧
      c.askedAt (signals ++ more) = c.askedAt signals ∧
        ∀ suffix v, (c.after (signals ++ more)).isVerifiedBy suffix v = false
  /-- It is not read back more often than its times allow. -/
  fewReads : 0 < c.changeTime → c.created.isLeap = false →
    (∀ x ∈ c.askedAt signals, x.1.isLeap = false ∧ x.1.before c.created = false) →
      reads (c.askedAt signals) * c.stateTime < c.changeTime

/-- **A change keeps to its times** from when it was made, whatever it is told and in whatever order,
also by a clock that runs backwards. -/
theorem keepsTime_of_isUntold (h : c.IsUntold) (signals : List Signal) : c.KeepsTime signals := by
  have hcourse : OnCourse c (c.askedAt signals) (c.after signals) :=
    (OnCourse.of_isUntold h).run signals
  refine ⟨hcourse.paced, hcourse.write_iff, hcourse.read_iff, hcourse.timedOut_iff,
    fun hfinal more => ?_, hcourse.paced.reads_mul_lt⟩
  obtain ⟨hafter, hasked⟩ := after_of_isFinished hfinal more
  rw [after_append, askedAt_append, hafter, hasked, List.append_nil]
  exact ⟨rfl, rfl, isVerifiedBy_of_isFinished hfinal⟩

/-- A change of one setpoint. -/
def setpoint (t : Instant) (stateTimeout changeTimeout : Nat) : StateChange :=
  addTarget { new ⟨4⟩ .zclAttribute 1 t with stateTimeout, changeTimeout }
    { suffix := "config/heatsetpoint", value := .int 2200 }

theorem isUntold_setpoint (t : Instant) (stateTimeout changeTimeout : Nat) :
    (setpoint t stateTimeout changeTimeout).IsUntold :=
  IsUntold.addTarget ⟨rfl, rfl⟩ _

/-- Two reads in three minutes, one every five seconds, while the device reports another value. -/
theorem setpoint_is_read_back :
    let c := setpoint Instant.start2024 5000 180000
    let signals := [.time ⟨1704067200, 0⟩, .report "config/heatsetpoint" (.int 2000),
      .time ⟨1704067205, 0⟩, .time ⟨1704067207, 0⟩, .time ⟨1704067210, 0⟩]
    c.KeepsTime signals ∧ reads (c.askedAt signals) = 2 ∧
      reads (c.askedAt signals) * c.stateTime < c.changeTime := by
  intro c signals
  have hkeeps : c.KeepsTime signals := keepsTime_of_isUntold (isUntold_setpoint _ _ _) signals
  exact ⟨hkeeps, by decide +kernel,
    hkeeps.fewReads (by decide) (by decide) (by decide +kernel)⟩

/-- Differences that involve a leap second do not add up.  A change that was made in one, a tenth of a
second before midnight, is written at midnight and read back a second later, although it has but a
second in all: by then a tenth of a second has passed to it.  And a change without any time is never
read back, which is not less often than never. -/
theorem leap_second_leaves_time :
    (let c := setpoint ⟨1483228799, 1900000000⟩ 1000 1000
     let times : List Instant := [⟨1483228800, 0⟩, ⟨1483228801, 0⟩]
     c.IsUntold ∧ (c.created :: times).IsChain (fun s t => t.before s = false) ∧ 0 < c.stateTime ∧
       ¬ reads (c.askedAt (times.map .time)) * c.stateTime < c.changeTime) ∧
    (let c := setpoint Instant.start2024 1000 0
     c.IsUntold ∧ 0 < c.stateTime ∧ ¬ reads (c.askedAt []) * c.stateTime < c.changeTime) := by
  refine ⟨⟨isUntold_setpoint _ _ _, ?_, ?_, ?_⟩, ⟨isUntold_setpoint _ _ _, ?_, ?_⟩⟩ <;>
    decide +kernel

end StateChange

end ZigbeeGateway
