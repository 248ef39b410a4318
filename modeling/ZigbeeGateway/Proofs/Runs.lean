import Mathlib.Data.List.Basic

/-!
# Runs and the stretches in them

A run folds a step function over a list of events.  `Since` speaks of the last stretch of a run in
which a property has held without a break: which event began it, and in which state that event came.
A stretch that has begun goes on as long as the property holds (`Since.extend`), and a new one
begins with the event that makes the property true (`Since.start`).

What a run leaves behind is a log.  `EachEntry` says of every entry of a log how it goes with the
entries before it, and it is kept when an entry is added that goes with the whole log
(`EachEntry.concat`).
-/

namespace ZigbeeGateway

variable {σ ε : Type*} {step : σ → ε → σ} {P : σ → Prop} {Q : σ → ε → Prop} {s : σ}
  {events : List ε} {e : ε}

/-- The property `P` holds after the events and has held ever since an event with `Q`, in whose
state it did not hold. -/
def Since (step : σ → ε → σ) (P : σ → Prop) (Q : σ → ε → Prop) (s : σ) (events : List ε) : Prop :=
  ∃ before e after, events = before ++ e :: after ∧ ¬ P (before.foldl step s) ∧
    Q (before.foldl step s) e ∧ ∀ mid, mid <+: after → P ((before ++ e :: mid).foldl step s)

namespace Since

theorem extend (h : Since step P Q s events) (hP : P ((events ++ [e]).foldl step s)) :
    Since step P Q s (events ++ [e]) := by
  obtain ⟨before, first, after, rfl, hbefore, hfirst, hmid⟩ := h
  refine ⟨before, first, after ++ [e], by simp, hbefore, hfirst, ?_⟩
  intro mid hprefix
  rcases List.prefix_concat_iff.mp hprefix with rfl | hprefix
  · simpa using hP
  · exact hmid mid hprefix

/-- A stretch begins with the event that makes the property true. -/
theorem start (hbefore : ¬ P (events.foldl step s)) (hQ : Q (events.foldl step s) e)
    (hP : P ((events ++ [e]).foldl step s)) : Since step P Q s (events ++ [e]) := by
  refine ⟨events, e, [], rfl, hbefore, hQ, ?_⟩
  intro mid hprefix
  rw [List.prefix_nil.mp hprefix]
  exact hP

end Since

/-- Each entry of a log goes with the entries that stand before it. -/
def EachEntry (P : List ε → ε → Prop) (log : List ε) : Prop :=
  ∀ before entry after, log = before ++ entry :: after → P before entry

namespace EachEntry

variable {P : List ε → ε → Prop} {log : List ε}

theorem nil : EachEntry P [] := by
  intro before entry after h
  simp at h

theorem concat (h : EachEntry P log) (he : P log e) : EachEntry P (log ++ [e]) := by
  intro before entry after hsplit
  -- The entry is the new one, or the new one stands behind it.
  rcases List.eq_nil_or_concat after with rfl | ⟨rest, last, rfl⟩
  · obtain ⟨rfl, hlast⟩ := List.append_inj' hsplit rfl
    obtain rfl := List.singleton_inj.mp hlast
    exact he
  · have hcut : log ++ [e] = (before ++ entry :: rest) ++ [last] := by simpa using hsplit
    exact h before entry rest (List.append_inj' hcut rfl).1

end EachEntry

end ZigbeeGateway
