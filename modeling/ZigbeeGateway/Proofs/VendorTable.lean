import Mathlib.Data.List.Basic
import ZigbeeGateway.VendorTable

/-!
# Answers of vendor tables

What a vendor table remembers of a model is what its registrations give for the model
(`VendorTable.IsSound`).  A lookup keeps this, whether it finds an encoder or not, and a registration
forgets everything.  So along every history a lookup gives the encoder that was registered first among
those whose pattern covers the model, whatever was looked up before (`VendorTable.resolve_earliest`).
-/

namespace ZigbeeGateway

/-- What may be done to a vendor table. -/
inductive VendorTableOperation (ε : Type) where
  | registered (pattern : String) (encoder : ε)
  | resolved (model : String)

namespace VendorTableOperation

variable {ε : Type}

/-- The pattern and the encoder of a registration. -/
def entry? : VendorTableOperation ε → Option (Text.Wildcard × ε)
  | .registered pattern encoder => some (⟨pattern⟩, encoder)
  | .resolved _ => none

end VendorTableOperation

namespace VendorTable

variable {ε : Type} {t : VendorTable ε}

/-- The table after an operation. -/
def perform (t : VendorTable ε) : VendorTableOperation ε → VendorTable ε
  | .registered pattern encoder => t.register pattern encoder
  | .resolved model => (t.resolve model).1

/-- The table after operations. -/
def performAll (t : VendorTable ε) (operations : List (VendorTableOperation ε)) : VendorTable ε :=
  operations.foldl perform t

/-! ### What is remembered -/

/-- Looking an encoder up registers none. -/
theorem entries_resolve (t : VendorTable ε) (model : String) :
    (t.resolve model).1.entries = t.entries := by
  unfold resolve
  split <;> rfl

theorem find?_resolve (t : VendorTable ε) (model other : String) :
    (t.resolve model).1.find? other = t.find? other := by
  rw [find?, find?, entries_resolve]

/-- Only registrations give a table its entries. -/
theorem entries_performAll (operations : List (VendorTableOperation ε)) :
    (t.performAll operations).entries =
      t.entries ++ operations.filterMap VendorTableOperation.entry? := by
  induction operations generalizing t with
  | nil => simp [performAll]
  | cons operation operations ih =>
    show ((t.perform operation).performAll operations).entries = _
    rw [ih]
    cases operation with
    | registered pattern encoder => simp [perform, register, VendorTableOperation.entry?]
    | resolved model =>
      simp [perform, entries_resolve, List.filterMap_cons, VendorTableOperation.entry?]

/-- The answer for a model is what is remembered of it, or else what is found for it. -/
theorem snd_resolve (t : VendorTable ε) (model : String) :
    (t.resolve model).2 = (t.cache.lookup model).getD (t.find? model) := by
  unfold resolve
  split <;> simp [*]

/-- A lookup adds to what is remembered what it has found. -/
theorem lookup_cache_resolve (t : VendorTable ε) (model other : String) :
    (t.resolve model).1.cache.lookup other =
      (t.cache.lookup other).or (if other = model then some (t.find? model) else none) := by
  unfold resolve
  split
  · rename_i known hknown
    split_ifs with heq
    · simp [heq, hknown]
    · simp
  · rw [List.lookup_append, List.lookup_cons, List.lookup_nil]
    split_ifs with heq
    · simp [heq]
    · simp [beq_false_of_ne heq]

/-- An encoder that is found for a model is found again, whatever is asked for in between. -/
theorem resolve_resolve (t : VendorTable ε) (model other : String) :
    ((t.resolve other).1.resolve model).2 = (t.resolve model).2 := by
  rw [snd_resolve, snd_resolve, lookup_cache_resolve, find?_resolve]
  cases t.cache.lookup model with
  | some known => rfl
  | none =>
    split_ifs with heq
    · simp [heq]
    · rfl

/-- All that is remembered of a model is what is found for it, be it an encoder or none. -/
def IsSound (t : VendorTable ε) : Prop :=
  ∀ model known, t.cache.lookup model = some known → known = t.find? model

/-- A sound table answers as if nothing were remembered. -/
theorem IsSound.resolve_eq (h : t.IsSound) (model : String) :
    (t.resolve model).2 = t.find? model := by
  rw [snd_resolve]
  cases hknown : t.cache.lookup model with
  | some known => exact h model known hknown
  | none => rfl

/-- After a registration nothing is remembered. -/
theorem isSound_register (t : VendorTable ε) (pattern : String) (encoder : ε) :
    (t.register pattern encoder).IsSound := by
  intro model known hknown
  simp [register] at hknown

theorem IsSound.resolve (h : t.IsSound) (model : String) : (t.resolve model).1.IsSound := by
  intro other known hknown
  rw [lookup_cache_resolve, Option.or_eq_some_iff] at hknown
  rw [find?_resolve]
  -- The model was remembered before, or it is the one that was looked up.
  rcases hknown with hold | ⟨-, hnew⟩
  · exact h other known hold
  · split_ifs at hnew with heq
    rw [heq]
    exact (Option.some.inj hnew).symm

theorem IsSound.perform (h : t.IsSound) (operation : VendorTableOperation ε) :
    (t.perform operation).IsSound := by
  cases operation with
  | registered pattern encoder => exact t.isSound_register pattern encoder
  | resolved model => exact h.resolve model

theorem IsSound.performAll (h : t.IsSound) (operations : List (VendorTableOperation ε)) :
    (t.performAll operations).IsSound := by
  induction operations generalizing t with
  | nil => exact h
  | cons operation operations ih => exact ih (h.perform operation)

/-! ### Answers -/

/-- **What is found is the encoder of the first registration whose pattern covers the model.** -/
theorem find?_eq_some_iff {model : String} {encoder : ε} :
    t.find? model = some encoder ↔
      ∃ older pattern newer, t.entries = older ++ (pattern, encoder) :: newer ∧
        pattern.accepts model ∧ ∀ entry ∈ older, ¬ entry.1.accepts model := by
  simp only [find?, Option.map_eq_some_iff, List.find?_eq_some_iff_append, Bool.not_eq_true']
  constructor
  · rintro ⟨⟨pattern, encoder⟩, ⟨haccepts, older, newer, hentries, holder⟩, rfl⟩
    exact ⟨older, pattern, newer, hentries, haccepts, fun entry hentry => by simp [holder entry hentry]⟩
  · rintro ⟨older, pattern, newer, hentries, haccepts, holder⟩
    refine ⟨(pattern, encoder), ⟨haccepts, older, newer, hentries, fun entry hentry => ?_⟩, rfl⟩
    simpa using holder entry hentry

theorem find?_eq_none_iff {model : String} :
    t.find? model = none ↔ ∀ entry ∈ t.entries, ¬ entry.1.accepts model := by
  simp [find?]

/-- **A vendor table remembers nothing that matters.**  After any registrations and lookups, in
whatever order, a lookup gives the encoder of the earliest registration so far whose pattern covers the
model, and none if no pattern covers it. -/
theorem resolve_earliest (history : List (VendorTableOperation ε)) (model : String) :
    let registered := history.filterMap VendorTableOperation.entry?
    let answer := ((performAll {} history).resolve model).2
    (∀ encoder, answer = some encoder ↔
      ∃ older pattern newer, registered = older ++ (pattern, encoder) :: newer ∧
        pattern.accepts model ∧ ∀ entry ∈ older, ¬ entry.1.accepts model) ∧
    (answer = none ↔ ∀ entry ∈ registered, ¬ entry.1.accepts model) := by
  intro registered answer
  have hsound : (performAll {} history : VendorTable ε).IsSound := by
    apply IsSound.performAll
    intro other known hknown
    simp at hknown
  have hentries : (performAll {} history : VendorTable ε).entries = registered := by
    simp [entries_performAll, registered]
  have hanswer : answer = (performAll {} history).find? model := hsound.resolve_eq model
  rw [hanswer, ← hentries]
  exact ⟨fun _ => find?_eq_some_iff, find?_eq_none_iff⟩

/-- A model that nothing covered is found by what is registered afterwards, the older of two patterns
first. -/
example :
    let history : List (VendorTableOperation Nat) :=
      [.resolved "lumi.plug", .registered "lumi.*" 1, .registered "*" 2, .resolved "lumi.plug"]
    ((performAll {} history).resolve "lumi.plug").2 = some 1 := by decide

end VendorTable

end ZigbeeGateway
