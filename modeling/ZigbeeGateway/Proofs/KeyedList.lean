import Mathlib.Data.List.Basic
import Mathlib.Data.List.Nodup

/-!
# Lists with keys

Items, resources and devices are kept in lists and found by a key: the first entry with the key
counts.  Changing the entries with one key changes what is found under this key and nothing else
(`find?_map_update`); with distinct keys every entry is found (`find?_key_of_mem`, `lookup_of_mem`).
-/

namespace ZigbeeGateway

variable {α κ : Type*}

/-- A lookup after the entries with a key were changed. -/
theorem find?_map_update [DecidableEq κ] (key : α → κ) (k : κ) (f : α → α)
    (hf : ∀ a, key a = k → key (f a) = k) (l : List α) (k' : κ) :
    (l.map fun a => if key a = k then f a else a).find? (fun a => key a = k') =
      if k' = k then (l.find? (fun a => key a = k)).map f else l.find? (fun a => key a = k') := by
  induction l with
  | nil => simp
  | cons a l ih =>
    rw [List.map_cons, List.find?_cons]
    -- Does the first entry have the key that is changed, and is it the one looked up?
    by_cases ha : key a = k
    · have hfa := hf a ha
      by_cases hk : k' = k
      · simp [ha, hfa, hk]
      · have hne : key (f a) ≠ k' := fun h => hk (h.symm.trans hfa)
        have hne' : key a ≠ k' := fun h => hk (h.symm.trans ha)
        simp only [ha, ↓reduceIte, hne, decide_false, hk, List.find?_cons] at ih ⊢
        rw [ih, ← ha]
        simp [hne']
    · by_cases hk : k' = k
      · subst hk
        simpa [ha] using ih
      · by_cases ha' : key a = k'
        · simp [ha', hk]
        · simpa [ha, ha', hk] using ih

/-- With distinct keys every entry is found under its own key. -/
theorem find?_key_of_mem [DecidableEq κ] (key : α → κ) {l : List α} (hl : (l.map key).Nodup)
    {a : α} (ha : a ∈ l) : l.find? (fun b => key b = key a) = some a := by
  cases hfound : l.find? (fun b => key b = key a) with
  | none =>
    have hmissing := List.find?_eq_none.mp hfound a ha
    simp at hmissing
  | some b =>
    have hkey : key b = key a := by simpa using List.find?_some hfound
    rw [List.inj_on_of_nodup_map hl (List.mem_of_find?_eq_some hfound) ha hkey]

/-- What is found under a key is an entry of the list. -/
theorem mem_of_lookup {β : Type*} [DecidableEq κ] {l : List (κ × β)} {k : κ} {b : β}
    (h : l.lookup k = some b) : (k, b) ∈ l := by
  obtain ⟨before, after, rfl, -⟩ := List.lookup_eq_some_iff.mp h
  exact List.mem_append_right before List.mem_cons_self

/-- With distinct keys every entry of the list is found. -/
theorem lookup_of_mem {β : Type*} [DecidableEq κ] {l : List (κ × β)}
    (hl : (l.map Prod.fst).Nodup) {k : κ} {b : β} (h : (k, b) ∈ l) : l.lookup k = some b := by
  cases hfound : l.lookup k with
  | none =>
    have hmissing := List.lookup_eq_none_iff.mp hfound (k, b) h
    simp at hmissing
  | some b' =>
    have heq := List.inj_on_of_nodup_map hl (mem_of_lookup hfound) h rfl
    rw [(Prod.mk.inj heq).2]

/-- A lookup after the value of a key was changed. -/
theorem lookup_map_update {β : Type*} [DecidableEq κ] (k : κ) (f : β → β) (l : List (κ × β))
    (k' : κ) :
    (l.map fun (a, b) => (a, if a = k then f b else b)).lookup k' =
      if k' = k then (l.lookup k).map f else l.lookup k' := by
  induction l with
  | nil => simp
  | cons entry l ih =>
    obtain ⟨a, b⟩ := entry
    rw [List.map_cons, List.lookup_cons, List.lookup_cons, List.lookup_cons, ih]
    by_cases hk : k' = k
    · subst hk
      by_cases ha : k' = a
      · simp [ha]
      · simp [beq_false_of_ne ha]
    · by_cases ha : k' = a
      · subst ha
        simp [hk]
      · simp [beq_false_of_ne ha, hk]

/-- Choosing by key and picking a part of each entry that has the same key may change places. -/
theorem filter_filterMap_key {β : Type*} {f : α → Option β} (key : α → κ) (key' : β → κ)
    (hf : ∀ a b, f a = some b → key' b = key a) (p : κ → Bool) (l : List α) :
    (l.filterMap f).filter (fun b => p (key' b)) = (l.filter fun a => p (key a)).filterMap f := by
  induction l with
  | nil => rfl
  | cons a l ih =>
    cases hfa : f a with
    | none => cases hp : p (key a) <;> simp [hfa, hp, ih]
    | some b =>
      have hkey := hf a b hfa
      cases hp : p (key a) <;> simp [hfa, hkey, hp, ih]

/-- With distinct keys, entries that are chosen and share the key of a chosen one are that one. -/
theorem filter_eq_singleton (key : α → κ) {l : List α} (hl : (l.map key).Nodup) {p : α → Bool}
    {a : α} (ha : a ∈ l) (hpa : p a = true) (hp : ∀ b ∈ l, p b = true → key b = key a) :
    l.filter p = [a] := by
  have hequal : ∀ b ∈ l.filter p, b = a := by
    intro b hb
    obtain ⟨hmem, hpb⟩ := List.mem_filter.mp hb
    exact List.inj_on_of_nodup_map hl hmem ha (hp b hmem hpb)
  have hnodup : (l.filter p).Nodup := hl.of_map.filter p
  have hmem : a ∈ l.filter p := List.mem_filter.mpr ⟨ha, hpa⟩
  -- What is chosen is not empty, has no other entry, and none twice.
  cases hfilter : l.filter p with
  | nil =>
    rw [hfilter] at hmem
    cases hmem
  | cons b rest =>
    rw [hfilter] at hequal hnodup
    obtain rfl := hequal b List.mem_cons_self
    cases rest with
    | nil => rfl
    | cons c rest =>
      obtain rfl := hequal c (by simp)
      simp at hnodup

end ZigbeeGateway
