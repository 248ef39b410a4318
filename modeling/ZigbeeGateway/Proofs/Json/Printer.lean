import ZigbeeGateway.Proofs.Binary64.Shortest
import ZigbeeGateway.Proofs.Json.Numeral

/-!
# Characters of printed text

A string is printed with its control characters escaped (`isPlain_quoted`), a numeral is printed in
digits, signs, a point and the mark of an exponent (`Numeral.isPlain_text`), and all punctuation is
visible.  So no printed value has a control character in it (`isPlain_text`), and none is printed as
nothing (`text_ne_nil`).  Both are what a format relies on that closes such texts with a control
character and leaves the place of a missing one empty.
-/

namespace ZigbeeGateway.Json

open Text

/-- Whether no control character stands in a text. -/
def IsPlain (s : List Char) : Prop :=
  ∀ c ∈ s, 0x20 ≤ c.toNat

instance (s : List Char) : Decidable (IsPlain s) :=
  List.decidableBAll (fun c : Char => 0x20 ≤ c.toNat) s

variable {c : Char} {s t : List Char}

theorem isPlain_append : IsPlain (s ++ t) ↔ IsPlain s ∧ IsPlain t :=
  List.forall_mem_append

theorem isPlain_cons : IsPlain (c :: s) ↔ 0x20 ≤ c.toNat ∧ IsPlain s :=
  List.forall_mem_cons

theorem isPlain_of_isDecimal (h : ∀ c ∈ s, isDecimal c = true) : IsPlain s := by
  intro c hc
  have hdigit := h c hc
  simp only [isDecimal, Bool.and_eq_true, decide_eq_true_eq] at hdigit
  have hlow : 48 ≤ c.toNat := Char.le_def.mp hdigit.1
  omega

/-! ### Strings -/

/-- **No escape leaves a control character.** -/
theorem isPlain_escape (c : Char) : IsPlain (escape c) := by
  have hnumber : ∀ n < 0x20, IsPlain ('\\' :: 'u' :: padded 16 4 n) := by decide
  unfold escape
  split_ifs with _ _ _ _ _ _ _ hcontrol
  -- A short escape is a backslash and another visible character.
  all_goals try decide
  · exact hnumber c.toNat hcontrol
  · exact isPlain_cons.mpr ⟨by omega, List.forall_mem_nil _⟩

theorem isPlain_quoted (s : List Char) : IsPlain (quoted s) := by
  have hcontent : IsPlain (s.flatMap escape) :=
    List.forall_mem_flatMap.mpr fun c _ => isPlain_escape c
  exact isPlain_cons.mpr ⟨by decide, isPlain_append.mpr ⟨hcontent, by decide⟩⟩

/-! ### Numerals -/

namespace Numeral

variable {n : Numeral}

theorem isPlain_fractionText (h : n.IsProper) : IsPlain n.fractionText := by
  unfold fractionText
  split_ifs
  · exact List.forall_mem_nil _
  · exact isPlain_cons.mpr ⟨by decide, isPlain_of_isDecimal h.isDecimal_fraction⟩

theorem isPlain_powerText (h : n.IsProper) : IsPlain n.powerText := by
  unfold powerText
  split
  · exact List.forall_mem_nil _
  · rename_i down digits hexponent
    have hdigits := isPlain_of_isDecimal (h.exponent down digits hexponent).2
    have hsign : 0x20 ≤ (if down then '-' else '+').toNat := by
      cases down <;> decide
    exact isPlain_cons.mpr ⟨by decide, isPlain_cons.mpr ⟨hsign, hdigits⟩⟩

theorem isPlain_text (h : n.IsProper) : IsPlain n.text := by
  have hmagnitude : IsPlain n.magnitudeText := by
    unfold magnitudeText
    rw [isPlain_append, isPlain_append]
    exact ⟨isPlain_of_isDecimal h.isDecimal_whole, isPlain_fractionText h, isPlain_powerText h⟩
  unfold text
  split_ifs
  · exact isPlain_cons.mpr ⟨by decide, hmagnitude⟩
  · exact hmagnitude

theorem text_ne_nil (h : n.IsProper) : n.text ≠ [] := by
  obtain ⟨c, s, htext, -⟩ := h.exists_magnitudeText_eq_cons
  unfold text
  split_ifs
  · exact List.cons_ne_nil _ _
  · rw [htext]
    exact List.cons_ne_nil _ _

end Numeral

/-- A real number is printed as a proper numeral, or as null. -/
theorem realText_cases (x : Binary64) :
    (∃ n : Numeral, n.IsProper ∧ realText x = n.text) ∨ realText x = ['n', 'u', 'l', 'l'] := by
  cases x with
  | finite negative rank =>
    have hproper := Numeral.isProper_ofDecimal negative (Binary64.shortest_digits .even rank)
    exact .inl ⟨_, hproper, Numeral.realText_finite negative rank⟩
  | infinite negative => exact .inr rfl
  | nan => exact .inr rfl

theorem isPlain_realText (x : Binary64) : IsPlain (realText x) := by
  rcases realText_cases x with ⟨n, hn, htext⟩ | htext
  · rw [htext]
    exact Numeral.isPlain_text hn
  · rw [htext]
    decide

/-! ### Values -/

mutual

/-- **No control character stands in a printed value.** -/
theorem isPlain_text (j : Json) : IsPlain j.text := by
  match j with
  | .null => decide
  | .bool true => decide
  | .bool false => decide
  | .integer n =>
    rw [text, ← Numeral.text_ofInteger]
    exact Numeral.isPlain_text (Numeral.isProper_ofInteger n)
  | .real x =>
    rw [text]
    exact isPlain_realText x
  | .string s =>
    rw [text]
    exact isPlain_quoted s.toList
  | .array elements =>
    rw [text, isPlain_cons, isPlain_append]
    exact ⟨by decide, isPlain_elementsText elements, by decide⟩
  | .object fields =>
    rw [text, isPlain_cons, isPlain_append]
    exact ⟨by decide, isPlain_fieldsText fields, by decide⟩

theorem isPlain_elementsText (elements : List Json) : IsPlain (elementsText elements) := by
  match elements with
  | [] => exact List.forall_mem_nil _
  | [element] =>
    rw [elementsText]
    exact isPlain_text element
  | element :: element' :: rest =>
    rw [elementsText, isPlain_append, isPlain_cons]
    · exact ⟨isPlain_text element, by decide, isPlain_elementsText (element' :: rest)⟩
    · exact List.cons_ne_nil _ _

theorem isPlain_fieldsText (fields : List (String × Json)) : IsPlain (fieldsText fields) := by
  match fields with
  | [] => exact List.forall_mem_nil _
  | [(name, value)] =>
    rw [fieldsText, isPlain_append, isPlain_cons]
    exact ⟨isPlain_quoted name.toList, by decide, isPlain_text value⟩
  | (name, value) :: field :: rest =>
    rw [fieldsText, isPlain_append, isPlain_cons, isPlain_append, isPlain_cons]
    · exact ⟨isPlain_quoted name.toList, by decide, isPlain_text value, by decide,
        isPlain_fieldsText (field :: rest)⟩
    · exact List.cons_ne_nil _ _

end

/-- No value is printed as nothing. -/
theorem text_ne_nil (j : Json) : j.text ≠ [] := by
  match j with
  | .null => exact List.cons_ne_nil _ _
  | .bool true => exact List.cons_ne_nil _ _
  | .bool false => exact List.cons_ne_nil _ _
  | .integer n =>
    rw [text, ← Numeral.text_ofInteger]
    exact Numeral.text_ne_nil (Numeral.isProper_ofInteger n)
  | .real x =>
    rw [text]
    rcases realText_cases x with ⟨n, hn, htext⟩ | htext
    · rw [htext]
      exact Numeral.text_ne_nil hn
    · rw [htext]
      exact List.cons_ne_nil _ _
  | .string s => exact List.cons_ne_nil _ _
  | .array elements => exact List.cons_ne_nil _ _
  | .object fields => exact List.cons_ne_nil _ _

end ZigbeeGateway.Json
