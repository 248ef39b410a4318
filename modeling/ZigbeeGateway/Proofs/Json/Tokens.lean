import ZigbeeGateway.Proofs.Json.Numeral

/-!
# Tokens of printed text

A string is read back from its escaped form (`readUnits_flatMap_escape`), and a text that is put
together from the texts of tokens is cut into these tokens again (`Lexes.append`), since no token of
it goes on with what follows.
-/

namespace ZigbeeGateway.Json

/-! ### Strings -/

theorem joinUnits_escaped {n : Nat} (hn : n < 0xd800) (units : List StringUnit) :
    joinUnits (.escaped n :: units) = (joinUnits units).map (Char.ofNat n :: ·) := by
  have hhigh : ¬(0xd800 ≤ n ∧ n < 0xdc00) := by omega
  have hlow : ¬(0xdc00 ≤ n ∧ n < 0xe000) := by omega
  have hhalf : ¬(0xd800 ≤ n ∧ n < 0xe000) := by omega
  -- Whether a second half follows is looked at only behind a first half.
  rcases units with _ | ⟨_ | low, units⟩ <;> simp [joinUnits, hhigh, hlow, hhalf]

/-- Whether a character is read back from its escaped form, as some unit. -/
def IsReadAs (c : Char) (unit : StringUnit) : Prop :=
  (∀ units, joinUnits (unit :: units) = (joinUnits units).map (c :: ·)) ∧
    ∀ s, readUnits (escape c ++ s) = (readUnits s).map fun (units, rest) => (unit :: units, rest)

theorem readUnits_short {e c : Char} (he : shortEscape? e = some c) (s : List Char) :
    readUnits ('\\' :: e :: s) =
      (readUnits s).map fun (units, rest) => (.char c :: units, rest) := by
  have hu : e ≠ 'u' := by
    rintro rfl
    cases he
  rw [readUnits]
  · rw [he]
    cases readUnits s <;> rfl
  · rintro _ _ _ _ _ rfl
    exact absurd rfl hu

theorem isReadAs_short {e c : Char} (hescape : escape c = ['\\', e]) (he : shortEscape? e = some c) :
    IsReadAs c (.char c) := by
  refine ⟨fun units => rfl, fun s => ?_⟩
  rw [hescape]
  exact readUnits_short he s

/-- A control character is written by its number. -/
theorem isReadAs_control {c : Char} (hc : c.toNat < 0x20)
    (hescape : escape c = '\\' :: 'u' :: Text.padded 16 4 c.toNat) :
    IsReadAs c (.escaped c.toNat) := by
  have hdigits : ∀ n < 0x20,
      Text.padded 16 4 n = ['0', '0', (n / 16).digitChar, (n % 16).digitChar] := by
    decide
  have hunit : ∀ n < 0x20, hexUnit? '0' '0' (n / 16).digitChar (n % 16).digitChar = some n := by
    decide
  refine ⟨fun units => ?_, fun s => ?_⟩
  · rw [joinUnits_escaped (by omega), Char.ofNat_toNat]
  · rw [hescape, hdigits _ hc]
    show readUnits ('\\' :: 'u' :: '0' :: '0' :: _ :: _ :: s) = _
    rw [readUnits, hunit _ hc]
    cases readUnits s <;> rfl

theorem isReadAs_plain {c : Char} (hc : ¬c.toNat < 0x20) (hquote : c ≠ '"') (hslash : c ≠ '\\')
    (hescape : escape c = [c]) : IsReadAs c (.char c) := by
  refine ⟨fun units => rfl, fun s => ?_⟩
  rw [hescape]
  simp [readUnits, hc, hslash]

/-- **Every character is read back from its escaped form.** -/
theorem exists_isReadAs (c : Char) : ∃ unit, IsReadAs c unit := by
  by_cases hshort : c ∈ ['"', '\\', '\x08', '\x0c', '\n', '\x0d', '\t']
  · simp only [List.mem_cons, List.not_mem_nil, or_false] at hshort
    rcases hshort with rfl | rfl | rfl | rfl | rfl | rfl | rfl <;>
      exact ⟨_, isReadAs_short rfl rfl⟩
  · simp only [List.mem_cons, List.not_mem_nil, or_false, not_or] at hshort
    obtain ⟨hquote, hslash, hshort⟩ := hshort
    by_cases hcontrol : c.toNat < 0x20
    · exact ⟨_, isReadAs_control hcontrol (by simp [escape, hquote, hslash, hshort, hcontrol])⟩
    · exact ⟨_, isReadAs_plain hcontrol hquote hslash
        (by simp [escape, hquote, hslash, hshort, hcontrol])⟩

/-- **A string is read back from its escaped form**, up to the quote behind it. -/
theorem readUnits_flatMap_escape (s rest : List Char) :
    ∃ units, joinUnits units = some s ∧
      readUnits (s.flatMap escape ++ '"' :: rest) = some (units, rest) := by
  induction s with
  | nil => exact ⟨[], rfl, rfl⟩
  | cons c s ih =>
    obtain ⟨unit, hjoin, hread⟩ := exists_isReadAs c
    obtain ⟨units, hunits, hrest⟩ := ih
    refine ⟨unit :: units, ?_, ?_⟩
    · rw [hjoin, hunits]
      rfl
    · rw [List.flatMap_cons, List.append_assoc, hread, hrest]
      rfl

theorem readToken?_quoted (s : String) (rest : List Char) :
    readToken? (quoted s.toList ++ rest) = some (.string (some s), rest) := by
  obtain ⟨units, hunits, hread⟩ := readUnits_flatMap_escape s.toList rest
  have htext : quoted s.toList ++ rest = '"' :: (s.toList.flatMap escape ++ '"' :: rest) := by
    simp [quoted]
  rw [htext]
  show (readUnits _).map _ = _
  rw [hread]
  simp [hunits]

/-! ### Cutting a text -/

/-- Whether a text is cut into tokens wherever a text follows that does not go on with it.  The fuel
that is left is enough for the rest if it was enough for both. -/
def Lexes (s : List Char) (tokens : List Token) : Prop :=
  ∀ rest, EndsNumeral rest → ∀ fuel, (s ++ rest).length ≤ fuel →
    ∃ fuel', rest.length ≤ fuel' ∧
      tokensWithin fuel (s ++ rest) = (tokensWithin fuel' rest).map (tokens ++ ·)

/-- What follows a text of several tokens is judged by its first part. -/
theorem Lexes.append {s s' : List Char} {tokens tokens' : List Token} (h : Lexes s tokens)
    (h' : Lexes s' tokens') (hstop : ∀ rest, EndsNumeral rest → EndsNumeral (s' ++ rest)) :
    Lexes (s ++ s') (tokens ++ tokens') := by
  intro rest hrest fuel hfuel
  rw [List.append_assoc] at hfuel ⊢
  obtain ⟨fuel', hfuel', htokens⟩ := h _ (hstop rest hrest) fuel hfuel
  obtain ⟨fuel'', hfuel'', htokens'⟩ := h' rest hrest fuel' hfuel'
  refine ⟨fuel'', hfuel'', ?_⟩
  rw [htokens, htokens', Option.map_map]
  exact congrArg (Option.map · _) (funext fun _ => (List.append_assoc _ _ _).symm)

theorem tokensWithin_succ {c : Char} {s rest : List Char} {t : Token} (hgap : isGap c = false)
    (h : readToken? (c :: s) = some (t, rest)) (fuel : Nat) :
    tokensWithin (fuel + 1) (c :: s) = (tokensWithin fuel rest).map (t :: ·) := by
  rw [tokensWithin, List.dropWhile_cons_of_neg (ne_true_of_eq_false hgap)]
  dsimp only
  rw [h]

/-- A text that begins with no blank and is taken as one token. -/
theorem lexes_token {c : Char} {s : List Char} {t : Token} (hgap : isGap c = false)
    (h : ∀ rest, EndsNumeral rest → readToken? (c :: s ++ rest) = some (t, rest)) :
    Lexes (c :: s) [t] := by
  intro rest hrest fuel hfuel
  cases fuel with
  | zero => cases hfuel
  | succ fuel =>
    refine ⟨fuel, ?_, ?_⟩
    · rw [List.length_append, List.length_cons] at hfuel
      omega
    · exact tokensWithin_succ hgap (h rest hrest) fuel

/-- The tokens of a whole text. -/
theorem Lexes.tokens? {s : List Char} {tokens : List Token} (h : Lexes s tokens) :
    Json.tokens? s = some tokens := by
  obtain ⟨fuel, -, htokens⟩ := h [] endsNumeral_nil s.length (by rw [List.append_nil])
  have hnone : tokensWithin fuel [] = some [] := by
    cases fuel <;> rfl
  rw [List.append_nil, hnone, Option.map_some, List.append_nil] at htokens
  exact htokens

/-! ### Printed tokens -/

theorem lexes_nil : Lexes [] [] := by
  intro rest _ fuel hfuel
  refine ⟨fuel, hfuel, ?_⟩
  cases h : tokensWithin fuel rest <;> simp [h]

/-- A mark is a token by itself, whatever follows. -/
theorem Lexes.cons_mark {c : Char} {t : Token} {s : List Char} {tokens : List Token}
    (hgap : isGap c = false) (hmark : ∀ rest, readToken? (c :: rest) = some (t, rest))
    (h : Lexes s tokens) : Lexes (c :: s) (t :: tokens) := by
  intro rest hrest fuel hfuel
  cases fuel with
  | zero => cases hfuel
  | succ fuel =>
    rw [List.cons_append, List.length_cons] at hfuel
    obtain ⟨fuel', hfuel', htokens⟩ := h rest hrest fuel (by omega)
    refine ⟨fuel', hfuel', ?_⟩
    rw [List.cons_append, tokensWithin_succ hgap (hmark _), htokens, Option.map_map]
    rfl

theorem lexes_quoted (s : String) : Lexes (quoted s.toList) [.string (some s)] :=
  lexes_token rfl fun rest _ => readToken?_quoted s rest

theorem lexes_numeral {n : Numeral} (h : n.IsProper) : Lexes n.text [.number n] := by
  obtain ⟨c, s, htext, hgap⟩ : ∃ c s, n.text = c :: s ∧ isGap c = false := by
    unfold Numeral.text
    split_ifs
    · exact ⟨'-', _, rfl, rfl⟩
    · obtain ⟨c, s, hmagnitude, hc⟩ := h.exists_magnitudeText_eq_cons
      refine ⟨c, s, hmagnitude, eq_false_of_ne_true fun hgap => ?_⟩
      simp only [isGap, Bool.or_eq_true, decide_eq_true_eq] at hgap
      rcases hgap with ((rfl | rfl) | rfl) | rfl <;> cases hc
  rw [htext]
  refine lexes_token hgap fun rest hrest => ?_
  rw [← htext]
  exact Numeral.readToken?_text h hrest

end ZigbeeGateway.Json
