import ZigbeeGateway.Proofs.UniqueId
import ZigbeeGateway.Setup.Pattern

/-!
# The grammar of patterns

A pattern is the marker of the address, an endpoint and possibly a cluster.  The numbers stand between
blanks, in decimal or behind a mark in hexadecimal, and fit one byte and two bytes
(`UniqueId.Describes`).  Just these patterns give a unique id, but for one thing: a number is also
taken with a plus sign in front of its digits, behind the mark of a hexadecimal one
(`UniqueId.ofPattern_grammar`).
-/

namespace ZigbeeGateway

namespace Text

variable {c : Char} {s : List Char}

/-- Trimming leaves every character that is no blank. -/
theorem mem_trim_iff (hc : isBlank c = false) : c ∈ trim s ↔ c ∈ s := by
  have hfront : ∀ t, c ∈ trimFront t ↔ c ∈ t := by
    intro t
    unfold trimFront
    refine ⟨fun h => (List.dropWhile_sublist _).mem h, fun h => ?_⟩
    rw [← List.takeWhile_append_dropWhile (p := isBlank) (l := t), List.mem_append] at h
    refine h.resolve_left fun htaken => ?_
    rw [List.mem_takeWhile_imp htaken] at hc
    cases hc
  rw [trim, List.mem_reverse, hfront, List.mem_reverse, hfront]

end Text

namespace Description

open Text

variable {s : String} {n : Nat} {sign t : List Char} {mark : Char}

/-- The mark of a hexadecimal number, behind a zero. -/
def IsMark (c : Char) : Prop :=
  c = 'x' ∨ c = 'X'

/-- Between blanks, the text is a number in decimal, or in hexadecimal behind a mark, with a sign in
front of the digits. -/
inductive HasNumber (sign : List Char) (s : String) (n : Nat) : Prop where
  | decimal (digits : List Char) (text : trim s.toList = sign ++ digits) (nonempty : digits ≠ [])
    (spells : Spells 10 digits n)
  | hexadecimal (mark : Char) (digits : List Char) (isMark : IsMark mark)
    (text : trim s.toList = '0' :: mark :: (sign ++ digits)) (nonempty : digits ≠ [])
    (spells : Spells 16 digits n)

/-- The text is a number. -/
def IsNumber (s : String) (n : Nat) : Prop :=
  HasNumber [] s n

/-- The text is a number, or would be one without a plus sign in front of its digits. -/
def IsRead (s : String) (n : Nat) : Prop :=
  ∃ sign, (sign = [] ∨ sign = ['+']) ∧ HasNumber sign s n

/-- Decimal digits with or without a sign do not look like a mark. -/
theorem not_mark_of_spells {digits : List Char} (hmark : IsMark mark)
    (hsign : sign = [] ∨ sign = ['+']) (hspells : Spells 10 digits n) :
    '0' :: mark :: t ≠ sign ++ digits := by
  intro htext
  have hdigit : digit? 10 mark = none := by
    rcases hmark with rfl | rfl <;> decide
  rcases hsign with rfl | rfl
  · rw [List.nil_append] at htext
    exact hspells.ne_of_mem (by omega) hdigit (by simp [← htext]) rfl
  · simp at htext

/-! ### Reading numbers -/

theorem unsigned?_of_mark (hmark : IsMark mark) (htext : trim s.toList = '0' :: mark :: t) :
    unsigned? s = (readNatural 16 (2 ^ 64 - 1) t).toOption := by
  rw [unsigned?, htext]
  rcases hmark with rfl | rfl <;> rfl

theorem unsigned?_of_no_mark (h : ∀ mark t, IsMark mark → trim s.toList ≠ '0' :: mark :: t) :
    unsigned? s = (readNatural 10 (2 ^ 64 - 1) (trim s.toList)).toOption := by
  unfold unsigned?
  split
  · exact absurd ‹_› (h 'x' _ (.inl rfl))
  · exact absurd ‹_› (h 'X' _ (.inr rfl))
  · rfl

theorem toOption_readNatural_eq_some_iff {base : Nat} (hbase : 0 < base) (hsixteen : base ≤ 16) :
    (readNatural base (2 ^ 64 - 1) t).toOption = some n ↔
      n < 2 ^ 64 ∧ ∃ digits, digits ≠ [] ∧ (t = digits ∨ t = '+' :: digits) ∧
        Spells base digits n := by
  have hbound : n < 2 ^ 64 ↔ n ≤ 2 ^ 64 - 1 := by omega
  rw [hbound, ← readNatural_eq_ok_iff hbase hsixteen]
  cases readNatural base (2 ^ 64 - 1) t <;> simp [Except.toOption]

/-- **The texts that are read as a number.** -/
theorem unsigned?_eq_some_iff : unsigned? s = some n ↔ n < 2 ^ 64 ∧ IsRead s n := by
  -- A mark decides for the base, since decimal digits never look like one.
  by_cases hmarked : ∃ mark t, IsMark mark ∧ trim s.toList = '0' :: mark :: t
  · obtain ⟨mark, t, hmark, htext⟩ := hmarked
    rw [unsigned?_of_mark hmark htext, toOption_readNatural_eq_some_iff (by omega) (by omega)]
    refine and_congr_right fun _ => ⟨?_, ?_⟩
    · rintro ⟨digits, hne, rfl | rfl, hspells⟩
      · exact ⟨[], .inl rfl, .hexadecimal mark t hmark htext hne hspells⟩
      · exact ⟨['+'], .inr rfl, .hexadecimal mark digits hmark htext hne hspells⟩
    · rintro ⟨sign, hsign, hnumber⟩
      cases hnumber with
      | decimal digits text _ spells =>
        exact absurd (htext.symm.trans text) (not_mark_of_spells hmark hsign spells)
      | hexadecimal mark' digits _ text nonempty spells =>
        have ht : t = sign ++ digits := (List.cons.inj (List.cons.inj (htext.symm.trans text)).2).2
        refine ⟨digits, nonempty, ?_, spells⟩
        rcases hsign with rfl | rfl
        · exact .inl ht
        · exact .inr ht
  · have hunmarked : ∀ mark t, IsMark mark → trim s.toList ≠ '0' :: mark :: t :=
      fun mark t hmark htext => hmarked ⟨mark, t, hmark, htext⟩
    rw [unsigned?_of_no_mark hunmarked, toOption_readNatural_eq_some_iff (by omega) (by omega)]
    refine and_congr_right fun _ => ⟨?_, ?_⟩
    · rintro ⟨digits, hne, htext | htext, hspells⟩
      · exact ⟨[], .inl rfl, .decimal digits htext hne hspells⟩
      · exact ⟨['+'], .inr rfl, .decimal digits htext hne hspells⟩
    · rintro ⟨sign, hsign, hnumber⟩
      cases hnumber with
      | decimal digits text nonempty spells =>
        refine ⟨digits, nonempty, ?_, spells⟩
        rcases hsign with rfl | rfl
        · exact .inl text
        · exact .inr text
      | hexadecimal mark digits hmark text _ _ => exact absurd text (hunmarked mark _ hmark)

/-- **No plus sign stands in a number**, and one stands in what is read beyond numbers. -/
theorem isNumber_iff : IsNumber s n ↔ IsRead s n ∧ '+' ∉ s.toList := by
  have hblank : isBlank '+' = false := by decide
  rw [← mem_trim_iff hblank]
  constructor
  · intro h
    refine ⟨⟨[], .inl rfl, h⟩, ?_⟩
    intro hplus
    -- Neither form of a number has a plus sign: digits have none, and the mark is no sign.
    cases h with
    | decimal digits text _ spells =>
      rw [text] at hplus
      exact spells.ne_of_mem (by omega) (by decide) hplus rfl
    | hexadecimal mark digits hmark text _ spells =>
      rw [text, List.mem_cons, List.mem_cons] at hplus
      rcases hplus with hplus | rfl | hplus
      · exact absurd hplus (by decide)
      · rcases hmark with hmark | hmark <;> exact absurd hmark (by decide)
      · exact spells.ne_of_mem (by omega) (by decide) hplus rfl
  · rintro ⟨⟨sign, rfl | rfl, hnumber⟩, hplus⟩
    · exact hnumber
    · -- What was read behind a sign stands in a text with a plus sign.
      cases hnumber with
      | decimal digits text _ _ => exact absurd (by simp [text]) hplus
      | hexadecimal mark digits _ text _ _ => exact absurd (by simp [text]) hplus

end Description

/-! ### Patterns -/

namespace UniqueId

open Description

variable {pattern : List String} {address : ExtAddress} {u : UniqueId} {s : String} {e : UInt8}
  {c : UInt16}

/-- The pattern names an endpoint and a cluster by numbers. -/
inductive Describes (IsNumber : String → Nat → Prop) : List String → UInt8 → UInt16 → Prop where
  | endpoint {s : String} {e : UInt8} : IsNumber s e.toNat → Describes IsNumber [addressMarker, s] e 0
  | cluster {s s' : String} {e : UInt8} {c : UInt16} : IsNumber s e.toNat → IsNumber s' c.toNat →
    Describes IsNumber [addressMarker, s, s'] e c

theorem patternEndpoint?_eq_some_iff : patternEndpoint? s = some e ↔ IsRead s e.toNat := by
  have he := e.toNat_lt
  unfold patternEndpoint?
  simp only [Option.map_eq_some_iff, Option.filter_eq_some_iff, unsigned?_eq_some_iff,
    decide_eq_true_iff]
  constructor
  · rintro ⟨n, ⟨⟨-, hread⟩, hn⟩, rfl⟩
    rwa [UInt8.toNat_ofNat_of_lt' hn]
  · intro hread
    exact ⟨e.toNat, ⟨⟨by omega, hread⟩, he⟩, UInt8.ofNat_toNat⟩

theorem patternCluster?_eq_some_iff : patternCluster? s = some c ↔ IsRead s c.toNat := by
  have hc := c.toNat_lt
  unfold patternCluster?
  simp only [Option.map_eq_some_iff, Option.filter_eq_some_iff, unsigned?_eq_some_iff,
    decide_eq_true_iff]
  constructor
  · rintro ⟨n, ⟨⟨-, hread⟩, hn⟩, rfl⟩
    rwa [UInt16.toNat_ofNat_of_lt' hn]
  · intro hread
    exact ⟨c.toNat, ⟨⟨by omega, hread⟩, hc⟩, UInt16.ofNat_toNat⟩

/-- A pattern whose numbers are read gives the id of the address and of these numbers. -/
theorem ofPattern_of_describes (h : Describes IsRead pattern e c) (address : ExtAddress) :
    ofPattern pattern address = generate address e c := by
  cases h with
  | endpoint he => simp [ofPattern, patternEndpoint?_eq_some_iff.mpr he]
  | cluster he hc =>
    simp [ofPattern, patternEndpoint?_eq_some_iff.mpr he, patternCluster?_eq_some_iff.mpr hc]

/-- Only such patterns give an id. -/
theorem exists_describes (h : ofPattern pattern address ≠ empty) :
    ∃ e c, Describes IsRead pattern e c := by
  unfold ofPattern at h
  split at h
  · split_ifs at h with hmarker
    · subst hmarker
      -- The endpoint stands alone or with one text behind it, and all else gives no id.
      split at h
      · rename_i he
        exact ⟨_, _, .endpoint (patternEndpoint?_eq_some_iff.mp he)⟩
      · rename_i he
        split at h
        · rename_i hc
          exact ⟨_, _, .cluster (patternEndpoint?_eq_some_iff.mp he)
            (patternCluster?_eq_some_iff.mp hc)⟩
        · exact absurd rfl h
      · exact absurd rfl h
    · exact absurd rfl h
  · exact absurd rfl h

/-- The numbers of a pattern are numbers without more if no plus sign stands in the pattern. -/
theorem describes_isNumber_iff :
    Describes IsNumber pattern e c ↔
      Describes IsRead pattern e c ∧ ∀ s ∈ pattern, '+' ∉ s.toList := by
  have hmarker : '+' ∉ addressMarker.toList := by decide
  constructor
  · intro h
    cases h with
    | endpoint he =>
      rw [isNumber_iff] at he
      exact ⟨.endpoint he.1, by simp [hmarker, he.2]⟩
    | cluster he hc =>
      rw [isNumber_iff] at he hc
      exact ⟨.cluster he.1 hc.1, by simp [hmarker, he.2, hc.2]⟩
  · rintro ⟨h, hplus⟩
    cases h with
    | endpoint he => exact .endpoint (isNumber_iff.mpr ⟨he, hplus _ (by simp)⟩)
    | cluster he hc =>
      exact .cluster (isNumber_iff.mpr ⟨he, hplus _ (by simp)⟩)
        (isNumber_iff.mpr ⟨hc, hplus _ (by simp)⟩)

/-- **The patterns that give a unique id**, and the id that they give: the marker of the address, an
endpoint and possibly a cluster, whose numbers may have a plus sign in front of their digits.  Without
a plus sign anywhere the patterns with an id are just those that name endpoint and cluster by
numbers. -/
theorem ofPattern_grammar (pattern : List String) (address : ExtAddress) (u : UniqueId) :
    ((ofPattern pattern address = u ∧ u ≠ empty) ↔
        ∃ e c, Describes IsRead pattern e c ∧ u = generate address e c) ∧
      ((∃ e c, Describes IsNumber pattern e c) ↔
        ofPattern pattern address ≠ empty ∧ ∀ s ∈ pattern, '+' ∉ s.toList) := by
  -- What is generated is never empty, so emptiness tells the two cases apart.
  have hne : ∀ e c, generate address e c ≠ empty := by
    intro e c hempty
    have h := isEmpty_generate address e c
    rw [hempty] at h
    exact absurd h (by decide)
  constructor
  · constructor
    · rintro ⟨rfl, hu⟩
      obtain ⟨e, c, h⟩ := exists_describes hu
      exact ⟨e, c, h, ofPattern_of_describes h address⟩
    · rintro ⟨e, c, h, rfl⟩
      exact ⟨ofPattern_of_describes h address, hne e c⟩
  · simp only [describes_isNumber_iff]
    constructor
    · rintro ⟨e, c, h, hplus⟩
      rw [ofPattern_of_describes h]
      exact ⟨hne e c, hplus⟩
    · rintro ⟨hu, hplus⟩
      obtain ⟨e, c, h⟩ := exists_describes hu
      exact ⟨e, c, h, hplus⟩

/-- Endpoint and cluster of a temperature sensor between blanks, in decimal and in hexadecimal. -/
def sensorPattern : List String := ["$address.ext", " 1", "0X0402 "]

theorem sensorPattern_gives_id :
    "0X0402 " ∈ sensorPattern ∧ '+' ∉ "0X0402 ".toList ∧
      (∃ e c, Describes IsNumber sensorPattern e c) ∧
      ∃ e c, Describes IsRead sensorPattern e c ∧
        ofPattern sensorPattern ⟨0x00124b0012345678⟩ = generate ⟨0x00124b0012345678⟩ e c := by
  obtain ⟨hgives, hplain⟩ := ofPattern_grammar sensorPattern ⟨0x00124b0012345678⟩
    (ofPattern sensorPattern ⟨0x00124b0012345678⟩)
  have hne : ofPattern sensorPattern ⟨0x00124b0012345678⟩ ≠ empty := by decide +kernel
  exact ⟨by decide, by decide, hplain.mpr ⟨hne, by decide⟩, hgives.mp ⟨rfl, hne⟩⟩

/-- A plus sign between the mark of a hexadecimal number and its digits is taken, although this is no
number. -/
theorem plus_sign_taken :
    ofPattern ["$address.ext", "0x+1"] ⟨1⟩ = generate ⟨1⟩ 1 0 ∧ generate ⟨1⟩ 1 0 ≠ empty ∧
      ¬ ∃ e c, Describes IsNumber ["$address.ext", "0x+1"] e c := by
  refine ⟨by decide +kernel, by decide +kernel, ?_⟩
  rintro ⟨e, c, h⟩
  exact (describes_isNumber_iff.mp h).2 "0x+1" (by simp) (by decide)

end UniqueId

end ZigbeeGateway
