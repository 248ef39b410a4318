import Mathlib.Tactic.Ring
import Mathlib.Tactic.SplitIfs
import ZigbeeGateway.Proofs.Text.Digits
import ZigbeeGateway.Text.Integer

/-!
# Reading integers

A run of digits *spells* a number in positional notation: every digit counts as often as the base
raised to the number of digits behind it (`Spells`).  The digits that are written for a number spell it
(`spells_padded`), and what is read is what the digits spell, up to the bound of the number
(`readNatural_eq_ok_iff`).  So a number that was written is read back (`readNatural_padded`).

Reading takes one plus sign in front of the digits, which is never written.
-/

namespace ZigbeeGateway.Text

variable {base bound d m n width : Nat} {c c' : Char} {s t : List Char} {e : IntegerError}

/-! ### Digits -/

/-- A character stands for a digit of a base.  A letter may be in either case. -/
def IsDigit (base d : Nat) (c : Char) : Prop :=
  d < base ∧ (c = d.digitChar ∨ c = d.digitChar.toUpper)

theorem digit?_digitChar : ∀ d < 16, digit? 16 d.digitChar = some d := by
  decide

theorem digit?_toUpper_digitChar : ∀ d < 16, digit? 16 d.digitChar.toUpper = some d := by
  decide

theorem digitChar_decimal : ∀ d < 10, d.digitChar = Char.ofNat (d + 48) := by
  decide

theorem digitChar_letter : ∀ d < 16, 10 ≤ d →
    d.digitChar = Char.ofNat (d + 87) ∧ d.digitChar.toUpper = Char.ofNat (d + 55) := by
  decide

/-- A digit of one base is one of any other base that has a digit of this value. -/
theorem digit?_eq_some_iff_sixteen (hbase : base ≤ 16) :
    digit? base c = some d ↔ d < base ∧ digit? 16 c = some d := by
  unfold digit?
  simp only [Option.filter_eq_some_iff, decide_eq_true_iff]
  constructor
  · rintro ⟨hvalue, hd⟩
    exact ⟨hd, hvalue, by omega⟩
  · rintro ⟨hd, hvalue, -⟩
    exact ⟨hvalue, hd⟩

/-- The characters that are read as a digit are those that stand for it. -/
theorem digit?_eq_some_iff (hbase : base ≤ 16) : digit? base c = some d ↔ IsDigit base d c := by
  rw [digit?_eq_some_iff_sixteen hbase, IsDigit]
  refine and_congr_right fun hd => ?_
  constructor
  · intro h
    unfold digit? at h
    rw [Option.filter_eq_some_iff, decide_eq_true_iff] at h
    obtain ⟨hvalue, hsixteen⟩ := h
    have hself : Char.ofNat c.toNat = c := Char.ofNat_toNat c
    -- A digit, a small letter or a capital: in each range the value counts from the first character.
    split_ifs at hvalue with hdecimal hlower hupper
    · have h1 : 48 ≤ c.toNat := Char.le_def.mp hdecimal.1
      have h2 : c.toNat ≤ 57 := Char.le_def.mp hdecimal.2
      have h3 := Option.some.inj hvalue
      left
      rw [digitChar_decimal d (by omega), show d + 48 = c.toNat by omega, hself]
    · have h1 : 97 ≤ c.toNat := Char.le_def.mp hlower.1
      have h3 := Option.some.inj hvalue
      left
      rw [(digitChar_letter d hsixteen (by omega)).1, show d + 87 = c.toNat by omega, hself]
    · have h1 : 65 ≤ c.toNat := Char.le_def.mp hupper.1
      have h3 := Option.some.inj hvalue
      right
      rw [(digitChar_letter d hsixteen (by omega)).2, show d + 55 = c.toNat by omega, hself]
  · rintro (rfl | rfl)
    · exact digit?_digitChar d (by omega)
    · exact digit?_toUpper_digitChar d (by omega)

theorem isDigit_digitChar (hd : d < base) : IsDigit base d d.digitChar :=
  ⟨hd, .inl rfl⟩

theorem IsDigit.unique (hbase : base ≤ 16) (hm : IsDigit base m c) (hn : IsDigit base n c) :
    m = n :=
  Option.some.inj (((digit?_eq_some_iff hbase).mpr hm).symm.trans ((digit?_eq_some_iff hbase).mpr hn))

/-- A digit is no sign and no mark between digits. -/
theorem IsDigit.ne (h : IsDigit base d c) (hbase : base ≤ 16) (hc' : digit? base c' = none) :
    c ≠ c' := by
  rintro rfl
  rw [(digit?_eq_some_iff hbase).mpr h] at hc'
  cases hc'

/-! ### Runs of digits -/

/-- The digits spell the number in a base. -/
inductive Spells (base : Nat) : List Char → Nat → Prop where
  | nil : Spells base [] 0
  | cons {c : Char} {s : List Char} {d n : Nat} :
    IsDigit base d c → Spells base s n → Spells base (c :: s) (d * base ^ s.length + n)

namespace Spells

theorem digit (hd : d < base) : Spells base [d.digitChar] d := by
  have h := cons (isDigit_digitChar hd) (@nil base)
  rwa [List.length_nil, Nat.pow_zero, Nat.mul_one, Nat.add_zero] at h

/-- Digits in front count as often as the digits behind them allow. -/
theorem append (hs : Spells base s m) (ht : Spells base t n) :
    Spells base (s ++ t) (m * base ^ t.length + n) := by
  induction hs with
  | nil => simpa using ht
  | @cons c s d k hd _ ih =>
    have hvalue : (d * base ^ s.length + k) * base ^ t.length + n =
        d * (base ^ s.length * base ^ t.length) + (k * base ^ t.length + n) := by
      ring
    have h := cons hd ih
    rw [List.length_append, Nat.pow_add, ← hvalue] at h
    exact h

theorem zeros (hbase : 0 < base) (count : Nat) : Spells base (List.replicate count '0') 0 := by
  induction count with
  | zero => exact nil
  | succ count ih =>
    have h := cons (isDigit_digitChar hbase) ih
    rwa [Nat.zero_mul, Nat.add_zero] at h

theorem unique (hbase : base ≤ 16) (hm : Spells base s m) (hn : Spells base s n) : m = n := by
  induction hm generalizing n with
  | nil =>
    cases hn
    rfl
  | cons hd _ ih =>
    cases hn with
    | cons hd' hs' => rw [hd.unique hbase hd', ih hs']

theorem exists_isDigit (h : Spells base s n) (hc : c ∈ s) : ∃ d, IsDigit base d c := by
  induction h with
  | nil => cases hc
  | @cons _ _ d _ hd _ ih =>
    rcases List.mem_cons.mp hc with rfl | hc
    · exact ⟨d, hd⟩
    · exact ih hc

/-- No sign and no mark stands among digits. -/
theorem ne_of_mem (h : Spells base s n) (hbase : base ≤ 16) (hc' : digit? base c' = none)
    (hc : c ∈ s) : c ≠ c' := by
  obtain ⟨d, hd⟩ := h.exists_isDigit hc
  exact hd.ne hbase hc'

end Spells

/-- The digits of a number spell it. -/
theorem spells_toDigits (hbase : 1 < base) (n : Nat) : Spells base (Nat.toDigits base n) n := by
  induction n using Nat.strong_induction_on with
  | _ n ih =>
    by_cases hn : n < base
    · rw [Nat.toDigits_of_lt_base hn]
      exact .digit hn
    · -- The last digit is the remainder, and those before it are the digits of the quotient.
      rw [Nat.toDigits_of_base_le hbase (by omega)]
      have hless : n / base < n := Nat.div_lt_self (by omega) hbase
      have h := (ih (n / base) hless).append (.digit (Nat.mod_lt n (by omega)))
      rwa [List.length_singleton, Nat.pow_one, Nat.div_add_mod'] at h

/-- **Padded digits spell their number.** -/
theorem spells_padded (hbase : 1 < base) (width n : Nat) : Spells base (padded base width n) n := by
  have h := (Spells.zeros (by omega) (width - (Nat.toDigits base n).length)).append
    (spells_toDigits hbase n)
  rwa [Nat.zero_mul, Nat.zero_add] at h

theorem padded_ne_nil (width n : Nat) : padded base width n ≠ [] :=
  List.append_ne_nil_of_right_ne_nil _ Nat.toDigits_ne_nil

/-- Different numbers have different digits. -/
theorem padded_injective (hbase : 1 < base) (hsixteen : base ≤ 16)
    (h : padded base width m = padded base width n) : m = n :=
  (spells_padded hbase width m).unique hsixteen (h ▸ spells_padded hbase width n)

/-! ### Reading -/

/-- What is read on top of a number that is not beyond the bound. -/
theorem readDigits_eq_ok_iff (hbase : 0 < base) (hsixteen : base ≤ 16) (hn : n ≤ bound) :
    readDigits base bound e n s = .ok m ↔
      m ≤ bound ∧ ∃ k, Spells base s k ∧ m = n * base ^ s.length + k := by
  induction s generalizing n with
  | nil =>
    simp only [readDigits, Except.ok.injEq]
    constructor
    · rintro rfl
      exact ⟨hn, 0, .nil, by simp⟩
    · rintro ⟨-, k, hk, rfl⟩
      cases hk
      simp
  | cons c s ih =>
    rw [readDigits]
    cases hdigit : digit? base c with
    | none =>
      constructor
      · intro h
        cases h
      · rintro ⟨-, k, hk, -⟩
        cases hk with
        | cons hd _ =>
          rw [(digit?_eq_some_iff hsixteen).mpr hd] at hdigit
          cases hdigit
    | some d =>
      have hd := (digit?_eq_some_iff hsixteen).mp hdigit
      -- The digits behind the first one count on top of what was read with it.
      have hvalue : ∀ k, n * base ^ (s.length + 1) + (d * base ^ s.length + k) =
          (n * base + d) * base ^ s.length + k := by
        intro k
        ring
      have hsplit : (∃ k, Spells base (c :: s) k ∧ m = n * base ^ (s.length + 1) + k) ↔
          ∃ k, Spells base s k ∧ m = (n * base + d) * base ^ s.length + k := by
        constructor
        · rintro ⟨k, hk, rfl⟩
          cases hk with
          | @cons _ _ d' k hd' hs =>
            obtain rfl := hd.unique hsixteen hd'
            exact ⟨k, hs, hvalue k⟩
        · rintro ⟨k, hk, rfl⟩
          exact ⟨_, .cons hd hk, (hvalue k).symm⟩
      rw [List.length_cons, hsplit]
      dsimp only
      split_ifs with hbound
      · exact ih hbound
      · constructor
        · intro h
          cases h
        · rintro ⟨hm, k, -, rfl⟩
          -- The bound is passed already, and more digits do not lead back.
          have hgrows : n * base + d ≤ (n * base + d) * base ^ s.length :=
            Nat.le_mul_of_pos_right _ (Nat.pow_pos hbase)
          omega

/-- **What is read as a number**: digits that spell it, with or without a plus sign in front. -/
theorem readNatural_eq_ok_iff (hbase : 0 < base) (hsixteen : base ≤ 16) :
    readNatural base bound s = .ok n ↔
      n ≤ bound ∧ ∃ digits, digits ≠ [] ∧ (s = digits ∨ s = '+' :: digits) ∧
        Spells base digits n := by
  have hread : ∀ digits, readDigits base bound .tooLarge 0 digits = .ok n ↔
      n ≤ bound ∧ Spells base digits n := by
    intro digits
    rw [readDigits_eq_ok_iff hbase hsixteen (Nat.zero_le bound)]
    simp
  -- A plus sign is no digit of any base, so a text cannot be read both with and without it.
  have hplus : ∀ digits k, ¬ Spells base ('+' :: digits) k := by
    intro digits k h
    have hsign : digit? base '+' = none := rfl
    exact h.ne_of_mem hsixteen hsign List.mem_cons_self rfl
  unfold readNatural
  split
  · simp
  · -- A sign without digits is no number.
    constructor
    · intro h
      cases h
    · rintro ⟨-, digits, hne, hs | hs, hdigits⟩
      · exact absurd (hs ▸ hdigits) (hplus _ _)
      · exact absurd (List.cons.inj hs).2.symm hne
  · -- One sign is dropped, and what is read behind it is digits without another.
    rename_i digits hne
    rw [hread]
    constructor
    · rintro ⟨hn, hdigits⟩
      exact ⟨hn, digits, by rintro rfl; exact hne rfl, .inr rfl, hdigits⟩
    · rintro ⟨hn, digits', -, hs | hs, hdigits⟩
      · exact absurd (hs ▸ hdigits) (hplus _ _)
      · exact ⟨hn, (List.cons.inj hs).2 ▸ hdigits⟩
  · -- Without a sign the whole text is digits.
    rename_i hne hsingle hsigned
    rw [hread]
    constructor
    · rintro ⟨hn, hdigits⟩
      exact ⟨hn, s, hne, .inl rfl, hdigits⟩
    · rintro ⟨hn, digits, -, rfl | rfl, hdigits⟩
      · exact ⟨hn, hdigits⟩
      · exact absurd rfl (hsigned digits)

/-- A run of digits is read as what it spells. -/
theorem readNatural_of_spells (hbase : 0 < base) (hsixteen : base ≤ 16) (hs : s ≠ [])
    (h : Spells base s n) (hn : n ≤ bound) : readNatural base bound s = .ok n :=
  (readNatural_eq_ok_iff hbase hsixteen).mpr ⟨hn, s, hs, .inl rfl, h⟩

/-- **A number that was written is read back.** -/
theorem readNatural_padded (hbase : 1 < base) (hsixteen : base ≤ 16) (hn : n ≤ bound) :
    readNatural base bound (padded base width n) = .ok n :=
  readNatural_of_spells (by omega) hsixteen (padded_ne_nil width n) (spells_padded hbase width n) hn

end ZigbeeGateway.Text
