import ZigbeeGateway.Proofs.Time.Text

/-!
# Instants in stored form

An instant of whole milliseconds that is written in the form of RFC 3339 is read back if its year has
four digits, and is not read at all otherwise (`Occurs.read?_rfc3339Text`): a signed year is not in the
form of RFC 3339, and the reader for the form without a zone stops at the zone.
-/

namespace ZigbeeGateway.Instant

open Text

variable {t : Instant} {n : Nat} {rest : List Char}

/-- Whether the year of an instant is written with four digits and without a sign. -/
def HasPlainYear (t : Instant) : Prop :=
  0 ≤ t.date.year ∧ t.date.year ≤ 9999

instance (t : Instant) : Decidable t.HasPlainYear :=
  inferInstanceAs (Decidable (_ ∧ _))

/-! ### The written form -/

/-- Date and time of day behind the year, with what follows the second. -/
def clockText (t : Instant) (tail : List Char) : List Char :=
  '-' :: (padded 10 2 t.fields.month ++ '-' :: (padded 10 2 t.fields.day ++
    'T' :: (padded 10 2 t.fields.hour ++ ':' :: (padded 10 2 t.fields.minute ++
    ':' :: (padded 10 2 t.fields.second ++ tail)))))

theorem secondsText_append (t : Instant) (tail : List Char) :
    t.secondsText ++ tail = yearText t.fields.year ++ t.clockText tail := by
  simp [secondsText, fields, clockText]

/-- The milliseconds of a stored instant, if there are any. -/
def millisText (t : Instant) : List Char :=
  if t.nanos % nanosPerSecond = 0 then []
  else '.' :: padded 10 3 (t.nanos % nanosPerSecond / 1000000)

/-- An instant of whole milliseconds has at most three decimals. -/
theorem rfc3339Text_eq (hcut : t.truncToMillis = t) :
    t.rfc3339Text = yearText t.fields.year ++ t.clockText (t.millisText ++ ['Z']) := by
  have hmillis : t.nanos % nanosPerSecond % 1000000 = 0 := by
    have hnanos := congrArg Instant.nanos hcut
    unfold truncToMillis at hnanos
    unfold nanosPerSecond
    dsimp only at hnanos
    omega
  rw [← secondsText_append, ← List.append_assoc]
  unfold rfc3339Text millisText
  dsimp only
  congr 2
  rw [if_pos hmillis]

/-! ### Reading it -/

theorem takeFraction?_padded_append (hn : n < 1000) (hrest : ∀ c ∈ rest.head?, isDecimal c = false) :
    takeFraction? ('.' :: (padded 10 3 n ++ rest)) = some (n * 1000000, rest) := by
  have hnumber : takeNumber? 1 9 (padded 10 3 n ++ rest) = some (n, rest) :=
    takeNumber?_padded (by omega) hn (by omega) (by omega) (.inr hrest)
  have hlength : (padded 10 3 n).length = 3 := length_padded (by omega) (by omega) hn
  have hstop : rest.dropWhile isDecimal = rest := by
    cases rest with
    | nil => rfl
    | cons c rest => exact List.dropWhile_cons_of_neg (by rw [hrest c rfl]; exact Bool.false_ne_true)
  simp [takeFraction?, hnumber, hlength, hstop]

/-- The milliseconds are taken up to the zone. -/
theorem Occurs.takeFraction?_millisText (h : t.Occurs) :
    takeFraction? (t.millisText ++ ['Z']) = some (t.fields.nanos, ['Z']) := by
  obtain ⟨-, -, -, -, -, hmillis⟩ := h.fields_lt
  unfold millisText
  split_ifs with hzero
  · have hnanos : t.fields.nanos = 0 := by
      unfold fields
      dsimp only
      rw [hzero]
    rw [hnanos]
    rfl
  · exact takeFraction?_padded_append hmillis fun c hc => Option.some.inj hc ▸ rfl

/-- **A year of four digits is read back from the stored form.** -/
theorem Occurs.readRfc3339?_rfc3339Text (h : t.Occurs) (hcut : t.truncToMillis = t)
    (hyear : t.HasPlainYear) : readRfc3339? t.rfc3339Text = some t := by
  obtain ⟨hmonth, hday, hhour, hminute, hsecond, -⟩ := h.fields_lt
  obtain ⟨hfirst, hlast⟩ := hyear
  have hfour : 0 ≤ t.fields.year ∧ t.fields.year ≤ 9999 := ⟨hfirst, hlast⟩
  have hvalue : (t.fields.year.toNat : Int) = t.fields.year := Int.toNat_of_nonneg hfirst
  rw [rfc3339Text_eq hcut, yearText, if_pos hfour]
  refine bind_of_eq_some (takeNumber?_padded (by omega) (by omega) le_rfl le_rfl (.inl rfl)) ?_
  refine bind_of_eq_some rfl (bind_of_eq_some (takeTwo?_padded hmonth _) ?_)
  refine bind_of_eq_some rfl (bind_of_eq_some (takeTwo?_padded hday _) ?_)
  refine bind_of_eq_some rfl (bind_of_eq_some (takeTwo?_padded hhour _) ?_)
  refine bind_of_eq_some rfl (bind_of_eq_some (takeTwo?_padded hminute _) ?_)
  refine bind_of_eq_some rfl (bind_of_eq_some (takeTwo?_padded hsecond _) ?_)
  refine bind_of_eq_some h.takeFraction?_millisText ?_
  refine bind_of_eq_some rfl ?_
  rw [hvalue]
  exact h.toInstant?_fields.trans (congrArg some hcut)

/-- A signed year is not in the form of RFC 3339. -/
theorem readRfc3339?_rfc3339Text_eq_none (hcut : t.truncToMillis = t) (hyear : ¬t.HasPlainYear) :
    readRfc3339? t.rfc3339Text = none := by
  have hfour : ¬(0 ≤ t.fields.year ∧ t.fields.year ≤ 9999) := hyear
  rw [rfc3339Text_eq hcut, yearText, if_neg hfour]
  unfold readRfc3339?
  split_ifs <;> rw [List.cons_append, takeNumber?_eq_none (by rfl) (by omega)] <;> rfl

/-- The form without a zone does not go on behind the second. -/
theorem Occurs.readPlain?_rfc3339Text (h : t.Occurs) (hcut : t.truncToMillis = t) :
    readPlain? t.rfc3339Text = none := by
  obtain ⟨hmonth, hday, hhour, hminute, hsecond, -⟩ := h.fields_lt
  rw [rfc3339Text_eq hcut]
  refine bind_of_eq_some (takeYear?_yearText _ _) ?_
  refine bind_of_eq_some rfl (bind_of_eq_some (takeShort?_padded hmonth _) ?_)
  refine bind_of_eq_some rfl (bind_of_eq_some (takeShort?_padded hday _) ?_)
  refine bind_of_eq_some rfl (bind_of_eq_some (takeShort?_padded hhour _) ?_)
  refine bind_of_eq_some rfl (bind_of_eq_some (takeShort?_padded hminute _) ?_)
  refine bind_of_eq_some rfl (bind_of_eq_some (takeShort?_padded hsecond _) ?_)
  exact bind_of_eq_some h.takeFraction?_millisText rfl

/-- **An instant is read back from the stored form exactly if its year has four digits.** -/
theorem Occurs.read?_rfc3339Text (h : t.Occurs) (hcut : t.truncToMillis = t) :
    read? t.rfc3339Text = if t.HasPlainYear then some t else none := by
  unfold read?
  split_ifs with hyear
  · rw [h.readRfc3339?_rfc3339Text hcut hyear, Option.some_or]
  · rw [readRfc3339?_rfc3339Text_eq_none hcut hyear, h.readPlain?_rfc3339Text hcut, Option.none_or]

end ZigbeeGateway.Instant
