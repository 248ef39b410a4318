import ZigbeeGateway.Proofs.Text.Digits
import ZigbeeGateway.Proofs.Time.Date
import ZigbeeGateway.Time.Text

/-!
# Instants read back

An instant that is written without a zone is read back as it is, cut to milliseconds (`read?_text`):
the reader for the form of RFC 3339 misses a zone (`readRfc3339?_text`), and the other one finds date
and time of day again, field by field.
-/

namespace ZigbeeGateway

open Text

/-- Digits are no blanks. -/
theorem Text.isBlank_of_isDecimal {c : Char} (h : isDecimal c = true) : isBlank c = false := by
  have hlow : 48 ≤ c.toNat ∧ c.toNat ≤ 57 := by
    simp only [isDecimal, Bool.and_eq_true, decide_eq_true_eq] at h
    exact h
  simp only [isBlank, blankRanges, List.any_eq_false, List.mem_cons, List.not_mem_nil, or_false]
  rintro range hrange
  rcases hrange with rfl | rfl | rfl | rfl | rfl | rfl | rfl | rfl | rfl | rfl <;> simp <;> omega

namespace Instant

/-- Whether an instant is one that clocks may show: it lies in a year of the calendar, and a leap
second ends a minute. -/
structure Occurs (t : Instant) : Prop where
  inRange : t.inRange = true
  fraction : t.nanos < 2 * nanosPerSecond
  leap : nanosPerSecond ≤ t.nanos → t.seconds % 60 = 59

/-! ### Taking fields -/

/-- A reader goes on with what its first step has taken. -/
theorem bind_of_eq_some {α β : Type} {x : Option α} {a : α} {k : α → Option β} {y : Option β}
    (hx : x = some a) (hk : k a = y) : (x >>= k) = y := by
  rw [hx]
  exact hk

variable {least most width n : Nat} {digits rest : List Char}

theorem takeNumber?_append (hdigits : ∀ c ∈ digits, isDecimal c = true)
    (hleast : least ≤ digits.length) (hmost : digits.length ≤ most)
    (hstop : digits.length = most ∨ ∀ c ∈ rest.head?, isDecimal c = false) :
    takeNumber? least most (digits ++ rest) = some (decimalValue digits, rest) := by
  have hrest : (rest.take (most - digits.length)).takeWhile isDecimal = [] := by
    rcases hstop with hfull | hstop
    · rw [hfull, Nat.sub_self, List.take_zero, List.takeWhile_nil]
    · cases rest with
      | nil => rw [List.take_nil, List.takeWhile_nil]
      | cons c rest =>
        cases most - digits.length with
        | zero => rfl
        | succ more =>
          rw [List.take_succ_cons, List.takeWhile_cons_of_neg]
          simp [hstop c rfl]
  have htaken : ((digits ++ rest).take most).takeWhile isDecimal = digits := by
    rw [List.take_append, List.take_of_length_le hmost, List.takeWhile_append_of_pos hdigits, hrest,
      List.append_nil]
  unfold takeNumber?
  dsimp only
  rw [htaken, if_pos hleast, List.drop_left]

/-- A padded number is taken as a whole if it fills the field or no digit follows. -/
theorem takeNumber?_padded (hwidth : 0 < width) (hn : n < 10 ^ width) (hleast : least ≤ width)
    (hmost : width ≤ most) (hstop : width = most ∨ ∀ c ∈ rest.head?, isDecimal c = false) :
    takeNumber? least most (padded 10 width n ++ rest) = some (n, rest) := by
  have hlength := length_padded (by omega) hwidth hn
  rw [takeNumber?_append fun c hc => isDecimal_of_mem_padded hc, decimalValue_padded]
  · rwa [hlength]
  · rwa [hlength]
  · rwa [hlength]

/-- Nothing that is no digit is taken as a number. -/
theorem takeNumber?_eq_none {c : Char} (hc : isDecimal c = false) (hleast : 0 < least)
    (s : List Char) : takeNumber? least most (c :: s) = none := by
  have hnone : ((c :: s).take most).takeWhile isDecimal = [] := by
    cases most with
    | zero => rfl
    | succ most =>
      rw [List.take_succ_cons, List.takeWhile_cons_of_neg]
      simp [hc]
  unfold takeNumber?
  dsimp only
  rw [hnone, if_neg (by rw [List.length_nil]; omega)]

/-- There is no blank in front of a padded number. -/
theorem trimFront_padded (hwidth : 0 < width) (n : Nat) (rest : List Char) :
    trimFront (padded 10 width n ++ rest) = padded 10 width n ++ rest := by
  have hlength := le_length_padded width n
  have hdecimal := fun c => @isDecimal_of_mem_padded width n c
  cases hdigits : padded 10 width n with
  | nil =>
    rw [hdigits, List.length_nil] at hlength
    omega
  | cons c digits =>
    refine List.dropWhile_cons_of_neg ?_
    rw [isBlank_of_isDecimal (hdecimal c (hdigits ▸ List.mem_cons_self))]
    exact Bool.false_ne_true

theorem takeShort?_padded (hn : n < 100) (rest : List Char) :
    takeShort? (padded 10 2 n ++ rest) = some (n, rest) := by
  rw [takeShort?, trimFront_padded (by omega)]
  exact takeNumber?_padded (by omega) hn (by omega) le_rfl (.inl rfl)

/-- A fraction of three digits counts milliseconds. -/
theorem takeFraction?_padded (hn : n < 1000) :
    takeFraction? ('.' :: padded 10 3 n) = some (n * 1000000, []) := by
  have hnumber : takeNumber? 1 9 (padded 10 3 n) = some (n, []) := by
    have htaken := @takeNumber?_padded 1 9 3 n [] (by omega) hn (by omega) (by omega) (.inr (by simp))
    rwa [List.append_nil] at htaken
  have hlength : (padded 10 3 n).length = 3 := length_padded (by omega) (by omega) hn
  simp [takeFraction?, hnumber, hlength]

/-! ### Years -/

/-- Behind a sign a year has any number of digits. -/
theorem takeNumber?_signed (n : Nat) (rest : List Char) :
    takeNumber? 1 (padded 10 4 n ++ '-' :: rest).length (padded 10 4 n ++ '-' :: rest) =
      some (n, '-' :: rest) := by
  have hlength := le_length_padded 4 n
  rw [takeNumber?_append fun c hc => isDecimal_of_mem_padded hc, decimalValue_padded]
  · omega
  · rw [List.length_append]
    omega
  · exact .inr fun c hc => Option.some.inj hc ▸ rfl

theorem takeYear?_minus (s : List Char) :
    takeYear? ('-' :: s) = (takeNumber? 1 s.length s).map fun (n, rest) => (-(n : Int), rest) :=
  rfl

theorem takeYear?_plus (s : List Char) :
    takeYear? ('+' :: s) = (takeNumber? 1 s.length s).map fun (n, rest) => ((n : Int), rest) :=
  rfl

/-- A year is taken up to the dash behind it. -/
theorem takeYear?_yearText (year : Int) (rest : List Char) :
    takeYear? (yearText year ++ '-' :: rest) = some (year, '-' :: rest) := by
  unfold yearText
  split_ifs with hfour hnegative
  · have htaken : takeNumber? 1 4 (padded 10 4 year.toNat ++ '-' :: rest) =
        some (year.toNat, '-' :: rest) :=
      takeNumber?_padded (by omega) (by omega) (by omega) le_rfl (.inl rfl)
    -- The first character is a digit, so it is no sign.
    have hfirst : ∀ s, padded 10 4 year.toNat ++ '-' :: rest ≠ '-' :: s ∧
        padded 10 4 year.toNat ++ '-' :: rest ≠ '+' :: s := by
      intro s
      constructor <;> intro hs <;> rw [hs] at htaken <;>
        rw [takeNumber?_eq_none (by rfl) (by omega)] at htaken <;> cases htaken
    unfold takeYear?
    rw [trimFront_padded (by omega)]
    split
    · exact absurd ‹_› (hfirst _).1
    · exact absurd ‹_› (hfirst _).2
    · rw [htaken]
      simp [hfour.1]
  · have hvalue : -(year.natAbs : Int) = year := by omega
    rw [List.cons_append, takeYear?_minus, takeNumber?_signed]
    exact congrArg (fun y => some (y, '-' :: rest)) hvalue
  · have hvalue : (year.natAbs : Int) = year := by omega
    rw [List.cons_append, takeYear?_plus, takeNumber?_signed]
    exact congrArg (fun y => some (y, '-' :: rest)) hvalue

/-! ### Whole instants -/

/-- The fields that are written for an instant. -/
def fields (t : Instant) : Fields where
  year := t.date.year
  month := t.date.month
  day := t.date.day
  hour := t.secondOfDay.toNat / 3600
  minute := t.secondOfDay.toNat / 60 % 60
  second := t.secondOfDay.toNat % 60 + t.nanos / nanosPerSecond
  nanos := t.nanos % nanosPerSecond / 1000000 * 1000000

/-- What is written exists: a date of the calendar and a time of day. -/
theorem Occurs.fields_range {t : Instant} (h : t.Occurs) :
    firstYear ≤ t.fields.year ∧ t.fields.year ≤ lastYear ∧
      (Time.Date.mk t.fields.year t.fields.month t.fields.day).IsValid ∧ t.fields.hour ≤ 23 ∧
      t.fields.minute ≤ 59 ∧ t.fields.second ≤ 60 := by
  have hrange := h.inRange
  have hfraction := h.fraction
  have hleap := h.leap
  simp only [Instant.inRange, Bool.and_eq_true, decide_eq_true_eq] at hrange
  unfold nanosPerSecond at hfraction hleap
  unfold secondsPerDay at hrange
  have hdays := Time.Date.le_year_ofDays_iff firstYear (t.seconds / secondsPerDay)
  have hdays' := Time.Date.le_year_ofDays_iff (lastYear + 1) (t.seconds / secondsPerDay)
  unfold fields date secondOfDay
  unfold secondsPerDay nanosPerSecond at *
  dsimp only
  refine ⟨?_, ?_, Time.Date.isValid_ofDays _, ?_, ?_, ?_⟩
  · rw [hdays]
    omega
  · rw [← not_lt, ← Int.add_one_le_iff, hdays']
    omega
  · omega
  · omega
  · omega

/-- **The fields of an instant are those of the instant cut to milliseconds.** -/
theorem Occurs.toInstant?_fields {t : Instant} (h : t.Occurs) :
    t.fields.toInstant? 0 = some t.truncToMillis := by
  obtain ⟨hfirst, hlast, hvalid, hhour, hminute, hsecond⟩ := h.fields_range
  have hfraction := h.fraction
  have hleap := h.leap
  have hdate : (Time.Date.mk t.fields.year t.fields.month t.fields.day).toDays =
      t.seconds / secondsPerDay :=
    Time.Date.toDays_ofDays _
  unfold Fields.toInstant?
  dsimp only
  rw [if_pos ⟨hfirst, hlast, hvalid, hhour, hminute, hsecond⟩, hdate]
  unfold truncToMillis fields secondOfDay
  unfold secondsPerDay nanosPerSecond at *
  dsimp only
  congr 2
  · omega
  · split_ifs <;> omega

/-- The fields take two digits each, and the milliseconds three. -/
theorem Occurs.fields_lt {t : Instant} (h : t.Occurs) :
    t.fields.month < 100 ∧ t.fields.day < 100 ∧ t.fields.hour < 100 ∧ t.fields.minute < 100 ∧
      t.fields.second < 100 ∧ t.nanos % nanosPerSecond / 1000000 < 1000 := by
  obtain ⟨-, -, ⟨-, hmonth, -, hday⟩, hhour, hminute, hsecond⟩ := h.fields_range
  have hshort : ∀ year month, Time.daysInMonth year month ≤ 31 := by
    intro year month
    unfold Time.daysInMonth
    split_ifs <;> omega
  have hdays := hshort t.fields.year t.fields.month
  unfold nanosPerSecond
  dsimp only at hmonth hday
  omega

/-- What is written behind the year. -/
def afterYear (t : Instant) : List Char :=
  '-' :: (padded 10 2 t.fields.month ++ '-' :: (padded 10 2 t.fields.day ++
    'T' :: (padded 10 2 t.fields.hour ++ ':' :: (padded 10 2 t.fields.minute ++
    ':' :: (padded 10 2 t.fields.second ++
    '.' :: padded 10 3 (t.nanos % nanosPerSecond / 1000000))))))

theorem text_eq (t : Instant) : t.text = yearText t.fields.year ++ t.afterYear := by
  simp [text, secondsText, fields, afterYear]

theorem Occurs.readPlain?_text {t : Instant} (h : t.Occurs) :
    readPlain? t.text = some t.truncToMillis := by
  obtain ⟨hmonth, hday, hhour, hminute, hsecond, hmillis⟩ := h.fields_lt
  rw [text_eq]
  refine bind_of_eq_some (takeYear?_yearText _ _) ?_
  refine bind_of_eq_some rfl (bind_of_eq_some (takeShort?_padded hmonth _) ?_)
  refine bind_of_eq_some rfl (bind_of_eq_some (takeShort?_padded hday _) ?_)
  refine bind_of_eq_some rfl (bind_of_eq_some (takeShort?_padded hhour _) ?_)
  refine bind_of_eq_some rfl (bind_of_eq_some (takeShort?_padded hminute _) ?_)
  refine bind_of_eq_some rfl (bind_of_eq_some (takeShort?_padded hsecond _) ?_)
  refine bind_of_eq_some (takeFraction?_padded hmillis) ?_
  exact h.toInstant?_fields

theorem takeTwo?_padded (hn : n < 100) (rest : List Char) :
    takeNumber? 2 2 (padded 10 2 n ++ rest) = some (n, rest) :=
  takeNumber?_padded (by omega) hn le_rfl le_rfl (.inl rfl)

/-- **No zone is written**, and the form of RFC 3339 needs one. -/
theorem Occurs.readRfc3339?_text {t : Instant} (h : t.Occurs) :
    readRfc3339? t.text = none := by
  obtain ⟨hmonth, hday, hhour, hminute, hsecond, hmillis⟩ := h.fields_lt
  rw [text_eq, yearText]
  split_ifs with hfour hnegative
  · have hyear : takeNumber? 4 4 (padded 10 4 t.fields.year.toNat ++ t.afterYear) =
        some (t.fields.year.toNat, t.afterYear) :=
      takeNumber?_padded (by omega) (by omega) le_rfl le_rfl (.inl rfl)
    refine bind_of_eq_some hyear ?_
    refine bind_of_eq_some rfl (bind_of_eq_some (takeTwo?_padded hmonth _) ?_)
    refine bind_of_eq_some rfl (bind_of_eq_some (takeTwo?_padded hday _) ?_)
    refine bind_of_eq_some rfl (bind_of_eq_some (takeTwo?_padded hhour _) ?_)
    refine bind_of_eq_some rfl (bind_of_eq_some (takeTwo?_padded hminute _) ?_)
    refine bind_of_eq_some rfl (bind_of_eq_some (takeTwo?_padded hsecond _) ?_)
    exact bind_of_eq_some (takeFraction?_padded hmillis) rfl
  · unfold readRfc3339?
    rw [List.cons_append, takeNumber?_eq_none (by rfl) (by omega)]
    rfl
  · unfold readRfc3339?
    rw [List.cons_append, takeNumber?_eq_none (by rfl) (by omega)]
    rfl

/-- **An instant that is written is read back**, cut to milliseconds. -/
theorem Occurs.read?_text {t : Instant} (h : t.Occurs) : read? t.text = some t.truncToMillis := by
  rw [read?, h.readRfc3339?_text, h.readPlain?_text, Option.none_or]

end Instant

end ZigbeeGateway
