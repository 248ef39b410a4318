import Mathlib.Tactic.IntervalCases
import Mathlib.Tactic.SplitIfs
import ZigbeeGateway.Time.Instant

/-!
# The calendar

`Date.ofDays` splits a number of days into spans of 400, 100, 4 and 1 years, and the rest into months
that begin with March.  The parts are in range (`isSplit_ofDays`), so the date exists
(`isValid_ofDays`), and it is the date of these days (`toDays_ofDays`).
-/

namespace ZigbeeGateway.Time

/-- Days since the first of March of the year zero as `e` spans of 400 years, `c` of 100, `q` of 4
and `s` single years, and `d` more days. -/
structure IsSplit (shifted e c q s d : Int) : Prop where
  sum : shifted = 146097 * e + 36524 * c + 1461 * q + 365 * s + d
  century : 0 ≤ c ∧ c ≤ 3
  quad : 0 ≤ q ∧ q ≤ 24
  single : 0 ≤ s ∧ s ≤ 3
  rest : 0 ≤ d ∧ d ≤ 365
  /-- A leap day is the last day of four years, and if these are the last of a century it is also
  the last day of 400 years. -/
  leap : d = 365 → s = 3 ∧ (q = 24 → c = 3)

theorem isSplit_ofDays (shifted : Int) :
    let era := shifted / 146097
    let inEra := shifted % 146097
    let century := min (inEra / 36524) 3
    let inCentury := inEra - century * 36524
    let quad := inCentury / 1461
    let inQuad := inCentury % 1461
    let single := min (inQuad / 365) 3
    IsSplit shifted era century quad single (inQuad - single * 365) := by
  extract_lets era inEra century inCentury quad inQuad single
  have hera : shifted = 146097 * era + inEra ∧ 0 ≤ inEra ∧ inEra < 146097 := by omega
  have hcentury : 0 ≤ century ∧ century ≤ 3 ∧ inEra = 36524 * century + inCentury ∧
      0 ≤ inCentury ∧ inCentury ≤ 36524 ∧ (inCentury = 36524 → century = 3) := by omega
  have hquad : inCentury = 1461 * quad + inQuad ∧ 0 ≤ inQuad ∧ inQuad < 1461 := by omega
  have hsingle : 0 ≤ single ∧ single ≤ 3 ∧ 0 ≤ inQuad - single * 365 ∧
      inQuad - single * 365 ≤ 365 ∧ (inQuad - single * 365 = 365 → inQuad = 1460) := by omega
  clear_value era inEra century inCentury quad inQuad single
  constructor <;> omega

namespace Date

/-- The date that is `d` days into the year that begins with the first of March, after the given spans
of years. -/
def ofSplit (e c q s d : Int) : Date :=
  let month := (5 * d + 2) / 153
  let day := d - (153 * month + 2) / 5 + 1
  let year := 400 * e + 100 * c + 4 * q + s
  if month < 10 then ⟨year, (month + 3).toNat, day.toNat⟩
  else ⟨year + 1, (month - 9).toNat, day.toNat⟩

theorem exists_isSplit (days : Int) :
    ∃ e c q s d, IsSplit (days + 719468) e c q s d ∧ ofDays days = ofSplit e c q s d :=
  ⟨_, _, _, _, _, isSplit_ofDays (days + 719468), rfl⟩

variable {shifted e c q s d : Int}

/-- The leap days up to a year: one in four years, but none at the end of a century, unless it ends 400
years. -/
theorem leapDays_eq (h : IsSplit shifted e c q s d) :
    let year := 400 * e + 100 * c + 4 * q + s
    year / 4 = 100 * e + 25 * c + q ∧ year / 100 = 4 * e + c ∧ year / 400 = e := by
  intro year
  have hc := h.century
  have hq := h.quad
  have hs := h.single
  omega

theorem toDays_ofSplit (h : IsSplit shifted e c q s d) :
    (ofSplit e c q s d).toDays = shifted - 719468 := by
  obtain ⟨hfour, hcentury, hera⟩ := leapDays_eq h
  have hsum := h.sum
  have hrest := h.rest
  have hmonth : 0 ≤ (5 * d + 2) / 153 ∧ (5 * d + 2) / 153 ≤ 11 := by omega
  have hday : 0 ≤ d - (153 * ((5 * d + 2) / 153) + 2) / 5 := by omega
  unfold ofSplit
  dsimp only
  -- January and February belong to the year that began in the March before.
  split_ifs with hearly
  · unfold toDays
    dsimp only
    rw [if_neg (by omega), if_neg (by omega)]
    omega
  · unfold toDays
    dsimp only
    rw [if_pos (by omega), if_pos (by omega)]
    omega

/-- A year with a day 365 ends with a leap day. -/
theorem isLeapYear_of_isSplit (h : IsSplit shifted e c q s 365) :
    isLeapYear (400 * e + 100 * c + 4 * q + s + 1) = true := by
  obtain ⟨rfl, hlast⟩ := h.leap rfl
  have hc := h.century
  have hq := h.quad
  simp only [isLeapYear, Bool.and_eq_true, Bool.or_eq_true, decide_eq_true_eq]
  omega

/-- The days of a month, counted from zero on, in a year that begins with March. -/
theorem day_range (hd : 0 ≤ d ∧ d ≤ 365) {month : Int} (hmonth : month = (5 * d + 2) / 153) :
    0 ≤ month ∧ month ≤ 11 ∧ 0 ≤ d - (153 * month + 2) / 5 ∧ d - (153 * month + 2) / 5 ≤ 30 ∧
      (month = 1 ∨ month = 3 ∨ month = 6 ∨ month = 8 → d - (153 * month + 2) / 5 ≤ 29) ∧
      (month = 11 → d - (153 * month + 2) / 5 = d - 337) := by
  have hrange : 0 ≤ month ∧ month ≤ 11 := by omega
  obtain ⟨hlow, hhigh⟩ := hrange
  interval_cases month <;> omega

/-- **The date exists.** -/
theorem isValid_ofSplit (h : IsSplit shifted e c q s d) : (ofSplit e c q s d).IsValid := by
  have hrest := h.rest
  obtain ⟨hlow, hhigh, hday, hlong, hshort, hlast⟩ := day_range hrest rfl
  unfold ofSplit
  dsimp only
  generalize (5 * d + 2) / 153 = month at *
  split_ifs with hearly
  · unfold IsValid daysInMonth
    dsimp only
    split_ifs <;> omega
  · unfold IsValid daysInMonth
    dsimp only
    split_ifs with hfebruary hleapYear hthirty
    · omega
    · -- A year that is no leap year has no day 365.
      have hd : d ≠ 365 := by
        rintro rfl
        exact hleapYear (isLeapYear_of_isSplit h)
      omega
    · omega
    · omega

/-- **The date of a number of days is that many days away.** -/
theorem toDays_ofDays (days : Int) : (ofDays days).toDays = days := by
  obtain ⟨e, c, q, s, d, hsplit, hdate⟩ := exists_isSplit days
  rw [hdate, toDays_ofSplit hsplit]
  omega

theorem isValid_ofDays (days : Int) : (ofDays days).IsValid := by
  obtain ⟨e, c, q, s, d, hsplit, hdate⟩ := exists_isSplit days
  rw [hdate]
  exact isValid_ofSplit hsplit

/-- January and February begin 306 days after the first of March. -/
theorem year_ofSplit (e c q s d : Int) :
    (ofSplit e c q s d).year =
      if d < 306 then 400 * e + 100 * c + 4 * q + s else 400 * e + 100 * c + 4 * q + s + 1 := by
  unfold ofSplit
  dsimp only
  by_cases h : d < 306
  · rw [if_pos h, if_pos (by omega)]
  · rw [if_neg h, if_neg (by omega)]

/-- The days of all years before one, from the year zero on, where a year begins with March. -/
def yearStart (year : Int) : Int :=
  365 * year + year / 4 - year / 100 + year / 400

/-- Every year has at least 365 days. -/
theorem yearStart_add_le {year year' : Int} (h : year ≤ year') :
    yearStart year + 365 * (year' - year) ≤ yearStart year' := by
  have hparts : ∀ y : Int, y / 4 = 25 * (y / 100) + y % 100 / 4 ∧ y / 400 = y / 100 / 4 := by omega
  have hyear := hparts year
  have hyear' := hparts year'
  unfold yearStart
  -- The later year is in a later century, or later in the same one.
  rcases Int.lt_or_le (year / 100) (year' / 100) with hlater | hsame
  · omega
  · omega

/-- **A date lies in a year or a later one** if its day is not before the first one of that year. -/
theorem le_year_ofDays_iff (year days : Int) :
    year ≤ (ofDays days).year ↔ (Date.mk year 1 1).toDays ≤ days := by
  obtain ⟨e, c, q, s, d, hsplit, hdate⟩ := exists_isSplit days
  have hc := hsplit.century
  have hq := hsplit.quad
  have hs := hsplit.single
  have hsum := hsplit.sum
  have hrest := hsplit.rest
  have hleap := hsplit.leap
  -- The date lies `d` days after the first of March of a year, and before the next one.
  obtain ⟨here, hhere⟩ : ∃ y, y = 400 * e + 100 * c + 4 * q + s := ⟨_, rfl⟩
  have hstart : yearStart here + d = days + 719468 := by
    unfold yearStart
    omega
  have hend : days + 719468 < yearStart (here + 1) := by
    have hnext := yearStart_add_le (show here ≤ here + 1 by omega)
    rcases eq_or_ne d 365 with rfl | hd
    · obtain ⟨rfl, hlast⟩ := hleap rfl
      unfold yearStart
      omega
    · omega
  have hfirst : (Date.mk year 1 1).toDays = yearStart (year - 1) + 306 - 719468 := by
    unfold toDays yearStart
    dsimp only
    rw [if_pos (by omega), if_pos (by omega)]
    omega
  have hyear : (ofDays days).year = if d < 306 then here else here + 1 := by
    rw [hdate, year_ofSplit, hhere]
  rw [hfirst, hyear]
  clear hfirst hyear hdate hsum hhere
  rcases lt_trichotomy (year - 1) here with hbefore | rfl | hafter
  · have hle := yearStart_add_le hbefore.le
    split_ifs <;> omega
  · split_ifs <;> omega
  · have hle := yearStart_add_le (Int.add_one_le_of_lt hafter)
    split_ifs <;> omega

end Date

end ZigbeeGateway.Time
