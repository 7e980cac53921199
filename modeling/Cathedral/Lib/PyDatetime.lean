import Cathedral.Lib.PyDecimal
import Cathedral.Lib.PyText
import Cathedral.Lib.UtcTime

/-!
# Cathedral.Lib.PyDatetime — `datetime` texts and time zones

`datetime.fromisoformat` as Python reads it from 3.11 on, `astimezone(timezone.utc)`
and the text with milliseconds and a `Z` that the code writes. A date with its time
of day is a `UtcTime` read off the wall; its zone is an offset in microseconds.

A moment outside the years 1 to 9999 has no date (`ofMicros`), and `astimezone`
raises there.
-/

namespace Cathedral

/-! ## The calendar, backwards -/

def daysInYear (year : ℕ) : ℕ := if isLeapYear year then 366 else 365

theorem daysBeforeYear_succ {year : ℕ} (h : 1 ≤ year) :
    daysBeforeYear (year + 1) = daysBeforeYear year + daysInYear year := by
  obtain ⟨n, rfl⟩ := Nat.exists_eq_add_of_le' h
  have hleap : isLeapYear (n + 1) = true ↔ 4 ∣ n + 1 ∧ (¬ 100 ∣ n + 1 ∨ 400 ∣ n + 1) := by
    simp [isLeapYear, Nat.dvd_iff_mod_eq_zero]
  have h4 : 100 ∣ n + 1 → 4 ∣ n + 1 := (show 4 ∣ 100 by decide).trans
  have h100 : 400 ∣ n + 1 → 100 ∣ n + 1 := (show 100 ∣ 400 by decide).trans
  have hle : n / 100 ≤ n / 4 := Nat.div_le_div_left (by decide) (by decide)
  unfold daysBeforeYear daysInYear
  rw [Nat.add_sub_cancel, Nat.add_sub_cancel, Nat.succ_div, Nat.succ_div, Nat.succ_div]
  simp only [hleap]
  -- the quotients only matter through their order
  generalize n / 4 = fours, n / 100 = centuries, n / 400 = cycles at *
  split_ifs <;> omega

theorem daysBeforeMonth_succ (year : ℕ) {month : ℕ} (h : 1 ≤ month) :
    daysBeforeMonth year (month + 1) = daysBeforeMonth year month + daysInMonth year month := by
  obtain ⟨n, rfl⟩ := Nat.exists_eq_add_of_le' h
  unfold daysBeforeMonth
  simp only [Nat.add_sub_cancel, List.range_succ, List.map_append, List.sum_append, List.map_cons,
    List.map_nil, List.sum_cons, List.sum_nil, Nat.add_zero]

theorem daysBeforeMonth_thirteen (year : ℕ) : daysBeforeMonth year 13 = daysInYear year := by
  unfold daysBeforeMonth daysInYear
  simp only [Nat.add_one_sub_one, List.range_succ, List.range_zero, List.nil_append, List.map_append,
    List.map_cons, List.map_nil, List.sum_append, List.sum_cons, List.sum_nil, daysInMonth]
  cases isLeapYear year <;> rfl

/-- The last year that begins on a day or before. -/
def yearOfDay (days : ℕ) : ℕ := Nat.findGreatest (fun year => daysBeforeYear year ≤ days) 9999

/-- The last month of a year that begins on a day of the year or before. -/
def monthOfDay (year days : ℕ) : ℕ :=
  Nat.findGreatest (fun month => daysBeforeMonth year month ≤ days) 12

def dayOfYear (days : ℕ) : ℕ := days - daysBeforeYear (yearOfDay days)

theorem yearOfDay_pos (days : ℕ) : 1 ≤ yearOfDay days :=
  Nat.le_findGreatest (by decide) (Nat.zero_le days)

theorem yearOfDay_le (days : ℕ) : yearOfDay days ≤ 9999 := Nat.findGreatest_le 9999

theorem daysBeforeYear_yearOfDay (days : ℕ) : daysBeforeYear (yearOfDay days) ≤ days :=
  Nat.findGreatest_spec (P := fun year => daysBeforeYear year ≤ days) (m := 1) (by decide)
    (Nat.zero_le days)

theorem dayOfYear_lt {days : ℕ} (h : days < daysBeforeYear 10000) :
    dayOfYear days < daysInYear (yearOfDay days) := by
  have hpos := yearOfDay_pos days
  have hnext : days < daysBeforeYear (yearOfDay days + 1) := by
    rcases Nat.lt_or_ge (yearOfDay days) 9999 with hlt | hge
    · exact not_le.mp (Nat.findGreatest_is_greatest (k := yearOfDay days + 1)
        (Nat.lt_succ_self _) hlt)
    · have hle := yearOfDay_le days
      rw [Nat.le_antisymm hle hge]
      exact h
  have hbefore := daysBeforeYear_yearOfDay days
  rw [daysBeforeYear_succ hpos] at hnext
  unfold dayOfYear
  omega

theorem monthOfDay_pos (year days : ℕ) : 1 ≤ monthOfDay year days :=
  Nat.le_findGreatest (by decide) (Nat.zero_le days)

theorem daysBeforeMonth_monthOfDay (year days : ℕ) :
    daysBeforeMonth year (monthOfDay year days) ≤ days :=
  Nat.findGreatest_spec (P := fun month => daysBeforeMonth year month ≤ days) (m := 1) (by decide)
    (Nat.zero_le days)

theorem day_lt {year days : ℕ} (h : days < daysInYear year) :
    days < daysBeforeMonth year (monthOfDay year days) +
      daysInMonth year (monthOfDay year days) := by
  rw [← daysBeforeMonth_succ year (monthOfDay_pos year days)]
  rcases Nat.lt_or_ge (monthOfDay year days) 12 with hlt | hge
  · exact not_le.mp (Nat.findGreatest_is_greatest (k := monthOfDay year days + 1)
      (Nat.lt_succ_self _) hlt)
  · have hle : monthOfDay year days ≤ 12 := Nat.findGreatest_le 12
    rw [Nat.le_antisymm hle hge, daysBeforeMonth_thirteen]
    exact h

namespace UtcTime

/-- Microseconds in a day. -/
def microsPerDay : ℕ := 86400000000

theorem validFields_ofDay {days micros : ℕ} (hdays : days < daysBeforeYear 10000)
    (hmicros : micros < microsPerDay) :
    ValidFields (yearOfDay days) (monthOfDay (yearOfDay days) (dayOfYear days))
      (dayOfYear days - daysBeforeMonth (yearOfDay days)
        (monthOfDay (yearOfDay days) (dayOfYear days)) + 1)
      (micros / 3600000000) (micros / 60000000 % 60) (micros / 1000000 % 60)
      (micros % 1000000) := by
  have hday := day_lt (dayOfYear_lt hdays)
  have hbefore := daysBeforeMonth_monthOfDay (yearOfDay days) (dayOfYear days)
  unfold microsPerDay at hmicros
  exact {
    year_pos := yearOfDay_pos days
    month_pos := monthOfDay_pos _ _
    month_le := Nat.findGreatest_le 12
    day_pos := by omega
    day_le := by omega
    hour_lt := by omega
    minute_lt := Nat.mod_lt _ (by decide)
    second_lt := Nat.mod_lt _ (by decide)
    microsecond_lt := Nat.mod_lt _ (by decide) }

/-- The date and time of a number of microseconds since year one; `none` outside the
years 1 to 9999. -/
def ofMicros (n : ℤ) : Option UtcTime :=
  let days := n.toNat / microsPerDay
  let micros := n.toNat % microsPerDay
  if h : 0 ≤ n ∧ days < daysBeforeYear 10000 then
    some ⟨_, _, _, _, _, _, _, validFields_ofDay h.2 (Nat.mod_lt n.toNat (by decide))⟩
  else none

end UtcTime

/-! ## `datetime.fromisoformat` -/

/-- A date and time as it is read: the wall clock, and the offset of its zone in
microseconds unless it is naive. -/
structure LocalTime where
  wall : UtcTime
  offset : Option ℤ

namespace IsoFormat

def digit? (p : CodePoint) : Option ℕ :=
  if 48 ≤ p.val ∧ p.val ≤ 57 then some (p.val - 48) else none

/-- Exactly `n` digits at the start of a text, after a number already read. -/
def digits : ℕ → ℕ → PyStr → Option (ℕ × PyStr)
  | 0, value, text => some (value, text)
  | _ + 1, _, [] => none
  | n + 1, value, p :: text => (digit? p).bind fun d => digits n (10 * value + d) text

/-- Whether a text starts with a character. -/
def starts (c : Char) (text : PyStr) : Bool := text.head? = some (CodePoint.ofChar c)

/-- `_find_isoformat_datetime_separator`. -/
def separatorAt (text : PyStr) : Option ℕ :=
  let isDigit (p : CodePoint) : Bool := (digit? p).isSome
  if text.length = 7 then some 7
  else if starts '-' (text.drop 4) then
    if starts 'W' (text.drop 5) then
      if starts '-' (text.drop 8) then
        if text.length = 9 then none
        else if text[10]?.any isDigit then some 8
        else some 10
      else some 8
    else some 10
  else if starts 'W' (text.drop 4) then
    let stop := 7 + ((text.drop 7).takeWhile isDigit).length
    if stop < 9 then some stop else if stop % 2 = 0 then some 7 else some 8
  else some 8

/-- `_isoweek_to_gregorian`. -/
def weekDate (year week day : ℕ) : Option (ℕ × ℕ × ℕ) :=
  let firstDay := daysBeforeYear year
  let firstWeekday := firstDay % 7
  let long := firstWeekday = 3 ∨ firstWeekday = 2 ∧ isLeapYear year
  let monday := firstDay - firstWeekday + if 3 < firstWeekday then 7 else 0
  let days := monday + (week - 1) * 7 + (day - 1)
  if 1 ≤ year ∧ (0 < week ∧ week < 53 ∨ week = 53 ∧ long) ∧ 0 < day ∧ day < 8 ∧
      days < daysBeforeYear 10000 then
    let month := monthOfDay (yearOfDay days) (dayOfYear days)
    some (yearOfDay days, month, dayOfYear days - daysBeforeMonth (yearOfDay days) month + 1)
  else none

/-- `_parse_isoformat_date`. -/
def date (text : PyStr) : Option (ℕ × ℕ × ℕ) := do
  let (year, rest) ← digits 4 0 text
  let dashed := starts '-' rest
  let next (rest : PyStr) : PyStr := if dashed then rest.tail else rest
  let rest := next rest
  if starts 'W' rest then
    let (week, rest) ← digits 2 0 rest.tail
    if rest = [] then weekDate year week 1
    else if starts '-' rest ≠ dashed then none
    else
      let (day, _) ← digits 1 0 (next rest)
      weekDate year week day
  else
    let (month, rest) ← digits 2 0 rest
    if starts '-' rest ≠ dashed then none
    else
      let (day, _) ← digits 2 0 (next rest)
      some (year, month, day)

/-- The microseconds of a decimal fraction, further digits cut off. -/
def fraction (part : PyStr) : Option ℕ :=
  let taken := min 6 part.length
  if part = [] ∨ part.any (fun p => (digit? p).isNone) then none
  else (digits taken 0 part).map fun (value, _) => value * 10 ^ (6 - taken)

/-- `_parse_hh_mm_ss_ff`. -/
def clock (text : PyStr) : Option (ℕ × ℕ × ℕ × ℕ) := do
  let (hour, rest) ← digits 2 0 text
  let colons := starts ':' rest
  let next (rest : PyStr) : PyStr := if colons then rest.tail else rest
  if rest = [] then some (hour, 0, 0, 0)
  else
    let (minute, rest) ← digits 2 0 (next rest)
    if rest = [] then some (hour, minute, 0, 0)
    else if colons && !starts ':' rest then none
    else
      let (second, rest) ← digits 2 0 (next rest)
      if rest = [] then some (hour, minute, second, 0)
      else if starts '.' rest || starts ',' rest then
        (fraction rest.tail).map fun micros => (hour, minute, second, micros)
      else none

/-- The offset after its sign; `timezone` takes less than a day. -/
def zone (sign : ℤ) (text : PyStr) : Option ℤ := do
  let (hour, minute, second, micros) ← clock text
  let offset := ((hour * 60 + minute) * 60 + second) * 1000000 + micros
  if offset < UtcTime.microsPerDay then some (sign * offset) else none

/-- What begins a time zone. -/
def isMark (p : CodePoint) : Bool :=
  p = CodePoint.ofChar '+' || p = CodePoint.ofChar '-' || p = CodePoint.ofChar 'Z'

/-- `_parse_isoformat_time`. -/
def time (text : PyStr) : Option ((ℕ × ℕ × ℕ × ℕ) × Option ℤ) := do
  let parts ← clock (text.takeWhile fun p => !isMark p)
  match text.dropWhile fun p => !isMark p with
  | [] => some (parts, none)
  | mark :: rest =>
    if mark = CodePoint.ofChar 'Z' then if rest = [] then some (parts, some 0) else none
    else
      let offset ← zone (if mark = CodePoint.ofChar '-' then -1 else 1) rest
      some (parts, some offset)

end IsoFormat

/-- `datetime.fromisoformat`; `none` where it raises `ValueError`. -/
def fromIsoFormat (text : PyStr) : Option LocalTime := do
  if text.length < 7 then none
  else
    let cut ← IsoFormat.separatorAt text
    let (year, month, day) ← IsoFormat.date (text.take cut)
    let ((hour, minute, second, micros), offset) ←
      if text.drop (cut + 1) = [] then some ((0, 0, 0, 0), none)
      else IsoFormat.time (text.drop (cut + 1))
    if h : ValidFields year month day hour minute second micros then
      some ⟨⟨year, month, day, hour, minute, second, micros, h⟩, offset⟩
    else none

/-- `astimezone(timezone.utc)`, a naive time taken as UTC; `none` where it raises
`OverflowError`. -/
def LocalTime.utc? (t : LocalTime) : Option UtcTime :=
  match t.offset with
  | none | some 0 => some t.wall
  | some offset => UtcTime.ofMicros (t.wall.micros - offset)

/-- `fromisoformat(text.strip().replace("Z", "+00:00"))`. -/
def readIso (text : PyStr) : Option LocalTime :=
  fromIsoFormat ((PyStr.strip text).flatMap fun p =>
    if p = CodePoint.ofChar 'Z' then PyStr.ofString "+00:00" else [p])

/-- `strftime("%Y")`, which does not pad a year on every platform. -/
def yearText (padsYear : Bool) (year : ℕ) : List Char :=
  if padsYear then fixedDigits 4 year else Nat.toDigits 10 year

/-- What follows the year, up to the zone. -/
def afterYear (moment : UtcTime) : List Char :=
  '-' :: fixedDigits 2 moment.month ++ '-' :: fixedDigits 2 moment.day ++
    'T' :: fixedDigits 2 moment.hour ++ ':' :: fixedDigits 2 moment.minute ++
    ':' :: fixedDigits 2 moment.second ++ '.' :: fixedDigits 3 (moment.microsecond / 1000)

/-- `YYYY-MM-DDTHH:MM:SS.mmmZ`. -/
def msIso (padsYear : Bool) (moment : UtcTime) : List Char :=
  yearText padsYear moment.year ++ afterYear moment ++ ['Z']

example : ((readIso (PyStr.ofString "2026-W30-7T14:00+02:00")).bind LocalTime.utc?).map
    (msIso false) = some "2026-07-26T12:00:00.000Z".toList := by decide +kernel

example : (readIso (PyStr.ofString "0001-01-01T00:00:00+01:00")).map LocalTime.utc? =
    some none := by decide +kernel

end Cathedral
