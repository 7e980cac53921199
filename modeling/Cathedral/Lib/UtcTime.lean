import Mathlib.Algebra.GroupWithZero.Nat
import Mathlib.Data.Nat.Basic
import Mathlib.Order.Basic

/-!
# Cathedral.Lib.UtcTime — UTC moments and their texts

A moment is a date of the proleptic Gregorian calendar with a time of day, as
`datetime` builds it: fields out of range cannot be built. Moments are compared
by their microseconds since the first day of year one.

`UtcTime.parse` reads the text `YYYY-MM-DDTHH:MM:SS.fZ` with a given number of
fractional digits.
-/

namespace Cathedral

/-! ## Calendar -/

def isLeapYear (year : ℕ) : Bool := year % 4 == 0 && (year % 100 != 0 || year % 400 == 0)

def daysInMonth (year month : ℕ) : ℕ :=
  match month with
  | 2 => if isLeapYear year then 29 else 28
  | 4 | 6 | 9 | 11 => 30
  | _ => 31

/-- The days before the first of January of a year, from year one on. -/
def daysBeforeYear (year : ℕ) : ℕ :=
  365 * (year - 1) + (year - 1) / 4 - (year - 1) / 100 + (year - 1) / 400

/-- The days of a year before the first day of a month. -/
def daysBeforeMonth (year month : ℕ) : ℕ :=
  ((List.range (month - 1)).map fun m => daysInMonth year (m + 1)).sum

/-- The fields that `datetime` accepts. -/
structure ValidFields (year month day hour minute second microsecond : ℕ) : Prop where
  year_pos : 1 ≤ year
  month_pos : 1 ≤ month
  month_le : month ≤ 12
  day_pos : 1 ≤ day
  day_le : day ≤ daysInMonth year month
  hour_lt : hour < 24
  minute_lt : minute < 60
  second_lt : second < 60
  microsecond_lt : microsecond < 1000000

instance (year month day hour minute second microsecond : ℕ) :
    Decidable (ValidFields year month day hour minute second microsecond) :=
  decidable_of_iff
    (1 ≤ year ∧ 1 ≤ month ∧ month ≤ 12 ∧ 1 ≤ day ∧ day ≤ daysInMonth year month ∧ hour < 24 ∧
      minute < 60 ∧ second < 60 ∧ microsecond < 1000000)
    ⟨fun ⟨hy, hm, hm', hd, hd', hh, hmi, hs, hmu⟩ => ⟨hy, hm, hm', hd, hd', hh, hmi, hs, hmu⟩,
      fun h => ⟨h.year_pos, h.month_pos, h.month_le, h.day_pos, h.day_le, h.hour_lt, h.minute_lt,
        h.second_lt, h.microsecond_lt⟩⟩

/-- An aware `datetime` in UTC. -/
structure UtcTime where
  year : ℕ
  month : ℕ
  day : ℕ
  hour : ℕ
  minute : ℕ
  second : ℕ
  microsecond : ℕ
  valid : ValidFields year month day hour minute second microsecond
deriving DecidableEq

namespace UtcTime

/-- Microseconds since the first day of year one. -/
def micros (moment : UtcTime) : ℤ :=
  let days := daysBeforeYear moment.year + daysBeforeMonth moment.year moment.month +
    (moment.day - 1)
  (((days * 24 + moment.hour) * 60 + moment.minute) * 60 + moment.second) * 1000000 +
    moment.microsecond

/-! ## Texts -/

/-- The value of an ASCII digit. -/
def digit? (c : Char) : Option ℕ := if c.isDigit then some (c.toNat - '0'.toNat) else none

/-- Exactly `n` digits at the start of a text, after a number already read. -/
def digits : ℕ → ℕ → List Char → Option (ℕ × List Char)
  | 0, value, text => some (value, text)
  | _ + 1, _, [] => none
  | n + 1, value, c :: text => (digit? c).bind fun d => digits n (10 * value + d) text

/-- A literal character at the start of a text. -/
def literal (expected : Char) : List Char → Option (List Char)
  | [] => none
  | c :: text => if c = expected then some text else none

/-- A field of `n` digits after a separator. -/
def field (separator : Char) (n : ℕ) (text : List Char) : Option (ℕ × List Char) :=
  (literal separator text).bind (digits n 0)

/-- `YYYY-MM-DDTHH:MM:SS.fZ` with `precision` fractional digits. -/
def parse (precision : ℕ) (text : String) : Option UtcTime := do
  let (year, rest) ← digits 4 0 text.toList
  let (month, rest) ← field '-' 2 rest
  let (day, rest) ← field '-' 2 rest
  let (hour, rest) ← field 'T' 2 rest
  let (minute, rest) ← field ':' 2 rest
  let (second, rest) ← field ':' 2 rest
  let (fraction, rest) ← field '.' precision rest
  let rest ← literal 'Z' rest
  let microsecond := fraction * 10 ^ (6 - precision)
  if h : rest = [] ∧ ValidFields year month day hour minute second microsecond then
    some ⟨year, month, day, hour, minute, second, microsecond, h.2⟩
  else none

example : (parse 6 "2026-07-26T12:00:00.000001Z").map micros = some 63920664000000001 := by
  decide +kernel

end UtcTime

end Cathedral
