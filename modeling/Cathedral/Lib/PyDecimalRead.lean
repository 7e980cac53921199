import Cathedral.Lib.PyDecimal
import Cathedral.Lib.PyText

/-!
# Cathedral.Lib.PyDecimalRead — what `Decimal` makes of a text

White space around a number and underscores in it are skipped, and a digit may be that of
any script. The conversion is exact.
-/

namespace Cathedral

namespace PyDecimal

/-- A `Decimal`. -/
inductive Reading where
  | finite (negative : Bool) (coefficient : ℕ) (exponent : ℤ)
  | infinite (negative : Bool)
  | nan

/-- The value of a finite one. -/
def Reading.value? : Reading → Option ℚ
  | .finite negative coefficient exponent =>
    some ((if negative then -1 else 1) * coefficient * 10 ^ exponent)
  | .infinite _ => none
  | .nan => none

/-- What a code point counts as in a number. -/
def asciiPoint (tables : UnicodeTables) (p : CodePoint) : Option Char :=
  if p.val < 128 then some (Char.ofNat p.val)
  else if PyStr.isSpace p then some ' '
  else (tables.decimal p).map fun d => Nat.digitChar d

/-- A sign, and what follows it. -/
def signed : List Char → Bool × List Char
  | [] => (false, [])
  | c :: rest => if c = '-' then (true, rest) else if c = '+' then (false, rest) else (false, c :: rest)

/-- The exponent behind the digits. -/
def exponent? : List Char → Option ℤ
  | [] => some 0
  | c :: rest =>
    let (negative, digits) := signed rest
    if (c = 'e' ∨ c = 'E') ∧ digits ≠ [] ∧ digits.all Char.isDigit = true then
      some ((if negative then -1 else 1) * (Nat.ofDigitChars 10 digits 0 : ℤ))
    else none

/-- The digits behind a point, and what follows them. -/
def pointed : List Char → List Char × List Char
  | [] => ([], [])
  | c :: rest =>
    if c = '.' then (rest.takeWhile Char.isDigit, rest.dropWhile Char.isDigit) else ([], c :: rest)

def number? (negative : Bool) (text : List Char) : Option Reading :=
  let whole := text.takeWhile Char.isDigit
  let (part, rest) := pointed (text.dropWhile Char.isDigit)
  if whole = [] ∧ part = [] then none
  else (exponent? rest).map fun e =>
    .finite negative (Nat.ofDigitChars 10 (whole ++ part) 0) (e - part.length)

/-- An infinity, or a NaN with its payload; the text is in lower case. -/
def special? (negative : Bool) (text : List Char) : Option Reading :=
  if text = "inf".toList ∨ text = "infinity".toList then some (.infinite negative)
  else if ("nan".toList.isPrefixOf text && (text.drop 3).all Char.isDigit) ||
      ("snan".toList.isPrefixOf text && (text.drop 4).all Char.isDigit) then some .nan
  else none

/-- `Decimal(t)`; `none` where it raises. -/
def read (tables : UnicodeTables) (t : PyStr) : Option Reading := do
  let text ← ((PyStr.strip t).filter (·.val ≠ 95)).mapM (asciiPoint tables)
  let (negative, rest) := signed text
  match number? negative rest with
  | some reading => some reading
  | none => special? negative (rest.map Char.toLower)

end PyDecimal

end Cathedral
