import Cathedral.Lib.JsonRoundTrip
import Cathedral.Lib.PyFloat
import Cathedral.Lib.PyText

/-!
# Cathedral.Lib.PyJson — plain `json.loads`, and `float` of a text

`json.loads` without hooks: numbers are integers or floats, a repeated key keeps the
last value, and `NaN` and the infinities are read. `float` takes the nearest double
of a number; which one that is is the parameter `nearest`, so with the identity the
floats are the exact rationals.
-/

namespace Cathedral

/-- A number that `json.loads` returns. -/
inductive PyNumber where
  | int (n : ℤ)
  | float (x : PyFloat)
deriving DecidableEq

/-- What the interpreter settles about numbers. -/
structure PyNumbers where
  tables : UnicodeTables
  /-- The nearest double, infinite beyond the largest. -/
  nearest : ℚ → PyFloat

/-- `float(n)` of an integer; `none` where it raises `OverflowError`. -/
def PyNumbers.floatOfInt (numbers : PyNumbers) (n : ℤ) : Option PyFloat :=
  match numbers.nearest n with
  | .finite q => some (.finite q)
  | _ => none

/-! ## `float` of a text -/

namespace PyStr

/-- The digits of a part of a numeral, which may be left out. -/
def optionalDigits? (tables : UnicodeTables) (t : PyStr) : Option (List ℕ) :=
  if t = [] then some [] else digits? tables t

/-- A numeral before its exponent: its digits, and how many stand behind the point. -/
def mantissa? (tables : UnicodeTables) (t : PyStr) : Option (List ℕ × ℕ) := do
  let point : CodePoint := 46
  let whole ← optionalDigits? tables (t.takeWhile (· ≠ point))
  let part ← optionalDigits? tables (t.dropWhile (· ≠ point)).tail
  if whole ++ part = [] then none else some (whole ++ part, part.length)

/-- An exponent with its sign. -/
def exponent? (tables : UnicodeTables) : PyStr → Option ℤ
  | [] => none
  | p :: t =>
    if p.val = 45 then (digits? tables t).map fun ds => -(natOfDigits ds : ℤ)
    else if p.val = 43 then (digits? tables t).map fun ds => (natOfDigits ds : ℤ)
    else (digits? tables (p :: t)).map fun ds => (natOfDigits ds : ℤ)

/-- The value of a decimal numeral without a sign. -/
def decimal? (tables : UnicodeTables) (t : PyStr) : Option ℚ := do
  let isMark (p : CodePoint) : Bool := p.val = 101 || p.val = 69
  let (ds, places) ← mantissa? tables (t.takeWhile fun p => !isMark p)
  let power ← match t.dropWhile fun p => !isMark p with
    | [] => some 0
    | _ :: rest => exponent? tables rest
  some (natOfDigits ds * (10 : ℚ) ^ (power - places))

/-- The letters of a text in lower case, where they are ASCII. -/
def asciiLower (t : PyStr) : PyStr :=
  t.map fun p => if 65 ≤ p.val ∧ p.val ≤ 90 then Fin.ofNat _ (p.val + 32) else p

/-- The value of a text after its sign. -/
def magnitude? (numbers : PyNumbers) (negative : Bool) (t : PyStr) : Option PyFloat :=
  let word := asciiLower t
  if word = ofString "inf" ∨ word = ofString "infinity" then
    some (if negative then .negInf else .posInf)
  else if word = ofString "nan" then some .nan
  else (decimal? numbers.tables t).map fun q => numbers.nearest (if negative then -q else q)

/-- `float(t)`; `none` where it raises `ValueError`. -/
def float? (numbers : PyNumbers) (t : PyStr) : Option PyFloat :=
  match strip t with
  | [] => none
  | p :: rest =>
    if p.val = 45 then magnitude? numbers true rest
    else if p.val = 43 then magnitude? numbers false rest
    else magnitude? numbers false (p :: rest)

/-- The floats as exact rationals. -/
def exactNumbers : PyNumbers := ⟨⟨fun _ => none, fun _ => []⟩, .finite⟩

example : float? exactNumbers (ofString " -12.5e-1 ") = some (.finite (-5 / 4)) := by
  decide +kernel

example : float? exactNumbers (ofString "1_0.") = some (.finite 10) ∧
    float? exactNumbers (ofString "1__0") = none ∧ float? exactNumbers (ofString ".") = none := by
  decide +kernel

end PyStr

/-! ## `json.loads` -/

namespace PyJson

/-- A value that `json.loads` returns; the members of an object are a dictionary. -/
abbrev Value : Type := Json PyNumber

/-- `int` and `float` of the numerals. -/
def hooks (numbers : PyNumbers) : Json.Hooks PyNumber Unit where
  int text :=
    if PyStr.maxStrDigits < (text.filter Char.isDigit).length then .error ()
    else .ok (.int (Json.readInt text))
  float text :=
    match PyStr.float? numbers (text.map CodePoint.ofChar) with
    | some x => .ok (.float x)
    | none => .error ()
  constant text :=
    match PyStr.float? numbers (text.map CodePoint.ofChar) with
    | some x => .ok (.float x)
    | none => .error ()
  duplicate _ := ()

/-- An object of its pairs: a repeated key keeps its place and the last value. -/
def object (pairs : List (PyStr × Value)) : Value := .obj (Dict.ofList pairs).items

/-- A value; `inner` reads what is inside a container, where one may still be opened. -/
def valueOf (numbers : PyNumbers) (inner : Option (Json.Reader Unit Value)) :
    Json.Reader Unit Value
  | [] => Json.malformed
  | c :: text =>
    if c = '"' then do
      let (s, rest) ← Json.string text
      .ok (.str s, rest)
    else if c = '[' then
      match inner with
      | none => .error .tooDeep
      | some item => do
        let (xs, rest) ← Json.contents ']' item text
        .ok (.arr xs, rest)
    else if c = '{' then
      match inner with
      | none => .error .tooDeep
      | some item => do
        let (ms, rest) ← Json.contents '}' (Json.member item) text
        .ok (object ms, rest)
    else Json.scalar (hooks numbers) (c :: text)

def value (numbers : PyNumbers) : ℕ → Json.Reader Unit Value
  | 0 => valueOf numbers none
  | depth + 1 => valueOf numbers (some (value numbers depth))

/-- `json.loads(body.decode("utf-8"))`; `none` where either raises. -/
def loads (numbers : PyNumbers) (depth : ℕ) (body : Bytes) : Option Value :=
  (decodeUtf8 body).bind fun text =>
    match value numbers depth (Json.skip text) with
    | .ok (document, rest) => if Json.skip rest = [] then some document else none
    | .error _ => none

end PyJson

end Cathedral
