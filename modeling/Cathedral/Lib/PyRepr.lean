import Cathedral.Lib.Json

/-!
# Cathedral.Lib.PyRepr — `str` and `bool` of a JSON value

What Python prints for a value that it read from JSON with integers only, and which
values it takes for true. Which code points are printable is a parameter, since it
depends on the Unicode tables.
-/

namespace Cathedral

namespace PyRepr

/-- The lowest `n` hexadecimal digits of a number. -/
def hexText (n value : ℕ) : List Char :=
  (List.range n).reverse.map fun i => Json.hexDigit (value / 16 ^ i % 16)

/-- A text as a string. -/
def ascii (text : List Char) : PyStr := text.map CodePoint.ofChar

/-- One code point inside quotes. -/
def reprUnit (printable : CodePoint → Bool) (mark : Char) (p : CodePoint) : PyStr :=
  if p = CodePoint.ofChar mark ∨ p = CodePoint.ofChar '\\' then [CodePoint.ofChar '\\', p]
  else if p = CodePoint.ofChar '\t' then ascii "\\t".toList
  else if p = CodePoint.ofChar '\n' then ascii "\\n".toList
  else if p = CodePoint.ofChar '\r' then ascii "\\r".toList
  else if 0x20 ≤ p.val ∧ p.val < 0x7f then [p]
  else if 0x7f < p.val ∧ printable p = true then [p]
  else if p.val ≤ 0xff then ascii ("\\x".toList ++ hexText 2 p.val)
  else if p.val ≤ 0xffff then ascii ("\\u".toList ++ hexText 4 p.val)
  else ascii ("\\U".toList ++ hexText 8 p.val)

/-- `repr` of a string: in double quotes if it has single quotes only. -/
def reprStr (printable : CodePoint → Bool) (s : PyStr) : PyStr :=
  let mark := if CodePoint.ofChar '\x27' ∈ s ∧ CodePoint.ofChar '"' ∉ s then '"' else '\x27'
  CodePoint.ofChar mark :: s.flatMap (reprUnit printable mark) ++ [CodePoint.ofChar mark]

/-- Strings with `, ` between them. -/
def commas (parts : List PyStr) : PyStr := (parts.intersperse (ascii ", ".toList)).flatten

mutual

/-- `repr` of a value. -/
def repr (printable : CodePoint → Bool) : Json ℤ → PyStr
  | .null => ascii "None".toList
  | .bool true => ascii "True".toList
  | .bool false => ascii "False".toList
  | .num n => ascii (toString n).toList
  | .str s => reprStr printable s
  | .arr items => ascii ['['] ++ commas (reprItems printable items) ++ ascii [']']
  | .obj members =>
    ascii ['\x7b'] ++ commas (reprMembers printable members) ++ ascii ['\x7d']

def reprItems (printable : CodePoint → Bool) : List (Json ℤ) → List PyStr
  | [] => []
  | x :: xs => repr printable x :: reprItems printable xs

def reprMembers (printable : CodePoint → Bool) : List (PyStr × Json ℤ) → List PyStr
  | [] => []
  | (key, x) :: members =>
    (reprStr printable key ++ ascii ": ".toList ++ repr printable x) ::
      reprMembers printable members

end

/-- `str(value)`. -/
def text (printable : CodePoint → Bool) : Json ℤ → PyStr
  | .str s => s
  | value => repr printable value

/-- `bool(value)`. -/
def truthy : Json ℤ → Bool
  | .null => false
  | .bool b => b
  | .num n => n ≠ 0
  | .str s => s ≠ []
  | .arr items => !items.isEmpty
  | .obj members => !members.isEmpty

example : text (fun _ => true) (.arr [.null, .num (-3), .str (PyStr.ofString "it's")]) =
    PyStr.ofString "[None, -3, \"it's\"]" := by decide +kernel

end PyRepr

end Cathedral
