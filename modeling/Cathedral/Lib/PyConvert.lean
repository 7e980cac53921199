import Cathedral.Lib.PyRepr
import Cathedral.Lib.PyValue

/-!
# Cathedral.Lib.PyConvert — `str`, `float` and lenient base64

Built-in conversions of values that `json.loads` has returned, and `base64.b64decode` with
`validate=False`: it skips what is no character of the alphabet, and stops at the padding of
a group.
-/

namespace Cathedral

namespace PyJson

/-- `str` of a number. -/
def strNumber (floatRepr : ℚ → List Char) : PyNumber → PyStr
  | .int n => PyStr.numeral n
  | .float (.finite q) => PyRepr.ascii (floatRepr q)
  | .float .nan => PyStr.ofString "nan"
  | .float .posInf => PyStr.ofString "inf"
  | .float .negInf => PyStr.ofString "-inf"

section Repr

variable (floatRepr : ℚ → List Char) (printable : CodePoint → Bool)

mutual

/-- `repr` of a value. -/
def repr : Value → PyStr
  | .null => PyStr.ofString "None"
  | .bool true => PyStr.ofString "True"
  | .bool false => PyStr.ofString "False"
  | .num n => strNumber floatRepr n
  | .str s => PyRepr.reprStr printable s
  | .arr items => PyRepr.ascii ['['] ++ PyRepr.commas (reprItems items) ++ PyRepr.ascii [']']
  | .obj members =>
    PyRepr.ascii ['\x7b'] ++ PyRepr.commas (reprMembers members) ++ PyRepr.ascii ['\x7d']

def reprItems : List Value → List PyStr
  | [] => []
  | x :: xs => repr x :: reprItems xs

def reprMembers : List (PyStr × Value) → List PyStr
  | [] => []
  | (key, x) :: members =>
    (PyRepr.reprStr printable key ++ PyStr.ofString ": " ++ repr x) :: reprMembers members

end

/-- `str(value)`. -/
def str : Value → PyStr
  | .str s => s
  | value => repr floatRepr printable value

@[simp] theorem str_str (s : PyStr) : str floatRepr printable (.str s) = s := rfl

end Repr

/-- `float(value)`; `none` where it raises. -/
def toFloat? (numbers : PyNumbers) : Value → Option PyFloat
  | .num (.int n) => numbers.floatOfInt n
  | .num (.float x) => some x
  | .bool b => some (.finite (if b then 1 else 0))
  | .str s => PyStr.float? numbers s
  | _ => none

end PyJson

namespace Base64

/-- Where a reader is within a group, with the bits that are left over. -/
structure Place where
  position : ℕ
  bits : ℕ
  pads : ℕ

/-- The bytes of a text from a place on; `none` where a group is cut short. -/
def decodeFrom (place : Place) : List Char → Option Bytes
  | [] => if place.position = 0 then some [] else none
  | c :: rest =>
    if c = '=' then
      if place.position < 2 then decodeFrom place rest
      -- the padding of a whole group ends the text
      else if 4 ≤ place.position + (place.pads + 1) then some []
      else decodeFrom { place with pads := place.pads + 1 } rest
    else
      match value? c with
      | none => decodeFrom place rest
      | some v =>
        match place.position with
        | 0 => decodeFrom ⟨1, v, 0⟩ rest
        | 1 => (decodeFrom ⟨2, v % 16, 0⟩ rest).map (first place.bits v :: ·)
        | 2 => (decodeFrom ⟨3, v % 4, 0⟩ rest).map (second place.bits v :: ·)
        | _ => (decodeFrom ⟨0, 0, 0⟩ rest).map (third place.bits v :: ·)

/-- `base64.b64decode(text)` of an ASCII text, without `validate`. -/
def decodeLenient (text : List Char) : Option Bytes := decodeFrom ⟨0, 0, 0⟩ text

example : decodeLenient "aG V\nsbG8=ignored".toList = some (asciiBytes "hello".toList) ∧
    decodeLenient "aGVsb".toList = none := by decide

end Base64

end Cathedral
