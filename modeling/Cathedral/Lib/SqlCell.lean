import Cathedral.Lib.PyJson
import Cathedral.Lib.PyRepr

/-!
# Cathedral.Lib.SqlCell — what a column holds and what Python makes of it

A SQLite column does not enforce its type. An `INTEGER` or `REAL` column keeps a
text or a blob that is no number (`Cell`); a `TEXT` column turns numbers into texts
and keeps blobs (`TextCell`). `str`, `int` and `float` of a cell are those of the
Python value that the driver returns for it, and rows are ordered as SQLite orders
them: numbers before texts before blobs.
-/

namespace Cathedral

/-- A value of a column without text affinity. -/
inductive Cell where
  | null
  | int (n : ℤ)
  | real (x : PyFloat)
  | text (s : String)
  | blob (b : Bytes)
deriving DecidableEq

/-- A value of a `TEXT NOT NULL` column. -/
inductive TextCell where
  | text (s : String)
  | blob (b : Bytes)

/-- `repr` of bytes. -/
def bytesRepr (b : Bytes) : PyStr :=
  CodePoint.ofChar 'b' ::
    PyRepr.reprStr (fun _ => false) (b.map fun byte => Fin.ofNat _ byte.toNat)

namespace TextCell

def str : TextCell → PyStr
  | text s => PyStr.ofString s
  | blob b => bytesRepr b

/-- `str(cell or "")`. -/
def strOr : TextCell → PyStr
  | text s => PyStr.ofString s
  | blob b => if b = [] then [] else bytesRepr b

/-- `cell.encode("utf-8")` of a text, `bytes(cell)` of a blob. -/
def bytes : TextCell → Bytes
  | text s => encodeUtf8 s.toList
  | blob b => b

/-- `cell == ""`, which no blob is. -/
def isEmptyText : TextCell → Bool
  | text s => s = ""
  | blob _ => false

/-- `cell = ?` in SQL. -/
def equals (s : PyStr) : TextCell → Bool
  | text t => PyStr.ofString t = s
  | blob _ => false

end TextCell

namespace Cell

def str (floatRepr : ℚ → List Char) : Cell → PyStr
  | null => PyStr.ofString "None"
  | int n => PyStr.numeral n
  | real (.finite q) => (floatRepr q).map CodePoint.ofChar
  | real .nan => PyStr.ofString "nan"
  | real .posInf => PyStr.ofString "inf"
  | real .negInf => PyStr.ofString "-inf"
  | text s => PyStr.ofString s
  | blob b => bytesRepr b

/-- The tables of a bytes object: no digit above ASCII. -/
def asciiTables : UnicodeTables := ⟨fun _ => none, fun _ => []⟩

/-- The text of bytes without the white space of `bytes.strip`; `none` above ASCII. -/
def stripped? (b : Bytes) : Option PyStr :=
  let isSpace (byte : UInt8) : Bool := byte = 32 || (9 ≤ byte && byte ≤ 13)
  let inner := (b.dropWhile isSpace).rdropWhile isSpace
  if inner.all (· < 128) then some (inner.map fun byte => Fin.ofNat _ byte.toNat) else none

/-- `int`; `none` where it raises. -/
def toInt? (tables : UnicodeTables) : Cell → Option ℤ
  | null => none
  | int n => some n
  | real (.finite q) => some (Int.tdiv q.num q.den)
  | real _ => none
  | text s => PyStr.int? tables (PyStr.strip (PyStr.ofString s))
  | blob b => (stripped? b).bind (PyStr.int? asciiTables)

/-- `float`; `none` where it raises. -/
def toFloat? (numbers : PyNumbers) : Cell → Option PyFloat
  | null => none
  | int n => numbers.floatOfInt n
  | real x => some x
  | text s => PyStr.float? numbers (PyStr.ofString s)
  | blob b => (stripped? b).bind (PyStr.float? { numbers with tables := asciiTables })

/-- `cell = ?` in SQL, for an integer. -/
def equalsInt (n : ℤ) : Cell → Bool
  | int m => m = n
  | real (.finite q) => q = n
  | _ => false

/-- `bool` of an integer column. -/
def truthy : Cell → Bool
  | null => false
  | int n => n ≠ 0
  | real x => x ≠ .finite 0
  | text s => s ≠ ""
  | blob b => b ≠ []

/-- The storage classes in their order. -/
def rank : Cell → ℕ
  | null => 0
  | int _ | real _ => 1
  | text _ => 2
  | blob _ => 3

/-- A number below another; SQLite stores no NaN. -/
def numberLt : PyFloat → PyFloat → Bool
  | .finite a, .finite b => a < b
  | .negInf, .finite _ | .negInf, .posInf | .finite _, .posInf => true
  | _, _ => false

def lt : Cell → Cell → Bool
  | int a, int b => a < b
  | int a, real y => numberLt (.finite a) y
  | real x, int b => numberLt x (.finite b)
  | real x, real y => numberLt x y
  | text s, text t => s < t
  | blob a, blob b => a.map UInt8.toNat < b.map UInt8.toNat
  | a, b => rank a < rank b

end Cell

/-- `ORDER BY key DESC LIMIT 1`. -/
def topBy {R : Type} (key : R → Cell) : List R → Option R
  | [] => none
  | row :: rows =>
    match topBy key rows with
    | none => some row
    | some best => if Cell.lt (key row) (key best) then some best else some row

section Top

variable {R : Type} {key : R → Cell} {rows : List R} {row : R}

theorem mem_of_topBy (h : topBy key rows = some row) : row ∈ rows := by
  induction rows generalizing row with
  | nil => cases h
  | cons first rows ih =>
    rw [topBy] at h
    split at h
    · cases h
      exact List.mem_cons_self ..
    · next best hbest =>
        split at h <;> cases h
        · exact List.mem_cons_of_mem _ (ih hbest)
        · exact List.mem_cons_self ..

end Top

end Cathedral
