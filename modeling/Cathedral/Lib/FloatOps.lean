import Cathedral.Lib.PyFloat

/-!
# Cathedral.Lib.FloatOps — arithmetic with infinities

Differences, multiples and comparisons of floats that may be infinite or not a number.
Finite results are exact.
-/

namespace Cathedral.PyFloat

/-- `a - b`. -/
def sub : PyFloat → PyFloat → PyFloat
  | .finite a, .finite b => .finite (a - b)
  | .posInf, .finite _ | .posInf, .negInf | .finite _, .negInf => .posInf
  | .negInf, .finite _ | .negInf, .posInf | .finite _, .posInf => .negInf
  | _, _ => .nan

/-- `a * q` for a factor that is not negative. -/
def scale (a : PyFloat) (q : ℚ) : PyFloat :=
  match a with
  | .finite x => .finite (x * q)
  | .nan => .nan
  | .posInf => if q = 0 then .nan else .posInf
  | .negInf => if q = 0 then .nan else .negInf

/-- `a * b`, with the nearest double of a product. -/
def mul (nearest : ℚ → PyFloat) : PyFloat → PyFloat → PyFloat
  | .finite a, .finite b => nearest (a * b)
  | .finite a, .posInf | .posInf, .finite a =>
    if a = 0 then .nan else if 0 < a then .posInf else .negInf
  | .finite a, .negInf | .negInf, .finite a =>
    if a = 0 then .nan else if 0 < a then .negInf else .posInf
  | .posInf, .posInf | .negInf, .negInf => .posInf
  | .posInf, .negInf | .negInf, .posInf => .negInf
  | _, _ => .nan

/-- A finite float changed, the others as they are. -/
def mapFinite (f : ℚ → ℚ) : PyFloat → PyFloat
  | .finite x => .finite (f x)
  | x => x

/-- `a <= b`; nothing compares with `nan`. -/
def le : PyFloat → PyFloat → Bool
  | .finite a, .finite b => a ≤ b
  | .negInf, .finite _ | .negInf, .negInf | .negInf, .posInf => true
  | .finite _, .posInf | .posInf, .posInf => true
  | _, _ => false

end Cathedral.PyFloat
