import Mathlib.Algebra.Order.Field.Rat

/-!
# Cathedral.Lib.PyFloat — floats over exact rationals

Finite floats are exact rationals. A value that comes from outside and is tested
with `math.isfinite` can also be one of the three others.
-/

namespace Cathedral

/-- A float that may fail `math.isfinite`. -/
inductive PyFloat where
  | finite (value : ℚ)
  | nan
  | posInf
  | negInf
deriving DecidableEq, Repr

/-- The value of a float that passes `math.isfinite`. -/
def PyFloat.finite? : PyFloat → Option ℚ
  | .finite value => some value
  | _ => none

/-- `math.isfinite(x) and x >= 0`. -/
def PyFloat.FiniteNonneg (x : PyFloat) : Prop := ∃ q, x = .finite q ∧ 0 ≤ q

instance : DecidablePred PyFloat.FiniteNonneg
  | .finite q => decidable_of_iff (0 ≤ q) ⟨fun h => ⟨q, rfl, h⟩, by rintro ⟨_, ⟨⟩, h⟩; exact h⟩
  | .nan => isFalse (by rintro ⟨_, h, _⟩; cases h)
  | .posInf => isFalse (by rintro ⟨_, h, _⟩; cases h)
  | .negInf => isFalse (by rintro ⟨_, h, _⟩; cases h)

end Cathedral
