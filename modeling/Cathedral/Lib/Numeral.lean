import Mathlib.Data.List.Basic

/-!
# Cathedral.Lib.Numeral — the characters of a numeral
-/

namespace Cathedral

/-- A property of all entries of a list, tested entry by entry. -/
theorem forall_mem_of_all {α : Type} {p : α → Prop} [DecidablePred p] {l : List α}
    (h : (l.all fun a => p a) = true) : ∀ a ∈ l, p a :=
  fun a ha => of_decide_eq_true (List.all_eq_true.mp h a ha)

/-- What a number is written in. -/
def Json.IsNumeral (t : List Char) : Prop := t ≠ [] ∧ ∀ c ∈ t, c ∈ "+-.0123456789e".toList

end Cathedral
