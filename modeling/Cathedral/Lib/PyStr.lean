import Mathlib.Algebra.GroupWithZero.Nat
import Mathlib.Data.String.Basic
import Mathlib.Order.Fin.Basic

/-!
# Cathedral.Lib.PyStr — Python strings

A Python string is a sequence of code points, and unlike a text it may hold lone
surrogates: a JSON escape puts them there, and `str.encode("utf-8")` then raises.
Strings compare by their code points.

`PyStr.encode?` is the text of a string, when it has one.
-/

namespace Cathedral

/-- A code point, surrogates included. -/
abbrev CodePoint : Type := Fin 0x110000

/-- A Python string. -/
abbrev PyStr : Type := List CodePoint

-- instances that many definitions need, under names of their own
instance instNeZeroCodePoints : NeZero 0x110000 := ⟨by decide⟩

instance instLawfulBEqCodePoint : LawfulBEq CodePoint := inferInstance

instance instLawfulBEqPyStr : LawfulBEq PyStr := inferInstance

namespace CodePoint

def ofChar (c : Char) : CodePoint :=
  ⟨c.toNat, by
    -- a character is below the surrogates or above them
    rcases c.valid with h | ⟨_, h⟩
    · show c.val.toNat < 0x110000
      omega
    · exact h⟩

def toChar? (p : CodePoint) : Option Char :=
  if h : p.val.isValidChar then some (Char.ofNatAux p.val h) else none

@[simp] theorem ofChar_val (c : Char) : (ofChar c).val = c.toNat := rfl

theorem ofChar_injective : Function.Injective ofChar := by
  intro c d h
  rw [← Char.toNat_inj, ← ofChar_val c, h, ofChar_val]

@[simp] theorem toChar?_ofChar (c : Char) : toChar? (ofChar c) = some c := by
  have h : (ofChar c).val.isValidChar := c.valid
  unfold toChar?
  rw [dif_pos h]
  exact congrArg some (Char.toNat_inj.mp rfl)

theorem toChar?_eq_some {p : CodePoint} {c : Char} : toChar? p = some c ↔ p = ofChar c := by
  constructor
  · intro h
    unfold toChar? at h
    by_cases hvalid : p.val.isValidChar
    · rw [dif_pos hvalid] at h
      cases h
      exact Fin.ext rfl
    · rw [dif_neg hvalid] at h
      cases h
  · rintro rfl
    exact toChar?_ofChar c

/-- The first half of a surrogate pair. -/
def IsHigh (p : CodePoint) : Prop := 0xD800 ≤ p.val ∧ p.val < 0xDC00

/-- The second half of a surrogate pair. -/
def IsLow (p : CodePoint) : Prop := 0xDC00 ≤ p.val ∧ p.val < 0xE000

instance (p : CodePoint) : Decidable p.IsHigh := inferInstanceAs (Decidable (_ ∧ _))

instance (p : CodePoint) : Decidable p.IsLow := inferInstanceAs (Decidable (_ ∧ _))

theorem not_isHigh_ofChar (c : Char) : ¬ (ofChar c).IsHigh := by
  rintro ⟨hlow, hhigh⟩
  rw [ofChar_val] at hlow hhigh
  rcases c.valid with h | ⟨h, _⟩
  · exact absurd h (by show ¬ c.toNat < 0xD800; omega)
  · exact absurd h (by show ¬ 0xDFFF < c.toNat; omega)

theorem lt_iff_ofChar {c d : Char} : ofChar c < ofChar d ↔ c < d := Iff.rfl

end CodePoint

namespace PyStr

def ofString (s : String) : PyStr := s.toList.map CodePoint.ofChar

/-- The text of a string, `none` where `str.encode("utf-8")` raises. -/
def encode? (t : PyStr) : Option String := (t.mapM CodePoint.toChar?).map String.ofList

/-- The text with a mark for each surrogate, for messages. -/
def display (t : PyStr) : String :=
  String.ofList (t.map fun p => (CodePoint.toChar? p).getD '\uFFFD')

theorem ofString_injective : Function.Injective ofString := by
  intro a b h
  have hlist := List.map_injective_iff.mpr CodePoint.ofChar_injective h
  exact String.toList_inj.mp hlist

theorem mapM_toChar?_eq_some {t : PyStr} {cs : List Char} :
    t.mapM CodePoint.toChar? = some cs ↔ t = cs.map CodePoint.ofChar := by
  induction t generalizing cs with
  | nil => cases cs <;> simp
  | cons p t ih =>
    cases cs with
    | nil => simp [Option.bind_eq_some_iff]
    | cons c cs =>
      simp only [List.mapM_cons, Option.bind_eq_bind, Option.bind_eq_some_iff,
        CodePoint.toChar?_eq_some, ih, Option.pure_def, Option.some.injEq, List.map_cons,
        List.cons.injEq]
      constructor
      · rintro ⟨_, rfl, _, rfl, rfl, rfl⟩
        exact ⟨rfl, rfl⟩
      · rintro ⟨rfl, rfl⟩
        exact ⟨c, rfl, cs, rfl, rfl, rfl⟩

theorem encode?_eq_some {t : PyStr} {s : String} : encode? t = some s ↔ t = ofString s := by
  unfold encode? ofString
  rw [Option.map_eq_some_iff]
  constructor
  · rintro ⟨cs, hcs, rfl⟩
    rw [String.toList_ofList]
    exact mapM_toChar?_eq_some.mp hcs
  · intro h
    exact ⟨s.toList, mapM_toChar?_eq_some.mpr h, String.ofList_toList⟩

@[simp] theorem encode?_ofString (s : String) : encode? (ofString s) = some s :=
  encode?_eq_some.mpr rfl

/-- The order of the strings is the order of their texts. -/
theorem ofString_strictMono : StrictMono ofString := by
  intro a b h
  apply List.map_lt (fun c d hcd => CodePoint.lt_iff_ofChar.mpr hcd)
  exact h

theorem ofString_lt_iff {a b : String} : ofString a < ofString b ↔ a < b :=
  ofString_strictMono.lt_iff_lt

end PyStr

end Cathedral
