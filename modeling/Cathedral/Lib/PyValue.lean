import Cathedral.Lib.PyJson

/-!
# Cathedral.Lib.PyValue — Python's operators on JSON values

`bool`, `==` and `in` of values that `json.loads` has returned, and `json.dumps` of them.
Equality is that of two values which were read apart: a number that is not a number is not
equal to itself, and a truth value is the number that it counts as.
-/

namespace Cathedral.PyJson

/-- `bool(value)`. -/
def truthy : Value → Bool
  | .null => false
  | .bool b => b
  | .num (.int n) => n ≠ 0
  | .num (.float x) => x ≠ .finite 0
  | .str s => s ≠ []
  | .arr items => !items.isEmpty
  | .obj members => !members.isEmpty

/-- The number that a value counts as. -/
def number? : Value → Option PyNumber
  | .num n => some n
  | .bool b => some (.int (if b then 1 else 0))
  | _ => none

/-- `a == b` of numbers. -/
def numberEq : PyNumber → PyNumber → Bool
  | .int a, .int b => a = b
  | .int a, .float (.finite q) => (a : ℚ) = q
  | .float (.finite q), .int a => q = a
  | .float .nan, _ => false
  | .float x, .float y => x = y
  | _, _ => false

mutual

/-- `a == b`. -/
def pyEq : Value → Value → Bool
  | .null, .null => true
  | .str a, .str b => a = b
  | .arr xs, .arr ys => pyEqItems xs ys
  | .obj ms, .obj ns => ms.length = ns.length && pyEqMembers ms ns
  | .num n, v => (number? v).any (numberEq n)
  | .bool b, v => (number? v).any (numberEq (.int (if b then 1 else 0)))
  | _, _ => false

def pyEqItems : List Value → List Value → Bool
  | [], [] => true
  | x :: xs, y :: ys => pyEq x y && pyEqItems xs ys
  | _, _ => false

/-- Every member is one of the other object. -/
def pyEqMembers : List (PyStr × Value) → List (PyStr × Value) → Bool
  | [], _ => true
  | (k, x) :: ms, ns => (Dict.find k ns).any (pyEq x) && pyEqMembers ms ns

end

/-- `a == b` of what `dict.get` returns. -/
def pyEqGet : Option Value → Option Value → Bool
  | some a, some b => pyEq a b
  | some a, none => pyEq a .null
  | none, some b => pyEq .null b
  | none, none => true

/-- `key in value`; `none` where it raises `TypeError`. -/
def contains (key : PyStr) : Value → Option Bool
  | .obj members => some (Dict.find key members).isSome
  | .arr items => some (items.any (pyEq (.str key)))
  | .str s => some (decide (key <:+: s))
  | _ => none

/-! ## Writing with blanks -/

/-- Texts between commas, and what closes them. -/
def spacedOut (close : Char) (texts : List (List Char)) : List Char :=
  (texts.intersperse ", ".toList).flatten ++ [close]

mutual

/-- `json.dumps` with its own separators, `", "` and `": "`. -/
def renderSpaced (numeral : PyNumber → List Char) : Value → List Char
  | .arr items => '[' :: spacedOut ']' (spacedItems numeral items)
  | .obj members => '{' :: spacedOut '}' (spacedMembers numeral members)
  | v => Json.render numeral v

def spacedItems (numeral : PyNumber → List Char) : List Value → List (List Char)
  | [] => []
  | x :: xs => renderSpaced numeral x :: spacedItems numeral xs

def spacedMembers (numeral : PyNumber → List Char) : List (PyStr × Value) → List (List Char)
  | [] => []
  | (k, x) :: ms =>
    (Json.quote k ++ ": ".toList ++ renderSpaced numeral x) :: spacedMembers numeral ms

end

/-! ## Lengths -/

theorem length_texts_le (close : Char) (texts : List (List Char)) :
    (texts.map fun t => t.length + 1).sum ≤ (Json.separated close texts).length := by
  fun_induction Json.separated close texts with
  | case1 => simp
  | case2 text => simp
  | case3 text next texts ih =>
    rw [List.map_cons, List.sum_cons, List.length_append, List.length_cons]
    omega

theorem length_members_le (numeral : PyNumber → List Char) (members : List (PyStr × Value)) :
    (members.map fun m => (Json.quote m.1).length + 2).sum ≤
      ((Json.renderMembers numeral members).map fun t => t.length + 1).sum := by
  induction members with
  | nil => simp [Json.renderMembers]
  | cons m members ih =>
    rw [Json.renderMembers, List.map_cons, List.sum_cons, List.map_cons, List.sum_cons,
      List.length_append, List.length_cons]
    omega

/-- An object is written in no less than its keys, in whatever order, with their marks. -/
theorem length_keys_le (numeral : PyNumber → List Char) (members : List (PyStr × Value)) :
    (members.map fun m => (Json.quote m.1).length + 2).sum + 1 ≤
      (Json.render numeral (Json.obj members).sorted).length := by
  have hperm : ((Json.sortMembers (Json.sortedMembers members)).map fun m =>
      (Json.quote m.1).length + 2).sum = (members.map fun m => (Json.quote m.1).length + 2).sum := by
    rw [((Json.sortMembers_perm _).map _).sum_eq, Json.sortedMembers_eq_map, List.map_map]
    rfl
  rw [Json.sorted, Json.render, List.length_cons, ← hperm]
  exact Nat.add_le_add_right ((length_members_le numeral _).trans (length_texts_le '}' _)) 1

theorem pyEq_str {s : PyStr} {v : Value} : pyEq v (.str s) = true ↔ v = .str s := by
  cases v <;> simp [pyEq, number?]

/-- No value is equal to both truth values. -/
theorem not_pyEq_true_of_pyEq_false {v : Value} (h : pyEq (.bool false) v = true) :
    ¬ pyEq (.bool true) v = true := by
  rw [pyEq] at h ⊢
  cases hnumber : number? v with
  | none => simp
  | some n =>
    rw [hnumber, Option.any_some] at h
    rw [Option.any_some]
    cases n with
    | int k =>
      simp only [numberEq, decide_eq_true_eq] at h ⊢
      simp [← h]
    | float x =>
      cases x with
      | finite q =>
        simp only [numberEq, decide_eq_true_eq] at h ⊢
        rw [← h]
        simp
      | nan | posInf | negInf => simp [numberEq]

end Cathedral.PyJson
