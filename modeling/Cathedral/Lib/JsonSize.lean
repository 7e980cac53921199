import Cathedral.Lib.JsonRoundTrip

/-!
# Cathedral.Lib.JsonSize — how long a written document can be

A bound on what `json.dumps` writes that needs no writing: a code point is at most two
escapes of six characters, and the order of the members plays no part.
-/

namespace Cathedral

namespace Json

variable {ν : Type} {numeral : ν → List Char}

/-- A string between its quotes. -/
def quoteWeight (s : PyStr) : ℕ := 12 * s.length + 2

mutual

/-- An upper bound for the length of a written document. -/
def weight (numeral : ν → List Char) : Json ν → ℕ
  | .null => 4
  | .bool _ => 5
  | .num n => (numeral n).length
  | .str s => quoteWeight s
  | .arr items => weightItems numeral items + 2
  | .obj members => weightMembers numeral members + 2

def weightItems (numeral : ν → List Char) : List (Json ν) → ℕ
  | [] => 0
  | x :: xs => weight numeral x + 1 + weightItems numeral xs

def weightMembers (numeral : ν → List Char) : List (PyStr × Json ν) → ℕ
  | [] => 0
  | (key, x) :: members =>
    quoteWeight key + 1 + weight numeral x + 1 + weightMembers numeral members

end

theorem length_quoteUnit_le (p : CodePoint) : (quoteUnit p).length ≤ 6 := by
  unfold quoteUnit
  split
  · exact Nat.le_of_ble_eq_true rfl
  · split_ifs
    · exact Nat.le_of_ble_eq_true rfl
    · exact le_of_eq rfl

theorem length_flatMap_le {α β : Type} {f : α → List β} {n : ℕ} (h : ∀ a, (f a).length ≤ n)
    (l : List α) : (l.flatMap f).length ≤ n * l.length := by
  induction l with
  | nil => simp
  | cons a l ih =>
    rw [List.flatMap_cons, List.length_append, List.length_cons, Nat.mul_succ]
    have ha := h a
    omega

theorem length_quote_le (s : PyStr) : (quote s).length ≤ quoteWeight s := by
  have hunits := length_flatMap_le length_quoteUnit_le (splitPairs s)
  have hsplit : (splitPairs s).length ≤ 2 * s.length := by
    refine length_flatMap_le (fun p => ?_) s
    split_ifs <;> simp
  unfold quote quoteWeight
  rw [List.length_append, List.length_cons, List.length_singleton]
  omega

theorem length_separated_le (close : Char) : ∀ texts : List (List Char),
    (separated close texts).length ≤ (texts.map fun text => text.length + 1).sum + 1
  | [] => le_rfl
  | [text] => by
    rw [separated, List.length_append, List.map_singleton, List.sum_singleton,
      List.length_singleton]
    omega
  | text :: next :: texts => by
    have ih := length_separated_le close (next :: texts)
    rw [separated, List.length_append, List.length_cons, List.map_cons, List.sum_cons]
    · omega
    · exact fun h => absurd h (List.cons_ne_nil next texts)

mutual

/-- No document is longer than its weight. -/
theorem length_render_le : ∀ x : Json ν, (render numeral x).length ≤ weight numeral x
  | .null => le_of_eq rfl
  | .bool true => Nat.le_of_ble_eq_true rfl
  | .bool false => le_of_eq rfl
  | .num n => le_of_eq rfl
  | .str s => length_quote_le s
  | .arr items => by
    have hitems := sum_renderItems_le items
    have htexts := length_separated_le ']' (renderItems numeral items)
    rw [render, weight, List.length_cons]
    omega
  | .obj members => by
    have hmembers := sum_renderMembers_le members
    have htexts := length_separated_le '}' (renderMembers numeral members)
    rw [render, weight, List.length_cons]
    omega

theorem sum_renderItems_le : ∀ xs : List (Json ν),
    ((renderItems numeral xs).map fun text => text.length + 1).sum ≤ weightItems numeral xs
  | [] => le_of_eq rfl
  | x :: xs => by
    have hx := length_render_le x
    have hxs := sum_renderItems_le xs
    rw [renderItems, weightItems, List.map_cons, List.sum_cons]
    omega

theorem sum_renderMembers_le : ∀ members : List (PyStr × Json ν),
    ((renderMembers numeral members).map fun text => text.length + 1).sum ≤
      weightMembers numeral members
  | [] => le_of_eq rfl
  | (key, x) :: members => by
    have hkey := length_quote_le key
    have hx := length_render_le x
    have hmembers := sum_renderMembers_le members
    rw [renderMembers, weightMembers, List.map_cons, List.sum_cons, List.length_append,
      List.length_cons]
    omega

end

theorem weightMembers_eq_sum (members : List (PyStr × Json ν)) :
    weightMembers numeral members =
      (members.map fun m => quoteWeight m.1 + 1 + weight numeral m.2 + 1).sum := by
  induction members with
  | nil => rfl
  | cons member members ih => rw [weightMembers, List.map_cons, List.sum_cons, ih]

theorem weight_sortMembers (members : List (PyStr × Json ν)) :
    weightMembers numeral (sortMembers members) = weightMembers numeral members := by
  rw [weightMembers_eq_sum, weightMembers_eq_sum]
  exact ((sortMembers_perm members).map _).sum_nat

mutual

/-- Sorting the members leaves the weight alone. -/
theorem weight_sorted : ∀ x : Json ν, weight numeral (sorted x) = weight numeral x
  | .null | .bool _ | .num _ | .str _ => rfl
  | .arr items => by rw [sorted, weight, weight, weight_sortedItems items]
  | .obj members => by
    rw [sorted, weight, weight, weight_sortMembers, weight_sortedMembers members]

theorem weight_sortedItems : ∀ xs : List (Json ν),
    weightItems numeral (sortedItems xs) = weightItems numeral xs
  | [] => rfl
  | x :: xs => by
    rw [sortedItems, weightItems, weightItems, weight_sorted x, weight_sortedItems xs]

theorem weight_sortedMembers : ∀ members : List (PyStr × Json ν),
    weightMembers numeral (sortedMembers members) = weightMembers numeral members
  | [] => rfl
  | (key, x) :: members => by
    rw [sortedMembers, weightMembers, weightMembers, weight_sorted x,
      weight_sortedMembers members]

end

/-- What is written in order of the keys is no longer than the weight. -/
theorem length_render_sorted_le (x : Json ν) :
    (render numeral (sorted x)).length ≤ weight numeral x :=
  (length_render_le (sorted x)).trans (le_of_eq (weight_sorted x))

end Json

end Cathedral
