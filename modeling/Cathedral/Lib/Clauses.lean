import Mathlib.Algebra.Order.Ring.Int
import Mathlib.Data.List.Range

/-!
# Cathedral.Lib.Clauses — clauses of signed integers and their models

A variable is a positive integer, a literal a variable or its negative, a formula a list of
clauses. A valuation gives every variable a sign.
-/

namespace Cathedral.Clauses

/-! ## Models -/

/-- The variable has the sign of the literal. -/
def Holds (τ : ℤ → Bool) (lit : ℤ) : Prop := τ |lit| = decide (0 < lit)

instance (τ : ℤ → Bool) (lit : ℤ) : Decidable (Holds τ lit) :=
  inferInstanceAs (Decidable (τ |lit| = decide (0 < lit)))

def Models (τ : ℤ → Bool) (clauses : List (List ℤ)) : Prop :=
  ∀ clause ∈ clauses, ∃ lit ∈ clause, Holds τ lit

instance (τ : ℤ → Bool) (clauses : List (List ℤ)) : Decidable (Models τ clauses) :=
  inferInstanceAs (Decidable (∀ clause ∈ clauses, ∃ lit ∈ clause, Holds τ lit))

def Satisfiable (clauses : List (List ℤ)) : Prop := ∃ τ, Models τ clauses

/-- Every literal is one of the variables `1..n` or its negative. -/
def InRange (n : ℤ) (clauses : List (List ℤ)) : Prop :=
  ∀ clause ∈ clauses, ∀ lit ∈ clause, 1 ≤ |lit| ∧ |lit| ≤ n

variable {τ τ' : ℤ → Bool} {clauses more : List (List ℤ)} {n : ℤ}

theorem holds_pos {v : ℤ} (h : 0 < v) : Holds τ v ↔ τ v = true := by
  rw [Holds, abs_of_pos h, decide_eq_true h]

theorem holds_neg {v : ℤ} (h : 0 < v) : Holds τ (-v) ↔ τ v = false := by
  rw [Holds, abs_neg, abs_of_pos h, decide_eq_false (by omega)]

/-- Two variables of which at most one may be true. -/
theorem exists_neg_pair {x y : ℤ} (hx : 0 < x) (hy : 0 < y) :
    (∃ lit ∈ [-x, -y], Holds τ lit) ↔ ¬(τ x = true ∧ τ y = true) := by
  have hpair : (∃ lit ∈ [-x, -y], Holds τ lit) ↔ Holds τ (-x) ∨ Holds τ (-y) := by simp
  rw [hpair, holds_neg hx, holds_neg hy, not_and_or, Bool.not_eq_true, Bool.not_eq_true]

/-- Of a literal and its negative one holds. -/
theorem holds_neg_iff {lit : ℤ} (h : lit ≠ 0) : Holds τ (-lit) ↔ ¬Holds τ lit := by
  rcases lt_or_gt_of_ne h with hneg | hpos
  · obtain ⟨v, rfl⟩ : ∃ v, lit = -v := ⟨-lit, (neg_neg lit).symm⟩
    have hv : 0 < v := by omega
    rw [neg_neg, holds_pos hv, holds_neg hv, Bool.not_eq_false]
  · rw [holds_pos hpos, holds_neg hpos, Bool.not_eq_true]

theorem models_nil : Models τ [] := fun _ h => absurd h List.not_mem_nil

theorem models_cons {clause : List ℤ} :
    Models τ (clause :: clauses) ↔ (∃ lit ∈ clause, Holds τ lit) ∧ Models τ clauses :=
  List.forall_mem_cons

theorem models_append : Models τ (clauses ++ more) ↔ Models τ clauses ∧ Models τ more :=
  List.forall_mem_append

theorem models_flatMap {α : Type} {l : List α} {f : α → List (List ℤ)} :
    Models τ (l.flatMap f) ↔ ∀ x ∈ l, Models τ (f x) := by
  constructor
  · intro h x hx clause hclause
    exact h clause (List.mem_flatMap.mpr ⟨x, hx, hclause⟩)
  · intro h clause hclause
    obtain ⟨x, hx, hmem⟩ := List.mem_flatMap.mp hclause
    exact h x hx clause hmem

theorem models_map {α : Type} {l : List α} {f : α → List ℤ} :
    Models τ (l.map f) ↔ ∀ x ∈ l, ∃ lit ∈ f x, Holds τ lit := List.forall_mem_map

theorem inRange_append :
    InRange n (clauses ++ more) ↔ InRange n clauses ∧ InRange n more := List.forall_mem_append

theorem inRange_flatMap {α : Type} {l : List α} {f : α → List (List ℤ)} :
    InRange n (l.flatMap f) ↔ ∀ x ∈ l, InRange n (f x) := by
  constructor
  · intro h x hx clause hclause
    exact h clause (List.mem_flatMap.mpr ⟨x, hx, hclause⟩)
  · intro h clause hclause
    obtain ⟨x, hx, hmem⟩ := List.mem_flatMap.mp hclause
    exact h x hx clause hmem

/-! ## Valuations as literals -/

/-- The literal of a variable that holds. -/
def literal (τ : ℤ → Bool) (v : ℤ) : ℤ := if τ v then v else -v

/-- The literals of the variables `1..n`. -/
def literals (τ : ℤ → Bool) (n : ℤ) : List ℤ :=
  (List.range n.toNat).map fun i : ℕ => literal τ (i + 1)

theorem abs_literal {v : ℤ} (h : 0 < v) : |literal τ v| = v := by
  unfold literal
  split_ifs
  · exact abs_of_pos h
  · rw [abs_neg, abs_of_pos h]

theorem holds_literal {v : ℤ} (h : 0 < v) : Holds τ (literal τ v) := by
  unfold literal
  split_ifs with hτ
  · exact (holds_pos h).mpr hτ
  · exact (holds_neg h).mpr (Bool.eq_false_iff.mpr hτ)

theorem mem_literals {lit : ℤ} : lit ∈ literals τ n ↔ ∃ v, 1 ≤ v ∧ v ≤ n ∧ literal τ v = lit := by
  unfold literals
  rw [List.mem_map]
  constructor
  · rintro ⟨i, hi, rfl⟩
    rw [List.mem_range] at hi
    exact ⟨i + 1, by omega, by omega, rfl⟩
  · rintro ⟨v, hpos, hle, rfl⟩
    refine ⟨(v - 1).toNat, List.mem_range.mpr (by omega), ?_⟩
    rw [Int.toNat_of_nonneg (by omega), sub_add_cancel]

/-! ## Exactly one -/

/-- The clauses by which exactly one of `x 0, …, x (k - 1)` is true: at least one, and no two. -/
def oneOf (x : ℕ → ℤ) (k : ℕ) : List (List ℤ) :=
  (List.range k).map x :: (List.range k).flatMap fun i =>
    (List.range' (i + 1) (k - (i + 1))).map fun j => [-x i, -x j]

theorem inRange_oneOf {x : ℕ → ℤ} {k : ℕ} (h : ∀ i < k, 1 ≤ x i ∧ x i ≤ n) :
    InRange n (oneOf x k) := by
  have hpos : ∀ i < k, 1 ≤ |x i| ∧ |x i| ≤ n := by
    intro i hi
    rw [abs_of_pos (by have := h i hi; omega)]
    exact h i hi
  unfold oneOf
  refine List.forall_mem_cons.mpr ⟨fun lit hlit => ?_, inRange_flatMap.mpr fun i hi => ?_⟩
  · obtain ⟨i, hi, rfl⟩ := List.mem_map.mp hlit
    exact hpos i (List.mem_range.mp hi)
  · intro clause hclause lit hlit
    obtain ⟨j, hj, rfl⟩ := List.mem_map.mp hclause
    have hjk := List.mem_range'_1.mp hj
    rcases List.mem_pair.mp hlit with rfl | rfl
    · rw [abs_neg]
      exact hpos i (List.mem_range.mp hi)
    · rw [abs_neg]
      exact hpos j (by omega)

/-- None of these clauses is empty if there is a variable. -/
theorem nil_notMem_oneOf {x : ℕ → ℤ} {k i : ℕ} (hi : i < k) : [] ∉ oneOf x k := by
  intro hnil
  rcases List.mem_cons.mp hnil with hall | hpair
  · have hlength := congrArg List.length hall
    rw [List.length_nil, List.length_map, List.length_range] at hlength
    omega
  · obtain ⟨_, -, hpair⟩ := List.mem_flatMap.mp hpair
    obtain ⟨_, -, hpair⟩ := List.mem_map.mp hpair
    cases hpair

theorem models_oneOf {x : ℕ → ℤ} {k : ℕ} (hpos : ∀ i < k, 0 < x i) :
    Models τ (oneOf x k) ↔ ∃ i < k, τ (x i) = true ∧ ∀ j < k, τ (x j) = true → j = i := by
  unfold oneOf
  rw [models_cons, models_flatMap]
  simp only [models_map]
  constructor
  · rintro ⟨⟨lit, hlit, hholds⟩, hpairs⟩
    obtain ⟨i, hi, rfl⟩ := List.mem_map.mp hlit
    have hik := List.mem_range.mp hi
    have htrue := (holds_pos (hpos i hik)).mp hholds
    -- two of them are a pair in one order or the other
    have hlt : ∀ a b, a < b → b < k → τ (x a) = true → τ (x b) = true → False := by
      intro a b hab hbk ha hb
      have hpair := hpairs a (List.mem_range.mpr (by omega)) b
        (List.mem_range'_1.mpr ⟨hab, by omega⟩)
      exact (exists_neg_pair (hpos a (by omega)) (hpos b hbk)).mp hpair ⟨ha, hb⟩
    refine ⟨i, hik, htrue, fun j hj hjtrue => ?_⟩
    rcases lt_trichotomy j i with h | h | h
    · exact (hlt j i h hik hjtrue htrue).elim
    · exact h
    · exact (hlt i j h hj htrue hjtrue).elim
  · rintro ⟨i, hi, htrue, honly⟩
    refine ⟨⟨x i, List.mem_map_of_mem (List.mem_range.mpr hi), (holds_pos (hpos i hi)).mpr htrue⟩,
      fun a ha b hb => ?_⟩
    obtain ⟨hab, hbk⟩ := List.mem_range'_1.mp hb
    have hak := List.mem_range.mp ha
    refine (exists_neg_pair (hpos a hak) (hpos b (by omega))).mpr fun ⟨hatrue, hbtrue⟩ => ?_
    have haeq := honly a hak hatrue
    have hbeq := honly b (by omega) hbtrue
    omega

end Cathedral.Clauses
