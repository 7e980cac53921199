import Mathlib.Data.Set.Function
import Cathedral.Lib.Clauses

/-!
# Cathedral.Lib.DirectEncoding — functions between finite sets as models

The direct encoding of a function has a variable for each argument and value, and clauses that
give each argument exactly one value. Further constraints on the function are clauses over the
same variables.
-/

namespace Cathedral.DirectEncoding

open Clauses

/-- An assignment of the variables `1..N`; the others are false. -/
def valuation {N : ℕ} (m : Fin N → Bool) (v : ℤ) : Bool :=
  if h : (v - 1).toNat < N then m ⟨(v - 1).toNat, h⟩ else false

/-- The variable that says that argument `p` has value `v`. -/
def cellVar (V p v : ℕ) : ℤ := p * V + v + 1

/-- Every argument has exactly one value. -/
def direct (P V : ℕ) : List (List ℤ) := (List.range P).flatMap fun p => oneOf (cellVar V p) V

variable {P V : ℕ}

theorem cellVar_pos (V p v : ℕ) : 0 < cellVar V p v := by
  unfold cellVar
  exact_mod_cast Nat.succ_pos (p * V + v)

theorem index_lt {p v : ℕ} (hp : p < P) (hv : v < V) : p * V + v < P * V :=
  calc p * V + v < p * V + V := Nat.add_lt_add_left hv _
    _ = (p + 1) * V := (Nat.succ_mul p V).symm
    _ ≤ P * V := Nat.mul_le_mul_right V hp

theorem cellVar_le {p v : ℕ} (hp : p < P) (hv : v < V) : cellVar V p v ≤ (P * V : ℕ) := by
  have hlt := index_lt hp hv
  unfold cellVar
  omega

theorem inRange_cell {p : ℕ} (hp : p < P) : InRange (P * V : ℕ) (oneOf (cellVar V p) V) :=
  inRange_oneOf fun v hv => ⟨cellVar_pos V p v, cellVar_le hp hv⟩

theorem valuation_cellVar (m : Fin (P * V) → Bool) {p v : ℕ} (hp : p < P) (hv : v < V) :
    valuation m (cellVar V p v) = m ⟨p * V + v, index_lt hp hv⟩ := by
  have hindex : (cellVar V p v - 1).toNat = p * V + v := by
    unfold cellVar
    omega
  unfold valuation
  simp only [hindex, index_lt hp hv, dite_true]

/-- The argument of a variable. -/
def argument (i : Fin (P * V)) : Fin P :=
  ⟨i.val / V, Nat.div_lt_of_lt_mul (i.isLt.trans_eq (Nat.mul_comm P V))⟩

/-- The assignment of a function. -/
def encode (g : Fin P → Fin V) : Fin (P * V) → Bool :=
  fun i => decide ((g (argument i)).val = i.val % V)

theorem encode_index (g : Fin P → Fin V) {p v : ℕ} (hp : p < P) (hv : v < V) :
    encode g ⟨p * V + v, index_lt hp hv⟩ = decide ((g ⟨p, hp⟩).val = v) := by
  have hV : 0 < V := by omega
  have hdiv : (p * V + v) / V = p := by
    rw [Nat.mul_comm, Nat.mul_add_div hV, Nat.div_eq_of_lt hv, Nat.add_zero]
  have hmod : (p * V + v) % V = v := by
    rw [Nat.mul_comm, Nat.mul_add_mod, Nat.mod_eq_of_lt hv]
  simp only [encode, argument, hdiv, hmod]

theorem valuation_encode (g : Fin P → Fin V) {p v : ℕ} (hp : p < P) (hv : v < V) :
    valuation (encode g) (cellVar V p v) = decide ((g ⟨p, hp⟩).val = v) := by
  rw [valuation_cellVar _ hp hv, encode_index g hp hv]

/-- Every variable is one of an argument and a value. -/
theorem exists_index (i : Fin (P * V)) :
    ∃ p v, ∃ (hp : p < P) (hv : v < V), i = ⟨p * V + v, index_lt hp hv⟩ := by
  have hV : 0 < V := by
    rcases Nat.eq_zero_or_pos V with rfl | hpos
    · exact absurd i.isLt (Nat.not_lt_zero _)
    · exact hpos
  refine ⟨i.val / V, i.val % V, (argument i).isLt, Nat.mod_lt _ hV, Fin.ext ?_⟩
  exact (Nat.div_add_mod' i.val V).symm

theorem encode_injective : Function.Injective (encode (P := P) (V := V)) := by
  intro g g' heq
  funext p
  have hself := congrFun heq ⟨p.val * V + (g p).val, index_lt p.isLt (g p).isLt⟩
  rw [encode_index g p.isLt (g p).isLt, encode_index g' p.isLt (g p).isLt] at hself
  exact Fin.ext (of_decide_eq_true (hself.symm.trans (decide_eq_true rfl))).symm

/-- The models are the encodings of functions. -/
theorem exists_encode_iff (m : Fin (P * V) → Bool) :
    Models (valuation m) (direct P V) ↔ ∃ g, encode g = m := by
  have hcell : ∀ p, Models (valuation m) (oneOf (cellVar V p) V) ↔
      ∃ v < V, valuation m (cellVar V p v) = true ∧
        ∀ w < V, valuation m (cellVar V p w) = true → w = v :=
    fun p => models_oneOf fun v _ => cellVar_pos V p v
  rw [direct, models_flatMap]
  constructor
  · intro hmodels
    have hvalue : ∀ p : Fin P, ∃ v : Fin V, ∀ w (hw : w < V),
        m ⟨p.val * V + w, index_lt p.isLt hw⟩ = decide (v.val = w) := by
      intro p
      obtain ⟨v, hv, htrue, honly⟩ := (hcell p).mp (hmodels p (List.mem_range.mpr p.isLt))
      refine ⟨⟨v, hv⟩, fun w hw => ?_⟩
      rw [← valuation_cellVar m p.isLt hw]
      by_cases hvw : v = w
      · rw [← hvw, htrue, decide_eq_true rfl]
      · rw [decide_eq_false hvw]
        exact Bool.eq_false_iff.mpr fun hw' => hvw (honly w hw hw').symm
    choose g hg using hvalue
    refine ⟨g, funext fun i => ?_⟩
    obtain ⟨p, v, hp, hv, rfl⟩ := exists_index i
    rw [encode_index g hp hv, hg ⟨p, hp⟩ v hv]
  · rintro ⟨g, rfl⟩ p hp
    have hp := List.mem_range.mp hp
    refine (hcell p).mpr ⟨(g ⟨p, hp⟩).val, (g ⟨p, hp⟩).isLt, ?_, fun w hw htrue => ?_⟩
    · rw [valuation_encode g hp (g ⟨p, hp⟩).isLt, decide_eq_true rfl]
    · rw [valuation_encode g hp hw] at htrue
      exact (of_decide_eq_true htrue).symm

/-- Under constraints that say something of the function, the models are in one-to-one
correspondence with the functions of which it holds. -/
theorem bijOn_encode {clauses constraints : List (List ℤ)} {Ok : (Fin P → Fin V) → Prop}
    (hclauses : ∀ τ, Models τ clauses ↔ Models τ (direct P V) ∧ Models τ constraints)
    (hok : ∀ g, Models (valuation (encode g)) constraints ↔ Ok g) :
    Set.BijOn encode {g | Ok g} {m | Models (valuation m) clauses} := by
  refine ⟨?_, encode_injective.injOn, ?_⟩
  · intro g hg
    exact (hclauses _).mpr ⟨(exists_encode_iff _).mpr ⟨g, rfl⟩, (hok g).mpr hg⟩
  · intro m hm
    obtain ⟨hdirect, hconstraints⟩ := (hclauses _).mp hm
    obtain ⟨g, rfl⟩ := (exists_encode_iff m).mp hdirect
    exact ⟨g, (hok g).mp hconstraints, rfl⟩

end Cathedral.DirectEncoding
