import Mathlib.Algebra.BigOperators.Field
import Mathlib.Tactic.FieldSimp
import Mathlib.Tactic.Positivity

/-!
# Cathedral.Lib.Coverage — weighted tasks covered by groups

Rows say which item has done which task; items belong to groups. A group covers a task
when one of its items has done it, and its weight is the sum over the tasks it covers,
each counted once.
-/

namespace Cathedral.Coverage

universe u v w x

variable {ι : Type u} {κ : Type v} {τ : Type w} {𝕜 : Type x} [DecidableEq κ] [DecidableEq τ]
variable (group : ι → κ) (weight : τ → 𝕜)

/-- The tasks that the items of a group have done. -/
def covered (rows : Finset (ι × τ)) (k : κ) : Finset τ :=
  (rows.filter fun row => group row.1 = k).image Prod.snd

/-- The groups that have done something. -/
def occupied (rows : Finset (ι × τ)) : Finset κ := rows.image fun row => group row.1

variable {group}

theorem mem_covered {rows : Finset (ι × τ)} {k : κ} {t : τ} :
    t ∈ covered group rows k ↔ ∃ i, (i, t) ∈ rows ∧ group i = k := by
  simp [covered]

omit [DecidableEq τ] in
theorem mem_occupied {rows : Finset (ι × τ)} {k : κ} :
    k ∈ occupied group rows ↔ ∃ row ∈ rows, group row.1 = k := by
  simp [occupied]

theorem covered_eq_empty {rows : Finset (ι × τ)} {k : κ} (h : k ∉ occupied group rows) :
    covered group rows k = ∅ := by
  refine Finset.eq_empty_of_forall_notMem fun t ht => h ?_
  obtain ⟨i, hi, rfl⟩ := mem_covered.mp ht
  exact mem_occupied.mpr ⟨(i, t), hi, rfl⟩

/-- Further rows for tasks their groups cover already cover nothing new. -/
theorem covered_eq_of_copies {rows rows' : Finset (ι × τ)} (hsub : rows ⊆ rows')
    (hcopies : ∀ row ∈ rows', row.2 ∈ covered group rows (group row.1)) (k : κ) :
    covered group rows' k = covered group rows k := by
  ext t
  constructor
  · intro h
    obtain ⟨i, hi, rfl⟩ := mem_covered.mp h
    exact hcopies (i, t) hi
  · intro h
    obtain ⟨i, hi, hgroup⟩ := mem_covered.mp h
    exact mem_covered.mpr ⟨i, hsub hi, hgroup⟩

theorem occupied_eq_of_copies {rows rows' : Finset (ι × τ)} (hsub : rows ⊆ rows')
    (hcopies : ∀ row ∈ rows', row.2 ∈ covered group rows (group row.1)) :
    occupied group rows' = occupied group rows := by
  refine Finset.Subset.antisymm ?_ (Finset.image_subset_image hsub)
  intro k hk
  obtain ⟨row, hrow, rfl⟩ := mem_occupied.mp hk
  obtain ⟨i, hi, hgroup⟩ := mem_covered.mp (hcopies row hrow)
  exact mem_occupied.mpr ⟨(i, row.2), hi, hgroup⟩

section Insert

variable [DecidableEq ι] (rows : Finset (ι × τ)) (i : ι) (t : τ)

theorem covered_insert_self :
    covered group (insert (i, t) rows) (group i) = insert t (covered group rows (group i)) := by
  rw [covered, Finset.filter_insert, if_pos rfl, Finset.image_insert, covered]

theorem covered_insert_ne {k : κ} (h : group i ≠ k) :
    covered group (insert (i, t) rows) k = covered group rows k := by
  rw [covered, Finset.filter_insert, if_neg h, covered]

theorem occupied_insert :
    occupied group (insert (i, t) rows) = insert (group i) (occupied group rows) :=
  Finset.image_insert ..

variable {rows i t}

theorem copies_insert (h : t ∈ covered group rows (group i)) :
    ∀ row ∈ insert (i, t) rows, row.2 ∈ covered group rows (group row.1) := by
  intro row hrow
  rcases Finset.mem_insert.mp hrow with rfl | hold
  · exact h
  · exact mem_covered.mpr ⟨row.1, hold, rfl⟩

theorem covered_insert_copy (h : t ∈ covered group rows (group i)) (k : κ) :
    covered group (insert (i, t) rows) k = covered group rows k :=
  covered_eq_of_copies (Finset.subset_insert _ _) (copies_insert h) k

theorem occupied_insert_copy (h : t ∈ covered group rows (group i)) :
    occupied group (insert (i, t) rows) = occupied group rows :=
  occupied_eq_of_copies (Finset.subset_insert _ _) (copies_insert h)

end Insert

/-! ## Weights -/

section Weight

variable [AddCommMonoid 𝕜]

variable (group)

/-- The sum of the weights of the tasks a group covers. -/
def coverWeight (rows : Finset (ι × τ)) (k : κ) : 𝕜 := ∑ t ∈ covered group rows k, weight t

/-- The sum of the weights of all groups. -/
def totalWeight (rows : Finset (ι × τ)) : 𝕜 :=
  ∑ k ∈ occupied group rows, coverWeight group weight rows k

variable {group weight}

theorem coverWeight_eq_zero {rows : Finset (ι × τ)} {k : κ} (h : k ∉ occupied group rows) :
    coverWeight group weight rows k = 0 := by
  rw [coverWeight, covered_eq_empty h, Finset.sum_empty]

/-- The total over any set of groups that holds the occupied ones. -/
theorem totalWeight_eq {rows : Finset (ι × τ)} {ks : Finset κ} (h : occupied group rows ⊆ ks) :
    totalWeight group weight rows = ∑ k ∈ ks, coverWeight group weight rows k :=
  Finset.sum_subset h fun _ _ hk => coverWeight_eq_zero hk

variable [DecidableEq ι] {rows : Finset (ι × τ)} {i : ι} {t : τ}

/-- A new task adds its weight to the group. -/
theorem coverWeight_insert_self (h : t ∉ covered group rows (group i)) :
    coverWeight group weight (insert (i, t) rows) (group i) =
      weight t + coverWeight group weight rows (group i) := by
  rw [coverWeight, covered_insert_self, Finset.sum_insert h, coverWeight]

theorem coverWeight_insert_ne {k : κ} (h : group i ≠ k) :
    coverWeight group weight (insert (i, t) rows) k = coverWeight group weight rows k := by
  rw [coverWeight, covered_insert_ne rows i t h, coverWeight]

/-- A new task adds its weight to the total. -/
theorem totalWeight_insert (h : t ∉ covered group rows (group i)) :
    totalWeight group weight (insert (i, t) rows) = weight t + totalWeight group weight rows := by
  have hself : group i ∈ insert (group i) (occupied group rows) := Finset.mem_insert_self _ _
  rw [totalWeight, occupied_insert, totalWeight_eq (Finset.subset_insert (group i) _),
    ← Finset.add_sum_erase _ _ hself, ← Finset.add_sum_erase _ _ hself,
    coverWeight_insert_self h, add_assoc]
  congr 2
  refine Finset.sum_congr rfl fun k hk => coverWeight_insert_ne ?_
  exact (Finset.ne_of_mem_erase hk).symm

theorem coverWeight_insert_copy (h : t ∈ covered group rows (group i)) (k : κ) :
    coverWeight group weight (insert (i, t) rows) k = coverWeight group weight rows k := by
  rw [coverWeight, covered_insert_copy h, coverWeight]

end Weight

/-! ## Shares -/

section Share

variable [Field 𝕜]

variable (group) in
/-- The weight of a group over the sum of all weights. -/
def coverShare (rows : Finset (ι × τ)) (k : κ) : 𝕜 :=
  coverWeight group weight rows k / totalWeight group weight rows

variable {weight} [DecidableEq ι] {rows : Finset (ι × τ)} {i : ι} {t : τ}

omit [DecidableEq ι] in
/-- Copies of tasks inside their groups change no share. -/
theorem coverShare_eq_of_copies {rows' : Finset (ι × τ)} (hsub : rows ⊆ rows')
    (hcopies : ∀ row ∈ rows', row.2 ∈ covered group rows (group row.1)) (k : κ) :
    coverShare group weight rows' k = coverShare group weight rows k := by
  simp only [coverShare, totalWeight, coverWeight, occupied_eq_of_copies hsub hcopies,
    covered_eq_of_copies hsub hcopies]

variable [LinearOrder 𝕜] [IsStrictOrderedRing 𝕜]

omit [DecidableEq ι] in
theorem coverWeight_nonneg (hw : ∀ t, 0 ≤ weight t) (rows : Finset (ι × τ)) (k : κ) :
    0 ≤ coverWeight group weight rows k := Finset.sum_nonneg fun t _ => hw t

/-- A group weighs less than the total when another one has weight. -/
theorem coverWeight_lt_totalWeight (hw : ∀ t, 0 ≤ weight t) {k k' : κ} (hne : k' ≠ k)
    (hpos : 0 < coverWeight group weight rows k') :
    coverWeight group weight rows k < totalWeight group weight rows := by
  have hk' : k' ∈ occupied group rows := by
    by_contra hnot
    exact hpos.ne' (coverWeight_eq_zero hnot)
  have hsubset : occupied group rows ⊆ insert k (occupied group rows) := Finset.subset_insert _ _
  rw [totalWeight_eq hsubset]
  exact Finset.single_lt_sum hne (Finset.mem_insert_self _ _) (hsubset hk') hpos
    fun j _ _ => coverWeight_nonneg hw rows j

/-- A further task of positive weight raises the share of its group, when another group
has weight. -/
theorem coverShare_lt_insert (hw : ∀ t, 0 ≤ weight t) (hnew : t ∉ covered group rows (group i))
    (ht : 0 < weight t) {k' : κ} (hne : k' ≠ group i)
    (hpos : 0 < coverWeight group weight rows k') :
    coverShare group weight rows (group i) <
      coverShare group weight (insert (i, t) rows) (group i) := by
  have hlt := coverWeight_lt_totalWeight hw hne hpos
  have hcover : 0 ≤ coverWeight group weight rows (group i) := coverWeight_nonneg hw rows _
  have htotal : 0 < totalWeight group weight rows := hcover.trans_lt hlt
  have htotal' : 0 < weight t + totalWeight group weight rows := add_pos ht htotal
  rw [coverShare, coverShare, coverWeight_insert_self hnew, totalWeight_insert hnew,
    div_lt_div_iff₀ htotal htotal', mul_add, add_mul, mul_comm (weight t)]
  exact (add_lt_add_iff_right _).mpr (mul_lt_mul_of_pos_right hlt ht)

end Share

end Cathedral.Coverage
