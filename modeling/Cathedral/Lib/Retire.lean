import Cathedral.Lib.Run
import Cathedral.Lib.Selection

/-!
# Cathedral.Lib.Retire — bounded deletion by key membership

`DELETE … WHERE f(key) IN (SELECT f(key) … WHERE p LIMIT n)` deletes every row whose
`f(key)` occurs among the selected ones, which may be more rows than were selected.

Repeated, such statements drain a table (`drained`), whichever rows each of them selects.
-/

namespace Cathedral.Dict

universe u v w

variable {K : Type u} {V : Type v} {G : Type w} [DecidableEq K] [DecidableEq G]

/-- The rows that the statement deletes. -/
def inPicked (f : K → G) (picked : List K) (k : K) : Bool := f k ∈ picked.map f

/-- The table after the statement. -/
def deleteIn (d : Dict K V) (f : K → G) (picked : List K) : Dict K V :=
  d.filterItems fun k _ => !inPicked f picked k

/-- The row count that the statement reports. -/
def countIn (d : Dict K V) (f : K → G) (picked : List K) : ℕ :=
  d.count fun k _ => inPicked f picked k

/-- The table `d'` is `d` less at most `n` rows under `p`, and both `deleted` and `counted`
are their number. -/
structure Retires (p : K → V → Bool) (n : ℕ) (d d' : Dict K V) (deleted counted : ℕ) : Prop where
  old : ∀ k v, d.get? k = some v → d'.get? k = none → p k v = true
  kept : ∀ k v, d'.get? k = some v → d.get? k = some v
  gone : deleted = d.count fun k _ => (d'.get? k).isNone
  bounded : deleted ≤ n
  counted : counted = deleted

section Retire

variable {d : Dict K V} {f : K → G} {p : K → V → Bool} {n : ℕ} {picked : List K}

omit [DecidableEq K] in
theorem inPicked_iff {k : K} : inPicked f picked k = true ↔ ∃ j ∈ picked, f j = f k := by
  simp [inPicked, List.mem_map]

theorem get?_deleteIn (k : K) :
    (d.deleteIn f picked).get? k = if inPicked f picked k then none else d.get? k := by
  rw [deleteIn, get?_filterItems]
  cases hd : d.get? k with
  | none => simp
  | some v => cases inPicked f picked k <;> simp [Option.filter]

/-- The reported count is the number of rows gone. -/
theorem countIn_eq_gone :
    d.countIn f picked = d.count fun k _ => ((d.deleteIn f picked).get? k).isNone := by
  refine List.countP_congr fun row hrow => ?_
  have hget : d.get? row.1 = some row.2 := mem_items.mp hrow
  simp only [get?_deleteIn, hget]
  cases inPicked f picked row.1 <;> simp

/-- When no other row shares a value with a selected one, the selected ones are deleted. -/
theorem countIn_of_closed (hpicked : d.Selects p n picked)
    (hclosed : ∀ k v, d.get? k = some v → inPicked f picked k = true → k ∈ picked) :
    d.countIn f picked = picked.length := by
  rw [countIn, ← length_keysWhere]
  refine ((List.perm_ext_iff_of_nodup (nodup_keysWhere d _) hpicked.nodup).mpr fun k => ?_).length_eq
  rw [mem_keysWhere]
  constructor
  · rintro ⟨v, hget, hk⟩
    exact hclosed k v hget hk
  · intro hk
    obtain ⟨v, hget, -⟩ := hpicked.sound k hk
    exact ⟨v, hget, inPicked_iff.mpr ⟨k, hk, rfl⟩⟩

theorem retires_iff (hpicked : d.Selects p n picked) :
    Retires p n d (d.deleteIn f picked) (d.countIn f picked) (min n (d.count p)) ↔
      ∀ k v, d.get? k = some v → inPicked f picked k = true → k ∈ picked := by
  constructor
  · intro h k v hget hk
    by_contra hother
    -- the selected rows and this one are more than are counted
    have hsub : k :: picked ⊆ d.keysWhere fun k _ => inPicked f picked k := by
      intro j hj
      rw [mem_keysWhere]
      rcases List.mem_cons.mp hj with rfl | hj
      · exact ⟨v, hget, hk⟩
      · obtain ⟨w, hw, -⟩ := hpicked.sound j hj
        exact ⟨w, hw, inPicked_iff.mpr ⟨j, hj, rfl⟩⟩
    have hle := ((hpicked.nodup.cons hother).subperm hsub).length_le
    rw [length_keysWhere, List.length_cons, hpicked.length] at hle
    have hcounted := h.counted
    rw [countIn] at hcounted
    omega
  · intro hclosed
    have hcount := countIn_of_closed hpicked hclosed
    refine ⟨fun k v hget hgone => ?_, fun k v hget => ?_, countIn_eq_gone, ?_, ?_⟩
    · rw [get?_deleteIn] at hgone
      split_ifs at hgone with hk
      · obtain ⟨w, hw, hp⟩ := hpicked.sound k (hclosed k v hget hk)
        rw [hget] at hw
        cases hw
        exact hp
      · rw [hget] at hgone
        cases hgone
    · rw [get?_deleteIn] at hget
      split_ifs at hget
      exact hget
    · rw [hcount, hpicked.length]
      exact min_le_left n _
    · rw [hcount, hpicked.length]

/-- A one-to-one value names the row. -/
theorem retires_of_injective (hf : Function.Injective f) (hpicked : d.Selects p n picked) :
    Retires p n d (d.deleteIn f picked) (d.countIn f picked) (min n (d.count p)) := by
  refine (retires_iff hpicked).mpr fun k v _ hk => ?_
  obtain ⟨j, hj, heq⟩ := inPicked_iff.mp hk
  exact hf heq ▸ hj

/-- No row under `p` shares its value with one that is not, and beyond the limit no two
rows under `p` share theirs. -/
structure Separated (d : Dict K V) (f : K → G) (p : K → V → Bool) (n : ℕ) : Prop where
  old : ∀ k v k' v', d.get? k = some v → d.get? k' = some v' → p k v = true → f k = f k' →
    p k' v' = true
  beyond : n < d.count p → ∀ k v k' v', d.get? k = some v → d.get? k' = some v' →
    p k v = true → p k' v' = true → f k = f k' → k = k'

/-- A select may return one row and leave out another, as far as the limit lets it. -/
theorem exists_selects_mem (hn : 0 < n) {k k' : K} {v : V} (hget : d.get? k = some v)
    (hp : p k v = true) (hne : k ≠ k') (hout : k' ∈ d.keysWhere p → n < d.count p) :
    ∃ picked, d.Selects p n picked ∧ k ∈ picked ∧ k' ∉ picked := by
  have hk : k ∈ d.keysWhere p := mem_keysWhere.mpr ⟨v, hget, hp⟩
  have hnd := nodup_keysWhere d p
  have hlen := length_keysWhere d p
  -- the other rows, without either
  have hrest : ((d.keysWhere p).erase k).Nodup := hnd.erase k
  have hlenK := List.length_erase_of_mem hk
  have hkeys : ∀ j ∈ ((d.keysWhere p).erase k).erase k', j ∈ d.keysWhere p ∧ j ≠ k ∧ j ≠ k' := by
    intro j hj
    have hj' := hrest.mem_erase_iff.mp hj
    have hj'' := hnd.mem_erase_iff.mp hj'.2
    exact ⟨hj''.2, hj''.1, hj'.1⟩
  have hpos : 0 < (d.keysWhere p).length := List.length_pos_of_mem hk
  have hcount : n - 1 ≤ (((d.keysWhere p).erase k).erase k').length ∨
      (((d.keysWhere p).erase k).erase k').length = d.count p - 1 := by
    by_cases hk' : k' ∈ (d.keysWhere p).erase k
    · have hlen' := List.length_erase_of_mem hk'
      have hlarge := hout (hnd.mem_erase_iff.mp hk').2
      omega
    · rw [List.erase_of_not_mem hk']
      omega
  refine ⟨k :: (((d.keysWhere p).erase k).erase k').take (n - 1), ⟨?_, ?_, ?_⟩,
    List.mem_cons_self, ?_⟩
  · refine List.nodup_cons.mpr ⟨fun hmem => ?_, (hrest.erase k').sublist (List.take_sublist _ _)⟩
    exact (hkeys k (List.mem_of_mem_take hmem)).2.1 rfl
  · intro j hj
    rcases List.mem_cons.mp hj with rfl | hj
    · exact ⟨v, hget, hp⟩
    · exact mem_keysWhere.mp (hkeys j (List.mem_of_mem_take hj)).1
  · rw [List.length_cons, List.length_take]
    have hupper : (((d.keysWhere p).erase k).erase k').length ≤ ((d.keysWhere p).erase k).length :=
      (List.erase_sublist ..).length_le
    omega
  · intro hmem
    rcases List.mem_cons.mp hmem with heq | hmem
    · exact hne heq.symm
    · exact (hkeys k' (List.mem_of_mem_take hmem)).2.2 rfl

theorem forall_retires_iff (hn : 0 < n) :
    (∀ picked, d.Selects p n picked →
      Retires p n d (d.deleteIn f picked) (d.countIn f picked) (min n (d.count p))) ↔
      d.Separated f p n := by
  constructor
  · intro h
    -- a row that shares its value with a selected one is itself selected
    have hclosed : ∀ picked, d.Selects p n picked → ∀ k v, d.get? k = some v →
        inPicked f picked k = true → k ∈ picked :=
      fun picked hpicked => (retires_iff hpicked).mp (h picked hpicked)
    refine ⟨fun k v k' v' hk hk' hp hf => ?_, fun hlarge k v k' v' hk hk' hp hp' hf => ?_⟩
    · by_contra hp'
      have hne : k ≠ k' := by
        rintro rfl
        rw [hk] at hk'
        cases hk'
        exact hp' hp
      have hout : k' ∈ d.keysWhere p → n < d.count p := by
        intro hmem
        obtain ⟨w, hw, hpw⟩ := mem_keysWhere.mp hmem
        rw [hk'] at hw
        cases hw
        exact absurd hpw hp'
      obtain ⟨picked, hpicked, hin, hnot⟩ := exists_selects_mem hn hk hp hne hout
      exact hnot (hclosed picked hpicked k' v' hk' (inPicked_iff.mpr ⟨k, hin, hf⟩))
    · by_contra hne
      obtain ⟨picked, hpicked, hin, hnot⟩ := exists_selects_mem hn hk hp hne fun _ => hlarge
      exact hnot (hclosed picked hpicked k' v' hk' (inPicked_iff.mpr ⟨k, hin, hf⟩))
  · intro hsep picked hpicked
    refine (retires_iff hpicked).mpr fun k v hget hk => ?_
    obtain ⟨j, hj, hf⟩ := inPicked_iff.mp hk
    obtain ⟨w, hw, hpw⟩ := hpicked.sound j hj
    have hp := hsep.old j w k v hw hget hpw hf
    rcases lt_or_ge n (d.count p) with hlarge | hsmall
    · exact hsep.beyond hlarge j w k v hw hget hpw hp hf ▸ hj
    · exact hpicked.complete hsmall hget hp

/-! ## Statement after statement -/

/-- One statement, for the rows under `p`. -/
def Batch (f : K → G) (n : ℕ) (d : Dict K V) (p : K → V → Bool) (d' : Dict K V) : Prop :=
  ∃ picked, d.Selects p n picked ∧ d' = d.deleteIn f picked

theorem length_deleteIn_le (hpicked : d.Selects p n picked) :
    (d.deleteIn f picked).items.length + picked.length ≤ d.items.length := by
  have hsub : picked ⊆ d.keysWhere fun k _ => inPicked f picked k := by
    intro k hk
    obtain ⟨v, hv, -⟩ := hpicked.sound k hk
    exact mem_keysWhere.mpr ⟨v, hv, inPicked_iff.mpr ⟨k, hk, rfl⟩⟩
  have hle := (hpicked.nodup.subperm hsub).length_le
  rw [length_keysWhere, count] at hle
  have hsplit := List.length_eq_countP_add_countP
    (fun row : K × V => inPicked f picked row.1) (l := d.items)
  rw [deleteIn, filterItems, ← List.countP_eq_length_filter]
  simp only [Bool.not_eq_true, Bool.decide_eq_false] at hsplit
  omega

/-- Either no row under `q` is left, or every statement so far was a full batch. -/
theorem drained {q : K → V → Bool} {ps : List (K → V → Bool)} {d' : Dict K V}
    (h : Run (Batch f n) d ps d') (hq : ∀ p ∈ ps, ∀ k v, q k v = true → p k v = true)
    (hn : d.items.length ≤ n * ps.length) : ∀ k v, d'.get? k = some v → q k v = false := by
  have hall : (∀ p ∈ ps, ∀ k v, q k v = true → p k v = true) →
      (∀ k v, d'.get? k = some v → q k v = false) ∨
        d'.items.length + n * ps.length ≤ d.items.length := by
    refine Run.history (P := fun ps d' => (∀ p ∈ ps, ∀ k v, q k v = true → p k v = true) →
      (∀ k v, d'.get? k = some v → q k v = false) ∨
        d'.items.length + n * ps.length ≤ d.items.length) (fun _ => .inr le_rfl) ?_ h
    rintro ps d₁ p _ ih ⟨picked, hpicked, rfl⟩ hq
    have hkept : ∀ k v, (d₁.deleteIn f picked).get? k = some v →
        d₁.get? k = some v ∧ k ∉ picked := by
      intro k v hget
      rw [get?_deleteIn] at hget
      split_ifs at hget with hk
      exact ⟨hget, fun hmem => hk (inPicked_iff.mpr ⟨k, hmem, rfl⟩)⟩
    rcases ih fun p hp => hq p (List.mem_append_left _ hp) with hnone | hfull
    · exact .inl fun k v hget => hnone k v (hkept k v hget).1
    · rcases le_or_gt (d₁.count p) n with hsmall | hlarge
      · -- all rows under `p` were selected
        refine .inl fun k v hget => ?_
        by_contra hqk
        obtain ⟨hold, hnot⟩ := hkept k v hget
        have hp := hq p (by simp) k v (by simpa using hqk)
        exact hnot (hpicked.complete hsmall hold hp)
      · have hle := length_deleteIn_le (f := f) hpicked
        rw [hpicked.length, min_eq_left hlarge.le] at hle
        refine .inr ?_
        rw [List.length_append, List.length_singleton, Nat.mul_succ]
        omega
  rcases hall hq with hnone | hfull
  · exact hnone
  · intro k v hget
    have hempty : d'.items = [] := List.length_eq_zero_iff.mp (by omega)
    have hmem := mem_items.mpr hget
    rw [hempty] at hmem
    cases hmem

end Retire

end Cathedral.Dict
