import Cathedral.Lib.Table

/-!
# Cathedral.Lib.Selection — what a query selects from a keyed table
-/

namespace Cathedral.Dict

universe u v w

variable {K : Type u} {V : Type v} [DecidableEq K]

/-! ## The oldest rows -/

/-- `SELECT … WHERE p ORDER BY key ASC LIMIT n`. -/
def oldest {κ : Type w} [LinearOrder κ] (d : Dict K V) (p : K → V → Bool) (key : V → κ) (n : ℕ) :
    List (K × V) :=
  ((d.items.filter fun row => p row.1 row.2).insertionSort fun a b => key a.2 ≤ key b.2).take n

section Oldest

variable {κ : Type w} [LinearOrder κ] {d : Dict K V} {p : K → V → Bool} {key : V → κ} {n : ℕ}

theorem mem_oldest {row : K × V} (h : row ∈ d.oldest p key n) :
    d.get? row.1 = some row.2 ∧ p row.1 row.2 = true := by
  have hmem := List.mem_insertionSort _ |>.mp (List.mem_of_mem_take h)
  rw [List.mem_filter] at hmem
  exact ⟨mem_items.mp hmem.1, hmem.2⟩

omit [DecidableEq K] in
theorem nodup_keys_oldest : ((d.oldest p key n).map Prod.fst).Nodup := by
  have hsub : ((d.items.filter fun row => p row.1 row.2).map Prod.fst).Nodup :=
    d.nodup.sublist (List.filter_sublist.map _)
  have hperm := (List.perm_insertionSort (fun a b : K × V => key a.2 ≤ key b.2)
    (d.items.filter fun row => p row.1 row.2)).map Prod.fst
  exact (hperm.nodup_iff.mpr hsub).sublist ((List.take_sublist _ _).map _)

end Oldest

/-- What a batch update does to one row. -/
theorem get?_modifyAll (d : Dict K V) {keys : List K} (hnd : keys.Nodup) (f : V → V) (k : K) :
    (d.modifyAll keys f).get? k = (d.get? k).map fun v => if k ∈ keys then f v else v := by
  by_cases hmem : k ∈ keys
  · rw [get?_modifyAll_of_mem f d hnd hmem]
    simp [hmem]
  · rw [get?_modifyAll_of_notMem f d hmem]
    simp [hmem]

/-- An update of the only row. -/
theorem modify_singleton (k : K) (v : V) (f : V → V) :
    (empty.set k v).modify k f = empty.set k (f v) := by
  ext1
  rw [items_modify, items_set_of_none v (get?_empty k), items_set_of_none (f v) (get?_empty k)]
  simp [empty]

/-! ## Counts -/

/-- `SELECT COUNT(*) … WHERE p`. -/
def count (d : Dict K V) (p : K → V → Bool) : ℕ := d.items.countP fun row => p row.1 row.2

section Count

variable {p : K → V → Bool}

omit [DecidableEq K] in
@[simp] theorem count_empty : (empty : Dict K V).count p = 0 := rfl

/-- The rows under one key are at most one. -/
theorem countP_key (p : K → V → Bool) (k : K) : ∀ {l : List (K × V)}, (l.map Prod.fst).Nodup →
    l.countP (fun row => row.1 = k && p row.1 row.2) =
      if (find k l).any (p k) then 1 else 0
  | [], _ => rfl
  | (j, v) :: rest, hnd => by
    rw [List.map_cons, List.nodup_cons] at hnd
    have ih := countP_key p k hnd.2
    by_cases hj : j = k
    · subst hj
      -- no later row has this key
      have hnone : find j rest = none := find_eq_none.mpr hnd.1
      rw [hnone] at ih
      rw [List.countP_cons, ih]
      simp [find]
    · rw [List.countP_cons, ih]
      simp [find, hj]

/-- A count, split at one row. -/
theorem count_eq_add (d : Dict K V) (p : K → V → Bool) (k : K) :
    d.count p = d.count (fun j v => j ≠ k && p j v) +
      if (d.get? k).any (p k) then 1 else 0 := by
  have hsplit := List.countP_eq_countP_filter_add d.items (fun row => p row.1 row.2)
    fun row => decide (row.1 ≠ k)
  rw [List.countP_filter, List.countP_filter] at hsplit
  have hkey := countP_key p k d.nodup
  rw [count, hsplit, count, get?, ← hkey]
  congr 1
  · exact List.countP_congr fun row _ => by simp [and_comm]
  · exact List.countP_congr fun row _ => by simp [and_comm]

theorem count_set_of_none {d : Dict K V} {k : K} (v : V) (h : d.get? k = none) :
    (d.set k v).count p = d.count p + if p k v then 1 else 0 := by
  rw [count, items_set_of_none v h, List.countP_append, List.countP_singleton, count]

/-- Writing one row leaves the count of the others. -/
theorem count_modify_others (d : Dict K V) (k : K) (f : V → V) :
    (d.modify k f).count (fun j v => j ≠ k && p j v) = d.count fun j v => j ≠ k && p j v := by
  rw [count, items_modify, List.countP_map, count]
  refine List.countP_congr fun row _ => ?_
  by_cases hrow : row.1 = k <;> simp [hrow]

theorem count_modify (d : Dict K V) (k : K) (f : V → V) :
    (d.modify k f).count p = d.count (fun j v => j ≠ k && p j v) +
      if (d.get? k).any (fun v => p k (f v)) then 1 else 0 := by
  rw [count_eq_add _ p k, count_modify_others, get?_modify_self, Option.any_map]

/-- An update after which a row is not counted does not raise the count. -/
theorem count_modify_le (d : Dict K V) (k : K) {f : V → V} (hf : ∀ v, p k (f v) = false) :
    (d.modify k f).count p ≤ d.count p := by
  have hnone : (d.get? k).any (fun v => p k (f v)) = false := by
    cases d.get? k <;> simp [hf]
  have hafter := count_modify (p := p) d k f
  have hbefore := count_eq_add d p k
  rw [hnone] at hafter
  simp only [Bool.false_eq_true, if_false] at hafter
  omega

theorem count_modifyAll_le {f : V → V} (hf : ∀ k v, p k (f v) = false) :
    ∀ (keys : List K) (d : Dict K V), (d.modifyAll keys f).count p ≤ d.count p
  | [], _ => le_rfl
  | k :: keys, d => by
    have ih := count_modifyAll_le hf keys (d.modify k f)
    exact ih.trans (count_modify_le d k (hf k))

omit [DecidableEq K] in
/-- An update of every row under which no new row is counted. -/
theorem count_mapItems_le (d : Dict K V) {f : K → V → V} (hf : ∀ k v, p k (f k v) → p k v) :
    (d.mapItems f).count p ≤ d.count p := by
  rw [count, mapItems, List.countP_map, count]
  exact List.countP_mono_left fun row _ => hf row.1 row.2

/-- Writing a row over another adds at most one to a count. -/
theorem count_set_le (d : Dict K V) (k : K) (v : V) : (d.set k v).count p ≤ d.count p + 1 := by
  cases hget : d.get? k with
  | none =>
    rw [count_set_of_none v hget]
    split <;> omega
  | some old =>
    have hset : d.set k v = d.modify k fun _ => v := by rw [modify, hget]
    have hafter := count_modify (p := p) d k fun _ => v
    have hbefore := count_eq_add d p k
    rw [hset, hafter]
    split <;> omega

theorem exists_of_count_pos {d : Dict K V} (h : 0 < d.count p) :
    ∃ k v, d.get? k = some v ∧ p k v = true := by
  obtain ⟨row, hrow, hp⟩ := List.countP_pos_iff.mp h
  exact ⟨row.1, row.2, mem_items.mp hrow, hp⟩

end Count

/-! ## A limit without an order -/

/-- What `SELECT key … WHERE p LIMIT n` may return: some of the rows, and all of
them when they are at most `n`. -/
structure Selects (d : Dict K V) (p : K → V → Bool) (n : ℕ) (picked : List K) : Prop where
  nodup : picked.Nodup
  sound : ∀ k ∈ picked, ∃ v, d.get? k = some v ∧ p k v = true
  length : picked.length = min n (d.count p)

section Selects

variable {d : Dict K V} {p : K → V → Bool} {n : ℕ} {picked : List K}

/-- The keys of the rows a query selects. -/
def keysWhere (d : Dict K V) (p : K → V → Bool) : List K :=
  (d.items.filter fun row => p row.1 row.2).map Prod.fst

theorem mem_keysWhere {k : K} :
    k ∈ d.keysWhere p ↔ ∃ v, d.get? k = some v ∧ p k v = true := by
  rw [keysWhere, List.mem_map]
  constructor
  · rintro ⟨⟨j, v⟩, hmem, rfl⟩
    rw [List.mem_filter] at hmem
    exact ⟨v, mem_items.mp hmem.1, hmem.2⟩
  · rintro ⟨v, hget, hp⟩
    exact ⟨(k, v), List.mem_filter.mpr ⟨mem_items.mpr hget, hp⟩, rfl⟩

omit [DecidableEq K] in
theorem nodup_keysWhere (d : Dict K V) (p : K → V → Bool) : (d.keysWhere p).Nodup :=
  d.nodup.sublist (List.filter_sublist.map _)

omit [DecidableEq K] in
theorem length_keysWhere (d : Dict K V) (p : K → V → Bool) :
    (d.keysWhere p).length = d.count p := by
  rw [keysWhere, List.length_map, count, List.countP_eq_length_filter]

/-- Queries that agree on the rows of the table return the same. -/
theorem selects_congr {q : K → V → Bool} (h : ∀ k v, d.get? k = some v → p k v = q k v) :
    d.Selects p n picked ↔ d.Selects q n picked := by
  have hcount : d.count p = d.count q :=
    List.countP_congr fun row hrow => by rw [h row.1 row.2 (mem_items.mp hrow)]
  constructor
  · rintro ⟨hnodup, hsound, hlen⟩
    refine ⟨hnodup, fun k hk => ?_, hcount ▸ hlen⟩
    obtain ⟨v, hget, hp⟩ := hsound k hk
    exact ⟨v, hget, h k v hget ▸ hp⟩
  · rintro ⟨hnodup, hsound, hlen⟩
    refine ⟨hnodup, fun k hk => ?_, hcount ▸ hlen⟩
    obtain ⟨v, hget, hq⟩ := hsound k hk
    exact ⟨v, hget, (h k v hget).symm ▸ hq⟩

theorem exists_selects (d : Dict K V) (p : K → V → Bool) (n : ℕ) :
    ∃ picked, d.Selects p n picked := by
  refine ⟨(d.keysWhere p).take n, ?_, ?_, ?_⟩
  · exact (nodup_keysWhere d p).sublist (List.take_sublist _ _)
  · intro k hk
    exact mem_keysWhere.mp (List.mem_of_mem_take hk)
  · rw [List.length_take, length_keysWhere]

/-- Within the limit every row is selected. -/
theorem Selects.complete (h : d.Selects p n picked) (hn : d.count p ≤ n) {k : K} {v : V}
    (hget : d.get? k = some v) (hp : p k v = true) : k ∈ picked := by
  have hsub : picked ⊆ d.keysWhere p := fun j hj => mem_keysWhere.mpr (h.sound j hj)
  have hlen : (d.keysWhere p).length ≤ picked.length := by
    rw [length_keysWhere, h.length, min_eq_right hn]
  have hperm := (List.subperm_of_subset h.nodup hsub).perm_of_length_le hlen
  exact hperm.mem_iff.mpr (mem_keysWhere.mpr ⟨v, hget, hp⟩)

/-- Beyond the limit any one row may be left out. -/
theorem exists_selects_notMem (hn : n < d.count p) {k : K} {v : V}
    (hget : d.get? k = some v) (hp : p k v = true) :
    ∃ picked, d.Selects p n picked ∧ k ∉ picked := by
  have hk : k ∈ d.keysWhere p := mem_keysWhere.mpr ⟨v, hget, hp⟩
  have hlen := List.length_erase_of_mem hk
  rw [length_keysWhere] at hlen
  have hsub : ((d.keysWhere p).erase k).take n ⊆ (d.keysWhere p).erase k :=
    (List.take_sublist _ _).subset
  refine ⟨((d.keysWhere p).erase k).take n, ⟨?_, ?_, ?_⟩, ?_⟩
  · exact ((nodup_keysWhere d p).erase k).sublist (List.take_sublist _ _)
  · intro j hj
    exact mem_keysWhere.mp (List.mem_of_mem_erase (hsub hj))
  · rw [List.length_take]
    omega
  · intro hmem
    exact (nodup_keysWhere d p).not_mem_erase (hsub hmem)

end Selects

end Cathedral.Dict
