import Cathedral.Lib.Dict

/-!
# Cathedral.Lib.Table — writes to a keyed table

A table with a primary key is a dictionary from keys to rows. Three writes and
what a row lookup sees after each:

* `insertIgnore` — `INSERT OR IGNORE`, with the row count it reports;
* `insertNew` — a plain `INSERT`, which fails on a taken key;
* `modify` — `UPDATE … WHERE key = k`, and `modifyAll` for a list of keys.

A query is a filter over the rows; `filter_set` is its frame rule.
-/

namespace Cathedral.Dict

universe u v

variable {K : Type u} {V : Type v} [DecidableEq K] (d : Dict K V) (k k' : K) (v : V)

/-! ## Inserts -/

/-- `INSERT OR IGNORE`: the table, and whether the row was inserted. -/
def insertIgnore : Dict K V × Bool :=
  match d.get? k with
  | some _ => (d, false)
  | none => (d.set k v, true)

/-- `INSERT`: `none` when the key is taken. -/
def insertNew : Option (Dict K V) :=
  match d.get? k with
  | some _ => none
  | none => some (d.set k v)

variable {d k k' v}

theorem insertIgnore_of_some {old : V} (h : d.get? k = some old) :
    d.insertIgnore k v = (d, false) := by simp [insertIgnore, h]

theorem insertIgnore_of_none (h : d.get? k = none) :
    d.insertIgnore k v = (d.set k v, true) := by simp [insertIgnore, h]

theorem insertIgnore_cases (d : Dict K V) (k : K) (v : V) :
    (∃ old, d.get? k = some old ∧ d.insertIgnore k v = (d, false)) ∨
      (d.get? k = none ∧ d.insertIgnore k v = (d.set k v, true)) := by
  cases h : d.get? k with
  | some old => exact Or.inl ⟨old, rfl, insertIgnore_of_some h⟩
  | none => exact Or.inr ⟨rfl, insertIgnore_of_none h⟩

theorem insertNew_eq_some {d' : Dict K V} :
    d.insertNew k v = some d' ↔ d.get? k = none ∧ d' = d.set k v := by
  unfold insertNew
  cases h : d.get? k with
  | some old => simp
  | none => simp [eq_comm]

theorem insertNew_of_none (h : d.get? k = none) : d.insertNew k v = some (d.set k v) :=
  insertNew_eq_some.mpr ⟨h, rfl⟩

/-- A row that was there stays as it was under an insert of either kind. -/
theorem get?_set_of_none {old : V} (hk : d.get? k = none) (h : d.get? k' = some old) :
    (d.set k v).get? k' = some old := by
  have hne : k ≠ k' := by
    rintro rfl
    rw [hk] at h
    cases h
  rw [get?_set_ne d v hne, h]

/-- A row that was there stays under `INSERT OR IGNORE`. -/
theorem get?_insertIgnore_of_some {old : V} (v : V) (h : d.get? k' = some old) :
    (d.insertIgnore k v).1.get? k' = some old := by
  rcases insertIgnore_cases d k v with ⟨-, -, heq⟩ | ⟨hnone, heq⟩
  · rw [heq, h]
  · rw [heq, get?_set_of_none hnone h]

/-- The keys taken after `INSERT OR IGNORE`. -/
theorem insertIgnore_taken (d : Dict K V) (k k' : K) (v : V) :
    (d.insertIgnore k v).1.get? k' ≠ none ↔ d.get? k' ≠ none ∨ k' = k := by
  rcases insertIgnore_cases d k v with ⟨old, hold, heq⟩ | ⟨-, heq⟩
  · rw [heq]
    refine ⟨Or.inl, ?_⟩
    rintro (h | rfl)
    · exact h
    · simp [hold]
  · rw [heq, get?_set]
    split
    · next hk => simp [hk]
    · next hk => simp [Ne.symm hk]

/-- A row under a new key is appended. -/
theorem items_set_of_none (v : V) (h : d.get? k = none) : (d.set k v).items = d.items ++ [(k, v)] :=
  upsert_of_notMem v (get?_eq_none.mp h)

theorem keys_set_of_none (v : V) (h : d.get? k = none) : (d.set k v).keys = d.keys ++ [k] := by
  rw [keys, items_set_of_none v h, List.map_append]
  rfl

theorem values_set_of_none (v : V) (h : d.get? k = none) :
    (d.set k v).values = d.values ++ [v] := by
  rw [values, items_set_of_none v h, List.map_append]
  rfl

/-! ## Queries -/

theorem filter_upsert {p : K × V → Bool} (hnew : p (k, v) = false) :
    ∀ {l : List (K × V)}, (∀ old, (k, old) ∈ l → p (k, old) = false) →
      (upsert k v l).filter p = l.filter p
  | [], _ => by rw [upsert, List.filter_cons_of_neg (by simp [hnew])]
  | (j, w) :: rest, hold => by
    by_cases hj : j = k
    · subst hj
      have hw := hold w List.mem_cons_self
      rw [upsert, if_pos rfl, List.filter_cons_of_neg (by simp [hnew]),
        List.filter_cons_of_neg (by simp [hw])]
    · have ih := filter_upsert hnew fun old hmem => hold old (List.mem_cons_of_mem _ hmem)
      rw [upsert, if_neg hj, List.filter_cons, ih, List.filter_cons]

/-- A query that selects neither a new row nor the row it replaces is unchanged by
the write. -/
theorem filter_set {p : K × V → Bool} (d : Dict K V) (hnew : p (k, v) = false)
    (hold : ∀ old, d.get? k = some old → p (k, old) = false) :
    (d.set k v).items.filter p = d.items.filter p :=
  filter_upsert hnew fun old hmem => hold old (mem_items.mp hmem)

/-! ## Updates -/

/-- `UPDATE … SET f WHERE key = k`. -/
def modify (d : Dict K V) (k : K) (f : V → V) : Dict K V :=
  match d.get? k with
  | some old => d.set k (f old)
  | none => d

theorem get?_modify (d : Dict K V) (k k' : K) (f : V → V) :
    (d.modify k f).get? k' = if k = k' then (d.get? k').map f else d.get? k' := by
  unfold modify
  cases h : d.get? k with
  | none =>
    by_cases heq : k = k'
    · subst heq
      simp [h]
    · simp [heq]
  | some old =>
    rw [get?_set]
    by_cases heq : k = k'
    · subst heq
      simp [h]
    · simp [heq]

@[simp] theorem get?_modify_self (d : Dict K V) (k : K) (f : V → V) :
    (d.modify k f).get? k = (d.get? k).map f := by simp [get?_modify]

theorem get?_modify_ne (d : Dict K V) {k k' : K} (f : V → V) (h : k ≠ k') :
    (d.modify k f).get? k' = d.get? k' := by simp [get?_modify, h]

theorem map_update_of_notMem (f : V → V) {l : List (K × V)} (h : k ∉ l.map Prod.fst) :
    l.map (fun row => if row.1 = k then (row.1, f row.2) else row) = l := by
  conv_rhs => rw [← List.map_id l]
  refine List.map_congr_left fun row hrow => ?_
  have hne : row.1 ≠ k := by
    rintro rfl
    exact h (List.mem_map_of_mem hrow)
  rw [if_neg hne, id]

theorem upsert_update (f : V → V) {old : V} :
    ∀ {l : List (K × V)}, (l.map Prod.fst).Nodup → (k, old) ∈ l →
      upsert k (f old) l = l.map fun row => if row.1 = k then (row.1, f row.2) else row
  | (j, w) :: rest, hnd, hmem => by
    rw [List.map_cons, List.nodup_cons] at hnd
    by_cases hj : j = k
    · subst hj
      have hw : old = w := by
        rcases List.mem_cons.mp hmem with heq | hrest
        · exact (Prod.mk.inj heq).2
        · exact absurd (List.mem_map.mpr ⟨_, hrest, rfl⟩) hnd.1
      rw [upsert, if_pos rfl, List.map_cons, if_pos rfl, map_update_of_notMem f hnd.1, hw]
    · have hrest : (k, old) ∈ rest := by
        rcases List.mem_cons.mp hmem with heq | hrest
        · exact absurd (Prod.mk.inj heq).1.symm hj
        · exact hrest
      rw [upsert, if_neg hj, List.map_cons, if_neg hj, upsert_update f hnd.2 hrest]

/-- An update keeps the order of the rows. -/
theorem items_modify (d : Dict K V) (k : K) (f : V → V) :
    (d.modify k f).items = d.items.map fun row => if row.1 = k then (row.1, f row.2) else row := by
  unfold modify
  cases h : d.get? k with
  | none => exact (map_update_of_notMem f (get?_eq_none.mp h)).symm
  | some old => exact upsert_update f d.nodup (mem_items.mpr h)

/-- `UPDATE … SET f WHERE key IN keys`, one key after another. -/
def modifyAll (d : Dict K V) (keys : List K) (f : V → V) : Dict K V :=
  keys.foldl (fun d k => d.modify k f) d

theorem get?_modifyAll_of_notMem (f : V → V) {k' : K} :
    ∀ {keys : List K} (d : Dict K V), k' ∉ keys → (d.modifyAll keys f).get? k' = d.get? k'
  | [], d, _ => rfl
  | k :: keys, d, h => by
    rw [List.mem_cons, not_or] at h
    have ih := get?_modifyAll_of_notMem f (d.modify k f) h.2
    rw [modifyAll] at ih
    rw [modifyAll, List.foldl_cons, ih, get?_modify_ne d f (Ne.symm h.1)]

/-- With distinct keys every listed row is updated once. -/
theorem get?_modifyAll_of_mem (f : V → V) {k' : K} :
    ∀ {keys : List K} (d : Dict K V), keys.Nodup → k' ∈ keys →
      (d.modifyAll keys f).get? k' = (d.get? k').map f
  | k :: keys, d, hnd, h => by
    rw [List.nodup_cons] at hnd
    rcases List.mem_cons.mp h with rfl | hmem
    · have hrest := get?_modifyAll_of_notMem f (d.modify k' f) hnd.1
      rw [modifyAll] at hrest
      rw [modifyAll, List.foldl_cons, hrest, get?_modify_self]
    · have hne : k ≠ k' := by
        rintro rfl
        exact hnd.1 hmem
      have ih := get?_modifyAll_of_mem f (d.modify k f) hnd.2 hmem
      rw [modifyAll] at ih
      rw [modifyAll, List.foldl_cons, ih, get?_modify_ne d f hne]

end Cathedral.Dict
