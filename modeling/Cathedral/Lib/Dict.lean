import Mathlib.Algebra.BigOperators.Group.Finset.Basic
import Mathlib.Data.List.Sort
import Mathlib.Tactic.Abel

/-!
# Cathedral.Lib.Dict — insertion-ordered dictionaries

A dictionary is the list of its items in insertion order, no key twice; the
uniqueness is a field, so a dictionary with a repeated key cannot be built.
Assignment to a present key keeps its position, assignment to a new key
appends, deletion drops the item.

Two groups of rules are used by the developments on top:

* lookup rules (`get?_set`, `mem_items`, `get?_ofList`, …), which turn every
  question about a dictionary into one about `get?`;
* sum rules for dictionaries of numbers (`sumOn_add`, `getD_add`, …), which
  follow an accumulator loop `d[k] = d.get(k, 0) + x` without unfolding it.
-/

namespace Cathedral

universe u v w

/-! ## Raw item lists -/

namespace Dict

/-- First value stored under `k`. -/
def find {K : Type u} {V : Type v} [DecidableEq K] (k : K) : List (K × V) → Option V
  | [] => none
  | (k', v) :: rest => if k' = k then some v else find k rest

/-- Replace the value under `k` in place, or append the item. -/
def upsert {K : Type u} {V : Type v} [DecidableEq K] (k : K) (v : V) :
    List (K × V) → List (K × V)
  | [] => [(k, v)]
  | (k', v') :: rest => if k' = k then (k', v) :: rest else (k', v') :: upsert k v rest

section Raw

variable {K : Type u} {V : Type v} [DecidableEq K]

theorem find_eq_none {k : K} : ∀ {l : List (K × V)}, find k l = none ↔ k ∉ l.map Prod.fst
  | [] => by simp [find]
  | (k', v) :: rest => by
    by_cases h : k' = k
    · simp [find, h]
    · have ih := find_eq_none (k := k) (l := rest)
      simp only [find, if_neg h, ih, List.map_cons, List.mem_cons, not_or]
      exact ⟨fun hr => ⟨fun hk => h hk.symm, hr⟩, fun hr => hr.2⟩

theorem mem_of_find {k : K} {v : V} :
    ∀ {l : List (K × V)}, find k l = some v → (k, v) ∈ l
  | [], h => by simp [find] at h
  | (k', v') :: rest, h => by
    by_cases hk : k' = k
    · simp only [find, if_pos hk, Option.some.injEq] at h
      simp [hk, h]
    · simp only [find, if_neg hk] at h
      exact List.mem_cons_of_mem _ (mem_of_find h)

theorem find_of_mem {k : K} {v : V} :
    ∀ {l : List (K × V)}, (l.map Prod.fst).Nodup → (k, v) ∈ l → find k l = some v
  | [], _, h => by simp at h
  | (k', v') :: rest, hnd, h => by
    rw [List.map_cons, List.nodup_cons] at hnd
    rcases List.mem_cons.mp h with heq | hmem
    · obtain ⟨rfl, rfl⟩ := Prod.mk.inj heq
      simp [find]
    · have hne : k' ≠ k := by
        rintro rfl
        exact hnd.1 (List.mem_map.mpr ⟨(k', v), hmem, rfl⟩)
      simp only [find, if_neg hne]
      exact find_of_mem hnd.2 hmem

theorem find_upsert (k k' : K) (v : V) :
    ∀ l : List (K × V), find k' (upsert k v l) = if k = k' then some v else find k' l
  | [] => by simp [upsert, find]
  | (j, w) :: rest => by
    by_cases hj : j = k
    · subst hj
      by_cases hk : j = k' <;> simp [upsert, find, hk]
    · by_cases hk : j = k'
      · subst hk
        simp [upsert, find, hj, Ne.symm hj]
      · simp only [upsert, if_neg hj, find, if_neg hk]
        exact find_upsert k k' v rest

theorem keys_upsert (k : K) (v : V) (l : List (K × V)) :
    (upsert k v l).map Prod.fst =
      if k ∈ l.map Prod.fst then l.map Prod.fst else l.map Prod.fst ++ [k] := by
  induction l with
  | nil => simp [upsert]
  | cons head rest ih =>
    obtain ⟨j, w⟩ := head
    by_cases hj : j = k
    · simp [upsert, hj]
    · simp only [upsert, if_neg hj, List.map_cons, ih, List.mem_cons]
      by_cases hk : k ∈ rest.map Prod.fst
      · simp only [if_pos hk, if_pos (Or.inr hk)]
      · have hor : ¬ (k = j ∨ k ∈ rest.map Prod.fst) := by
          rintro (h | h)
          · exact hj h.symm
          · exact hk h
        simp only [if_neg hk, if_neg hor, List.cons_append]

theorem upsert_of_notMem {k : K} (v : V) :
    ∀ {l : List (K × V)}, k ∉ l.map Prod.fst → upsert k v l = l ++ [(k, v)]
  | [], _ => rfl
  | (j, w) :: rest, h => by
    rw [List.map_cons, List.mem_cons, not_or] at h
    rw [upsert, if_neg (Ne.symm h.1), upsert_of_notMem v h.2, List.cons_append]

theorem nodup_upsert {k : K} {v : V} {l : List (K × V)} (h : (l.map Prod.fst).Nodup) :
    ((upsert k v l).map Prod.fst).Nodup := by
  rw [keys_upsert]
  split
  · exact h
  · rename_i hk
    rw [List.nodup_append]
    refine ⟨h, List.nodup_singleton k, ?_⟩
    intro a ha b hb
    rw [List.mem_singleton] at hb
    rintro rfl
    exact hk (hb ▸ ha)

end Raw

end Dict

/-! ## Dictionaries -/

/-- An insertion-ordered dictionary. -/
structure Dict (K : Type u) (V : Type v) where
  items : List (K × V)
  nodup : (items.map Prod.fst).Nodup

namespace Dict

variable {K : Type u} {V : Type v} {W : Type w}

@[ext] theorem ext {d e : Dict K V} (h : d.items = e.items) : d = e := by
  cases d
  cases e
  cases h
  rfl

instance [DecidableEq K] [DecidableEq V] : DecidableEq (Dict K V) := fun d e =>
  decidable_of_iff (d.items = e.items) ⟨Dict.ext, fun h => h ▸ rfl⟩

def empty : Dict K V := ⟨[], List.nodup_nil⟩

instance : EmptyCollection (Dict K V) := ⟨empty⟩

instance : Inhabited (Dict K V) := ⟨empty⟩

/-- The keys in insertion order. -/
def keys (d : Dict K V) : List K := d.items.map Prod.fst

/-- The values in insertion order. -/
def values (d : Dict K V) : List V := d.items.map Prod.snd

/-- `bool(d)`. -/
def isEmpty (d : Dict K V) : Bool := d.items.isEmpty

section Lookup

variable [DecidableEq K]

/-- `d.get(k)`. -/
def get? (d : Dict K V) (k : K) : Option V := find k d.items

/-- `d.get(k, default)`. -/
def getD (d : Dict K V) (k : K) (default : V) : V := (d.get? k).getD default

/-- `k in d`. -/
def contains (d : Dict K V) (k : K) : Bool := (d.get? k).isSome

/-- `d[k] = v`. -/
def set (d : Dict K V) (k : K) (v : V) : Dict K V :=
  ⟨upsert k v d.items, nodup_upsert d.nodup⟩

/-- `dict(pairs)`: later pairs override earlier ones. -/
def ofList (pairs : List (K × V)) : Dict K V :=
  pairs.foldl (fun d kv => d.set kv.1 kv.2) empty

/-- `d == e` on dictionaries: the same items, in any order. -/
def sameItems [DecidableEq V] (d e : Dict K V) : Bool :=
  d.items.length == e.items.length && d.items.all fun kv => e.get? kv.1 == some kv.2

theorem mem_items {d : Dict K V} {k : K} {v : V} : (k, v) ∈ d.items ↔ d.get? k = some v :=
  ⟨find_of_mem d.nodup, mem_of_find⟩

theorem get?_eq_none {d : Dict K V} {k : K} : d.get? k = none ↔ k ∉ d.keys := find_eq_none

theorem mem_keys {d : Dict K V} {k : K} : k ∈ d.keys ↔ ∃ v, d.get? k = some v := by
  rw [← not_iff_not, ← get?_eq_none]
  simp only [not_exists, Option.eq_none_iff_forall_ne_some, ne_eq]

@[simp] theorem get?_empty (k : K) : (empty : Dict K V).get? k = none := rfl

@[simp] theorem getD_empty (k : K) (v : V) : (empty : Dict K V).getD k v = v := rfl

theorem get?_set (d : Dict K V) (k k' : K) (v : V) :
    (d.set k v).get? k' = if k = k' then some v else d.get? k' := find_upsert k k' v d.items

@[simp] theorem get?_set_self (d : Dict K V) (k : K) (v : V) :
    (d.set k v).get? k = some v := by simp [get?_set]

theorem get?_set_ne (d : Dict K V) {k k' : K} (v : V) (h : k ≠ k') :
    (d.set k v).get? k' = d.get? k' := by simp [get?_set, h]

theorem keys_set_of_notMem {d : Dict K V} {k : K} (v : V) (h : k ∉ d.keys) :
    (d.set k v).keys = d.keys ++ [k] := by
  have hupsert := keys_upsert k v d.items
  rw [if_neg (show k ∉ d.items.map Prod.fst from h)] at hupsert
  exact hupsert

theorem isEmpty_iff {d : Dict K V} : d.isEmpty = true ↔ ∀ k, d.get? k = none := by
  constructor
  · intro h k
    have hnil : d.items = [] := List.isEmpty_iff.mp h
    simp [get?, hnil, find]
  · intro h
    cases hd : d.items with
    | nil => simp [isEmpty, hd]
    | cons kv rest =>
      have hmem : (kv.1, kv.2) ∈ d.items := by simp [hd]
      have := h kv.1
      rw [mem_items.mp hmem] at this
      simp at this

/-- Keys of a dictionary built by assignments come from the pairs assigned. -/
theorem get?_foldl_set (pairs : List (K × V)) :
    ∀ (d : Dict K V) (k : K) (v : V),
      (pairs.foldl (fun d kv => d.set kv.1 kv.2) d).get? k = some v →
        (k, v) ∈ pairs ∨ d.get? k = some v := by
  induction pairs with
  | nil => exact fun d k v h => Or.inr h
  | cons kv rest ih =>
    intro d k v h
    rcases ih (d.set kv.1 kv.2) k v h with hmem | hget
    · exact Or.inl (List.mem_cons_of_mem _ hmem)
    · rw [get?_set] at hget
      split at hget
      · rename_i hk
        left
        cases Option.some.inj hget
        rw [← hk]
        exact List.mem_cons_self ..
      · exact Or.inr hget

theorem mem_of_get?_ofList {pairs : List (K × V)} {k : K} {v : V}
    (h : (ofList pairs).get? k = some v) : (k, v) ∈ pairs := by
  rcases get?_foldl_set pairs empty k v h with hmem | hget
  · exact hmem
  · simp at hget

theorem mem_keys_foldl_set (pairs : List (K × V)) : ∀ (d : Dict K V) (k : K),
    k ∈ (pairs.foldl (fun d kv => d.set kv.1 kv.2) d).keys ↔ k ∈ d.keys ∨ k ∈ pairs.map Prod.fst := by
  induction pairs with
  | nil => simp
  | cons kv rest ih =>
    intro d k
    have hset : k ∈ (d.set kv.1 kv.2).keys ↔ k ∈ d.keys ∨ k = kv.1 := by
      simp only [mem_keys, get?_set]
      by_cases h : kv.1 = k
      · simp [h]
      · simp [h, Ne.symm h]
    rw [List.foldl_cons, ih, hset, List.map_cons, List.mem_cons, or_assoc]

theorem mem_keys_ofList {pairs : List (K × V)} {k : K} :
    k ∈ (ofList pairs).keys ↔ k ∈ pairs.map Prod.fst := by
  rw [ofList, mem_keys_foldl_set]
  simp [empty, keys]

theorem items_foldl_set : ∀ (pairs : List (K × V)) (d : Dict K V),
    (d.keys ++ pairs.map Prod.fst).Nodup →
      (pairs.foldl (fun d kv => d.set kv.1 kv.2) d).items = d.items ++ pairs
  | [], d, _ => by simp
  | (k, v) :: rest, d, h => by
    rw [List.map_cons, List.append_cons] at h
    have hk : k ∉ d.items.map Prod.fst := by
      intro hmem
      have hdisj := List.nodup_append.mp (List.nodup_append.mp h).1
      exact hdisj.2.2 k hmem k (by simp) rfl
    have hset : (d.set k v).items = d.items ++ [(k, v)] := upsert_of_notMem v hk
    have hkeys : (d.set k v).keys = d.keys ++ [k] := by simp [keys, hset]
    rw [List.foldl_cons, items_foldl_set rest _ (by rwa [hkeys]), hset, List.append_assoc,
      List.singleton_append]

/-- Pairs without a repeated key are kept as they are. -/
theorem items_ofList {pairs : List (K × V)} (h : (pairs.map Prod.fst).Nodup) :
    (ofList pairs).items = pairs := items_foldl_set pairs empty h

theorem get?_ofList_of_mem {pairs : List (K × V)} (hnd : (pairs.map Prod.fst).Nodup)
    {k : K} {v : V} (h : (k, v) ∈ pairs) : (ofList pairs).get? k = some v :=
  mem_items.mp ((items_ofList hnd).symm ▸ h)

theorem sameItems_iff [DecidableEq V] {d e : Dict K V} :
    d.sameItems e = true ↔ ∀ k, d.get? k = e.get? k := by
  simp only [sameItems, Bool.and_eq_true, beq_iff_eq, List.all_eq_true]
  constructor
  · rintro ⟨hlen, hall⟩ k
    have hsub : d.keys ⊆ e.keys := by
      intro j hj
      obtain ⟨v, hv⟩ := mem_keys.mp hj
      exact mem_keys.mpr ⟨v, by simpa using hall (j, v) (mem_items.mpr hv)⟩
    have hperm : d.keys.Perm e.keys := by
      refine List.Subperm.perm_of_length_le (List.subperm_of_subset d.nodup hsub) ?_
      simp [keys, hlen]
    cases hd : d.get? k with
    | some v => exact (hall (k, v) (mem_items.mpr hd)).symm
    | none =>
      rw [get?_eq_none, hperm.mem_iff, ← get?_eq_none] at hd
      exact hd.symm
  · intro h
    have hkeys : d.keys.Perm e.keys := by
      refine (List.perm_ext_iff_of_nodup d.nodup e.nodup).mpr fun k => ?_
      change k ∈ d.keys ↔ k ∈ e.keys
      rw [mem_keys, mem_keys, h k]
    refine ⟨by simpa [keys] using hkeys.length_eq, ?_⟩
    rintro ⟨k, v⟩ hkv
    rw [← h k]
    exact mem_items.mp hkv

end Lookup

/-! ## Mapping, filtering and sorting -/

/-- `{k: f(k, v) for k, v in d.items()}`. -/
def mapItems (f : K → V → W) (d : Dict K V) : Dict K W where
  items := d.items.map fun kv => (kv.1, f kv.1 kv.2)
  nodup := by
    have h : (d.items.map fun kv => (kv.1, f kv.1 kv.2)).map Prod.fst = d.items.map Prod.fst := by
      simp
    rw [h]
    exact d.nodup

/-- `{k: v for k, v in d.items() if p(k, v)}`. -/
def filterItems (p : K → V → Bool) (d : Dict K V) : Dict K V where
  items := d.items.filter fun kv => p kv.1 kv.2
  nodup := d.nodup.sublist (List.filter_sublist.map _)

/-- `sorted(d.items())` for dictionaries, whose keys differ: by key. -/
def sorted [LinearOrder K] (d : Dict K V) : Dict K V where
  items := d.items.insertionSort fun a b => a.1 ≤ b.1
  nodup := by
    have h := (List.perm_insertionSort (fun a b : K × V => a.1 ≤ b.1) d.items).map Prod.fst
    exact h.nodup_iff.mpr d.nodup

theorem sorted_perm [LinearOrder K] (d : Dict K V) : d.sorted.items.Perm d.items :=
  List.perm_insertionSort _ _

theorem sorted_sorted [LinearOrder K] (d : Dict K V) : d.sorted.sorted = d.sorted :=
  Dict.ext (List.Pairwise.insertionSort_eq (List.pairwise_insertionSort _ d.items))

section Lookup

variable [DecidableEq K]

theorem get?_congr_of_perm {d e : Dict K V} (h : d.items.Perm e.items) (k : K) :
    d.get? k = e.get? k := by
  cases hd : d.get? k with
  | some v => exact (mem_items.mp (h.mem_iff.mp (mem_items.mpr hd))).symm
  | none =>
    rw [get?_eq_none] at hd
    exact (get?_eq_none.mpr fun hk => hd ((h.map Prod.fst).mem_iff.mpr hk)).symm

theorem get?_mapItems (f : K → V → W) (d : Dict K V) (k : K) :
    (d.mapItems f).get? k = (d.get? k).map (f k) := by
  cases hd : d.get? k with
  | some v =>
    refine mem_items.mp (List.mem_map.mpr ⟨(k, v), mem_items.mpr hd, rfl⟩)
  | none =>
    rw [get?_eq_none] at hd
    refine get?_eq_none.mpr ?_
    simpa [keys, mapItems] using hd

theorem get?_filterItems (p : K → V → Bool) (d : Dict K V) (k : K) :
    (d.filterItems p).get? k = (d.get? k).filter (p k) := by
  cases hd : d.get? k with
  | some v =>
    have hmem := mem_items.mpr hd
    by_cases hp : p k v = true
    · rw [mem_items.mp (List.mem_filter.mpr ⟨hmem, hp⟩), Option.filter_some_pos hp]
    · rw [Option.filter_some_neg (by simpa using hp), get?_eq_none]
      intro hk
      obtain ⟨w, hw⟩ := mem_keys.mp hk
      obtain ⟨hw', hpw⟩ := List.mem_filter.mp (mem_items.mpr hw)
      rw [mem_items.mp hw'] at hd
      cases Option.some.inj hd
      exact hp hpw
  | none =>
    rw [Option.filter_none, get?_eq_none]
    rw [get?_eq_none] at hd
    intro hk
    obtain ⟨w, hw⟩ := mem_keys.mp hk
    exact hd (mem_keys.mpr ⟨w, mem_items.mp (List.mem_filter.mp (mem_items.mpr hw)).1⟩)

theorem get?_sorted [LinearOrder K] (d : Dict K V) (k : K) : d.sorted.get? k = d.get? k :=
  get?_congr_of_perm (sorted_perm d) k

end Lookup

/-! ## Sums -/

section Sum

variable {M : Type w} [AddCommMonoid M]

/-- `sum(d.values())`. -/
def total (d : Dict K M) : M := d.values.sum

/-- The sum of the values whose key satisfies `p`. -/
def sumOn (p : K → Prop) [DecidablePred p] (d : Dict K M) : M :=
  ((d.items.filter fun kv => p kv.1).map Prod.snd).sum

theorem sumOn_true (d : Dict K M) : d.sumOn (fun _ => True) = d.total := by
  simp [sumOn, total, values]

theorem sumOn_congr_of_perm (p : K → Prop) [DecidablePred p] {d e : Dict K M}
    (h : d.items.Perm e.items) : d.sumOn p = e.sumOn p :=
  ((h.filter _).map _).sum_eq

@[simp] theorem sumOn_empty (p : K → Prop) [DecidablePred p] :
    (empty : Dict K M).sumOn p = 0 := rfl

@[simp] theorem total_empty : (empty : Dict K M).total = 0 := rfl

theorem sumOn_mapItems (p : K → Prop) [DecidablePred p] (f : K → V → M) (d : Dict K V) :
    (d.mapItems f).sumOn p =
      ((d.items.filter fun kv => p kv.1).map fun kv => f kv.1 kv.2).sum := by
  simp only [sumOn, mapItems, List.filter_map, List.map_map]
  rfl

variable [DecidableEq K]

/-- `d[k] = d.get(k, 0) + x`. -/
def add (d : Dict K M) (k : K) (x : M) : Dict K M := d.set k (d.getD k 0 + x)

theorem getD_add (d : Dict K M) (k k' : K) (x : M) :
    (d.add k x).getD k' 0 = d.getD k' 0 + if k = k' then x else 0 := by
  by_cases h : k = k'
  · subst h
    simp [add, getD]
  · simp [add, getD, get?_set, h]

private theorem sum_filter_upsert (p : K → Prop) [DecidablePred p] (k : K) (x : M) :
    ∀ l : List (K × M),
      (((upsert k ((find k l).getD 0 + x) l).filter fun kv => p kv.1).map Prod.snd).sum =
        ((l.filter fun kv => p kv.1).map Prod.snd).sum + if p k then x else 0
  | [] => by by_cases hp : p k <;> simp [upsert, find, hp]
  | (j, y) :: rest => by
    by_cases hj : j = k
    · subst hj
      by_cases hp : p j <;> simp [upsert, find, hp]
      abel
    · have ih := sum_filter_upsert p k x rest
      by_cases hp : p j
      · simp only [upsert, find, if_neg hj, List.filter_cons, hp, decide_true, if_true,
          List.map_cons, List.sum_cons, ih]
        abel
      · simp only [upsert, find, if_neg hj, List.filter_cons, hp, decide_false,
          Bool.false_eq_true, if_false, ih]

theorem sumOn_add (p : K → Prop) [DecidablePred p] (d : Dict K M) (k : K) (x : M) :
    (d.add k x).sumOn p = d.sumOn p + if p k then x else 0 :=
  sum_filter_upsert p k x d.items

theorem get?_add (d : Dict K M) (k k' : K) (x : M) :
    (d.add k x).get? k' = if k = k' then some (d.getD k 0 + x) else d.get? k' :=
  get?_set d k k' _

/-- The sums after a loop `for k, y in pairs: d[k] = d.get(k, 0) + f(k, y)`. -/
theorem sumOn_foldl_add (p : K → Prop) [DecidablePred p] (f : K × V → M)
    (pairs : List (K × V)) (d : Dict K M) :
    (pairs.foldl (fun d kv => d.add kv.1 (f kv)) d).sumOn p =
      d.sumOn p + ((pairs.filter fun kv => p kv.1).map f).sum := by
  induction pairs generalizing d with
  | nil => simp
  | cons kv rest ih =>
    rw [List.foldl_cons, ih, sumOn_add]
    by_cases hp : p kv.1 <;> simp [hp, add_assoc]

theorem mem_keys_foldl_add (f : K × V → M) (pairs : List (K × V)) : ∀ (d : Dict K M) (k : K),
    k ∈ (pairs.foldl (fun d kv => d.add kv.1 (f kv)) d).keys ↔
      k ∈ d.keys ∨ k ∈ pairs.map Prod.fst := by
  induction pairs with
  | nil => simp
  | cons kv rest ih =>
    intro d k
    have hadd : k ∈ (d.add kv.1 (f kv)).keys ↔ k ∈ d.keys ∨ k = kv.1 := by
      simp only [mem_keys, get?_add]
      by_cases h : kv.1 = k
      · simp [h]
      · simp [h, Ne.symm h]
    rw [List.foldl_cons, ih, hadd, List.map_cons, List.mem_cons, or_assoc]

/-- Only the value of a present key contributes to the sum at that key. -/
theorem sumOn_eq (d : Dict K M) (k : K) : d.sumOn (fun j => j = k) = d.getD k 0 := by
  obtain ⟨l, hnd⟩ := d
  simp only [sumOn, getD, get?]
  induction l with
  | nil => simp [find]
  | cons kv rest ih =>
    obtain ⟨j, y⟩ := kv
    rw [List.map_cons, List.nodup_cons] at hnd
    by_cases hj : j = k
    · subst hj
      have hnil : rest.filter (fun kv => decide (kv.1 = j)) = [] := by
        rw [List.filter_eq_nil_iff]
        rintro ⟨i, z⟩ hmem
        simp only [decide_eq_true_eq]
        rintro rfl
        exact hnd.1 (List.mem_map.mpr ⟨(i, z), hmem, rfl⟩)
      simp [find, hnil]
    · simp only [find, List.filter_cons, decide_false, hj, Bool.false_eq_true, if_false]
      exact ih hnd.2

/-- A dictionary sum is a sum over its set of keys. -/
theorem sumOn_eq_sum (p : K → Prop) [DecidablePred p] (d : Dict K M) :
    d.sumOn p = ∑ k ∈ d.keys.toFinset with p k, d.getD k 0 := by
  have hlist : d.sumOn p = ((d.keys.filter fun k => p k).map fun k => d.getD k 0).sum := by
    rw [sumOn, keys, List.filter_map, List.map_map]
    refine congrArg List.sum (List.map_congr_left ?_)
    rintro ⟨k, x⟩ hkx
    have hget := mem_items.mp (List.mem_filter.mp hkx).1
    simp [getD, hget]
  have hkeys : d.keys.Nodup := d.nodup
  have hnd : (d.keys.filter fun k => p k).Nodup := hkeys.filter _
  rw [hlist, ← List.sum_toFinset _ hnd, List.toFinset_filter]
  simp only [decide_eq_true_eq]

end Sum

end Dict

end Cathedral
