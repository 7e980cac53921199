import Mathlib.Algebra.BigOperators.Field
import Mathlib.Tactic.FieldSimp
import Cathedral.Lib.Dict

/-!
# Cathedral.Lib.Groups — scores of groups, split equally inside each group

Items belong to groups. A table lists the members met so far of each group
(`insertMember`), a second one scores the groups, and `spread` gives every member an
equal part of its group's score.
-/

namespace Cathedral.Groups

universe u v w

variable {ι : Type u} {κ : Type v} {𝕜 : Type w} [DecidableEq κ]

/-! ## Members -/

/-- A table of members by group: no empty group, no member twice. -/
structure GroupedBy (group : ι → κ) (groups : Dict κ (List ι)) : Prop where
  ne_nil : ∀ k is, groups.get? k = some is → is ≠ []
  nodup : ∀ k is, groups.get? k = some is → is.Nodup
  mem : ∀ k is, groups.get? k = some is → ∀ i ∈ is, group i = k

variable {group : ι → κ} {groups : Dict κ (List ι)}

theorem groupedBy_empty (group : ι → κ) : GroupedBy group Dict.empty where
  ne_nil _ _ h := by cases h
  nodup _ _ h := by cases h
  mem _ _ h := by cases h

theorem GroupedBy.nodup_getD (hg : GroupedBy group groups) (k : κ) : (groups.getD k []).Nodup := by
  rw [Dict.getD]
  cases h : groups.get? k with
  | none => exact List.nodup_nil
  | some is => exact hg.nodup k is h

theorem GroupedBy.mem_getD (hg : GroupedBy group groups) {k : κ} {i : ι}
    (h : i ∈ groups.getD k []) : group i = k := by
  rw [Dict.getD] at h
  cases hget : groups.get? k with
  | none => simp [hget] at h
  | some is =>
    rw [hget] at h
    exact hg.mem k is hget i h

section Insert

variable [DecidableEq ι]

/-- `groups.setdefault(k, set()).add(i)`. -/
def insertMember (groups : Dict κ (List ι)) (k : κ) (i : ι) : Dict κ (List ι) :=
  groups.set k ((groups.getD k []).insert i)

theorem GroupedBy.insertMember (hg : GroupedBy group groups) (i : ι) :
    GroupedBy group (insertMember groups (group i) i) := by
  constructor
  · intro k is hget
    rw [Groups.insertMember, Dict.get?_set] at hget
    split at hget
    · cases hget
      exact List.ne_nil_of_mem List.mem_insert_self
    · exact hg.ne_nil k is hget
  · intro k is hget
    rw [Groups.insertMember, Dict.get?_set] at hget
    split at hget
    · cases hget
      exact (hg.nodup_getD _).insert
    · exact hg.nodup k is hget
  · intro k is hget j hj
    rw [Groups.insertMember, Dict.get?_set] at hget
    split at hget
    · next hk =>
        cases hget
        rcases List.mem_insert_iff.mp hj with rfl | hold
        · exact hk
        · exact (hg.mem_getD hold).trans hk
    · exact hg.mem k is hget j hj

theorem mem_keys_insertMember (groups : Dict κ (List ι)) (k k' : κ) (i : ι) :
    k' ∈ (insertMember groups k i).keys ↔ k' ∈ groups.keys ∨ k' = k := by
  simp only [Dict.mem_keys, insertMember, Dict.get?_set]
  split
  · next hk => simp [hk]
  · next hk => simp [Ne.symm hk]

end Insert

/-! ## The equal split -/

/-- `for i in groups[k]: out[i] = part(s, len(groups[k]))`. -/
def portions (groups : Dict κ (List ι)) (part : 𝕜 → ℕ → 𝕜) (score : κ × 𝕜) : List (ι × 𝕜) :=
  (groups.getD score.1 []).map fun i => (i, part score.2 (groups.getD score.1 []).length)

/-- What a group holds in sum. -/
def groupSum [NatCast 𝕜] [Mul 𝕜] (groups : Dict κ (List ι)) (part : 𝕜 → ℕ → 𝕜) (k : κ) (s : 𝕜) :
    𝕜 := (groups.getD k []).length * part s (groups.getD k []).length

variable {scores : Dict κ 𝕜} {part : 𝕜 → ℕ → 𝕜}

theorem keys_portions (score : κ × 𝕜) :
    (portions groups part score).map Prod.fst = groups.getD score.1 [] := by
  rw [portions, List.map_map]
  exact List.map_id _

theorem sum_portions [Semiring 𝕜] (score : κ × 𝕜) :
    ((portions groups part score).map Prod.snd).sum = groupSum groups part score.1 score.2 := by
  rw [portions, List.map_map, Function.comp_def, List.map_const', List.sum_replicate,
    nsmul_eq_mul, groupSum]

/-- The members of a group are selected together. -/
theorem filter_portions (hg : GroupedBy group groups) (c : κ) (score : κ × 𝕜) :
    (portions groups part score).filter (fun kv => decide (group kv.1 = c)) =
      if score.1 = c then portions groups part score else [] := by
  have hgroup : ∀ kv ∈ portions groups part score, group kv.1 = score.1 := by
    intro kv hkv
    obtain ⟨i, hi, rfl⟩ := List.mem_map.mp hkv
    exact hg.mem_getD hi
  split
  · next hc => exact List.filter_eq_self.mpr fun kv hkv => by simp [hgroup kv hkv, hc]
  · next hc => exact List.filter_eq_nil_iff.mpr fun kv hkv => by simp [hgroup kv hkv, hc]

section Spread

variable [DecidableEq ι]

/-- The loop of `portions` over all scored groups. -/
def spread (scores : Dict κ 𝕜) (groups : Dict κ (List ι)) (part : 𝕜 → ℕ → 𝕜) : Dict ι 𝕜 :=
  Dict.ofList (scores.items.flatMap (portions groups part))

/-- No item is in two groups, so the loop writes every item once. -/
theorem items_spread (hg : GroupedBy group groups) :
    (spread scores groups part).items = scores.items.flatMap (portions groups part) := by
  refine Dict.items_ofList ?_
  have hkeys : (scores.items.flatMap (portions groups part)).map Prod.fst =
      scores.items.flatMap fun score => groups.getD score.1 [] := by
    rw [List.map_flatMap]
    exact List.flatMap_congr fun score _ => keys_portions score
  rw [hkeys, List.nodup_flatMap]
  refine ⟨fun score _ => hg.nodup_getD score.1, ?_⟩
  refine (List.pairwise_map.mp scores.nodup).imp fun {a b} hne => ?_
  intro i hi hi'
  exact hne ((hg.mem_getD hi).symm.trans (hg.mem_getD hi'))

variable [Semiring 𝕜]

theorem total_spread (hg : GroupedBy group groups) :
    (spread scores groups part).total = (scores.mapItems (groupSum groups part)).total := by
  have hvalues : (scores.mapItems (groupSum groups part)).values =
      scores.items.map fun score => groupSum groups part score.1 score.2 := List.map_map
  rw [Dict.total, Dict.values, items_spread hg, Dict.total, hvalues]
  induction scores.items with
  | nil => rfl
  | cons score rest ih =>
    rw [List.flatMap_cons, List.map_append, List.sum_append, ih, sum_portions, List.map_cons,
      List.sum_cons]

theorem sumOn_spread (hg : GroupedBy group groups) (c : κ) :
    (spread scores groups part).sumOn (fun i => group i = c) =
      (scores.mapItems (groupSum groups part)).getD c 0 := by
  rw [← Dict.sumOn_eq, Dict.sumOn_mapItems, Dict.sumOn, items_spread hg]
  induction scores.items with
  | nil => rfl
  | cons score rest ih =>
    rw [List.flatMap_cons, List.filter_append, List.map_append, List.sum_append, ih,
      filter_portions hg, List.filter_cons]
    by_cases hc : score.1 = c
    · rw [if_pos hc, if_pos (by simpa using hc), sum_portions, List.map_cons, List.sum_cons]
    · rw [if_neg hc, if_neg (by simpa using hc), List.map_nil, List.sum_nil, zero_add]

end Spread

/-! ## Shares -/

section Share

variable [Field 𝕜]

/-- The part of the total that the items of one group hold. -/
def share (group : ι → κ) (d : Dict ι 𝕜) (c : κ) : 𝕜 := d.sumOn (fun i => group i = c) / d.total

theorem share_empty (group : ι → κ) (c : κ) : share group (Dict.empty : Dict ι 𝕜) c = 0 := by
  rw [share, Dict.sumOn_empty, zero_div]

theorem sumOn_mapItems_mul {K : Type u} (p : K → Prop) [DecidablePred p] (d : Dict K 𝕜) (x : 𝕜) :
    (d.mapItems fun _ v => x * v).sumOn p = x * d.sumOn p := by
  rw [Dict.sumOn_mapItems, Dict.sumOn, ← List.sum_map_mul_left]

theorem total_mapItems_mul {K : Type u} (d : Dict K 𝕜) (x : 𝕜) :
    (d.mapItems fun _ v => x * v).total = x * d.total := by
  rw [← Dict.sumOn_true, sumOn_mapItems_mul, Dict.sumOn_true]

/-- Scaling changes no share. -/
theorem share_scale (group : ι → κ) (d : Dict ι 𝕜) {x : 𝕜} (hx : x ≠ 0) (c : κ) :
    share group (d.mapItems fun _ v => x * v) c = share group d c := by
  rw [share, total_mapItems_mul, sumOn_mapItems_mul, share, mul_div_mul_left _ _ hx]

variable [CharZero 𝕜] {x : 𝕜}

/-- Equal parts of a scaled score add up to it. -/
theorem groupSum_eq (hg : GroupedBy group groups) {k : κ} (hk : k ∈ groups.keys)
    (hpart : ∀ s n, part s n = x * s / n) (s : 𝕜) : groupSum groups part k s = x * s := by
  obtain ⟨is, hget⟩ := Dict.mem_keys.mp hk
  have hlen : ((groups.getD k []).length : 𝕜) ≠ 0 := by
    rw [Dict.getD, hget, Option.getD_some, Nat.cast_ne_zero]
    exact fun hzero => hg.ne_nil k is hget (List.length_eq_zero_iff.mp hzero)
  rw [groupSum, hpart]
  field_simp

/-- Every group gets its score over the sum of all scores. -/
theorem share_spread [DecidableEq ι] (hg : GroupedBy group groups)
    (hkeys : ∀ k ∈ scores.keys, k ∈ groups.keys) (hx : x ≠ 0)
    (hpart : ∀ s n, part s n = x * s / n) (c : κ) :
    share group (spread scores groups part) c = scores.getD c 0 / scores.total := by
  have hsame : scores.mapItems (groupSum groups part) = scores.mapItems fun _ v => x * v := by
    refine Dict.ext (List.map_congr_left ?_)
    rintro ⟨k, s⟩ hmem
    rw [groupSum_eq hg (hkeys k (List.mem_map_of_mem hmem)) hpart]
  rw [share, sumOn_spread hg, total_spread hg, hsame, ← Dict.sumOn_eq, sumOn_mapItems_mul,
    total_mapItems_mul, mul_div_mul_left _ _ hx, Dict.sumOn_eq]

end Share

end Cathedral.Groups
