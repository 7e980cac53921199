import Mathlib.Data.List.Nodup
import Mathlib.Data.List.Range
import Mathlib.Data.List.ReduceOption

/-!
# Cathedral.Lib.FirstUse — candidates of which each key is used once

A loop passes over a list in which some places hold a candidate. A candidate is
admitted if no candidate before it has its key; every other place is refused. What the
loop has admitted so far tells which keys are used (`mem_keys_admitted`), so it needs no
other memory: `admitted_snoc` and `refused_snoc` are its step.
-/

namespace Cathedral

namespace FirstUse

universe u v

variable {β : Type u} {κ : Type v} [DecidableEq κ] (key : β → κ)

/-- The candidate at a place, if it is the first one with its key. -/
def firstUse (candidates : List (Option β)) (i : ℕ) : Option β :=
  candidates[i]?.join.filter fun b => (candidates.take i).reduceOption.all fun c => key c ≠ key b

/-- The admitted candidates, in order. -/
def admitted (candidates : List (Option β)) : List β :=
  (List.range candidates.length).filterMap (firstUse key candidates)

/-- The places that are refused, in order. -/
def refused (candidates : List (Option β)) : List ℕ :=
  (List.range candidates.length).filter fun i => (firstUse key candidates i).isNone

variable {key}

variable {candidates : List (Option β)}

theorem firstUse_append {i : ℕ} (hi : i < candidates.length) (more : List (Option β)) :
    firstUse key (candidates ++ more) i = firstUse key candidates i := by
  unfold firstUse
  rw [List.getElem?_append_left hi, List.take_append_of_le_length hi.le]

/-- Looking at one more place leaves the earlier ones as they are. -/
theorem admitted_snoc_eq (candidates : List (Option β)) (o : Option β) :
    admitted key (candidates ++ [o]) =
      admitted key candidates ++ (firstUse key (candidates ++ [o]) candidates.length).toList := by
  have hold : (List.range candidates.length).filterMap (firstUse key (candidates ++ [o])) =
      admitted key candidates := by
    apply List.filterMap_congr
    intro i hi
    exact firstUse_append (List.mem_range.mp hi) [o]
  rw [admitted, List.length_append, List.length_singleton, List.range_succ,
    List.filterMap_append, hold]
  congr 1

theorem refused_snoc_eq (candidates : List (Option β)) (o : Option β) :
    refused key (candidates ++ [o]) = refused key candidates ++
      if (firstUse key (candidates ++ [o]) candidates.length).isNone = true
      then [candidates.length] else [] := by
  have hold : (List.range candidates.length).filter
      (fun i => (firstUse key (candidates ++ [o]) i).isNone) = refused key candidates := by
    apply List.filter_congr
    intro i hi
    rw [firstUse_append (List.mem_range.mp hi) [o]]
  rw [refused, List.length_append, List.length_singleton, List.range_succ, List.filter_append,
    hold, List.filter_singleton, Bool.cond_eq_ite]

theorem firstUse_last (candidates : List (Option β)) (o : Option β) :
    firstUse key (candidates ++ [o]) candidates.length =
      o.filter fun b => candidates.reduceOption.all fun c => key c ≠ key b := by
  unfold firstUse
  rw [List.getElem?_append_right le_rfl, Nat.sub_self, List.take_left]
  rfl

/-- The admitted candidates have all keys that occur. -/
theorem mem_keys_admitted {k : κ} :
    k ∈ (admitted key candidates).map key ↔ k ∈ candidates.reduceOption.map key := by
  induction candidates using List.reverseRecOn with
  | nil => rfl
  | append_singleton candidates o ih =>
    rw [admitted_snoc_eq, firstUse_last, List.map_append, List.mem_append, ih,
      List.reduceOption_append, List.map_append, List.mem_append]
    refine or_congr_right' fun hnew => ?_
    cases o with
    | none => rfl
    | some b =>
      by_cases hfirst : candidates.reduceOption.all fun c => key c ≠ key b
      · rw [Option.filter_some, if_pos hfirst]
        rfl
      · -- the key of a refused candidate occurs before it
        rw [Option.filter_some, if_neg hfirst]
        rw [List.all_eq_true] at hfirst
        simp only [decide_not, Bool.not_eq_eq_eq_not, Bool.not_true, decide_eq_false_iff_not,
          not_forall, not_not] at hfirst
        rcases hfirst with ⟨c, hc, hkey⟩
        simp only [Option.toList_none, List.map_nil, List.not_mem_nil, false_iff]
        intro hk
        have hkb : k = key b := by simpa using hk
        exact hnew (List.mem_map.mpr ⟨c, hc, hkey.trans hkb.symm⟩)

theorem firstUse_last_some {b : β} :
    firstUse key (candidates ++ [some b]) candidates.length =
      if key b ∈ (admitted key candidates).map key then none else some b := by
  rw [firstUse_last, Option.filter_some]
  by_cases hk : key b ∈ candidates.reduceOption.map key
  · rw [if_pos (mem_keys_admitted.mpr hk), if_neg]
    rcases List.mem_map.mp hk with ⟨c, hc, hkey⟩
    intro hall
    exact of_decide_eq_true (List.all_eq_true.mp hall c hc) hkey
  · rw [if_neg fun hused => hk (mem_keys_admitted.mp hused), if_pos]
    apply List.all_eq_true.mpr
    intro c hc
    exact decide_eq_true fun hkey => hk (List.mem_map.mpr ⟨c, hc, hkey⟩)

/-- What is admitted is a candidate. -/
theorem mem_of_admitted {b : β} (h : b ∈ admitted key candidates) : some b ∈ candidates := by
  rcases List.mem_filterMap.mp h with ⟨i, _, hfirst⟩
  have hjoin := (Option.filter_eq_some_iff.mp hfirst).1
  exact List.mem_of_getElem? (Option.join_eq_some_iff.mp hjoin)

/-- The admitted candidates keep their order. -/
theorem admitted_sublist : (admitted key candidates).Sublist candidates.reduceOption := by
  induction candidates using List.reverseRecOn with
  | nil => exact List.Sublist.refl _
  | append_singleton candidates o ih =>
    rw [admitted_snoc_eq, List.reduceOption_append, firstUse_last]
    refine ih.append ?_
    cases o with
    | none => exact List.Sublist.refl _
    | some b =>
      rw [Option.filter_some]
      split_ifs
      · exact List.Sublist.refl _
      · exact List.nil_sublist _

/-- No key is admitted twice. -/
theorem nodup_admitted (candidates : List (Option β)) :
    ((admitted key candidates).map key).Nodup := by
  induction candidates using List.reverseRecOn with
  | nil => exact List.nodup_nil
  | append_singleton candidates o ih =>
    rw [admitted_snoc_eq, List.map_append]
    refine List.nodup_append'.mpr ⟨ih, ?_, ?_⟩
    · cases firstUse key (candidates ++ [o]) candidates.length with
      | none => exact List.nodup_nil
      | some b => exact List.nodup_singleton _
    · cases o with
      | none =>
        rw [firstUse_last]
        exact List.disjoint_nil_right _
      | some b =>
        rw [firstUse_last_some]
        split_ifs with hused
        · exact List.disjoint_nil_right _
        · exact List.disjoint_singleton.mpr hused

theorem lt_of_mem_refused {i : ℕ} (h : i ∈ refused key candidates) : i < candidates.length :=
  List.mem_range.mp (List.mem_of_mem_filter h)

/-- The step of the loop at a place without a candidate, or with a used key. -/
theorem snoc_refused {o : Option β}
    (h : ∀ b, o = some b → key b ∈ (admitted key candidates).map key) :
    admitted key (candidates ++ [o]) = admitted key candidates ∧
      refused key (candidates ++ [o]) = refused key candidates ++ [candidates.length] := by
  have hnone : firstUse key (candidates ++ [o]) candidates.length = none := by
    cases o with
    | none => exact firstUse_last candidates none
    | some b => rw [firstUse_last_some, if_pos (h b rfl)]
  rw [admitted_snoc_eq, refused_snoc_eq, hnone]
  exact ⟨List.append_nil _, rfl⟩

/-- The step of the loop at a candidate with a new key. -/
theorem snoc_admitted {b : β} (h : key b ∉ (admitted key candidates).map key) :
    admitted key (candidates ++ [some b]) = admitted key candidates ++ [b] ∧
      refused key (candidates ++ [some b]) = refused key candidates := by
  rw [admitted_snoc_eq, refused_snoc_eq, firstUse_last_some, if_neg h]
  exact ⟨rfl, List.append_nil _⟩

end FirstUse

end Cathedral
