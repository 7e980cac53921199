import Mathlib.Algebra.BigOperators.Group.List.Basic
import Mathlib.Data.List.Nodup
import Cathedral.Lib.Guarded

/-!
# Cathedral.Lib.Once — keys that are used once in a run

Each step of a run may use one key. When a step only uses a key that the state does not
show as used, and shows it from then on, no key is used twice (`nodup_uses`). When only the
step that uses a key weighs anything, all steps filed under the key weigh together as much as
that one (`sum_filed`).
-/

namespace Cathedral.Once

universe u v w

variable {σ : Type u} {ℓ : Type v} {κ : Type w} {uses : ℓ → Option κ} {used : σ → κ → Prop}
  {step : σ → ℓ → σ → Prop} {s t : σ} {ls : List ℓ}

/-- A step uses a fresh key, if any; what was used stays used. -/
structure StepUses (uses : ℓ → Option κ) (used : σ → κ → Prop) (t : σ) (l : ℓ) (u : σ) :
    Prop where
  fresh : ∀ k ∈ uses l, ¬ used t k ∧ used u k
  kept : ∀ k, used t k → used u k

/-- No key is used twice in a run, and none that was used before it. -/
theorem nodup_uses (hstep : ∀ t l u, step t l u → StepUses uses used t l u)
    (h : Run step s ls t) :
    (ls.filterMap uses).Nodup ∧ ∀ k ∈ ls.filterMap uses, ¬ used s k := by
  have hall : (ls.filterMap uses).Nodup ∧ (∀ k ∈ ls.filterMap uses, ¬ used s k ∧ used t k) ∧
      ∀ k, used s k → used t k := by
    refine Run.history (P := fun ls t => (ls.filterMap uses).Nodup ∧
      (∀ k ∈ ls.filterMap uses, ¬ used s k ∧ used t k) ∧ ∀ k, used s k → used t k) ?_ ?_ h
    · exact ⟨List.nodup_nil, by simp, fun k hk => hk⟩
    · rintro ls t l u ⟨hnodup, hmem, hkept⟩ hs
      have huses := hstep t l u hs
      rw [List.filterMap_append]
      refine ⟨?_, ?_, fun k hk => huses.kept k (hkept k hk)⟩
      · refine List.nodup_append'.mpr ⟨hnodup, ?_, fun k hold hnew => ?_⟩
        · cases hl : uses l with
          | none => simp [hl]
          | some k => simp [hl]
        · -- the key of this step was not used before
          have hk : uses l = some k := by simpa using hnew
          exact (huses.fresh k hk).1 (hmem k hold).2
      · intro k hk
        rcases List.mem_append.mp hk with hold | hnew
        · exact ⟨(hmem k hold).1, huses.kept k (hmem k hold).2⟩
        · have hl : uses l = some k := by simpa using hnew
          exact ⟨fun hs => (huses.fresh k hl).1 (hkept k hs), (huses.fresh k hl).2⟩
  exact ⟨hall.1, fun k hk => (hall.2.1 k hk).1⟩

section Sum

variable {M : Type*} [AddCommMonoid M] [DecidableEq κ] {filed : ℓ → Option κ} {weight : ℓ → M}

/-- The weight of the steps filed under a key that none of them uses. -/
theorem sum_filed_of_unused {k : κ} (hzero : ∀ l ∈ ls, uses l = none → weight l = 0)
    (hfiled : ∀ l ∈ ls, ∀ k ∈ uses l, filed l = some k) (hk : k ∉ ls.filterMap uses) :
    ((ls.filter (filed · = some k)).map weight).sum = 0 := by
  apply List.sum_eq_zero
  intro x hx
  obtain ⟨l, hl, rfl⟩ := List.mem_map.mp hx
  obtain ⟨hmem, hkey⟩ := List.mem_filter.mp hl
  cases hu : uses l with
  | none => exact hzero l hmem hu
  | some k' =>
    have hsame : some k' = some k := (hfiled l hmem k' hu).symm.trans (of_decide_eq_true hkey)
    cases hsame
    exact absurd (List.mem_filterMap.mpr ⟨l, hmem, hu⟩) hk

/-- The steps filed under a key weigh together as much as the one that uses it. -/
theorem sum_filed {k : κ} {l : ℓ} (hzero : ∀ l ∈ ls, uses l = none → weight l = 0)
    (hfiled : ∀ l ∈ ls, ∀ k ∈ uses l, filed l = some k) (hnodup : (ls.filterMap uses).Nodup)
    (hl : l ∈ ls) (hk : uses l = some k) :
    ((ls.filter (filed · = some k)).map weight).sum = weight l := by
  obtain ⟨before, after, rfl⟩ := List.append_of_mem hl
  rw [List.filterMap_append, List.filterMap_cons_some hk, List.nodup_middle, List.nodup_cons,
    List.mem_append, not_or] at hnodup
  have hside : ∀ part, part ⊆ before ++ l :: after → k ∉ part.filterMap uses →
      ((part.filter (filed · = some k)).map weight).sum = 0 := fun part hpart hnot =>
    sum_filed_of_unused (fun l' hl' => hzero l' (hpart hl')) (fun l' hl' => hfiled l' (hpart hl'))
      hnot
  have hbefore := hside before (List.subset_append_left _ _) hnodup.1.1
  have hafter := hside after
    (List.Subset.trans (List.subset_cons_self l after) (List.subset_append_right _ _)) hnodup.1.2
  rw [List.filter_append, List.filter_cons_of_pos (by simp [hfiled l hl k hk]), List.map_append,
    List.map_cons, List.sum_append, List.sum_cons, hbefore, hafter, zero_add, add_zero]

end Sum

end Cathedral.Once
