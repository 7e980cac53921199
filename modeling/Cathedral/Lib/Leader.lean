import Mathlib.Algebra.Order.Field.Basic
import Mathlib.Tactic.Linarith

/-!
# Cathedral.Lib.Leader — scores normalised to the largest one

Where some score is positive, every score is divided by the largest; otherwise nothing is
shared. What a change of one score does to the shares, and how the share of one member moves
with its own score.
-/

namespace Cathedral.Leader

universe u v

variable {κ : Type u} {𝕜 : Type v} [Field 𝕜] [LinearOrder 𝕜]

/-- The largest score of a list, zero where there is none. -/
def top (scores : List 𝕜) : 𝕜 := scores.max?.getD 0

/-- The share of the score `x` beside a largest one. -/
def share (largest x : 𝕜) : 𝕜 := if 0 < largest then x / largest else 0

theorem le_top {scores : List 𝕜} {x : 𝕜} (h : x ∈ scores) : x ≤ top scores := by
  obtain ⟨y, hy⟩ : ∃ y, scores.max? = some y := by
    cases hmax : scores.max? with
    | none => exact absurd (List.max?_eq_none_iff.mp hmax ▸ h) List.not_mem_nil
    | some y => exact ⟨y, rfl⟩
  rw [top, hy, Option.getD_some]
  exact (List.max?_eq_some_iff.mp hy).2 x h

theorem top_mem {scores : List 𝕜} (h : 0 < top scores) : top scores ∈ scores := by
  cases hmax : scores.max? with
  | none => simp [top, hmax] at h
  | some y =>
    rw [top, hmax, Option.getD_some]
    exact (List.max?_eq_some_iff.mp hmax).1

theorem top_pos_iff {scores : List 𝕜} : 0 < top scores ↔ ∃ x ∈ scores, 0 < x :=
  ⟨fun h => ⟨_, top_mem h, h⟩, fun ⟨_, hmem, hpos⟩ => hpos.trans_le (le_top hmem)⟩

/-- A bound that is reached is the largest score. -/
theorem top_eq {scores : List 𝕜} {x : 𝕜} (hmem : x ∈ scores) (h : ∀ y ∈ scores, y ≤ x) :
    top scores = x := by
  rw [top, List.max?_eq_some_iff.mpr ⟨hmem, h⟩, Option.getD_some]

section Change

variable {keys : List κ} {score score' : κ → 𝕜} {k : κ}

def shareOf (keys : List κ) (score : κ → 𝕜) (j : κ) : 𝕜 := share (top (keys.map score)) (score j)

theorem shareOf_eq_zero (h : ∀ j ∈ keys, score j ≤ 0) (j : κ) : shareOf keys score j = 0 := by
  refine if_neg fun hpos => ?_
  obtain ⟨x, hmem, hx⟩ := top_pos_iff.mp hpos
  obtain ⟨i, hi, rfl⟩ := List.mem_map.mp hmem
  exact absurd (h i hi) (not_le.mpr hx)

/-- The key with the largest score, where that is positive, has the whole share. -/
theorem shareOf_eq_one {j : κ} (hj : j ∈ keys) (hpos : 0 < score j)
    (hmax : ∀ i ∈ keys, score i ≤ score j) : shareOf keys score j = 1 := by
  have htop : top (keys.map score) = score j :=
    top_eq (List.mem_map_of_mem hj) (List.forall_mem_map.mpr hmax)
  rw [shareOf, htop, share, if_pos hpos, div_self hpos.ne']

theorem shareOf_of_max {i j : κ} (hj : j ∈ keys) (hpos : 0 < score j)
    (hmax : ∀ i ∈ keys, score i ≤ score j) : shareOf keys score i = score i / score j := by
  have htop : top (keys.map score) = score j :=
    top_eq (List.mem_map_of_mem hj) (List.forall_mem_map.mpr hmax)
  rw [shareOf, htop, share, if_pos hpos]

theorem exists_max (h : ∃ j ∈ keys, 0 < score j) :
    ∃ j ∈ keys, 0 < score j ∧ ∀ i ∈ keys, score i ≤ score j := by
  obtain ⟨i, hi, hpos⟩ := h
  have htop : 0 < top (keys.map score) := top_pos_iff.mpr ⟨_, List.mem_map_of_mem hi, hpos⟩
  obtain ⟨j, hj, heq⟩ := List.mem_map.mp (top_mem htop)
  exact ⟨j, hj, heq ▸ htop, fun i hi => heq ▸ le_top (List.mem_map_of_mem hi)⟩

/-- The shares depend on which keys there are, not on their order. -/
theorem shareOf_congr {keys' : List κ} (h : ∀ j, j ∈ keys ↔ j ∈ keys')
    (hscore : ∀ j ∈ keys, score j = score' j) {j : κ} (hj : score j = score' j) :
    shareOf keys score j = shareOf keys' score' j := by
  have hmem : ∀ x, x ∈ keys.map score ↔ x ∈ keys'.map score' := fun x => by
    rw [List.map_congr_left hscore]
    simp only [List.mem_map, h]
  have htop : top (keys.map score) = top (keys'.map score') := by
    cases hmax : (keys.map score).max? with
    | none =>
      have hnil : keys'.map score' = [] := List.eq_nil_iff_forall_not_mem.mpr fun x hx =>
        List.not_mem_nil (List.max?_eq_none_iff.mp hmax ▸ (hmem x).mpr hx)
      rw [List.max?_eq_none_iff.mp hmax, hnil]
    | some x =>
      obtain ⟨hx, hle⟩ := List.max?_eq_some_iff.mp hmax
      rw [top_eq hx hle, top_eq ((hmem x).mp hx) fun y hy => hle y ((hmem y).mpr hy)]
  rw [shareOf, shareOf, htop, hj]

variable [DecidableEq κ]

/-- A change of one score leaves all shares exactly where nothing is shared before and after,
or where the key has everything before and after. -/
theorem shares_eq_iff (hk : k ∈ keys) (hsame : ∀ j ∈ keys, j ≠ k → score' j = score j) :
    (∀ j ∈ keys, shareOf keys score' j = shareOf keys score j) ↔
      score' k = score k ∨ (∀ j ∈ keys, score j ≤ 0 ∧ score' j ≤ 0) ∨
        (0 < score k ∧ 0 < score' k ∧ ∀ j ∈ keys, j ≠ k → score j = 0) := by
  constructor
  · intro h
    by_cases hpos : ∃ j ∈ keys, 0 < score j <;> by_cases hpos' : ∃ j ∈ keys, 0 < score' j
    · obtain ⟨i, hi, hipos, himax⟩ := exists_max hpos
      obtain ⟨j, hj, hjpos, hjmax⟩ := exists_max hpos'
      have hshare : ∀ l ∈ keys, score' l / score' j = score l / score i := fun l hl => by
        rw [← shareOf_of_max hj hjpos hjmax, ← shareOf_of_max hi hipos himax, h l hl]
      by_cases htop : score' j = score i
      · have hself := hshare k hk
        rw [htop, div_left_inj' hipos.ne'] at hself
        exact .inl hself
      · -- two largest scores that differ leave room for one key
        have hzero : ∀ l ∈ keys, l ≠ k → score l = 0 := fun l hl hne => by
          have hl' := hshare l hl
          rw [hsame l hl hne, div_eq_div_iff hjpos.ne' hipos.ne'] at hl'
          by_contra hscore
          exact htop (mul_left_cancel₀ hscore hl').symm
        have hi' : i = k := by
          by_contra hne
          exact hipos.ne' (hzero i hi hne)
        have hj' : j = k := by
          by_contra hne
          exact hjpos.ne' ((hsame j hj hne).trans (hzero j hj hne))
        exact .inr (.inr ⟨hi' ▸ hipos, hj' ▸ hjpos, hzero⟩)
    · obtain ⟨i, hi, hipos, himax⟩ := exists_max hpos
      have hone := h i hi
      rw [shareOf_eq_one hi hipos himax,
        shareOf_eq_zero fun j hj => not_lt.mp fun hj' => hpos' ⟨j, hj, hj'⟩] at hone
      exact absurd hone zero_ne_one
    · obtain ⟨j, hj, hjpos, hjmax⟩ := exists_max hpos'
      have hone := h j hj
      rw [shareOf_eq_one hj hjpos hjmax,
        shareOf_eq_zero fun i hi => not_lt.mp fun hi' => hpos ⟨i, hi, hi'⟩] at hone
      exact absurd hone one_ne_zero
    · exact .inr (.inl fun j hj => ⟨not_lt.mp fun hj' => hpos ⟨j, hj, hj'⟩,
        not_lt.mp fun hj' => hpos' ⟨j, hj, hj'⟩⟩)
  · rintro (heq | hnone | ⟨hpos, hpos', hzero⟩) j hj
    · have hall : ∀ i ∈ keys, score' i = score i := fun i hi => by
        by_cases hne : i = k
        · rw [hne, heq]
        · exact hsame i hi hne
      rw [shareOf, shareOf, List.map_congr_left hall, hall j hj]
    · rw [shareOf_eq_zero fun i hi => (hnone i hi).1, shareOf_eq_zero fun i hi => (hnone i hi).2]
    · have hmax : ∀ i ∈ keys, score i ≤ score k := fun i hi => by
        by_cases hne : i = k
        · rw [hne]
        · exact (hzero i hi hne).trans_le hpos.le
      have hmax' : ∀ i ∈ keys, score' i ≤ score' k := fun i hi => by
        by_cases hne : i = k
        · rw [hne]
        · exact ((hsame i hi hne).trans (hzero i hi hne)).trans_le hpos'.le
      rw [shareOf_of_max hk hpos hmax, shareOf_of_max hk hpos' hmax']
      by_cases hne : j = k
      · rw [hne, div_self hpos.ne', div_self hpos'.ne']
      · rw [hsame j hj hne, hzero j hj hne, zero_div, zero_div]

/-- The largest positive score of the other keys, zero where there is none. -/
def rival (keys : List κ) (score : κ → 𝕜) (k : κ) : 𝕜 :=
  max 0 (top ((keys.filter (· ≠ k)).map score))

theorem rival_le_iff {x : 𝕜} (hx : 0 ≤ x) :
    rival keys score k ≤ x ↔ ∀ j ∈ keys, j ≠ k → score j ≤ x := by
  rw [rival, max_le_iff]
  constructor
  · rintro ⟨_, h⟩ j hj hne
    exact (le_top (List.mem_map_of_mem (List.mem_filter.mpr ⟨hj, by simpa using hne⟩))).trans h
  · intro h
    refine ⟨hx, ?_⟩
    by_contra hlt
    obtain ⟨j, hj, heq⟩ := List.mem_map.mp (top_mem (hx.trans_lt (not_le.mp hlt)))
    obtain ⟨hmem, hne⟩ := List.mem_filter.mp hj
    exact hlt (heq ▸ h j hmem (by simpa using hne))

theorem rival_congr (hsame : ∀ j ∈ keys, j ≠ k → score' j = score j) :
    rival keys score' k = rival keys score k := by
  rw [rival, rival, List.map_congr_left fun j hj => hsame j (List.mem_filter.mp hj).1
    (by simpa using (List.mem_filter.mp hj).2)]

/-- The share of a score beside the largest of the others. -/
def against (largest x : 𝕜) : 𝕜 := if 0 < x ∧ largest ≤ x then 1 else x / largest

/-- The share of a key, by its own score and the largest other one. -/
theorem shareOf_self (hk : k ∈ keys) :
    shareOf keys score k = against (rival keys score k) (score k) := by
  have hnonneg : 0 ≤ rival keys score k := le_max_left _ _
  rw [against]
  split_ifs with hlead
  · refine shareOf_eq_one hk hlead.1 fun i hi => ?_
    by_cases hne : i = k
    · rw [hne]
    · exact (rival_le_iff hlead.1.le).mp hlead.2 i hi hne
  rcases hnonneg.eq_or_lt with hzero | hpos
  · have hk' : score k ≤ 0 := le_of_not_gt fun hlt => hlead ⟨hlt, hzero ▸ hlt.le⟩
    rw [← hzero, div_zero]
    refine shareOf_eq_zero (fun i hi => ?_) k
    by_cases hne : i = k
    · exact hne ▸ hk'
    · exact (rival_le_iff le_rfl).mp hzero.symm.le i hi hne
  · -- another key has the largest score
    have htop : 0 < top ((keys.filter (· ≠ k)).map score) :=
      (lt_max_iff.mp hpos).resolve_left (lt_irrefl _)
    obtain ⟨j, hj, heq⟩ := List.mem_map.mp (top_mem htop)
    have hrival : rival keys score k = score j := (max_eq_right htop.le).trans heq.symm
    have hmax : ∀ i ∈ keys, score i ≤ score j := fun i hi => by
      by_cases hne : i = k
      · rw [hne, ← hrival]
        exact le_of_not_gt fun hlt => hlead ⟨hpos.trans hlt, hlt.le⟩
      · exact hrival ▸ (rival_le_iff hnonneg).mp le_rfl i hi hne
    rw [shareOf_of_max (List.mem_filter.mp hj).1 (hrival ▸ hpos) hmax, hrival]

variable [IsStrictOrderedRing 𝕜]

theorem against_le_one {largest x : 𝕜} (h : 0 ≤ largest) : against largest x ≤ 1 := by
  rw [against]
  split_ifs with hlead
  · exact le_rfl
  · rcases h.eq_or_lt with rfl | hpos
    · exact (div_zero x).le.trans zero_le_one
    · refine (div_le_one hpos).mpr (le_of_not_gt fun hlt => hlead ⟨hpos.trans hlt, hlt.le⟩)

theorem against_le_iff {largest x y : 𝕜} (h : 0 ≤ largest) :
    against largest x ≤ against largest y ↔
      x ≤ y ∨ (0 < y ∧ largest ≤ y) ∨ (x ≤ 0 ∧ largest ≤ 0) := by
  by_cases hy : 0 < y ∧ largest ≤ y
  · have hone : against largest y = 1 := if_pos hy
    exact iff_of_true (hone ▸ against_le_one h) (.inr (.inl hy))
  have hy' : against largest y = y / largest := if_neg hy
  rw [hy']
  rcases h.eq_or_lt with rfl | hpos
  · -- no other score is positive
    have hnot : y ≤ 0 := le_of_not_gt fun hlt => hy ⟨hlt, hlt.le⟩
    rw [div_zero]
    by_cases hx : 0 < x
    · have hone : against 0 x = 1 := if_pos ⟨hx, hx.le⟩
      rw [hone]
      refine iff_of_false (not_le.mpr zero_lt_one) ?_
      rintro (hle | hlead | hle)
      · exact absurd (hle.trans hnot) (not_le.mpr hx)
      · exact hy hlead
      · exact absurd hle.1 (not_le.mpr hx)
    · have hzero : against 0 x = 0 := (if_neg fun hlead => hx hlead.1).trans (div_zero x)
      exact iff_of_true hzero.le (.inr (.inr ⟨not_lt.mp hx, le_rfl⟩))
  · have hlt : y < largest := lt_of_not_ge fun hle => hy ⟨hpos.trans_le hle, hle⟩
    have hrest : (x ≤ y ∨ (0 < y ∧ largest ≤ y) ∨ (x ≤ 0 ∧ largest ≤ 0)) ↔ x ≤ y := by
      simp [hlt.not_ge, hpos.not_ge]
    rw [hrest]
    by_cases hx : 0 < x ∧ largest ≤ x
    · have hone : against largest x = 1 := if_pos hx
      rw [hone, one_le_div hpos]
      exact iff_of_false hlt.not_ge (hlt.trans_le hx.2).not_ge
    · have hx' : against largest x = x / largest := if_neg hx
      rw [hx', div_le_div_iff_of_pos_right hpos]

/-- A key has no larger share than with another score of its own exactly where that score is
no smaller, has the whole share, or nothing is shared. -/
theorem shareOf_le_iff (hk : k ∈ keys) (hsame : ∀ j ∈ keys, j ≠ k → score' j = score j) :
    shareOf keys score k ≤ shareOf keys score' k ↔
      score k ≤ score' k ∨ (0 < score' k ∧ ∀ j ∈ keys, j ≠ k → score j ≤ score' k) ∨
        (score k ≤ 0 ∧ ∀ j ∈ keys, j ≠ k → score j ≤ 0) := by
  have hnonneg : 0 ≤ rival keys score k := le_max_left _ _
  rw [shareOf_self hk, shareOf_self hk, rival_congr hsame, against_le_iff hnonneg]
  refine or_congr_right (or_congr (and_congr_right fun hpos => ?_) (and_congr_right fun _ => ?_))
  · exact rival_le_iff hpos.le
  · exact rival_le_iff le_rfl

end Change

end Cathedral.Leader
