import Mathlib.Algebra.BigOperators.Field
import Mathlib.Tactic.FieldSimp
import Mathlib.Tactic.Linarith
import Mathlib.Tactic.Positivity
import Mathlib.Tactic.Ring

/-!
# Cathedral.Lib.Share — proportional shares of a unit

Two ways of splitting one unit over scored items, over any ordered field:

* `share` — proportionally to the scores;
* `collapsedShare` — first over groups, proportionally to the best score of
  each group, then inside a group proportionally to the scores. A group gains
  nothing from further items below its best one.

The facts used by the developments on top: the shares are positive
(`collapsedShare_pos`), a group receives exactly its peak over the sum of all
peaks (`sum_collapsedShare_members`), which grows with its own scores and falls
with those of the others (`Raised`), and the shares sum to one
(`sum_collapsedShare`).
-/

namespace Cathedral.Share

universe u v w

variable {ι : Type u} {κ : Type v} {𝕜 : Type w}

/-! ## Plain proportional shares -/

section Share

variable [Field 𝕜]

/-- The part of a unit that `i` receives when `s` shares it by `score`. -/
def share (s : Finset ι) (score : ι → 𝕜) (i : ι) : 𝕜 := score i / ∑ j ∈ s, score j

theorem sum_share {s : Finset ι} {score : ι → 𝕜} (h : ∑ j ∈ s, score j ≠ 0) :
    ∑ i ∈ s, share s score i = 1 := by
  simp only [share]
  rw [← Finset.sum_div, div_self h]

end Share

/-! ## Shares collapsed by group -/

section Collapsed

variable [DecidableEq κ]

/-- The items of `s` in group `k`. -/
def members (s : Finset ι) (group : ι → κ) (k : κ) : Finset ι := s.filter fun i => group i = k

theorem mem_members {s : Finset ι} {group : ι → κ} {k : κ} {i : ι} :
    i ∈ members s group k ↔ i ∈ s ∧ group i = k := Finset.mem_filter

variable [Field 𝕜] [LinearOrder 𝕜]

/-- The largest score in group `k`, at least zero. -/
def peak (s : Finset ι) (group : ι → κ) (score : ι → 𝕜) (k : κ) : 𝕜 :=
  (members s group k).fold max 0 score

/-- The sum of the peaks of all groups that occur in `s`. -/
def peakTotal (s : Finset ι) (group : ι → κ) (score : ι → 𝕜) : 𝕜 :=
  ∑ k ∈ s.image group, peak s group score k

/-- The part of a unit that `i` receives: its group's part, shared inside the
group by score. -/
def collapsedShare (s : Finset ι) (group : ι → κ) (score : ι → 𝕜) (i : ι) : 𝕜 :=
  peak s group score (group i) / peakTotal s group score *
    share (members s group (group i)) score i

theorem peak_nonneg (s : Finset ι) (group : ι → κ) (score : ι → 𝕜) (k : κ) :
    0 ≤ peak s group score k := (Finset.le_fold_max 0).mpr (Or.inl le_rfl)

theorem score_le_peak {s : Finset ι} {group : ι → κ} {score : ι → 𝕜} {i : ι} (hi : i ∈ s) :
    score i ≤ peak s group score (group i) :=
  (Finset.le_fold_max _).mpr (Or.inr ⟨i, mem_members.mpr ⟨hi, rfl⟩, le_rfl⟩)

/-- One more item raises the peak of its group to its score, if that is larger. -/
theorem peak_insert [DecidableEq ι] {s : Finset ι} {group : ι → κ} {score : ι → 𝕜} {i : ι}
    (hi : i ∉ s) (k : κ) :
    peak (insert i s) group score k =
      if group i = k then max (score i) (peak s group score k) else peak s group score k := by
  unfold peak members
  rw [Finset.filter_insert]
  split
  · have hnot : i ∉ s.filter fun j => group j = k := fun hmem => hi (Finset.mem_filter.mp hmem).1
    exact Finset.fold_insert hnot
  · rfl

/-- A group that does not occur has peak zero. -/
theorem peak_eq_zero {s : Finset ι} {group : ι → κ} {score : ι → 𝕜} {k : κ}
    (hk : k ∉ s.image group) : peak s group score k = 0 := by
  have hempty : members s group k = ∅ := by
    refine Finset.filter_eq_empty_iff.mpr fun i hi heq => hk ?_
    exact Finset.mem_image.mpr ⟨i, hi, heq⟩
  simp [peak, hempty]

/-- Items that score nothing do not raise a peak. -/
theorem peak_filter_pos (s : Finset ι) (group : ι → κ) (score : ι → 𝕜) (k : κ) :
    peak {i ∈ s | 0 < score i} group score k = peak s group score k := by
  refine eq_of_forall_ge_iff fun c => ?_
  simp only [peak, Finset.fold_max_le, mem_members, Finset.mem_filter]
  refine and_congr_right fun hc => ⟨fun h i hi => ?_, fun h i hi => h i ⟨hi.1.1, hi.2⟩⟩
  by_cases hpos : 0 < score i
  · exact h i ⟨⟨hi.1, hpos⟩, hi.2⟩
  · exact (not_lt.mp hpos).trans hc

/-- Nor do they add to the sum of the peaks. -/
theorem peakTotal_filter_pos (s : Finset ι) (group : ι → κ) (score : ι → 𝕜) :
    peakTotal {i ∈ s | 0 < score i} group score = peakTotal s group score := by
  simp only [peakTotal, peak_filter_pos]
  refine Finset.sum_subset (Finset.image_subset_image (Finset.filter_subset _ _)) ?_
  intro k _ hk
  rw [← peak_filter_pos]
  exact peak_eq_zero hk

/-- Further items that score no more than the peak of their group change no peak. -/
theorem peak_eq_of_dominated {s s' : Finset ι} {group : ι → κ} {score score' : ι → 𝕜}
    (hsub : s ⊆ s') (hsame : ∀ i ∈ s, score' i = score i)
    (hle : ∀ i ∈ s', i ∉ s → score' i ≤ peak s group score (group i)) (k : κ) :
    peak s' group score' k = peak s group score k := by
  refine eq_of_forall_ge_iff fun c => ?_
  simp only [peak, Finset.fold_max_le, mem_members]
  refine and_congr_right fun hc => ⟨fun h i hi => ?_, fun h i hi => ?_⟩
  · rw [← hsame i hi.1]
    exact h i ⟨hsub hi.1, hi.2⟩
  · by_cases his : i ∈ s
    · rw [hsame i his]
      exact h i ⟨his, hi.2⟩
    · refine (hle i hi.1 his).trans ?_
      rw [hi.2, peak, Finset.fold_max_le]
      exact ⟨hc, fun j hj => h j (mem_members.mp hj)⟩

theorem peakTotal_eq_of_dominated {s s' : Finset ι} {group : ι → κ} {score score' : ι → 𝕜}
    (hsub : s ⊆ s') (hsame : ∀ i ∈ s, score' i = score i)
    (hle : ∀ i ∈ s', i ∉ s → score' i ≤ peak s group score (group i)) :
    peakTotal s' group score' = peakTotal s group score := by
  simp only [peakTotal, peak_eq_of_dominated hsub hsame hle]
  exact (Finset.sum_subset (Finset.image_subset_image hsub) fun k _ hk => peak_eq_zero hk).symm

/-- Only the groups of the items matter. -/
theorem peak_congr_group {s : Finset ι} {group group' : ι → κ} {score : ι → 𝕜}
    (h : ∀ i ∈ s, group' i = group i) (k : κ) : peak s group' score k = peak s group score k := by
  have hmembers : members s group' k = members s group k :=
    Finset.filter_congr fun i hi => by rw [h i hi]
  unfold peak
  rw [hmembers]

theorem peakTotal_congr_group {s : Finset ι} {group group' : ι → κ} {score : ι → 𝕜}
    (h : ∀ i ∈ s, group' i = group i) : peakTotal s group' score = peakTotal s group score := by
  unfold peakTotal
  rw [Finset.image_congr fun i hi => h i hi]
  exact Finset.sum_congr rfl fun k _ => peak_congr_group h k

/-- Scores inside the group `k` have been raised, the others stay. -/
structure Raised (s : Finset ι) (group : ι → κ) (k : κ) (score score' : ι → 𝕜) : Prop where
  le : ∀ i ∈ s, score i ≤ score' i
  same : ∀ i ∈ s, group i ≠ k → score' i = score i

section Raised

variable {s : Finset ι} {group : ι → κ} {k : κ} {score score' : ι → 𝕜}
  (h : Raised s group k score score')
include h

theorem Raised.peak_of_ne {k' : κ} (hne : k' ≠ k) :
    peak s group score' k' = peak s group score k' := by
  refine Finset.fold_congr fun i hi => h.same i (mem_members.mp hi).1 ?_
  rw [(mem_members.mp hi).2]
  exact hne

theorem Raised.peak_le : peak s group score k ≤ peak s group score' k := by
  refine (Finset.fold_max_le _).mpr ⟨peak_nonneg .., fun i hi => ?_⟩
  obtain ⟨his, rfl⟩ := mem_members.mp hi
  exact (h.le i his).trans (score_le_peak his)

/-- The sum of the peaks grows by what the peak of the raised group grows. -/
theorem Raised.peakTotal_eq (hk : k ∈ s.image group) :
    peakTotal s group score' - peak s group score' k =
      peakTotal s group score - peak s group score k := by
  unfold peakTotal
  rw [← Finset.add_sum_erase _ _ hk, ← Finset.add_sum_erase _ _ hk, add_sub_cancel_left,
    add_sub_cancel_left]
  exact Finset.sum_congr rfl fun k' hk' => h.peak_of_ne (Finset.mem_erase.mp hk').1

variable [IsStrictOrderedRing 𝕜]

/-- The raised group's part of the unit does not fall. -/
theorem Raised.own_le (hk : k ∈ s.image group) :
    peak s group score k / peakTotal s group score ≤
      peak s group score' k / peakTotal s group score' := by
  have hpeak := h.peak_le
  have htotal := h.peakTotal_eq hk
  have hnonneg := peak_nonneg s group score k
  have hrest : peak s group score k ≤ peakTotal s group score :=
    Finset.single_le_sum (fun k' _ => peak_nonneg s group score k') hk
  rcases (hnonneg.trans hrest).eq_or_lt with hzero | hpos
  · -- nobody had a score, so nobody had a part
    rw [← hzero, div_zero]
    exact div_nonneg (peak_nonneg ..) (Finset.sum_nonneg fun k' _ => peak_nonneg s group score' k')
  · have hothers : 0 ≤ peakTotal s group score - peak s group score k := sub_nonneg.mpr hrest
    have hmul := mul_le_mul_of_nonneg_right hpeak hothers
    rw [div_le_div_iff₀ hpos (by linarith)]
    calc peak s group score k * peakTotal s group score'
        = peak s group score k * (peakTotal s group score - peak s group score k) +
            peak s group score k * peak s group score' k := by
          rw [← htotal]
          ring
      _ ≤ peak s group score' k * (peakTotal s group score - peak s group score k) +
            peak s group score k * peak s group score' k := by linarith
      _ = peak s group score' k * peakTotal s group score := by ring

/-- No other group's part of the unit grows. -/
theorem Raised.other_le (hk : k ∈ s.image group) {k' : κ} (hne : k' ≠ k) :
    peak s group score' k' / peakTotal s group score' ≤
      peak s group score k' / peakTotal s group score := by
  rw [h.peak_of_ne hne]
  have hpeak := h.peak_le
  have htotal := h.peakTotal_eq hk
  by_cases hk' : k' ∈ s.image group
  · have hpart : peak s group score k' ≤ peakTotal s group score :=
      Finset.single_le_sum (fun j _ => peak_nonneg s group score j) hk'
    have hnonneg := peak_nonneg s group score k'
    rcases hnonneg.eq_or_lt with hzero | hpos
    · rw [← hzero, zero_div, zero_div]
    · exact div_le_div_of_nonneg_left hnonneg (by linarith) (by linarith)
  · rw [peak_eq_zero hk', zero_div, zero_div]

end Raised

section Positive

variable {s : Finset ι} {group : ι → κ} {score : ι → 𝕜} (hpos : ∀ i ∈ s, 0 < score i)
include hpos

theorem peak_pos {k : κ} (hk : k ∈ s.image group) : 0 < peak s group score k := by
  obtain ⟨i, hi, rfl⟩ := Finset.mem_image.mp hk
  exact lt_of_lt_of_le (hpos i hi) (score_le_peak hi)

variable [IsStrictOrderedRing 𝕜]

variable (group) in
theorem peakTotal_pos (hs : s.Nonempty) : 0 < peakTotal s group score :=
  Finset.sum_pos (fun _ hk => peak_pos hpos hk) (hs.image group)

theorem sum_members_pos {k : κ} (hk : k ∈ s.image group) :
    0 < ∑ i ∈ members s group k, score i := by
  obtain ⟨i, hi, rfl⟩ := Finset.mem_image.mp hk
  exact Finset.sum_pos (fun j hj => hpos j (mem_members.mp hj).1)
    ⟨i, mem_members.mpr ⟨hi, rfl⟩⟩

theorem collapsedShare_pos {i : ι} (hi : i ∈ s) : 0 < collapsedShare s group score i := by
  have hk : group i ∈ s.image group := Finset.mem_image_of_mem group hi
  have h1 := peak_pos hpos hk
  have h2 := peakTotal_pos group hpos ⟨i, hi⟩
  have h3 := sum_members_pos hpos hk
  have h4 := hpos i hi
  simp only [collapsedShare, share]
  positivity

/-- A group receives its peak over the sum of all peaks. -/
theorem sum_collapsedShare_members (k : κ) :
    ∑ i ∈ members s group k, collapsedShare s group score i =
      peak s group score k / peakTotal s group score := by
  by_cases hk : k ∈ s.image group
  · have hcongr : ∀ i ∈ members s group k, collapsedShare s group score i =
        peak s group score k / peakTotal s group score * share (members s group k) score i := by
      intro i hi
      obtain ⟨-, rfl⟩ := mem_members.mp hi
      rfl
    rw [Finset.sum_congr rfl hcongr, ← Finset.mul_sum,
      sum_share (sum_members_pos hpos hk).ne', mul_one]
  · have hempty : members s group k = ∅ := by
      refine Finset.filter_eq_empty_iff.mpr fun i hi heq => hk ?_
      exact Finset.mem_image.mpr ⟨i, hi, heq⟩
    rw [hempty, Finset.sum_empty, peak_eq_zero hk, zero_div]

/-- The collapsed shares use up the unit. -/
theorem sum_collapsedShare (hs : s.Nonempty) :
    ∑ i ∈ s, collapsedShare s group score i = 1 := by
  have hmaps : ∀ i ∈ s, group i ∈ s.image group := fun i hi => Finset.mem_image_of_mem group hi
  rw [← Finset.sum_fiberwise_of_maps_to hmaps]
  calc ∑ k ∈ s.image group, ∑ i ∈ s with group i = k, collapsedShare s group score i
      = ∑ k ∈ s.image group, peak s group score k / peakTotal s group score :=
        Finset.sum_congr rfl fun k _ => sum_collapsedShare_members hpos k
    _ = 1 := by
        rw [← Finset.sum_div]
        exact div_self (peakTotal_pos group hpos hs).ne'

end Positive

end Collapsed

end Cathedral.Share
