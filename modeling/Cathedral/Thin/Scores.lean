import Cathedral.Lib.Share
import Cathedral.Thin.Core
import Mathlib.Data.String.Basic

/-!
# Cathedral.Thin.Scores — from observations to coldkey-collapsed weights

`update_ema`, `gate_scores_by_current_verification` and
`coldkey_collapsed_weights` of `cathedral_thin/core.py`.

The collapse is a loop that groups the positive scores by coldkey, followed by
a loop over the groups and a final normalisation. `coldkeyCollapsedWeights_eq`
says what comes out in terms of `Share.collapsedShare`: a hotkey with a
positive score receives its collapsed share, every other hotkey is absent.
-/

namespace Cathedral.Thin

open Share

/-! ## EMA -/

/-- One EMA update: the new score of a hotkey. -/
def emaScore (alpha old new : ℚ) : ℚ := round12 ((1 - alpha) * old + alpha * new)

def updateEma (previous : Dict String PyFloat) (observations : Dict String ℚ)
    (currentHotkeys : List String) (alpha : ℚ) : Except Exc (Dict String ℚ) := do
  refuse (¬ (0 < alpha ∧ alpha ≤ 1)) "EMA alpha must be in (0,1]"
  let pairs ← (currentHotkeys.dedup.insertionSort (· ≤ ·)).mapM fun hotkey => do
    let new := observations.getD hotkey 0
    match (previous.getD hotkey (.finite 0)).finite? with
    | some old =>
      if old < 0 ∨ new < 0 then fail "EMA input must be finite and non-negative"
      else pure (hotkey, emaScore alpha old new)
    | none => fail "EMA input must be finite and non-negative"
  pure (Dict.ofList pairs)

def gateScoresByCurrentVerification (emaScores observations : Dict String ℚ) :
    Except Exc (Dict String ℚ) :=
  if emaScores.items.any fun kv => kv.2 < 0 ∨ observations.getD kv.1 0 < 0 then
    fail "eligibility scores must be finite and non-negative"
  else
    pure (emaScores.sorted.mapItems fun hotkey ema =>
      if 0 < observations.getD hotkey 0 then ema else 0)

/-! ## Sybil collapse -/

/-- The hotkeys of one coldkey with their positive scores. -/
abbrev Members := List (String × ℚ)

/-- `max(score for _, score in members)`; members have positive scores. -/
def maxScore (members : Members) : ℚ := members.foldl (fun best kv => max best kv.2) 0

/-- `sum(score for _, score in members)`. -/
def groupTotal (members : Members) : ℚ := (members.map Prod.snd).sum

/-- One pass of the grouping loop. -/
def collapseStep (coldkeyOf : Dict String String) (groups : Dict String Members)
    (kv : String × ℚ) : Except Exc (Dict String Members) :=
  if kv.2 < 0 then fail "score must be finite and non-negative"
  else
    match coldkeyOf.get? kv.1 with
    | none => fail ("missing coldkey for " ++ kv.1)
    | some coldkey =>
      if coldkey = "" then fail ("missing coldkey for " ++ kv.1)
      else if 0 < kv.2 then
        pure (groups.set coldkey (groups.getD coldkey [] ++ [kv]))
      else pure groups

/-- The items assigned to `out`, group by group. -/
def collapsedItems (groups : Dict String Members) (totalBudget : ℚ) : List (String × ℚ) :=
  groups.items.flatMap fun (_, members) =>
    members.map fun (hotkey, score) =>
      (hotkey, maxScore members / totalBudget * score / groupTotal members)

def coldkeyCollapsedWeights (scores : Dict String ℚ) (coldkeyOf : Dict String String) :
    Except Exc (Dict String ℚ) := do
  let groups ← scores.sorted.items.foldlM (collapseStep coldkeyOf) ∅
  let budgets := groups.mapItems fun _ members => maxScore members
  let totalBudget := budgets.total
  if totalBudget ≤ 0 then return ∅
  let out := Dict.ofList (collapsedItems groups totalBudget)
  let norm := out.total
  if norm ≤ 0 then return ∅
  return out.sorted.mapItems fun _ weight => weight / norm

/-! ## What the grouping loop computes -/

/-- The coldkey of a hotkey, empty when there is none. -/
def coldkey (coldkeyOf : Dict String String) (hotkey : String) : String :=
  coldkeyOf.getD hotkey ""

/-- The hotkeys with a positive score. -/
def positives (scores : Dict String ℚ) : Finset String :=
  scores.keys.toFinset.filter fun hotkey => 0 < scores.getD hotkey 0

/-- Every scored hotkey has a coldkey and a non-negative score. -/
def Scorable (coldkeyOf : Dict String String) (items : List (String × ℚ)) : Prop :=
  ∀ kv ∈ items, 0 ≤ kv.2 ∧ coldkey coldkeyOf kv.1 ≠ ""

instance (coldkeyOf : Dict String String) (items : List (String × ℚ)) :
    Decidable (Scorable coldkeyOf items) := inferInstanceAs (Decidable (∀ _ ∈ _, _))

/-- The groups hold exactly the positive items, in order, none of them empty. -/
structure Grouped (coldkeyOf : Dict String String) (items : List (String × ℚ))
    (groups : Dict String Members) : Prop where
  members : ∀ ck, groups.getD ck [] =
    items.filter fun kv => 0 < kv.2 ∧ coldkey coldkeyOf kv.1 = ck
  nonempty : ∀ ck ms, groups.get? ck = some ms → ms ≠ []

theorem collapseStep_ok {coldkeyOf : Dict String String} {groups : Dict String Members}
    {kv : String × ℚ} (hscore : 0 ≤ kv.2) (hck : coldkey coldkeyOf kv.1 ≠ "") :
    collapseStep coldkeyOf groups kv = .ok (if 0 < kv.2 then
      groups.set (coldkey coldkeyOf kv.1) (groups.getD (coldkey coldkeyOf kv.1) [] ++ [kv])
      else groups) := by
  cases hget : coldkeyOf.get? kv.1 with
  | none => simp [coldkey, Dict.getD, hget] at hck
  | some ck =>
    have heq : coldkey coldkeyOf kv.1 = ck := by simp [coldkey, Dict.getD, hget]
    rw [heq] at hck ⊢
    simp only [collapseStep, hget, if_neg (not_lt.mpr hscore), if_neg hck]
    split_ifs <;> rfl

theorem scorable_of_collapseStep {coldkeyOf : Dict String String}
    {groups groups' : Dict String Members} {kv : String × ℚ}
    (h : collapseStep coldkeyOf groups kv = .ok groups') :
    0 ≤ kv.2 ∧ coldkey coldkeyOf kv.1 ≠ "" := by
  unfold collapseStep at h
  split at h
  · cases h
  · rename_i hscore
    refine ⟨not_lt.mp hscore, ?_⟩
    split at h
    · cases h
    · rename_i ck hget
      split at h
      · cases h
      · rename_i hck
        simpa [coldkey, Dict.getD, hget] using hck

theorem Grouped.step {coldkeyOf : Dict String String} {items : List (String × ℚ)}
    {groups : Dict String Members} (h : Grouped coldkeyOf items groups) (kv : String × ℚ) :
    Grouped coldkeyOf (items ++ [kv]) (if 0 < kv.2 then
      groups.set (coldkey coldkeyOf kv.1) (groups.getD (coldkey coldkeyOf kv.1) [] ++ [kv])
      else groups) := by
  by_cases hpos : 0 < kv.2
  · rw [if_pos hpos]
    constructor
    · intro ck
      by_cases hck : coldkey coldkeyOf kv.1 = ck
      · subst hck
        rw [Dict.getD, Dict.get?_set_self, Option.getD_some, h.members, List.filter_append]
        simp [hpos]
      · rw [Dict.getD, Dict.get?_set_ne _ _ hck, ← Dict.getD, h.members, List.filter_append]
        simp [hck]
    · intro ck ms hms
      rw [Dict.get?_set] at hms
      split at hms
      · cases hms
        simp
      · exact h.nonempty ck ms hms
  · rw [if_neg hpos]
    refine ⟨fun ck => ?_, h.nonempty⟩
    simpa [List.filter_append, hpos] using h.members ck

/-- The grouping loop raises exactly on unscorable items, and groups the others. -/
theorem collapse_loop (coldkeyOf : Dict String String) (items : List (String × ℚ)) :
    (Scorable coldkeyOf items → ∃ groups,
      items.foldlM (collapseStep coldkeyOf) ∅ = .ok groups ∧ Grouped coldkeyOf items groups) ∧
    (∀ groups, items.foldlM (collapseStep coldkeyOf) ∅ = .ok groups →
      Scorable coldkeyOf items) := by
  induction items using List.reverseRecOn with
  | nil =>
    refine ⟨fun _ => ⟨∅, rfl, ⟨fun ck => rfl, ?_⟩⟩, fun _ _ => by simp [Scorable]⟩
    intro ck ms h
    cases h
  | append_singleton init kv ih =>
    rw [List.foldlM_append]
    constructor
    · intro hs
      obtain ⟨groups, hfold, hgrouped⟩ :=
        ih.1 fun kv hkv => hs kv (List.mem_append_left _ hkv)
      obtain ⟨hscore, hck⟩ := hs kv (by simp)
      refine ⟨_, ?_, hgrouped.step kv⟩
      simp only [hfold, List.foldlM_cons, List.foldlM_nil, bind, Except.bind,
        collapseStep_ok hscore hck]
      rfl
    · intro groups h
      cases hfold : init.foldlM (collapseStep coldkeyOf) ∅ with
      | error e => simp [hfold, bind, Except.bind] at h
      | ok groups' =>
        simp only [hfold, List.foldlM_cons, List.foldlM_nil, bind, Except.bind] at h
        cases hstep : collapseStep coldkeyOf groups' kv with
        | error e => simp [hstep] at h
        | ok groups'' =>
          intro kv' hkv'
          rcases List.mem_append.mp hkv' with hmem | hmem
          · exact ih.2 groups' hfold kv' hmem
          · rw [List.mem_singleton] at hmem
            subst hmem
            exact scorable_of_collapseStep hstep

/-! ## What the collapse returns -/

/-- The score of a hotkey, zero when it has none. -/
def score (scores : Dict String ℚ) (hotkey : String) : ℚ := scores.getD hotkey 0

/-- The collapsed share of a hotkey. -/
def collapsed (scores : Dict String ℚ) (coldkeyOf : Dict String String) (hotkey : String) : ℚ :=
  collapsedShare (positives scores) (coldkey coldkeyOf) (score scores) hotkey

theorem mem_positives {scores : Dict String ℚ} {hotkey : String} :
    hotkey ∈ positives scores ↔ 0 < score scores hotkey := by
  simp only [positives, score, Finset.mem_filter, List.mem_toFinset, and_iff_right_iff_imp]
  intro h
  by_contra hk
  rw [← Dict.get?_eq_none] at hk
  simp [Dict.getD, hk] at h

theorem score_pos {scores : Dict String ℚ} : ∀ hk ∈ positives scores, 0 < score scores hk :=
  fun _ => mem_positives.mp

section Grouped

variable {scores : Dict String ℚ} {coldkeyOf : Dict String String}
  {groups : Dict String Members} (h : Grouped coldkeyOf scores.sorted.items groups)
include h

theorem Grouped.mem {ck hk : String} {q : ℚ} :
    (hk, q) ∈ groups.getD ck [] ↔
      (hk ∈ positives scores ∧ coldkey coldkeyOf hk = ck) ∧ q = score scores hk := by
  rw [h.members, List.mem_filter, Dict.mem_items, Dict.get?_sorted, mem_positives]
  simp only [decide_eq_true_eq]
  constructor
  · rintro ⟨hget, hpos, hck⟩
    have hq : score scores hk = q := by simp [score, Dict.getD, hget]
    exact ⟨⟨hq ▸ hpos, hck⟩, hq.symm⟩
  · rintro ⟨⟨hpos, hck⟩, rfl⟩
    refine ⟨?_, hpos, hck⟩
    cases hget : scores.get? hk with
    | none => simp [score, Dict.getD, hget] at hpos
    | some q => simp [score, Dict.getD, hget]

theorem Grouped.nodup (ck : String) : ((groups.getD ck []).map Prod.fst).Nodup := by
  rw [h.members]
  exact scores.sorted.nodup.sublist (List.filter_sublist.map _)

theorem Grouped.toFinset (ck : String) :
    ((groups.getD ck []).map Prod.fst).toFinset =
      Share.members (positives scores) (coldkey coldkeyOf) ck := by
  ext hk
  simp only [List.mem_toFinset, List.mem_map, Share.mem_members]
  constructor
  · rintro ⟨⟨hk', q⟩, hmem, rfl⟩
    exact (h.mem.mp hmem).1
  · intro hmem
    exact ⟨(hk, score scores hk), h.mem.mpr ⟨hmem, rfl⟩, rfl⟩

theorem Grouped.groupTotal_eq (ck : String) :
    groupTotal (groups.getD ck []) =
      ∑ hk ∈ Share.members (positives scores) (coldkey coldkeyOf) ck, score scores hk := by
  rw [← h.toFinset, List.sum_toFinset _ (h.nodup ck), List.map_map, groupTotal]
  refine congrArg List.sum (List.map_congr_left ?_)
  rintro ⟨hk, q⟩ hmem
  exact (h.mem.mp hmem).2

theorem Grouped.maxScore_eq (ck : String) :
    maxScore (groups.getD ck []) =
      peak (positives scores) (coldkey coldkeyOf) (score scores) ck := by
  have hfold : ∀ (l : Members) (a c : ℚ),
      l.foldl (fun best kv => max best kv.2) a ≤ c ↔ a ≤ c ∧ ∀ kv ∈ l, kv.2 ≤ c := by
    intro l
    induction l with
    | nil => simp
    | cons kv rest ih =>
      intro a c
      simp only [List.foldl_cons, ih, max_le_iff, List.forall_mem_cons, and_assoc]
  refine eq_of_forall_ge_iff fun c => ?_
  rw [maxScore, hfold, peak, Finset.fold_max_le]
  refine and_congr_right fun _ => ⟨fun hall hk hmem => ?_, fun hall kv hmem => ?_⟩
  · exact hall (hk, score scores hk) (h.mem.mpr ⟨Share.mem_members.mp hmem, rfl⟩)
  · obtain ⟨hmem', hq⟩ := h.mem.mp (show (kv.1, kv.2) ∈ groups.getD ck [] from hmem)
    exact hq ▸ hall kv.1 (Share.mem_members.mpr hmem')

/-- The groups present are the coldkeys of the positive hotkeys. -/
theorem Grouped.keys_toFinset :
    groups.keys.toFinset = (positives scores).image (coldkey coldkeyOf) := by
  ext ck
  rw [List.mem_toFinset, Dict.mem_keys, Finset.mem_image]
  constructor
  · rintro ⟨ms, hms⟩
    obtain ⟨⟨hk, q⟩, hmem⟩ := List.exists_mem_of_ne_nil ms (h.nonempty ck ms hms)
    have hget : groups.getD ck [] = ms := by simp [Dict.getD, hms]
    rw [← hget] at hmem
    exact ⟨hk, (h.mem.mp hmem).1⟩
  · rintro ⟨hk, hpos, hck⟩
    have hmem := h.mem.mpr ⟨⟨hpos, hck⟩, rfl⟩
    cases hget : groups.get? ck with
    | none => simp [Dict.getD, hget] at hmem
    | some ms => exact ⟨ms, rfl⟩

theorem Grouped.total_budgets :
    (groups.mapItems fun _ members => maxScore members).total =
      peakTotal (positives scores) (coldkey coldkeyOf) (score scores) := by
  have hkeys : (groups.mapItems fun _ members => maxScore members).keys = groups.keys := by
    simp [Dict.keys, Dict.mapItems]
  rw [← Dict.sumOn_true, Dict.sumOn_eq_sum, hkeys, h.keys_toFinset, Finset.filter_true, peakTotal]
  refine Finset.sum_congr rfl fun ck hck => ?_
  rw [← h.maxScore_eq, Dict.getD, Dict.getD, Dict.get?_mapItems]
  cases groups.get? ck <;> rfl

theorem Grouped.mem_collapsedItems {hk : String} {q : ℚ} :
    (hk, q) ∈ collapsedItems groups
        (peakTotal (positives scores) (coldkey coldkeyOf) (score scores)) ↔
      hk ∈ positives scores ∧ q = collapsed scores coldkeyOf hk := by
  simp only [collapsedItems, List.mem_flatMap, List.mem_map, Prod.exists, Prod.mk.injEq]
  have hvalue : ∀ ck, maxScore (groups.getD ck []) /
        peakTotal (positives scores) (coldkey coldkeyOf) (score scores) * score scores hk /
          groupTotal (groups.getD ck []) =
      peak (positives scores) (coldkey coldkeyOf) (score scores) ck /
        peakTotal (positives scores) (coldkey coldkeyOf) (score scores) *
          share (Share.members (positives scores) (coldkey coldkeyOf) ck) (score scores) hk := by
    intro ck
    rw [h.maxScore_eq, h.groupTotal_eq, mul_div_assoc, share]
  constructor
  · rintro ⟨ck, ms, hms, hk', p, hmem, rfl, rfl⟩
    have hget : groups.getD ck [] = ms := by simp [Dict.getD, Dict.mem_items.mp hms]
    rw [← hget] at hmem ⊢
    obtain ⟨⟨hpos, rfl⟩, rfl⟩ := h.mem.mp hmem
    exact ⟨hpos, hvalue _⟩
  · rintro ⟨hpos, rfl⟩
    have hmem := h.mem.mpr ⟨⟨hpos, rfl⟩, rfl⟩
    cases hget : groups.get? (coldkey coldkeyOf hk) with
    | none => simp [Dict.getD, hget] at hmem
    | some ms =>
      have hms : groups.getD (coldkey coldkeyOf hk) [] = ms := by simp [Dict.getD, hget]
      refine ⟨_, ms, Dict.mem_items.mpr hget, hk, score scores hk, hms ▸ hmem, rfl, ?_⟩
      rw [← hms]
      exact hvalue _

theorem Grouped.nodup_collapsedItems (totalBudget : ℚ) :
    ((collapsedItems groups totalBudget).map Prod.fst).Nodup := by
  simp only [collapsedItems, List.map_flatMap, List.map_map]
  have hkey : ∀ ck ms, (ck, ms) ∈ groups.items → groups.getD ck [] = ms := by
    intro ck ms hkv
    simp [Dict.getD, Dict.mem_items.mp hkv]
  refine List.nodup_flatMap.mpr ⟨?_, ?_⟩
  · rintro ⟨ck, ms⟩ hkv
    have hnodup := h.nodup ck
    rw [hkey ck ms hkv] at hnodup
    exact hnodup
  · have hdistinct : groups.items.Pairwise fun a b => a.1 ≠ b.1 :=
      List.pairwise_map.mp groups.nodup
    refine hdistinct.imp_of_mem ?_
    rintro ⟨ck, ms⟩ ⟨ck', ms'⟩ hkv hkv' hne hk hmem hmem'
    simp only [List.mem_map, Function.comp_apply, Prod.exists] at hmem hmem'
    obtain ⟨hk₁, q₁, hq₁, rfl⟩ := hmem
    obtain ⟨hk₂, q₂, hq₂, heq⟩ := hmem'
    rw [← hkey ck ms hkv] at hq₁
    rw [← hkey ck' ms' hkv'] at hq₂
    cases heq
    exact hne ((h.mem.mp hq₁).1.2.symm.trans (h.mem.mp hq₂).1.2)

theorem Grouped.get?_out (hk : String) :
    (Dict.ofList (collapsedItems groups
        (peakTotal (positives scores) (coldkey coldkeyOf) (score scores)))).get? hk =
      if hk ∈ positives scores then some (collapsed scores coldkeyOf hk) else none := by
  split_ifs with hpos
  · exact Dict.get?_ofList_of_mem (h.nodup_collapsedItems _)
      (h.mem_collapsedItems.mpr ⟨hpos, rfl⟩)
  · refine Option.eq_none_iff_forall_ne_some.mpr fun q hq => hpos ?_
    exact (h.mem_collapsedItems.mp (Dict.mem_of_get?_ofList hq)).1

end Grouped

/-- Sums over a dictionary that holds `f` exactly on the finite set `s`. -/
theorem sumOn_of_get? {d : Dict String ℚ} {s : Finset String} {f : String → ℚ}
    (h : ∀ hk, d.get? hk = if hk ∈ s then some (f hk) else none)
    (p : String → Prop) [DecidablePred p] : d.sumOn p = ∑ hk ∈ s with p hk, f hk := by
  have hkeys : d.keys.toFinset = s := by
    ext hk
    rw [List.mem_toFinset, Dict.mem_keys, h]
    split_ifs with hs <;> simp [hs]
  rw [Dict.sumOn_eq_sum, hkeys]
  refine Finset.sum_congr rfl fun hk hmem => ?_
  simp [Dict.getD, h, (Finset.mem_filter.mp hmem).1]

/-- Items the collapse accepts: each has a non-negative score and a coldkey. -/
theorem scorable_sorted {scores : Dict String ℚ} {coldkeyOf : Dict String String} :
    Scorable coldkeyOf scores.sorted.items ↔ Scorable coldkeyOf scores.items := by
  simp only [Scorable, (Dict.sorted_perm scores).mem_iff]

/-- The collapse raises exactly when some scored hotkey has a negative score or
no coldkey; otherwise it returns the collapsed shares of the positive hotkeys. -/
theorem coldkeyCollapsedWeights_eq (scores : Dict String ℚ) (coldkeyOf : Dict String String) :
    (Scorable coldkeyOf scores.items → ∃ weights,
      coldkeyCollapsedWeights scores coldkeyOf = .ok weights ∧
      ∀ hk, weights.get? hk =
        if hk ∈ positives scores then some (collapsed scores coldkeyOf hk) else none) ∧
    (∀ weights, coldkeyCollapsedWeights scores coldkeyOf = .ok weights →
      Scorable coldkeyOf scores.items) := by
  obtain ⟨htotal, hok⟩ := collapse_loop coldkeyOf scores.sorted.items
  rw [scorable_sorted] at htotal
  constructor
  · intro hs
    obtain ⟨groups, hfold, hg⟩ := htotal hs
    simp only [coldkeyCollapsedWeights, hfold, bind, Except.bind, hg.total_budgets]
    rcases (positives scores).eq_empty_or_nonempty with hempty | hne
    · -- no positive score: the budgets sum to zero and the loop is not entered
      have hzero : peakTotal (positives scores) (coldkey coldkeyOf) (score scores) = 0 := by
        simp [peakTotal, hempty]
      refine ⟨∅, by simp [hzero, pure, Except.pure], fun hk => ?_⟩
      simp only [hempty, Finset.notMem_empty, if_false]
      rfl
    · have hpos := peakTotal_pos (coldkey coldkeyOf) score_pos hne
      have hnorm : (Dict.ofList (collapsedItems groups
          (peakTotal (positives scores) (coldkey coldkeyOf) (score scores)))).total = 1 := by
        rw [← Dict.sumOn_true, sumOn_of_get? hg.get?_out, Finset.filter_true]
        exact sum_collapsedShare score_pos hne
      simp only [if_neg (not_le.mpr hpos), hnorm, if_neg (not_le.mpr (zero_lt_one (α := ℚ)))]
      refine ⟨_, rfl, fun hk => ?_⟩
      rw [Dict.get?_mapItems, Dict.get?_sorted, hg.get?_out]
      split_ifs <;> simp
  · intro weights h
    simp only [coldkeyCollapsedWeights, bind, Except.bind] at h
    cases hfold : scores.sorted.items.foldlM (collapseStep coldkeyOf) ∅ with
    | error e => simp [hfold] at h
    | ok groups => exact scorable_sorted.mp (hok groups hfold)

section Collapsed

variable {scores weights : Dict String ℚ} {coldkeyOf : Dict String String}
  (h : coldkeyCollapsedWeights scores coldkeyOf = .ok weights)
include h

theorem get?_of_collapse (hk : String) : weights.get? hk =
    if hk ∈ positives scores then some (collapsed scores coldkeyOf hk) else none := by
  obtain ⟨htotal, hok⟩ := coldkeyCollapsedWeights_eq scores coldkeyOf
  obtain ⟨weights', heq, hget⟩ := htotal (hok weights h)
  rw [h] at heq
  cases heq
  exact hget hk

theorem isEmpty_of_collapse : weights.isEmpty = true ↔ positives scores = ∅ := by
  rw [Dict.isEmpty_iff, Finset.eq_empty_iff_forall_notMem]
  refine forall_congr' fun hk => ?_
  rw [get?_of_collapse h]
  split_ifs with hpos <;> simp [hpos]

theorem pos_of_collapse {hk : String} {w : ℚ} (hw : weights.get? hk = some w) : 0 < w := by
  rw [get?_of_collapse h] at hw
  split_ifs at hw with hpos
  cases hw
  exact collapsedShare_pos score_pos hpos

theorem total_of_collapse (hne : weights.isEmpty = false) : weights.total = 1 := by
  have hpos : (positives scores).Nonempty := by
    refine Finset.nonempty_iff_ne_empty.mpr fun hempty => ?_
    rw [(isEmpty_of_collapse h).mpr hempty] at hne
    cases hne
  rw [← Dict.sumOn_true, sumOn_of_get? (get?_of_collapse h), Finset.filter_true]
  exact sum_collapsedShare score_pos hpos

/-- A coldkey receives its largest score over the sum of all largest scores. -/
theorem sumOn_coldkey_of_collapse (k : String) :
    weights.sumOn (fun hk => coldkey coldkeyOf hk = k) =
      peak scores.keys.toFinset (coldkey coldkeyOf) (score scores) k /
        peakTotal scores.keys.toFinset (coldkey coldkeyOf) (score scores) := by
  rw [sumOn_of_get? (get?_of_collapse h), ← peak_filter_pos, ← peakTotal_filter_pos]
  exact sum_collapsedShare_members score_pos k

end Collapsed

/-! ## More hotkeys, larger scores -/

/-- What a coldkey receives. -/
def coldkeyWeight (weights : Dict String ℚ) (coldkeyOf : Dict String String) (k : String) : ℚ :=
  weights.sumOn fun hk => coldkey coldkeyOf hk = k

/-- Hotkeys have joined the coldkey `k`, which has hotkeys already, and none of
them scores more than its best one. -/
structure Enrolled (k : String) (scores scores' : Dict String ℚ)
    (coldkeyOf coldkeyOf' : Dict String String) : Prop where
  existing : ∃ hk ∈ scores.keys, coldkey coldkeyOf hk = k
  kept : ∀ hk ∈ scores.keys, scores'.get? hk = scores.get? hk ∧
    coldkey coldkeyOf' hk = coldkey coldkeyOf hk
  joined : ∀ hk ∈ scores'.keys, hk ∉ scores.keys → coldkey coldkeyOf' hk = k ∧
    0 ≤ score scores' hk ∧
    score scores' hk ≤ peak scores.keys.toFinset (coldkey coldkeyOf) (score scores) k

theorem coldkeyWeight_of_collapse {scores weights : Dict String ℚ}
    {coldkeyOf : Dict String String} (h : coldkeyCollapsedWeights scores coldkeyOf = .ok weights)
    (k : String) : coldkeyWeight weights coldkeyOf k =
      peak scores.keys.toFinset (coldkey coldkeyOf) (score scores) k /
        peakTotal scores.keys.toFinset (coldkey coldkeyOf) (score scores) :=
  sumOn_coldkey_of_collapse h k

/-- Items are scorable when the score and the coldkey of each key are. -/
theorem scorable_iff {scores : Dict String ℚ} {coldkeyOf : Dict String String} :
    Scorable coldkeyOf scores.items ↔
      ∀ hk ∈ scores.keys, 0 ≤ score scores hk ∧ coldkey coldkeyOf hk ≠ "" := by
  have hscore : ∀ kv ∈ scores.items, score scores kv.1 = kv.2 := by
    rintro ⟨hk, q⟩ hkv
    simp [score, Dict.getD, Dict.mem_items.mp hkv]
  constructor
  · intro h hk hmem
    obtain ⟨kv, hkv, rfl⟩ := List.mem_map.mp hmem
    rw [hscore kv hkv]
    exact h kv hkv
  · intro h kv hkv
    rw [← hscore kv hkv]
    exact h kv.1 (List.mem_map_of_mem hkv)

theorem scorable_of_collapse {scores weights : Dict String ℚ} {coldkeyOf : Dict String String}
    (h : coldkeyCollapsedWeights scores coldkeyOf = .ok weights) :
    ∀ hk ∈ scores.keys, 0 ≤ score scores hk ∧ coldkey coldkeyOf hk ≠ "" :=
  scorable_iff.mp ((coldkeyCollapsedWeights_eq scores coldkeyOf).2 weights h)

theorem exists_collapse {scores : Dict String ℚ} {coldkeyOf : Dict String String}
    (h : ∀ hk ∈ scores.keys, 0 ≤ score scores hk ∧ coldkey coldkeyOf hk ≠ "") :
    ∃ weights, coldkeyCollapsedWeights scores coldkeyOf = .ok weights := by
  obtain ⟨weights, hweights, -⟩ :=
    (coldkeyCollapsedWeights_eq scores coldkeyOf).1 (scorable_iff.mpr h)
  exact ⟨weights, hweights⟩

section Enrolled

variable {k : String} {scores scores' : Dict String ℚ} {coldkeyOf coldkeyOf' : Dict String String}
  (h : Enrolled k scores scores' coldkeyOf coldkeyOf')
include h

theorem Enrolled.scorable
    (hs : ∀ hk ∈ scores.keys, 0 ≤ score scores hk ∧ coldkey coldkeyOf hk ≠ "") :
    ∀ hk ∈ scores'.keys, 0 ≤ score scores' hk ∧ coldkey coldkeyOf' hk ≠ "" := by
  intro hk hmem
  by_cases hold : hk ∈ scores.keys
  · obtain ⟨hget, hck⟩ := h.kept hk hold
    have hsame : score scores' hk = score scores hk := by simp only [score, Dict.getD, hget]
    rw [hsame, hck]
    exact hs hk hold
  · -- a hotkey that joined has the coldkey of one that was there
    obtain ⟨hck, hnonneg, -⟩ := h.joined hk hmem hold
    obtain ⟨hk₀, hmem₀, hck₀⟩ := h.existing
    refine ⟨hnonneg, ?_⟩
    rw [hck, ← hck₀]
    exact (hs hk₀ hmem₀).2

/-- No peak changes. -/
theorem Enrolled.peaks :
    (∀ j, peak scores'.keys.toFinset (coldkey coldkeyOf') (score scores') j =
      peak scores.keys.toFinset (coldkey coldkeyOf) (score scores) j) ∧
    peakTotal scores'.keys.toFinset (coldkey coldkeyOf') (score scores') =
      peakTotal scores.keys.toFinset (coldkey coldkeyOf) (score scores) := by
  have hsub : scores.keys.toFinset ⊆ scores'.keys.toFinset := by
    intro hk hmem
    rw [List.mem_toFinset, Dict.mem_keys] at hmem ⊢
    obtain ⟨q, hq⟩ := hmem
    exact ⟨q, (h.kept hk (Dict.mem_keys.mpr ⟨q, hq⟩)).1.trans hq⟩
  have hsame : ∀ hk ∈ scores.keys.toFinset, score scores' hk = score scores hk := by
    intro hk hmem
    simp only [score, Dict.getD, (h.kept hk (List.mem_toFinset.mp hmem)).1]
  have hgroup : ∀ hk ∈ scores.keys.toFinset, coldkey coldkeyOf' hk = coldkey coldkeyOf hk :=
    fun hk hmem => (h.kept hk (List.mem_toFinset.mp hmem)).2
  have hle : ∀ hk ∈ scores'.keys.toFinset, hk ∉ scores.keys.toFinset → score scores' hk ≤
      peak scores.keys.toFinset (coldkey coldkeyOf') (score scores) (coldkey coldkeyOf' hk) := by
    intro hk hmem hnot
    obtain ⟨hck, -, hpeak⟩ := h.joined hk (List.mem_toFinset.mp hmem)
      fun hold => hnot (List.mem_toFinset.mpr hold)
    rw [hck, peak_congr_group hgroup]
    exact hpeak
  constructor
  · intro j
    rw [peak_eq_of_dominated hsub hsame hle, peak_congr_group hgroup]
  · rw [peakTotal_eq_of_dominated hsub hsame hle, peakTotal_congr_group hgroup]

end Enrolled

theorem mem_keys_set {scores : Dict String ℚ} {hotkey hk : String} {q : ℚ}
    (hmem : hotkey ∈ scores.keys) : hk ∈ (scores.set hotkey q).keys ↔ hk ∈ scores.keys := by
  rw [Dict.mem_keys, Dict.mem_keys, Dict.get?_set]
  by_cases heq : hotkey = hk
  · subst heq
    rw [if_pos rfl]
    exact ⟨fun _ => Dict.mem_keys.mp hmem, fun _ => ⟨q, rfl⟩⟩
  · rw [if_neg heq]

theorem score_set (scores : Dict String ℚ) (hotkey hk : String) (q : ℚ) :
    score (scores.set hotkey q) hk = if hotkey = hk then q else score scores hk := by
  unfold score Dict.getD
  rw [Dict.get?_set]
  split_ifs <;> rfl

/-- To give a hotkey a larger score raises scores in its own coldkey only. -/
theorem raised_set {scores : Dict String ℚ} {hotkey : String} {q : ℚ}
    (coldkeyOf : Dict String String) (hle : score scores hotkey ≤ q) :
    Raised scores.keys.toFinset (coldkey coldkeyOf) (coldkey coldkeyOf hotkey) (score scores)
      (score (scores.set hotkey q)) := by
  constructor
  · intro hk _
    rw [score_set]
    split_ifs with heq
    · rw [← heq]
      exact hle
    · exact le_rfl
  · intro hk _ hne
    rw [score_set, if_neg]
    rintro rfl
    exact hne rfl

/-- More hotkeys under a coldkey, none better than its best one, change what no
coldkey receives. A larger score of one hotkey never lowers what its own coldkey
receives and never raises what another does. -/
theorem coldkey_weights_neutral_monotone (scores weights : Dict String ℚ)
    (coldkeyOf : Dict String String)
    (h : coldkeyCollapsedWeights scores coldkeyOf = .ok weights) :
    (∀ k scores' coldkeyOf', Enrolled k scores scores' coldkeyOf coldkeyOf' →
      ∃ weights', coldkeyCollapsedWeights scores' coldkeyOf' = .ok weights' ∧
        ∀ j, coldkeyWeight weights' coldkeyOf' j = coldkeyWeight weights coldkeyOf j) ∧
    (∀ hotkey ∈ scores.keys, ∀ q, score scores hotkey ≤ q →
      ∃ weights', coldkeyCollapsedWeights (scores.set hotkey q) coldkeyOf = .ok weights' ∧
        coldkeyWeight weights coldkeyOf (coldkey coldkeyOf hotkey) ≤
          coldkeyWeight weights' coldkeyOf (coldkey coldkeyOf hotkey) ∧
        ∀ j, j ≠ coldkey coldkeyOf hotkey →
          coldkeyWeight weights' coldkeyOf j ≤ coldkeyWeight weights coldkeyOf j) := by
  have hscorable := scorable_of_collapse h
  constructor
  · intro k scores' coldkeyOf' hjoined
    obtain ⟨weights', h'⟩ := exists_collapse (hjoined.scorable hscorable)
    obtain ⟨hpeak, htotal⟩ := hjoined.peaks
    refine ⟨weights', h', fun j => ?_⟩
    rw [coldkeyWeight_of_collapse h, coldkeyWeight_of_collapse h', hpeak, htotal]
  · intro hotkey hmem q hle
    have hkeys : (scores.set hotkey q).keys.toFinset = scores.keys.toFinset := by
      ext hk
      rw [List.mem_toFinset, List.mem_toFinset, mem_keys_set hmem]
    have hraised := raised_set coldkeyOf hle
    have himage : coldkey coldkeyOf hotkey ∈ scores.keys.toFinset.image (coldkey coldkeyOf) :=
      Finset.mem_image_of_mem _ (List.mem_toFinset.mpr hmem)
    have hscorable' : ∀ hk ∈ (scores.set hotkey q).keys,
        0 ≤ score (scores.set hotkey q) hk ∧ coldkey coldkeyOf hk ≠ "" := by
      intro hk hk'
      have hold := (mem_keys_set hmem).mp hk'
      obtain ⟨hnonneg, hck⟩ := hscorable hk hold
      exact ⟨hnonneg.trans (hraised.le hk (List.mem_toFinset.mpr hold)), hck⟩
    obtain ⟨weights', h'⟩ := exists_collapse hscorable'
    refine ⟨weights', h', ?_, fun j hj => ?_⟩
    · rw [coldkeyWeight_of_collapse h, coldkeyWeight_of_collapse h', hkeys]
      exact hraised.own_le himage
    · rw [coldkeyWeight_of_collapse h, coldkeyWeight_of_collapse h', hkeys]
      exact hraised.other_le himage hj

/-- Two coldkeys with a hotkey each, for the example. -/
def twoScores : Dict String ℚ := Dict.ofList [("alice", 2), ("bob", 1)]

def twoColdkeys : Dict String String := Dict.ofList [("alice", "north"), ("bob", "south")]

def twoWeights : Dict String ℚ := Dict.ofList [("alice", 2 / 3), ("bob", 1 / 3)]

/-- A second hotkey of the southern coldkey, as good as the first. -/
theorem coldkey_weights_neutral_monotone_two :
    ∃ weights', coldkeyCollapsedWeights (twoScores.set "bill" 1) (twoColdkeys.set "bill" "south") =
        .ok weights' ∧
      coldkeyWeight weights' (twoColdkeys.set "bill" "south") "south" =
        coldkeyWeight twoWeights twoColdkeys "south" := by
  have hjoined : Enrolled "south" twoScores (twoScores.set "bill" 1) twoColdkeys
      (twoColdkeys.set "bill" "south") := ⟨by decide, by decide, by decide +kernel⟩
  obtain ⟨weights', hweights, hsame⟩ :=
    (coldkey_weights_neutral_monotone twoScores twoWeights twoColdkeys (by decide +kernel)).1
      "south" _ _ hjoined
  exact ⟨weights', hweights, hsame "south"⟩

/-- The collapse reads its scores in sorted order. -/
theorem coldkeyCollapsedWeights_sorted (scores : Dict String ℚ)
    (coldkeyOf : Dict String String) :
    coldkeyCollapsedWeights scores.sorted coldkeyOf = coldkeyCollapsedWeights scores coldkeyOf := by
  simp only [coldkeyCollapsedWeights, Dict.sorted_sorted]

end Cathedral.Thin
