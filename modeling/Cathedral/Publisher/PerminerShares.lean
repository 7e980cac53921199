import Cathedral.Lib.Share
import Cathedral.Publisher.ExternalBlend

/-!
# Cathedral.Publisher.PerminerShares — shares where per-miner work is the paying lane

In the modes `pm_primary` and `assigned_only` a coldkey is paid for the best of its
hotkeys. In exact arithmetic, with external scores off, its share of the composed vector
is its peak over the sum of all peaks; so neither the shared board nor hotkeys below the
peak of their coldkey move any share.
-/

namespace Cathedral.Publisher.Weights

open Groups
open Share (peak peakTotal peak_insert peak_eq_zero peak_nonneg peak_pos peak_eq_of_dominated
  peakTotal_eq_of_dominated)

variable {b : BaseSettings} {s : ExternalSettings} {reads : Reads} {t t' : WorkTables}
  {since : Millis} {now : ℤ} {coldkeyOf : Dict String String} {ident : String → String}

/-! ## Best totals -/

/-- The best score of an identity among its hotkeys. -/
def bestOf (ident : String → String) (scores : Dict String ℚ) (c : String) : ℚ :=
  peak scores.keys.toFinset ident (fun hk => scores.getD hk 0) c

def bestTotal (ident : String → String) (scores : Dict String ℚ) : ℚ :=
  peakTotal scores.keys.toFinset ident fun hk => scores.getD hk 0

/-- The dictionary after some of the items. -/
structure BestOf (ident : String → String) (score : String → ℚ) (hotkeys : Finset String)
    (best : Dict String ℚ) : Prop where
  peaks : ∀ c, best.getD c 0 = peak hotkeys ident score c
  keys : ∀ c, c ∈ best.keys ↔ c ∈ hotkeys.image ident

theorem bestOf_insert {score : String → ℚ} {hotkeys : Finset String} {best : Dict String ℚ}
    (h : BestOf ident score hotkeys best) {hk : String} (hnew : hk ∉ hotkeys) :
    BestOf ident score (insert hk hotkeys)
      (best.set (ident hk) (max (best.getD (ident hk) 0) (score hk))) where
  peaks c := by
    rw [peak_insert hnew, Dict.getD, Dict.get?_set]
    split
    · next hc =>
        subst hc
        rw [Option.getD_some, h.peaks, max_comm]
    · rw [← Dict.getD, h.peaks]
  keys c := by
    rw [Finset.image_insert, Finset.mem_insert, ← h.keys c, Dict.mem_keys, Dict.mem_keys]
    simp only [Dict.get?_set]
    split
    · next hc => simp [hc]
    · next hc => simp [Ne.symm hc]

/-- The loop over any items with distinct hotkeys. -/
theorem best_of_items (ident : String → String) (score : String → ℚ) :
    ∀ {items : List (String × ℚ)}, (items.map Prod.fst).Nodup →
      (∀ row ∈ items, score row.1 = row.2) →
      BestOf ident score (items.map Prod.fst).toFinset
        (items.foldl (fun d row => d.set (ident row.1) (max (d.getD (ident row.1) 0) row.2))
          Dict.empty) := by
  intro items
  induction items using List.reverseRecOn with
  | nil =>
    refine fun _ _ => ⟨fun c => ?_, fun c => ?_⟩
    · rw [peak_eq_zero (by simp)]
      rfl
    · simp [Dict.keys, Dict.empty]
  | append_singleton items row ih =>
    intro hnd hscore
    rw [List.map_append, List.nodup_append] at hnd
    have hnew : row.1 ∉ (items.map Prod.fst).toFinset := by
      rw [List.mem_toFinset]
      intro hmem
      exact hnd.2.2 row.1 hmem row.1 (by simp) rfl
    have hprev := ih hnd.1 fun r hr => hscore r (List.mem_append_left _ hr)
    have hset : ((items ++ [row]).map Prod.fst).toFinset =
        insert row.1 (items.map Prod.fst).toFinset := by
      ext x
      simp
    rw [hset, List.foldl_append, List.foldl_cons, List.foldl_nil,
      ← hscore row (List.mem_append_right _ (List.mem_singleton.mpr rfl))]
    exact bestOf_insert hprev hnew

theorem best_of (ident : String → String) (scores : Dict String ℚ) :
    BestOf ident (fun hk => scores.getD hk 0) scores.keys.toFinset (bestByIdentity ident scores) := by
  refine best_of_items ident _ scores.nodup fun row hrow => ?_
  have hget := Dict.mem_items.mp hrow
  simp [Dict.getD, hget]

theorem total_best (ident : String → String) (scores : Dict String ℚ) :
    (bestByIdentity ident scores).total = bestTotal ident scores := by
  have h := best_of ident scores
  have hkeys : (bestByIdentity ident scores).keys.toFinset =
      scores.keys.toFinset.image ident := by
    ext c
    rw [List.mem_toFinset, h.keys]
  rw [← Dict.sumOn_true, Dict.sumOn_eq_sum, Finset.filter_true, hkeys, bestTotal, peakTotal]
  exact Finset.sum_congr rfl fun c _ => h.peaks c

/-- Grouping any hotkeys. -/
theorem groupHotkeys_spec (ident : String → String) (hotkeys : List String) :
    GroupedBy ident (groupHotkeys ident hotkeys) ∧
      ∀ c, c ∈ (groupHotkeys ident hotkeys).keys ↔ c ∈ hotkeys.toFinset.image ident := by
  induction hotkeys using List.reverseRecOn with
  | nil => exact ⟨groupedBy_empty ident, fun c => by simp [groupHotkeys, Dict.keys, Dict.empty]⟩
  | append_singleton hotkeys hk ih =>
    rw [groupHotkeys, List.foldl_append]
    refine ⟨ih.1.insertMember hk, fun c => ?_⟩
    rw [List.foldl_cons, List.foldl_nil, mem_keys_insertMember, ← groupHotkeys, ih.2]
    simp only [List.toFinset_append, Finset.mem_image, List.mem_toFinset, Finset.mem_union,
      List.mem_singleton]
    constructor
    · rintro (⟨x, hx, rfl⟩ | rfl)
      · exact ⟨x, Or.inl hx, rfl⟩
      · exact ⟨hk, Or.inr rfl, rfl⟩
    · rintro ⟨x, hx | rfl, rfl⟩
      · exact Or.inl ⟨x, hx, rfl⟩
      · exact Or.inr rfl

/-! ## The per-miner vector -/

/-- Scores by hotkey, of which each identity gets its best one. -/
def collapsed (b : BaseSettings) (ident : String → String) (scores : Dict String ℚ) :
    Dict String ℚ := splitScores b (bestByIdentity ident scores) (groupHotkeys ident scores.keys)

theorem isEmpty_best (ident : String → String) {scores : Dict String ℚ} :
    (bestByIdentity ident scores).isEmpty = scores.isEmpty := by
  rw [Bool.eq_iff_iff, Dict.isEmpty_iff, Dict.isEmpty_iff]
  have hkeys := (best_of ident scores).keys
  constructor
  · intro hempty hk
    refine Dict.get?_eq_none.mpr fun hmem => ?_
    have hident : ident hk ∈ (bestByIdentity ident scores).keys :=
      (hkeys _).mpr (Finset.mem_image.mpr ⟨hk, List.mem_toFinset.mpr hmem, rfl⟩)
    exact Dict.get?_eq_none.mp (hempty _) hident
  · intro hempty c
    refine Dict.get?_eq_none.mpr fun hmem => ?_
    obtain ⟨hk, hkmem, -⟩ := Finset.mem_image.mp ((hkeys c).mp hmem)
    exact Dict.get?_eq_none.mp (hempty hk) (List.mem_toFinset.mp hkmem)

variable {scores : Dict String ℚ}

/-- The best of positive scores is positive. -/
theorem top_best_pos (ident : String → String) (hpos : ∀ v ∈ scores.values, 0 < v) (hne : scores.isEmpty = false) :
    0 < top (bestByIdentity ident scores) := by
  have hbest := best_of ident scores
  obtain ⟨hmem, -⟩ := top_spec ((isEmpty_best ident).trans hne)
  obtain ⟨⟨c, w⟩, hitem, hw⟩ := List.mem_map.mp hmem
  have hget := Dict.mem_items.mp hitem
  have hkey := (hbest.keys c).mp (Dict.mem_keys.mpr ⟨w, hget⟩)
  have hvalue := hbest.peaks c
  rw [Dict.getD, hget, Option.getD_some] at hvalue
  rw [← hw, show (c, w).2 = w from rfl, hvalue]
  refine peak_pos (fun hk hhk => ?_) hkey
  obtain ⟨v, hv⟩ := Dict.mem_keys.mp (List.mem_toFinset.mp hhk)
  rw [Dict.getD, hv, Option.getD_some]
  exact hpos v (List.mem_map.mpr ⟨(hk, v), Dict.mem_items.mpr hv, rfl⟩)

/-- The share of an identity in the collapsed scores. -/
theorem share_collapsed (hexact : b.round6 = id) (hpos : ∀ v ∈ scores.values, 0 < v) (c : String) :
    share ident (collapsed b ident scores) c = bestOf ident scores c / bestTotal ident scores := by
  have hbest := best_of ident scores
  cases hempty : scores.isEmpty with
  | true =>
    have hsplit : collapsed b ident scores = Dict.empty := by
      rw [collapsed, splitScores, if_pos (Or.inl ((isEmpty_best ident).trans hempty))]
    have hnone : scores.keys.toFinset = ∅ := by
      rw [Dict.keys, List.isEmpty_iff.mp hempty]
      rfl
    rw [hsplit, share_empty, bestOf, hnone, peak_eq_zero (by simp), zero_div]
  | false =>
    have htop := top_best_pos ident hpos hempty
    have hne : ¬ ((bestByIdentity ident scores).isEmpty = true ∨
        top (bestByIdentity ident scores) ≤ 0) := by
      rw [isEmpty_best, hempty]
      simpa using htop
    obtain ⟨hgrouped, hkeys⟩ := groupHotkeys_spec ident scores.keys
    rw [collapsed, splitScores, if_neg hne,
      share_spread hgrouped ?_ (inv_ne_zero htop.ne') ?_ c, total_best, hbest.peaks, bestOf]
    · exact fun k hk => (hkeys k).mpr ((hbest.keys k).mp hk)
    · intro score count
      rw [evenPart, hexact, id, div_eq_inv_mul score]

theorem perminerTotals_pos (t : WorkTables) (since : Millis) :
    ∀ v ∈ (perminerTotals t since).values, 0 < v := by
  intro v hv
  obtain ⟨row, hrow, rfl⟩ := List.mem_map.mp hv
  simpa using (List.mem_filter.mp hrow).2

theorem perminerWindowScores_eq (b : BaseSettings) (t : WorkTables) (since : Millis)
    (ident : String → String) :
    perminerWindowScores b t since ident = collapsed b ident (perminerTotals t since) := rfl

/-- The collapsed scores are not negative. -/
theorem collapsed_nonneg (hexact : b.round6 = id) :
    ∀ v ∈ (collapsed b ident scores).values, 0 ≤ v := by
  intro v hv
  rw [collapsed, splitScores] at hv
  split at hv
  · exact absurd hv List.not_mem_nil
  · next hne =>
      rw [not_or, not_le] at hne
      rw [Dict.values, items_spread (groupHotkeys_spec ident scores.keys).1] at hv
      obtain ⟨row, hrow, rfl⟩ := List.mem_map.mp hv
      obtain ⟨⟨c, w⟩, hitem, hportion⟩ := List.mem_flatMap.mp hrow
      obtain ⟨hk, -, rfl⟩ := List.mem_map.mp hportion
      have hvalue := (best_of ident scores).peaks c
      rw [Dict.getD, Dict.mem_items.mp hitem, Option.getD_some] at hvalue
      have hw : 0 ≤ w := hvalue ▸ peak_nonneg _ _ _ _
      simp only [evenPart, hexact, id]
      exact div_nonneg (div_nonneg hw hne.2.le) (Nat.cast_nonneg _)

/-! ## The primary modes -/

/-- Adding the items of a dictionary adds its sums. -/
theorem share_addScores_empty (group : String → String) (d : Dict String ℚ) (c : String) :
    share group (addScores Dict.empty d) c = share group d c := by
  have hsum : ∀ (p : String → Prop) [DecidablePred p],
      (addScores Dict.empty d).sumOn p = d.sumOn p := by
    intro p _
    rw [addScores, Dict.sumOn_foldl_add, Dict.sumOn_empty, zero_add]
    rfl
  rw [share, share, hsum, ← Dict.sumOn_true, hsum, Dict.sumOn_true]

theorem total_addScores_empty (d : Dict String ℚ) : (addScores Dict.empty d).total = d.total := by
  rw [← Dict.sumOn_true, addScores, Dict.sumOn_foldl_add, Dict.sumOn_empty, zero_add,
    ← Dict.sumOn_true]
  rfl

/-- A positive sum has a positive term. -/
theorem top_pos_of_total_pos {d : Dict String ℚ} (h : 0 < d.total) :
    d.isEmpty = false ∧ 0 < top d := by
  have hne : d.isEmpty = false := by
    rw [Bool.eq_false_iff]
    intro hempty
    rw [Dict.total, Dict.values, List.isEmpty_iff.mp hempty] at h
    exact lt_irrefl _ h
  refine ⟨hne, ?_⟩
  by_contra hle
  have hvalues : ∀ v ∈ d.values, v ≤ 0 := fun v hv => ((top_spec hne).2 v hv).trans (not_lt.mp hle)
  have hsum : d.total ≤ d.values.length • (0 : ℚ) := List.sum_le_card_nsmul _ 0 hvalues
  rw [nsmul_zero] at hsum
  exact absurd h (not_lt.mpr hsum)

/-- Normalising by the top changes no share. -/
theorem share_topNormalized (hexact : b.round6 = id) (group : String → String)
    {d : Dict String ℚ} (h : 0 < d.total) (c : String) :
    share group (topNormalized b d) c = share group d c := by
  obtain ⟨hne, htop⟩ := top_pos_of_total_pos h
  have hscaled : topNormalized b d = d.mapItems fun _ v => (top d)⁻¹ * v := by
    rw [topNormalized, if_neg (by rw [hne]; simpa using htop)]
    simp only [hexact, id, div_eq_inv_mul]
  rw [hscaled, share_scale group d (inv_ne_zero htop.ne')]

/-- The base of the primary mode has the shares of the per-miner vector. -/
theorem share_applyPerminerPrimary (hexact : b.round6 = id) (group : String → String)
    (base pm : Dict String ℚ) (hpm : ∀ v ∈ pm.values, 0 ≤ v) (c : String) :
    share group (applyPerminerPrimary b base pm) c = share group pm c := by
  have hbase : budgeted base perminerPublicBaseline = Dict.empty := by
    have hzero : perminerPublicBaseline ≤ 0 := le_refl (0 : ℚ)
    rw [budgeted, if_pos (Or.inl hzero)]
  have htotal : (pm.values.map fun v => max 0 v).sum = pm.total := by
    rw [Dict.total]
    conv_rhs => rw [← List.map_id pm.values]
    exact congrArg List.sum (List.map_congr_left fun v hv => max_eq_right (hpm v hv))
  have hnonneg : 0 ≤ pm.total := List.sum_nonneg hpm
  rw [applyPerminerPrimary, hbase]
  rcases hnonneg.eq_or_lt with hzero | hpos
  · have hempty : budgeted pm (1 - perminerPublicBaseline) = Dict.empty := by
      simp only [budgeted, htotal, ← hzero, le_refl, or_true, if_true]
    rw [hempty, share, share, ← hzero, div_zero]
    exact share_empty group c
  · have hscaled : budgeted pm (1 - perminerPublicBaseline) =
        pm.mapItems fun _ v => pm.total⁻¹ * v := by
      have hneg : ¬ ((1 : ℚ) - perminerPublicBaseline ≤ 0 ∨ pm.total ≤ 0) := by
        rw [not_or]
        exact ⟨by decide +kernel, not_le.mpr hpos⟩
      simp only [budgeted, htotal, if_neg hneg]
      refine Dict.ext (List.map_congr_left ?_)
      rintro ⟨hk, v⟩ hitem
      have hv : 0 ≤ v := hpm v (List.mem_map.mpr ⟨_, hitem, rfl⟩)
      simp only [max_eq_right hv, perminerPublicBaseline, sub_zero, one_mul, div_eq_inv_mul]
    have hone : 0 < (addScores Dict.empty (pm.mapItems fun _ v => pm.total⁻¹ * v)).total := by
      rw [total_addScores_empty, total_mapItems_mul, inv_mul_cancel₀ hpos.ne']
      exact one_pos
    rw [hscaled, show addScores Dict.empty Dict.empty = Dict.empty from rfl,
      share_topNormalized hexact group hone, share_addScores_empty,
      share_scale group pm (inv_ne_zero hpos.ne')]

/-- Per-miner scoring is live in a mode in which it is the paying lane. -/
structure PaidByPerminer (b : BaseSettings) : Prop where
  primary : b.perminerMode.primary = true
  enabled : b.perminerEnabled = true
  live : b.perminerShadow = false

/-- With per-miner scoring live the composed scores are the window scores. -/
theorem perminerCompose_live (h : PaidByPerminer b) (t : WorkTables) (since : Millis)
    (ident : String → String) :
    perminerComposeScores b t since ident = some (perminerWindowScores b t since ident) := by
  simp only [perminerComposeScores, h.enabled, h.live, h.primary, not_true_eq_false, if_false,
    if_true, Bool.false_eq_true]
  split
  · rfl
  · next hempty =>
      rw [not_not] at hempty
      exact congrArg some (Dict.ext (List.isEmpty_iff.mp hempty)).symm

/-- The shares of the work vector are those of the window scores. -/
theorem share_composeWork (hexact : b.round6 = id) (h : PaidByPerminer b) {base : Dict String ℚ}
    (hwork : composeWork b t since coldkeyOf = .ok base) (c : String) :
    share (pmIdentOf b coldkeyOf) base c =
      bestOf (pmIdentOf b coldkeyOf) (perminerTotals t since) c /
        bestTotal (pmIdentOf b coldkeyOf) (perminerTotals t since) := by
  rw [← share_collapsed hexact (perminerTotals_pos t since), ← perminerWindowScores_eq]
  have hprimary := h.primary
  rw [composeWork, perminerCompose_live h] at hwork
  cases hmode : b.perminerMode with
  | bonus =>
    rw [hmode] at hprimary
    cases hprimary
  | assignedOnly =>
    simp only [hmode] at hwork
    cases hwork
    rfl
  | pmPrimary =>
    simp only [hmode] at hwork
    obtain ⟨shared, -, hwork⟩ := bind_eq_ok.mp hwork
    cases hwork
    exact share_applyPerminerPrimary hexact _ shared _ (collapsed_nonneg hexact) c

structure ExternalOff (s : ExternalSettings) : Prop where
  disabled : s.enabled = false
  mode : externalScoresMode s ≠ .ok .confidentialPrimary

theorem applyExternalScores_off (h : ExternalOff s) {base v : Dict String ℚ} {blend : BlendMeta}
    (happly : applyExternalScores b s reads ident now base = .ok (v, blend)) : v = base := by
  obtain ⟨mode, hmode, happly⟩ := bind_eq_ok.mp happly
  have hne : mode ≠ .confidentialPrimary := by
    rintro rfl
    exact h.mode hmode
  rw [if_neg hne, h.disabled, if_pos (by simp)] at happly
  cases happly
  rfl

/-- Further hotkeys with totals not above the best of their coldkey. -/
structure ClonesOf (ident : String → String) (totals totals' : Dict String ℚ) : Prop where
  kept : ∀ hk v, totals.get? hk = some v → totals'.get? hk = some v
  below : ∀ hk v, totals.get? hk = none → totals'.get? hk = some v →
    v ≤ bestOf ident totals (ident hk)

theorem best_clones {totals totals' : Dict String ℚ} (h : ClonesOf ident totals totals') :
    (∀ c, bestOf ident totals' c = bestOf ident totals c) ∧
      bestTotal ident totals' = bestTotal ident totals := by
  have hsub : totals.keys.toFinset ⊆ totals'.keys.toFinset := by
    intro hk hmem
    obtain ⟨v, hv⟩ := Dict.mem_keys.mp (List.mem_toFinset.mp hmem)
    exact List.mem_toFinset.mpr (Dict.mem_keys.mpr ⟨v, h.kept hk v hv⟩)
  have hsame : ∀ hk ∈ totals.keys.toFinset, totals'.getD hk 0 = totals.getD hk 0 := by
    intro hk hmem
    obtain ⟨v, hv⟩ := Dict.mem_keys.mp (List.mem_toFinset.mp hmem)
    rw [Dict.getD, Dict.getD, hv, h.kept hk v hv]
  have hle : ∀ hk ∈ totals'.keys.toFinset, hk ∉ totals.keys.toFinset →
      totals'.getD hk 0 ≤ peak totals.keys.toFinset ident (fun hk => totals.getD hk 0) (ident hk) := by
    intro hk hmem hnew
    obtain ⟨v, hv⟩ := Dict.mem_keys.mp (List.mem_toFinset.mp hmem)
    rw [List.mem_toFinset, ← Dict.get?_eq_none] at hnew
    rw [Dict.getD, hv, Option.getD_some]
    exact h.below hk v hnew hv
  exact ⟨peak_eq_of_dominated hsub hsame hle, peakTotal_eq_of_dominated hsub hsame hle⟩

/-- In exact arithmetic, where per-miner work is the paying lane and external scores are
off: a coldkey's share of a composed vector is the best total of its hotkeys over the sum
of the best totals. Other work changes no share, and neither do clones. -/
theorem perminer_shares (hexact : b.round6 = id) (hpaid : PaidByPerminer b) (hoff : ExternalOff s)
    {v : Dict String ℚ} {blend : BlendMeta}
    (h : composeScores b s reads t since coldkeyOf now = .ok (v, blend)) :
    (∀ c, share (pmIdentOf b coldkeyOf) v c =
      bestOf (pmIdentOf b coldkeyOf) (perminerTotals t since) c /
        bestTotal (pmIdentOf b coldkeyOf) (perminerTotals t since)) ∧
    (∀ t' reads' v' blend', t'.perMinerSolves = t.perMinerSolves →
      composeScores b s reads' t' since coldkeyOf now = .ok (v', blend') →
        ∀ c, share (pmIdentOf b coldkeyOf) v' c = share (pmIdentOf b coldkeyOf) v c) ∧
    ∀ t' reads' v' blend',
      ClonesOf (pmIdentOf b coldkeyOf) (perminerTotals t since) (perminerTotals t' since) →
        composeScores b s reads' t' since coldkeyOf now = .ok (v', blend') →
          ∀ c, share (pmIdentOf b coldkeyOf) v' c = share (pmIdentOf b coldkeyOf) v c := by
  have hshare : ∀ {t reads v blend}, composeScores b s reads t since coldkeyOf now = .ok (v, blend) →
      ∀ c, share (pmIdentOf b coldkeyOf) v c =
        bestOf (pmIdentOf b coldkeyOf) (perminerTotals t since) c /
          bestTotal (pmIdentOf b coldkeyOf) (perminerTotals t since) := by
    intro t reads v blend h c
    obtain ⟨base, hwork, happly⟩ := bind_eq_ok.mp h
    rw [applyExternalScores_off hoff happly]
    exact share_composeWork hexact hpaid hwork c
  refine ⟨hshare h, ?_, ?_⟩
  · intro t' reads' v' blend' hsame h' c
    have htotals : perminerTotals t' since = perminerTotals t since := by
      simp only [perminerTotals, hsame]
    rw [hshare h', hshare h, htotals]
  · intro t' reads' v' blend' hclones h' c
    obtain ⟨hbest, htotal⟩ := best_clones hclones
    rw [hshare h', hshare h, hbest, htotal]

/-! ## With external scores blended in -/

def perminerSettings (mode : PerminerMode) : BaseSettings where
  round6 := id
  postgres := false
  mode := .proportional
  rowScoreTaskTypes := []
  tierEntries := []
  tier2Mult := 3
  coldkeyCollapse := true
  perminerEnabled := true
  perminerShadow := false
  perminerMode := mode
  bonusMult := 1 / 5
  historyFloor := 1 / 4

/-- External scores of Violet at a given fraction, for any hotkey. -/
def violetSettings (enabled : Bool) (fraction : ℚ) : ExternalSettings where
  enabled := enabled
  source := "violet_audio"
  modeText := "blend"
  window := 3600000000
  fraction := .value fraction
  maxFraction := .unset
  baseWeight := .unset
  weight := .unset
  requireRegistered := false
  primaryConfirm := false
  payableMode := .off
  payableMaxAge := 600000000
  network := "finney"
  netuid := 39

def violetReport : ExternalReports.Report :=
  ExternalReports.finishReport ⟨none, none, 3600, 120, 4096, fun _ => "00"⟩
    { source := "violet_audio", mechanism := "violet_audio", epoch := 1, complete := some true,
      network := none, netuid := none, generatedAt := 0, metadata := .null
      scores := [⟨"V", none, 1, none, none, none, 0, none, .null⟩] } none

def violetReads : Reads where
  scoreEnv := ⟨none, none, 3600, 120, 4096, fun _ => "00"⟩
  scores := ExternalReports.writeReport .empty violetReport 0
  registration := none
  payableBase := none
  payableExternal := none
  payableFinal := none

/-- Two coldkeys, one of them with two hotkeys. -/
def minerMap : Dict String String := Dict.ofList [("A1", "ckA"), ("A2", "ckA"), ("B", "ckB")]

/-- Per-miner solves and a solve of the shared board. -/
def minerTables (solves : List ((String × String) × ℚ)) : WorkTables where
  laneSolves := [⟨"B", "sat-t1-b", 1⟩]
  laneChallenges := Dict.empty
  evalRuns := []
  perMinerSolves := Dict.ofList (solves.map fun row => (row.1, ⟨7, 2, 0, row.2, true, 1⟩))

def minerSolves : List ((String × String) × ℚ) :=
  [(("pm-1", "A1"), 3), (("pm-2", "A2"), 2), (("pm-3", "B"), 1)]

/-- The vector of the sample tables, in exact arithmetic. -/
def minerVector (mode : PerminerMode) (enabled : Bool) : Except Exc (Dict String ℚ × BlendMeta) :=
  composeScores (perminerSettings mode) (violetSettings enabled (1 / 4)) violetReads
    (minerTables minerSolves) 0 minerMap 0

/-- The share of a coldkey in it. -/
def minerShare (mode : PerminerMode) (enabled : Bool) (c : String) : Option ℚ :=
  (minerVector mode enabled).toOption.map fun vector =>
    share (pmIdentOf (perminerSettings mode) minerMap) vector.1 c

/-- Both coldkeys get their best totals, three to one. -/
theorem perminer_shares_three_to_one : ∃ v blend, minerVector .pmPrimary false = .ok (v, blend) ∧
    share (pmIdentOf (perminerSettings .pmPrimary) minerMap) v "ckA" = 3 / 4 := by
  have hsome : (minerVector .pmPrimary false).toOption.isSome = true := by decide +kernel
  obtain ⟨⟨v, blend⟩, hget⟩ := Option.isSome_iff_exists.mp hsome
  have hvector := toOption_eq_some.mp hget
  refine ⟨v, blend, hvector, ?_⟩
  rw [(perminer_shares rfl ⟨rfl, rfl, rfl⟩ ⟨rfl, by decide⟩ hvector).1]
  decide +kernel

/-- With a quarter of the mass for Violet a coldkey with three quarters of the best totals
gets nine sixteenths. -/
theorem external_blend_dilutes :
    minerShare .pmPrimary false "ckA" = some (3 / 4) ∧
    minerShare .pmPrimary true "ckA" = some (9 / 16) ∧
    minerShare .assignedOnly true "ckA" = some (9 / 16) ∧
    bestOf (pmIdentOf (perminerSettings .pmPrimary) minerMap)
        (perminerTotals (minerTables minerSolves) 0) "ckA" /
      bestTotal (pmIdentOf (perminerSettings .pmPrimary) minerMap)
        (perminerTotals (minerTables minerSolves) 0) = 3 / 4 :=
  ⟨by decide +kernel, by decide +kernel, by decide +kernel, by decide +kernel⟩

end Cathedral.Publisher.Weights
