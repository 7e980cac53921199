import Cathedral.Publisher.PerminerShares
import Cathedral.Publisher.SolveShares

/-!
# Cathedral.Publisher.PrimaryIndependence — confidential_primary ignores base work

In the mode `confidential_primary` the external step does not read its base, but the base
is composed first. The composed vector is therefore the same for any two ledgers, unless
composing the base of one of them divides by zero.
-/

namespace Cathedral.Publisher.Weights

open Coverage Groups
open ExternalReports (configuredScoreAudience latestReport latestSnapshotScores addScore)

variable {b : BaseSettings} {s : ExternalSettings} {reads : Reads} {t t' : WorkTables}
  {since : Millis} {now : ℤ} {coldkeyOf : Dict String String} {ident : String → String}

/-! ## When the base composes -/

/-- The weights of the identities that have solved something are not positive, and one of
them is zero. -/
def ZeroTop (b : BaseSettings) (ident : String → String) (rows : Finset (String × String)) : Prop :=
  (∀ c ∈ occupied ident rows, coverWeight ident (challengeWeight b) rows c ≤ 0) ∧
    ∃ c ∈ occupied ident rows, coverWeight ident (challengeWeight b) rows c = 0

/-- The identity composer runs and the highest identity weight is zero. -/
structure BaseFails (b : BaseSettings) (t : WorkTables) (since : Millis)
    (coldkeyOf : Dict String String) : Prop where
  shared : ¬ (b.perminerEnabled = true ∧ b.perminerShadow = false ∧ b.perminerMode = .assignedOnly)
  proportional : b.mode = .proportional
  identities : useColdkeys b coldkeyOf = true ∨ (sqlUnits b t since).isEmpty = true
  zeroTop : ZeroTop b (identOf b coldkeyOf) (counted t since)

/-- The values of the tally are the weights of its identities. -/
theorem TallyOf.mem_values {rows : Finset (String × String)} {tally : Tally}
    (h : TallyOf b ident rows tally) {v : ℚ} :
    v ∈ tally.scores.values ↔
      ∃ c ∈ occupied ident rows, coverWeight ident (challengeWeight b) rows c = v := by
  constructor
  · intro hv
    obtain ⟨⟨c, w⟩, hitem, rfl⟩ := List.mem_map.mp hv
    have hget := Dict.mem_items.mp hitem
    have hscore := h.scores c
    rw [Dict.getD, hget, Option.getD_some] at hscore
    exact ⟨c, (h.scoreKeys c).mp (Dict.mem_keys.mpr ⟨w, hget⟩), hscore.symm⟩
  · rintro ⟨c, hc, rfl⟩
    obtain ⟨w, hw⟩ := Dict.mem_keys.mp ((h.scoreKeys c).mpr hc)
    have hscore := h.scores c
    rw [Dict.getD, hw, Option.getD_some] at hscore
    exact hscore ▸ List.mem_map.mpr ⟨(c, w), Dict.mem_items.mpr hw, rfl⟩

theorem TallyOf.isEmpty_iff {rows : Finset (String × String)} {tally : Tally}
    (h : TallyOf b ident rows tally) :
    tally.scores.isEmpty = true ↔ occupied ident rows = ∅ := by
  rw [Dict.isEmpty_iff, Finset.eq_empty_iff_forall_notMem]
  exact forall_congr' fun c => by rw [Dict.get?_eq_none, h.scoreKeys]

/-- The division by the top fails exactly on such rows. -/
theorem TallyOf.zeroTop_iff {rows : Finset (String × String)} {tally : Tally}
    (h : TallyOf b ident rows tally) :
    tally.scores.isEmpty = false ∧ top tally.scores = 0 ↔ ZeroTop b ident rows := by
  constructor
  · rintro ⟨hne, htop⟩
    obtain ⟨hmem, hmax⟩ := top_spec hne
    rw [htop] at hmem hmax
    exact ⟨fun c hc => hmax _ (h.mem_values.mpr ⟨c, hc, rfl⟩), h.mem_values.mp hmem⟩
  · rintro ⟨hle, hzero⟩
    have hne : tally.scores.isEmpty = false := by
      rw [Bool.eq_false_iff, Ne, h.isEmpty_iff]
      obtain ⟨c, hc, -⟩ := hzero
      exact Finset.ne_empty_of_mem hc
    obtain ⟨hmem, hmax⟩ := top_spec hne
    obtain ⟨c, hc, hvalue⟩ := h.mem_values.mp hmem
    exact ⟨hne, le_antisymm (hvalue ▸ hle c hc) (hmax 0 (h.mem_values.mpr hzero))⟩

theorem sqlUnits_pos (b : BaseSettings) (t : WorkTables) (since : Millis) :
    ∀ v ∈ (sqlUnits b t since).values, 0 < v := by
  intro v hv
  obtain ⟨row, hrow, rfl⟩ := List.mem_map.mp hv
  simpa using (List.mem_filter.mp hrow).2

/-- The SQL composer finds nothing exactly when no hotkey has positive units. -/
theorem isEmpty_sql (b : BaseSettings) (t : WorkTables) (since : Millis) :
    (composeProportionalHotkeySql b t since).isEmpty = (sqlUnits b t since).isEmpty := by
  rw [composeProportionalHotkeySql, topNormalized]
  cases hempty : (sqlUnits b t since).isEmpty with
  | true => rfl
  | false =>
    have htop := sqlUnits_pos b t since _ (top_spec hempty).1
    rw [if_neg (by simpa using htop), ← hempty]
    simp [Dict.isEmpty, Dict.mapItems]

theorem composeProportional_error (h : ZeroTop b ident (counted t since)) {useCk : Bool}
    (hidentities : useCk = true ∨ (sqlUnits b t since).isEmpty = true) :
    composeProportional b t since ident useCk = .error .zeroDivisionError := by
  have htally : TallyOf b ident (counted t since) _ := tally_of b ident (countedSolves t since)
  obtain ⟨hne, htop⟩ := htally.zeroTop_iff.mpr h
  have hsql : ¬ (¬ useCk = true ∧ ¬ (composeProportionalHotkeySql b t since).isEmpty = true) := by
    rw [isEmpty_sql]
    tauto
  simp only [composeProportional, if_neg hsql, hne, Bool.false_eq_true, if_false, htop, if_true]

theorem composeProportional_ok {useCk : Bool}
    (h : ¬ ((useCk = true ∨ (sqlUnits b t since).isEmpty = true) ∧
      ZeroTop b ident (counted t since))) :
    ∃ base, composeProportional b t since ident useCk = .ok base := by
  have htally : TallyOf b ident (counted t since) _ := tally_of b ident (countedSolves t since)
  simp only [composeProportional]
  split
  · exact ⟨_, rfl⟩
  · next hsql =>
      rw [isEmpty_sql] at hsql
      have hidentities : useCk = true ∨ (sqlUnits b t since).isEmpty = true := by tauto
      split
      · exact ⟨_, rfl⟩
      · next hne =>
          rw [Bool.not_eq_true] at hne
          split
          · next htop => exact absurd ⟨hidentities, htally.zeroTop_iff.mp ⟨hne, htop⟩⟩ h
          · exact ⟨_, rfl⟩

theorem composeBase_ok_iff (b : BaseSettings) (t : WorkTables) (since : Millis)
    (coldkeyOf : Dict String String) :
    (∃ base, composeBase b t since (identOf b coldkeyOf) (useColdkeys b coldkeyOf) = .ok base) ↔
      ¬ (b.mode = .proportional ∧
        (useColdkeys b coldkeyOf = true ∨ (sqlUnits b t since).isEmpty = true) ∧
          ZeroTop b (identOf b coldkeyOf) (counted t since)) := by
  cases hmode : b.mode with
  | flatRecent => simp [composeBase, hmode]
  | rowScoreRecent => simp [composeBase, hmode]
  | proportional =>
    constructor
    · rintro ⟨base, hbase⟩ ⟨-, hidentities, hzero⟩
      simp only [composeBase, hmode, composeProportional_error hzero hidentities] at hbase
      cases hbase
    · intro hnot
      obtain ⟨found, hfound⟩ := composeProportional_ok (b := b) (t := t) fun h => hnot ⟨rfl, h⟩
      simp only [composeBase, hmode, hfound]
      cases found with
      | none => exact ⟨_, rfl⟩
      | some base => exact ⟨_, rfl⟩

/-- Outside the assigned-only lane the work part needs the base. -/
theorem composeWork_ok_iff_base
    (h : ¬ (b.perminerEnabled = true ∧ b.perminerShadow = false ∧ b.perminerMode = .assignedOnly)) :
    (∃ base, composeWork b t since coldkeyOf = .ok base) ↔
      ∃ base, composeBase b t since (identOf b coldkeyOf) (useColdkeys b coldkeyOf) = .ok base := by
  have hassigned : b.perminerMode = .assignedOnly →
      perminerComposeScores b t since (pmIdentOf b coldkeyOf) = none := by
    intro hmode
    unfold perminerComposeScores
    split
    · rfl
    · next henabled =>
        rw [not_not] at henabled
        have hshadow : b.perminerShadow = true := by
          by_contra hlive
          exact h ⟨henabled, by simpa using hlive, hmode⟩
        simp [hshadow]
  unfold composeWork
  generalize composeBase b t since (identOf b coldkeyOf) (useColdkeys b coldkeyOf) = composed
  cases hpm : perminerComposeScores b t since (pmIdentOf b coldkeyOf) with
  | none => cases composed <;> simp [bind, Except.bind]
  | some pm =>
    cases hmode : b.perminerMode with
    | assignedOnly => exact absurd (hassigned hmode) (by simp [hpm])
    | bonus => cases composed <;> simp [bind, Except.bind]
    | pmPrimary => cases composed <;> simp [bind, Except.bind]

/-- The work part of `compose_scores` returns exactly when the base does not fail. -/
theorem composeWork_ok_iff (b : BaseSettings) (t : WorkTables) (since : Millis)
    (coldkeyOf : Dict String String) :
    (∃ base, composeWork b t since coldkeyOf = .ok base) ↔ ¬ BaseFails b t since coldkeyOf := by
  by_cases hshared :
      b.perminerEnabled = true ∧ b.perminerShadow = false ∧ b.perminerMode = .assignedOnly
  · refine iff_of_true ?_ fun hfails => hfails.shared hshared
    obtain ⟨henabled, hlive, hmode⟩ := hshared
    have hpaid : PaidByPerminer b := ⟨by rw [hmode]; rfl, henabled, hlive⟩
    refine ⟨perminerWindowScores b t since (pmIdentOf b coldkeyOf), ?_⟩
    simp only [composeWork, perminerCompose_live hpaid, hmode]
  · rw [composeWork_ok_iff_base hshared, composeBase_ok_iff]
    apply not_congr
    constructor
    · rintro ⟨hmode, hidentities, hzero⟩
      exact ⟨hshared, hmode, hidentities, hzero⟩
    · intro hfails
      exact ⟨hfails.proportional, hfails.identities, hfails.zeroTop⟩

/-! ## The primary vector -/

theorem l1Normalize_spec {d : Dict String ℚ} (h : (l1Normalize d).isEmpty = false) :
    (∀ v ∈ (l1Normalize d).values, 0 < v) ∧ (l1Normalize d).total = 1 ∧
      ∀ hk ∈ (l1Normalize d).keys, hk ∈ d.keys := by
  unfold l1Normalize at h ⊢
  simp only at h ⊢
  split at h
  · simp [Dict.isEmpty, Dict.empty] at h
  · next htotal =>
      rw [if_neg htotal]
      rw [not_le] at htotal
      refine ⟨fun v hv => ?_, ?_, fun hk hmem => ?_⟩
      · obtain ⟨row, hrow, rfl⟩ := List.mem_map.mp hv
        obtain ⟨⟨hk, w⟩, hitem, rfl⟩ := List.mem_map.mp hrow
        have hw : 0 < w := by simpa using (List.mem_filter.mp hitem).2
        exact div_pos hw htotal
      · simp only [div_eq_inv_mul]
        rw [total_mapItems_mul, inv_mul_cancel₀ htotal.ne']
      · obtain ⟨row, hrow, rfl⟩ := List.mem_map.mp hmem
        obtain ⟨⟨hk, w⟩, hitem, rfl⟩ := List.mem_map.mp hrow
        exact List.mem_map.mpr ⟨(hk, w), (List.mem_filter.mp hitem).1, rfl⟩

theorem mem_keepHotkeys {hotkeys : List String} {d : Dict String ℚ} {hk : String}
    (h : hk ∈ (keepHotkeys hotkeys d).keys) : hk ∈ hotkeys ∧ hk ∈ d.keys := by
  obtain ⟨⟨hk', w⟩, hitem, rfl⟩ := List.mem_map.mp h
  obtain ⟨hmem, hkeep⟩ := List.mem_filter.mp hitem
  exact ⟨by simpa using hkeep, List.mem_map.mpr ⟨(hk', w), hmem, rfl⟩⟩

theorem mem_groupHotkeys {hotkeys : List String} {c hk : String}
    (h : hk ∈ (groupHotkeys ident hotkeys).getD c []) : hk ∈ hotkeys := by
  induction hotkeys using List.reverseRecOn with
  | nil => exact absurd h List.not_mem_nil
  | append_singleton hotkeys last ih =>
    rw [groupHotkeys, List.foldl_append, List.foldl_cons, List.foldl_nil,
      mem_getD_insertMember] at h
    rcases h with hold | ⟨-, rfl⟩
    · exact List.mem_append_left _ (ih hold)
    · exact List.mem_append_right _ (List.mem_singleton.mpr rfl)

/-- The split scores only hotkeys that were scored. -/
theorem mem_collapsed {scores : Dict String ℚ} {hk : String}
    (h : hk ∈ (collapsed b ident scores).keys) : hk ∈ scores.keys := by
  rw [collapsed, splitScores] at h
  split at h
  · exact absurd h List.not_mem_nil
  · rw [Dict.keys, items_spread (groupHotkeys_spec ident scores.keys).1] at h
    obtain ⟨row, hrow, rfl⟩ := List.mem_map.mp h
    obtain ⟨score, -, hportion⟩ := List.mem_flatMap.mp hrow
    obtain ⟨hk, hhk, rfl⟩ := List.mem_map.mp hportion
    exact mem_groupHotkeys hhk

/-- The hotkey has a positive score in the latest report of the source, and this report is
fresh and complete. -/
def InSnapshot (s : ExternalSettings) (reads : Reads) (now : ℤ) (hk : String) : Prop :=
  ∃ audience id row, configuredScoreAudience reads.scoreEnv s.source = .ok audience ∧
    latestReport reads.scores s.source audience = some (id, row) ∧
    (now - s.window) / 1000 < row.generatedAt ∧ row.reportJson.complete = some true ∧
    ∃ entry x, reads.scores.entries.get? (id, hk) = some entry ∧ entry.source = s.source ∧
      entry.score = .finite x ∧ 0 < x

/-- The loop over the entries of a report keeps scores above 0 and up to 1, each from a
positive entry. -/
theorem addScores_spec {source : String} {scores : Dict String ℚ} :
    ∀ {rows : List ((String × String) × ExternalReports.EntryRow)},
      rows.foldlM (addScore source) Dict.empty = .ok scores → ∀ {hk : String} {w : ℚ},
        scores.get? hk = some w → 0 < w ∧ w ≤ 1 ∧
          ∃ row ∈ rows, row.1.2 = hk ∧ ∃ x, row.2.score = .finite x ∧ 0 < x := by
  intro rows
  induction rows using List.reverseRecOn generalizing scores with
  | nil =>
    intro h hk w hget
    cases h
    cases hget
  | append_singleton rows last ih =>
    intro h hk w hget
    rw [List.foldlM_append] at h
    obtain ⟨before, hbefore, hlast⟩ := bind_eq_ok.mp h
    obtain ⟨after, hlast, hafter⟩ := bind_eq_ok.mp hlast
    cases hafter
    have hold : before.get? hk = some w → 0 < w ∧ w ≤ 1 ∧ ∃ row ∈ rows ++ [last],
        row.1.2 = hk ∧ ∃ x, row.2.score = .finite x ∧ 0 < x := fun hget => by
      obtain ⟨hpos, hle, row, hrow, hof⟩ := ih hbefore hget
      exact ⟨hpos, hle, row, List.mem_append_left _ hrow, hof⟩
    unfold addScore at hlast
    split at hlast
    · next x hx =>
        split at hlast
        · cases hlast
        · split at hlast
          · next hpos =>
              cases hlast
              rw [Dict.get?_set] at hget
              split at hget
              · next heq =>
                  cases hget
                  have hmax : max 0 x = x := max_eq_right hpos.le
                  exact ⟨hmax.symm ▸ lt_min one_pos hpos, min_le_left _ _, last,
                    List.mem_append_right _ (List.mem_singleton.mpr rfl), heq, x, hx, hpos⟩
              · exact hold hget
          · cases hlast
            exact hold hget
    · split at hlast
      · cases hlast
      · cases hlast
        exact hold hget

/-- The snapshot scores hotkeys of the latest complete fresh report, above 0 and up to 1. -/
theorem latestSnapshotScores_spec {raw : Dict String ℚ}
    (h : latestSnapshotScores reads.scoreEnv reads.scores s.source s.window now = .ok (some raw))
    {hk : String} {w : ℚ} (hget : raw.get? hk = some w) :
    0 < w ∧ w ≤ 1 ∧ InSnapshot s reads now hk := by
  unfold latestSnapshotScores at h
  obtain ⟨audience, haudience, h⟩ := bind_eq_ok.mp h
  split at h
  · cases h
  · next id row hlatest =>
      split at h
      · cases h
      · next hfresh =>
          split at h
          · cases h
          · split at h
            · cases h
            · next hcomplete =>
                obtain ⟨scores, hscores, hsome⟩ := bind_eq_ok.mp h
                cases hsome
                obtain ⟨hpos, hle, ⟨⟨id', hk'⟩, entry⟩, hrow, rfl, x, hx, hxpos⟩ :=
                  addScores_spec hscores hget
                obtain ⟨hmem, hof⟩ := List.mem_filter.mp hrow
                simp only [Bool.and_eq_true, decide_eq_true_eq] at hof
                obtain ⟨rfl, hsource⟩ := hof
                exact ⟨hpos, hle, audience, id', row, haudience, hlatest, not_le.mp hfresh,
                  not_not.mp hcomplete, entry, x, Dict.mem_items.mp hmem, hsource, hx, hxpos⟩

/-- The external vector always composes, of hotkeys of the snapshot. -/
theorem composeExternalScores_spec (b : BaseSettings) (s : ExternalSettings) (reads : Reads)
    (ident : String → String) (now : ℤ) :
    ∃ ext, composeExternalScores b s reads ident now = .ok ext ∧
      ∀ hk ∈ ext.keys, InSnapshot s reads now hk := by
  have hempty : ∀ hk ∈ (Dict.empty : Dict String ℚ).keys, InSnapshot s reads now hk :=
    fun _ hmem => absurd hmem List.not_mem_nil
  unfold composeExternalScores
  split
  · exact ⟨_, rfl, hempty⟩
  · split
    · exact ⟨_, rfl, hempty⟩
    · exact ⟨_, rfl, hempty⟩
    · next raw hraw =>
        have hstrict : ¬ (s.source ∈ globalCapSources ∧
            (raw.values.any fun score => decide (score < 0) || decide (1 < score)) = true) := by
          rintro ⟨-, hany⟩
          obtain ⟨w, hw, hout⟩ := List.any_eq_true.mp hany
          obtain ⟨⟨hk, w⟩, hitem, rfl⟩ := List.mem_map.mp hw
          obtain ⟨hpos, hle, -⟩ := latestSnapshotScores_spec hraw (Dict.mem_items.mp hitem)
          simp [not_lt.mpr hpos.le, not_lt.mpr hle] at hout
        refine ⟨collapsed b ident (raw.filterItems fun _ score => 0 < score), ?_, fun hk hmem => ?_⟩
        · simp only [identityCollapseScores, decide_eq_true_eq]
          rw [if_neg hstrict, collapsed]
        · obtain ⟨⟨hk', w⟩, hitem, rfl⟩ := List.mem_map.mp (mem_collapsed hmem)
          have hget := Dict.mem_items.mp (List.mem_filter.mp hitem).1
          exact (latestSnapshotScores_spec hraw hget).2.2

/-- A vector of confidential_primary: positive weights of sum one over hotkeys of the
snapshot that pass the filters in force. -/
structure PrimaryVector (s : ExternalSettings) (reads : Reads) (now : ℤ) (v : Dict String ℚ) :
    Prop where
  positive : ∀ w ∈ v.values, 0 < w
  total : v.total = 1
  snapshot : ∀ hk ∈ v.keys, InSnapshot s reads now hk
  registered : s.requireRegistered = true → ∃ registered,
    loadFreshMetagraphHotkeys s now reads.registration = some registered ∧
      ∀ hk ∈ v.keys, hk ∈ registered
  payable : s.payableMode = .filter → ∀ payable,
    loadFreshMetagraphHotkeys s now reads.payableExternal = some payable →
      ∀ hk ∈ v.keys, hk ∈ payable

theorem primaryRegistered_spec {ext kept : Dict String ℚ}
    (h : primaryRegistered s reads now ext = .ok kept) :
    (∀ hk ∈ kept.keys, hk ∈ ext.keys) ∧ (s.requireRegistered = true → ∃ registered,
      loadFreshMetagraphHotkeys s now reads.registration = some registered ∧
        ∀ hk ∈ kept.keys, hk ∈ registered) := by
  unfold primaryRegistered at h
  split at h
  · next hoff =>
      cases h
      exact ⟨fun _ hmem => hmem, fun hon => absurd hon hoff⟩
  · split at h
    · cases h
    · next registered hload =>
        simp only at h
        split at h
        · cases h
        · cases h
          exact ⟨fun hk hmem => (mem_keepHotkeys hmem).2, fun _ => ⟨registered, hload,
            fun hk hmem => (mem_keepHotkeys hmem).1⟩⟩

theorem primaryPayable_spec {ext kept : Dict String ℚ}
    (h : primaryPayable s reads now ext = .ok kept) :
    (∀ hk ∈ kept.keys, hk ∈ ext.keys) ∧ (s.payableMode = .filter → ∀ payable,
      loadFreshMetagraphHotkeys s now reads.payableExternal = some payable →
        ∀ hk ∈ kept.keys, hk ∈ payable) := by
  unfold primaryPayable at h
  split at h
  · next hoff =>
      cases h
      exact ⟨fun _ hmem => hmem, fun hon => absurd hon hoff⟩
  · next hon =>
      rw [not_not] at hon
      simp only at h
      split at h
      · cases h
      · cases h
        simp only [applyPayableHotkeyPolicy, hon]
        cases hload : loadFreshMetagraphHotkeys s now reads.payableExternal with
        | none => exact ⟨fun _ hmem => hmem, fun _ payable hsome => by cases hsome⟩
        | some payable =>
          refine ⟨fun hk hmem => (mem_keepHotkeys hmem).2, fun _ payable' hsome hk hmem => ?_⟩
          cases hsome
          exact (mem_keepHotkeys hmem).1

theorem primaryScores_vector {status : Bool × Bool} {ext v : Dict String ℚ}
    (hext : ∀ hk ∈ ext.keys, InSnapshot s reads now hk)
    (h : primaryScores s reads now status ext = .ok v) : PrimaryVector s reads now v := by
  unfold primaryScores at h
  split at h
  · cases h
  · obtain ⟨registered, hregistered, h⟩ := bind_eq_ok.mp h
    obtain ⟨payable, hpayable, h⟩ := bind_eq_ok.mp h
    simp only at h
    split at h
    · cases h
    · next hne =>
        cases h
        obtain ⟨hpos, htotal, hkeys⟩ := l1Normalize_spec (by simpa using hne)
        obtain ⟨hsub, hreg⟩ := primaryRegistered_spec hregistered
        obtain ⟨hsub', hpay⟩ := primaryPayable_spec hpayable
        refine ⟨hpos, htotal, fun hk hmem => ?_, fun hon => ?_, fun hon payable' hload hk hmem => ?_⟩
        · exact hext hk (hsub hk (hsub' hk (hkeys hk hmem)))
        · obtain ⟨hotkeys, hload, hall⟩ := hreg hon
          exact ⟨hotkeys, hload, fun hk hmem => hall hk (hsub' hk (hkeys hk hmem))⟩
        · exact hpay hon payable' hload hk (hkeys hk hmem)

/-! ## Independence -/

/-- What confidential_primary returns: a primary vector, or an empty one and the reason. -/
structure PrimaryOutcome (s : ExternalSettings) (reads : Reads) (now : ℤ) (v : Dict String ℚ)
    (blend : BlendMeta) : Prop where
  vector : v.isEmpty = false → PrimaryVector s reads now v
  reason : v.isEmpty = true → ∃ found why, blend.confidentialPrimary = some found ∧
    found.degradationReason = some why

theorem PrimaryOutcome.degraded (s : ExternalSettings) (reads : Reads) (now : ℤ)
    (status : Bool × Bool) (why : String) :
    PrimaryOutcome s reads now Dict.empty { BlendMeta.none with
      confidentialPrimary := some ⟨status.1, status.2, some why⟩ } where
  vector h := absurd h (by decide)
  reason _ := ⟨_, why, rfl, rfl⟩

/-- A vector of sum one is not empty. -/
theorem PrimaryVector.isEmpty {v : Dict String ℚ} (h : PrimaryVector s reads now v) :
    v.isEmpty = false := by
  by_contra hempty
  have hitems : v.items = [] := by simpa [Dict.isEmpty] using hempty
  have htotal := h.total
  simp [Dict.total, Dict.values, hitems] at htotal

/-- The primary composer always returns. -/
theorem applyConfidentialPrimary_outcome (b : BaseSettings) (s : ExternalSettings) (reads : Reads)
    (ident : String → String) (now : ℤ) :
    ∃ v blend, applyConfidentialPrimary b s reads ident now = .ok (v, blend) ∧
      PrimaryOutcome s reads now v blend := by
  obtain ⟨ext, hext, hsnapshot⟩ := composeExternalScores_spec b s reads ident now
  simp only [applyConfidentialPrimary]
  split
  · exact ⟨_, _, rfl, .degraded s reads now (false, false) _⟩
  · split
    · exact ⟨_, _, rfl, .degraded s reads now (primaryStatus s reads now) _⟩
    · rw [hext]
      cases hscores : primaryScores s reads now (primaryStatus s reads now) ext with
      | error why =>
        refine ⟨_, _, ?_, .degraded s reads now (primaryStatus s reads now) why⟩
        simp only [bind, Except.bind, hscores]
      | ok v =>
        have hvector := primaryScores_vector hsnapshot hscores
        refine ⟨v, { BlendMeta.none with confidentialPrimary := some ⟨true, true, none⟩ }, ?_,
          fun _ => hvector, fun hempty => ?_⟩
        · simp only [bind, Except.bind, hscores]
        · exact absurd hempty (by rw [hvector.isEmpty]; decide)

/-- confidential_primary for the confidential source, confirmed. -/
def primarySettings : ExternalSettings where
  enabled := true
  source := "cathedral_confidential_tdx"
  modeText := "confidential_primary"
  window := 3600000000
  fraction := .unset
  maxFraction := .unset
  baseWeight := .unset
  weight := .unset
  requireRegistered := false
  primaryConfirm := true
  payableMode := .off
  payableMaxAge := 600000000
  network := "finney"
  netuid := 39

def primaryEnv : ExternalReports.ScoreEnv ExternalReports.Content :=
  ⟨some "finney", some "39", 3600, 120, 4096, fun _ => "00"⟩

/-- A complete report that scores two hotkeys. -/
def primaryReport : ExternalReports.Report :=
  ExternalReports.finishReport primaryEnv
    { source := "cathedral_confidential_tdx", mechanism := "tdx", epoch := 1, complete := some true,
      network := some "finney", netuid := some 39, generatedAt := 0, metadata := .null
      scores := [⟨"V", none, 1, none, none, none, 0, none, .null⟩,
        ⟨"W", none, 1 / 2, none, none, none, 0, none, .null⟩] } none

def primaryReads : Reads where
  scoreEnv := primaryEnv
  scores := ExternalReports.writeReport .empty primaryReport 0
  registration := none
  payableBase := none
  payableExternal := none
  payableFinal := none

/-- The vector for some lane solves, under a tier-2 multiplier. -/
def primaryVector (tier2Mult : ℚ) (solves : List LaneSolve) :
    Except Exc (Dict String ℚ × BlendMeta) :=
  composeScores (sampleSettings tier2Mult) primarySettings primaryReads
    ⟨solves, Dict.empty, [], Dict.empty⟩ 0 pairMap 0

end Cathedral.Publisher.Weights
