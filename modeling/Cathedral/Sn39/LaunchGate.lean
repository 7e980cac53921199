import Cathedral.Sn39.Allocation

/-!
# Cathedral.Sn39.LaunchGate — the two derivations of the launch allocation

The launch gate compares the UID weights of the signed vector with the weights
that `_provenance_uid_weights` derives from the recomputed shares, and admits no
difference above 1e-12. Both derivations accept shares whose sum is off from one
by up to 1e-9, and they treat the difference differently: the first normalises
the shares and then adds the burn percentage, the second adds the burn fraction
and then normalises.

`derivations_agree_iff` says for which vectors the comparison succeeds.
-/

namespace Cathedral.Sn39

/-- The hotkeys of a metagraph have distinct uids. -/
def UidsInjective (hotkeyToUid : Dict String ℤ) : Prop :=
  ∀ h h' uid, hotkeyToUid.get? h = some uid → hotkeyToUid.get? h' = some uid → h = h'

/-! ## Shares by uid -/

section Shares

variable {hotkeyToUid : Dict String ℤ} {shares shares' : List (String × ℚ)} {burnUid : ℤ}

/-- The shares of the hotkeys under their uids. -/
def sharesByUid (hotkeyToUid : Dict String ℤ) (shares : List (String × ℚ)) : Dict ℤ ℚ :=
  Dict.ofList (mappedSigned hotkeyToUid shares)

def shareTotal (shares : List (String × ℚ)) : ℚ := (shares.map Prod.snd).sum

theorem nodup_mappedSigned (hinjective : UidsInjective hotkeyToUid)
    (hnodup : (shares.map Prod.fst).Nodup) :
    ((mappedSigned hotkeyToUid shares).map Prod.fst).Nodup := by
  have hfst : (mappedSigned hotkeyToUid shares).map Prod.fst =
      (shares.map Prod.fst).filterMap hotkeyToUid.get? := by
    simp [mappedSigned, List.map_filterMap, List.filterMap_map, Function.comp_def]
  rw [hfst]
  exact hnodup.filterMap fun h h' uid hu hu' => hinjective h h' uid hu hu'

/-- The mapping loop of the signed shares. -/
theorem mapPrimary_shares (hinjective : UidsInjective hotkeyToUid)
    (hnodup : (shares.map Prod.fst).Nodup) (burn : Option ℤ) {scores : Dict ℤ ℚ} :
    shares.foldlM (mapPrimary hotkeyToUid burn) ∅ = .ok scores ↔
      MapsClear hotkeyToUid burn shares ∧ scores = sharesByUid hotkeyToUid shares := by
  have hempty : (∅ : Dict ℤ ℚ).keys.Nodup := List.nodup_nil
  rw [mapPrimary_foldlM hempty]
  have hall : ((∅ : Dict ℤ ℚ).keys ++ (mappedSigned hotkeyToUid shares).map Prod.fst).Nodup :=
    nodup_mappedSigned hinjective hnodup
  simp only [hall, true_and]
  rfl

theorem snd_mappedSigned (h : MapsClear hotkeyToUid (some burnUid) shares) :
    (mappedSigned hotkeyToUid shares).map Prod.snd = shares.map Prod.snd := by
  induction shares with
  | nil => rfl
  | cons share rest ih =>
    rcases h share (List.mem_cons_self ..) with ⟨uid, hget, -⟩
    have hrest := ih fun s hs => h s (List.mem_cons_of_mem _ hs)
    simp only [mappedSigned] at hrest ⊢
    simp [hget, hrest]

theorem mem_keys_sharesByUid {uid : ℤ} : uid ∈ (sharesByUid hotkeyToUid shares).keys ↔
    ∃ share ∈ shares, hotkeyToUid.get? share.1 = some uid := by
  rw [sharesByUid, Dict.mem_keys_ofList, mappedSigned, List.map_filterMap, List.mem_filterMap]
  simp

theorem burn_notMem_sharesByUid (h : MapsClear hotkeyToUid (some burnUid) shares) :
    burnUid ∉ (sharesByUid hotkeyToUid shares).keys := by
  rw [mem_keys_sharesByUid]
  rintro ⟨share, hshare, hget⟩
  rcases h share hshare with ⟨uid, hget', hne⟩
  rw [hget] at hget'
  cases hget'
  exact hne rfl

theorem total_sharesByUid (hinjective : UidsInjective hotkeyToUid)
    (hnodup : (shares.map Prod.fst).Nodup) (h : MapsClear hotkeyToUid (some burnUid) shares) :
    (sharesByUid hotkeyToUid shares).total = shareTotal shares := by
  rw [Dict.total, Dict.values, sharesByUid, Dict.items_ofList (nodup_mappedSigned hinjective hnodup),
    snd_mappedSigned h, shareTotal]

/-- No share lies on the burn uid. -/
theorem sumOn_sharesByUid (hinjective : UidsInjective hotkeyToUid)
    (hnodup : (shares.map Prod.fst).Nodup) (h : MapsClear hotkeyToUid (some burnUid) shares) :
    ((sharesByUid hotkeyToUid shares).sumOn fun uid => some uid ≠ some burnUid) =
      shareTotal shares := by
  rw [← total_sharesByUid hinjective hnodup h, Dict.sumOn, Dict.total, Dict.values,
    List.filter_eq_self.mpr]
  intro kv hkv
  have hkey : kv.1 ∈ (sharesByUid hotkeyToUid shares).keys := List.mem_map_of_mem hkv
  have hne : kv.1 ≠ burnUid := by
    rintro rfl
    exact burn_notMem_sharesByUid h hkey
  simpa using hne

/-- The order of the shares does not matter. -/
theorem get?_sharesByUid_perm (hinjective : UidsInjective hotkeyToUid)
    (hnodup : (shares.map Prod.fst).Nodup) (hperm : shares'.Perm shares) (uid : ℤ) :
    (sharesByUid hotkeyToUid shares').get? uid = (sharesByUid hotkeyToUid shares).get? uid := by
  have hnodup' : (shares'.map Prod.fst).Nodup := (hperm.map Prod.fst).nodup_iff.mpr hnodup
  refine Dict.get?_congr_of_perm ?_ uid
  rw [sharesByUid, sharesByUid, Dict.items_ofList (nodup_mappedSigned hinjective hnodup'),
    Dict.items_ofList (nodup_mappedSigned hinjective hnodup)]
  exact hperm.filterMap _

theorem sharesByUid_bounds (hotkeyToUid : Dict String ℤ) (hpos : ∀ share ∈ shares, 0 < share.2) (uid : ℤ) :
    0 ≤ (sharesByUid hotkeyToUid shares).getD uid 0 ∧
      (sharesByUid hotkeyToUid shares).getD uid 0 ≤ shareTotal shares := by
  have hnonneg : ∀ x ∈ shares.map Prod.snd, 0 ≤ x := by
    intro x hx
    rcases List.mem_map.mp hx with ⟨share, hshare, rfl⟩
    exact (hpos share hshare).le
  cases hget : (sharesByUid hotkeyToUid shares).get? uid with
  | none =>
    simp only [Dict.getD, hget, Option.getD_none]
    exact ⟨le_refl _, List.sum_nonneg hnonneg⟩
  | some w =>
    simp only [Dict.getD, hget, Option.getD_some]
    have hmem := Dict.mem_of_get?_ofList hget
    rcases List.mem_filterMap.mp hmem with ⟨share, hshare, hmap⟩
    rcases Option.map_eq_some_iff.mp hmap with ⟨u, -, heq⟩
    cases heq
    exact ⟨(hpos share hshare).le,
      List.single_le_sum hnonneg _ (List.mem_map_of_mem hshare)⟩

end Shares

/-! ## The recomputed shares -/

/-- The positive recomputed shares, in the order of the hotkeys. -/
def positiveShares (recomputed : List (String × PyFloat)) : List (String × ℚ) :=
  (recomputed.map fun share => (share.1, finiteOf share.2)).filter fun share => share.2 ≠ 0

/-- The loop of `_provenance_uid_weights` maps the positive shares as the signed
vector's loop does, and adds them up. -/
theorem provenanceScore_foldlM {hotkeyToUid : Dict String ℤ} {burnUid : ℤ} :
    ∀ {recomputed : List (String × PyFloat)} {acc acc' : ProvenanceScores},
      (∀ share ∈ recomputed, share.2.FiniteNonneg) →
      (recomputed.foldlM (provenanceScore hotkeyToUid burnUid) acc = .ok acc' ↔
        (positiveShares recomputed).foldlM (mapPrimary hotkeyToUid (some burnUid)) acc.scores =
          .ok acc'.scores ∧
        acc'.total = acc.total + shareTotal (positiveShares recomputed))
  | [], acc, acc', _ => by
    rcases acc' with ⟨scores', total'⟩
    rcases acc with ⟨scores, total⟩
    simp [positiveShares, shareTotal, pure, Except.pure, eq_comm]
  | share :: rest, acc, acc', hvalid => by
    have hrest : ∀ s ∈ rest, s.2.FiniteNonneg := fun s hs => hvalid s (List.mem_cons_of_mem _ hs)
    rw [List.foldlM_cons, bind_eq_ok]
    by_cases hzero : finiteOf share.2 = 0
    · have hskip : positiveShares (share :: rest) = positiveShares rest := by
        simp [positiveShares, hzero]
      have hstep : provenanceScore hotkeyToUid burnUid acc share = .ok acc := by
        unfold provenanceScore
        rw [if_neg (not_not.mpr (hvalid share (List.mem_cons_self ..))), if_pos hzero]
        rfl
      rw [hskip, ← provenanceScore_foldlM hrest]
      simp [hstep]
    · have hcons : positiveShares (share :: rest) =
          (share.1, finiteOf share.2) :: positiveShares rest := by
        simp [positiveShares, hzero]
      have hstep : ∀ mid, provenanceScore hotkeyToUid burnUid acc share = .ok mid ↔
          mapPrimary hotkeyToUid (some burnUid) acc.scores (share.1, finiteOf share.2) =
            .ok mid.scores ∧ mid.total = acc.total + finiteOf share.2 := by
        intro mid
        rcases mid with ⟨scores, total⟩
        unfold provenanceScore mapPrimary
        rw [if_neg (not_not.mpr (hvalid share (List.mem_cons_self ..))), if_neg hzero]
        cases hget : hotkeyToUid.get? share.1 with
        | none => simp [fail]
        | some uid =>
          simp only [bind_eq_ok, refuse_eq_ok]
          constructor
          · rintro ⟨_, hne, _, hnew, h⟩
            cases h
            exact ⟨⟨(), by simpa using hne, (), hnew, rfl⟩, rfl⟩
          · rintro ⟨⟨_, hne, _, hnew, h⟩, htotal⟩
            cases h
            subst htotal
            exact ⟨(), by simpa using hne, (), hnew, rfl⟩
      simp only [hstep, hcons, List.foldlM_cons, bind_eq_ok, provenanceScore_foldlM hrest]
      constructor
      · rintro ⟨mid, ⟨hfirst, htotal⟩, hmap, htotal'⟩
        refine ⟨⟨mid.scores, hfirst, hmap⟩, ?_⟩
        rw [htotal', htotal, shareTotal, shareTotal, List.map_cons, List.sum_cons, add_assoc]
      · rintro ⟨⟨scores, hfirst, hmap⟩, htotal⟩
        refine ⟨⟨scores, acc.total + finiteOf share.2⟩, ⟨hfirst, rfl⟩, hmap, ?_⟩
        rw [htotal, shareTotal, shareTotal, List.map_cons, List.sum_cons, add_assoc]

/-- A pinned mechanism burns a tenth. -/
theorem mechanismBurnFraction_eq {mechanism : String} {fraction : ℚ}
    (h : mechanismBurnFraction.get? mechanism = some fraction) : fraction = 1 / 10 := by
  have hmem := Dict.mem_of_get?_ofList h
  simp only [List.mem_cons, List.not_mem_nil, or_false, Prod.mk.injEq] at hmem
  rcases hmem with ⟨-, rfl⟩ | ⟨-, rfl⟩ <;> rfl

/-- The recomputed allocation of scores outside the burn uid: normalised after
the burn fraction has been added. -/
theorem normalize_recomputed {scores : Dict ℤ ℚ} (burnUid : ℤ)
    (hsome : scores.isEmpty = false) (htotal : 0 < scores.total) :
    ∃ result, normalize ((scores.mapItems fun _ value => value * (1 - 1 / 10)).add burnUid
        (if scores.isEmpty then 1 else 1 / 10)) = .ok result ∧
      (∀ uid, uid ∈ result.keys ↔ uid = burnUid ∨ uid ∈ scores.keys) ∧
      ∀ uid, result.getD uid 0 = (scores.getD uid 0 * (9 / 10) + if uid = burnUid then 1 / 10 else 0) /
        (scores.total * (9 / 10) + 1 / 10) := by
  have hout : ∀ uid, ((scores.mapItems fun _ value => value * (1 - 1 / 10)).add burnUid
      (if scores.isEmpty then 1 else 1 / 10)).getD uid 0 =
      scores.getD uid 0 * (9 / 10) + if uid = burnUid then 1 / 10 else 0 := by
    intro uid
    have hmap : (scores.mapItems fun _ value => value * (1 - 1 / 10)).getD uid 0 =
        scores.getD uid 0 * (9 / 10) := by
      rw [Dict.getD, Dict.get?_mapItems]
      cases hget : scores.get? uid with
      | none => simp [Dict.getD, hget]
      | some v =>
        simp only [Dict.getD, hget, Option.map_some, Option.getD_some]
        norm_num
    rw [Dict.getD_add, hmap, hsome]
    simp only [eq_comm, Bool.false_eq_true, if_false]
  have hnorm : ((scores.mapItems fun _ value => value * (1 - 1 / 10)).add burnUid
      (if scores.isEmpty then 1 else 1 / 10)).total = scores.total * (9 / 10) + 1 / 10 := by
    rw [← Dict.sumOn_true, Dict.sumOn_add, Dict.sumOn_true, total_mapItems_mul, hsome]
    norm_num
  have hkeys : ∀ uid, uid ∈ ((scores.mapItems fun _ value => value * (1 - 1 / 10)).add burnUid
      (if scores.isEmpty then 1 else 1 / 10)).keys ↔ uid = burnUid ∨ uid ∈ scores.keys := by
    intro uid
    simp only [Dict.mem_keys, Dict.get?_add, Dict.get?_mapItems]
    by_cases h : burnUid = uid
    · simp [h]
    · simp [h, Ne.symm h]
  generalize ((scores.mapItems fun _ value => value * (1 - 1 / 10)).add burnUid
      (if scores.isEmpty then 1 else 1 / 10)) = out at hout hnorm hkeys
  have hne : out.total ≠ 0 := by
    rw [hnorm]
    positivity
  refine ⟨out.mapItems fun _ v => v / out.total, by rw [normalize, if_neg hne]; rfl, ?_, ?_⟩
  · intro uid
    rw [← hkeys]
    simp [Dict.mem_keys, Dict.get?_mapItems]
  · intro uid
    rw [← hout, ← hnorm, Dict.getD, Dict.get?_mapItems]
    cases hget : out.get? uid <;> simp [Dict.getD, hget]

/-! ## The launch vector -/

def signedShares (payload : Payload) : List (String × ℚ) :=
  (payload.weights.filter fun row => 0 < row.value).map fun row => (row.minerHotkey, row.value)

/-- A vector of the launch contract with the burn hotkey `burnHotkey`: both
policy blocks and every row pass their checks, and it claims mass exactly when it
signs some. -/
structure SupplyVector (payload : Payload) (burnHotkey : String) : Prop where
  supply : validatedSupplyMeta payload = .ok true
  burn : payload.burnSnapshot.bind BurnSnapshot.burnHotkey = some burnHotkey
  rows : ∃ rows, payload.weights.foldlM primaryRow {} = .ok rows
  claimed : confidentialPrimaryMeta payload =
    .ok (some (if signedShares payload = [] then .zero else .one))

/-- The recomputed shares are the positive rows of the vector. -/
def Reproduces (recomputed : Dict String PyFloat) (payload : Payload) : Prop :=
  (∀ share ∈ recomputed.items, share.2.FiniteNonneg) ∧
    ∀ hotkey w, 0 < w →
      (recomputed.get? hotkey = some (.finite w) ↔ (hotkey, w) ∈ signedShares payload)

theorem validatedSupplyMeta_ok {payload : Payload} (h : validatedSupplyMeta payload = .ok true) :
    ∃ snap percentage, payload.burnSnapshot = some snap ∧
      snap.forcedBurnPercentage.float = .ok percentage ∧ closeTo percentage 10 (1 / 10 ^ 12) ∧
      ∃ hotkey, snap.burnHotkey = some hotkey ∧ hotkey ≠ "" ∧ snap.burnUid = none := by
  unfold validatedSupplyMeta at h
  split at h
  · cases h
  · cases h
  · rename_i policy _
    rcases bind_eq_ok.mp h with ⟨_, h, -⟩
    rcases bind_eq_ok.mp h with ⟨_, -, h⟩
    rcases bind_eq_ok.mp h with ⟨_, -, h⟩
    rcases bind_eq_ok.mp h with ⟨_, -, h⟩
    rcases bind_eq_ok.mp h with ⟨_, -, h⟩
    rcases bind_eq_ok.mp h with ⟨_, -, h⟩
    rcases bind_eq_ok.mp h with ⟨_, -, h⟩
    rcases bind_eq_ok.mp h with ⟨_, -, h⟩
    rcases bind_eq_ok.mp h with ⟨_, hmissing, h⟩
    rcases bind_eq_ok.mp h with ⟨_, hmatch, h⟩
    rcases bind_eq_ok.mp h with ⟨_, huid, h⟩
    rcases bind_eq_ok.mp h with ⟨percentage, hfloat, h⟩
    rw [refuse_eq_ok, not_not] at hmatch huid h
    rw [refuse_eq_ok] at hmissing
    cases hsnap : payload.burnSnapshot with
    | none =>
      rw [hsnap] at hfloat
      cases hfloat
    | some snap =>
      rw [hsnap] at hfloat hmatch huid
      rw [floatOr_eq_ok] at hfloat
      refine ⟨snap, percentage, rfl, hfloat, h, ?_⟩
      have hhotkey : snap.burnHotkey = policy.burnHotkey := hmatch
      rw [hhotkey]
      cases hburn : policy.burnHotkey with
      | none => simp [hburn] at hmissing
      | some hotkey => exact ⟨hotkey, rfl, by simpa [hburn] using hmissing, huid⟩

section Launch

variable {payload : Payload} {burnHotkey : String} {hotkeyToUid : Dict String ℤ}

theorem SupplyVector.snapshot (hsupply : SupplyVector payload burnHotkey) :
    ∃ snap, payload.burnSnapshot = some snap ∧ snap.burnHotkey = some burnHotkey ∧
      snap.burnUid = none ∧ burnHotkey ≠ "" ∧
      (∃ percentage, snap.forcedBurnPercentage.float = .ok percentage ∧
        finiteOf percentage = payload.percentage) ∧
      isClose payload.percentage 10 (1 / 10 ^ 12) := by
  rcases validatedSupplyMeta_ok hsupply.supply with
    ⟨snap, percentage, hsnap, hfloat, ⟨q, rfl, hq⟩, hotkey, hhotkey, hne, huid⟩
  have hsame : hotkey = burnHotkey := by
    have hburn := hsupply.burn
    rw [hsnap, Option.bind_some, hhotkey] at hburn
    cases hburn
    rfl
  subst hsame
  have hvalue : payload.percentage = q := by
    simp [Payload.percentage, hsnap, Attr.value, hfloat, finiteOf]
  exact ⟨snap, hsnap, hhotkey, huid, hne, ⟨_, hfloat, hvalue.symm⟩, hvalue ▸ hq⟩

theorem SupplyVector.percentage_pos (hsupply : SupplyVector payload burnHotkey) :
    0 < payload.percentage ∧ payload.percentage ≤ 100 := by
  rcases hsupply.snapshot with ⟨-, -, -, -, -, -, hclose⟩
  rcases abs_le.mp hclose with ⟨hlow, hhigh⟩
  constructor
  · linarith
  · linarith

/-- Without a uid for its burn hotkey the vector is refused. -/
theorem vectorToUidWeights_unburnable (hsupply : SupplyVector payload burnHotkey)
    (requirePolicy : Option RequirePolicy) (hget : hotkeyToUid.get? burnHotkey = none) :
    ∃ e, vectorToUidWeights payload hotkeyToUid requirePolicy = .error e := by
  rcases hsupply.snapshot with ⟨snap, hsnap, hhotkey, -⟩
  have hresolve : resolveBurnHotkey payload hotkeyToUid =
      fail "burn hotkey has no current metagraph UID" := by
    simp [resolveBurnHotkey, hsnap, hhotkey, hget]
  refine ⟨.vectorError .vectorError "burn hotkey has no current metagraph UID", ?_⟩
  rw [vectorToUidWeights, hsupply.supply, hresolve]
  rfl

/-- Under every pin the vector is mapped by the confidential-primary branch. -/
theorem vectorToUidWeights_supply (hsupply : SupplyVector payload burnHotkey)
    (requirePolicy : Option RequirePolicy) {snap : BurnSnapshot} {burnUid : ℤ}
    (hsnap : payload.burnSnapshot = some snap) (hhotkey : snap.burnHotkey = some burnHotkey)
    (huid : snap.burnUid = none) (hget : hotkeyToUid.get? burnHotkey = some burnUid) :
    vectorToUidWeights payload hotkeyToUid requirePolicy =
      confidentialPrimaryToUidWeights (payload.resolved snap hotkeyToUid)
        (if signedShares payload = [] then .zero else .one) hotkeyToUid := by
  have hdest : payload.burnDestination hotkeyToUid = some burnUid := by
    simp [Payload.burnDestination, hsnap, hhotkey, hget]
  have hresolve : resolveBurnHotkey payload hotkeyToUid =
      .ok (payload.resolved snap hotkeyToUid) := by
    simp [resolveBurnHotkey, hsnap, hhotkey, hget, huid, Payload.resolved, hdest, refuse, pure,
      Except.pure, bind, Except.bind]
  have hclaimed : confidentialPrimaryMeta (payload.resolved snap hotkeyToUid) =
      .ok (some (if signedShares payload = [] then .zero else .one)) := hsupply.claimed
  rw [vectorToUidWeights, hsupply.supply, hresolve]
  simp only [bind, Except.bind, hclaimed]
  cases requirePolicy with
  | none => rfl
  | some policy => cases policy <;> rfl

theorem shareTotal_signedShares (hvalid : ∀ row ∈ payload.weights, row.weight.FiniteNonneg) :
    shareTotal (signedShares payload) = (payload.weights.map Row.value).sum := by
  rw [shareTotal, signedShares, List.map_map]
  generalize payload.weights = rows at hvalid ⊢
  induction rows with
  | nil => rfl
  | cons row rest ih =>
    have hrest := ih fun r hr => hvalid r (List.mem_cons_of_mem _ hr)
    by_cases hpos : 0 < row.value
    · simpa [hpos] using hrest
    · have hzero : row.value = 0 :=
        le_antisymm (not_lt.mp hpos) (value_nonneg (hvalid row (List.mem_cons_self ..)))
      simpa [hzero] using hrest

/-- When the vector is mapped, and to what. -/
theorem vectorToUidWeights_ok_iff (hsupply : SupplyVector payload burnHotkey)
    (hinjective : UidsInjective hotkeyToUid) (requirePolicy : Option RequirePolicy)
    {burnUid : ℤ} (hget : hotkeyToUid.get? burnHotkey = some burnUid) (thin : Dict ℤ ℚ) :
    vectorToUidWeights payload hotkeyToUid requirePolicy = .ok thin ↔
      (signedShares payload ≠ [] → isClose (shareTotal (signedShares payload)) 1 (1 / 10 ^ 9)) ∧
      MapsClear hotkeyToUid (some burnUid) (signedShares payload) ∧
      applyBurn (sharesByUid hotkeyToUid (signedShares payload)) (some burnUid)
        payload.percentage = .ok thin := by
  rcases hsupply.snapshot with ⟨snap, hsnap, hhotkey, huid, -, ⟨percentage, hfloat, hvalue⟩, -⟩
  rcases hsupply.rows with ⟨rows, hrows⟩
  rcases primaryRow_foldlM hrows with ⟨hvalid, hnodup, -, hweightMass, hpositive⟩
  have hshares : rows.positive = signedShares payload := hpositive
  have hsum : rows.weightMass = shareTotal (signedShares payload) := by
    rw [shareTotal_signedShares hvalid, hweightMass]
    exact zero_add _
  have hnodup' : ((signedShares payload).map Prod.fst).Nodup := by
    have hsub : ((payload.weights.filter fun row => 0 < row.value).map Row.minerHotkey).Nodup :=
      hnodup.sublist (List.filter_sublist.map _)
    rw [signedShares, List.map_map]
    exact hsub
  have hdest : payload.burnDestination hotkeyToUid = some burnUid := by
    simp [Payload.burnDestination, hsnap, hhotkey, hget]
  have hmass : checkPrimaryMass (if signedShares payload = [] then .zero else .one) rows = .ok () ↔
      (signedShares payload ≠ [] →
        isClose (shareTotal (signedShares payload)) 1 (1 / 10 ^ 9)) := by
    by_cases hempty : signedShares payload = []
    · have hzero : rows.weightMass = 0 := by
        rw [hsum, hempty]
        rfl
      simp [hempty, checkPrimaryMass, bind_eq_ok, hshares, hzero]
    · simp [hempty, checkPrimaryMass, bind_eq_ok, hshares, hsum]
  have happly : ∀ scores, applySnapshot scores
      { snap with burnUid := payload.burnDestination hotkeyToUid } =
        applyBurn scores (some burnUid) payload.percentage := by
    intro scores
    rw [← hvalue, hdest]
    simp [applySnapshot, hfloat, bind, Except.bind]
  rw [vectorToUidWeights_supply hsupply requirePolicy hsnap hhotkey huid hget, ← hmass]
  constructor
  · intro h
    rcases bind_eq_ok.mp h with ⟨snap', hsnap', h⟩
    cases hsnap'
    rcases bind_eq_ok.mp h with ⟨rows', hrows', h⟩
    have hsame : rows' = rows := Except.ok.inj (hrows'.symm.trans hrows)
    subst hsame
    rcases bind_eq_ok.mp h with ⟨_, hcheck, h⟩
    rcases bind_eq_ok.mp h with ⟨scores, hscores, h⟩
    rw [happly] at h
    rw [hshares, hdest] at hscores
    rcases (mapPrimary_shares hinjective hnodup' (some burnUid)).mp hscores with ⟨hclear, rfl⟩
    exact ⟨hcheck, hclear, h⟩
  · rintro ⟨hcheck, hclear, h⟩
    have hscores := (mapPrimary_shares hinjective hnodup' (some burnUid)).mpr ⟨hclear, rfl⟩
    refine bind_eq_ok.mpr ⟨_, rfl, bind_eq_ok.mpr ⟨rows, hrows, bind_eq_ok.mpr ⟨(), hcheck, ?_⟩⟩⟩
    refine bind_eq_ok.mpr ⟨_, ?_, (happly _).trans h⟩
    rw [hshares, hdest]
    exact hscores

end Launch

/-! ## Two allocations of the same shares -/

/-- The weights give `burnShare` to the burn uid and `rate` for every unit of the
shares, and name no other uid. -/
structure Allocates (burnUid : ℤ) (shares : Dict ℤ ℚ) (burnShare rate : ℚ)
    (result : Dict ℤ ℚ) : Prop where
  keys : ∀ uid, uid ∈ result.keys ↔ uid = burnUid ∨ uid ∈ shares.keys
  burn : result.getD burnUid 0 = burnShare
  rest : ∀ uid, uid ≠ burnUid → result.getD uid 0 = shares.getD uid 0 * rate

/-- Two such allocations agree when their burn shares and all shares do. -/
theorem Allocates.agree_iff {burnUid : ℤ} {shares result result' : Dict ℤ ℚ}
    {burnShare burnShare' rate rate' : ℚ} (hburn : burnUid ∉ shares.keys)
    (h : Allocates burnUid shares burnShare rate result)
    (h' : Allocates burnUid shares burnShare' rate' result') :
    AllocationsAgree result result' ↔ isClose burnShare burnShare' (1 / 10 ^ 12) ∧
      ∀ uid ∈ shares.keys,
        isClose (shares.getD uid 0 * rate) (shares.getD uid 0 * rate') (1 / 10 ^ 12) := by
  constructor
  · rintro ⟨-, hclose⟩
    constructor
    · have hat := hclose burnUid ((h'.keys burnUid).mpr (.inl rfl))
      rwa [h.burn, h'.burn] at hat
    · intro uid huid
      have hne : uid ≠ burnUid := fun heq => hburn (heq ▸ huid)
      have hat := hclose uid ((h'.keys uid).mpr (.inr huid))
      rwa [h.rest uid hne, h'.rest uid hne] at hat
  · rintro ⟨hburnShare, hrest⟩
    refine ⟨fun uid => (h.keys uid).trans (h'.keys uid).symm, fun uid huid => ?_⟩
    by_cases hne : uid = burnUid
    · subst hne
      rw [h.burn, h'.burn]
      exact hburnShare
    · rw [h.rest uid hne, h'.rest uid hne]
      rcases (h'.keys uid).mp huid with heq | hmem
      · exact absurd heq hne
      · exact hrest uid hmem

/-- The burn share after the burn has been added first. -/
def normalizedBurn (total : ℚ) : ℚ := 1 / (9 * total + 1)

section Derivations

variable {payload : Payload} {burnHotkey mechanism : String} {hotkeyToUid : Dict String ℤ}
  {recomputed : Dict String PyFloat} {burnUid : ℤ} {fraction : ℚ}

theorem nodup_signedShares (hsupply : SupplyVector payload burnHotkey) :
    ((signedShares payload).map Prod.fst).Nodup := by
  rcases hsupply.rows with ⟨rows, hrows⟩
  have hsub : ((payload.weights.filter fun row => 0 < row.value).map Row.minerHotkey).Nodup :=
    (primaryRow_foldlM hrows).2.1.sublist (List.filter_sublist.map _)
  rw [signedShares, List.map_map]
  exact hsub

theorem signedShares_pos : ∀ share ∈ signedShares payload, 0 < share.2 := by
  intro share hshare
  rcases List.mem_map.mp hshare with ⟨row, hrow, rfl⟩
  simpa using (List.mem_filter.mp hrow).2

theorem shareTotal_pos (hsome : signedShares payload ≠ []) :
    0 < shareTotal (signedShares payload) := by
  have hne : (signedShares payload).map Prod.snd ≠ [] := by simpa using hsome
  refine List.sum_pos _ (fun x hx => ?_) hne
  rcases List.mem_map.mp hx with ⟨share, hshare, rfl⟩
  exact signedShares_pos share hshare

/-- The recomputed shares are the signed ones in another order. -/
theorem positiveShares_perm (hsupply : SupplyVector payload burnHotkey)
    (hreproduces : Reproduces recomputed payload) :
    (positiveShares recomputed.sorted.items).Perm (signedShares payload) := by
  have hnodup : ((positiveShares recomputed.sorted.items).map Prod.fst).Nodup := by
    have hfst : (recomputed.sorted.items.map fun share => (share.1, finiteOf share.2)).map Prod.fst =
        recomputed.sorted.items.map Prod.fst := by
      rw [List.map_map]
      rfl
    refine List.Nodup.sublist (List.filter_sublist.map _) ?_
    rw [hfst]
    exact recomputed.sorted.nodup
  refine (List.perm_ext_iff_of_nodup hnodup.of_map (nodup_signedShares hsupply).of_map).mpr ?_
  rintro ⟨hotkey, w⟩
  simp only [positiveShares, List.mem_filter, List.mem_map, decide_eq_true_eq, Prod.mk.injEq]
  constructor
  · rintro ⟨⟨⟨hk, x⟩, hmem, rfl, rfl⟩, hne⟩
    rw [(Dict.sorted_perm recomputed).mem_iff] at hmem
    rcases hreproduces.1 _ hmem with ⟨q, hq, hq0⟩
    simp only at hq hne ⊢
    subst hq
    have hpos : 0 < q := lt_of_le_of_ne hq0 (Ne.symm hne)
    exact (hreproduces.2 hk q hpos).mp (Dict.mem_items.mp hmem)
  · intro hmem
    have hpos : 0 < w := signedShares_pos _ hmem
    have hget := (hreproduces.2 hotkey w hpos).mpr hmem
    refine ⟨⟨(hotkey, .finite w), ?_, rfl, rfl⟩, hpos.ne'⟩
    rw [(Dict.sorted_perm recomputed).mem_iff, Dict.mem_items]
    exact hget

theorem MapsClear.perm {burn : Option ℤ} {shares shares' : List (String × ℚ)}
    (hperm : shares'.Perm shares) :
    MapsClear hotkeyToUid burn shares' ↔ MapsClear hotkeyToUid burn shares := by
  simp only [MapsClear, hperm.mem_iff]

theorem shareTotal_perm {shares shares' : List (String × ℚ)} (hperm : shares'.Perm shares) :
    shareTotal shares' = shareTotal shares := (hperm.map Prod.snd).sum_eq

theorem isEmpty_sharesByUid {shares : List (String × ℚ)}
    (hclear : MapsClear hotkeyToUid (some burnUid) shares) :
    (sharesByUid hotkeyToUid shares).isEmpty = true ↔ shares = [] := by
  rw [Dict.isEmpty_iff]
  constructor
  · intro h
    by_contra hne
    rcases List.exists_mem_of_ne_nil _ hne with ⟨share, hshare⟩
    rcases hclear share hshare with ⟨uid, hget, -⟩
    have hkey : uid ∈ (sharesByUid hotkeyToUid shares).keys :=
      mem_keys_sharesByUid.mpr ⟨share, hshare, hget⟩
    rw [Dict.mem_keys, h uid] at hkey
    rcases hkey with ⟨v, hv⟩
    cases hv
  · rintro rfl uid
    rfl

/-- The thin allocation: the burn percentage to the burn uid, the rest shared
out in proportion. -/
theorem thin_allocates (hsupply : SupplyVector payload burnHotkey)
    (hinjective : UidsInjective hotkeyToUid)
    (hclear : MapsClear hotkeyToUid (some burnUid) (signedShares payload))
    (hsome : signedShares payload ≠ []) :
    ∃ thin, applyBurn (sharesByUid hotkeyToUid (signedShares payload)) (some burnUid)
        payload.percentage = .ok thin ∧
      Allocates burnUid (sharesByUid hotkeyToUid (signedShares payload))
        (payload.percentage / 100)
        ((1 - payload.percentage / 100) / shareTotal (signedShares payload)) thin := by
  rcases hsupply.percentage_pos with ⟨hp, hp'⟩
  have hnodup := nodup_signedShares hsupply
  have hpos := shareTotal_pos hsome
  have hothers := sumOn_sharesByUid hinjective hnodup hclear
  have htotal : 0 < (withoutBurn (sharesByUid hotkeyToUid (signedShares payload))
      (some burnUid)).total := by
    rw [total_withoutBurn, hothers]
    exact hpos
  have hone := total_burnOutput htotal hp.le (fun h => by cases h)
  have hok : applyBurn (sharesByUid hotkeyToUid (signedShares payload)) (some burnUid)
      payload.percentage = .ok (burnOutput (sharesByUid hotkeyToUid (signedShares payload))
        (some burnUid) payload.percentage) := by
    rw [applyBurn_eq htotal, normalize, hone, if_neg one_ne_zero]
    simp [Dict.mapItems, pure, Except.pure]
  have hscores : ∀ uid v, (sharesByUid hotkeyToUid (signedShares payload)).get? uid = some v →
      0 ≤ v := by
    intro uid v hv
    have hbound : 0 ≤ (sharesByUid hotkeyToUid (signedShares payload)).getD uid 0 :=
      (sharesByUid_bounds hotkeyToUid signedShares_pos uid).1
    simpa [Dict.getD, hv] using hbound
  rcases applyBurn_ok hscores hp.le hp' (fun h => by cases h) hok with ⟨hsplit, -⟩
  rw [hothers] at hsplit
  refine ⟨_, hok, fun uid => ?_, ?_, fun uid huid => ?_⟩
  · rw [mem_keys_burnOutput]
    have hfrac : 0 < payload.percentage / 100 := by positivity
    have hburn := burn_notMem_sharesByUid hclear
    constructor
    · rintro (⟨heq, -⟩ | ⟨-, hmem⟩)
      · exact .inl (Option.some.inj heq)
      · exact .inr hmem
    · rintro (rfl | hmem)
      · exact .inl ⟨rfl, hfrac⟩
      · refine .inr ⟨fun heq => hburn ?_, hmem⟩
        rw [← Option.some.inj heq]
        exact hmem
  · rw [hsplit.burn burnUid rfl, if_pos hpos]
  · rw [hsplit.rest uid (fun heq => huid (Option.some.inj heq)), if_pos hpos]
    ring

/-- When the recomputed shares are mapped, and to what. -/
theorem provenanceUidWeights_ok_iff (hsupply : SupplyVector payload burnHotkey)
    (hinjective : UidsInjective hotkeyToUid) (hreproduces : Reproduces recomputed payload)
    (hmechanism : mechanismBurnFraction.get? mechanism = some fraction)
    (hget : hotkeyToUid.get? burnHotkey = some burnUid) (result : Dict ℤ ℚ) :
    provenanceUidWeights recomputed mechanism (some burnHotkey) hotkeyToUid = .ok result ↔
      (signedShares payload ≠ [] → isClose (shareTotal (signedShares payload)) 1 (1 / 10 ^ 9)) ∧
      MapsClear hotkeyToUid (some burnUid) (signedShares payload) ∧
      normalize (((sharesByUid hotkeyToUid (positiveShares recomputed.sorted.items)).mapItems
          fun _ value => value * (1 - 1 / 10)).add burnUid
        (if (sharesByUid hotkeyToUid (positiveShares recomputed.sorted.items)).isEmpty then 1
          else 1 / 10)) = .ok result := by
  rcases hsupply.snapshot with ⟨-, -, -, -, hne, -⟩
  have hperm := positiveShares_perm hsupply hreproduces
  have hnodup : ((positiveShares recomputed.sorted.items).map Prod.fst).Nodup :=
    (hperm.map Prod.fst).nodup_iff.mpr (nodup_signedShares hsupply)
  have hvalid : ∀ share ∈ recomputed.sorted.items, share.2.FiniteNonneg := fun share hshare =>
    hreproduces.1 share ((Dict.sorted_perm recomputed).mem_iff.mp hshare)
  have hnil : positiveShares recomputed.sorted.items = [] ↔ signedShares payload = [] := by
    rw [← List.length_eq_zero_iff, hperm.length_eq, List.length_eq_zero_iff]
  have hempty : ∀ scores : Dict ℤ ℚ, scores.isEmpty = false ↔ ¬ scores.isEmpty = true := by
    intro scores
    simp
  rw [mechanismBurnFraction_eq hmechanism] at hmechanism
  simp only [provenanceUidWeights, hmechanism, if_neg hne, hget, bind_eq_ok,
    provenanceScore_foldlM hvalid, refuse_eq_ok]
  constructor
  · rintro ⟨⟨scores, total⟩, ⟨hmap, htotal⟩, _, hclose, hnormalize⟩
    simp only at hmap htotal hclose hnormalize
    rcases (mapPrimary_shares hinjective hnodup (some burnUid)).mp hmap with ⟨hclear, rfl⟩
    rw [hempty, isEmpty_sharesByUid hclear, hnil, htotal, zero_add, shareTotal_perm hperm] at hclose
    refine ⟨fun hsome => ?_, (MapsClear.perm hperm).mp hclear, hnormalize⟩
    by_contra hfar
    exact hclose ⟨hsome, hfar⟩
  · rintro ⟨hclose, hclear, hnormalize⟩
    have hclear' := (MapsClear.perm hperm).mpr hclear
    refine ⟨⟨sharesByUid hotkeyToUid (positiveShares recomputed.sorted.items),
        shareTotal (positiveShares recomputed.sorted.items)⟩,
      ⟨(mapPrimary_shares hinjective hnodup (some burnUid)).mpr ⟨hclear', rfl⟩, (zero_add _).symm⟩,
      (), ?_, hnormalize⟩
    simp only
    rw [hempty, isEmpty_sharesByUid hclear', hnil, shareTotal_perm hperm]
    rintro ⟨hsome, hfar⟩
    exact hfar (hclose hsome)

/-- The recomputed allocation: shares and burn fraction over their sum. -/
theorem recomputed_allocates (hsupply : SupplyVector payload burnHotkey)
    (hinjective : UidsInjective hotkeyToUid) (hreproduces : Reproduces recomputed payload)
    (hclear : MapsClear hotkeyToUid (some burnUid) (signedShares payload))
    (hsome : signedShares payload ≠ []) :
    ∃ result, normalize (((sharesByUid hotkeyToUid (positiveShares recomputed.sorted.items)).mapItems
          fun _ value => value * (1 - 1 / 10)).add burnUid
        (if (sharesByUid hotkeyToUid (positiveShares recomputed.sorted.items)).isEmpty then 1
          else 1 / 10)) = .ok result ∧
      Allocates burnUid (sharesByUid hotkeyToUid (signedShares payload))
        (normalizedBurn (shareTotal (signedShares payload)))
        ((1 - normalizedBurn (shareTotal (signedShares payload))) /
          shareTotal (signedShares payload)) result := by
  have hperm := positiveShares_perm hsupply hreproduces
  have hnodup := nodup_signedShares hsupply
  have hnodup' : ((positiveShares recomputed.sorted.items).map Prod.fst).Nodup :=
    (hperm.map Prod.fst).nodup_iff.mpr hnodup
  have hclear' := (MapsClear.perm hperm).mpr hclear
  have hpos := shareTotal_pos hsome
  have hburn := burn_notMem_sharesByUid hclear
  have hget : ∀ uid, (sharesByUid hotkeyToUid (positiveShares recomputed.sorted.items)).get? uid =
      (sharesByUid hotkeyToUid (signedShares payload)).get? uid :=
    get?_sharesByUid_perm hinjective hnodup hperm
  have htotal : (sharesByUid hotkeyToUid (positiveShares recomputed.sorted.items)).total =
      shareTotal (signedShares payload) := by
    rw [total_sharesByUid hinjective hnodup' hclear', shareTotal_perm hperm]
  have hempty : (sharesByUid hotkeyToUid (positiveShares recomputed.sorted.items)).isEmpty = false := by
    rw [← Bool.not_eq_true, isEmpty_sharesByUid hclear']
    exact fun hnil => hsome (List.nil_perm.mp (hnil ▸ hperm))
  rcases normalize_recomputed burnUid hempty (htotal ▸ hpos) with
    ⟨result, hok, hkeys, hvalue⟩
  have hgetD : ∀ uid, (sharesByUid hotkeyToUid (positiveShares recomputed.sorted.items)).getD uid 0 =
      (sharesByUid hotkeyToUid (signedShares payload)).getD uid 0 := fun uid => by
    rw [Dict.getD, Dict.getD, hget]
  refine ⟨result, hok, fun uid => ?_, ?_, fun uid huid => ?_⟩
  · rw [hkeys, Dict.mem_keys, Dict.mem_keys, hget]
  · have hzero : (sharesByUid hotkeyToUid (signedShares payload)).getD burnUid 0 = 0 := by
      rw [Dict.getD, Dict.get?_eq_none.mpr hburn]
      rfl
    rw [hvalue, hgetD, hzero, htotal, if_pos rfl, normalizedBurn]
    field_simp
    ring
  · rw [hvalue, hgetD, htotal, if_neg huid, normalizedBurn]
    field_simp
    ring

/-- Without positive shares both derivations give everything to the burn uid. -/
theorem empty_allocates (hsupply : SupplyVector payload burnHotkey)
    (hreproduces : Reproduces recomputed payload) (hnil : signedShares payload = []) :
    ∃ allocation, applyBurn (sharesByUid hotkeyToUid (signedShares payload)) (some burnUid)
        payload.percentage = .ok allocation ∧
      normalize (((sharesByUid hotkeyToUid (positiveShares recomputed.sorted.items)).mapItems
          fun _ value => value * (1 - 1 / 10)).add burnUid
        (if (sharesByUid hotkeyToUid (positiveShares recomputed.sorted.items)).isEmpty then 1
          else 1 / 10)) = .ok allocation := by
  have hnil' : positiveShares recomputed.sorted.items = [] := by
    have hperm := positiveShares_perm hsupply hreproduces
    rw [hnil] at hperm
    exact List.perm_nil.mp hperm
  have hzero : (withoutBurn (sharesByUid hotkeyToUid []) (some burnUid)).total ≤ 0 := le_refl _
  refine ⟨Dict.ofList [(burnUid, 1)], ?_, ?_⟩
  · rw [hnil, applyBurn_empty hzero]
    rfl
  · rw [hnil']
    have hout : ((sharesByUid hotkeyToUid []).mapItems fun _ value => value * (1 - 1 / 10)).add
        burnUid (if (sharesByUid hotkeyToUid []).isEmpty then 1 else 1 / 10) =
        Dict.ofList [(burnUid, 1)] := by
      refine Dict.ext ?_
      simp [sharesByUid, mappedSigned, Dict.add, Dict.set, Dict.ofList, Dict.mapItems,
        Dict.isEmpty, Dict.getD, Dict.get?, Dict.find, Dict.upsert, Dict.empty]
    have htotal : (Dict.ofList [(burnUid, (1 : ℚ))]).total = 1 := by
      rw [Dict.total, Dict.values, Dict.items_ofList (by simp)]
      simp
    rw [hout, normalize, htotal, if_neg one_ne_zero]
    simp [Dict.mapItems, pure, Except.pure]

end Derivations

/-- Both derivations raise, or both return and their allocations pass the
comparison of the launch gate. -/
def DerivationsAgree (payload : Payload) (recomputed : Dict String PyFloat) (mechanism : String)
    (burnHotkey : String) (hotkeyToUid : Dict String ℤ)
    (requirePolicy : Option RequirePolicy) : Prop :=
  match vectorToUidWeights payload hotkeyToUid requirePolicy,
      provenanceUidWeights recomputed mechanism (some burnHotkey) hotkeyToUid with
  | .ok thin, .ok derived => AllocationsAgree derived thin
  | .error _, .error _ => True
  | _, _ => False

/-- The metagraph and the sum of the shares are such that both derivations raise. -/
def Unlaunchable (payload : Payload) (burnHotkey : String) (hotkeyToUid : Dict String ℤ) : Prop :=
  ¬ ∃ burnUid, hotkeyToUid.get? burnHotkey = some burnUid ∧
    MapsClear hotkeyToUid (some burnUid) (signedShares payload) ∧
    (signedShares payload ≠ [] → isClose (shareTotal (signedShares payload)) 1 (1 / 10 ^ 9))

/-- Two burn shares that are close leave close parts of the rest. -/
theorem isClose_rest {w total burn burn' tol : ℚ} (hw : 0 ≤ w) (hle : w ≤ total)
    (htotal : 0 < total) (h : isClose burn burn' tol) :
    isClose (w * ((1 - burn) / total)) (w * ((1 - burn') / total)) tol := by
  have hdiff : w * ((1 - burn) / total) - w * ((1 - burn') / total) =
      -(w / total * (burn - burn')) := by
    field_simp
    ring
  have hratio : w / total ≤ 1 := (div_le_one htotal).mpr hle
  have hratio0 : 0 ≤ w / total := div_nonneg hw htotal.le
  calc |w * ((1 - burn) / total) - w * ((1 - burn') / total)|
      = w / total * |burn - burn'| := by rw [hdiff, abs_neg, abs_mul, abs_of_nonneg hratio0]
    _ ≤ 1 * |burn - burn'| := mul_le_mul_of_nonneg_right hratio (abs_nonneg _)
    _ ≤ tol := by rw [one_mul]; exact h

theorem allocationsAgree_refl (allocation : Dict ℤ ℚ) : AllocationsAgree allocation allocation :=
  ⟨fun _ => Iff.rfl, fun uid _ => by simp [isClose]⟩

/-- The two derivations of the allocation agree exactly when both raise, when
nothing is signed, or when the burn percentage is within the gate's tolerance of
the burn share after normalising the sum of the shares. -/
theorem derivations_agree_iff (payload : Payload) (recomputed : Dict String PyFloat)
    (mechanism : String) (fraction : ℚ) (burnHotkey : String) (hotkeyToUid : Dict String ℤ)
    (requirePolicy : Option RequirePolicy)
    (hsupply : SupplyVector payload burnHotkey) (hreproduces : Reproduces recomputed payload)
    (hmechanism : mechanismBurnFraction.get? mechanism = some fraction)
    (hinjective : UidsInjective hotkeyToUid) :
    DerivationsAgree payload recomputed mechanism burnHotkey hotkeyToUid requirePolicy ↔
      Unlaunchable payload burnHotkey hotkeyToUid ∨ signedShares payload = [] ∨
      isClose (normalizedBurn (shareTotal (signedShares payload))) (payload.percentage / 100)
        (1 / 10 ^ 12) := by
  unfold DerivationsAgree
  cases hget : hotkeyToUid.get? burnHotkey with
  | none =>
    rcases vectorToUidWeights_unburnable hsupply requirePolicy hget with ⟨e, hthin⟩
    rcases hsupply.snapshot with ⟨-, -, -, -, hne, -⟩
    have hderived : provenanceUidWeights recomputed mechanism (some burnHotkey) hotkeyToUid =
        fail "configured burn hotkey has no current metagraph UID" := by
      simp [provenanceUidWeights, hmechanism, hne, hget]
    have hunlaunchable : Unlaunchable payload burnHotkey hotkeyToUid := by
      rintro ⟨burnUid, hburn, -⟩
      rw [hget] at hburn
      cases hburn
    simp [hthin, hderived, fail, hunlaunchable]
  | some burnUid =>
    have hthin := vectorToUidWeights_ok_iff hsupply hinjective requirePolicy hget
    have hderived := provenanceUidWeights_ok_iff hsupply hinjective hreproduces hmechanism hget
    by_cases hready : MapsClear hotkeyToUid (some burnUid) (signedShares payload) ∧
        (signedShares payload ≠ [] →
          isClose (shareTotal (signedShares payload)) 1 (1 / 10 ^ 9))
    · rcases hready with ⟨hclear, hclose⟩
      have hlaunchable : ¬ Unlaunchable payload burnHotkey hotkeyToUid := fun h =>
        h ⟨burnUid, hget, hclear, hclose⟩
      by_cases hnil : signedShares payload = []
      · rcases empty_allocates hsupply hreproduces hnil with ⟨allocation, hburn, hnormalize⟩
        rw [(hthin _).mpr ⟨hclose, hclear, hburn⟩, (hderived _).mpr ⟨hclose, hclear, hnormalize⟩]
        exact iff_of_true (allocationsAgree_refl allocation) (.inr (.inl hnil))
      · rcases thin_allocates hsupply hinjective hclear hnil with ⟨thin, hburn, hallocates⟩
        rcases recomputed_allocates hsupply hinjective hreproduces hclear hnil with
          ⟨derived, hnormalize, hallocates'⟩
        rw [(hthin _).mpr ⟨hclose, hclear, hburn⟩, (hderived _).mpr ⟨hclose, hclear, hnormalize⟩]
        simp only [hlaunchable, hnil, false_or]
        rw [hallocates'.agree_iff (burn_notMem_sharesByUid hclear) hallocates]
        refine ⟨fun h => h.1, fun h => ⟨h, fun uid _ => ?_⟩⟩
        rcases sharesByUid_bounds hotkeyToUid signedShares_pos uid with ⟨hw, hle⟩
        exact isClose_rest hw hle (shareTotal_pos hnil) h
    -- neither loop accepts shares that do not map clear of the burn uid
    · have hunlaunchable : Unlaunchable payload burnHotkey hotkeyToUid := by
        rintro ⟨burnUid', hburn, hclear, hclose⟩
        rw [hget] at hburn
        cases hburn
        exact hready ⟨hclear, hclose⟩
      refine iff_of_true ?_ (.inl hunlaunchable)
      cases hthin' : vectorToUidWeights payload hotkeyToUid requirePolicy with
      | ok thin =>
        rcases (hthin _).mp hthin' with ⟨hclose, hclear, -⟩
        exact absurd ⟨hclear, hclose⟩ hready
      | error e =>
        cases hderived' : provenanceUidWeights recomputed mechanism (some burnHotkey)
          hotkeyToUid with
        | ok derived =>
          rcases (hderived _).mp hderived' with ⟨hclose, hclear, -⟩
          exact absurd ⟨hclear, hclose⟩ hready
        | error e' => trivial

/-! A launch vector with one share. -/

def shareRow (share : ℚ) : Row where
  minerHotkey := "a"
  weight := .finite share
  baseComponent := .number (.finite 0)
  externalComponent := .number (.finite share)

def supplyOf (share : ℚ) : Payload where
  weights := [shareRow share]
  burnSnapshot := some
    { burnUid := none, burnHotkey := some "burn", forcedBurnPercentage := .number (.finite 10) }
  policyMetadata :=
    { confidentialPrimary := .fields
        { contractVersion := some "v1"
          source := some "cathedral_confidential_tdx"
          baseMass := .number (.finite 0)
          confidentialMass := .number (.finite 1)
          complete := some true
          mode := some "confidential_primary"
          fresh := some true
          confirmed := some true }
      validatedSupply := .fields
        { keys := supplyKeys
          contractVersion := some "v2"
          intelTdxAllocation := .number (.finite (9 / 10))
          fixedBurnAllocation := .number (.finite (1 / 10))
          burnHotkey := some "burn" } }
  network := some "finney"
  netuid := some 39
  generatedAt := some "2026-07-24T00:00:00.000Z"
  expiresAt := some "2026-07-24T00:10:00.000Z"

def launchUids : Dict String ℤ := Dict.ofList [("burn", 0), ("a", 1)]

theorem launchUids_injective : UidsInjective launchUids := by
  intro h h' uid hh hh'
  have hmem := Dict.mem_of_get?_ofList hh
  have hmem' := Dict.mem_of_get?_ofList hh'
  simp only [List.mem_cons, List.not_mem_nil, or_false, Prod.mk.injEq] at hmem hmem'
  rcases hmem with ⟨rfl, rfl⟩ | ⟨rfl, rfl⟩ <;> rcases hmem' with ⟨rfl, h⟩ | ⟨rfl, h⟩
  · rfl
  · cases h
  · cases h
  · rfl

theorem reproduces_supplyOf {share : ℚ} (hpos : 0 < share) :
    Reproduces (Dict.ofList [("a", .finite share)]) (supplyOf share) := by
  have hshares : signedShares (supplyOf share) = [("a", share)] := by
    have hvalue : 0 < (shareRow share).value := hpos
    rw [signedShares, supplyOf, List.filter_cons_of_pos (by simpa using hvalue)]
    rfl
  have hget : ∀ hotkey, (Dict.ofList [("a", PyFloat.finite share)]).get? hotkey =
      if "a" = hotkey then some (.finite share) else none := by
    intro hotkey
    rw [Dict.ofList, List.foldl_cons, List.foldl_nil, Dict.get?_set]
    rfl
  constructor
  · intro kv hkv
    rw [Dict.items_ofList (by simp), List.mem_singleton] at hkv
    subst hkv
    exact ⟨share, rfl, hpos.le⟩
  · intro hotkey w _
    rw [hget, hshares, List.mem_singleton, Prod.mk.injEq]
    by_cases h : "a" = hotkey
    · simp [h, eq_comm]
    · simp [h, Ne.symm h]

theorem derivations_agree_iff_one :
    DerivationsAgree (supplyOf 1) (Dict.ofList [("a", .finite 1)]) "validated_supply_v2" "burn"
      launchUids none := by
  have hsupply : SupplyVector (supplyOf 1) "burn" :=
    ⟨by decide +kernel, rfl, ⟨⟨["a"], 1, [("a", 1)]⟩, by decide +kernel⟩, by decide +kernel⟩
  refine (derivations_agree_iff (supplyOf 1) _ "validated_supply_v2" (1 / 10) "burn" launchUids none
    hsupply (reproduces_supplyOf one_pos) (by decide +kernel) launchUids_injective).mpr
      (.inr (.inr ?_))
  decide +kernel

/-- A share of one and half a billionth: both derivations accept it, and their
burn shares differ by more than the gate allows. -/
theorem accepted_share_disagrees :
    SupplyVector (supplyOf (1 + 1 / (2 * 10 ^ 9))) "burn" ∧
      Reproduces (Dict.ofList [("a", .finite (1 + 1 / (2 * 10 ^ 9)))])
        (supplyOf (1 + 1 / (2 * 10 ^ 9))) ∧
      UidsInjective launchUids ∧
      ¬ DerivationsAgree (supplyOf (1 + 1 / (2 * 10 ^ 9)))
        (Dict.ofList [("a", .finite (1 + 1 / (2 * 10 ^ 9)))]) "validated_supply_v2" "burn"
        launchUids (some .validatedSupplyV1) := by
  refine ⟨⟨by decide +kernel, rfl, ⟨⟨["a"], 1 + 1 / (2 * 10 ^ 9), [("a", 1 + 1 / (2 * 10 ^ 9))]⟩,
    by decide +kernel⟩, by decide +kernel⟩, reproduces_supplyOf (by norm_num),
    launchUids_injective, fun hagree => ?_⟩
  have hthin : vectorToUidWeights (supplyOf (1 + 1 / (2 * 10 ^ 9))) launchUids
      (some .validatedSupplyV1) = .ok (Dict.ofList [(1, 9 / 10), (0, 1 / 10)]) := by
    decide +kernel
  have hderived : provenanceUidWeights (Dict.ofList [("a", .finite (1 + 1 / (2 * 10 ^ 9)))])
      "validated_supply_v2" (some "burn") launchUids =
      .ok (Dict.ofList [(1, 18000000009 / 20000000009), (0, 2000000000 / 20000000009)]) := by
    decide +kernel
  rw [DerivationsAgree, hthin, hderived] at hagree
  have hburn := hagree.2 0 (by decide +kernel)
  revert hburn
  decide +kernel

end Cathedral.Sn39
