import Cathedral.Sn39.UidWeights
import Mathlib.Algebra.BigOperators.Ring.List
import Mathlib.Tactic.Positivity

/-!
# Cathedral.Sn39.Allocation — what the UID weights distribute

Every branch of `vector_to_uid_weights` collects scores by uid and ends in
`apply_burn`. So the specification has two halves:

* `applyBurn_ok` — what `apply_burn` makes of collected scores: the burn
  percentage to the burn uid, the rest in proportion to the scores of the other
  uids, everything to the burn uid when they have none;
* `Collects` — what a branch has collected: for every set of uids, the sum of
  the signed values of the rows that map into it.

`vectorToUidWeights_distributes` puts them together.
-/

namespace Cathedral.Sn39

/-! ## The burn step -/

/-- The weights that `apply_burn` returns for scores with the masses `mass`, of
which `others` lies outside the burn uid. -/
structure BurnSplit (burnUid : Option ℤ) (percentage : ℚ) (mass : ℤ → ℚ) (others : ℚ)
    (result : Dict ℤ ℚ) : Prop where
  nonneg : ∀ uid v, result.get? uid = some v → 0 ≤ v
  total : result.total = 1
  burn : ∀ burn ∈ burnUid, result.getD burn 0 = if 0 < others then percentage / 100 else 1
  rest : ∀ uid, some uid ≠ burnUid → result.getD uid 0 =
    if 0 < others then (1 - percentage / 100) * (mass uid / others) else 0

/-- The scores outside the burn uid. -/
def withoutBurn (scores : Dict ℤ ℚ) : Option ℤ → Dict ℤ ℚ
  | none => scores
  | some burn => scores.filterItems fun uid _ => uid ≠ burn

theorem total_withoutBurn (scores : Dict ℤ ℚ) (burnUid : Option ℤ) :
    (withoutBurn scores burnUid).total = scores.sumOn fun uid => some uid ≠ burnUid := by
  cases burnUid with
  | none => simp [withoutBurn, ← Dict.sumOn_true, Dict.sumOn]
  | some burn => simp [withoutBurn, Dict.total, Dict.values, Dict.filterItems, Dict.sumOn]

theorem get?_withoutBurn (scores : Dict ℤ ℚ) (burnUid : Option ℤ) (uid : ℤ) :
    (withoutBurn scores burnUid).get? uid = if some uid = burnUid then none else scores.get? uid := by
  cases burnUid with
  | none => simp [withoutBurn]
  | some burn =>
    rw [withoutBurn, Dict.get?_filterItems]
    by_cases h : uid = burn
    · cases scores.get? uid <;> simp [h]
    · cases scores.get? uid <;> simp [h]

theorem total_mapItems_mul (d : Dict ℤ ℚ) (c : ℚ) :
    (d.mapItems fun _ v => v * c).total = d.total * c := by
  simp only [Dict.total, Dict.values, Dict.mapItems, List.map_map]
  rw [← List.sum_map_mul_right]
  rfl

/-- The output of `apply_burn` before it is normalised. -/
def burnOutput (scores : Dict ℤ ℚ) (burnUid : Option ℤ) (percentage : ℚ) : Dict ℤ ℚ :=
  let out := (withoutBurn scores burnUid).mapItems fun _ v =>
    v / (withoutBurn scores burnUid).total * (1 - percentage / 100)
  match burnUid with
  | none => out
  | some burn => if 0 < percentage / 100 then out.add burn (percentage / 100) else out

section Burn

variable {scores : Dict ℤ ℚ} {burnUid : Option ℤ} {percentage : ℚ}

theorem applyBurn_empty (h : (withoutBurn scores burnUid).total ≤ 0) :
    applyBurn scores burnUid percentage =
      match burnUid with
      | none => fail "no miner mass and no burn_uid fallback"
      | some burn => pure (Dict.ofList [(burn, 1)]) := by
  unfold applyBurn
  cases burnUid <;> exact if_pos (.inl h)

theorem applyBurn_eq (h : 0 < (withoutBurn scores burnUid).total) :
    applyBurn scores burnUid percentage = normalize (burnOutput scores burnUid percentage) := by
  have hne : ¬ ((withoutBurn scores burnUid).total ≤ 0 ∨
      (withoutBurn scores burnUid).isEmpty = true) := by
    rintro (hle | hempty)
    · exact absurd hle (not_le.mpr h)
    · have hnil : (withoutBurn scores burnUid).items = [] := List.isEmpty_iff.mp hempty
      simp [Dict.total, Dict.values, hnil] at h
  unfold applyBurn
  cases burnUid <;> exact if_neg hne

theorem getD_burnOutput (uid : ℤ) :
    (burnOutput scores burnUid percentage).getD uid 0 =
      (if some uid = burnUid then 0
        else scores.getD uid 0 / (withoutBurn scores burnUid).total * (1 - percentage / 100)) +
      if some uid = burnUid ∧ 0 < percentage / 100 then percentage / 100 else 0 := by
  have hout : ((withoutBurn scores burnUid).mapItems fun _ v =>
      v / (withoutBurn scores burnUid).total * (1 - percentage / 100)).getD uid 0 =
      if some uid = burnUid then 0
        else scores.getD uid 0 / (withoutBurn scores burnUid).total * (1 - percentage / 100) := by
    rw [Dict.getD, Dict.get?_mapItems, get?_withoutBurn]
    split_ifs
    · rfl
    · cases h : scores.get? uid <;> simp [Dict.getD, h]
  cases burnUid with
  | none => simpa [burnOutput] using hout
  | some burn =>
    simp only [burnOutput]
    by_cases hpos : 0 < percentage / 100
    · rw [if_pos hpos, Dict.getD_add, hout]
      simp only [hpos, and_true, Option.some.injEq, eq_comm]
    · rw [if_neg hpos, hout]
      simp [hpos]

theorem mem_keys_burnOutput (uid : ℤ) : uid ∈ (burnOutput scores burnUid percentage).keys ↔
    some uid = burnUid ∧ 0 < percentage / 100 ∨ some uid ≠ burnUid ∧ uid ∈ scores.keys := by
  have hout : (∃ v, ((withoutBurn scores burnUid).mapItems fun _ v =>
      v / (withoutBurn scores burnUid).total * (1 - percentage / 100)).get? uid = some v) ↔
      some uid ≠ burnUid ∧ uid ∈ scores.keys := by
    rw [Dict.get?_mapItems, get?_withoutBurn, Dict.mem_keys]
    split_ifs with h <;> simp [h]
  rw [Dict.mem_keys]
  cases burnUid with
  | none => simpa [burnOutput] using hout
  | some burn =>
    simp only [burnOutput]
    by_cases hpos : 0 < percentage / 100
    · rw [if_pos hpos]
      by_cases h : burn = uid
      · simp [Dict.get?_add, h, hpos]
      · simpa [Dict.get?_add, h, hpos, Ne.symm h] using hout
    · rw [if_neg hpos, hout]
      simp [hpos]

theorem total_burnOutput (h : 0 < (withoutBurn scores burnUid).total) (hb : 0 ≤ percentage)
    (hdest : burnUid = none → percentage = 0) :
    (burnOutput scores burnUid percentage).total = 1 := by
  have hout : ((withoutBurn scores burnUid).mapItems fun _ v =>
      v / (withoutBurn scores burnUid).total * (1 - percentage / 100)).total =
      1 - percentage / 100 := by
    simp only [div_mul_eq_mul_div, mul_div_assoc, total_mapItems_mul]
    field_simp
  cases burnUid with
  | none =>
    simp only [burnOutput]
    rw [hout, hdest rfl]
    norm_num
  | some burn =>
    simp only [burnOutput]
    by_cases hpos : 0 < percentage / 100
    · rw [if_pos hpos, ← Dict.sumOn_true, Dict.sumOn_add, Dict.sumOn_true, hout]
      simp
    · have hzero : percentage = 0 := by
        by_contra hne
        exact hpos (div_pos (lt_of_le_of_ne hb (Ne.symm hne)) (by norm_num))
      rw [if_neg hpos, hout, hzero]
      norm_num

/-- A dictionary with sum one is not changed by the normalisation. -/
theorem normalize_of_total {out result : Dict ℤ ℚ} (htotal : out.total = 1)
    (h : normalize out = .ok result) : result = out := by
  rw [normalize, htotal, if_neg one_ne_zero] at h
  cases h
  refine Dict.ext ?_
  simp [Dict.mapItems]

theorem applyBurn_ok {result : Dict ℤ ℚ} (hscores : ∀ uid v, scores.get? uid = some v → 0 ≤ v)
    (hb : 0 ≤ percentage) (hb' : percentage ≤ 100) (hdest : burnUid = none → percentage = 0)
    (h : applyBurn scores burnUid percentage = .ok result) :
    BurnSplit burnUid percentage (fun uid => scores.getD uid 0)
        (scores.sumOn fun uid => some uid ≠ burnUid) result ∧
      ∀ uid ∈ result.keys, some uid = burnUid ∨ uid ∈ scores.keys := by
  rw [← total_withoutBurn]
  by_cases hpos : 0 < (withoutBurn scores burnUid).total
  · rw [applyBurn_eq hpos] at h
    have htotal := total_burnOutput hpos hb hdest
    have hresult := normalize_of_total htotal h
    subst hresult
    have hvalue : ∀ uid, 0 ≤ (burnOutput scores burnUid percentage).getD uid 0 := by
      intro uid
      have hscore : 0 ≤ scores.getD uid 0 := by
        cases hget : scores.get? uid with
        | none => simp [Dict.getD, hget]
        | some v => simpa [Dict.getD, hget] using hscores uid v hget
      have hrest : 0 ≤ 1 - percentage / 100 := by linarith [div_le_one_of_le₀ hb' (by norm_num)]
      rw [getD_burnOutput]
      refine add_nonneg ?_ ?_
      · split_ifs
        · exact le_refl _
        · positivity
      · split_ifs with hburn
        · exact hburn.2.le
        · exact le_refl _
    refine ⟨⟨fun uid v hv => ?_, htotal, fun burn hburn => ?_, fun uid huid => ?_⟩,
      fun uid huid => ?_⟩
    · simpa [Dict.getD, hv] using hvalue uid
    · rw [Option.mem_def] at hburn
      rw [if_pos hpos, getD_burnOutput, hburn, if_pos rfl, zero_add]
      by_cases hfrac : 0 < percentage / 100
      · simp [hfrac]
      · simp only [hfrac, and_false, if_false]
        exact le_antisymm (div_nonneg hb (by norm_num)) (not_lt.mp hfrac)
    · rw [getD_burnOutput, if_neg huid, if_pos hpos, if_neg fun hc => huid hc.1]
      ring
    · rcases (mem_keys_burnOutput uid).mp huid with ⟨hburn, -⟩ | ⟨-, hmem⟩
      · exact .inl hburn
      · exact .inr hmem
  -- without mass outside the burn uid everything is burnt
  · rw [applyBurn_empty (not_lt.mp hpos)] at h
    cases burnUid with
    | none => cases h
    | some burn =>
      cases h
      have hget : ∀ uid, (Dict.ofList [(burn, (1 : ℚ))]).get? uid =
          if burn = uid then some 1 else none := by
        intro uid
        rw [Dict.ofList, List.foldl_cons, List.foldl_nil, Dict.get?_set]
        rfl
      refine ⟨⟨fun uid v hv => ?_, ?_, fun b hb => ?_, fun uid huid => ?_⟩, fun uid huid => ?_⟩
      · rw [hget] at hv
        split_ifs at hv
        cases hv
        norm_num
      · rw [← Dict.sumOn_true, Dict.sumOn, Dict.items_ofList (by simp)]
        simp
      · cases hb
        rw [if_neg hpos, Dict.getD, hget, if_pos rfl]
        rfl
      · rw [if_neg hpos, Dict.getD, hget, if_neg fun heq => huid (by rw [heq])]
        rfl
      · rw [Dict.mem_keys_ofList] at huid
        exact .inl (by simpa using huid)

end Burn

/-! ## Collecting by uid -/

/-- The value of an attribute that `float(...)` accepts. -/
def Attr.value (a : Attr) : ℚ :=
  match a.float with
  | .ok x => finiteOf x
  | .error _ => 0

/-- The uids of the rows that map, with their values. -/
def mapped (hotkeyToUid : Dict String ℤ) (value : Row → ℚ) (rows : List Row) : List (ℤ × ℚ) :=
  rows.filterMap fun row => (hotkeyToUid.get? row.minerHotkey).map fun uid => (uid, value row)

variable {row : Row}

theorem mapped_cons_none {hotkeyToUid : Dict String ℤ} (value : Row → ℚ) (rows : List Row)
    (h : hotkeyToUid.get? row.minerHotkey = none) :
    mapped hotkeyToUid value (row :: rows) = mapped hotkeyToUid value rows := by
  simp [mapped, h]

theorem mapped_cons_some {hotkeyToUid : Dict String ℤ} {uid : ℤ} (value : Row → ℚ) (rows : List Row)
    (h : hotkeyToUid.get? row.minerHotkey = some uid) :
    mapped hotkeyToUid value (row :: rows) =
      (uid, value row) :: mapped hotkeyToUid value rows := by
  simp [mapped, h]

/-- The row maps to a uid that satisfies `p`. -/
def MapsInto (hotkeyToUid : Dict String ℤ) (p : ℤ → Prop) (row : Row) : Prop :=
  ∃ uid ∈ hotkeyToUid.get? row.minerHotkey, p uid

instance (hotkeyToUid : Dict String ℤ) (p : ℤ → Prop) [DecidablePred p] (row : Row) :
    Decidable (MapsInto hotkeyToUid p row) := inferInstanceAs (Decidable (∃ _ ∈ _, _))

/-- The signed value of the rows that map into `p`. -/
def signedOn (hotkeyToUid : Dict String ℤ) (value : Row → ℚ) (rows : List Row) (p : ℤ → Prop)
    [DecidablePred p] : ℚ :=
  ((rows.filter fun row => MapsInto hotkeyToUid p row).map value).sum

theorem sum_mapped (hotkeyToUid : Dict String ℤ) (value : Row → ℚ) (rows : List Row)
    (p : ℤ → Prop) [DecidablePred p] :
    (((mapped hotkeyToUid value rows).filter fun kv => p kv.1).map Prod.snd).sum =
      signedOn hotkeyToUid value rows p := by
  induction rows with
  | nil => rfl
  | cons row rest ih =>
    simp only [signedOn, MapsInto, Option.mem_def] at ih ⊢
    cases h : hotkeyToUid.get? row.minerHotkey with
    | none => simp [mapped_cons_none value rest h, h, ih]
    | some uid =>
      by_cases hp : p uid <;> simp [mapped_cons_some value rest h, h, hp, ih]

/-- Scores that have collected the pairs: for every set of uids their sum. -/
structure Collects (scores : Dict ℤ ℚ) (pairs : List (ℤ × ℚ)) : Prop where
  sumOn : ∀ (p : ℤ → Prop) [DecidablePred p],
    scores.sumOn p = ((pairs.filter fun kv => p kv.1).map Prod.snd).sum
  keys : ∀ uid ∈ scores.keys, uid ∈ pairs.map Prod.fst

theorem Collects.nonneg {scores : Dict ℤ ℚ} {pairs : List (ℤ × ℚ)} (h : Collects scores pairs)
    (hpairs : ∀ kv ∈ pairs, 0 ≤ kv.2) : ∀ uid v, scores.get? uid = some v → 0 ≤ v := by
  intro uid v hv
  have hsum := h.sumOn fun u => u = uid
  rw [Dict.sumOn_eq, Dict.getD, hv, Option.getD_some] at hsum
  rw [hsum]
  refine List.sum_nonneg fun x hx => ?_
  rcases List.mem_map.mp hx with ⟨kv, hkv, rfl⟩
  exact hpairs kv (List.mem_filter.mp hkv).1

/-- Adding the pairs up, one by one. -/
theorem collects_foldl_add (pairs : List (ℤ × ℚ)) :
    Collects (pairs.foldl (fun d kv => d.add kv.1 kv.2) ∅) pairs := by
  constructor
  · intro p _
    rw [Dict.sumOn_foldl_add p Prod.snd pairs ∅]
    exact zero_add _
  · intro uid huid
    rcases (Dict.mem_keys_foldl_add Prod.snd pairs ∅ uid).mp huid with hmem | hmem
    · cases hmem
    · exact hmem

/-- Assigning the positive pairs, when no uid occurs twice. -/
theorem collects_ofList {pairs : List (ℤ × ℚ)}
    (hnodup : ((pairs.filter fun kv => 0 < kv.2).map Prod.fst).Nodup)
    (hpairs : ∀ kv ∈ pairs, 0 ≤ kv.2) :
    Collects (Dict.ofList (pairs.filter fun kv => 0 < kv.2)) pairs := by
  constructor
  · intro p _
    rw [Dict.sumOn, Dict.items_ofList hnodup]
    clear hnodup
    induction pairs with
    | nil => rfl
    | cons kv rest ih =>
      have hrest := ih fun kv' hkv' => hpairs kv' (List.mem_cons_of_mem _ hkv')
      have hhead := hpairs kv (List.mem_cons_self ..)
      by_cases hpos : 0 < kv.2
      · by_cases hp : p kv.1 <;> simp [hpos, hp, hrest, -List.filter_filter]
      · have hzero : kv.2 = 0 := le_antisymm (not_lt.mp hpos) hhead
        by_cases hp : p kv.1 <;> simp [hzero, hp, hrest, -List.filter_filter]
  · intro uid huid
    rw [Dict.mem_keys_ofList] at huid
    exact (List.filter_sublist.map _).subset huid

variable {rows : List Row}

theorem Collects.signedOn {hotkeyToUid : Dict String ℤ} {value : Row → ℚ} {scores : Dict ℤ ℚ}
    (h : Collects scores (mapped hotkeyToUid value rows)) (p : ℤ → Prop) [DecidablePred p] :
    scores.sumOn p = signedOn hotkeyToUid value rows p :=
  (h.sumOn p).trans (sum_mapped hotkeyToUid value rows p)

theorem legacyScore_foldl (hotkeyToUid : Dict String ℤ) (rows : List Row) (scores : Dict ℤ ℚ) :
    rows.foldl (legacyScore hotkeyToUid) scores =
      (mapped hotkeyToUid Row.value rows).foldl (fun d kv => d.add kv.1 kv.2) scores := by
  induction rows generalizing scores with
  | nil => rfl
  | cons row rest ih =>
    rw [List.foldl_cons, ih, legacyScore]
    cases h : hotkeyToUid.get? row.minerHotkey with
    | none => rw [mapped_cons_none _ _ h]
    | some uid => rw [mapped_cons_some _ _ h, List.foldl_cons]

/-! ## The v3 branch -/

theorem floatOr_eq_ok {a : Attr} {message : String} {x : PyFloat} :
    a.floatOr message = .ok x ↔ a.float = .ok x := by
  unfold Attr.floatOr
  cases a.float <;> simp [fail, pure, Except.pure]

/-- What the attribution of a row says about its three numbers. -/
theorem attribution_ok {malformed negative : String} {w b e : ℚ}
    (h : attribution row malformed negative = .ok (w, b, e)) :
    row.weight.FiniteNonneg ∧ w = row.value ∧
      (∃ x, row.baseComponent.float = .ok x ∧ x.FiniteNonneg) ∧ b = row.baseComponent.value ∧
      (∃ x, row.externalComponent.float = .ok x ∧ x.FiniteNonneg) ∧
      e = row.externalComponent.value := by
  rcases bind_eq_ok.mp h with ⟨weight, hweight, h⟩
  rcases bind_eq_ok.mp h with ⟨base, hbase, h⟩
  rcases bind_eq_ok.mp h with ⟨external, hexternal, h⟩
  rcases bind_eq_ok.mp h with ⟨_, hnonneg, h⟩
  rw [refuse_eq_ok, not_not] at hnonneg
  rw [floatOr_eq_ok] at hweight hbase hexternal
  cases hweight
  cases h
  exact ⟨hnonneg.1, rfl, ⟨base, hbase, hnonneg.2.1⟩, by simp [Attr.value, hbase],
    ⟨external, hexternal, hnonneg.2.2⟩, by simp [Attr.value, hexternal]⟩

theorem value_nonneg (h : row.weight.FiniteNonneg) : 0 ≤ row.value := by
  rcases h with ⟨q, hq, hq0⟩
  simpa [Row.value, hq, finiteOf] using hq0

theorem Attr.value_nonneg {a : Attr} (h : ∃ x, a.float = .ok x ∧ x.FiniteNonneg) :
    0 ≤ a.value := by
  rcases h with ⟨x, hx, q, rfl, hq⟩
  simpa [Attr.value, hx, finiteOf] using hq

/-- `value > 0.0` agrees with the value of a number that has been validated. -/
theorem Attr.positive_ok {a : Attr} {positive : Bool}
    (hvalid : ∃ x, a.float = .ok x ∧ x.FiniteNonneg) (h : a.positive = .ok positive) :
    positive = decide (0 < a.value) := by
  rcases hvalid with ⟨x, hx, q, rfl, hq⟩
  cases a with
  | number y =>
    cases hx
    cases h
    rfl
  | missing => cases hx
  | text y => cases h
  | other => cases hx

theorem tdxRow_ok {acc acc' : TdxMass} (h : tdxRow acc row = .ok acc') :
    row.weight.FiniteNonneg ∧ ∃ x, row.baseComponent.float = .ok x ∧ x.FiniteNonneg := by
  rcases bind_eq_ok.mp h with ⟨⟨w, b, e⟩, hattribution, -⟩
  rcases attribution_ok hattribution with ⟨hweight, -, hbase, -⟩
  exact ⟨hweight, hbase⟩

/-- The validated rows of a v3 vector are the signed ones. -/
theorem confidentialTdxV3Rows_ok {payload : Payload}
    (h : confidentialTdxV3Rows payload = .ok (some rows)) :
    rows = payload.weights ∧
      (∃ cap, payload.policyMetadata.confidentialTdxCap = some cap ∧
        cap.capVersion = some "v3") ∧
      ∀ row ∈ rows, row.weight.FiniteNonneg ∧
        ∃ x, row.baseComponent.float = .ok x ∧ x.FiniteNonneg := by
  unfold confidentialTdxV3Rows at h
  split at h
  · cases h
  · rename_i cap hcap
    split_ifs at h with hversion
    · cases h
    · rcases bind_eq_ok.mp h with ⟨configured, -, h⟩
      rcases bind_eq_ok.mp h with ⟨mass, hmass, h⟩
      rcases bind_eq_ok.mp h with ⟨_, -, h⟩
      rcases bind_eq_ok.mp h with ⟨_, -, h⟩
      rcases bind_eq_ok.mp h with ⟨_, -, h⟩
      cases h
      have hrow : ∀ acc row acc', tdxRow acc row = .ok acc' → row.weight.FiniteNonneg ∧
          ∃ x, row.baseComponent.float = .ok x ∧ x.FiniteNonneg := fun _ _ _ => tdxRow_ok
      exact ⟨rfl, ⟨cap, hcap, not_not.mp hversion⟩, forall_of_foldlM hrow hmass⟩

/-- No vector without the v3 cap is a v3 vector. -/
theorem confidentialTdxV3Rows_none {payload : Payload}
    (h : confidentialTdxV3Rows payload = .ok none) :
    ¬ ∃ cap, payload.policyMetadata.confidentialTdxCap = some cap ∧
      cap.capVersion = some "v3" := by
  rintro ⟨cap, hcap, hversion⟩
  simp only [confidentialTdxV3Rows, hcap, hversion, ne_eq, not_true, if_false] at h
  rcases bind_eq_ok.mp h with ⟨configured, -, h⟩
  rcases bind_eq_ok.mp h with ⟨mass, -, h⟩
  rcases bind_eq_ok.mp h with ⟨_, -, h⟩
  rcases bind_eq_ok.mp h with ⟨_, -, h⟩
  rcases bind_eq_ok.mp h with ⟨_, -, h⟩
  cases h

/-- The first loop: mapped uids are distinct, and the answer says whether a
hotkey is missing. -/
theorem tdxMissing_ok {hotkeyToUid : Dict String ℤ} (value : Row → ℚ) :
    ∀ {rows : List Row} {mappedUids : List ℤ} {missing : Bool},
      tdxMissing hotkeyToUid rows mappedUids = .ok missing →
        ((mapped hotkeyToUid value rows).map Prod.fst).Nodup ∧
        (∀ uid ∈ mappedUids, uid ∉ (mapped hotkeyToUid value rows).map Prod.fst) ∧
        (missing = true ↔ ∃ row ∈ rows, hotkeyToUid.get? row.minerHotkey = none)
  | [], mappedUids, missing, h => by
    cases h
    simp [mapped]
  | row :: rest, mappedUids, missing, h => by
    unfold tdxMissing at h
    cases hget : hotkeyToUid.get? row.minerHotkey with
    | none =>
      simp only [hget] at h
      rcases bind_eq_ok.mp h with ⟨m, hrest, h⟩
      cases h
      rcases tdxMissing_ok value hrest with ⟨hnodup, hdisjoint, -⟩
      rw [mapped_cons_none value rest hget]
      exact ⟨hnodup, hdisjoint, by simp [hget]⟩
    | some uid =>
      simp only [hget] at h
      split_ifs at h with hmem
      · cases h
      · rcases tdxMissing_ok value h with ⟨hnodup, hdisjoint, hmissing⟩
        rw [mapped_cons_some value rest hget, List.map_cons]
        refine ⟨List.nodup_cons.mpr ⟨hdisjoint uid (List.mem_cons_self ..), hnodup⟩, ?_, ?_⟩
        · intro u hu
          rw [List.mem_cons, not_or]
          refine ⟨?_, hdisjoint u (List.mem_cons_of_mem _ hu)⟩
          rintro rfl
          exact hmem hu
        · rw [hmissing]
          simp [hget]

/-- The second loop assigns the positive values. -/
theorem tdxScore_foldlM {hotkeyToUid : Dict String ℤ} {missing : Bool} :
    ∀ {rows : List Row} {scores scores' : Dict ℤ ℚ},
      (∀ row ∈ rows, ∃ x, (row.tdxValue missing).float = .ok x ∧ x.FiniteNonneg) →
      rows.foldlM (tdxScore hotkeyToUid missing) scores = .ok scores' →
      scores' = ((mapped hotkeyToUid (fun row => (row.tdxValue missing).value) rows).filter
        fun kv => 0 < kv.2).foldl (fun d kv => d.set kv.1 kv.2) scores
  | [], scores, scores', _, h => by
    cases h
    rfl
  | row :: rest, scores, scores', hvalid, h => by
    rw [List.foldlM_cons] at h
    rcases bind_eq_ok.mp h with ⟨mid, hfirst, hrest⟩
    have ih := tdxScore_foldlM (fun r hr => hvalid r (List.mem_cons_of_mem _ hr)) hrest
    unfold tdxScore at hfirst
    cases hget : hotkeyToUid.get? row.minerHotkey with
    | none =>
      rw [hget] at hfirst
      cases hfirst
      rw [mapped_cons_none _ rest hget]
      exact ih
    | some uid =>
      simp only [hget] at hfirst
      rcases bind_eq_ok.mp hfirst with ⟨positive, hpositive, hfirst⟩
      rcases bind_eq_ok.mp hfirst with ⟨x, hx, hfirst⟩
      cases hfirst
      have hdecide := Attr.positive_ok (hvalid row (List.mem_cons_self ..)) hpositive
      have hvalue : (row.tdxValue missing).value = finiteOf x := by simp [Attr.value, hx]
      rw [ih, mapped_cons_some _ rest hget, hdecide, ← hvalue]
      by_cases hpos : 0 < (row.tdxValue missing).value <;> simp [hpos]

/-! ## The confidential-primary branch -/

theorem primaryRow_ok {acc acc' : PrimaryRows} (h : primaryRow acc row = .ok acc') :
    row.weight.FiniteNonneg ∧ row.minerHotkey ∉ acc.hotkeys ∧
      acc' =
        { hotkeys := row.minerHotkey :: acc.hotkeys
          weightMass := acc.weightMass + row.value
          positive :=
            if 0 < row.value then acc.positive ++ [(row.minerHotkey, row.value)]
            else acc.positive } := by
  rcases bind_eq_ok.mp h with ⟨_, -, h⟩
  rcases bind_eq_ok.mp h with ⟨⟨w, b, e⟩, hattribution, h⟩
  rcases bind_eq_ok.mp h with ⟨_, -, h⟩
  rcases bind_eq_ok.mp h with ⟨_, -, h⟩
  rcases bind_eq_ok.mp h with ⟨_, -, h⟩
  rcases bind_eq_ok.mp h with ⟨_, hnew, h⟩
  rcases attribution_ok hattribution with ⟨hweight, rfl, -⟩
  cases h
  exact ⟨hweight, refuse_eq_ok.mp hnew, rfl⟩

/-- What the row loop has found out about the signed rows. -/
theorem primaryRow_foldlM : ∀ {rows : List Row} {acc acc' : PrimaryRows},
    rows.foldlM primaryRow acc = .ok acc' →
      (∀ row ∈ rows, row.weight.FiniteNonneg) ∧
      (rows.map Row.minerHotkey).Nodup ∧
      (∀ hotkey ∈ acc.hotkeys, hotkey ∉ rows.map Row.minerHotkey) ∧
      acc'.weightMass = acc.weightMass + (rows.map Row.value).sum ∧
      acc'.positive = acc.positive ++
        (rows.filter fun row => 0 < row.value).map fun row => (row.minerHotkey, row.value)
  | [], acc, acc', h => by
    cases h
    simp
  | row :: rest, acc, acc', h => by
    rw [List.foldlM_cons] at h
    rcases bind_eq_ok.mp h with ⟨mid, hfirst, hrest⟩
    rcases primaryRow_ok hfirst with ⟨hweight, hnew, rfl⟩
    rcases primaryRow_foldlM hrest with ⟨hweights, hnodup, hdisjoint, hmass, hpositive⟩
    refine ⟨List.forall_mem_cons.mpr ⟨hweight, hweights⟩, ?_, ?_, ?_, ?_⟩
    · rw [List.map_cons, List.nodup_cons]
      exact ⟨hdisjoint _ (List.mem_cons_self ..), hnodup⟩
    · intro hotkey hmem
      rw [List.map_cons, List.mem_cons, not_or]
      refine ⟨?_, hdisjoint hotkey (List.mem_cons_of_mem _ hmem)⟩
      rintro rfl
      exact hnew hmem
    · rw [hmass, List.map_cons, List.sum_cons, add_assoc]
    · rw [hpositive]
      by_cases hpos : 0 < row.value <;> simp [hpos]

/-- The uids of the signed hotkeys that map. -/
def mappedSigned (hotkeyToUid : Dict String ℤ) (positive : List (String × ℚ)) : List (ℤ × ℚ) :=
  positive.filterMap fun signed => (hotkeyToUid.get? signed.1).map fun uid => (uid, signed.2)

/-- Every signed hotkey has a uid, and it is not the burn uid. -/
def MapsClear (hotkeyToUid : Dict String ℤ) (burnUid : Option ℤ)
    (positive : List (String × ℚ)) : Prop :=
  ∀ signed ∈ positive, ∃ uid, hotkeyToUid.get? signed.1 = some uid ∧ some uid ≠ burnUid

theorem mapPrimary_eq_ok {hotkeyToUid : Dict String ℤ} {burnUid : Option ℤ}
    {scores scores' : Dict ℤ ℚ} {signed : String × ℚ} :
    mapPrimary hotkeyToUid burnUid scores signed = .ok scores' ↔
      ∃ uid, hotkeyToUid.get? signed.1 = some uid ∧ some uid ≠ burnUid ∧
        uid ∉ scores.keys ∧ scores' = scores.set uid signed.2 := by
  have hkeys : ∀ uid, scores.contains uid = true ↔ uid ∈ scores.keys := by
    intro uid
    rw [Dict.contains, Option.isSome_iff_exists, Dict.mem_keys]
  unfold mapPrimary
  cases hget : hotkeyToUid.get? signed.1 with
  | none => simp [fail]
  | some uid =>
    simp only [bind_eq_ok, refuse_eq_ok, hkeys]
    constructor
    · rintro ⟨_, hburn, _, hnew, h⟩
      cases h
      exact ⟨uid, rfl, hburn, hnew, rfl⟩
    · rintro ⟨_, ⟨⟩, hburn, hnew, rfl⟩
      exact ⟨(), hburn, (), hnew, rfl⟩

/-- The mapping loop returns exactly when every signed hotkey maps clear of the
burn uid and no uid repeats; then it has assigned every signed value. -/
theorem mapPrimary_foldlM {hotkeyToUid : Dict String ℤ} {burnUid : Option ℤ} :
    ∀ {positive : List (String × ℚ)} {scores scores' : Dict ℤ ℚ}, scores.keys.Nodup →
      (positive.foldlM (mapPrimary hotkeyToUid burnUid) scores = .ok scores' ↔
        MapsClear hotkeyToUid burnUid positive ∧
        (scores.keys ++ (mappedSigned hotkeyToUid positive).map Prod.fst).Nodup ∧
        scores' = (mappedSigned hotkeyToUid positive).foldl (fun d kv => d.set kv.1 kv.2) scores)
  | [], scores, scores', hscores => by
    simp [MapsClear, mappedSigned, hscores, pure, Except.pure, eq_comm]
  | signed :: rest, scores, scores', hscores => by
    rw [List.foldlM_cons, bind_eq_ok]
    simp only [mapPrimary_eq_ok]
    constructor
    · rintro ⟨mid, ⟨uid, hget, hburn, hnew, rfl⟩, hrest⟩
      have hnodup : (scores.set uid signed.2).keys.Nodup := (scores.set uid signed.2).nodup
      rcases (mapPrimary_foldlM hnodup).mp hrest with ⟨hclear, hall, rfl⟩
      rw [Dict.keys_set_of_notMem _ hnew, List.append_assoc] at hall
      have hcons : mappedSigned hotkeyToUid (signed :: rest) =
          (uid, signed.2) :: mappedSigned hotkeyToUid rest := by simp [mappedSigned, hget]
      rw [hcons]
      exact ⟨List.forall_mem_cons.mpr ⟨⟨uid, hget, hburn⟩, hclear⟩, hall, rfl⟩
    · rintro ⟨hclear, hall, rfl⟩
      rcases hclear signed (List.mem_cons_self ..) with ⟨uid, hget, hburn⟩
      have hcons : mappedSigned hotkeyToUid (signed :: rest) =
          (uid, signed.2) :: mappedSigned hotkeyToUid rest := by simp [mappedSigned, hget]
      rw [hcons, List.map_cons] at hall
      have hnew : uid ∉ scores.keys := by
        intro hmem
        exact (List.disjoint_of_nodup_append hall) hmem (List.mem_cons_self ..)
      refine ⟨scores.set uid signed.2, ⟨uid, hget, hburn, hnew, rfl⟩, ?_⟩
      have hnodup : (scores.set uid signed.2).keys.Nodup := (scores.set uid signed.2).nodup
      refine (mapPrimary_foldlM hnodup).mpr ⟨fun s hs => hclear s (List.mem_cons_of_mem _ hs),
        ?_, by rw [hcons, List.foldl_cons]⟩
      rw [Dict.keys_set_of_notMem _ hnew, List.append_assoc]
      exact hall

theorem mappedSigned_rows (hotkeyToUid : Dict String ℤ) (rows : List Row) :
    mappedSigned hotkeyToUid ((rows.filter fun row => 0 < row.value).map
        fun row => (row.minerHotkey, row.value)) =
      (mapped hotkeyToUid Row.value rows).filter fun kv => 0 < kv.2 := by
  induction rows with
  | nil => rfl
  | cons row rest ih =>
    simp only [mappedSigned] at ih ⊢
    cases h : hotkeyToUid.get? row.minerHotkey with
    | none =>
      rw [mapped_cons_none _ _ h, ← ih]
      by_cases hpos : 0 < row.value <;> simp [hpos, h]
    | some uid =>
      rw [mapped_cons_some _ _ h]
      by_cases hpos : 0 < row.value <;> simp [hpos, h, ih]

/-! ## The accepted payload -/

/-- The burn uid of a vector: the uid of its burn hotkey, if it names one. -/
def Payload.burnDestination (payload : Payload) (hotkeyToUid : Dict String ℤ) : Option ℤ :=
  payload.burnSnapshot.bind fun snap =>
    match snap.burnHotkey with
    | none => snap.burnUid
    | some burnHotkey => hotkeyToUid.get? burnHotkey

/-- The forced burn percentage of a vector. -/
def Payload.percentage (payload : Payload) : ℚ :=
  ((payload.burnSnapshot.map BurnSnapshot.forcedBurnPercentage).getD .missing).value

/-- The vector with its burn hotkey resolved. -/
def Payload.resolved (payload : Payload) (snap : BurnSnapshot) (hotkeyToUid : Dict String ℤ) :
    Payload :=
  let resolvedSnap := { snap with burnUid := payload.burnDestination hotkeyToUid }
  { payload with burnSnapshot := some resolvedSnap }

theorem checkAllocation_ok {payload : Payload} (h : checkAllocation payload = .ok ()) :
    WeightsValid payload.weights ∧ 0 ≤ payload.percentage ∧ payload.percentage ≤ 100 ∧
      ∃ snap, payload.burnSnapshot = some snap ∧
        (0 < payload.percentage → snap.burnUid = none → snap.burnHotkey ≠ none) := by
  rcases bind_eq_ok.mp h with ⟨percentage, hpercentage, h⟩
  rcases bind_eq_ok.mp h with ⟨_, -, h⟩
  rcases bind_eq_ok.mp h with ⟨_, hrange, h⟩
  rcases bind_eq_ok.mp h with ⟨_, -, h⟩
  rcases bind_eq_ok.mp h with ⟨_, hdest, h⟩
  rcases bind_eq_ok.mp h with ⟨_, hweights, -⟩
  rw [refuse_eq_ok, not_not] at hrange hweights
  rcases hrange with ⟨q, rfl, hq0, hq⟩
  cases hsnap : payload.burnSnapshot with
  | none =>
    rw [hsnap] at hpercentage
    cases hpercentage
    exact absurd hq0 (by norm_num)
  | some snap =>
    have hfloat : snap.forcedBurnPercentage.float = .ok (.finite q) := by
      rw [hsnap] at hpercentage
      simp only [burnPercentage, Option.map_some] at hpercentage
      split at hpercentage
      · rename_i hnone
        cases hnone
      · cases hpercentage
        exact absurd hq0 (by norm_num)
      · rename_i hsome
        cases hsome
        exact hpercentage
    have hvalue : payload.percentage = q := by
      simp [Payload.percentage, hsnap, Attr.value, hfloat, finiteOf]
    rw [hvalue]
    refine ⟨hweights, hq0, hq, snap, rfl, fun hpos huid hhotkey => ?_⟩
    rw [refuse_eq_ok] at hdest
    exact hdest ⟨hpos, by simp [hsnap, huid], by simp [hsnap, hhotkey]⟩

/-- Resolving the burn hotkey changes the burn uid only. -/
theorem resolveBurnHotkey_ok {payload payload' : Payload} {hotkeyToUid : Dict String ℤ}
    {snap : BurnSnapshot} (hsnap : payload.burnSnapshot = some snap)
    (h : resolveBurnHotkey payload hotkeyToUid = .ok payload') :
    payload' = payload.resolved snap hotkeyToUid ∧
      (snap.burnHotkey ≠ none → payload.burnDestination hotkeyToUid ≠ none) := by
  unfold resolveBurnHotkey at h
  simp only [hsnap] at h
  cases hhotkey : snap.burnHotkey with
  | none =>
    simp only [hhotkey] at h
    cases h
    have hdest : payload.burnDestination hotkeyToUid = snap.burnUid := by
      simp [Payload.burnDestination, hsnap, hhotkey]
    have hsame : { snap with burnUid := snap.burnUid } = snap := rfl
    rw [Payload.resolved, hdest, hsame, ← hsnap]
    exact ⟨rfl, fun hne => absurd rfl hne⟩
  | some burnHotkey =>
    simp only [hhotkey] at h
    cases hget : hotkeyToUid.get? burnHotkey with
    | none =>
      simp only [hget] at h
      cases h
    | some resolvedUid =>
      simp only [hget] at h
      rcases bind_eq_ok.mp h with ⟨_, -, h⟩
      cases h
      have hdest : payload.burnDestination hotkeyToUid = some resolvedUid := by
        simp [Payload.burnDestination, hsnap, hhotkey, hget]
      rw [Payload.resolved, hdest]
      exact ⟨by rw [hhotkey], fun _ => by simp⟩

/-! ## The distribution -/

/-- The vector is applied as a v3 vector although some of its hotkeys have no uid. -/
def MapsIncompletely (payload : Payload) (hotkeyToUid : Dict String ℤ)
    (requirePolicy : Option RequirePolicy) : Prop :=
  requirePolicy = none ∧ payload.policyMetadata.confidentialPrimary = .absent ∧
    (∃ cap ∈ payload.policyMetadata.confidentialTdxCap, cap.capVersion = some "v3") ∧
    ∃ row ∈ payload.weights, hotkeyToUid.get? row.minerHotkey = none

instance (payload : Payload) (hotkeyToUid : Dict String ℤ)
    (requirePolicy : Option RequirePolicy) :
    Decidable (MapsIncompletely payload hotkeyToUid requirePolicy) :=
  inferInstanceAs (Decidable (_ ∧ _))

/-- The signed value of a row: its weight, or its base component when a v3 vector
maps incompletely. -/
def signedValue (payload : Payload) (hotkeyToUid : Dict String ℤ)
    (requirePolicy : Option RequirePolicy) (row : Row) : ℚ :=
  if MapsIncompletely payload hotkeyToUid requirePolicy then row.baseComponent.value
  else row.value

/-- The weights distribute the signed vector: the burn percentage to the burn
uid, the rest to the other uids in proportion to the signed values of their
hotkeys, and everything to the burn uid when no positive value maps elsewhere. -/
structure Distributes (payload : Payload) (hotkeyToUid : Dict String ℤ) (value : Row → ℚ)
    (result : Dict ℤ ℚ) : Prop where
  split : BurnSplit (payload.burnDestination hotkeyToUid) payload.percentage
    (fun uid => signedOn hotkeyToUid value payload.weights fun u => u = uid)
    (signedOn hotkeyToUid value payload.weights
      fun uid => some uid ≠ payload.burnDestination hotkeyToUid) result
  signed : ∀ uid ∈ result.keys, some uid = payload.burnDestination hotkeyToUid ∨
    ∃ row ∈ payload.weights, hotkeyToUid.get? row.minerHotkey = some uid

theorem exists_row_of_mapped {hotkeyToUid : Dict String ℤ} {value : Row → ℚ} {uid : ℤ}
    (h : uid ∈ (mapped hotkeyToUid value rows).map Prod.fst) :
    ∃ row ∈ rows, hotkeyToUid.get? row.minerHotkey = some uid := by
  rcases List.mem_map.mp h with ⟨kv, hkv, rfl⟩
  rcases List.mem_filterMap.mp hkv with ⟨row, hrow, hmap⟩
  rcases Option.map_eq_some_iff.mp hmap with ⟨u, hu, rfl⟩
  exact ⟨row, hrow, hu⟩

theorem nonneg_mapped {hotkeyToUid : Dict String ℤ} {value : Row → ℚ}
    (h : ∀ row ∈ rows, 0 ≤ value row) : ∀ kv ∈ mapped hotkeyToUid value rows, 0 ≤ kv.2 := by
  intro kv hkv
  rcases List.mem_filterMap.mp hkv with ⟨row, hrow, hmap⟩
  rcases Option.map_eq_some_iff.mp hmap with ⟨u, -, rfl⟩
  exact h row hrow

section Branches

variable {payload : Payload} {hotkeyToUid : Dict String ℤ} {snap : BurnSnapshot}
  {result : Dict ℤ ℚ}

/-- What a branch distributes whose scores have collected the mapped rows. -/
theorem distributes_of_collects {value : Row → ℚ} {scores : Dict ℤ ℚ}
    (hcheck : checkAllocation payload = .ok ())
    (hsnap : payload.burnSnapshot = some snap)
    (hdest : snap.burnHotkey ≠ none → payload.burnDestination hotkeyToUid ≠ none)
    (hvalue : ∀ row ∈ payload.weights, 0 ≤ value row)
    (hscores : Collects scores (mapped hotkeyToUid value payload.weights))
    (h : applySnapshot scores { snap with burnUid := payload.burnDestination hotkeyToUid } =
      .ok result) :
    Distributes payload hotkeyToUid value result := by
  rcases checkAllocation_ok hcheck with ⟨-, hb, hb', snap', hsnap', hburn⟩
  rw [hsnap] at hsnap'
  cases hsnap'
  rcases bind_eq_ok.mp h with ⟨percentage, hpercentage, h⟩
  have hq : finiteOf percentage = payload.percentage := by
    have hfloat : snap.forcedBurnPercentage.float = .ok percentage := hpercentage
    simp [Payload.percentage, hsnap, Attr.value, hfloat]
  rw [hq] at h
  have hnone : payload.burnDestination hotkeyToUid = none → payload.percentage = 0 := by
    intro hnone
    by_contra hne
    have hhotkey : snap.burnHotkey = none := by
      by_contra hsome
      exact hdest hsome hnone
    have huid : snap.burnUid = none := by
      simpa [Payload.burnDestination, hsnap, hhotkey] using hnone
    exact hburn (lt_of_le_of_ne hb (Ne.symm hne)) huid hhotkey
  rcases applyBurn_ok (hscores.nonneg (nonneg_mapped hvalue)) hb hb' hnone h with ⟨hsplit, hkeys⟩
  have hmass : (fun uid => scores.getD uid 0) =
      fun uid => signedOn hotkeyToUid value payload.weights fun u => u = uid := by
    funext uid
    rw [← Dict.sumOn_eq, hscores.signedOn]
  rw [hmass, hscores.signedOn] at hsplit
  refine ⟨hsplit, fun uid huid => ?_⟩
  rcases hkeys uid huid with hburn | hmem
  · exact .inl hburn
  · exact .inr (exists_row_of_mapped (hscores.keys uid hmem))

theorem primary_distributes {mass : PrimaryMass} (hcheck : checkAllocation payload = .ok ())
    (hsnap : payload.burnSnapshot = some snap)
    (hdest : snap.burnHotkey ≠ none → payload.burnDestination hotkeyToUid ≠ none)
    (h : confidentialPrimaryToUidWeights (payload.resolved snap hotkeyToUid) mass hotkeyToUid =
      .ok result) :
    Distributes payload hotkeyToUid Row.value result := by
  rcases bind_eq_ok.mp h with ⟨snap', hsnap', h⟩
  cases hsnap'
  rcases bind_eq_ok.mp h with ⟨rows, hrows, h⟩
  rcases bind_eq_ok.mp h with ⟨_, -, h⟩
  rcases bind_eq_ok.mp h with ⟨scores, hscores, h⟩
  rcases primaryRow_foldlM hrows with ⟨hweights, -, -, -, hpositive⟩
  have hempty : (∅ : Dict ℤ ℚ).keys.Nodup := List.nodup_nil
  rcases (mapPrimary_foldlM hempty).mp hscores with ⟨-, hnodup, rfl⟩
  rw [hpositive, List.nil_append, mappedSigned_rows] at hnodup h
  have hvalue : ∀ row ∈ payload.weights, 0 ≤ row.value := fun row hrow =>
    value_nonneg (hweights row hrow)
  exact distributes_of_collects hcheck hsnap hdest hvalue
    (collects_ofList hnodup (nonneg_mapped hvalue)) h

theorem tdx_distributes {missing : Bool} (hcheck : checkAllocation payload = .ok ())
    (hsnap : payload.burnSnapshot = some snap)
    (hdest : snap.burnHotkey ≠ none → payload.burnDestination hotkeyToUid ≠ none)
    (hrows : ∀ row ∈ payload.weights, row.weight.FiniteNonneg ∧
      ∃ x, row.baseComponent.float = .ok x ∧ x.FiniteNonneg)
    (hmissing : tdxMissing hotkeyToUid payload.weights [] = .ok missing)
    {scores : Dict ℤ ℚ}
    (hscores : payload.weights.foldlM (tdxScore hotkeyToUid missing) ∅ = .ok scores)
    (h : applySnapshot scores { snap with burnUid := payload.burnDestination hotkeyToUid } =
      .ok result) :
    Distributes payload hotkeyToUid (fun row => (row.tdxValue missing).value) result := by
  have hvalid : ∀ row ∈ payload.weights,
      ∃ x, (row.tdxValue missing).float = .ok x ∧ x.FiniteNonneg := by
    intro row hrow
    rcases hrows row hrow with ⟨hweight, hbase⟩
    cases missing with
    | true => exact hbase
    | false => exact ⟨row.weight, rfl, hweight⟩
  have hvalue : ∀ row ∈ payload.weights, 0 ≤ (row.tdxValue missing).value := fun row hrow =>
    Attr.value_nonneg (hvalid row hrow)
  rw [tdxScore_foldlM hvalid hscores] at h
  have hnodup := (tdxMissing_ok (fun row => (row.tdxValue missing).value) hmissing).1
  exact distributes_of_collects hcheck hsnap hdest hvalue (collects_ofList
    (hnodup.sublist (List.filter_sublist.map _)) (nonneg_mapped hvalue)) h

theorem legacy_distributes (hcheck : checkAllocation payload = .ok ())
    (hsnap : payload.burnSnapshot = some snap)
    (hdest : snap.burnHotkey ≠ none → payload.burnDestination hotkeyToUid ≠ none)
    (h : applySnapshot (payload.weights.foldl (legacyScore hotkeyToUid) ∅)
      { snap with burnUid := payload.burnDestination hotkeyToUid } = .ok result) :
    Distributes payload hotkeyToUid Row.value result := by
  rcases checkAllocation_ok hcheck with ⟨hweights, -⟩
  rw [legacyScore_foldl] at h
  exact distributes_of_collects hcheck hsnap hdest
    (fun row hrow => value_nonneg (hweights row hrow)) (collects_foldl_add _) h

end Branches

/-- The branches without a pin distribute the signed values. -/
theorem unpinned_distributes {payload : Payload} {hotkeyToUid : Dict String ℤ}
    {snap : BurnSnapshot} {result : Dict ℤ ℚ} {cp : Option PrimaryMass}
    (hcheck : checkAllocation payload = .ok ())
    (hsnap : payload.burnSnapshot = some snap)
    (hdest : snap.burnHotkey ≠ none → payload.burnDestination hotkeyToUid ≠ none)
    (hcp : confidentialPrimaryMeta payload = .ok cp)
    (h : unpinnedUidWeights (payload.resolved snap hotkeyToUid)
      { snap with burnUid := payload.burnDestination hotkeyToUid } cp hotkeyToUid = .ok result) :
    Distributes payload hotkeyToUid (signedValue payload hotkeyToUid none) result := by
  have hprimary : cp = none ↔ payload.policyMetadata.confidentialPrimary = .absent := by
    unfold confidentialPrimaryMeta at hcp
    split at hcp
    · cases hcp
      simpa using ‹_›
    · cases hcp
    · rcases bind_eq_ok.mp hcp with ⟨mass, -, hcp⟩
      cases hcp
      simp_all
  cases cp with
  | some mass =>
    -- a confidential-primary vector is never applied as a v3 vector
    have hnot : ¬ MapsIncompletely payload hotkeyToUid none := by
      rintro ⟨-, habsent, -⟩
      cases hprimary.mpr habsent
    have hvalue : signedValue payload hotkeyToUid none = Row.value :=
      funext fun row => if_neg hnot
    rw [hvalue]
    exact primary_distributes hcheck hsnap hdest h
  | none =>
    rcases bind_eq_ok.mp h with ⟨v3Rows, hv3Rows, h⟩
    have hv3 : confidentialTdxV3Rows payload = .ok v3Rows := hv3Rows
    cases v3Rows with
    | some rows =>
      rcases confidentialTdxV3Rows_ok hv3 with ⟨rfl, ⟨cap, hcap, hversion⟩, hrows⟩
      rcases bind_eq_ok.mp h with ⟨missing, hmissing, h⟩
      rcases bind_eq_ok.mp h with ⟨scores, hscores, h⟩
      have hiff : MapsIncompletely payload hotkeyToUid none ↔ missing = true := by
        rw [(tdxMissing_ok Row.value hmissing).2.2]
        exact ⟨fun hm => hm.2.2.2, fun hm => ⟨rfl, hprimary.mp rfl, ⟨cap, hcap, hversion⟩, hm⟩⟩
      have hvalue : signedValue payload hotkeyToUid none =
          fun row => (row.tdxValue missing).value := by
        funext row
        cases missing with
        | true => exact if_pos (hiff.mpr rfl)
        | false => exact if_neg fun hm => by cases hiff.mp hm
      rw [hvalue]
      exact tdx_distributes hcheck hsnap hdest hrows hmissing hscores h
    | none =>
      have hnot : ¬ MapsIncompletely payload hotkeyToUid none := by
        rintro ⟨-, -, ⟨cap, hcap, hversion⟩, -⟩
        exact confidentialTdxV3Rows_none hv3 ⟨cap, hcap, hversion⟩
      have hvalue : signedValue payload hotkeyToUid none = Row.value :=
        funext fun row => if_neg hnot
      rw [hvalue]
      exact legacy_distributes hcheck hsnap hdest h

/-- Whatever vector passes the structural check and under whatever pin it is
mapped, the weights distribute its signed values. -/
theorem vectorToUidWeights_distributes (parseUtc : String → Option ℤ) (payload : Payload)
    (network : String) (netuid : ℤ) (nowIso : String) (hotkeyToUid : Dict String ℤ)
    (requirePolicy : Option RequirePolicy) (result : Dict ℤ ℚ)
    (hcheck : invariantCheck parseUtc payload network netuid nowIso = .ok ())
    (h : vectorToUidWeights payload hotkeyToUid requirePolicy = .ok result) :
    Distributes payload hotkeyToUid (signedValue payload hotkeyToUid requirePolicy) result := by
  rcases bind_eq_ok.mp hcheck with ⟨_, hallocation, -⟩
  rcases checkAllocation_ok hallocation with ⟨-, -, -, snap, hsnap, -⟩
  rcases bind_eq_ok.mp h with ⟨validatedSupply, -, h⟩
  rcases bind_eq_ok.mp h with ⟨payload', hpayload', h⟩
  rcases resolveBurnHotkey_ok hsnap hpayload' with ⟨rfl, hdest⟩
  rcases bind_eq_ok.mp h with ⟨snap', hsnap', h⟩
  cases hsnap'
  rcases bind_eq_ok.mp h with ⟨cp, hcp, h⟩
  have hpinned : ∀ policy : RequirePolicy,
      signedValue payload hotkeyToUid (some policy) = Row.value := fun policy =>
    funext fun row => if_neg fun hm => by cases hm.1
  cases requirePolicy with
  | none => exact unpinned_distributes hallocation hsnap hdest hcp h
  | some policy =>
    rw [hpinned]
    cases policy with
    | confidentialPrimaryV1 =>
      cases cp with
      | none => cases h
      | some mass => exact primary_distributes hallocation hsnap hdest h
    | validatedSupplyV1 =>
      simp only at h
      split_ifs at h with hsupply
      · cases cp with
        | none => cases h
        | some mass => exact primary_distributes hallocation hsnap hdest h
      · cases h

/-! A v3 vector of two hotkeys, of which only the second one, without a base
component, has a uid. -/

def signedTwo : Payload where
  weights :=
    [{ minerHotkey := "a", weight := .finite (9 / 10),
       baseComponent := .number (.finite (9 / 10)), externalComponent := .number (.finite 0) },
     { minerHotkey := "b", weight := .finite (1 / 10),
       baseComponent := .number (.finite 0), externalComponent := .number (.finite (1 / 10)) }]
  burnSnapshot := some
    { burnUid := some 0, burnHotkey := none, forcedBurnPercentage := .number (.finite 10) }
  policyMetadata :=
    { confidentialTdxCap := some
        { capVersion := some "v3", configuredFraction := .number (.finite (1 / 10)) } }
  network := some "finney"
  netuid := some 39
  generatedAt := some "2026-07-24T00:00:00.000Z"
  expiresAt := some "2026-07-24T00:10:00.000Z"

/-- The two times of `signedTwo`, in microseconds after the first. -/
def minutesUtc (text : String) : Option ℤ :=
  if text = "2026-07-24T00:00:00.000Z" then some 0
  else if text = "2026-07-24T00:10:00.000Z" then some 600000000
  else none

theorem signedTwo_checked :
    invariantCheck minutesUtc signedTwo "finney" 39 "2026-07-24T00:00:00.000Z" = .ok () := by
  decide +kernel

theorem signedTwo_mapped :
    vectorToUidWeights signedTwo (Dict.ofList [("b", 1)]) none = .ok (Dict.ofList [(0, 1)]) := by
  decide +kernel

/-- The weight of `b` is positive and maps to uid 1, and yet the burn uid
receives everything: only its base component counts. -/
theorem positive_weight_burnt :
    invariantCheck minutesUtc signedTwo "finney" 39 "2026-07-24T00:00:00.000Z" = .ok () ∧
      vectorToUidWeights signedTwo (Dict.ofList [("b", 1)]) none = .ok (Dict.ofList [(0, 1)]) ∧
      signedTwo.burnDestination (Dict.ofList [("b", 1)]) = some 0 ∧
      0 < signedOn (Dict.ofList [("b", 1)]) Row.value signedTwo.weights (fun uid => some uid ≠ some 0) ∧
      (Dict.ofList [((0 : ℤ), (1 : ℚ))]).getD 0 0 ≠ signedTwo.percentage / 100 :=
  ⟨signedTwo_checked, signedTwo_mapped, by decide +kernel, by decide +kernel, by decide +kernel⟩

theorem vectorToUidWeights_distributes_two :
    Distributes signedTwo (Dict.ofList [("b", 1)])
      (signedValue signedTwo (Dict.ofList [("b", 1)]) none) (Dict.ofList [(0, 1)]) :=
  vectorToUidWeights_distributes minutesUtc signedTwo "finney" 39 "2026-07-24T00:00:00.000Z" _ _ _
    signedTwo_checked signedTwo_mapped

end Cathedral.Sn39
