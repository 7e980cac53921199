import Cathedral.Publisher.CybergymSnapshot

/-!
# Cathedral.Publisher.CybergymBridge — the burn-safe allocation

`scaffold/publisher/cybergym_bridge.py`: the CyberGym mechanism is composed with the
others, its unproven fraction preserved, and what is forfeited goes to the uid of the
configured burn hotkey or the whole allocation is empty.

The laws of `compose` and the resolution of the burn hotkey are two separate reads of
the store; `allocation_conserves_mass` joins them.
-/

namespace Cathedral.Publisher.Cybergym

open Mechanisms

/-! ## Configuration -/

/-- The environment of the bridge, raw where the code parses it. -/
structure BridgeEnv where
  reader : ReaderEnv
  /-- `timedelta(seconds=payable_hotkeys_max_age_secs())`, in microseconds. -/
  payableMaxAge : ℤ
  minStake : ℚ
  mechanismEnabledRaw : String
  weightFractionRaw : String
  ownerPubkeyRaw : String
  burnHotkeyRaw : String
  burnUidRaw : String

/-- A row of the mechanism registry. -/
structure PersistedSpec where
  ownerPubkey : String
  weightFraction : PyFloat
  tier : String
  ownerUid : Option ℤ
  enabled : Bool
  requiresForfeitPreservation : Bool

abbrev MechanismStore : Type := Dict String PersistedSpec

/-- `raw.strip()` of a variable. -/
def stripped (raw : String) : String :=
  ((PyStr.encode? (PyStr.strip (PyStr.ofString raw))).getD "")

/-- The words that switch something on; no letter outside ASCII lowers to one of theirs. -/
def envBool (raw : String) : Bool :=
  (stripped raw).toList.map Char.toLower ∈ ["1", "true", "yes", "on"].map String.toList

def mechanismEnabled (env : BridgeEnv) : Bool := envBool env.mechanismEnabledRaw

/-- `_valid_fraction`: a number in [0, 1] or zero. -/
def validFraction : PyFloat → ℚ
  | .finite q => if q < 0 ∨ 1 < q then 0 else q
  | _ => 0

def weightFraction (I : Interp) (env : BridgeEnv) : ℚ :=
  if stripped env.weightFractionRaw = "" then 0
  else ((PyStr.float? I.numbers (PyStr.ofString (stripped env.weightFractionRaw))).map
    validFraction).getD 0

def tier : String := "artifact"

/-- `cybergym_spec`: a persisted spec wins, and is validated. -/
def cybergymSpec (I : Interp) (env : BridgeEnv) (mechStore : Option MechanismStore) :
    MechanismSpec :=
  match mechStore.bind fun specs => specs.get? mechanismId with
  | some row =>
    { mechanismId := mechanismId
      ownerPubkey := row.ownerPubkey
      weightFraction := validFraction row.weightFraction
      tier := row.tier
      ownerUid := row.ownerUid
      enabled := row.enabled
      requiresForfeitPreservation := true }
  | none =>
    { mechanismId := mechanismId
      ownerPubkey := stripped env.ownerPubkeyRaw
      weightFraction := weightFraction I env
      tier := tier
      ownerUid := none
      enabled := mechanismEnabled env
      requiresForfeitPreservation := true }

def burnHotkey (env : BridgeEnv) : Option String :=
  if stripped env.burnHotkeyRaw = "" then none else some (stripped env.burnHotkeyRaw)

/-! ## The burn destination -/

structure BurnMeta where
  reason : String
  burnHotkeyConfigured : Bool
  snapshot : Option SnapshotMeta
  boundHotkeys : Option (List String)
  configuredBurnUid : Option ℤ
  burnUid : Option ℤ
  burnHotkey : Option String

def BurnMeta.start : BurnMeta := ⟨"ok", false, none, none, none, none, none⟩

/-- `SELECT hotkey ... WHERE uid=?`, each once. -/
def boundHotkeys (g : Metagraph) (a : Audience) (uid : ℤ) : List String :=
  (((audienceRows g a).filter fun row => row.2.uid = some uid).map (·.1)).dedup

/-- The configured uid must agree, when there is one. -/
def confirmBurnUid (I : Interp) (env : BridgeEnv) (uid : ℤ) (hotkey : String) (info : BurnMeta) :
    Option ℤ × BurnMeta :=
  let found : Option ℤ × BurnMeta :=
    (some uid, { info with burnUid := some uid, burnHotkey := some hotkey })
  if stripped env.burnUidRaw = "" then found
  else
    match PyStr.int? I.numbers.tables (PyStr.ofString (stripped env.burnUidRaw)) with
    | none => (none, { info with reason := "burn_uid_configuration_invalid" })
    | some expected =>
      if expected ≠ uid then
        (none, { info with
          reason := "burn_uid_configuration_mismatch", configuredBurnUid := some expected })
      else found

def resolveBurnDestination (I : Interp) (env : BridgeEnv) (s : SnapshotSettings) (g : Metagraph)
    (now : ℤ) : Except Exc (Option ℤ × BurnMeta) :=
  match burnHotkey env with
  | none => .ok (none, { BurnMeta.start with reason := "burn_hotkey_not_configured" })
  | some hotkey => do
    let (fresh, snapshot) ← loadFreshMetagraphHotkeys s g now
    let info := { BurnMeta.start with burnHotkeyConfigured := true, snapshot := some snapshot }
    match fresh with
    | none => pure (none, { info with reason := "registration_snapshot_unavailable" })
    | some fresh =>
      if hotkey ∉ fresh then
        pure (none, { info with reason := "burn_hotkey_not_in_fresh_snapshot" })
      else
        match (g.get? (s.audience.network, s.audience.netuid, hotkey)).bind (·.uid) with
        | none => pure (none, { info with reason := "burn_hotkey_has_no_uid" })
        | some uid =>
          let bound := boundHotkeys g s.audience uid
          -- the uid must belong to this hotkey and no other
          if bound.toFinset ≠ {hotkey} then
            pure (none, { info with
              reason := "burn_uid_hotkey_mismatch"
              boundHotkeys := some (bound.insertionSort (· ≤ ·)) })
          else pure (confirmBurnUid I env uid hotkey info)

/-! ## The allocation -/

inductive AllocationStatus where
  | disabled
  | ok
  | noContribution
  | burnDestinationUnresolved

structure Allocation where
  status : AllocationStatus
  mechanismId : String
  enabled : Bool
  fraction : ℚ
  weights : Dict ℤ ℚ
  forfeitedFraction : ℚ
  contributingFraction : ℚ
  burnUid : Option ℤ
  burn : Option BurnMeta
  burnUidAlsoScored : Bool
  cybergym : Option Info
  debug : Option (Debug × EligibilityMeta)

/-- The result that the lane starts from. -/
def Allocation.start (spec : MechanismSpec) : Allocation where
  status := .disabled
  mechanismId := spec.mechanismId
  enabled := spec.enabled
  fraction := spec.weightFraction
  weights := Dict.empty
  forfeitedFraction := 0
  contributingFraction := 0
  burnUid := none
  burn := none
  burnUidAlsoScored := false
  cybergym := none
  debug := none

/-- What a caller hands to the lane. -/
structure LaneArgs where
  nowMs : Option ℤ
  mechStore : Option MechanismStore
  extraSpecs : List MechanismSpec
  extraScores : Scores
  maxScoreAgeMs : Option ℤ

/-- The arguments that the lane passes to `compose_eligible`. -/
def LaneArgs.composeArgs (args : LaneArgs) : ComposeArgs := ⟨true, args.maxScoreAgeMs, true⟩

def LaneArgs.specs (args : LaneArgs) (spec : MechanismSpec) : List MechanismSpec :=
  args.extraSpecs ++ [spec]

/-- The scores of the mechanisms; an empty CyberGym vector is left out. -/
def LaneArgs.scores (args : LaneArgs) (spec : MechanismSpec) (snapshot : Snapshot) : Scores :=
  if snapshot.vector.isEmpty then args.extraScores
  else args.extraScores.set spec.mechanismId (snapshot.vector, snapshot.scoreMeta)

/-- The forfeited fraction goes to the burn uid, on top of what it has. -/
def addBurn (result : Allocation) (weights : Dict ℤ ℚ) (forfeited : ℚ) (destination : ℤ) :
    Allocation :=
  { result with
    burnUidAlsoScored := weights.contains destination
    weights := weights.add destination forfeited
    burnUid := some destination
    status := .ok }

def cybergymAllocation (I : Interp) (env : BridgeEnv) (args : LaneArgs) (t : Tables)
    (g : Metagraph) (now : ℤ) : Except Exc Allocation := do
  let nowMs := args.nowMs.getD ((now - unixEpoch).tdiv 1000)
  let spec := cybergymSpec I env args.mechStore
  let result := Allocation.start spec
  if !spec.enabled || spec.weightFraction ≤ 0 then pure result
  else
    let snapshot ← cybergymScoreSnapshot I env.reader t g none now
    match env.reader.netuid with
    -- `int` of the netuid raises in `eligible_uids`
    | none => .error .valueError
    | some netuid =>
      let s : SnapshotSettings := ⟨⟨env.reader.network, netuid⟩, env.payableMaxAge, I.padsYear⟩
      let (weights, debug, eligibility) ← composeEligible s g now env.minStake (args.specs spec)
        (args.scores spec snapshot) nowMs args.composeArgs
      let forfeited := debug.forfeitedFraction
      let result :=
        { result with
          cybergym := some snapshot.info
          debug := some (debug, eligibility)
          forfeitedFraction := forfeited
          contributingFraction := debug.contributingFraction }
      if forfeited ≤ 0 then
        pure { result with
          status := if weights.isEmpty then .noContribution else .ok, weights := weights }
      else
        let (destination, burn) ← resolveBurnDestination I env s g now
        let result := { result with burn := some burn }
        match destination with
        | none => pure { result with status := .burnDestinationUnresolved }
        | some destination => pure (addBurn result weights forfeited destination)

/-! ## What the destination is -/

variable {env : BridgeEnv}

theorem confirmBurnUid_some {I : Interp} {uid : ℤ} {hotkey : String} {info info' : BurnMeta}
    {destination : ℤ} (h : confirmBurnUid I env uid hotkey info = (some destination, info')) :
    destination = uid := by
  unfold confirmBurnUid at h
  dsimp only at h
  split_ifs at h
  · cases h
    rfl
  · split at h
    · cases h
    · split_ifs at h
      · cases h
      · cases h
        rfl

variable {g : Metagraph}

theorem mem_boundHotkeys {a : Audience} {uid : ℤ} {hotkey : String} :
    hotkey ∈ boundHotkeys g a uid ↔
      ∃ row, g.get? (a.network, a.netuid, hotkey) = some row ∧ row.uid = some uid := by
  simp only [boundHotkeys, List.mem_dedup, List.mem_map, List.mem_filter, decide_eq_true_eq]
  constructor
  · rintro ⟨⟨hk, row⟩, ⟨hrow, huid⟩, rfl⟩
    exact ⟨row, mem_audienceRows.mp hrow, huid⟩
  · rintro ⟨row, hrow, huid⟩
    exact ⟨(hotkey, row), ⟨mem_audienceRows.mpr hrow, huid⟩, rfl⟩

/-- A uid that a fresh row binds to the hotkey, and that no other row has. -/
def SoleBinding (g : Metagraph) (a : Audience) (cutoff hotkey : String) (uid : ℤ) : Prop :=
  FreshlyBinds g a cutoff hotkey uid ∧
    ∀ other row, g.get? (a.network, a.netuid, other) = some row → row.uid = some uid →
      other = hotkey

/-- The destination is bound, by a fresh row, to the configured burn hotkey. -/
theorem resolveBurnDestination_some {I : Interp} {s : SnapshotSettings} {now destination : ℤ}
    {info : BurnMeta} (h : resolveBurnDestination I env s g now = .ok (some destination, info)) :
    ∃ hotkey cutoff, burnHotkey env = some hotkey ∧ s.cutoff now = .ok cutoff ∧
      SoleBinding g s.audience cutoff hotkey destination := by
  unfold resolveBurnDestination at h
  split at h
  · cases h
  · next hotkey hconfigured =>
      obtain ⟨⟨fresh, snapshot⟩, hload, h⟩ := bind_eq_ok.mp h
      obtain ⟨cutoff, hcutoff, hfresh⟩ := loadFresh_ok hload
      refine ⟨hotkey, cutoff, hconfigured, hcutoff, ?_⟩
      cases fresh with
      | none => cases h
      | some fresh =>
        dsimp only at h
        split_ifs at h with hmem
        · obtain ⟨row, hrow, hage⟩ := (hfresh hotkey).mp hmem
          rw [hrow, Option.bind_some] at h
          split at h
          · cases h
          · next uid huid =>
              split_ifs at h with hbound
              · cases h
              · obtain rfl := confirmBurnUid_some (Except.ok.inj h)
                refine ⟨⟨row, hrow, huid, hage⟩, fun other row' hrow' huid' => ?_⟩
                have hother := mem_boundHotkeys.mpr ⟨row', hrow', huid'⟩
                rw [← List.mem_toFinset, not_not.mp hbound] at hother
                exact Finset.mem_singleton.mp hother
        · cases h

theorem resolveBurnDestination_error {I : Interp} {s : SnapshotSettings} {now : ℤ} {e : Exc}
    (h : resolveBurnDestination I env s g now = .error e) : s.cutoff now = .error e := by
  unfold resolveBurnDestination at h
  split at h
  · cases h
  · rcases bind_eq_error.mp h with hload | ⟨⟨fresh, snapshot⟩, -, h⟩
    · exact loadFresh_error hload
    · cases fresh with
      | none => cases h
      | some fresh =>
        dsimp only at h
        split_ifs at h with hmem
        · split at h
          · cases h
          · split_ifs at h <;> cases h
        · cases h

/-! ## Conservation -/

/-- The snapshot settings of a bridge with a readable netuid. -/
def BridgeEnv.snapshotSettings (env : BridgeEnv) (I : Interp) (netuid : ℤ) : SnapshotSettings :=
  ⟨⟨env.reader.network, netuid⟩, env.payableMaxAge, I.padsYear⟩

/-- A weight table that pays the mechanisms' weights and the forfeited fraction to the
burn hotkey. -/
def PaysBurn (env : BridgeEnv) (s : SnapshotSettings) (g : Metagraph) (now : ℤ)
    (weights composed : Dict ℤ ℚ) (forfeited : ℚ) : Prop :=
  forfeited = 0 ∧ weights = composed ∨
    ∃ hotkey cutoff uid, burnHotkey env = some hotkey ∧ s.cutoff now = .ok cutoff ∧
      SoleBinding g s.audience cutoff hotkey uid ∧
        ∀ u, weights.getD u 0 = composed.getD u 0 + if uid = u then forfeited else 0

/-- The allocation is empty, or it pays the whole of the live fractions. -/
def ConservesMass (I : Interp) (env : BridgeEnv) (args : LaneArgs) (t : Tables) (g : Metagraph)
    (now : ℤ) (allocation : Allocation) : Prop :=
  allocation.weights = Dict.empty ∨
    allocation.weights.total = liveTotal (args.specs (cybergymSpec I env args.mechStore)) ∧
      ∃ netuid snapshot composed debug info, env.reader.netuid = some netuid ∧
        cybergymScoreSnapshot I env.reader t g none now = .ok snapshot ∧
        composeEligible (env.snapshotSettings I netuid) g now env.minStake
          (args.specs (cybergymSpec I env args.mechStore))
          (args.scores (cybergymSpec I env args.mechStore) snapshot)
          (args.nowMs.getD ((now - unixEpoch).tdiv 1000)) args.composeArgs =
            .ok (composed, debug, info) ∧
        PaysBurn env (env.snapshotSettings I netuid) g now allocation.weights composed
          debug.forfeitedFraction

theorem cybergymAllocation_ok {I : Interp} {args : LaneArgs} {t : Tables} {now : ℤ}
    {allocation : Allocation} (h : cybergymAllocation I env args t g now = .ok allocation) :
    ConservesMass I env args t g now allocation := by
  unfold cybergymAllocation at h
  dsimp only at h
  split_ifs at h with hlive
  · cases h
    exact Or.inl rfl
  · obtain ⟨snapshot, hsnapshot, h⟩ := bind_eq_ok.mp h
    split at h
    · cases h
    · next netuid hnetuid =>
        obtain ⟨⟨composed, debug, info⟩, hcompose, h⟩ := bind_eq_ok.mp h
        obtain ⟨uids, hlaws⟩ := composeEligible_ok rfl hcompose
        have hmass := hlaws.conserved
        rw [← hlaws.total] at hmass
        dsimp only at h
        by_cases hforfeited : debug.forfeitedFraction ≤ 0
        · -- nothing is forfeited: the composed weights are the allocation
          rw [if_pos hforfeited] at h
          cases h
          have hzero := le_antisymm hforfeited hlaws.forfeited_nonneg
          rw [hzero, add_zero] at hmass
          exact Or.inr ⟨hmass, netuid, snapshot, composed, debug, info, hnetuid, hsnapshot,
            hcompose, Or.inl ⟨hzero, rfl⟩⟩
        · rw [if_neg hforfeited] at h
          obtain ⟨⟨destination, burn⟩, hresolve, h⟩ := bind_eq_ok.mp h
          cases destination with
          | none =>
            cases h
            exact Or.inl rfl
          | some destination =>
            cases h
            obtain ⟨hotkey, cutoff, hhotkey, hcutoff, hbinds⟩ :=
              resolveBurnDestination_some hresolve
            refine Or.inr ⟨?_, netuid, snapshot, composed, debug, info, hnetuid, hsnapshot,
              hcompose, Or.inr ⟨hotkey, cutoff, destination, hhotkey, hcutoff, hbinds, ?_⟩⟩
            · show (composed.add destination debug.forfeitedFraction).total = _
              rw [← Dict.sumOn_true, Dict.sumOn_add, if_pos trivial, Dict.sumOn_true, hmass]
            · exact fun u => Dict.getD_add composed destination u _

/-- The lane raises only what its reads raise; its own mechanism is never composed with
renormalization. -/
theorem cybergymAllocation_error {I : Interp} {args : LaneArgs} {t : Tables} {now : ℤ} {e : Exc}
    (h : cybergymAllocation I env args t g now = .error e) :
    cybergymScoreSnapshot I env.reader t g none now = .error e ∨ env.reader.netuid = none ∨
      ∃ netuid, env.reader.netuid = some netuid ∧
        (env.snapshotSettings I netuid).cutoff now = .error e := by
  unfold cybergymAllocation at h
  dsimp only at h
  split_ifs at h
  · cases h
  · rcases bind_eq_error.mp h with hsnapshot | ⟨snapshot, -, h⟩
    · exact Or.inl hsnapshot
    · split at h
      · next hnetuid => exact Or.inr (Or.inl hnetuid)
      · next netuid hnetuid =>
          refine Or.inr (Or.inr ⟨netuid, hnetuid, ?_⟩)
          rcases bind_eq_error.mp h with hcompose | ⟨⟨composed, debug, info⟩, -, h⟩
          · exact composeEligible_error rfl hcompose
          · dsimp only at h
            by_cases hforfeited : debug.forfeitedFraction ≤ 0
            · rw [if_pos hforfeited] at h
              cases h
            · rw [if_neg hforfeited] at h
              rcases bind_eq_error.mp h with hresolve | ⟨⟨destination, burn⟩, -, h⟩
              · exact resolveBurnDestination_error hresolve
              · cases destination <;> cases h

/-- A lane of a quarter and one without scores. -/
def twoLanes : List MechanismSpec :=
  [⟨"sat", "", 3 / 4, "solve", none, true, false⟩, ⟨mechanismId, "", 1 / 4, tier, none, true, true⟩]

end Cathedral.Publisher.Cybergym
