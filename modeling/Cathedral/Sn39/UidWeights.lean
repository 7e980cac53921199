import Cathedral.Sn39.Vector

/-!
# Cathedral.Sn39.UidWeights — from a signed vector to UID weights

`vector_to_uid_weights` of `scaffold/validator_thin.py` with its branches
(confidential primary, v3 blend, legacy) and the `apply_burn` that ends each of
them, and `_provenance_uid_weights`, the second derivation of the allocation that
the launch gate compares with the first.
-/

namespace Cathedral.Sn39

/-! ## Burn -/

/-- `{uid: v / norm for uid, v in out.items()}` with `norm` the sum of the values. -/
def normalize (out : Dict ℤ ℚ) : Except Exc (Dict ℤ ℚ) :=
  if out.total = 0 then .error (.other "ZeroDivisionError" "float division by zero")
  else pure (out.mapItems fun _ v => v / out.total)

/-- `apply_burn`: the burn share to the burn uid, the rest in proportion, then
normalised; without miner mass everything to the burn uid. -/
def applyBurn (scoresByUid : Dict ℤ ℚ) (burnUid : Option ℤ) (forcedBurnPercentage : ℚ) :
    Except Exc (Dict ℤ ℚ) :=
  let burnFrac := forcedBurnPercentage / 100
  -- a score that mapped onto the burn uid is dropped before the allocation
  let scores : Dict ℤ ℚ := match burnUid with
    | none => scoresByUid
    | some burn => scoresByUid.filterItems fun uid _ => uid ≠ burn
  let total := scores.total
  if total ≤ 0 ∨ scores.isEmpty = true then
    match burnUid with
    | none => fail "no miner mass and no burn_uid fallback"
    | some burn => pure (Dict.ofList [(burn, 1)])
  else
    let out := scores.mapItems fun _ v => v / total * (1 - burnFrac)
    let out : Dict ℤ ℚ := match burnUid with
      | none => out
      | some burn => if 0 < burnFrac then out.add burn burnFrac else out
    normalize out

/-! ## Mapping to UID weights -/

/-- `_resolve_burn_hotkey`: a signed burn hotkey is looked up in the metagraph. -/
def resolveBurnHotkey (payload : Payload) (hotkeyToUid : Dict String ℤ) : Except Exc Payload :=
  match payload.burnSnapshot with
  | none => pure payload
  | some snap =>
    match snap.burnHotkey with
    | none => pure payload
    | some burnHotkey =>
      match hotkeyToUid.get? burnHotkey with
      | none => fail "burn hotkey has no current metagraph UID"
      | some resolvedUid => do
        refuse (∃ signedUid ∈ snap.burnUid, signedUid ≠ resolvedUid)
          "signed burn UID does not match current burn hotkey"
        pure { payload with burnSnapshot := some { snap with burnUid := some resolvedUid } }

/-- `payload["burn_snapshot"]`. -/
def getBurnSnapshot (payload : Payload) : Except Exc BurnSnapshot :=
  match payload.burnSnapshot with
  | none => .error (.other "KeyError" "burn_snapshot")
  | some snap => pure snap

/-- `apply_burn` with the destination and the percentage of a snapshot. -/
def applySnapshot (scores : Dict ℤ ℚ) (snap : BurnSnapshot) : Except Exc (Dict ℤ ℚ) := do
  let percentage ← snap.forcedBurnPercentage.float
  applyBurn scores snap.burnUid (finiteOf percentage)

/-- The running state of the confidential-primary row loop. -/
structure PrimaryRows where
  hotkeys : List String := []
  weightMass : ℚ := 0
  positive : List (String × ℚ) := []
deriving DecidableEq

/-- One pass of the row loop of `_confidential_primary_to_uid_weights`. -/
def primaryRow (acc : PrimaryRows) (row : Row) : Except Exc PrimaryRows := do
  refuse (row.baseComponent = .missing ∨ row.externalComponent = .missing)
    "confidential_primary row must carry both base_component and external_component"
  let (weight, base, external) ← attribution row
    "confidential_primary row has invalid attribution"
    "confidential_primary row has non-finite or negative attribution"
  refuse (base ≠ 0) "confidential_primary row base_component must be 0"
  refuse (¬ isClose weight external (1 / 10 ^ 12))
    "confidential_primary row weight != external_component"
  refuse (row.minerHotkey = "") "confidential_primary row missing miner_hotkey"
  refuse (row.minerHotkey ∈ acc.hotkeys) "confidential_primary duplicate hotkey"
  pure
    { hotkeys := row.minerHotkey :: acc.hotkeys
      weightMass := acc.weightMass + weight
      positive :=
        if 0 < weight then acc.positive ++ [(row.minerHotkey, weight)] else acc.positive }

/-- The signed mass must agree with the signed rows. -/
def checkPrimaryMass (mass : PrimaryMass) (rows : PrimaryRows) : Except Exc Unit :=
  match mass with
  | .one => do
    refuse (rows.positive = []) "confidential_primary claims mass 1 but has no positive weight"
    refuse (¬ isClose rows.weightMass 1 (1 / 10 ^ 9)) "confidential_primary weight mass != 1.0"
  | .zero => do
    refuse (rows.positive ≠ []) "confidential_primary claims mass 0 but has positive weight"
    refuse (rows.weightMass ≠ 0) "confidential_primary weight mass != 0.0"

/-- One pass of the mapping loop; the uids mapped so far are the keys of `scores`. -/
def mapPrimary (hotkeyToUid : Dict String ℤ) (burnUid : Option ℤ) (scores : Dict ℤ ℚ)
    (signed : String × ℚ) : Except Exc (Dict ℤ ℚ) :=
  match hotkeyToUid.get? signed.1 with
  | none => fail "confidential_primary hotkey has no current metagraph UID"
  | some uid => do
    refuse (some uid = burnUid) "confidential_primary hotkey resolves to burn UID"
    refuse (scores.contains uid = true) "confidential_primary duplicate UID in signed vector"
    pure (scores.set uid signed.2)

def confidentialPrimaryToUidWeights (payload : Payload) (mass : PrimaryMass)
    (hotkeyToUid : Dict String ℤ) : Except Exc (Dict ℤ ℚ) := do
  let snap ← getBurnSnapshot payload
  let rows ← payload.weights.foldlM primaryRow {}
  checkPrimaryMass mass rows
  let scores ← rows.positive.foldlM (mapPrimary hotkeyToUid snap.burnUid) ∅
  applySnapshot scores snap

/-- The first loop of the v3 branch: whether a signed hotkey is missing. -/
def tdxMissing (hotkeyToUid : Dict String ℤ) : List Row → List ℤ → Except Exc Bool
  | [], _ => pure false
  | row :: rest, mappedUids =>
    match hotkeyToUid.get? row.minerHotkey with
    | none => do
      let _ ← tdxMissing hotkeyToUid rest mappedUids
      pure true
    | some uid =>
      if uid ∈ mappedUids then fail "confidential_tdx v3 duplicate UID in signed vector"
      else tdxMissing hotkeyToUid rest (uid :: mappedUids)

/-- The value of a row that the v3 branch distributes. -/
def Row.tdxValue (missing : Bool) (row : Row) : Attr :=
  if missing then row.baseComponent else .number row.weight

/-- One pass of the second loop of the v3 branch. -/
def tdxScore (hotkeyToUid : Dict String ℤ) (missing : Bool) (scores : Dict ℤ ℚ) (row : Row) :
    Except Exc (Dict ℤ ℚ) :=
  match hotkeyToUid.get? row.minerHotkey with
  | none => pure scores
  | some uid => do
    let positive ← (row.tdxValue missing).positive
    let value ← (row.tdxValue missing).float
    pure (if positive then scores.set uid (finiteOf value) else scores)

/-- The v3 branch of `vector_to_uid_weights`. -/
def tdxToUidWeights (rows : List Row) (snap : BurnSnapshot) (hotkeyToUid : Dict String ℤ) :
    Except Exc (Dict ℤ ℚ) := do
  let missing ← tdxMissing hotkeyToUid rows []
  let scores ← rows.foldlM (tdxScore hotkeyToUid missing) ∅
  applySnapshot scores snap

/-- One pass of the loop of the legacy branch. -/
def legacyScore (hotkeyToUid : Dict String ℤ) (scores : Dict ℤ ℚ) (row : Row) : Dict ℤ ℚ :=
  match hotkeyToUid.get? row.minerHotkey with
  | none => scores
  | some uid => scores.add uid row.value

/-- `REQUIRE_POLICY_CHOICES`. -/
inductive RequirePolicy where
  | confidentialPrimaryV1
  | validatedSupplyV1
deriving DecidableEq, Repr

/-- The branches of `vector_to_uid_weights` without a pin. -/
def unpinnedUidWeights (payload : Payload) (snap : BurnSnapshot) (cp : Option PrimaryMass)
    (hotkeyToUid : Dict String ℤ) : Except Exc (Dict ℤ ℚ) :=
  match cp with
  | some mass => confidentialPrimaryToUidWeights payload mass hotkeyToUid
  | none => do
    let v3Rows ← confidentialTdxV3Rows payload
    match v3Rows with
    | some rows => tdxToUidWeights rows snap hotkeyToUid
    | none => applySnapshot (payload.weights.foldl (legacyScore hotkeyToUid) ∅) snap

def vectorToUidWeights (payload : Payload) (hotkeyToUid : Dict String ℤ)
    (requirePolicy : Option RequirePolicy) : Except Exc (Dict ℤ ℚ) := do
  let validatedSupply ← validatedSupplyMeta payload
  let payload ← resolveBurnHotkey payload hotkeyToUid
  let snap ← getBurnSnapshot payload
  let cp ← confidentialPrimaryMeta payload
  match requirePolicy, cp with
  | some .confidentialPrimaryV1, none =>
    fail ("validator pinned to confidential_primary_v1 but vector carries no " ++
      "confidential_primary policy block")
  | some .confidentialPrimaryV1, some mass =>
    confidentialPrimaryToUidWeights payload mass hotkeyToUid
  | some .validatedSupplyV1, cp =>
    if ¬ validatedSupply then
      fail ("validator pinned to validated_supply_v1 but vector carries no " ++
        "validated_supply policy block")
    else
      match cp with
      | none => fail "validated_supply_v1 requires confidential_primary evidence"
      | some mass => confidentialPrimaryToUidWeights payload mass hotkeyToUid
  | none, cp => unpinnedUidWeights payload snap cp hotkeyToUid

/-! ## The recomputed allocation -/

def mechanismBurnFraction : Dict String ℚ :=
  Dict.ofList [("validated_supply_v1", 1 / 10), ("validated_supply_v2", 1 / 10)]

/-- The running state of the loop of `_provenance_uid_weights`; the uids seen are
the keys of `scores`. -/
structure ProvenanceScores where
  scores : Dict ℤ ℚ := ∅
  total : ℚ := 0

/-- One pass of the loop of `_provenance_uid_weights`. -/
def provenanceScore (hotkeyToUid : Dict String ℤ) (burnUid : ℤ) (acc : ProvenanceScores)
    (share : String × PyFloat) : Except Exc ProvenanceScores :=
  if ¬ share.2.FiniteNonneg then fail "recomputed weight is non-finite or negative"
  else if finiteOf share.2 = 0 then pure acc
  else
    match hotkeyToUid.get? share.1 with
    | none => fail "provenance hotkey has no current metagraph UID"
    | some uid => do
      refuse (uid = burnUid) "provenance hotkey resolves to the burn UID"
      refuse (acc.scores.contains uid = true) "provenance duplicate UID"
      pure
        { scores := acc.scores.set uid (finiteOf share.2)
          total := acc.total + finiteOf share.2 }

def provenanceUidWeights (recomputed : Dict String PyFloat) (mechanism : String)
    (burnHotkey : Option String) (hotkeyToUid : Dict String ℤ) : Except Exc (Dict ℤ ℚ) :=
  match mechanismBurnFraction.get? mechanism with
  | none => fail "mechanism has no pinned burn contract"
  | some burnFraction =>
    match burnHotkey with
    | none => fail "authority mode requires --provenance-burn-hotkey"
    | some burnHotkey =>
      if burnHotkey = "" then fail "authority mode requires --provenance-burn-hotkey"
      else
        match hotkeyToUid.get? burnHotkey with
        | none => fail "configured burn hotkey has no current metagraph UID"
        | some burnUid => do
          let acc ← recomputed.sorted.items.foldlM (provenanceScore hotkeyToUid burnUid) {}
          refuse (acc.scores.isEmpty = false ∧ ¬ isClose acc.total 1 (1 / 10 ^ 9))
            "recomputed shares do not sum to 1.0"
          let out := acc.scores.mapItems fun _ value => value * (1 - burnFraction)
          normalize (out.add burnUid (if acc.scores.isEmpty then 1 else burnFraction))

/-- The comparison of the launch gate: the same uids, and weights that differ by
at most 1e-12. -/
def AllocationsAgree (recomputed thin : Dict ℤ ℚ) : Prop :=
  (∀ uid, uid ∈ recomputed.keys ↔ uid ∈ thin.keys) ∧
    ∀ uid ∈ thin.keys, isClose (recomputed.getD uid 0) (thin.getD uid 0) (1 / 10 ^ 12)

end Cathedral.Sn39
