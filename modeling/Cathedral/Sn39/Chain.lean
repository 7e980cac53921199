import Cathedral.Sn39.UidWeights

/-!
# Cathedral.Sn39.Chain — what the write path knows about the chain

The chain snapshot, the inclusion policy and the submission record of
`scaffold/validator_thin.py`, with the checks that read nothing else:
`_validate_emission_vector`, `_validate_chain_constraints`,
`_require_inclusion_policy_ready` and `_require_release_grade_submission`.

Times are microseconds. Uid weights are finite floats, hence exact rationals. The
parts of the snapshot that only `_require_uid_mapping_stability` reads are left
out, as that function is an answer of the chain here.
-/

namespace Cathedral.Sn39

/-! ## Hashes and identifiers -/

/-- The digits of `bytes.hex()`. -/
def isLowerHex (c : Char) : Bool := c.isDigit || ('a' ≤ c && c ≤ 'f')

/-- The digits that `_CHAIN_HASH_RE` accepts. -/
def isHexDigit (c : Char) : Bool := isLowerHex c || ('A' ≤ c && c ≤ 'F')

/-- `re.fullmatch(r"sha256:[0-9a-f]{64}", text) is not None`. -/
def isSha256Id (text : String) : Bool :=
  "sha256:".toList.isPrefixOf text.toList && (text.toList.drop 7).length == 64 &&
    (text.toList.drop 7).all isLowerHex

/-- `_CHAIN_HASH_RE.fullmatch(text) is not None`. -/
def isChainHash (text : String) : Bool :=
  "0x".toList.isPrefixOf text.toList && (text.toList.drop 2).length == 64 &&
    (text.toList.drop 2).all isHexDigit

/-- `text.lower()`, for the hex texts it is applied to. -/
def lower (text : String) : String := String.ofList (text.toList.map Char.toLower)

theorem toLower_toLower (c : Char) : c.toLower.toLower = c.toLower := by
  delta Char.toLower
  split_ifs with h h'
  · have hc : 65 ≤ c.toNat ∧ c.toNat ≤ 90 := by
      simpa [UInt32.le_iff_toNat_le] using h
    exfalso
    revert h'
    simp [UInt32.le_iff_toNat_le]
    omega
  · rfl
  · rfl

@[simp] theorem lower_lower (text : String) : lower (lower text) = lower text := by
  simp [lower, Function.comp_def, toLower_toLower]

/-! ## Constants -/

def sn39Netuid : ℤ := 39

def finneyGenesisHash : String :=
  "0x2f0555cc76fc2840a25a6ea3b9637146806f1f44b090c175ffde2a7e5ab36c03"

def sn39BurnHotkey : String := "5G3qVaXzKMPDm5AJ3dpzbpUC27kpccBvDwzSWXrq8M6qMmbC"

def chainOperationDeadlineSecs : ℤ := 180

def sn39MinValidityMarginSecs : ℤ := 60

def sn39MortalPeriodBlocks : ℤ := 4

def sn39EpochFinalityMarginBlocks : ℤ := 32

/-! ## Snapshot and policy -/

structure ChainPreflight where
  hotkeyToUid : Dict String ℤ
  validatorHotkey : String
  validatorUid : ℤ
  block : Option ℤ
  minAllowedWeights : ℤ
  maxWeightLimit : PyFloat
  commitRevealEnabled : Bool
  genesisHash : String
  subnetOwnerHotkey : String
  blocksUntilNextEpoch : Option ℤ
  nextEpochStartBlock : Option ℤ
  weightsRateLimit : Option ℤ
  validatorBlocksSinceLastUpdate : Option ℤ
  finalizedHash : String

structure InclusionPolicy where
  validFromBlock : ℤ
  validUntilBlock : ℤ
  validFromTime : ℤ
  validUntilTime : ℤ
  requireCommitRevealDisabled : Bool := true
  mortalPeriodBlocks : ℤ := sn39MortalPeriodBlocks
  expectedNextEpochStartBlock : Option ℤ := none
deriving DecidableEq

/-- `_canonical_policy_time`: the text has milliseconds. -/
def canonicalPolicyTime (time : ℤ) : ℤ := time / 1000 * 1000

/-- `_inclusion_policy_identity`. -/
def InclusionPolicy.identity (policy : InclusionPolicy) : InclusionPolicy :=
  { policy with
    validFromTime := canonicalPolicyTime policy.validFromTime
    validUntilTime := canonicalPolicyTime policy.validUntilTime }

structure ChainSubmission where
  success : Bool
  extrinsicHash : Option String := none
  blockHash : Option String := none
  blockNumber : Option ℤ := none
  finalized : Bool := false

/-! ## Checks -/

/-- `period & (period - 1)` is zero. -/
def isPowerOfTwo (period : ℤ) : Prop := period.toNat &&& (period.toNat - 1) = 0

instance (period : ℤ) : Decidable (isPowerOfTwo period) := inferInstanceAs (Decidable (_ = _))

/-- A value whose absence is refused. -/
def required {α : Type} (value : Option α) (message : String) : Except Exc α :=
  match value with
  | some value => pure value
  | none => fail message

@[simp] theorem required_eq_ok {α : Type} {value : Option α} {message : String} {a : α} :
    required value message = .ok a ↔ value = some a := by
  cases value <;> simp [required, fail, pure, Except.pure]

def requireInclusionPolicyReady (policy : InclusionPolicy) (preflight : ChainPreflight)
    (moment : ℤ) : Except Exc Unit := do
  let block ← required preflight.block "inclusion policy requires a finalized chain block"
  let period := policy.mortalPeriodBlocks
  refuse (period < 4 ∨ 65536 < period ∨ ¬ isPowerOfTwo period)
    "inclusion policy mortal period must be a power of two from 4 to 65536"
  refuse (¬ (policy.validFromBlock ≤ block ∧ block < policy.validUntilBlock ∧
      period ≤ policy.validUntilBlock - block))
    "submission lacks a full mortal era inside the evidence block window"
  refuse (¬ (policy.validFromTime ≤ moment ∧ moment < policy.validUntilTime))
    "submission time is outside the evidence inclusion window"
  refuse (policy.validUntilTime - moment <
      (chainOperationDeadlineSecs + sn39MinValidityMarginSecs) * 1000000)
    "evidence validity remaining is shorter than the bounded submission window"
  refuse (policy.requireCommitRevealDisabled = true ∧ preflight.commitRevealEnabled = true)
    "inclusion policy requires commit-reveal disabled before submission"
  let rateLimit ← required preflight.weightsRateLimit
    "submission cannot prove the live validator weight-update cooldown"
  let blocksSinceUpdate ← required preflight.validatorBlocksSinceLastUpdate
    "submission cannot prove the live validator weight-update cooldown"
  refuse (rateLimit < 0 ∨ blocksSinceUpdate < 0)
    "submission cannot prove the live validator weight-update cooldown"
  refuse (blocksSinceUpdate ≤ rateLimit)
    "submission is inside the live validator weight-update cooldown"
  let noEpochRoom := "submission cannot prove the exact next epoch with enough room for " ++
    "mortal inclusion and finalized verification"
  let remaining ← required preflight.blocksUntilNextEpoch noEpochRoom
  let nextEpoch ← required preflight.nextEpochStartBlock noEpochRoom
  refuse (nextEpoch ≠ block + remaining ∨
      policy.expectedNextEpochStartBlock ≠ some nextEpoch ∨
      remaining < policy.mortalPeriodBlocks + sn39EpochFinalityMarginBlocks) noEpochRoom

def validateEmissionVector (uidWeights : Dict ℤ ℚ) : Except Exc Unit := do
  refuse (uidWeights.isEmpty = true) "chain preflight requires a non-empty vector"
  refuse (∃ item ∈ uidWeights.items, item.1 < 0 ∨ item.2 < 0) "chain preflight vector is invalid"
  refuse (¬ isClose uidWeights.total 1 (1 / 10 ^ 9)) "chain preflight vector mass != 1.0"

def validateChainConstraints (uidWeights : Dict ℤ ℚ) (preflight : ChainPreflight) :
    Except Exc Unit := do
  refuse (preflight.commitRevealEnabled = true)
    ("SN39 release proof requires a directly applied set_mechanism_weights extrinsic; " ++
      "commit-reveal is enabled, so refusing before submission")
  let positive := uidWeights.values.filter fun value => 0 < value
  refuse ((positive.length : ℤ) < preflight.minAllowedWeights)
    "chain preflight vector has fewer positives than min_allowed_weights"
  let limit := finiteOf preflight.maxWeightLimit
  refuse (preflight.maxWeightLimit.finite? = none ∨ ¬ (0 < limit ∧ limit ≤ 1))
    "chain preflight max_weight_limit is invalid"
  refuse (∃ value ∈ positive, limit + 1 / 10 ^ 9 < value)
    "chain preflight vector exceeds max_weight_limit"
  refuse ((positive.length : ℚ) * limit < 1 - 1 / 10 ^ 9)
    "chain preflight vector cannot conserve mass"

def requireReleaseGradeSubmission (submission : ChainSubmission) : Except Exc ChainSubmission :=
  let ambiguous := "chain reported success without a release-grade extrinsic hash, " ++
    "block hash, positive block number, and canonical finalized-head proof; submission is " ++
    "ambiguous and must be reconciled before another write"
  if submission.success = false then fail "chain submission did not succeed"
  else
    match submission.extrinsicHash, submission.blockHash, submission.blockNumber with
    | some extrinsicHash, some blockHash, some blockNumber => do
      refuse (isChainHash extrinsicHash = false ∨ isChainHash blockHash = false ∨
        blockNumber ≤ 0 ∨ submission.finalized = false) ambiguous
      pure
        { success := true
          extrinsicHash := some (lower extrinsicHash)
          blockHash := some (lower blockHash)
          blockNumber := some blockNumber
          finalized := true }
    | _, _, _ => fail ambiguous

end Cathedral.Sn39
