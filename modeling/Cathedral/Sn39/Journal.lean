import Cathedral.Sn39.Chain

/-!
# Cathedral.Sn39.Journal — the common submission journal

The journal document of `scaffold/validator_thin.py` that thin and FULL-authority
processes share, and its durable writes: the reservation, the commit of a signed
intent, the receipt and proof records, the finalization, the release of an unsigned
reservation, the expiry of an absent attempt, and the switch to continuous operation.

Every write is a function from the document it reads under the file lock to the
document that replaces it. A key that is absent, or `null`, is `none`; the keys
`submission_pending_*` form one record, since two of the writes drop them by their
prefix. The file holds what these writes put there, so its values have the types of
the records; the patterns that the writes test are tested here too. Time stamps and
counters that nothing reads are left out.
-/

namespace Cathedral.Sn39

/-! ## Submission identities -/

inductive Lane where
  | thin
  | authority
deriving DecidableEq, Repr

def Lane.text : Lane → String
  | .thin => "thin"
  | .authority => "authority"

/-- `ContinuousAuthorization`, also as `_continuous_authorization_identity` records it. -/
structure ContinuousAuthorization where
  authorizationSha256 : String
  submissionJournal : String
  launchAttemptId : String
  releaseSha256 : String
  reproducerRevision : String
  validatorHotkey : String
  genesisHash : String
  lanes : List String
  issuedAt : String
  validFromTime : String
  validUntilTime : String
  validFromBlock : ℤ
  validUntilBlock : ℤ
  validFromNonce : ℤ
  validUntilNonceExclusive : ℤ
  maxAttempts : ℤ
deriving DecidableEq

/-- The document of `_require_uid_mapping_stability`, compared as a whole. -/
structure UidSafety where
  document : String
deriving DecidableEq

/-- What a thin submission relays; the two launch records are compared as a whole. -/
structure VectorEvidence where
  vectorId : String
  policyVersion : ℤ
  signedVectorSha256 : String
  signedVector : Payload
  fullProvenance : Option String := none
  launchApproval : Option String := none
deriving DecidableEq

/-- The FULL recomputation that an authority submission stands on. -/
structure ReportEvidence where
  sourceEpoch : ℤ
  reportId : String
  indexEpoch : ℤ
  indexManifest : String
  policyRelease : ℤ
  policyDigest : String
  mechanism : String
  hotkeyWeights : List (String × PyFloat)
deriving DecidableEq

inductive Evidence where
  | thin (vector : VectorEvidence)
  | authority (report : ReportEvidence)
deriving DecidableEq

/-- `submission_pending_identity`. -/
structure Identity where
  network : String
  netuid : ℤ
  mappingBlock : Option ℤ
  validatorHotkey : String
  validatorUid : ℤ
  burnHotkey : Option String
  uidWeights : List (ℤ × ℚ)
  uidHotkeys : List (ℤ × String)
  nextEpochStartBlock : Option ℤ
  inclusionPolicy : InclusionPolicy
  uidSafety : Option UidSafety
  continuousAuthorization : Option ContinuousAuthorization := none
  evidence : Evidence
deriving DecidableEq

/-- `identity.get("policy_version")`. -/
def Identity.policyVersion (identity : Identity) : Option ℤ :=
  match identity.evidence with
  | .thin vector => some vector.policyVersion
  | .authority _ => none

/-- `identity.get("source_epoch")`. -/
def Identity.sourceEpoch (identity : Identity) : Option ℤ :=
  match identity.evidence with
  | .thin _ => none
  | .authority report => some report.sourceEpoch

/-- `{int(uid): float(weight) for uid, weight in identity["uid_weights"]}`. -/
def Identity.weights (identity : Identity) : Dict ℤ ℚ := Dict.ofList identity.uidWeights

/-- `{int(uid): str(hotkey) for uid, hotkey in identity["uid_hotkeys"]}`. -/
def Identity.hotkeys (identity : Identity) : Dict ℤ String := Dict.ofList identity.uidHotkeys

/-- The identity without `mapping_block` and `uid_safety`, whose digest names the attempt. -/
def Identity.dedup (identity : Identity) : Identity :=
  { identity with mappingBlock := none, uidSafety := none }

/-- What the write path takes from the SDK and the hash function: `_wire_weights`
and the hex digest of a canonical identity document. -/
structure Sdk where
  wireWeights : List ℤ → List ℚ → Except Exc (List ℤ × List ℤ)
  identityDigest : Identity → String

/-- `_wire_weights` of the sorted uid weights. -/
def Sdk.wire (sdk : Sdk) (uidWeights : Dict ℤ ℚ) : Except Exc (List ℤ × List ℤ) :=
  let ordered := uidWeights.sorted
  sdk.wireWeights ordered.keys ordered.values

/-- `"sha256:" + hashlib.sha256(json.dumps(dedup_identity, ...)).hexdigest()`. -/
def Sdk.attemptId (sdk : Sdk) (identity : Identity) : String :=
  "sha256:" ++ sdk.identityDigest identity.dedup

/-! ## The document -/

inductive Phase where
  | unsignedReserved
  | signedIntent
deriving DecidableEq, Repr

inductive ProofStatus where
  | pending
  | pass
  | fail
  | notProven
deriving DecidableEq, Repr

/-- `submission_pending_broadcast_intent`. -/
structure BroadcastIntent where
  extrinsicHash : String
  nonce : ℤ
  eraReferenceBlock : ℤ
  mortalPeriodBlocks : ℤ
  versionKey : ℤ
  wireUids : List ℤ
  wireWeights : List ℤ
deriving DecidableEq

/-- A receipt candidate, and a finalized receipt. -/
structure Receipt where
  extrinsicHash : String
  blockHash : String
  blockNumber : ℤ
  versionKey : ℤ
  wireUids : List ℤ
  wireWeights : List ℤ

/-- The keys `submission_pending_*`. -/
structure Pending where
  id : Option String := none
  lane : Option Lane := none
  identity : Option Identity := none
  phase : Option Phase := none
  launchAttempt : Option Bool := none
  launchBudgetLimit : Option ℤ := none
  budgetScope : Option String := none
  budgetLimit : Option ℤ := none
  policyVersion : Option ℤ := none
  sourceEpoch : Option ℤ := none
  laneTransitionFrom : Option Lane := none
  broadcastIntent : Option BroadcastIntent := none
  receiptCandidate : Option Receipt := none
  proofStatus : Option ProofStatus := none

/-- An entry of `submission_attempt_budgets`. -/
structure Budget where
  limit : ℤ
  ids : List String

/-- The keys `submission_finalized_*`, and the transaction of the last finalization. -/
structure Finalized where
  id : Option String := none
  lane : Option Lane := none
  identity : Option Identity := none
  broadcastIntent : Option BroadcastIntent := none
  receipt : Option Receipt := none
  count : ℤ := 0
  extrinsicHash : Option String := none
  blockHash : Option String := none
  blockNumber : Option ℤ := none
  versionKey : Option ℤ := none

inductive LaunchStatus where
  | pending
  | finalized
  | expiredWithoutInclusion
deriving DecidableEq, Repr

/-- The keys `submission_launch_*`. -/
structure Launch where
  attemptIds : List String := []
  status : Option LaunchStatus := none
  attemptId : Option String := none
  identity : Option Identity := none
  extrinsicHash : Option String := none
  blockHash : Option String := none
  blockNumber : Option ℤ := none
  versionKey : Option ℤ := none
  broadcastIntent : Option BroadcastIntent := none
  uidSafety : Option UidSafety := none

/-- The keys `submission_continuous_*`. -/
structure Continuous where
  enabled : Bool := false
  launchAttemptId : Option String := none
  releaseSha256 : Option String := none
  reproducerRevision : Option String := none

/-- An entry of `submission_expired_attempts`. -/
structure ExpiredAttempt where
  attemptId : String
  lane : Lane
  identity : Identity
  broadcastIntent : BroadcastIntent

structure Journal where
  genesisHash : Option String := none
  provenanceNetuid : Option ℤ := none
  validatorHotkey : Option String := none
  attemptIds : List String := []
  budgets : Dict String Budget := ∅
  activeLane : Option Lane := none
  highestPolicyVersion : Option ℤ := none
  highestSourceEpoch : Option ℤ := none
  pending : Pending := {}
  finalized : Finalized := {}
  launch : Launch := {}
  continuous : Continuous := {}
  expiredAttempts : List ExpiredAttempt := []

/-! ## Exceptions of the journal -/

/-- `raise ValueError(message)`. -/
def valueError {α : Type} (message : String) : Except Exc α := .error (.other "ValueError" message)

/-- `if condition: raise ValueError(message)`. -/
def reject (condition : Prop) [Decidable condition] (message : String) : Except Exc Unit :=
  if condition then valueError message else pure ()

@[simp] theorem reject_eq_ok {condition : Prop} [Decidable condition] {message : String}
    {u : Unit} : reject condition message = .ok u ↔ ¬ condition := by
  unfold reject
  split_ifs with h <;> simp [valueError, pure, Except.pure, h]

/-- `value` of a key that a check has found present. -/
def present {α : Type} (value : Option α) (message : String) : Except Exc α :=
  match value with
  | some value => pure value
  | none => valueError message

@[simp] theorem present_eq_ok {α : Type} {value : Option α} {message : String} {a : α} :
    present value message = .ok a ↔ value = some a := by
  cases value <;> simp [present, valueError, pure, Except.pure]

/-- `except (KeyError, TypeError, ValueError)`. -/
def Exc.isDataError : Exc → Bool
  | .vectorError _ _ => false
  | .other type _ => type == "KeyError" || type == "TypeError" || type == "ValueError"

/-- A step whose data errors are raised as `exc`. -/
def orRaise {α : Type} (x : Except Exc α) (exc : Exc) : Except Exc α :=
  match x with
  | .ok a => .ok a
  | .error e => if e.isDataError then .error exc else .error e

@[simp] theorem orRaise_eq_ok {α : Type} {x : Except Exc α} {exc : Exc} {a : α} :
    orRaise x exc = .ok a ↔ x = .ok a := by
  cases x with
  | ok b => rfl
  | error e =>
    simp only [orRaise]
    split_ifs <;> simp

/-! ## Lane transition -/

def AuthorityLaneTransitionAuthorized (state : Journal) (identity : Identity) : Prop :=
  ∃ authorization ∈ identity.continuousAuthorization, ∃ launchAttemptId ∈ state.launch.attemptId,
    identity.network = "finney" ∧
    identity.netuid = 39 ∧
    some identity.validatorHotkey = state.validatorHotkey ∧
    state.genesisHash = some finneyGenesisHash ∧
    state.provenanceNetuid = some 39 ∧
    state.launch.status = some .finalized ∧
    state.continuous.enabled = true ∧
    isSha256Id launchAttemptId = true ∧
    launchAttemptId ∈ state.launch.attemptIds ∧
    state.continuous.launchAttemptId = some launchAttemptId ∧
    authorization.launchAttemptId = launchAttemptId ∧
    some authorization.releaseSha256 = state.continuous.releaseSha256 ∧
    some authorization.reproducerRevision = state.continuous.reproducerRevision ∧
    some authorization.validatorHotkey = state.validatorHotkey ∧
    some authorization.genesisHash = state.genesisHash ∧
    isSha256Id authorization.authorizationSha256 = true ∧
    "authority" ∈ authorization.lanes ∧
    0 < authorization.maxAttempts ∧ authorization.maxAttempts ≤ 96 ∧
    0 ≤ authorization.validFromNonce ∧
    authorization.validUntilNonceExclusive =
      authorization.validFromNonce + authorization.maxAttempts

instance (state : Journal) (identity : Identity) :
    Decidable (AuthorityLaneTransitionAuthorized state identity) :=
  inferInstanceAs (Decidable (∃ _ ∈ _, _))

end Cathedral.Sn39
