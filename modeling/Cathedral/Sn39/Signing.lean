import Cathedral.Sn39.Receipts
import Cathedral.Sn39.Runtime

/-!
# Cathedral.Sn39.Signing — the chain-write boundary

`_authorize_sn39_chain_submission`, the last check of a reserved submission,
`_submit_exact_sn39_extrinsic`, which journals the exact signed transaction before it is
broadcast, and `set_weights_on_chain` around them with the handler that releases a
reservation which never reached a signed intent.
-/

namespace Cathedral.Sn39

/-- `except Exception as exc: raise wire.VectorError(message) from exc`. -/
def rewrap {α : Type} (x : Except Exc α) (message : String) : Except Exc α :=
  match x with
  | .ok a => .ok a
  | .error _ => fail message

/-! ## The signed vector -/

/-- What `accept_vector` asks for: the signature check, the parser of canonical times and
the clock. -/
structure VectorAnswers where
  signature : Except Exc Unit
  parseUtc : String → Option ℤ
  nowIso : String

def acceptVector (answers : VectorAnswers) (network : String) (vector : VectorEvidence)
    (fenceVersion : ℤ) : Except Exc Unit := do
  answers.signature
  invariantCheck answers.parseUtc vector.signedVector network sn39Netuid answers.nowIso
  refuse (vector.policyVersion ≤ fenceVersion)
    "rollback/replay: vector policy_version <= last accepted"

/-- Two allocations over the same uids with weights at most 1e-12 apart. -/
def SameAllocation (first second : Dict ℤ ℚ) : Prop :=
  first.keys.toFinset = second.keys.toFinset ∧
    ∀ uid ∈ first.keys, isClose (first.getD uid 0) (second.getD uid 0) (1 / 10 ^ 12)

instance (first second : Dict ℤ ℚ) : Decidable (SameAllocation first second) :=
  inferInstanceAs (Decidable (_ ∧ _))

/-! ## Authorization -/

/-- What `_authorize_sn39_chain_submission` asks for. -/
structure AuthorizeAnswers where
  /-- `_validate_runtime_contract`. -/
  runtimeContract : Except Exc Unit
  moment : ℤ
  /-- `_require_uid_mapping_stability`. -/
  uidSafety : Except Exc UidSafety
  /-- `_sha256_document`. -/
  documentDigest : Payload → String
  vector : VectorAnswers
  /-- `recurring.verify_authorization`. -/
  recurring : Except Exc ContinuousAuthorization
  /-- `recurring.assert_still_ready`. -/
  stillReady : Except Exc Unit
  /-- The synchronous raw replay and the operator approval of a launch. -/
  launchGate : Except Exc Unit

def reverifyReservedSignedVector (answers : AuthorizeAnswers) (contract : Contract)
    (identity : Identity) (lane : LaneState) (preflight : ChainPreflight)
    (uidWeights : Dict ℤ ℚ) : Except Exc Unit :=
  match identity.evidence with
  | .authority _ => fail "SN39 thin reservation carries no signed vector to re-verify"
  | .thin vector => do
    refuse (answers.documentDigest vector.signedVector ≠ vector.signedVectorSha256)
      "SN39 reserved signed vector does not hash to its reserved digest"
    let fence ← lane.policyFence
    rewrap (acceptVector answers.vector contract.network vector fence)
      ("SN39 reserved signed vector fails signature, wire invariant, or rollback " ++
        "re-verification")
    let supply ← validatedSupplyMeta vector.signedVector
    refuse (supply = false)
      "SN39 reserved signed vector carries no fixed 90/10 supply contract"
    let burnHotkey := vector.signedVector.burnSnapshot.bind BurnSnapshot.burnHotkey
    refuse (burnHotkey ≠ some sn39BurnHotkey ∨ identity.burnHotkey ≠ burnHotkey)
      "SN39 reserved signed vector does not burn to the pinned hotkey"
    let reverified ← vectorToUidWeights vector.signedVector preflight.hotkeyToUid
      contract.requirePolicy
    refuse (¬ SameAllocation reverified uidWeights)
      ("SN39 chain call differs from the allocation its reserved signed vector " ++
        "derives")

/-- The reservation that the journal holds, with its lane. -/
def reservedSubmission (state : Journal) : Except Exc (Lane × Identity) := do
  let noReservation := "SN39 chain submission has no exact durable state-machine reservation"
  let attemptId ← required state.pending.id noReservation
  let lane ← required state.pending.lane noReservation
  let identity ← required state.pending.identity noReservation
  let ordinary := (∀ active ∈ state.activeLane, active = lane) ∧
    state.pending.laneTransitionFrom = none
  let authorized := state.activeLane = some .thin ∧ lane = .authority ∧
    state.pending.laneTransitionFrom = some .thin ∧
    AuthorityLaneTransitionAuthorized state identity
  refuse (isSha256Id attemptId = false ∨ state.pending.phase ≠ some .unsignedReserved ∨
    ¬ (ordinary ∨ authorized)) noReservation
  pure (lane, identity)

/-- A relay call, which claims neither launch nor recurring authority. -/
def authorizeRelay (contract : Contract) (state : Journal) (lane : Lane) (identity : Identity) :
    Except Exc Unit :=
  refuse (lane ≠ .thin ∨ identity.continuousAuthorization ≠ none ∨
      contract.authorization ≠ none ∨ state.pending.launchAttempt = some true ∨
      ¬ (state.pending.budgetScope = none ∨ state.pending.budgetScope = some "thin_bounded"))
    "SN39 relay chain call claims launch or recurring-write authority it cannot present"

/-- `authorization_sha256.removeprefix("sha256:")`. -/
def ContinuousAuthorization.scope (authorization : ContinuousAuthorization) : String :=
  if "sha256:".toList.isPrefixOf authorization.authorizationSha256.toList then
    String.ofList (authorization.authorizationSha256.toList.drop 7)
  else authorization.authorizationSha256

/-- A continuous call with its root-signed authorization, verified again. -/
def authorizeRecurring (answers : AuthorizeAnswers) (contract : Contract) (state : Journal)
    (preflight : ChainPreflight) (lane : Lane) (identity : Identity) : Except Exc Unit := do
  let lacking := "SN39 continuous chain call lacks its pre-reservation root-signed " ++
    "recurring-write authorization and durable budget"
  let changed := "SN39 recurring-write authorization signature, bytes, expiry, or scope " ++
    "changed before the chain boundary"
  let authorization ← required contract.authorization lacking
  refuse (identity.continuousAuthorization ≠ some authorization ∨
      state.continuous.launchAttemptId ≠ some authorization.launchAttemptId ∨
      state.continuous.releaseSha256 ≠ some authorization.releaseSha256 ∨
      state.continuous.reproducerRevision ≠ some authorization.reproducerRevision ∨
      preflight.validatorHotkey ≠ authorization.validatorHotkey ∨
      preflight.genesisHash ≠ authorization.genesisHash ∨
      lane.text ∉ authorization.lanes ∨
      state.pending.budgetScope ≠ some authorization.scope ∨
      state.pending.budgetLimit ≠ some authorization.maxAttempts) lacking
  let reverified ← rewrap answers.recurring changed
  refuse (reverified ≠ authorization) changed
  rewrap answers.stillReady changed

/-- A launch call with its one-shot raw-replay gate. -/
def authorizeLaunch (answers : AuthorizeAnswers) (state : Journal) (lane : Lane) :
    Except Exc Unit := do
  refuse (lane ≠ .thin ∨ state.pending.launchAttempt ≠ some true ∨
      state.pending.launchBudgetLimit ≠ some 1 ∨ state.launch.attemptIds ≠ [])
    "SN39 launch chain call lacks its one-shot rewarded-set raw-replay gate"
  answers.launchGate

def authorizeClaim (answers : AuthorizeAnswers) (contract : Contract) (state : Journal)
    (preflight : ChainPreflight) (lane : Lane) (identity : Identity) : Except Exc Unit :=
  if contract.launch = true then authorizeLaunch answers state lane
  else if continuousTransitionRequired contract.toArgs state = true then
    authorizeRecurring answers contract state preflight lane identity
  else authorizeRelay contract state lane identity

/-- Thin submissions relay a signed vector, which is proved again. -/
def authorizeVector (answers : AuthorizeAnswers) (contract : Contract) (laneState : LaneState)
    (preflight : ChainPreflight) (uidWeights : Dict ℤ ℚ) (lane : Lane) (identity : Identity) :
    Except Exc Unit :=
  match lane with
  | .thin =>
    reverifyReservedSignedVector answers contract identity laneState preflight uidWeights
  | .authority => pure ()

def authorizeSn39ChainSubmission (answers : AuthorizeAnswers) (contract : Contract)
    (world : World) (uidWeights : Dict ℤ ℚ) (uidHotkeys : Dict ℤ String)
    (preflight : ChainPreflight) (policy : InclusionPolicy) : Except Exc Unit := do
  refuse (contract.broadcast = false ∨ contract.offline = true)
    "SN39 chain call differs from its authorized runtime contract"
  answers.runtimeContract
  validateResolvedChainContract contract.toArgs preflight false
  refuse (contract.signer.validatorHotkey ≠ preflight.validatorHotkey ∨
      lower contract.signer.genesisHash ≠ lower preflight.genesisHash)
    "SN39 chain call is not bound to the prepared signer and genesis"
  let (lane, identity) ← reservedSubmission world.journal
  refuse (identity.network ≠ "finney" ∨ identity.netuid ≠ sn39Netuid ∨
      identity.validatorHotkey ≠ preflight.validatorHotkey ∨
      ¬ SameAllocation identity.weights uidWeights ∨
      identity.hotkeys.sameItems uidHotkeys = false)
    "SN39 chain call differs from its exact durable reservation"
  requireInclusionPolicyReady policy preflight answers.moment
  let observedUidSafety ← answers.uidSafety
  refuse (identity.uidSafety ≠ some observedUidSafety)
    "SN39 UID/hotkey safety differs from its exact durable reservation"
  refuse (identity.inclusionPolicy ≠ policy.identity)
    "SN39 inclusion policy differs from its durable reservation"
  refuse (preflight.block = none ∨
      identity.nextEpochStartBlock ≠ preflight.nextEpochStartBlock)
    "SN39 exact next epoch differs from its durable reservation"
  authorizeVector answers contract world.lane preflight uidWeights lane identity
  authorizeClaim answers contract world.journal preflight lane identity

/-! ## Signing and submission -/

/-- What `_submit_exact_sn39_extrinsic` asks the SDK for. -/
structure SigningAnswers where
  /-- `_finalized_chain_head`. -/
  finalizedChainHead : Except Exc (ℤ × String)
  /-- `get_account_next_index`, `none` when it is no integer. -/
  nonce : Except Exc (Option ℤ)
  /-- `recurring.assert_nonce_ready`. -/
  nonceReady : Except Exc Unit
  unlocked : Except Exc Bool
  composed : Except Exc Unit
  /-- The hash of the signed extrinsic, `none` when it has no canonical one. -/
  signedHash : Except Exc (Option String)
  /-- The wall-clock deadline, when it fires between the commit and the broadcast. -/
  alarm : Except Exc Unit
  receipt : Except Exc ChainReceipt

/-- The nonce allowance of a recurring call. -/
def checkNonce (answers : SigningAnswers) (contract : Contract) (state : Journal) :
    Except Exc Unit :=
  if contract.launch = false ∧ continuousTransitionRequired contract.toArgs state = true then do
    let _ ← required contract.authorization
      "SN39 recurring submission has no signed nonce allowance"
    rewrap answers.nonceReady
      "SN39 validator account nonce is outside the signed recurring-write allowance"
  else pure ()

/-- The steps of `_submit_exact_sn39_extrinsic` up to the signed transaction. -/
def signExactSn39Extrinsic (answers : SigningAnswers) (contract : Contract)
    (preflight : ChainPreflight) (state : Journal) (versionKey : ℤ)
    (wireUids wireWeights : List ℤ) (mortalPeriodBlocks : ℤ) : Except Exc BroadcastIntent := do
  let malformed := "SN39 exact signing contract is malformed"
  let block ← required preflight.block malformed
  refuse (block ≤ 0 ∨ mortalPeriodBlocks ≠ sn39MortalPeriodBlocks ∨
    wireUids.length ≠ wireWeights.length ∨ wireUids = []) malformed
  let head ← answers.finalizedChainHead
  if head ≠ (block, lower preflight.finalizedHash) then
    .error (.vectorError .retryablePreSignHeadDrift
      "SN39 finalized head advanced after preflight; refusing before signing")
  else do
    let observedNonce ← answers.nonce
    let nonce ← required observedNonce "SN39 validator nonce is malformed"
    refuse (nonce < 0) "SN39 validator nonce is malformed"
    checkNonce answers contract state
    let unlocked ← answers.unlocked
    refuse (unlocked = false) "SN39 validator hotkey could not be unlocked"
    answers.composed
    let signedHash ← answers.signedHash
    let extrinsicHash ← required signedHash "SN39 signed extrinsic has no canonical hash"
    refuse (isChainHash (lower extrinsicHash) = false)
      "SN39 signed extrinsic hash is malformed"
    pure
      { extrinsicHash := lower extrinsicHash
        nonce := nonce
        eraReferenceBlock := block
        mortalPeriodBlocks := mortalPeriodBlocks
        versionKey := versionKey
        wireUids := wireUids
        wireWeights := wireWeights }

/-- What the SDK has answered when a transaction is signed. -/
structure SignedExact (answers : SigningAnswers) (contract : Contract)
    (preflight : ChainPreflight) (state : Journal) (intent : BroadcastIntent) : Prop where
  block : preflight.block = some intent.eraReferenceBlock
  blockPos : 0 < intent.eraReferenceBlock
  period : intent.mortalPeriodBlocks = sn39MortalPeriodBlocks
  head : answers.finalizedChainHead = .ok (intent.eraReferenceBlock, lower preflight.finalizedHash)
  nonce : answers.nonce = .ok (some intent.nonce)
  nonceReady : checkNonce answers contract state = .ok ()
  lowerHash : lower intent.extrinsicHash = intent.extrinsicHash

theorem signExact_ok {answers : SigningAnswers} {contract : Contract} {preflight : ChainPreflight}
    {state : Journal} {versionKey : ℤ} {wireUids wireWeights : List ℤ} {period : ℤ}
    {intent : BroadcastIntent}
    (h : signExactSn39Extrinsic answers contract preflight state versionKey wireUids wireWeights
      period = .ok intent) : SignedExact answers contract preflight state intent := by
  unfold signExactSn39Extrinsic at h
  rcases bind_eq_ok.mp h with ⟨block, hblock, h⟩
  rcases bind_eq_ok.mp h with ⟨_, hcontract, h⟩
  rcases bind_eq_ok.mp h with ⟨head, hhead, h⟩
  split_ifs at h with hdrift
  rcases bind_eq_ok.mp h with ⟨observed, hobserved, h⟩
  rcases bind_eq_ok.mp h with ⟨nonce, hnonce, h⟩
  rcases bind_eq_ok.mp h with ⟨_, _, h⟩
  rcases bind_eq_ok.mp h with ⟨_, hready, h⟩
  rcases bind_eq_ok.mp h with ⟨_, _, h⟩
  rcases bind_eq_ok.mp h with ⟨_, _, h⟩
  rcases bind_eq_ok.mp h with ⟨_, _, h⟩
  rcases bind_eq_ok.mp h with ⟨_, _, h⟩
  rcases bind_eq_ok.mp h with ⟨_, _, h⟩
  rcases bind_eq_ok.mp h with ⟨_, _, h⟩
  cases h
  rw [required_eq_ok] at hblock hnonce
  simp only [refuse_eq_ok, not_or, not_not, not_le] at hcontract
  rw [not_not] at hdrift
  exact
    { block := hblock
      blockPos := hcontract.1
      period := hcontract.2.1
      head := hdrift ▸ hhead
      nonce := hnonce ▸ hobserved
      nonceReady := hready
      lowerHash := lower_lower _ }

/-- The receipt of the broadcast transaction. -/
def checkChainReceipt (receipt : ChainReceipt) (extrinsicHash : String) :
    Except Exc ChainReceipt :=
  let returned := lower (receipt.extrinsicHash.getD "")
  if returned ≠ extrinsicHash then
    if isChainHash returned = true then
      .error (.vectorError .postSignedSubmissionMismatch
        "SN39 submission receipt differs from its pre-journaled signed hash")
    else
      .error (.vectorError .pendingReceiptNotProven
        ("SN39 submit returned no canonical receipt hash; the exact signed attempt remains " ++
          "fenced for restart-only proof"))
  else
    match receipt.isSuccess with
    | some true => pure receipt
    | some false =>
      .error (.vectorError .postSignedSubmissionMismatch
        "SN39 signed transaction finalized without successful execution")
    | none =>
      .error (.vectorError .pendingReceiptNotProven
        ("SN39 submit returned no provable execution result; the exact signed attempt " ++
          "remains fenced for restart-only proof"))

/-- The version that a pending attempt carries for the fence of a lane. -/
def Pending.fence (pending : Pending) : Lane → Option ℤ
  | .thin => pending.policyVersion
  | .authority => pending.sourceEpoch

/-- The attempt that a commit of `intent` signs. -/
def Journal.signedAttempt (current : Journal) (intent : BroadcastIntent) : SignedAttempt :=
  let lane := current.pending.lane.getD .thin
  { id := current.pending.id.getD ""
    lane := lane
    fence := (current.pending.fence lane).getD 0
    launch := current.pending.launchAttempt.getD false
    extrinsicHash := lower intent.extrinsicHash }

def submitExactSn39Extrinsic (answers : SigningAnswers) (contract : Contract)
    (preflight : ChainPreflight) (attemptId : String) (versionKey : ℤ)
    (wireUids wireWeights : List ℤ) (mortalPeriodBlocks : ℤ) : Tick ChainReceipt := do
  let state ← Tick.readJournal
  let intent ← signExactSn39Extrinsic answers contract preflight state versionKey wireUids
    wireWeights mortalPeriodBlocks
  Tick.write (fun current => .signed (current.signedAttempt intent)) fun current =>
    current.recordPendingBroadcastIntent attemptId intent
  answers.alarm
  Tick.submit attemptId intent.extrinsicHash
  let receipt ← answers.receipt
  checkChainReceipt receipt intent.extrinsicHash

/-! ## The write boundary -/

/-- What `set_weights_on_chain` asks for. -/
structure BoundaryAnswers where
  authorize : AuthorizeAnswers
  /-- `_chain_operation_deadline`, on entry. -/
  deadline : Except Exc Unit
  versionKey : ℤ
  signing : SigningAnswers
  /-- `_canonical_receipt_block_number`. -/
  canonicalBlockNumber : String → Except Exc ℤ
  proof : ProofAnswers

def receiptIdentity (answers : BoundaryAnswers) (receipt : ChainReceipt) :
    Except Exc ChainSubmission := do
  let noIdentity := "submission returned success without a canonical receipt identity; the " ++
    "durable attempt remains fenced"
  let blockHash := receipt.blockHash.map lower
  let blockNumber ←
    (match receipt.blockNumber, blockHash with
      | some number, _ => pure (some number)
      | none, some hash => some <$> answers.canonicalBlockNumber hash
      | none, none => pure none : Except Exc (Option ℤ))
  let number ← required blockNumber noIdentity
  let hash ← required blockHash noIdentity
  let extrinsicHash ← required receipt.extrinsicHash noIdentity
  refuse (number ≤ 0) noIdentity
  pure
    { success := true
      extrinsicHash := some extrinsicHash
      blockHash := some hash
      blockNumber := some number
      finalized := false }

/-- The end of a proof at the write boundary. -/
def concludeProof (submission : ChainSubmission) (status : ProofStatus) :
    Except Exc ChainSubmission :=
  match status with
  | .pass => pure { submission with finalized := true }
  | .fail =>
    .error (.vectorError .postSignedSubmissionMismatch
      ("submission receipt positively mismatches the reserved inclusion contract; the " ++
        "attempt remains fenced for operator investigation"))
  | _ =>
    .error (.vectorError .pendingReceiptNotProven
      ("submission receipt was recorded, but archive/RPC proof is temporarily " ++
        "unavailable; restart may only re-prove this exact receipt and must not submit again"))

/-- The submission inside the deadline, once the attempt is known. -/
def submitAndProve (answers : BoundaryAnswers) (contract : Contract)
    (preflight : ChainPreflight) (uidHotkeys : Dict ℤ String) (policy : InclusionPolicy)
    (attemptId : String) (wireUids wireWeights : List ℤ) : Tick ChainSubmission := do
  let receipt ← submitExactSn39Extrinsic answers.signing contract preflight attemptId
    answers.versionKey wireUids wireWeights policy.mortalPeriodBlocks
  let candidate ← receiptIdentity answers receipt
  Tick.write (fun _ => .receiptRecorded attemptId) fun current =>
    current.recordPendingSubmissionReceipt attemptId candidate answers.versionKey wireUids
      wireWeights
  let status := classifyFinalizedReceipt answers.proof (some receipt)
    { extrinsicHash := candidate.extrinsicHash.getD ""
      blockHash := candidate.blockHash.getD ""
      blockNumber := candidate.blockNumber.getD 0
      expected :=
        { validatorHotkey := preflight.validatorHotkey
          versionKey := answers.versionKey
          wireUids := wireUids
          wireWeights := wireWeights }
      uidHotkeys := uidHotkeys
      burnHotkey := sn39BurnHotkey
      policy := policy }
  Tick.write (fun _ => .proofRecorded attemptId status) fun current =>
    current.recordPendingProofStatus attemptId status
  concludeProof candidate status

/-- `_abort_unsigned_common_submission`; the result says whether it released anything. -/
def abortUnsignedCommonSubmission (attemptId : String) : Tick Bool := do
  let current ← Tick.readJournal
  if current.Releasable attemptId then do
    Tick.write (fun _ => .released attemptId) fun journal => .ok journal.abortUnsigned
    pure true
  else pure false

/-- The exception that leaves the handler of `set_weights_on_chain`. -/
def boundaryException (exc : Exc) (unsignedAborted : Bool) : Exc :=
  if unsignedAborted then exc
  else
    match exc with
    | .vectorError .pendingReceiptNotProven _ => exc
    | .vectorError .postSignedSubmissionMismatch _ => exc
    | _ =>
      .vectorError .pendingReceiptNotProven
        ("the exact signed transaction may have finalized, but its submit response or " ++
          "durable receipt could not be proven; restart may only reconcile this signed hash " ++
          "and must not submit again")

/-- The steps of `set_weights_on_chain` before the pending attempt is looked up. -/
def prepareChainCall (sdk : Sdk) (answers : BoundaryAnswers) (contract : Contract)
    (world : World) (uidWeights : Dict ℤ ℚ) (uidHotkeys : Dict ℤ String)
    (preflight : ChainPreflight) (policy : InclusionPolicy) :
    Except Exc (List ℤ × List ℤ) := do
  validateEmissionVector uidWeights
  let wire ← sdk.wire uidWeights
  authorizeSn39ChainSubmission answers.authorize contract world uidWeights uidHotkeys preflight
    policy
  validateChainConstraints uidWeights preflight
  answers.deadline
  pure wire

/-- `set_weights_on_chain` of a broadcast. An exception before the pending attempt is known
leaves as it is; a later one first tries to release the reservation. -/
def setWeightsOnChain (sdk : Sdk) (answers : BoundaryAnswers) (contract : Contract)
    (uidWeights : Dict ℤ ℚ) (uidHotkeys : Dict ℤ String) (preflight : ChainPreflight)
    (policy : InclusionPolicy) : Tick ChainSubmission := do
  let world ← Durable.read
  let wire ← prepareChainCall sdk answers contract world uidWeights uidHotkeys preflight policy
  let attemptId ← required world.journal.pending.id
    "SN39 authorized call has no durable pending attempt"
  refuse (isSha256Id attemptId = false) "SN39 authorized call has no durable pending attempt"
  Durable.handle
    (submitAndProve answers contract preflight uidHotkeys policy attemptId wire.1 wire.2)
    fun exc => do
      let unsignedAborted ← abortUnsignedCommonSubmission attemptId
      Tick.raise (boundaryException exc unsignedAborted)

end Cathedral.Sn39
