import Cathedral.Sn39.Ticks

/-!
# Cathedral.Sn39.Recovery — restart recovery

`_recover_pending_launch_receipt`, which runs before the first tick of a process: it
releases a reservation that never reached a signed intent, looks for the extrinsic of a
signed intent and retires it as expired or proves its receipt and finalizes it, and with
nothing pending it completes the lane mirror of the last finalization
(`_recover_common_finalized_submission`).
-/

namespace Cathedral.Sn39

/-! ## Exceptions -/

/-- `raise _PostSignedSubmissionMismatch(message)`. -/
def mismatch {α : Type} (message : String) : Except Exc α :=
  .error (.vectorError .postSignedSubmissionMismatch message)

/-- `if condition: raise _PostSignedSubmissionMismatch(message)`. -/
def contradict (condition : Prop) [Decidable condition] (message : String) : Except Exc Unit :=
  if condition then mismatch message else pure ()

/-- A value that a consistent record has. -/
def recorded {α : Type} (value : Option α) (message : String) : Except Exc α :=
  match value with
  | some value => pure value
  | none => mismatch message

/-- `raise _PendingReceiptNotProven(message)`. -/
def notProven {α : Type} (message : String) : Except Exc α :=
  .error (.vectorError .pendingReceiptNotProven message)

def Exc.IsMismatch : Exc → Prop
  | .vectorError .postSignedSubmissionMismatch _ => True
  | _ => False

instance : DecidablePred Exc.IsMismatch
  | .vectorError .postSignedSubmissionMismatch _ => isTrue trivial
  | .vectorError .vectorError _ => isFalse id
  | .vectorError .retryablePreSignHeadDrift _ => isFalse id
  | .vectorError .pendingReceiptNotProven _ => isFalse id
  | .other _ _ => isFalse id

/-! ## Mirror of the last finalization -/

/-- The finalized transaction that recovery reports. -/
structure RecoveredSubmission where
  attemptId : String
  evidence : Evidence
  uidWeights : List (ℤ × ℚ)
  burnUid : ℤ
  burnShare : ℚ
  extrinsicHash : String
  blockHash : String
  blockNumber : ℤ

/-- `str(identity["burn_hotkey"])`. -/
def Identity.burnHotkeyText (identity : Identity) : String := identity.burnHotkey.getD "None"

/-- The burn uid of an identity and its share. -/
def Identity.burn (identity : Identity) : Option (ℤ × ℚ) := do
  let item ← identity.hotkeys.items.find? fun item => item.2 = identity.burnHotkeyText
  let share ← identity.weights.get? item.1
  pure (item.1, share)

/-- The record of the last finalization: attempt, lane, identity, intent, receipt. -/
structure LastFinalized where
  attemptId : String
  lane : Lane
  identity : Identity
  intent : BroadcastIntent
  receipt : Receipt

/-- The pending fields that the last finalization left, against its record. -/
def checkFinalizedLeftovers (state : Journal) (attemptId : String) : Except Exc LastFinalized := do
  let contradictory := "finalized common submission recovery record is contradictory"
  let lane ← recorded state.finalized.lane contradictory
  let identity ← recorded state.finalized.identity contradictory
  let intent ← recorded state.finalized.broadcastIntent contradictory
  let receipt ← recorded state.finalized.receipt contradictory
  contradict (isSha256Id attemptId = false ∨
      attemptId ∉ state.attemptIds ∨
      state.pending.id ≠ none ∨
      state.activeLane ≠ some lane ∨
      state.pending.lane ≠ some lane ∨
      state.pending.phase ≠ some .signedIntent ∨
      state.pending.identity ≠ some identity ∨
      state.pending.broadcastIntent ≠ some intent ∨
      state.pending.proofStatus ≠ some .pass) contradictory
  pure
    { attemptId := attemptId
      lane := lane
      identity := identity
      intent := intent
      receipt := receipt }

/-- The record against its own identity, intent and receipt. -/
def checkFinalizedIdentity (sdk : Sdk) (state : Journal) (last : LastFinalized) :
    Except Exc (ℤ × ℚ) := do
  let identity := last.identity
  let receipt := last.receipt
  let intent := last.intent
  let malformed := "finalized common submission identity or receipt is malformed"
  let expected ← orRaise (sdk.wire identity.weights)
    (.vectorError .postSignedSubmissionMismatch malformed)
  let burn ← recorded identity.burn malformed
  contradict (identity.network ≠ "finney" ∨ identity.netuid ≠ sn39Netuid ∨
      state.genesisHash ≠ some finneyGenesisHash ∨
      some identity.validatorHotkey ≠ state.validatorHotkey ∨
      some intent.eraReferenceBlock ≠ identity.mappingBlock ∨
      identity.hotkeys.keys.toFinset ≠ identity.weights.keys.toFinset ∨
      identity.hotkeys.values.count identity.burnHotkeyText ≠ 1 ∨
      burn.2 < 0 ∨
      isChainHash (lower receipt.extrinsicHash) = false ∨
      isChainHash (lower receipt.blockHash) = false ∨
      receipt.blockNumber ≤ 0 ∨ receipt.versionKey < 0 ∨ intent.nonce < 0 ∨
      intent.eraReferenceBlock ≤ 0 ∨ intent.mortalPeriodBlocks ≠ sn39MortalPeriodBlocks ∨
      (∃ value ∈ receipt.wireUids ++ receipt.wireWeights ++ intent.wireUids ++
        intent.wireWeights, value < 0) ∨
      lower receipt.extrinsicHash ≠ lower intent.extrinsicHash ∨
      receipt.versionKey ≠ intent.versionKey ∨
      receipt.wireUids ≠ intent.wireUids ∨ receipt.wireWeights ≠ intent.wireWeights ∨
      receipt.wireUids ≠ expected.1 ∨ receipt.wireWeights ≠ expected.2 ∨
      state.finalized.extrinsicHash ≠ some (lower receipt.extrinsicHash) ∨
      state.finalized.blockHash ≠ some (lower receipt.blockHash) ∨
      state.finalized.blockNumber ≠ some receipt.blockNumber ∨
      state.finalized.versionKey ≠ some receipt.versionKey)
    "finalized common submission does not match its durable identity"
  pure burn

def checkFinalizedEvidence (lane : Lane) (identity : Identity) : Except Exc Unit :=
  match lane, identity.evidence with
  | .thin, .thin vector =>
    contradict (vector.policyVersion < 0 ∨ vector.vectorId = "" ∨
        isSha256Id vector.signedVectorSha256 = false)
      "finalized common thin identity is malformed"
  | .authority, .authority report =>
    contradict (report.sourceEpoch < 0 ∨ isSha256Id report.reportId = false)
      "finalized common FULL identity is malformed"
  | .thin, .authority _ => mismatch "finalized common thin identity is malformed"
  | .authority, .thin _ => mismatch "finalized common FULL identity is malformed"

/-- The transaction of the last finalization as a lane records it. -/
def LastFinalized.record (last : LastFinalized) : FinalizedRecord :=
  { attemptId := last.attemptId
    identity := last.identity
    extrinsicHash := lower last.receipt.extrinsicHash
    blockHash := lower last.receipt.blockHash
    blockNumber := last.receipt.blockNumber }

/-- The record of a lane in the lane state file. -/
def LaneState.laneOf (document : LaneState) : Lane → LaneRecord
  | .thin => document.thin
  | .authority => document.authority

instance (document : LaneState) (call : FinalizedRecord) : Decidable (document.Mirrors call) := by
  unfold LaneState.Mirrors
  exact match call.identity.evidence with
    | .thin _ => inferInstanceAs (Decidable (_ ∧ _))
    | .authority _ => inferInstanceAs (Decidable (_ = _))

def recoverCommonFinalizedSubmission (sdk : Sdk) (state : Journal) :
    Tick (Option RecoveredSubmission) :=
  match state.finalized.id with
  | none => pure none
  | some attemptId =>
    if state.finalized.lane = none ∧ state.finalized.identity = none ∧
        state.finalized.broadcastIntent = none ∧ state.finalized.receipt = none then pure none
    else do
      let last ← checkFinalizedLeftovers state attemptId
      let burn ← checkFinalizedIdentity sdk state last
      let laneState ← Tick.readLane
      checkFinalizedEvidence last.lane last.identity
      if laneState.Mirrors last.record then pure none
      else do
        contradict ((laneState.laneOf last.lane).attemptId = some attemptId ∨
            (laneState.laneOf last.lane).finalizedId = some attemptId)
          "finalized common submission contradicts its lane mirror"
        Tick.writeLane (.mirrored attemptId) fun document =>
          orRaise (document.finalize last.record true)
            (.vectorError .postSignedSubmissionMismatch
              "finalized common submission contradicts its lane state")
        pure (some
          { attemptId := attemptId
            evidence := last.identity.evidence
            uidWeights := last.identity.weights.sorted.items
            burnUid := burn.1
            burnShare := burn.2
            extrinsicHash := last.record.extrinsicHash
            blockHash := last.record.blockHash
            blockNumber := last.record.blockNumber })

/-! ## Pending attempts -/

/-- What restart recovery asks for. -/
structure RecoveryAnswers where
  chainPreflight : Except Exc ChainPreflight
  lock : Except Exc Unit
  scan : ScanAnswers
  /-- `_chain_operation_deadline`, on entry. -/
  deadline : Except Exc Unit
  proof : ProofAnswers

def policyFromSubmissionIdentity (identity : Identity) : Except Exc InclusionPolicy := do
  let epoch ← required identity.inclusionPolicy.expectedNextEpochStartBlock
    "pending inclusion policy is malformed"
  refuse (identity.nextEpochStartBlock ≠ some epoch)
    "pending inclusion policy identity is inconsistent"
  pure identity.inclusionPolicy

/-- A journaled signed intent that agrees with its reservation. -/
structure SignedRecord where
  identity : Identity
  policy : InclusionPolicy
  intent : BroadcastIntent
  candidate : Option Receipt

/-- The checks on a pending signed intent before any chain read. -/
def checkSignedIntent (sdk : Sdk) (state : Journal) : Except Exc SignedRecord := do
  contradict (state.pending.proofStatus = some .fail)
    ("pending submission has a positive historical proof mismatch; automatic recovery is " ++
      "forbidden")
  let identity ← required state.pending.identity
    "pending submission has no complete submission identity"
  let expected ← orRaise (sdk.wire identity.weights)
    (.vectorError .vectorError "pending submission identity is malformed")
  let policy ← policyFromSubmissionIdentity identity
  let intent ← required state.pending.broadcastIntent
    "pending submission predates its exact signed broadcast intent; refusing any retry"
  refuse (isChainHash (lower intent.extrinsicHash) = false ∨ intent.nonce < 0 ∨
      some intent.eraReferenceBlock ≠ identity.mappingBlock ∨
      intent.mortalPeriodBlocks ≠ policy.mortalPeriodBlocks ∨
      intent.mortalPeriodBlocks ≠ sn39MortalPeriodBlocks ∨ intent.versionKey < 0 ∨
      (∃ value ∈ intent.wireUids ++ intent.wireWeights, value < 0) ∨
      intent.wireUids ≠ expected.1 ∨ intent.wireWeights ≠ expected.2)
    ("pending signed broadcast intent differs from its reserved vector or inclusion " ++
      "policy")
  pure
    { identity := identity
      policy := policy
      intent := { intent with extrinsicHash := lower intent.extrinsicHash }
      candidate := state.pending.receiptCandidate }

/-- The proof status that a verdict of the scan records. -/
def Located.status : Located → ProofStatus
  | .pass _ => .pass
  | .fail => .fail
  | .notProven => .notProven
  | .expiredWithoutInclusion => .notProven

def locatedReceipt (submission : ChainSubmission) (intent : BroadcastIntent) : Receipt :=
  { extrinsicHash := submission.extrinsicHash.getD ""
    blockHash := submission.blockHash.getD ""
    blockNumber := submission.blockNumber.getD 0
    versionKey := intent.versionKey
    wireUids := intent.wireUids
    wireWeights := intent.wireWeights }

def locatedSubmission (located : Located) : Except Exc ChainSubmission :=
  match located with
  | .pass submission => pure submission
  | .fail =>
    mismatch ("pending broadcast recovery found conflicting historical calls; operator " ++
      "investigation is required")
  | _ =>
    notProven ("pending broadcast has no unique finalized exact transaction in its " ++
      "authorized block window; no second chain write was attempted")

/-- A verdict of the scan that keeps the attempt, with the receipt it has located. -/
def recordLocated (attemptId : String) (intent : BroadcastIntent) (located : Located) :
    Tick Receipt := do
  Tick.write (fun _ => .proofRecorded attemptId located.status) fun current =>
    current.recordPendingProofStatus attemptId located.status
  let submission ← locatedSubmission located
  Tick.write (fun _ => .receiptRecorded attemptId) fun current =>
    current.recordPendingSubmissionReceipt attemptId submission intent.versionKey intent.wireUids
      intent.wireWeights
  pure (locatedReceipt submission intent)

/-- The receipt candidate of a pending attempt: the recorded one, or what the scan locates;
`none` when the attempt has been retired as expired. -/
def receiptCandidate (answers : RecoveryAnswers) (validatorHotkey attemptId : String)
    (signed : SignedRecord) : Tick (Option Receipt) :=
  match signed.candidate with
  | some candidate => pure (some candidate)
  | none =>
    match locatePendingBroadcastReceipt answers.scan signed.intent validatorHotkey
        signed.policy with
    | .expiredWithoutInclusion => do
      Tick.write (fun _ => .expired attemptId) fun current =>
        current.expirePendingCommonSubmission attemptId
      pure none
    | located => do
      let receipt ← recordLocated attemptId signed.intent located
      pure (some receipt)

/-- The receipt candidate against the reserved identity and the connected chain. -/
def checkCandidate (state : Journal) (preflight : ChainPreflight) (signed : SignedRecord)
    (candidate : Receipt) : Except Exc Unit :=
  let identity := signed.identity
  refuse (identity.network ≠ "finney" ∨ identity.netuid ≠ sn39Netuid ∨
      identity.validatorHotkey ≠ preflight.validatorHotkey ∨
      state.genesisHash ≠ some preflight.genesisHash ∨
      isChainHash candidate.extrinsicHash = false ∨
      lower candidate.extrinsicHash ≠ signed.intent.extrinsicHash ∨
      isChainHash candidate.blockHash = false ∨ candidate.blockNumber ≤ 0 ∨
      candidate.wireUids ≠ signed.intent.wireUids ∨
      candidate.wireWeights ≠ signed.intent.wireWeights ∨
      identity.hotkeys.keys.toFinset ≠ identity.weights.keys.toFinset)
    "pending receipt differs from its reserved vector or chain identity"

/-- What the proof of a candidate has to show. -/
def candidateClaim (preflight : ChainPreflight) (signed : SignedRecord) (candidate : Receipt) :
    ReceiptClaim :=
  { extrinsicHash := candidate.extrinsicHash
    blockHash := candidate.blockHash
    blockNumber := candidate.blockNumber
    expected :=
      { validatorHotkey := preflight.validatorHotkey
        versionKey := candidate.versionKey
        wireUids := candidate.wireUids
        wireWeights := candidate.wireWeights }
    uidHotkeys := signed.identity.hotkeys
    burnHotkey := signed.identity.burnHotkey.getD ""
    policy := signed.policy }

/-- The end of a proof in recovery. -/
def concludeRecovery (status : ProofStatus) : Except Exc Unit :=
  match status with
  | .pass => pure ()
  | .fail =>
    mismatch ("pending receipt positively mismatches its historical inclusion contract; " ++
      "operator investigation is required")
  | _ =>
    notProven ("pending receipt is still not provable from the archive; no second chain " ++
      "write was attempted")

/-- `_write_state` with the lane updates of a recovered submission, when the lane already
names the attempt. -/
def LaneState.completeRecord (document : LaneState) (call : FinalizedRecord) : LaneState :=
  match call.identity.evidence with
  | .thin vector =>
    { document with
      thin := { document.thin with
        finalized := true
        finalizedId := some call.attemptId
        extrinsicHash := some call.extrinsicHash
        blockHash := some call.blockHash
        blockNumber := some call.blockNumber }
      lastAcceptedPolicyVersion := some vector.policyVersion
      lastVectorId := some vector.vectorId
      thinRecovered := some
        { policyVersion := vector.policyVersion
          vectorId := vector.vectorId
          signedVectorSha256 := vector.signedVectorSha256 } }
  | .authority _ => { document with authority := call.laneRecord document.authority.attemptIds }

/-- The lane write after a recovered finalization. -/
def LaneState.recover (document : LaneState) (lane : Lane) (call : FinalizedRecord) :
    Except Exc LaneState :=
  if (document.laneOf lane).attemptId = some call.attemptId then pure (document.completeRecord call)
  else document.finalize call true

def checkRecoveredEvidence (lane : Lane) (identity : Identity) : Except Exc Unit :=
  match lane, identity.evidence with
  | .thin, .thin vector =>
    refuse (vector.policyVersion < 0 ∨ vector.vectorId = "" ∨
        isSha256Id vector.signedVectorSha256 = false) "recovered thin identity is malformed"
  | .authority, .authority report =>
    refuse (report.sourceEpoch < 0 ∨ isSha256Id report.reportId = false)
      "recovered FULL identity is malformed"
  | .thin, .authority _ => fail "recovered thin submission has no exact policy/vector identity"
  | .authority, .thin _ => fail "recovered FULL submission has no exact evidence identity"

/-- From a proved receipt to the finalized submission and its mirror. -/
def finalizeRecovered (sdk : Sdk) (attemptId : String) (lane : Lane) (identity : Identity)
    (candidate : Receipt) : Tick RecoveredSubmission := do
  let submission : ChainSubmission :=
    { success := true
      extrinsicHash := some candidate.extrinsicHash
      blockHash := some candidate.blockHash
      blockNumber := some candidate.blockNumber
      finalized := true }
  Tick.write (fun _ => .finalized attemptId) fun current =>
    current.finalizeCommonSubmission sdk attemptId submission candidate.versionKey
  let burn ← required identity.burn "recovered submission has no exact burn identity"
  refuse (burn.2 < 0) "recovered submission identity is malformed"
  checkRecoveredEvidence lane identity
  Tick.writeLane (.mirrored attemptId) fun document =>
    document.recover lane (mirrorRecord attemptId identity submission)
  pure
    { attemptId := attemptId
      evidence := identity.evidence
      uidWeights := identity.weights.sorted.items
      burnUid := burn.1
      burnShare := burn.2
      extrinsicHash := candidate.extrinsicHash
      blockHash := candidate.blockHash
      blockNumber := candidate.blockNumber }

/-- The proof of a receipt candidate, and what follows from it. -/
def proveCandidate (sdk : Sdk) (answers : RecoveryAnswers) (preflight : ChainPreflight)
    (state : Journal) (attemptId : String) (lane : Lane) (signed : SignedRecord)
    (candidate : Receipt) : Tick RecoveredSubmission := do
  checkCandidate state preflight signed candidate
  (match answers.deadline with
    | .ok _ => pure ()
    | .error _ =>
      notProven "pending receipt archive proof is temporarily unavailable" : Except Exc Unit)
  let status := classifyFinalizedReceipt answers.proof none
    (candidateClaim preflight signed candidate)
  Tick.write (fun _ => .proofRecorded attemptId status) fun current =>
    current.recordPendingProofStatus attemptId status
  concludeRecovery status
  finalizeRecovered sdk attemptId lane signed.identity candidate

def recoverSignedAttempt (sdk : Sdk) (answers : RecoveryAnswers) (preflight : ChainPreflight)
    (state : Journal) (attemptId : String) (lane : Lane) : Tick (Option RecoveredSubmission) := do
  let signed ← checkSignedIntent sdk state
  let candidate ← receiptCandidate answers preflight.validatorHotkey attemptId signed
  match candidate with
  | none => pure none
  | some candidate => do
    let recovered ← proveCandidate sdk answers preflight state attemptId lane signed candidate
    pure (some recovered)

/-- Recovery of an unsigned reservation. -/
def releaseReservation (attemptId : String) : Tick (Option RecoveredSubmission) := do
  let released ← abortUnsignedCommonSubmission attemptId
  refuse (released = false)
    "unsigned reservation changed while restart recovery held the submission lock"
  pure none

def recoverPendingAttempt (sdk : Sdk) (answers : RecoveryAnswers) (preflight : ChainPreflight)
    (state : Journal) (attemptId : String) : Tick (Option RecoveredSubmission) := do
  let lane ← required state.pending.lane "pending submission journal is malformed"
  refuse (isSha256Id attemptId = false) "pending submission journal is malformed"
  match state.pending.phase with
  | some .unsignedReserved => releaseReservation attemptId
  | some .signedIntent => recoverSignedAttempt sdk answers preflight state attemptId lane
  | none =>
    Durable.lift
      (fail "pending submission journal has no recognized unsigned or signed phase")

def recoveryException (exc : Exc) : Exc :=
  match exc with
  | .vectorError .postSignedSubmissionMismatch _ => exc
  | .vectorError .pendingReceiptNotProven _ => exc
  | .other "OSError" _ =>
    .vectorError .pendingReceiptNotProven
      "pending receipt recovery state is temporarily unavailable"
  | _ =>
    .vectorError .postSignedSubmissionMismatch
      "pending receipt recovery found contradictory durable state"

/-- A step of recovery before the lock, whose failure proves nothing. -/
def orNotProven {α : Type} (x : Except Exc α) (message : String) : Except Exc α :=
  match x with
  | .ok a => .ok a
  | .error (.vectorError .postSignedSubmissionMismatch text) =>
    .error (.vectorError .postSignedSubmissionMismatch text)
  | .error (.vectorError .pendingReceiptNotProven text) =>
    .error (.vectorError .pendingReceiptNotProven text)
  | .error _ => notProven message

/-- `_recover_pending_launch_receipt` under the submission lock. -/
def recoverUnderLock (sdk : Sdk) (answers : RecoveryAnswers) (preflight : ChainPreflight) :
    Tick (Option RecoveredSubmission) := do
  let state ← Tick.readJournal
  match state.pending.id with
  | none => recoverCommonFinalizedSubmission sdk state
  | some attemptId => recoverPendingAttempt sdk answers preflight state attemptId

def recoverPendingLaunchReceipt (sdk : Sdk) (answers : RecoveryAnswers) (args : Args)
    (bound : Option Signer) : Tick (Option RecoveredSubmission) :=
  if args.Broadcasts then do
    let (preflight, _) ← orNotProven (prepareTickPreflight args bound answers.chainPreflight)
      "pending receipt recovery chain preflight is temporarily unavailable"
    orNotProven answers.lock "pending receipt recovery lock is temporarily unavailable"
    Durable.handle (recoverUnderLock sdk answers preflight) fun exc =>
      Tick.raise (recoveryException exc)
  else pure none

end Cathedral.Sn39
