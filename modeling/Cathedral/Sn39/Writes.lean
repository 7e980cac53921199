import Cathedral.Sn39.Journal

/-!
# Cathedral.Sn39.Writes — the durable writes of the journal

`_write_state_fenced` in its uses on the journal (reservation, receipt and proof
records, finalization), `_commit_pending_signed_attempt`,
`_abort_unsigned_common_submission`, `_expire_pending_common_submission`,
`_finalize_common_submission` and the write of `reconcile_launch_transition`.

Each write has one lemma that says all it has checked and what it leaves: later
proofs use the lemma and do not unfold the write.
-/

namespace Cathedral.Sn39

/-! ## Reservation -/

/-- `re.fullmatch(r"[a-z0-9_]{1,64}", scope) is not None`. -/
def isBudgetScope (scope : String) : Bool :=
  1 ≤ scope.toList.length && scope.toList.length ≤ 64 &&
    scope.toList.all fun c => c.isDigit || ('a' ≤ c && c ≤ 'z') || c == '_'

/-- The updates of `_reserve_common_submission`. -/
structure Reservation where
  genesisHash : String
  netuid : ℤ
  validatorHotkey : String
  allowAuthorityLaneTransition : Bool
  launchAttempt : Bool
  launchBudgetLimit : Option ℤ
  budgetScope : Option String
  budgetLimit : Option ℤ
  attemptId : String
  lane : Lane
  identity : Identity
  policyVersion : Option ℤ
  sourceEpoch : Option ℤ

/-- The budget of a scope, if one more attempt fits into it. -/
def Journal.openBudget (current : Journal) (scope : String) (limit : Option ℤ)
    (malformed : String) : Except Exc Budget := do
  let limit ← present limit malformed
  reject (isBudgetScope scope = false ∨ limit ≤ 0) malformed
  let budget := (current.budgets.get? scope).getD { limit := limit, ids := [] }
  reject (budget.limit ≠ limit ∨ ¬ ∀ id ∈ budget.ids, isSha256Id id = true)
    "submission attempt budget changed or is corrupt"
  reject (limit ≤ budget.ids.length) "submission attempt budget is exhausted"
  pure budget

/-- A version above the durable fence. -/
def checkFence (version prior : Option ℤ) (malformed rollback : String) : Except Exc ℤ := do
  let version ← present version malformed
  reject (version < 0) malformed
  reject (∃ fence ∈ prior, version ≤ fence) rollback
  pure version

/-- `submission_pending_lane_transition_from` of a reservation. -/
def Journal.laneTransition (current : Journal) (r : Reservation) : Except Exc (Option Lane) :=
  if ∃ active ∈ current.activeLane, active ≠ r.lane then
    if r.allowAuthorityLaneTransition = true ∧ current.activeLane = some .thin ∧
        r.lane = .authority ∧ AuthorityLaneTransitionAuthorized current r.identity then
      pure (some .thin)
    else
      valueError "submission authority lane changed without explicit operator reconciliation"
  else do
    reject (r.allowAuthorityLaneTransition = true ∧ r.lane ≠ .authority)
      "only FULL authority may request a submission lane transition"
    pure none

/-- The budget checks of a reservation, which charge nothing. -/
def Journal.checkReservedBudget (current : Journal) (r : Reservation) : Except Exc Unit :=
  match r.budgetScope with
  | none => pure ()
  | some scope => do
    let _ ← current.openBudget scope r.budgetLimit "submission attempt budget scope is malformed"

def Journal.checkReservedLaunch (current : Journal) (r : Reservation) : Except Exc Unit :=
  if r.launchAttempt = true then do
    reject (r.launchBudgetLimit ≠ some 1) "launch submission budget must be exactly one"
    reject (¬ ∀ id ∈ current.launch.attemptIds, isSha256Id id = true)
      "launch submission attempt journal is corrupt"
    reject (current.launch.attemptIds ≠ []) "launch submission attempt budget 1 is exhausted"
  else
    reject (r.launchBudgetLimit ≠ none) "non-launch reservation carries a launch budget"

/-- The rollback check of a reservation, in its own lane. -/
def Journal.checkReservedFence (current : Journal) (r : Reservation) : Except Exc ℤ :=
  match r.lane with
  | .thin => checkFence r.policyVersion current.highestPolicyVersion
      "common thin policy fence is malformed" "common thin policy rollback"
  | .authority => checkFence r.sourceEpoch current.highestSourceEpoch
      "common authority source-epoch fence is malformed" "common authority epoch rollback"

/-- A key of the chain identity is never overwritten with another value. -/
def checkChainIdentity {α : Type} [DecidableEq α] (reserved : Option α) (value : α)
    (key : String) : Except Exc Unit :=
  reject (∃ old ∈ reserved, old ≠ value) ("reservation chain-identity mismatch: " ++ key)

/-- The pending record of a reservation; nothing of an earlier record is left in it. -/
def Reservation.pending (r : Reservation) (laneTransitionFrom : Option Lane) : Pending :=
  { id := some r.attemptId
    lane := some r.lane
    identity := some r.identity
    phase := some .unsignedReserved
    launchAttempt := some r.launchAttempt
    launchBudgetLimit := r.launchBudgetLimit
    budgetScope := r.budgetScope
    budgetLimit := r.budgetLimit
    policyVersion := r.policyVersion
    sourceEpoch := r.sourceEpoch
    laneTransitionFrom := laneTransitionFrom }

/-- `_write_state_fenced` with the updates of a reservation. -/
def Journal.reserve (current : Journal) (r : Reservation) : Except Exc Journal := do
  reject (isSha256Id r.attemptId = false) "common submission attempt id is malformed"
  reject (current.pending.id ≠ none) "a prior thin/full submission is pending reconciliation"
  reject (¬ ∀ id ∈ current.attemptIds, isSha256Id id = true)
    "common submission attempt journal is corrupt"
  reject (r.attemptId ∈ current.attemptIds) "this exact thin/full submission was already attempted"
  let laneTransitionFrom ← current.laneTransition r
  current.checkReservedBudget r
  current.checkReservedLaunch r
  let _ ← current.checkReservedFence r
  checkChainIdentity current.provenanceNetuid r.netuid "provenance_netuid"
  checkChainIdentity current.genesisHash r.genesisHash "submission_genesis_hash"
  checkChainIdentity current.validatorHotkey r.validatorHotkey "submission_validator_hotkey"
  pure
    { current with
      genesisHash := some r.genesisHash
      provenanceNetuid := some r.netuid
      validatorHotkey := some r.validatorHotkey
      pending := r.pending laneTransitionFrom }

/-! ## Signed intent -/

def Journal.checkLane (current : Journal) (lane : Lane) (identity : Identity) : Except Exc Unit :=
  if ∃ active ∈ current.activeLane, active ≠ lane then
    reject (¬ (current.activeLane = some .thin ∧ lane = .authority ∧
        current.pending.laneTransitionFrom = some .thin ∧
        AuthorityLaneTransitionAuthorized current identity))
      "submission authority lane changed before signed-intent commit"
  else
    reject (current.pending.laneTransitionFrom ≠ none)
      "pending submission lane transition is inconsistent"

/-- `submission_attempt_budgets` after the commit. -/
def Journal.chargeBudget (current : Journal) (attemptId : String) :
    Except Exc (Dict String Budget) :=
  match current.pending.budgetScope with
  | none => do
    reject (current.pending.budgetLimit ≠ none) "pending submission budget limit has no scope"
    pure current.budgets
  | some scope => do
    let budget ← current.openBudget scope current.pending.budgetLimit
      "pending submission budget is malformed"
    pure (current.budgets.set scope { budget with ids := budget.ids ++ [attemptId] })

/-- The keys `submission_launch_*` after the commit. -/
def Journal.chargeLaunch (current : Journal) (attemptId : String) (launchAttempt : Bool) :
    Except Exc Launch :=
  if launchAttempt = true then do
    reject (current.pending.launchBudgetLimit ≠ some 1 ∨ current.launch.attemptIds ≠ [])
      "launch submission budget 1 is exhausted or corrupt"
    pure { current.launch with attemptIds := [attemptId], status := some .pending }
  else do
    reject (current.pending.launchBudgetLimit ≠ none)
      "non-launch signed attempt carries a launch budget"
    pure current.launch

/-- The rollback fences after the commit, policy version first. -/
def Journal.raiseFences (current : Journal) (lane : Lane) : Except Exc (Option ℤ × Option ℤ) :=
  match lane with
  | .thin => do
    let version ← checkFence current.pending.policyVersion current.highestPolicyVersion
      "common thin policy fence changed before signing"
      "common thin policy fence changed before signing"
    pure (some version, current.highestSourceEpoch)
  | .authority => do
    let epoch ← checkFence current.pending.sourceEpoch current.highestSourceEpoch
      "common authority epoch fence changed before signing"
      "common authority epoch fence changed before signing"
    pure (current.highestPolicyVersion, some epoch)

def Journal.commitPendingSignedAttempt (current : Journal) (attemptId : String)
    (intent : BroadcastIntent) : Except Exc Journal := do
  let notPristine := "signed intent does not match one pristine unsigned reservation"
  reject (current.pending.id ≠ some attemptId ∨
      current.pending.phase ≠ some .unsignedReserved ∨
      current.pending.broadcastIntent ≠ none ∨
      current.pending.receiptCandidate ≠ none) notPristine
  let lane ← present current.pending.lane notPristine
  let identity ← present current.pending.identity notPristine
  reject (¬ ∀ id ∈ current.attemptIds, isSha256Id id = true)
    "common submission attempt journal is corrupt"
  reject (attemptId ∈ current.attemptIds) "signed attempt already exists in the common journal"
  current.checkLane lane identity
  let budgets ← current.chargeBudget attemptId
  let launchAttempt ← present current.pending.launchAttempt "pending launch marker is malformed"
  let launch ← current.chargeLaunch attemptId launchAttempt
  let fences ← current.raiseFences lane
  pure
    { current with
      pending := { current.pending with
        phase := some .signedIntent
        broadcastIntent := some intent }
      attemptIds := current.attemptIds ++ [attemptId]
      budgets := budgets
      activeLane := some lane
      highestPolicyVersion := fences.1
      highestSourceEpoch := fences.2
      launch := launch }

def Journal.recordPendingBroadcastIntent (current : Journal) (attemptId : String)
    (intent : BroadcastIntent) : Except Exc Journal := do
  refuse (isSha256Id attemptId = false ∨ isChainHash intent.extrinsicHash = false ∨
      intent.nonce < 0 ∨ intent.eraReferenceBlock ≤ 0 ∨
      intent.mortalPeriodBlocks ≠ sn39MortalPeriodBlocks ∨ intent.versionKey < 0 ∨
      intent.wireUids = [] ∨ intent.wireUids.length ≠ intent.wireWeights.length ∨
      ∃ value ∈ intent.wireUids ++ intent.wireWeights, value < 0)
    "pending broadcast intent is malformed"
  current.commitPendingSignedAttempt attemptId
    { intent with extrinsicHash := lower intent.extrinsicHash }

/-! ## Receipt and proof records -/

/-- `_write_state_fenced` with `_record_receipt_for_submission_id`. -/
def Journal.recordFor (current : Journal) (attemptId : String) (update : Pending → Pending) :
    Except Exc Journal := do
  reject (isSha256Id attemptId = false ∨ current.pending.id ≠ some attemptId)
    "receipt candidate does not match the common pending fence"
  pure { current with pending := update current.pending }

def Journal.recordPendingSubmissionReceipt (current : Journal) (attemptId : String)
    (submission : ChainSubmission) (versionKey : ℤ) (wireUids wireWeights : List ℤ) :
    Except Exc Journal :=
  let noReceipt := "successful chain call has no canonical restart-safe receipt identity"
  match submission.extrinsicHash, submission.blockHash, submission.blockNumber with
  | some extrinsicHash, some blockHash, some blockNumber => do
    refuse (submission.success = false ∨ isChainHash extrinsicHash = false ∨
        isChainHash blockHash = false ∨ blockNumber ≤ 0 ∨ versionKey < 0 ∨
        wireUids.length ≠ wireWeights.length) noReceipt
    current.recordFor attemptId fun pending =>
      { pending with
        receiptCandidate := some
          { extrinsicHash := extrinsicHash
            blockHash := blockHash
            blockNumber := blockNumber
            versionKey := versionKey
            wireUids := wireUids
            wireWeights := wireWeights }
        proofStatus := some .pending }
  | _, _, _ => fail noReceipt

def Journal.recordPendingProofStatus (current : Journal) (attemptId : String)
    (status : ProofStatus) : Except Exc Journal := do
  reject (status = .pending) "pending proof status is invalid"
  current.recordFor attemptId fun pending => { pending with proofStatus := some status }

/-! ## Finalization -/

/-- What a finalization records of the transaction. -/
structure FinalizedCall where
  lane : Lane
  identity : Identity
  intent : BroadcastIntent
  extrinsicHash : String
  blockHash : String
  blockNumber : ℤ
  versionKey : ℤ

/-- The checks of `_finalize_common_submission` against the pending record. -/
def Journal.checkFinalization (sdk : Sdk) (pending : Journal) (attemptId : String)
    (submission : ChainSubmission) (finalizedVersionKey : ℤ) : Except Exc FinalizedCall := do
  let noIntent := "submission finalization has no matching exact signed intent"
  let differs := "submission finalization differs from its exact signed intent"
  reject (pending.pending.id ≠ some attemptId ∨ pending.pending.phase ≠ some .signedIntent) noIntent
  let intent ← present pending.pending.broadcastIntent noIntent
  let identity ← present pending.pending.identity
    "submission finalization has a malformed reserved vector"
  let expected ← orRaise (sdk.wire identity.weights)
    (.other "ValueError" "submission finalization has a malformed reserved vector")
  let lane ← present pending.pending.lane differs
  let extrinsicHash ← present submission.extrinsicHash differs
  let blockHash ← present submission.blockHash differs
  let blockNumber ← present submission.blockNumber differs
  reject (submission.success = false ∨ submission.finalized = false ∨
      isChainHash (lower extrinsicHash) = false ∨
      lower extrinsicHash ≠ lower intent.extrinsicHash ∨
      isChainHash (lower blockHash) = false ∨ blockNumber ≤ 0 ∨
      intent.versionKey < 0 ∨ intent.versionKey ≠ finalizedVersionKey ∨
      intent.wireUids = [] ∨ intent.wireUids.length ≠ intent.wireWeights.length ∨
      (∃ value ∈ intent.wireUids ++ intent.wireWeights, value < 0) ∨
      intent.wireUids ≠ expected.1 ∨ intent.wireWeights ≠ expected.2) differs
  pure
    { lane := lane
      identity := identity
      intent := intent
      extrinsicHash := extrinsicHash
      blockHash := blockHash
      blockNumber := blockNumber
      versionKey := finalizedVersionKey }

/-- `finalized_receipt`. -/
def FinalizedCall.receipt (call : FinalizedCall) : Receipt :=
  { extrinsicHash := lower call.extrinsicHash
    blockHash := lower call.blockHash
    blockNumber := call.blockNumber
    versionKey := call.versionKey
    wireUids := call.intent.wireUids
    wireWeights := call.intent.wireWeights }

/-- The keys `submission_launch_*` after the finalization. -/
def Journal.finalizeLaunch (pending : Journal) (attemptId : String) (call : FinalizedCall) :
    Except Exc (Launch × Continuous) := do
  let launchAttempt ← present pending.pending.launchAttempt
    "submission finalization has no durable launch marker"
  if launchAttempt = true then do
    let uidSafety ← present call.identity.uidSafety
      "launch finalization has no signed intent or UID safety proof"
    pure
      ({ pending.launch with
          status := some .finalized
          attemptId := some attemptId
          identity := some call.identity
          extrinsicHash := some call.extrinsicHash
          blockHash := some call.blockHash
          blockNumber := some call.blockNumber
          versionKey := some call.versionKey
          broadcastIntent := some call.intent
          uidSafety := some uidSafety },
        { pending.continuous with enabled := false })
  else
    pure (pending.launch, pending.continuous)

/-- `_finalize_common_submission`, with its `_write_state_fenced`: both read the same
document, as the caller holds the submission lock. -/
def Journal.finalizeCommonSubmission (sdk : Sdk) (pending : Journal) (attemptId : String)
    (submission : ChainSubmission) (finalizedVersionKey : ℤ) : Except Exc Journal := do
  let call ← pending.checkFinalization sdk attemptId submission finalizedVersionKey
  let launch ← pending.finalizeLaunch attemptId call
  reject (isSha256Id attemptId = false)
    "submission finalization does not match the common pending fence"
  reject (pending.finalized.count < 0) "common finalized-submission count is malformed"
  pure
    { pending with
      pending := { pending.pending with id := none, proofStatus := some .pass }
      finalized :=
        { id := some attemptId
          lane := some call.lane
          identity := some call.identity
          broadcastIntent := some call.intent
          receipt := some call.receipt
          count := pending.finalized.count + 1
          extrinsicHash := some call.extrinsicHash
          blockHash := some call.blockHash
          blockNumber := some call.blockNumber
          versionKey := some call.versionKey }
      launch := launch.1
      continuous := launch.2 }

/-! ## Release and expiry -/

/-- The test of `_abort_unsigned_common_submission`. -/
def Journal.Releasable (current : Journal) (attemptId : String) : Prop :=
  current.pending.id = some attemptId ∧ current.pending.phase = some .unsignedReserved ∧
    current.pending.broadcastIntent = none ∧ current.pending.receiptCandidate = none

instance (current : Journal) (attemptId : String) : Decidable (current.Releasable attemptId) :=
  inferInstanceAs (Decidable (_ ∧ _))

/-- The document of `_abort_unsigned_common_submission`: all keys `submission_pending_*`
are dropped. -/
def Journal.abortUnsigned (current : Journal) : Journal := { current with pending := {} }

def Journal.expirePendingCommonSubmission (current : Journal) (attemptId : String) :
    Except Exc Journal := do
  let notSigned := "expired submission does not match one receipt-free signed intent"
  reject (current.pending.id ≠ some attemptId ∨ current.pending.phase ≠ some .signedIntent ∨
      current.pending.receiptCandidate ≠ none) notSigned
  let intent ← present current.pending.broadcastIntent notSigned
  reject (attemptId ∉ current.attemptIds)
    "expired submission has no retained attempt or budget history"
  reject (∃ item ∈ current.expiredAttempts, item.attemptId = attemptId)
    "expired submission was already retired"
  let lane ← present current.pending.lane "expired submission identity is malformed"
  let identity ← present current.pending.identity "expired submission identity is malformed"
  let launchAttempt ← present current.pending.launchAttempt
    "expired submission identity is malformed"
  pure
    { current with
      pending := {}
      expiredAttempts := current.expiredAttempts ++
        [{ attemptId := attemptId
           lane := lane
           identity := identity
           broadcastIntent := intent }]
      launch :=
        if launchAttempt = true then
          { current.launch with
            status := some .expiredWithoutInclusion
            attemptId := some attemptId
            identity := some identity
            broadcastIntent := some intent }
        else current.launch
      continuous :=
        if launchAttempt = true then { current.continuous with enabled := false }
        else current.continuous }

/-! ## Continuous operation -/

/-- The fields of `_match_signed_public_release_to_launch` that are recorded. -/
structure PublicSeal where
  releaseSha256 : String
  reproducerRevision : String

/-- The write of `reconcile_launch_transition`. -/
def Journal.enableContinuous (current : Journal) (publicSeal : PublicSeal) : Journal :=
  { current with
    continuous :=
      { enabled := true
        launchAttemptId := current.launch.attemptId
        releaseSha256 := some publicSeal.releaseSha256
        reproducerRevision := some publicSeal.reproducerRevision } }

/-! ## What a write has checked and leaves -/

inductive ReserveCase (current : Journal) (r : Reservation) : Journal → Prop where
  | intro {laneTransitionFrom : Option Lane} {fence : ℤ}
      (hwellFormed : isSha256Id r.attemptId = true)
      (hidle : current.pending.id = none)
      (hfresh : r.attemptId ∉ current.attemptIds)
      (htransition : current.laneTransition r = .ok laneTransitionFrom)
      (hbudget : current.checkReservedBudget r = .ok ())
      (hlaunch : current.checkReservedLaunch r = .ok ())
      (hfence : current.checkReservedFence r = .ok fence)
      (hnetuid : ∀ old ∈ current.provenanceNetuid, old = r.netuid)
      (hgenesis : ∀ old ∈ current.genesisHash, old = r.genesisHash)
      (hhotkey : ∀ old ∈ current.validatorHotkey, old = r.validatorHotkey) :
      ReserveCase current r
        { current with
          genesisHash := some r.genesisHash
          provenanceNetuid := some r.netuid
          validatorHotkey := some r.validatorHotkey
          pending := r.pending laneTransitionFrom }

variable {current next : Journal}

theorem reserve_case {r : Reservation} (h : current.reserve r = .ok next) :
    ReserveCase current r next := by
  unfold Journal.reserve checkChainIdentity at h
  rcases bind_eq_ok.mp h with ⟨_, hwell, h⟩
  rcases bind_eq_ok.mp h with ⟨_, hidle, h⟩
  rcases bind_eq_ok.mp h with ⟨_, _, h⟩
  rcases bind_eq_ok.mp h with ⟨_, hfresh, h⟩
  rcases bind_eq_ok.mp h with ⟨_, htransition, h⟩
  rcases bind_eq_ok.mp h with ⟨⟨⟩, hbudget, h⟩
  rcases bind_eq_ok.mp h with ⟨⟨⟩, hlaunch, h⟩
  rcases bind_eq_ok.mp h with ⟨_, hfence, h⟩
  rcases bind_eq_ok.mp h with ⟨_, hnetuid, h⟩
  rcases bind_eq_ok.mp h with ⟨_, hgenesis, h⟩
  rcases bind_eq_ok.mp h with ⟨_, hhotkey, h⟩
  cases h
  simp only [reject_eq_ok, Bool.not_eq_false, not_not, not_exists, not_and] at *
  exact .intro hwell hidle hfresh htransition hbudget hlaunch hfence hnetuid hgenesis hhotkey

inductive CommitCase (current : Journal) (attemptId : String) (intent : BroadcastIntent) :
    Journal → Prop where
  | intro {lane : Lane} {identity : Identity} {budgets : Dict String Budget}
      {launchAttempt : Bool} {launch : Launch} {fences : Option ℤ × Option ℤ}
      (hreserved : current.Releasable attemptId)
      (hlane : current.pending.lane = some lane)
      (hidentity : current.pending.identity = some identity)
      (hfresh : attemptId ∉ current.attemptIds)
      (hcheckLane : current.checkLane lane identity = .ok ())
      (hbudgets : current.chargeBudget attemptId = .ok budgets)
      (hlaunchAttempt : current.pending.launchAttempt = some launchAttempt)
      (hlaunch : current.chargeLaunch attemptId launchAttempt = .ok launch)
      (hfences : current.raiseFences lane = .ok fences) :
      CommitCase current attemptId intent
        { current with
          pending := { current.pending with
            phase := some .signedIntent
            broadcastIntent := some intent }
          attemptIds := current.attemptIds ++ [attemptId]
          budgets := budgets
          activeLane := some lane
          highestPolicyVersion := fences.1
          highestSourceEpoch := fences.2
          launch := launch }

variable {attemptId : String}

theorem commit_case {intent : BroadcastIntent}
    (h : current.commitPendingSignedAttempt attemptId intent = .ok next) :
    CommitCase current attemptId intent next := by
  unfold Journal.commitPendingSignedAttempt at h
  rcases bind_eq_ok.mp h with ⟨_, hpristine, h⟩
  rcases bind_eq_ok.mp h with ⟨_, hlane, h⟩
  rcases bind_eq_ok.mp h with ⟨_, hidentity, h⟩
  rcases bind_eq_ok.mp h with ⟨_, _, h⟩
  rcases bind_eq_ok.mp h with ⟨_, hfresh, h⟩
  rcases bind_eq_ok.mp h with ⟨⟨⟩, hcheck, h⟩
  rcases bind_eq_ok.mp h with ⟨_, hbudgets, h⟩
  rcases bind_eq_ok.mp h with ⟨_, hattempt, h⟩
  rcases bind_eq_ok.mp h with ⟨_, hlaunch, h⟩
  rcases bind_eq_ok.mp h with ⟨_, hfences, h⟩
  cases h
  simp only [reject_eq_ok, present_eq_ok, not_or, not_not] at hpristine hlane hidentity hattempt
  rw [reject_eq_ok] at hfresh
  exact .intro hpristine hlane hidentity hfresh hcheck hbudgets hattempt hlaunch hfences

theorem recordFor_ok {update : Pending → Pending}
    (h : current.recordFor attemptId update = .ok next) :
    current.pending.id = some attemptId ∧
      next = { current with pending := update current.pending } := by
  unfold Journal.recordFor at h
  rcases bind_eq_ok.mp h with ⟨_, hmatch, h⟩
  cases h
  rw [reject_eq_ok, not_or, not_not] at hmatch
  exact ⟨hmatch.2, rfl⟩

inductive FinalizeCase (sdk : Sdk) (current : Journal) (attemptId : String)
    (submission : ChainSubmission) (versionKey : ℤ) : Journal → Prop where
  | intro {call : FinalizedCall} {launch : Launch} {continuous : Continuous}
      (hid : current.pending.id = some attemptId)
      (hphase : current.pending.phase = some .signedIntent)
      (hcall : current.checkFinalization sdk attemptId submission versionKey = .ok call)
      (hlaunch : current.finalizeLaunch attemptId call = .ok (launch, continuous)) :
      FinalizeCase sdk current attemptId submission versionKey
        { current with
          pending := { current.pending with id := none, proofStatus := some .pass }
          finalized :=
            { id := some attemptId
              lane := some call.lane
              identity := some call.identity
              broadcastIntent := some call.intent
              receipt := some call.receipt
              count := current.finalized.count + 1
              extrinsicHash := some call.extrinsicHash
              blockHash := some call.blockHash
              blockNumber := some call.blockNumber
              versionKey := some call.versionKey }
          launch := launch
          continuous := continuous }

/-- What the checks of a finalization say about the call that it records. -/
structure CallMatches (sdk : Sdk) (pending : Journal) (submission : ChainSubmission)
    (versionKey : ℤ) (call : FinalizedCall) : Prop where
  lane : pending.pending.lane = some call.lane
  identity : pending.pending.identity = some call.identity
  intent : pending.pending.broadcastIntent = some call.intent
  extrinsicHash : submission.extrinsicHash = some call.extrinsicHash
  blockHash : submission.blockHash = some call.blockHash
  blockNumber : submission.blockNumber = some call.blockNumber
  version : call.versionKey = versionKey
  sameHash : lower call.extrinsicHash = lower call.intent.extrinsicHash
  hashWell : isChainHash (lower call.extrinsicHash) = true
  blockHashWell : isChainHash (lower call.blockHash) = true
  numberPos : 0 < call.blockNumber
  intentVersion : call.intent.versionKey = versionKey
  versionNonneg : 0 ≤ call.intent.versionKey
  valuesNonneg : ∀ value ∈ call.intent.wireUids ++ call.intent.wireWeights, 0 ≤ value
  wire : sdk.wire call.identity.weights = .ok (call.intent.wireUids, call.intent.wireWeights)

theorem checkFinalization_ok {sdk : Sdk} {pending : Journal} {submission : ChainSubmission}
    {versionKey : ℤ} {call : FinalizedCall}
    (h : pending.checkFinalization sdk attemptId submission versionKey = .ok call) :
    pending.pending.id = some attemptId ∧ pending.pending.phase = some .signedIntent ∧
      CallMatches sdk pending submission versionKey call := by
  unfold Journal.checkFinalization at h
  rcases bind_eq_ok.mp h with ⟨_, hphase, h⟩
  rcases bind_eq_ok.mp h with ⟨intent, hintent, h⟩
  rcases bind_eq_ok.mp h with ⟨identity, hidentity, h⟩
  rcases bind_eq_ok.mp h with ⟨expected, hwire, h⟩
  rcases bind_eq_ok.mp h with ⟨lane, hlane, h⟩
  rcases bind_eq_ok.mp h with ⟨extrinsicHash, hextrinsic, h⟩
  rcases bind_eq_ok.mp h with ⟨blockHash, hblock, h⟩
  rcases bind_eq_ok.mp h with ⟨blockNumber, hnumber, h⟩
  rcases bind_eq_ok.mp h with ⟨_, hexact, h⟩
  cases h
  rw [present_eq_ok] at hintent hidentity hlane hextrinsic hblock hnumber
  rw [orRaise_eq_ok] at hwire
  rw [reject_eq_ok, not_or, not_not, not_not] at hphase
  simp only [reject_eq_ok, not_or, not_not, not_exists, not_and, not_lt, not_le,
    Bool.not_eq_false] at hexact
  rcases hexact with ⟨_, _, hhash, hsame, hblockHash, hpos, hversion, hkey, _, _, hvalues, huids,
    hweights⟩
  refine ⟨hphase.1, hphase.2, hlane, hidentity, hintent, hextrinsic, hblock, hnumber, rfl, hsame,
    hhash, hblockHash, hpos, hkey, hversion, hvalues, ?_⟩
  rw [hwire, huids, hweights]

theorem finalize_case {sdk : Sdk} {submission : ChainSubmission} {versionKey : ℤ}
    (h : current.finalizeCommonSubmission sdk attemptId submission versionKey = .ok next) :
    FinalizeCase sdk current attemptId submission versionKey next := by
  unfold Journal.finalizeCommonSubmission at h
  rcases bind_eq_ok.mp h with ⟨call, hcall, h⟩
  rcases bind_eq_ok.mp h with ⟨launch, hlaunch, h⟩
  rcases bind_eq_ok.mp h with ⟨_, _, h⟩
  rcases bind_eq_ok.mp h with ⟨_, _, h⟩
  cases h
  rcases checkFinalization_ok hcall with ⟨hid, hphase, _⟩
  exact .intro hid hphase hcall hlaunch

inductive ExpireCase (current : Journal) (attemptId : String) : Journal → Prop where
  | intro {lane : Lane} {identity : Identity} {intent : BroadcastIntent} {launchAttempt : Bool}
      {launch : Launch} {continuous : Continuous}
      (hid : current.pending.id = some attemptId)
      (hphase : current.pending.phase = some .signedIntent)
      (hnoReceipt : current.pending.receiptCandidate = none)
      (hintent : current.pending.broadcastIntent = some intent)
      (hsigned : attemptId ∈ current.attemptIds)
      (hlane : current.pending.lane = some lane)
      (hidentity : current.pending.identity = some identity)
      (hlaunchAttempt : current.pending.launchAttempt = some launchAttempt)
      (hlaunchIds : launch.attemptIds = current.launch.attemptIds)
      (hlaunchKept : launch.status = some .finalized → launch = current.launch)
      (hcontinuousKept : continuous.enabled = true → continuous = current.continuous) :
      ExpireCase current attemptId
        { current with
          pending := {}
          expiredAttempts := current.expiredAttempts ++
            [{ attemptId := attemptId
               lane := lane
               identity := identity
               broadcastIntent := intent }]
          launch := launch
          continuous := continuous }

theorem expire_case (h : current.expirePendingCommonSubmission attemptId = .ok next) :
    ExpireCase current attemptId next := by
  unfold Journal.expirePendingCommonSubmission at h
  rcases bind_eq_ok.mp h with ⟨_, hsigned, h⟩
  rcases bind_eq_ok.mp h with ⟨intent, hintent, h⟩
  rcases bind_eq_ok.mp h with ⟨_, hmem, h⟩
  rcases bind_eq_ok.mp h with ⟨_, _, h⟩
  rcases bind_eq_ok.mp h with ⟨lane, hlane, h⟩
  rcases bind_eq_ok.mp h with ⟨identity, hidentity, h⟩
  rcases bind_eq_ok.mp h with ⟨launchAttempt, hlaunch, h⟩
  cases h
  simp only [reject_eq_ok, present_eq_ok, not_or, not_not] at *
  refine .intro hsigned.1 hsigned.2.1 hsigned.2.2 hintent hmem hlane hidentity hlaunch ?_ ?_ ?_
  all_goals split_ifs <;> simp

end Cathedral.Sn39
