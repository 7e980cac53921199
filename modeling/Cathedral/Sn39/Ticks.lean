import Cathedral.Sn39.Signing

/-!
# Cathedral.Sn39.Ticks — the two submitting ticks

`tick` in its thin mode and `_authority_tick`, for an online broadcast: what they derive
before the reservation, `_reserve_common_submission`, the chain write, and the two writes
that finalize it, first in the common journal and then in the lane state file. A tick that
does not broadcast reserves nothing and writes neither file.

`reconcile_launch_transition`, which enables continuous operation, is here too.
-/

namespace Cathedral.Sn39

/-! ## Reservation -/

/-- `except (ValueError, OSError) as exc: raise wire.VectorError(message) from exc`. -/
def orRefused {α : Type} (x : Except Exc α) (message : String) : Except Exc α :=
  match x with
  | .ok a => .ok a
  | .error (.other "ValueError" _) => fail message
  | .error e => .error e

@[simp] theorem orRefused_eq_ok {α : Type} {x : Except Exc α} {message : String} {a : α} :
    orRefused x message = .ok a ↔ x = .ok a := by
  unfold orRefused
  split <;> simp [fail]

def checkReservedAuthorization (contract : Contract) (lane : Lane) (identity : Identity)
    (authorization : ContinuousAuthorization) : Except Exc Unit :=
  reject (contract.launch = true ∨ identity.continuousAuthorization ≠ some authorization ∨
      lane.text ∉ authorization.lanes ∨
      isSha256Id authorization.authorizationSha256 = false ∨
      authorization.maxAttempts ≤ 0 ∨ 96 < authorization.maxAttempts ∨
      authorization.validFromNonce < 0 ∨
      authorization.validUntilNonceExclusive ≠
        authorization.validFromNonce + authorization.maxAttempts ∨
      (0 < contract.maxSubmissions ∧ contract.maxSubmissions < authorization.maxAttempts))
    "recurring authorization differs from the exact reservation or configured attempt ceiling"

/-- The scope and limit of the attempt budget. -/
def reservedBudget (contract : Contract) (lane : Lane) : Option String × Option ℤ :=
  match contract.authorization with
  | some authorization => (some authorization.scope, some authorization.maxAttempts)
  | none =>
    if contract.maxSubmissions = 0 then (none, none)
    else
      (some (if contract.launch = true then "launch_full_gate" else lane.text ++ "_bounded"),
        some contract.maxSubmissions)

/-- The fence of the lane, which the identity has to carry. -/
def laneFence (lane : Lane) (identity : Identity) : Except Exc ℤ :=
  match lane with
  | .thin => present identity.policyVersion "thin submission identity has no policy version"
  | .authority => present identity.sourceEpoch "authority submission identity has no source epoch"

/-- The updates that `_reserve_common_submission` hands to `_write_state_fenced`. -/
def commonReservation (contract : Contract) (state : Journal) (lane : Lane) (attemptId : String)
    (identity : Identity) : Except Exc Reservation := do
  let _ ← laneFence lane identity
  reject (contract.maxSubmissions < 0) "max submissions must be nonnegative"
  reject (contract.broadcast = true ∧ contract.offline = false ∧ contract.launch = false ∧
      continuousTransitionRequired contract.toArgs state = true ∧ contract.authorization = none)
    "SN39 recurring reservation lacks a separate signed authorization"
  (match contract.authorization with
    | some authorization => checkReservedAuthorization contract lane identity authorization
    | none => pure ())
  pure
    { genesisHash := contract.signer.genesisHash
      netuid := sn39Netuid
      validatorHotkey := contract.signer.validatorHotkey
      allowAuthorityLaneTransition :=
        decide (lane = .authority ∧ ∃ a ∈ contract.authorization, "authority" ∈ a.lanes)
      launchAttempt := contract.launch
      launchBudgetLimit := if contract.launch = true then some contract.maxSubmissions else none
      budgetScope := (reservedBudget contract lane).1
      budgetLimit := (reservedBudget contract lane).2
      attemptId := attemptId
      lane := lane
      identity := identity
      policyVersion := match lane with | .thin => identity.policyVersion | .authority => none
      sourceEpoch := match lane with | .thin => none | .authority => identity.sourceEpoch }

theorem commonReservation_attemptId {contract : Contract} {state : Journal} {lane : Lane}
    {attemptId : String} {identity : Identity} {reservation : Reservation}
    (h : commonReservation contract state lane attemptId identity = .ok reservation) :
    reservation.attemptId = attemptId := by
  unfold commonReservation at h
  rcases bind_eq_ok.mp h with ⟨_, _, h⟩
  rcases bind_eq_ok.mp h with ⟨_, _, h⟩
  rcases bind_eq_ok.mp h with ⟨_, _, h⟩
  rcases bind_eq_ok.mp h with ⟨_, _, h⟩
  cases h
  rfl

/-- The document that `_reserve_common_submission` leaves. -/
def Journal.reserveCommonSubmission (current : Journal) (contract : Contract) (lane : Lane)
    (attemptId : String) (identity : Identity) : Except Exc Journal := do
  let reservation ← commonReservation contract current lane attemptId identity
  current.reserve reservation

/-! ## From the reservation to the mirror -/

/-- `{uid: hotkey for hotkey, uid in hk2uid.items() if uid in uid_weights}`. -/
def targetHotkeys (hk2uid : Dict String ℤ) (uidWeights : Dict ℤ ℚ) : Dict ℤ String :=
  Dict.ofList ((hk2uid.items.filter fun item => uidWeights.contains item.2).map Prod.swap)

/-- `[[uid, hotkey] for hotkey, uid in sorted(hk2uid.items(), key=...) if uid in uid_weights]`. -/
def orderedHotkeys (hk2uid : Dict String ℤ) (uidWeights : Dict ℤ ℚ) : List (ℤ × String) :=
  ((hk2uid.items.insertionSort fun a b => a.2 ≤ b.2).filter fun item =>
    uidWeights.contains item.2).map Prod.swap

/-- What a broadcast tick holds when it reaches its reservation. -/
structure Submission where
  contract : Contract
  lane : Lane
  identity : Identity
  uidWeights : Dict ℤ ℚ
  preflight : ChainPreflight
  policy : InclusionPolicy

/-- The finalized transaction that the tick mirrors. -/
def mirrorRecord (attemptId : String) (identity : Identity) (submission : ChainSubmission) :
    FinalizedRecord :=
  { attemptId := attemptId
    identity := identity
    extrinsicHash := submission.extrinsicHash.getD ""
    blockHash := submission.blockHash.getD ""
    blockNumber := submission.blockNumber.getD 0 }

/-- The reservation of a broadcast tick. -/
def reserveAttempt (sdk : Sdk) (s : Submission) : Tick Unit :=
  Tick.write (fun _ => .reserved (sdk.attemptId s.identity)) fun current =>
    orRefused (current.reserveCommonSubmission s.contract s.lane (sdk.attemptId s.identity)
      s.identity) "submission attempt fence refused before chain write"

/-- A broadcast tick after its reservation: write, finalize, mirror. -/
def writeAndMirror (sdk : Sdk) (answers : BoundaryAnswers) (s : Submission) : Tick Bool := do
  let attemptId := sdk.attemptId s.identity
  let response ← setWeightsOnChain sdk answers s.contract s.uidWeights
    (targetHotkeys s.preflight.hotkeyToUid s.uidWeights) s.preflight s.policy
  let submission ← requireReleaseGradeSubmission response
  Tick.write (fun _ => .finalized attemptId) fun current =>
    current.finalizeCommonSubmission sdk attemptId submission answers.versionKey
  Tick.writeLane (.mirrored attemptId) fun lane =>
    lane.finalize (mirrorRecord attemptId s.identity submission) false
  pure true

/-- The end of a broadcast tick. -/
def broadcastSubmission (sdk : Sdk) (answers : BoundaryAnswers) (s : Submission) : Tick Bool := do
  reserveAttempt sdk s
  writeAndMirror sdk answers s

/-! ## Continuous operation -/

/-- What `_require_continuous_launch_transition` asks for. -/
structure TransitionAnswers where
  /-- The public release, reproduced and matched to the launch. -/
  publicSeal : Except Exc PublicSeal
  /-- `recurring.verify_authorization`. -/
  authorization : Except Exc ContinuousAuthorization

/-- A step whose other exceptions become a `VectorError`. -/
def orVectorError {α : Type} (x : Except Exc α) (message : String) : Except Exc α :=
  match x with
  | .error (.other _ _) => fail message
  | x => x

def requireContinuousLaunchTransition (answers : TransitionAnswers) (signer : Signer)
    (preflight : ChainPreflight) (state : Journal) : Except Exc ContinuousAuthorization := do
  refuse (state.pending.id ≠ none)
    "continuous submission journal has an unresolved pending attempt"
  refuse (state.continuous.enabled = false ∨ state.launch.status ≠ some .finalized ∨
      state.continuous.launchAttemptId ≠ state.launch.attemptId)
    ("continuous broadcast is locked until `cathedral-validator reconcile-launch` " ++
      "independently verifies the finalized rewarded-set-gated launch")
  let _ ← required state.launch.identity "continuous launch identity is missing"
  let publicSeal ← orVectorError answers.publicSeal
    "continuous broadcast could not reproduce the root-signed public launch evidence"
  refuse (state.continuous.releaseSha256 ≠ some publicSeal.releaseSha256 ∨
      state.continuous.reproducerRevision ≠ some publicSeal.reproducerRevision)
    "continuous journal does not match the reproduced root-signed launch authorization"
  refuse (signer.validatorHotkey = "" ∨ isChainHash signer.genesisHash = false ∨
      state.validatorHotkey ≠ some signer.validatorHotkey ∨
      state.genesisHash ≠ some signer.genesisHash)
    "continuous launch authorization differs from the prepared signer or chain genesis"
  let attemptId ← required state.launch.attemptId "continuous launch attempt identity is malformed"
  refuse (isSha256Id attemptId = false) "continuous launch attempt identity is malformed"
  refuse (preflight.block = none ∨ preflight.validatorHotkey ≠ signer.validatorHotkey ∨
      preflight.genesisHash ≠ signer.genesisHash)
    "recurring authorization requires the current finalized signer snapshot"
  let verified ← rewrap answers.authorization
    ("separate root-signed recurring-write authorization is absent, invalid, expired, " ++
      "exhausted in scope, or does not match this release/runtime")
  pure
    { verified with
      launchAttemptId := attemptId
      releaseSha256 := publicSeal.releaseSha256
      reproducerRevision := publicSeal.reproducerRevision
      validatorHotkey := signer.validatorHotkey
      genesisHash := signer.genesisHash }

/-- The chain snapshot, the signer and the authorization under the submission lock. -/
structure LockedTick where
  preflight : ChainPreflight
  signer : Signer
  authorization : Option ContinuousAuthorization

/-- The start of a tick inside the lock: where a completed launch is required, the
transition is proved and every chain fact refreshed after it. -/
def enterTick (transition : TransitionAnswers) (refreshed : Except Exc ChainPreflight)
    (args : Args) (preflight : ChainPreflight) (signer : Signer) (required_ : Bool)
    (state : Journal) : Except Exc LockedTick :=
  if required_ = true then do
    let authorization ← requireContinuousLaunchTransition transition signer preflight state
    let (preflight, signer) ← prepareTickPreflight args (some signer) refreshed
    pure { preflight := preflight, signer := signer, authorization := some authorization }
  else pure { preflight := preflight, signer := signer, authorization := none }

/-! ## Thin tick -/

/-- The result of the rewarded-set replay that a launch makes. -/
structure LaunchGate where
  preflight : ChainPreflight
  policy : InclusionPolicy
  fullProvenance : String
  launchApproval : String

/-- What a thin tick asks for. -/
structure ThinAnswers where
  /-- The tick that does not broadcast. -/
  dryRun : Except Exc Bool
  chainPreflight : Except Exc ChainPreflight
  lock : Except Exc Unit
  transition : TransitionAnswers
  refreshed : Except Exc ChainPreflight
  /-- `fetch_vector`, with the digest of the payload. -/
  fetched : Except Exc VectorEvidence
  vector : VectorAnswers
  launchGate : Except Exc LaunchGate
  shadow : Except Exc Unit
  /-- The signed times of the vector, parsed. -/
  vectorTimes : Except Exc (ℤ × ℤ)
  moment : ℤ
  uidSafety : Except Exc UidSafety
  boundary : BoundaryAnswers

/-- The vector was recovered as finalized before; it is not submitted again. -/
def recoveredVectorIdle (lane : LaneState) (vector : VectorEvidence) : Prop :=
  lane.thinRecovered = some
    { policyVersion := vector.policyVersion
      vectorId := vector.vectorId
      signedVectorSha256 := vector.signedVectorSha256 }

instance (lane : LaneState) (vector : VectorEvidence) :
    Decidable (recoveredVectorIdle lane vector) := inferInstanceAs (Decidable (_ = _))

def vectorInclusionPolicy (answers : ThinAnswers) (preflight : ChainPreflight) :
    Except Exc InclusionPolicy := do
  let block ← required preflight.block "signed vector inclusion requires a finalized block"
  let times ← answers.vectorTimes
  let policy : InclusionPolicy :=
    { validFromBlock := block
      validUntilBlock := block + sn39MortalPeriodBlocks
      validFromTime := times.1
      validUntilTime := times.2
      expectedNextEpochStartBlock := preflight.nextEpochStartBlock }
  requireInclusionPolicyReady policy preflight answers.moment
  pure policy

/-- What the thin tick submits, as far as the gate decides it. -/
structure GatedVector where
  preflight : ChainPreflight
  vector : VectorEvidence
  policy : Option InclusionPolicy

/-- The launch gate, or the shadow audit, of a thin tick. -/
def gateVector (answers : ThinAnswers) (args : Args) (locked : LockedTick)
    (vector : VectorEvidence) : Except Exc GatedVector :=
  if args.launch = true then do
    let gate ← answers.launchGate
    validateResolvedChainContract args gate.preflight true
    let _ ← bindSubmissionIdentity (some locked.signer) gate.preflight
    requireInclusionPolicyReady gate.policy gate.preflight answers.moment
    pure
      { preflight := gate.preflight
        vector :=
          { vector with
            fullProvenance := some gate.fullProvenance
            launchApproval := some gate.launchApproval }
        policy := some gate.policy }
  else do
    answers.shadow
    pure { preflight := locked.preflight, vector := vector, policy := none }

def requireNoValidatorComputeReward (uidWeights : Dict ℤ ℚ) (preflight : ChainPreflight)
    (burnUid : Option ℤ) : Except Exc Unit :=
  refuse (0 < uidWeights.getD preflight.validatorUid 0 ∧ some preflight.validatorUid ≠ burnUid)
    "SN39 validator hotkey cannot receive validated-compute weight"

def vectorBurnUid (payload : Payload) (hk2uid : Dict String ℤ) : Option ℤ :=
  match payload.burnSnapshot.bind BurnSnapshot.burnHotkey with
  | some burnHotkey => hk2uid.get? burnHotkey
  | none => payload.burnSnapshot.bind BurnSnapshot.burnUid

/-- What a thin tick derives from an accepted vector before it reserves. -/
def deriveThinSubmission (sdk : Sdk) (answers : ThinAnswers) (args : Args) (locked : LockedTick)
    (vector : VectorEvidence) : Except Exc Submission := do
  let _ ← vectorToUidWeights vector.signedVector locked.preflight.hotkeyToUid args.requirePolicy
  let gated ← gateVector answers args locked vector
  let preflight := gated.preflight
  let payload := vector.signedVector
  let uidWeights ← vectorToUidWeights payload preflight.hotkeyToUid args.requirePolicy
  requireNoValidatorComputeReward uidWeights preflight
    (vectorBurnUid payload preflight.hotkeyToUid)
  let _ ← sdk.wire uidWeights
  let policy ←
    (match gated.policy with
      | some policy => pure policy
      | none => vectorInclusionPolicy answers preflight : Except Exc InclusionPolicy)
  let uidSafety ← answers.uidSafety
  pure
    { contract := { toArgs := args, signer := locked.signer, authorization := locked.authorization }
      lane := .thin
      identity :=
        { network := args.network
          netuid := sn39Netuid
          mappingBlock := preflight.block
          validatorHotkey := preflight.validatorHotkey
          validatorUid := preflight.validatorUid
          burnHotkey := payload.burnSnapshot.bind BurnSnapshot.burnHotkey
          uidWeights := uidWeights.sorted.items
          uidHotkeys := orderedHotkeys preflight.hotkeyToUid uidWeights
          nextEpochStartBlock := preflight.nextEpochStartBlock
          inclusionPolicy := policy.identity
          uidSafety := some uidSafety
          continuousAuthorization := locked.authorization
          evidence := .thin gated.vector }
      uidWeights := uidWeights
      preflight := preflight
      policy := policy }

/-- `_thin_tick_locked` of a broadcast. -/
def thinTickLocked (sdk : Sdk) (answers : ThinAnswers) (args : Args) (locked : LockedTick) :
    Tick Bool := do
  let vector ← answers.fetched
  let lane ← Tick.readLane
  if recoveredVectorIdle lane vector then do
    answers.vector.signature
    pure true
  else do
    let fence ← lane.policyFence
    acceptVector answers.vector args.network vector fence
    let submission ← deriveThinSubmission sdk answers args locked vector
    broadcastSubmission sdk answers.boundary submission

/-- `tick` in its thin mode, for an online broadcast. -/
def thinBroadcastTick (sdk : Sdk) (answers : ThinAnswers) (args : Args) (bound : Option Signer) :
    Tick Bool := do
  let (preflight, signer) ← prepareTickPreflight args bound answers.chainPreflight
  answers.lock
  let state ← Tick.readJournal
  let locked ← enterTick answers.transition answers.refreshed args preflight signer
    (continuousTransitionRequired args state && !args.launch) state
  thinTickLocked sdk answers args locked

/-- Whether a tick of the runtime can reach the chain; `offline` is authoritative. -/
def Args.Broadcasts (args : Args) : Prop := args.broadcast = true ∧ args.offline = false

instance (args : Args) : Decidable args.Broadcasts := inferInstanceAs (Decidable (_ ∧ _))

/-- `tick` in its thin mode. -/
def thinTick (sdk : Sdk) (answers : ThinAnswers) (args : Args) (bound : Option Signer) :
    Tick Bool :=
  if args.Broadcasts then thinBroadcastTick sdk answers args bound
  else Durable.lift answers.dryRun

/-! ## Authority tick -/

/-- What the FULL audit hands to the submission. -/
structure AuthorityAudit where
  recomputed : Dict String PyFloat
  policy : InclusionPolicy

/-- What an authority tick asks for. -/
structure AuthorityAnswers where
  /-- The tick that does not broadcast. -/
  dryRun : Except Exc Bool
  chainPreflight : Except Exc ChainPreflight
  lock : Except Exc Unit
  transition : TransitionAnswers
  refreshed : Except Exc ChainPreflight
  audit : Except Exc AuthorityAudit
  mechanism : String
  /-- The chain snapshot after the audit. -/
  fresh : Except Exc ChainPreflight
  moment : ℤ
  /-- The evidence lines that the audit has reserved in the lane state file. -/
  report : Except Exc ReportEvidence
  uidSafety : Except Exc UidSafety
  boundary : BoundaryAnswers

/-- What an authority tick derives before it reserves, with
`_revalidate_authority_after_audit`. -/
def deriveAuthoritySubmission (answers : AuthorityAnswers) (args : Args) (locked : LockedTick)
    (state : Journal) : Except Exc Submission := do
  let _ ← required locked.preflight.block
    "authority requires a finalized integer metagraph block to anchor the report validity window"
  let audit ← answers.audit
  let _ ← provenanceUidWeights audit.recomputed answers.mechanism args.burnHotkey
    locked.preflight.hotkeyToUid
  let fresh ← answers.fresh
  validateResolvedChainContract args fresh false
  let signer ← bindSubmissionIdentity (some locked.signer) fresh
  let _ ← required fresh.block "fresh authority preflight has no finalized block after audit"
  let uidWeights ← provenanceUidWeights audit.recomputed answers.mechanism args.burnHotkey
    fresh.hotkeyToUid
  requireNoValidatorComputeReward uidWeights fresh
    (args.burnHotkey.bind fresh.hotkeyToUid.get?)
  validateChainConstraints uidWeights fresh
  requireInclusionPolicyReady audit.policy fresh answers.moment
  let report ← answers.report
  let uidSafety ← answers.uidSafety
  refuse (continuousTransitionRequired args state = true ∧ locked.authorization = none)
    "authority submission lacks pre-reservation continuous authorization"
  pure
    { contract := { toArgs := args, signer := signer, authorization := locked.authorization }
      lane := .authority
      identity :=
        { network := args.network
          netuid := sn39Netuid
          mappingBlock := fresh.block
          validatorHotkey := fresh.validatorHotkey
          validatorUid := fresh.validatorUid
          burnHotkey := args.burnHotkey
          uidWeights := uidWeights.sorted.items
          uidHotkeys := orderedHotkeys fresh.hotkeyToUid uidWeights
          nextEpochStartBlock := fresh.nextEpochStartBlock
          inclusionPolicy := audit.policy.identity
          uidSafety := some uidSafety
          continuousAuthorization :=
            if continuousTransitionRequired args state = true then locked.authorization else none
          evidence := .authority
            { report with
              mechanism := answers.mechanism
              hotkeyWeights := audit.recomputed.sorted.items } }
      uidWeights := uidWeights
      preflight := fresh
      policy := audit.policy }

/-- `_authority_tick`, for an online broadcast. -/
def authorityBroadcastTick (sdk : Sdk) (answers : AuthorityAnswers) (args : Args)
    (bound : Option Signer) : Tick Bool := do
  let (preflight, signer) ← prepareTickPreflight args bound answers.chainPreflight
  answers.lock
  let state ← Tick.readJournal
  let locked ← enterTick answers.transition answers.refreshed args preflight signer
    (continuousTransitionRequired args state) state
  let submission ← deriveAuthoritySubmission answers args locked state
  broadcastSubmission sdk answers.boundary submission

def authorityTick (sdk : Sdk) (answers : AuthorityAnswers) (args : Args) (bound : Option Signer) :
    Tick Bool :=
  if args.Broadcasts then authorityBroadcastTick sdk answers args bound
  else Durable.lift answers.dryRun

/-! ## Launch reconciliation -/

/-- What `reconcile_launch_transition` asks for. -/
structure ReconcileAnswers where
  chainPreflight : Except Exc ChainPreflight
  lock : Except Exc Unit
  publicSeal : Except Exc PublicSeal
  proof : Except Exc Bool

/-- The checks of `reconcile_launch_transition` on the journal. -/
def checkLaunchJournal (sdk : Sdk) (preflight : ChainPreflight) (state : Journal) :
    Except Exc Unit := do
  let noLaunch := "no finalized rewarded-set-gated launch is recorded"
  let malformed := "finalized launch journal is malformed"
  let differs := "finalized launch identity differs from the chain"
  refuse (state.pending.id ≠ none)
    ("launch submission remains ambiguous; reconcile it manually before enabling continuous " ++
      "operation")
  let attemptId ← required state.launch.attemptId noLaunch
  refuse (state.launch.status ≠ some .finalized ∨ isSha256Id attemptId = false ∨
      attemptId ∉ state.launch.attemptIds) noLaunch
  let identity ← required state.launch.identity "finalized launch identity is missing"
  let _ ← orRaise (sdk.wire identity.weights) (.vectorError .vectorError malformed)
  let extrinsicHash ← required state.launch.extrinsicHash malformed
  let blockHash ← required state.launch.blockHash malformed
  let blockNumber ← required state.launch.blockNumber malformed
  let _ ← required state.launch.versionKey malformed
  refuse (identity.validatorHotkey ≠ preflight.validatorHotkey ∨
      state.genesisHash ≠ some preflight.genesisHash ∨
      isChainHash extrinsicHash = false ∨ isChainHash blockHash = false ∨ blockNumber ≤ 0) differs

theorem checkLaunchJournal_ok {sdk : Sdk} {preflight : ChainPreflight} {state : Journal}
    (h : checkLaunchJournal sdk preflight state = .ok ()) :
    ∃ attemptId, state.launch.status = some .finalized ∧ state.launch.attemptId = some attemptId := by
  unfold checkLaunchJournal at h
  rcases bind_eq_ok.mp h with ⟨_, _, h⟩
  rcases bind_eq_ok.mp h with ⟨attemptId, hid, h⟩
  rcases bind_eq_ok.mp h with ⟨_, hstatus, _⟩
  rw [required_eq_ok] at hid
  simp only [refuse_eq_ok, not_or, not_not] at hstatus
  exact ⟨attemptId, hstatus.1, hid⟩

def reconcileLaunchTransition (sdk : Sdk) (answers : ReconcileAnswers) (args : Args)
    (bound : Option Signer) : Tick Unit := do
  let preflight ← answers.chainPreflight
  validateResolvedChainContract args preflight true
  let _ ← bindSubmissionIdentity bound preflight
  answers.lock
  let state ← Tick.readJournal
  checkLaunchJournal sdk preflight state
  let publicSeal ← orVectorError answers.publicSeal
    "root-signed public launch evidence did not reproduce"
  let proven ← answers.proof
  refuse (proven = false)
    ("recorded launch extrinsic, finality, or inclusion-block UID bindings did not " ++
      "reproduce")
  Tick.write (fun current => .enabled current.launch.attemptId) fun current =>
    .ok (current.enableContinuous publicSeal)

end Cathedral.Sn39
