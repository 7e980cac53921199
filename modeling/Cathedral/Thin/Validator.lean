import Cathedral.Thin.ScoreClasses

/-!
# Cathedral.Thin.Validator — the validator tick

`ValidatorRunner.tick` and `ValidatorRunner._submit_pending` of
`cathedral_thin/validator.py` as functions of the runner's state and of one
tick's environment.

A `TickEnv` answers everything a tick asks the outside: the metagraph and the
block, the clock, the outcome of each peer's challenge, the registration and
report loaders, the weight processor, the writes and the submission. Every
answer may be an exception. The environment changes from tick to tick, so a run
over arbitrary environments is a run against an arbitrary chain.

A tick returns the new state, what the Python call returns or raises, and the
events that matter to its specification in order. The tick is cut where the
source moves from one concern to the next: `openRound`, `composeRound`,
`prepareRound`, `commitRound`, `submitPending`.
-/

namespace Cathedral.Thin

/-! ## Peers -/

/-- The fields of an axon that `snapshot_peers` reads; `none` for a missing one. -/
structure Axon where
  port : Option ℤ
  isServing : Option Bool
deriving DecidableEq, Repr

structure Metagraph where
  uids : List ℤ
  hotkeys : List String
  coldkeys : Option (List String)
  axons : List Axon
deriving DecidableEq, Repr

structure Peer where
  uid : ℤ
  hotkey : String
  coldkey : String
  serviceable : Bool
deriving DecidableEq, Repr

def Axon.serviceable (axon : Axon) : Bool :=
  let port := axon.port.getD 0
  axon.isServing.getD (0 < port) && 0 < port

def snapshotPeers (metagraph : Metagraph) : Except Exc (List Peer) :=
  match metagraph.coldkeys with
  | none => fail "metagraph lacks coldkeys; Sybil collapse cannot run"
  | some coldkeys =>
    if ¬ (metagraph.uids.length = metagraph.hotkeys.length ∧
        metagraph.hotkeys.length = coldkeys.length ∧
        coldkeys.length = metagraph.axons.length) then
      fail "metagraph arrays have inconsistent lengths"
    else if ¬ metagraph.uids.Nodup ∨ ¬ metagraph.hotkeys.Nodup then
      fail "metagraph contains duplicate UID or hotkey"
    else
      pure ((metagraph.uids.zip (metagraph.hotkeys.zip (coldkeys.zip metagraph.axons))).map
        fun (uid, hotkey, coldkey, axon) =>
          { uid, hotkey, coldkey, serviceable := axon.serviceable })

/-- `{peer.hotkey: peer.coldkey for peer in peers}`. -/
def coldkeyByHotkey (peers : List Peer) : Dict String String :=
  Dict.ofList (peers.map fun peer => (peer.hotkey, peer.coldkey))

/-- `{peer.uid: peer.hotkey for peer in peers}`. -/
def hotkeyByUid (peers : List Peer) : Dict ℤ String :=
  Dict.ofList (peers.map fun peer => (peer.uid, peer.hotkey))

/-- `{peer.hotkey: peer.uid for peer in peers}`. -/
def uidByHotkey (peers : List Peer) : Dict String ℤ :=
  Dict.ofList (peers.map fun peer => (peer.hotkey, peer.uid))

structure RoundResult where
  hotkey : String
  score : ℚ
  reason : String
deriving DecidableEq, Repr

/-- The loop of `uid_vector`. -/
def uidPairs (uidOf : Dict String ℤ) : List (String × ℚ) → Except Exc (List (ℤ × ℚ))
  | [] => pure []
  | (hotkey, weight) :: rest =>
    match uidOf.get? hotkey with
    | none => uidPairs uidOf rest
    | some uid =>
      if weight < 0 then fail "non-finite or negative final weight"
      else do
        let pairs ← uidPairs uidOf rest
        pure (if 0 < weight then (uid, weight) :: pairs else pairs)

def uidVector (weightsByHotkey : Dict String ℚ) (peers : List Peer) :
    Except Exc (List ℤ × List ℚ) := do
  let pairs ← uidPairs (uidByHotkey peers) weightsByHotkey.items
  let pairs := pairs.insertionSort fun a b => a.1 < b.1 ∨ a.1 = b.1 ∧ a.2 ≤ b.2
  if pairs = [] then return ([], [])
  let total := (pairs.map Prod.snd).sum
  refuse (total ≤ 0) "final weight total is not positive"
  return (pairs.map Prod.fst, pairs.map fun pair => pair.2 / total)

/-! ## Decision document -/

structure DecisionDocument where
  validatorHotkey : String
  network : String
  netuid : ℤ
  round : ℤ
  block : ℤ
  scorePolicyDigest : String
  classes : List ClassDecision
  metagraph : List Peer
  onchainVector : List (ℤ × ℚ)

/-- The constructor arguments of the runner that its ticks read, and the two
hash functions. -/
structure Setup where
  network : String
  netuid : ℤ
  validatorHotkey : String
  emaAlpha : ℚ
  roundBlocks : ℤ
  policy : ScorePolicy
  broadcast : Bool
  retryAmbiguous : Bool
  vectorHash : VectorBody → Sha256
  decisionHash : DecisionDocument → Sha256

/-- `decision_document`, with the digest it returns. -/
def decisionDocument (setup : Setup) (roundId block : ℤ) (decisions : List ClassDecision)
    (peers : List Peer) (uids : List ℤ) (weights : List PyFloat) :
    Except Exc (DecisionDocument × String) :=
  if uids.length ≠ weights.length ∨ ¬ uids.Nodup then
    fail "decision UID vector must be aligned and unique"
  else if (uids.zip weights).any fun pair => pair.1 < 0 ∨ ¬ pair.2.FiniteNonneg then
    fail "decision UID vector is invalid"
  else
    let document :=
      { validatorHotkey := setup.validatorHotkey
        network := setup.network
        netuid := setup.netuid
        round := roundId
        block
        scorePolicyDigest := setup.policy.digest
        classes := decisions
        metagraph := peers.insertionSort fun a b => a.uid ≤ b.uid
        onchainVector := (uids.zip weights).map fun pair =>
          (pair.1, round12 (pair.2.finite?.getD 0)) }
    pure (document, (setup.decisionHash document).tagged)

/-! ## Environment -/

/-- The arguments of the registration loader. -/
structure RegistrationRequest where
  policy : ExternalClassPolicy
  network : String
  netuid : ℤ
  currentBlock : ℤ
  currentOwnerColdkey : String
  registeredHotkeys : Dict String String
  checkpoint : Option RegistrationCheckpoint

/-- The arguments of the report loader. -/
structure ReportRequest where
  policy : ExternalClassPolicy
  network : String
  netuid : ℤ
  currentBlock : ℤ
  checkpoint : Option SourceCheckpoint

/-- What one tick is told by the outside.

* `peerResult` is the score and reason of a serviceable peer's challenge;
* `subnetOwner` and `prepareWeights` are `none` when the runtime lacks them,
  `decisionStore` when no store is configured;
* `gatherPick` says which of several failing awaitables of one
  `asyncio.gather` raises first;
* `saveRound` is the write after the round has been scored, `saveOutcome` the
  write that ends a submission attempt. -/
structure TickEnv where
  metagraph : Except Exc Metagraph
  block : Except Exc ℤ
  nowMs : ℤ
  peerResult : Peer → Except Exc (ℚ × String)
  gatherPick : ℕ
  subnetOwner : Option (ℤ → ℤ → Except Exc String)
  registrationLoader : RegistrationRequest →
    Except Exc (VerifiedOwnerRegistration × RegistrationCheckpoint)
  reportLoader : ReportRequest → Except Exc (VerifiedReport × SourceCheckpoint)
  prepareWeights : Option (List ℤ → List ℚ → Metagraph → Except Exc (List ℤ × List PyFloat))
  decisionStore : Option (DecisionDocument → Except Exc Unit)
  saveRound : Except Exc Unit
  saveOutcome : Except Exc Unit
  submitWeights : PendingVector → Except Exc Response

/-- The exceptions among the results, in order. -/
def gatherErrors {α : Type} (results : List (Except Exc α)) : List Exc :=
  results.filterMap fun result => match result with
    | .ok _ => none
    | .error e => some e

/-- `await asyncio.gather(*results)`: all values, or the exception of some
failing awaitable. -/
def gather {α : Type} (pick : ℕ) (results : List (Except Exc α)) : Except Exc (List α) :=
  match gatherErrors results with
  | [] => results.mapM id
  | e :: rest => .error ((e :: rest).getD (pick % (rest.length + 1)) e)

/-! ## Owner registrations -/

abbrev Registrations := Dict String (VerifiedOwnerRegistration × RegistrationCheckpoint)

/-- The external classes with an owner registration policy. -/
def registeredClasses (policy : ScorePolicy) :
    List (ExternalClassPolicy × OwnerRegistrationPolicy) :=
  policy.externalClasses.filterMap fun c => c.ownerRegistration.map fun r => (c, r)

def readOwner (getter : ℤ → ℤ → Except Exc String) (block sourceNetuid : ℤ) :
    Except Exc (ℤ × String) := do
  let owner ← getter sourceNetuid block
  refuse (owner = "") ("source subnet " ++ toString sourceNetuid ++ " has no current owner")
  pure (sourceNetuid, owner)

/-- The check of `load_one` under `require_same_authority`: an accepted
registration keeps its owner, and its delegate keeps its hotkey. -/
def checkSameAuthority (owner : String) (registeredHotkeys : Dict String String)
    (classId : String) (requireSameAuthority : Bool) (checkpoint : Option RegistrationCheckpoint) :
    Except Exc Unit :=
  match requireSameAuthority, checkpoint with
  | true, some accepted => do
    refuse (owner ≠ accepted.ownerColdkey)
      ("owner authorization changed for class " ++ classId)
    refuse (registeredHotkeys.get? accepted.delegateHotkey ≠ some accepted.ownerColdkey)
      ("owner delegate deregistered for class " ++ classId)
  | _, _ => pure ()

/-- `owner_by_netuid[source_netuid]`. -/
def getOwner (owners : Dict ℤ String) (sourceNetuid : ℤ) : Except Exc String :=
  match owners.get? sourceNetuid with
  | none => .error (.other "KeyError" (toString sourceNetuid))
  | some owner => pure owner

/-- `load_one`. -/
def loadRegistration (setup : Setup) (env : TickEnv) (state : ValidatorState)
    (peers : List Peer) (block : ℤ) (requireSameAuthority : Bool) (owners : Dict ℤ String)
    (registered : ExternalClassPolicy × OwnerRegistrationPolicy) :
    Except Exc (String × VerifiedOwnerRegistration × RegistrationCheckpoint) := do
  let (classPolicy, registrationPolicy) := registered
  let checkpoint := state.registrationCheckpoints.get? classPolicy.classId
  let owner ← getOwner owners registrationPolicy.sourceNetuid
  checkSameAuthority owner (coldkeyByHotkey peers) classPolicy.classId requireSameAuthority
    checkpoint
  let loaded ← env.registrationLoader
    { policy := classPolicy
      network := setup.network
      netuid := setup.netuid
      currentBlock := block
      currentOwnerColdkey := owner
      registeredHotkeys := coldkeyByHotkey peers
      checkpoint }
  pure (classPolicy.classId, loaded)

/-- The source subnets whose owners are read. -/
def sourceNetuids (policy : ScorePolicy) : List ℤ :=
  ((registeredClasses policy).map fun r => r.2.sourceNetuid).dedup.insertionSort (· ≤ ·)

def loadOwnerRegistrations (setup : Setup) (env : TickEnv) (state : ValidatorState)
    (peers : List Peer) (block : ℤ) (requireSameAuthority : Bool) :
    Except Exc Registrations :=
  if registeredClasses setup.policy = [] then pure ∅
  else
    match env.subnetOwner with
    | none => fail "runtime lacks source subnet owner verification"
    | some getter => do
      let owners ← gather env.gatherPick
        ((sourceNetuids setup.policy).map (readOwner getter block))
      let loaded ← gather env.gatherPick ((registeredClasses setup.policy).map
        (loadRegistration setup env state peers block requireSameAuthority (Dict.ofList owners)))
      pure (Dict.ofList loaded)

/-- `{class_id: registration.registration_id ...}`. -/
def registrationIds (registrations : Registrations) : Dict String String :=
  registrations.mapItems fun _ loaded => loaded.1.registrationId

/-! ## Submission of the pending vector -/

/-- How a call of `submit_weights` ended. -/
inductive SubmissionOutcome where
  | raised
  | succeeded
  | failed (ambiguous : Bool)
deriving DecidableEq, Repr

/-- The outcome leaves open whether the vector landed. -/
def SubmissionOutcome.isAmbiguous : SubmissionOutcome → Bool
  | .raised => true
  | .succeeded => false
  | .failed ambiguous => ambiguous

/-- What a tick does that its specification speaks about: it composes a vector,
completes a round without a vector, completes it with a vector marked pending,
submits the pending vector, cancels it. -/
inductive Event where
  | composed (hotkeyWeights : Dict String ℚ)
  | completed (roundId : ℤ)
  | marked (decision : DecisionDocument) (pending : PendingVector)
  | submitted (pending : PendingVector) (outcome : SubmissionOutcome)
  | cancelled

/-- The state after a call, what the call returns or raises, and its events. -/
structure Outcome (σ : Type) where
  state : σ
  result : Except Exc Bool
  events : List Event

/-- Save the state, then return `value`. -/
def saveAndReturn (save : Except Exc Unit) (state : ValidatorState) (value : Bool)
    (events : List Event) : Outcome ValidatorState :=
  ⟨state, save.map fun _ => value, events⟩

/-- `note_submission_failure(...); save(...); return False`. -/
def recordFailure (env : TickEnv) (state : ValidatorState) (ambiguous : Bool)
    (events : List Event) : Outcome ValidatorState :=
  match noteSubmissionFailure state env.nowMs ambiguous with
  | .error e => ⟨state, .error e, events⟩
  | .ok state' => saveAndReturn env.saveOutcome state' false events

/-- `pending_vector = None; save(...); return False`. -/
def cancelPending (env : TickEnv) (state : ValidatorState) : Outcome ValidatorState :=
  saveAndReturn env.saveOutcome { state with pendingVector := none } false [.cancelled]

/-- Some signed uid no longer belongs to the hotkey it was scored for. -/
def isStale (pending : PendingVector) (peers : List Peer) : Bool :=
  (pending.uids.zip pending.hotkeys).any fun pair =>
    (hotkeyByUid peers).get? pair.1 ≠ some pair.2

/-- `message.startswith((...))` of the refresh of a pending vector. -/
def isAuthorizationChange (message : String) : Bool :=
  "owner authorization changed".toList.isPrefixOf message.toList ||
    "owner delegate deregistered".toList.isPrefixOf message.toList

/-- What the refresh of the owner registrations says about a pending vector. -/
inductive RegistrationVerdict where
  | proceed
  | cancel
  | hold
  | raise (e : Exc)

/-- The comparison of the pending vector's registration ids with the current ones. -/
def compareRegistrations (pending : PendingVector) (current : Dict String String) :
    RegistrationVerdict :=
  if current.sameItems pending.registrationIds then .proceed else .cancel

/-- The ids loaded afresh for a pending vector of an earlier tick. -/
def refreshRegistrationIds (setup : Setup) (env : TickEnv) (state : ValidatorState)
    (peers : List Peer) : Except Exc (Dict String String) := do
  let block ← env.block
  let registrations ← loadOwnerRegistrations setup env state peers block true
  pure (registrationIds registrations)

/-- The registration branch of `_submit_pending`. -/
def checkRegistrations (setup : Setup) (env : TickEnv) (state : ValidatorState)
    (peers : List Peer) (pending : PendingVector) (current : Option (Dict String String)) :
    RegistrationVerdict :=
  if pending.registrationIds.isEmpty then .proceed
  else
    match current with
    | some ids => compareRegistrations pending ids
    | none =>
      match refreshRegistrationIds setup env state peers with
      | .ok ids => compareRegistrations pending ids
      | .error (.thinSubnetError message) =>
        if isAuthorizationChange message then .cancel else .hold
      | .error e => .raise e

/-- The call of `submit_weights` and the bookkeeping after it. -/
def submitVector (env : TickEnv) (state : ValidatorState) (pending : PendingVector) :
    Outcome ValidatorState :=
  match env.submitWeights pending with
  | .error _ => recordFailure env state true [.submitted pending .raised]
  | .ok response =>
    if responseSucceeded response then
      match noteSubmissionSuccess state with
      | .error e => ⟨state, .error e, [.submitted pending .succeeded]⟩
      | .ok state' =>
        saveAndReturn env.saveOutcome state' true [.submitted pending .succeeded]
    else
      let ambiguous := submissionFailureIsAmbiguous response
      recordFailure env state ambiguous [.submitted pending (.failed ambiguous)]

def submitPending (setup : Setup) (env : TickEnv) (state : ValidatorState)
    (metagraph : Option Metagraph) (current : Option (Dict String String)) :
    Outcome ValidatorState :=
  match state.pendingVector with
  | none => ⟨state, .ok true, []⟩
  | some pending =>
    if pending.ambiguous ∧ ¬ setup.retryAmbiguous then ⟨state, .ok false, []⟩
    else if env.nowMs < pending.nextRetryAtMs then ⟨state, .ok false, []⟩
    else if ¬ setup.broadcast then ⟨state, .ok false, []⟩
    else
      match (metagraph.elim env.metagraph .ok) >>= snapshotPeers with
      | .error _ => recordFailure env state pending.ambiguous []
      | .ok peers =>
        if isStale pending peers then cancelPending env state
        else
          match checkRegistrations setup env state peers pending current with
          | .cancel => cancelPending env state
          | .hold => recordFailure env state pending.ambiguous []
          | .raise e => ⟨state, .error e, []⟩
          | .proceed => submitVector env state pending

end Cathedral.Thin
