import Cathedral.Thin.Validator

/-!
# Cathedral.Thin.Tick — scoring a round and committing it

The part of `ValidatorRunner.tick` that runs when no vector is pending: it reads
the metagraph, scores the classes, composes and prepares the vector, and only
then moves the state, marks the vector pending and submits it.

Until `commitRound` the state is not touched; `commitRound` assigns the five
fields first and can still raise afterwards.
-/

namespace Cathedral.Thin

/-- The runner: its validator state and the last round it previewed. -/
structure Runner where
  state : ValidatorState
  lastDryRunRound : Option ℤ := none

/-! ## Opening a round -/

/-- What is known of a round before its classes are scored. -/
structure OpenRound where
  metagraph : Metagraph
  peers : List Peer
  block : ℤ
  roundId : ℤ

/-- `a // b`. -/
def floorDiv (a b : ℤ) : Except Exc ℤ :=
  if b = 0 then .error (.other "ZeroDivisionError" "integer division or modulo by zero")
  else pure (Int.fdiv a b)

/-- The reads at the start of a tick; `none` when the tick has nothing to score. -/
def openRound (setup : Setup) (env : TickEnv) (runner : Runner) :
    Except Exc (Option OpenRound) := do
  let metagraph ← env.metagraph
  let peers ← snapshotPeers metagraph
  let block ← env.block
  let roundId ← floorDiv block setup.roundBlocks
  if ¬ setup.broadcast ∧ runner.lastDryRunRound = some roundId then return none
  if roundId ≤ runner.state.lastCompletedRound then return none
  return some { metagraph, peers, block, roundId }

/-! ## Scoring the classes -/

/-- `one(peer)` of `evaluate_peers`. -/
def evaluatePeer (env : TickEnv) (peer : Peer) : Except Exc RoundResult :=
  if ¬ peer.serviceable then pure ⟨peer.hotkey, 0, "axon_unavailable"⟩
  else do
    let (score, reason) ← env.peerResult peer
    pure ⟨peer.hotkey, score, reason⟩

def evaluatePeers (env : TickEnv) (peers : List Peer) : Except Exc (Dict String RoundResult) := do
  let results ← gather env.gatherPick (peers.map (evaluatePeer env))
  pure (Dict.ofList (results.map fun result => (result.hotkey, result)))

/-- The local class: the new EMA and the decision, if the policy has one. -/
def scoreLocal (setup : Setup) (env : TickEnv) (state : ValidatorState) (peers : List Peer) :
    Except Exc (Dict String PyFloat × List ClassDecision) :=
  match setup.policy.localClass with
  | none => pure (state.emaScores, [])
  | some localPolicy => do
    let results ← evaluatePeers env peers
    let observations := results.mapItems fun _ result => result.score
    let newEma ← updateEma state.emaScores observations (peers.map Peer.hotkey) setup.emaAlpha
    let eligible ← gateScoresByCurrentVerification newEma observations
    let decision ← localClassDecision localPolicy eligible (coldkeyByHotkey peers)
      (results.mapItems fun _ result => result.reason)
    pure (newEma.mapItems fun _ ema => .finite ema, [decision])

/-- The owner registrations of the round. With a burn destination a
`ThinSubnetError` empties them all. -/
def roundRegistrations (setup : Setup) (env : TickEnv) (state : ValidatorState)
    (round : OpenRound) : Except Exc Registrations :=
  match loadOwnerRegistrations setup env state round.peers round.block false with
  | .ok registrations => pure registrations
  | .error (.thinSubnetError message) =>
    if setup.policy.burnHotkey = none then .error (.thinSubnetError message) else pure ∅
  | .error e => .error e

/-- The result of `load_external`. -/
structure LoadedExternal where
  policy : ExternalClassPolicy
  report : VerifiedReport
  checkpoint : SourceCheckpoint
  registration : Option (VerifiedOwnerRegistration × RegistrationCheckpoint)

/-- The policy under which a class's report is loaded. -/
def effectivePolicy (registrations : Registrations) (classPolicy : ExternalClassPolicy) :
    Except Exc (ExternalClassPolicy ×
      Option (VerifiedOwnerRegistration × RegistrationCheckpoint)) :=
  match classPolicy.ownerRegistration with
  | none => pure (classPolicy, none)
  | some _ =>
    match registrations.get? classPolicy.classId with
    | none => .error (.other "KeyError" classPolicy.classId)
    | some loaded => do
      let policy ← materializeRegisteredPolicy classPolicy loaded.1
      pure (policy, some loaded)

def loadExternal (setup : Setup) (env : TickEnv) (state : ValidatorState) (block : ℤ)
    (registrations : Registrations) (classPolicy : ExternalClassPolicy) :
    Except Exc LoadedExternal := do
  let (policy, registration) ← effectivePolicy registrations classPolicy
  let (report, checkpoint) ← env.reportLoader
    { policy
      network := setup.network
      netuid := setup.netuid
      currentBlock := block
      checkpoint := state.classCheckpoints.get? classPolicy.classId }
  pure { policy, report, checkpoint, registration }

/-- What the class loop of a tick accumulates. -/
structure ClassRound where
  decisions : List ClassDecision
  classCheckpoints : Dict String SourceCheckpoint
  registrationCheckpoints : Dict String RegistrationCheckpoint

/-- The `class_failure` text of a class that could not be loaded. -/
def classFailure (e : Exc) : String :=
  e.typeName ++ ":" ++ String.ofList (e.message.toList.take 200)

/-- One pass of the class loop. -/
def decideExternal (setup : Setup) (coldkeyOf : Dict String String) (acc : ClassRound)
    (configured : ExternalClassPolicy × Except Exc LoadedExternal) : Except Exc ClassRound :=
  match configured.2 with
  | .error e =>
    if setup.policy.burnHotkey = none then .error e
    else pure { acc with
      decisions := acc.decisions ++ [revokedClassDecision configured.1 (classFailure e)] }
  | .ok loaded => do
    let decision ← externalClassDecision loaded.policy loaded.report coldkeyOf
      (loaded.registration.map Prod.fst)
    pure
      { decisions := acc.decisions ++ [decision]
        classCheckpoints := acc.classCheckpoints.set loaded.policy.classId loaded.checkpoint
        registrationCheckpoints := match loaded.registration with
          | none => acc.registrationCheckpoints
          | some (_, checkpoint) =>
            acc.registrationCheckpoints.set loaded.policy.classId checkpoint }

/-- `decision_by_id[item.class_id]` for the classes of the policy. -/
def orderDecisions (policy : ScorePolicy) (decisions : List ClassDecision) :
    Except Exc (List ClassDecision) :=
  policy.classes.mapM fun c =>
    match (Dict.ofList (decisions.map fun item => (item.classId, item))).get? c.classId with
    | none => .error (.other "KeyError" c.classId)
    | some decision => pure decision

/-- A round whose classes have been scored and composed. -/
structure ComposedRound where
  emaScores : Dict String PyFloat
  registrations : Registrations
  classes : ClassRound
  decisions : List ClassDecision
  hotkeyWeights : Dict String ℚ

/-- The decisions of all external classes. -/
def scoreExternals (setup : Setup) (env : TickEnv) (state : ValidatorState)
    (round : OpenRound) (registrations : Registrations) (decisions : List ClassDecision) :
    Except Exc ClassRound :=
  let externalPolicies := setup.policy.externalClasses
  let loaded := externalPolicies.map (loadExternal setup env state round.block registrations)
  (externalPolicies.zip loaded).foldlM (decideExternal setup (coldkeyByHotkey round.peers))
    { decisions
      classCheckpoints := state.classCheckpoints
      registrationCheckpoints := state.registrationCheckpoints }

/-- From the local evaluation to the composed hotkey vector. -/
def composeRound (setup : Setup) (env : TickEnv) (state : ValidatorState) (round : OpenRound) :
    Except Exc ComposedRound := do
  let (emaScores, localDecisions) ← scoreLocal setup env state round.peers
  let registrations ← roundRegistrations setup env state round
  let classes ← scoreExternals setup env state round registrations localDecisions
  let decisions ← orderDecisions setup.policy classes.decisions
  let hotkeyWeights ← composeClassDecisions setup.policy decisions
  pure { emaScores, registrations, classes, decisions, hotkeyWeights }

/-! ## Preparing the vector -/

/-- A vector ready to be committed. -/
structure PreparedRound where
  uids : List ℤ
  weights : List PyFloat
  decision : DecisionDocument
  decisionDigest : String

/-- `abs(prepared - original) > 1e-6`. -/
def movedWeight (prepared : PyFloat) (original : ℚ) : Bool :=
  match prepared with
  | .finite value => 1 / 10 ^ 6 < |value - original|
  | .nan => false
  | .posInf => true
  | .negInf => true

/-- The weight processor changed the set of uids or some weight. -/
def allocationAltered (uids : List ℤ) (weights : List ℚ) (outUids : List ℤ)
    (outWeights : List PyFloat) : Bool :=
  let original := Dict.ofList (uids.zip weights)
  let prepared := Dict.ofList (outUids.zip outWeights)
  prepared.keys.toFinset ≠ original.keys.toFinset ||
    original.items.any fun kv => movedWeight (prepared.getD kv.1 .nan) kv.2

/-- The vector after the chain's weight constraints. -/
def constrainWeights (setup : Setup) (env : TickEnv) (metagraph : Metagraph)
    (hotkeyWeights : Dict String ℚ) (uids : List ℤ) (weights : List ℚ) :
    Except Exc (List ℤ × List PyFloat) :=
  let burnOnly := match setup.policy.burnHotkey with
    | none => false
    | some burn => hotkeyWeights.sameItems (Dict.ofList [(burn, 1)])
  match env.prepareWeights with
  | none => pure (uids, weights.map .finite)
  | some prepare =>
    if uids = [] ∨ burnOnly = true then pure (uids, weights.map .finite)
    else do
      let (outUids, outWeights) ← prepare uids weights metagraph
      refuse (setup.policy.externalClasses ≠ [] ∧
          allocationAltered uids weights outUids outWeights = true)
        "chain constraints would alter configured class allocations; held"
      pure (outUids, outWeights)

/-- `decision_store.write(decision)`, when there is a store. -/
def writeDecision (env : TickEnv) (decision : DecisionDocument) : Except Exc Unit :=
  match env.decisionStore with
  | none => pure ()
  | some write => write decision

/-- From the composed hotkey vector to the recorded decision. -/
def prepareRound (setup : Setup) (env : TickEnv) (round : OpenRound) (composed : ComposedRound) :
    Except Exc PreparedRound := do
  let (uids, weights) ← uidVector composed.hotkeyWeights round.peers
  let (uids, weights) ← constrainWeights setup env round.metagraph composed.hotkeyWeights
    uids weights
  let (decision, decisionDigest) ← decisionDocument setup round.roundId round.block
    composed.decisions round.peers uids weights
  writeDecision env decision
  pure { uids, weights, decision, decisionDigest }

/-! ## Committing the round -/

def ValidatorState.completeRound (state : ValidatorState) (roundId : ℤ)
    (composed : ComposedRound) : ValidatorState :=
  { state with
    emaScores := composed.emaScores
    classCheckpoints := composed.classes.classCheckpoints
    registrationCheckpoints := composed.classes.registrationCheckpoints
    lastCompletedRound := roundId }

/-- `[hotkey_by_uid[uid] for uid in uids]`. -/
def pendingHotkeys (peers : List Peer) (uids : List ℤ) : Except Exc (List String) :=
  uids.mapM fun uid =>
    match (hotkeyByUid peers).get? uid with
    | none => fail ("weight processor returned unknown UID " ++ toString uid)
    | some hotkey => pure hotkey

/-- `mark_pending` on the prepared vector. -/
def markRound (setup : Setup) (round : OpenRound) (composed : ComposedRound)
    (prepared : PreparedRound) (state : ValidatorState) : Except Exc ValidatorState := do
  let hotkeys ← pendingHotkeys round.peers prepared.uids
  markPending setup.vectorHash state prepared.uids prepared.weights hotkeys
    (some prepared.decisionDigest) (registrationIds composed.registrations)

/-- The end of a broadcast tick: assign the state, mark the vector pending, save
and submit. Everything after the assignments can raise. -/
def commitRound (setup : Setup) (env : TickEnv) (state : ValidatorState) (round : OpenRound)
    (composed : ComposedRound) (prepared : PreparedRound) : Outcome ValidatorState :=
  let state := state.completeRound round.roundId composed
  if prepared.uids = [] then saveAndReturn env.saveRound state true [.completed round.roundId]
  else
    match markRound setup round composed prepared state with
    | .error e => ⟨state, .error e, [.completed round.roundId]⟩
    | .ok state =>
      let marked := state.pendingVector.toList.map (.marked prepared.decision)
      match env.saveRound with
      | .error e => ⟨state, .error e, marked⟩
      | .ok () =>
        let outcome := submitPending setup env state (some round.metagraph)
          (some (registrationIds composed.registrations))
        { outcome with events := marked ++ outcome.events }

/-! ## The tick -/

def scoreRound (setup : Setup) (env : TickEnv) (runner : Runner) (round : OpenRound) :
    Outcome Runner :=
  match composeRound setup env runner.state round with
  | .error e => ⟨runner, .error e, []⟩
  | .ok composed =>
    match prepareRound setup env round composed with
    | .error e => ⟨runner, .error e, [.composed composed.hotkeyWeights]⟩
    | .ok prepared =>
      if ¬ setup.broadcast then
        ⟨{ runner with lastDryRunRound := some round.roundId }, .ok true,
          [.composed composed.hotkeyWeights]⟩
      else
        let outcome := commitRound setup env runner.state round composed prepared
        ⟨{ runner with state := outcome.state }, outcome.result,
          .composed composed.hotkeyWeights :: outcome.events⟩

def tick (setup : Setup) (env : TickEnv) (runner : Runner) : Outcome Runner :=
  match runner.state.pendingVector with
  | some _ =>
    let outcome := submitPending setup env runner.state none none
    ⟨{ runner with state := outcome.state }, outcome.result, outcome.events⟩
  | none =>
    match openRound setup env runner with
    | .error e => ⟨runner, .error e, []⟩
    | .ok none => ⟨runner, .ok true, []⟩
    | .ok (some round) => scoreRound setup env runner round

end Cathedral.Thin
