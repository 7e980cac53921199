import Cathedral.Arena.Provenance
import Cathedral.Arena.Replay

/-!
# Cathedral.Arena.Engine — a submitted agent in a round

The path of `game/arena/engine.py` on which an external process answers a mission with an
envelope: `ingest` takes the envelope apart, `gates` reads its submission, `provenance` its
receipt, and `submitted` is one pass of `run_submitted`. The two halves of the envelope are
the agent's; whatever they hold is a JSON value.

Instances and witnesses of the per-miner challenges, and the attestation service, are what
the engine calls: parameters.
-/

namespace Cathedral.Arena

open PyJson (Value)

structure AgentSpec where
  agentId : PyStr
  hotkey : PyStr
  archetype : PyStr
  environment : PyStr
  provisioned : Bool
  claimedEnv : PyStr

structure Mission where
  missionId : PyStr
  attestationRequired : Bool
  nonce : PyStr
  tier : ℤ
  replayTargetId : PyStr
  nonceIssuedTick : ℤ

/-- What the engine calls of `per_miner`; `none` where it raises. -/
structure PerMiner where
  /-- The id of a challenge and the text of its formula. -/
  generateInstance : (hotkey : PyStr) → (epoch tier : ℤ) → (seq : ℕ) → Option (PyStr × PyStr)
  verifyMinerSubmission : (hotkey : PyStr) → (epoch : ℤ) → (challengeId assignment : Value) →
    Option (Bool × Option PyStr)
  recoverTierSeqFor : (hotkey : PyStr) → (epoch : ℤ) → (challengeId : Value) →
    Option (Option (ℤ × ℕ))
  verifyMinerSubmissionFor : (hotkey : PyStr) → (epoch tier : ℤ) → (seq : ℕ) →
    (challengeId assignment : Value) → Option (Bool × Option PyStr)

/-- The engine in one round. -/
structure ArenaEngine where
  crypto : Crypto
  targets : Registry
  perMiner : PerMiner
  /-- Whether `verify_attestation` accepts; `none` where it raises. -/
  verifyAttestation : (nonce pubkey expectedImage workload : PyStr) → (measuredElapsedMs : Value) →
    Option Bool
  /-- `str` of a value that is no text. -/
  str : Value → PyStr
  knownHotkeys : List PyStr
  delegations : PyStr → Option PyStr
  nowTick : ℤ
  epoch : ℤ

/-- What the engine remembers from one agent to the next. -/
structure Memory where
  ledger : List (PyStr × Value)
  seenReceipts : List PyStr

def nonceTtlTicks : ℤ := 1

def trustedEnvs : List PyStr :=
  ["stitch-runner", "polaris-tee-cpu", "polaris-tee-gpu"].map PyStr.ofString

/-! ## The envelope -/

structure Submission where
  spec : AgentSpec
  mission : Mission
  cid : PyStr
  issuedCnfHash : PyStr
  issuedNonce : PyStr
  submittedCid : Value
  submittedNonce : Value
  submittedCnfHash : Value
  assignment : Value
  wallMs : Value
  replayWitness : Value
  claimedFamily : Value

/-- `_ingest`; `none` where it raises. -/
def ArenaEngine.ingest (A : ArenaEngine) (envelope : Value) (spec : AgentSpec) (m : Mission) :
    Option (Submission × Receipt) :=
  match envelope with
  | .obj members => do
    let submission ← get members "submission"
    let receipt ← (get members "receipt").bind receiptFromDict
    let (cid, cnf) ← A.perMiner.generateInstance spec.hotkey A.epoch m.tier 0
    let cnf ← utf8 cnf
    match submission, receipt.artifact with
    | .obj sub, .obj artifact => do
      let submittedCid ← get sub "submitted_cid"
      let submittedNonce ← get sub "submitted_nonce"
      let submittedCnfHash ← get sub "submitted_cnf_hash"
      let assignment ← get sub "assignment"
      let wallMs ← get sub "wall_ms"
      some (⟨spec, m, cid, A.crypto.sha256Hex cnf, m.nonce, submittedCid, submittedNonce,
        submittedCnfHash, assignment, wallMs, (get sub "replay_witness").getD .null,
        (get artifact "proof_family").getD (.str [])⟩, receipt)
    | _, _ => none
  | _ => none

/-! ## The gates -/

inductive GateReason where
  | unknownHotkey
  | noAssignedMission
  | forgedNonce
  | nonceExpiredStaleReplay
  | duplicateSubmissionReplay
  | challengeIdNotInMinerSet
  | incompleteArtifact
  | cnfHashMismatchVsManifest
  | witness (reason : PyStr)
  | witnessUnverifiable
  | missingDecodeMap
  | replay (reason : ReplayReason)
  | replayFailedUnsoundEncoding
  | fakeComputeProfile
  | attestationInvalidOrUntrustedEnv
  | misclassifiedInvariant (claimed : Value) (family : PyStr)
  | receipt (reason : ReceiptReason)
  | agentKeyNotDelegatedToHotkey
deriving DecidableEq

structure GateOutcome where
  validIdentity : Bool
  assignedMission : Bool
  freshNonce : Bool
  noReplay : Bool
  correctOwner : Bool
  completeArtifact : Bool
  cnfHashMatches : Bool
  decodeMapPresent : Bool
  witnessVerifies : Bool
  replaySucceeds : Bool
  computeProfileHonest : Bool
  attestationValid : Bool
  agentSignatureValid : Bool
  provenanceChainIntact : Bool
  hypothesisAligned : Bool
  reasons : List GateReason
  provenanceGrade : Grade

/-- `passed`: all of `GATES`. -/
def GateOutcome.passed (g : GateOutcome) : Bool :=
  g.validIdentity && g.assignedMission && g.freshNonce && g.noReplay && g.correctOwner &&
  g.completeArtifact && g.cnfHashMatches && g.decodeMapPresent && g.witnessVerifies &&
  g.replaySucceeds && g.computeProfileHonest && g.attestationValid && g.agentSignatureValid &&
  g.provenanceChainIntact && g.hypothesisAligned

/-- A value that a set can hold. -/
def hashable : Value → Bool
  | .arr _ | .obj _ => false
  | _ => true

/-- `(hotkey, value) in self._ledger`; `none` where the value cannot be hashed. -/
def inLedger (ledger : List (PyStr × Value)) (hotkey : PyStr) (v : Value) : Option Bool :=
  if hashable v then some (ledger.any fun entry => entry.1 = hotkey && PyJson.pyEq v entry.2)
  else none

/-- `self._ledger.add((hotkey, value))`. -/
def addLedger (ledger : List (PyStr × Value)) (hotkey : PyStr) (v : Value) :
    Option (List (PyStr × Value)) :=
  if hashable v then some (ledger ++ [(hotkey, v)]) else none

/-- `str(value)`. -/
def ArenaEngine.shown (A : ArenaEngine) : Value → PyStr
  | .str s => s
  | v => A.str v

/-- The environment of the agent carries a hardware claim that it can back. -/
def AgentSpec.canAttest (spec : AgentSpec) : Bool :=
  spec.provisioned && decide (spec.environment ∈ trustedEnvs)

def ArenaEngine.attestKey (A : ArenaEngine) (spec : AgentSpec) : Option PyStr :=
  if spec.canAttest then (utf8 spec.hotkey).map A.crypto.sha256Hex else some []

/-- The call of `verify_attestation`: its nonce commits to what was submitted. -/
def ArenaEngine.attest (A : ArenaEngine) (s : Submission) : Option Bool := do
  let bar := PyStr.ofString "|"
  let text ← utf8 (A.shown s.submittedCid ++ bar ++ A.shown s.submittedCnfHash ++ bar ++
    A.shown s.submittedNonce)
  let image := if s.spec.canAttest then PyStr.ofString "sha256:agent-" ++ s.spec.agentId
    else PyStr.ofString "sha256:unattestable"
  let pubkey ← A.attestKey s.spec
  A.verifyAttestation (PyStr.ofString "attest:" ++ A.crypto.sha256Hex text) pubkey image
    (PyStr.ofString "solve:" ++ s.cid) s.wallMs

/-- Only what the mission asks for is attested. -/
def ArenaEngine.attestationGate (A : ArenaEngine) (s : Submission) : Option Bool :=
  if s.mission.attestationRequired then A.attest s else some true

/-- The check that owner and witness are folded in. -/
def ArenaEngine.foldedCheck (A : ArenaEngine) (s : Submission) : Option (Bool × Option PyStr) :=
  if PyJson.truthy s.assignment then
    A.perMiner.verifyMinerSubmission s.spec.hotkey A.epoch s.submittedCid s.assignment
  else some (false, some (PyStr.ofString "no_assignment"))

/-- The witness gate: the owner, and the instance that the challenge id is recovered to. -/
def ArenaEngine.witnessGate (A : ArenaEngine) (s : Submission) :
    Option (Bool × Bool × List GateReason) := do
  -- the answer is not used; the call may raise
  let _ ← A.foldedCheck s
  let recovered ← A.perMiner.recoverTierSeqFor s.spec.hotkey A.epoch s.submittedCid
  match recovered with
  | none => some (false, false, [])
  | some (tier, seq) => do
    let (ok, reason) ← A.perMiner.verifyMinerSubmissionFor s.spec.hotkey A.epoch tier seq
      s.submittedCid s.assignment
    some (true, ok, if ok then []
      else [.witness (reason.getD (PyStr.ofString "witness_check_failed"))])

/-- The decode map has the keys of the harness. -/
def ArenaEngine.decodeGate (A : ArenaEngine) (s : Submission) : Option Bool :=
  match A.targets s.mission.replayTargetId with
  | none => some true
  | some target =>
    if PyJson.truthy s.replayWitness then containsAll s.replayWitness target.decode
    else some false

/-- The committed family is that of the target. -/
def ArenaEngine.aligned (A : ArenaEngine) (s : Submission) : Bool :=
  match A.targets s.mission.replayTargetId with
  | none => true
  | some target =>
    !PyJson.truthy s.claimedFamily || decide (s.claimedFamily = .str target.family)

/-- `_gates`; `none` where it raises. The gates of the receipt are still closed. -/
def ArenaEngine.gates (A : ArenaEngine) (memory : Memory) (s : Submission) :
    Option GateOutcome := do
  let known := decide (s.spec.hotkey ∈ A.knownHotkeys)
  let assigned := decide (s.mission.missionId ≠ [])
  let nonceMatches := decide (s.submittedNonce = .str s.issuedNonce)
  let withinTtl := decide (A.nowTick - s.mission.nonceIssuedTick ≤ nonceTtlTicks)
  let replayed ← inLedger memory.ledger s.spec.hotkey s.submittedCid
  let (owner, witness, witnessReasons) ← A.witnessGate s
  let complete := PyJson.truthy s.assignment && PyJson.truthy s.submittedCnfHash &&
    PyJson.truthy s.submittedNonce
  let hashMatches := decide (s.submittedCnfHash = .str s.issuedCnfHash)
  let decodeMap ← A.decodeGate s
  let out ← runReplay A.targets s.mission.replayTargetId s.replayWitness
  let replayOk := witness && hashMatches && out.reproduced
  let claimed := if s.spec.claimedEnv = [] then s.spec.environment else s.spec.claimedEnv
  let honest := !decide (claimed ∈ trustedEnvs) || s.spec.canAttest
  let attestation ← A.attestationGate s
  some {
    validIdentity := known
    assignedMission := assigned
    freshNonce := nonceMatches && withinTtl
    noReplay := !replayed
    correctOwner := owner
    completeArtifact := complete
    cnfHashMatches := hashMatches
    decodeMapPresent := decodeMap
    witnessVerifies := witness
    replaySucceeds := replayOk
    computeProfileHonest := honest
    attestationValid := attestation
    agentSignatureValid := false
    provenanceChainIntact := false
    hypothesisAligned := A.aligned s
    provenanceGrade := .f
    reasons :=
      (if known then [] else [.unknownHotkey]) ++
      (if assigned then [] else [.noAssignedMission]) ++
      (if !nonceMatches then [.forgedNonce]
        else if !withinTtl then [.nonceExpiredStaleReplay] else []) ++
      (if replayed then [.duplicateSubmissionReplay] else []) ++
      -- the challenge is no one's: `witness_unverifiable` is never added beside this one
      (if owner then [] else [.challengeIdNotInMinerSet]) ++
      (if complete then [] else [.incompleteArtifact]) ++
      (if hashMatches then [] else [.cnfHashMismatchVsManifest]) ++
      witnessReasons ++
      (if decodeMap then [] else [.missingDecodeMap]) ++
      (if !out.reproduced then [.replay (out.reason.getD .proofDidNotReproduce)]
        else if !replayOk && witness then [.replayFailedUnsoundEncoding] else []) ++
      (if honest then [] else [.fakeComputeProfile]) ++
      (if attestation then [] else [.attestationInvalidOrUntrustedEnv]) ++
      (if A.aligned s then []
        else match A.targets s.mission.replayTargetId with
          | some target => [.misclassifiedInvariant s.claimedFamily target.family]
          | none => []) }

/-- `if r not in g.reasons: g.reasons.append(r)`, for each. -/
def addReasons (reasons : List GateReason) (more : List ReceiptReason) : List GateReason :=
  more.foldl (fun acc r => if .receipt r ∈ acc then acc else acc ++ [.receipt r]) reasons

/-- What the receipt of a submission is compared with: its artifact, with a copy of itself. -/
def Submission.expected (s : Submission) : Expected :=
  ⟨.str s.spec.hotkey, .str s.mission.missionId, s.submittedNonce, .own⟩

/-- `_provenance`; `none` where it raises. -/
def ArenaEngine.provenance (A : ArenaEngine) (memory : Memory) (s : Submission) (r : Receipt)
    (g : GateOutcome) : Option GateOutcome :=
  (verifyReceipt A.crypto r s.expected g.replaySucceeds s.mission.attestationRequired
    memory.seenReceipts).map fun v =>
      { g with
        agentSignatureValid := v.signatureOk
        provenanceChainIntact := v.chainIntact && v.headBindsArtifact && v.notReplayedReceipt
        provenanceGrade := v.grade
        reasons := addReasons g.reasons v.reasons }

/-- The key of the receipt is the one that the hotkey delegated to; `.get` gives `None` for an
unknown hotkey. -/
def ArenaEngine.delegated (A : ArenaEngine) (spec : AgentSpec) (r : Receipt) : Bool :=
  match A.delegations spec.hotkey with
  | some key => decide (r.agentPubkey = .str key)
  | none => decide (r.agentPubkey = .null)

/-- What a pass leaves of one agent. -/
structure Graded where
  submission : Submission
  receipt : Receipt
  gates : GateOutcome
  memory : Memory

/-- The ledger that the gates read: a submission of the spam archetype is already in it. -/
def ledgerBefore (memory : Memory) (spec : AgentSpec) (s : Submission) :
    Option (List (PyStr × Value)) :=
  if spec.archetype = PyStr.ofString "spam" then addLedger memory.ledger spec.hotkey s.submittedCid
  else some memory.ledger

/-- One pass of the loop of `run_submitted`, from the envelope on; `none` where it raises. -/
def ArenaEngine.submitted (A : ArenaEngine) (memory : Memory) (spec : AgentSpec) (m : Mission)
    (envelope : Value) : Option Graded := do
  let (s, r) ← A.ingest envelope spec m
  let ledger ← ledgerBefore memory spec s
  let g ← A.gates ⟨ledger, memory.seenReceipts⟩ s
  let g ← A.provenance memory s r g
  let g := if A.delegated spec r then g
    else { g with validIdentity := false, reasons := g.reasons ++ [.agentKeyNotDelegatedToHotkey] }
  let ledger ← addLedger ledger spec.hotkey s.submittedCid
  match r.sig with
  | .str sig => some ⟨s, r, g, ⟨ledger, memory.seenReceipts ++ [A.crypto.sha r.body ++ sig]⟩⟩
  | _ => none

end Cathedral.Arena
