import Cathedral.Arena.Anchor
import Cathedral.Arena.Provenance
import Cathedral.Arena.Replay

/-!
# Cathedral.Arena.Bundle — portable proof bundles

`game/arena/bundle.py`. A bundle is a JSON document with the receipt of one agent, the parts of
the round that it was in, and, if there are any, a witness to re-run and what it claims of the
target. `verifyBundle` re-derives ten checks from the document; the parts that a bundle may leave
out are checked only when they are there, and the weight entry is not looked at.
-/

namespace Cathedral.Arena

open PyJson (Value)

/-! ## The document -/

/-- The parts that every bundle has. -/
structure Presented where
  bundle : Members
  receipt : Receipt
  expected : Expected
  leaf : PyStr
  path : List PathStep
  root : Value
  anchor : Members
  merkleRoot : Value

/-- One step of the path; a side that is no text is not `"right"`. -/
def PathStep.ofValue : Value → Option PathStep
  | .obj step => do
    let hash ← get step "hash"
    let side ← get step "side"
    match hash, side with
    | .str hash, .str side => some ⟨hash, side⟩
    | .str hash, _ => some ⟨hash, []⟩
    | _, _ => none
  | _ => none

/-- The loop over the path. -/
def pathOf : Value → Option (List PathStep)
  | .arr items => items.mapM PathStep.ofValue
  | .obj [] | .str [] => some []
  | _ => none

/-- What `verify_bundle` takes out of a bundle in any case; `none` where it raises. -/
def present : Value → Option Presented
  | .obj bundle => do
    let receipt ← (get bundle "receipt").bind receiptFromDict
    let hotkey ← get bundle "miner_hotkey"
    let mission ← get bundle "mission_id"
    let nonce ← get bundle "nonce"
    let artifact ← get bundle "expected_artifact"
    let inclusion ← get bundle "merkle_inclusion"
    let anchor ← get bundle "anchor"
    match inclusion, anchor with
    | .obj inclusion, .obj anchor => do
      let leaf ← get inclusion "leaf"
      let path ← (get inclusion "path").bind pathOf
      let root ← get inclusion "root"
      let committed ← get anchor "merkle_root"
      match leaf with
      | .str leaf =>
        some ⟨bundle, receipt, ⟨hotkey, mission, nonce, .given artifact⟩, leaf, path, root,
          anchor, committed⟩
      | _ => none
    | _, _ => none
  | _ => none

/-! ## The checks -/

structure BundleChecks where
  receiptSignature : Bool
  receiptChain : Bool
  receiptBindsArtifact : Bool
  replayReproduces : Bool
  merkleInclusion : Bool
  inclusionMatchesAnchor : Bool
  anchorSignature : Bool
  receiptHeadIsLeaf : Bool
  proofSourceRegistered : Bool
  corroboratingCommitment : Bool

/-- `all(checks.values())`. -/
def BundleChecks.ok (c : BundleChecks) : Bool :=
  c.receiptSignature && c.receiptChain && c.receiptBindsArtifact && c.replayReproduces &&
  c.merkleInclusion && c.inclusionMatchesAnchor && c.anchorSignature && c.receiptHeadIsLeaf &&
  c.proofSourceRegistered && c.corroboratingCommitment

/-- `bundle.get(name)`, if it is truthy: a dictionary, or something that the code cannot index. -/
inductive Part where
  | absent
  | there (members : Members)
  | other

def partOf (bundle : Members) (name : String) : Part :=
  match get bundle name with
  | some (.obj (m :: members)) => .there (m :: members)
  | some v => if PyJson.truthy v then .other else .absent
  | none => .absent

/-- `TARGETS.get(key)`; `none` where the key cannot be hashed. -/
def Registry.lookup (targets : Registry) : Value → Option (Option ReplayTarget)
  | .str id => some (targets id)
  | .arr _ | .obj _ => none
  | _ => some none

/-- `run_replay` of a key of any kind. -/
def replayOf (targets : Registry) (targetId witness : Value) : Option ReplayOutcome :=
  match targetId with
  | .str id => runReplay targets id witness
  | .arr _ | .obj _ => none
  | _ => some (.refused .unknownTarget)

/-- `replay_reproduces`. -/
def replayCheck (targets : Registry) (bundle : Members) : Option Bool :=
  match partOf bundle "replay" with
  | .absent => some true
  | .there rp => do
    let targetId ← get rp "target_id"
    let witness ← get rp "witness"
    let out ← replayOf targets targetId witness
    let expected ← get rp "expect_reproduced"
    some (PyJson.pyEq (.bool out.reproduced) expected)
  | .other => none

/-- `proof_source_registered`. -/
def sourceCheck (targets : Registry) (bundle : Members) : Option Bool :=
  match partOf bundle "proof_provenance" with
  | .absent => some true
  | .there pp => do
    let targetId ← get pp "target_id"
    let target ← targets.lookup targetId
    match target with
    | none => some false
    | some t =>
      some (PyJson.pyEqGet (some (.str t.source)) (get pp "source") &&
        PyJson.pyEqGet (some (.str t.codeSha256)) (get pp "code_sha256"))
  | .other => none

/-- The fields that `solve_commitment` covers. -/
def solveFields : List String :=
  ["real_cnf", "cnf_sha256", "host", "solver", "remote_status", "remote_wall_ms", "local_solver",
    "cross_solver_agree", "hardened_proof"]

def solveCommitment (C : Crypto) (receipt : Members) : PyStr :=
  C.sha (record (solveFields.map fun k => (k, (get receipt k).getD .null)))

/-- `corroborating_commitment`. -/
def evidenceCheck (C : Crypto) (bundle : Members) : Option Bool :=
  match partOf bundle "corroborating_evidence" with
  | .absent => some true
  | .there ce =>
    if get ce "kind" = some (text "stitch-real-cnf-cross-proof") then
      some (PyJson.pyEqGet (some (.str (solveCommitment C ce))) (get ce "solve_commitment"))
    else some true
  | .other => none

/-- The checks of `verify_bundle` on what was taken out. -/
def checkPresented (C : Crypto) (targets : Registry) (b : Presented) : Option BundleChecks := do
  let v ← verifyReceipt C b.receipt b.expected true false []
  let replayed ← replayCheck targets b.bundle
  let included ← verifyMerkleProof C b.leaf b.path (match b.root with | .str s => s | _ => [])
  let registered ← sourceCheck targets b.bundle
  let corroborated ← evidenceCheck C b.bundle
  some {
    receiptSignature := v.signatureOk
    receiptChain := v.chainIntact
    receiptBindsArtifact := v.headBindsArtifact
    replayReproduces := replayed
    -- what is computed is a text, which a root of another kind is not
    merkleInclusion := included && (match b.root with | .str _ => true | _ => false)
    inclusionMatchesAnchor := PyJson.pyEq b.root b.merkleRoot
    anchorSignature := C.signatureOk b.anchor
    receiptHeadIsLeaf := decide (b.receipt.head = .str b.leaf)
    proofSourceRegistered := registered
    corroboratingCommitment := corroborated }

/-- `verify_bundle`; `none` where it raises. -/
def verifyBundle (C : Crypto) (targets : Registry) (bundle : Value) : Option BundleChecks :=
  (present bundle).bind (checkPresented C targets)

/-! ## Building -/

/-- What `build_bundle` reads of a round and one of its agents. -/
structure BundleSource where
  agentId : PyStr
  minerHotkey : PyStr
  season : PyStr
  roundNo : ℤ
  environment : PyStr
  targetNetuid : ℤ
  missionId : PyStr
  nonce : PyStr
  receipt : Receipt
  artifact : Members
  head : PyStr
  /-- The entry of the agent in the replay theater. -/
  theater : Option (PyStr × Value × Bool)
  evidence : Value
  anchor : Members
  root : PyStr
  leaves : List PyStr
  vector : Members
  gatesPassed : Bool
  grade : PyStr

/-- `next((w for w in vector["weights"] if w["miner_hotkey"] == hotkey), None)`; the entries of
a signed vector are dictionaries with a hotkey. -/
def weightEntry (vector : Members) (hotkey : PyStr) : Value :=
  match get vector "weights" with
  | some (.arr items) =>
    (items.find? fun
      | .obj w => PyJson.pyEqGet (get w "miner_hotkey") (some (.str hotkey))
      | _ => false).getD .null
  | _ => .null

/-- A path as the document carries it. -/
def pathValue (path : List PathStep) : Value :=
  .arr (path.map fun s => .obj (record [("hash", .str s.hash), ("side", .str s.side)]))

def replayPart : Option (PyStr × Value × Bool) → Value
  | some (targetId, witness, reproduced) =>
    .obj (record [("target_id", .str targetId), ("witness", witness),
      ("expect_reproduced", .bool reproduced)])
  | none => .null

def provenancePart (targets : Registry) : Option (PyStr × Value × Bool) → Value
  | some (targetId, _, _) =>
    match targets targetId with
    | some t => .obj (record [("target_id", .str targetId), ("source", .str t.source),
        ("code_sha256", .str t.codeSha256), ("family", .str t.family),
        ("property", .str t.propertyDesc)])
    | none => .null
  | none => .null

/-- The document with a weight entry and a path. -/
def assemble (targets : Registry) (b : BundleSource) (path : List PathStep) (entry : Value) :
    Value :=
  .obj (record [("schema", text "cathedral-arena-proof-bundle/v2"), ("agent_id", .str b.agentId),
    ("miner_hotkey", .str b.minerHotkey), ("season", .str b.season), ("round", integer b.roundNo),
    ("environment", .str b.environment), ("target_netuid", integer b.targetNetuid),
    ("mission_id", .str b.missionId), ("nonce", .str b.nonce), ("receipt", receiptToDict b.receipt),
    ("expected_artifact", .obj b.artifact), ("replay", replayPart b.theater),
    ("proof_provenance", provenancePart targets b.theater), ("corroborating_evidence", b.evidence),
    ("merkle_inclusion", .obj (record [("leaf", .str b.head), ("path", pathValue path),
      ("root", .str b.root)])),
    ("anchor", .obj b.anchor), ("weight_entry", entry), ("gates_passed", .bool b.gatesPassed),
    ("provenance_grade", .str b.grade)])

/-- `build_bundle`; `none` where the head is no leaf, or a leaf cannot be encoded. -/
def buildBundle (C : Crypto) (targets : Registry) (b : BundleSource) : Option Value :=
  if b.head ∈ b.leaves then
    (merkleProof C b.leaves (b.leaves.idxOf b.head)).map fun path =>
      assemble targets b path (weightEntry b.vector b.minerHotkey)
  else none

end Cathedral.Arena
