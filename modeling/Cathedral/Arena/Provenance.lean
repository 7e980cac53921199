import Cathedral.Arena.Primitives

/-!
# Cathedral.Arena.Provenance — signed run-receipts

`game/arena/provenance.py`. A receipt carries the steps of a run, each with the hash of the
step before it, and is signed as a whole by the agent's own key. The fields of a received
receipt are whatever the JSON document has there.

`verifyReceipt` compares a receipt with what its caller expects. What the caller hands in as
the expected artifact may be the receipt's own (`ExpectedArtifact.own`); then there is nothing
to compare, and only a number that is not a number is refused. The attestation is taken from
the receipt.

`verifyReceipt_buildReceipt` is the way back: what an agent builds and signs is accepted.
-/

namespace Cathedral.Arena

open PyJson (Value)

/-! ## Hashes -/

/-- `_h` of a value. -/
def Crypto.digestValue (C : Crypto) (v : Value) : PyStr :=
  C.sha256Hex (asciiBytes (Json.render C.numeral v.sorted))

/-- `_h` of a dictionary. -/
def Crypto.digest (C : Crypto) (members : Members) : PyStr := C.sha256Hex (C.canonical members)

/-- `_h(...).encode()`: what is signed. -/
def Crypto.message (C : Crypto) (members : Members) : Bytes :=
  (C.digest members).map fun p => UInt8.ofNat p.val

/-! ## Receipts -/

structure Step where
  idx : Value
  kind : Value
  name : Value
  inputDigest : Value
  outputDigest : Value
  prevHash : Value

def Step.asDict (s : Step) : Members :=
  record [("idx", s.idx), ("kind", s.kind), ("name", s.name), ("input_digest", s.inputDigest),
    ("output_digest", s.outputDigest), ("prev_hash", s.prevHash)]

structure Receipt where
  agentId : Value
  agentPubkey : Value
  minerHotkey : Value
  missionId : Value
  nonce : Value
  environment : Value
  steps : List Step
  artifact : Value
  attestation : Value
  head : Value
  sig : Value

def Receipt.body (r : Receipt) : Members :=
  record [("agent_id", r.agentId), ("agent_pubkey", r.agentPubkey),
    ("miner_hotkey", r.minerHotkey), ("mission_id", r.missionId), ("nonce", r.nonce),
    ("environment", r.environment), ("steps", .arr (r.steps.map fun s => .obj s.asDict)),
    ("artifact", r.artifact), ("attestation", r.attestation), ("head", r.head)]

/-- One entry of `steps`; `none` where it is no dictionary or lacks a field. -/
def Step.ofValue : Value → Option Step
  | .obj s => do
    let idx ← get s "idx"
    let kind ← get s "kind"
    let name ← get s "name"
    let inputDigest ← get s "input_digest"
    let outputDigest ← get s "output_digest"
    let prevHash ← get s "prev_hash"
    some ⟨idx, kind, name, inputDigest, outputDigest, prevHash⟩
  | _ => none

/-- The loop over `d.get("steps", [])`. An empty dictionary or text has nothing to visit; the
keys and letters of others are no steps. -/
def stepsOf : Option Value → Option (List Step)
  | none | some (.obj []) | some (.str []) => some []
  | some (.arr items) => items.mapM Step.ofValue
  | some _ => none

/-- `receipt_from_dict`; `none` where it raises. -/
def receiptFromDict : Value → Option Receipt
  | .obj d => do
    let steps ← stepsOf (get d "steps")
    let agentId ← get d "agent_id"
    let agentPubkey ← get d "agent_pubkey"
    let minerHotkey ← get d "miner_hotkey"
    let missionId ← get d "mission_id"
    let nonce ← get d "nonce"
    let environment ← get d "environment"
    let artifact ← get d "artifact"
    let attestation := (get d "attestation").getD .null
    let head := (get d "head").getD (.str [])
    let sig := (get d "sig").getD (.str [])
    some ⟨agentId, agentPubkey, minerHotkey, missionId, nonce, environment, steps, artifact,
      attestation, head, sig⟩
  | _ => none

def receiptToDict (r : Receipt) : Value := .obj (r.body ++ record [("sig", r.sig)])

theorem ofValue_asDict (s : Step) : Step.ofValue (.obj s.asDict) = some s := by
  simp [Step.ofValue, Step.asDict, get_record, List.lookup_cons]

theorem mapM_asDict (steps : List Step) :
    steps.mapM (Step.ofValue ∘ fun s => Json.obj s.asDict) = some steps := by
  induction steps with
  | nil => rfl
  | cons s steps ih =>
    rw [List.mapM_cons, Function.comp_apply, ofValue_asDict, ih]
    rfl

/-- What is written of a receipt is read back. -/
theorem receiptFromDict_receiptToDict (r : Receipt) :
    receiptFromDict (receiptToDict r) = some r := by
  rw [receiptToDict, Receipt.body, record_append]
  simp [receiptFromDict, get_record, List.lookup_cons, stepsOf, mapM_asDict]

/-! ## Building -/

structure RawStep where
  kind : PyStr
  name : PyStr
  input : Value
  output : Value

def genesis : PyStr := PyStr.ofString "GENESIS"

def rawStep (C : Crypto) (i : ℕ) (prev : PyStr) (s : RawStep) : Step :=
  ⟨integer i, .str s.kind, .str s.name, .str (C.digestValue s.input), .str (C.digestValue s.output),
    .str prev⟩

/-- The loop of `chain_steps` from its `i`-th pass on. -/
def chainFrom (C : Crypto) : ℕ → PyStr → List RawStep → List Step
  | _, _, [] => []
  | i, prev, s :: rest =>
    rawStep C i prev s :: chainFrom C (i + 1) (C.digest (rawStep C i prev s).asDict) rest

def chainSteps (C : Crypto) (raw : List RawStep) : List Step := chainFrom C 0 genesis raw

def headOf (C : Crypto) (steps : List Step) : PyStr :=
  match steps.getLast? with
  | some s => C.digest s.asDict
  | none => PyStr.ofString "EMPTY"

def buildReceipt (C : Crypto) (key : SigningKey C) (agentId minerHotkey missionId nonce
    environment : PyStr) (raw : List RawStep) (artifact : Members) (attestation : Value) :
    Receipt :=
  let r : Receipt := ⟨.str agentId, .str (Hex.encode key.publicKey), .str minerHotkey,
    .str missionId, .str nonce, .str environment, chainSteps C raw, .obj artifact, attestation,
    .str (headOf C (chainSteps C raw)), .str []⟩
  { r with sig := .str (Hex.encode (key.sign (C.message r.body))) }

/-! ## Verification -/

inductive Grade where
  | a
  | b
  | bMinus
  | c
  | f
deriving DecidableEq

inductive ReceiptReason where
  | agentSignatureInvalid
  | provenanceChainBroken
  | headHashMismatch
  | receiptDoesNotBindSubmission
  | receiptReplayed
  | attestationMissingOrInvalid
deriving DecidableEq

structure ProvenanceVerdict where
  signatureOk : Bool
  chainIntact : Bool
  headBindsArtifact : Bool
  replayOk : Bool
  attested : Bool
  notReplayedReceipt : Bool
  grade : Grade
  reasons : List ReceiptReason

/-- What the caller hands in as the artifact that was submitted. -/
inductive ExpectedArtifact where
  /-- A copy of the receipt's own. -/
  | own
  | given (v : Value)

/-- What a receipt is compared with. -/
structure Expected where
  hotkey : Value
  mission : Value
  nonce : Value
  artifact : ExpectedArtifact

/-- The signature is that of the key in the receipt over its body. -/
def Receipt.signed (C : Crypto) (r : Receipt) : Bool :=
  match r.agentPubkey, r.sig with
  | .str publicKey, .str signature =>
    match Hex.decode publicKey, Hex.decode signature with
    | some publicKey, some signature => C.ed25519 publicKey signature (C.message r.body)
    | _, _ => false
  | _, _ => false

/-- Every step carries the hash of the one before it, the first one `prev`. -/
def linked (C : Crypto) : PyStr → List Step → Bool
  | _, [] => true
  | prev, s :: rest => decide (s.prevHash = .str prev) && linked C (C.digest s.asDict) rest

def Receipt.chainIntact (C : Crypto) (r : Receipt) : Bool :=
  linked C genesis r.steps && !r.steps.isEmpty

def Receipt.headMatches (C : Crypto) (r : Receipt) : Bool :=
  decide (r.head = .str (headOf C r.steps))

/-- `r.artifact.get(name) == expected_artifact.get(name)`. A value compared with itself is
different only when it is no number. -/
def ExpectedArtifact.agrees (expected : ExpectedArtifact) (artifact : Members) (name : String) :
    Option Bool :=
  match expected with
  | .own => some (decide (get artifact name ≠ some (.num (.float .nan))))
  | .given (.obj members) => some (PyJson.pyEqGet (get artifact name) (get members name))
  | .given _ => none

/-- `head_binds_artifact`; `none` where an artifact is no dictionary. -/
def Receipt.binds (C : Crypto) (r : Receipt) (expected : Expected) : Option Bool :=
  if r.headMatches C then
    match r.artifact with
    | .obj artifact => do
      let challenge ← expected.artifact.agrees artifact "challenge_id"
      let formula ← expected.artifact.agrees artifact "cnf_sha256"
      some (challenge && formula && PyJson.pyEq r.minerHotkey expected.hotkey &&
        PyJson.pyEq r.missionId expected.mission && PyJson.pyEq r.nonce expected.nonce)
    | _ => none
  else some false

/-- `_h(r.body()) + r.sig`; `none` where the signature is no text. -/
def Receipt.id (C : Crypto) (r : Receipt) : Option PyStr :=
  match r.sig with
  | .str sig => some (C.digest r.body ++ sig)
  | _ => none

/-- `bool(r.attestation and r.attestation.get("valid"))`; `none` where it raises. -/
def Receipt.attestedClaim (r : Receipt) : Option Bool :=
  match r.attestation with
  | .obj members => some (PyJson.truthy ((get members "valid").getD .null))
  | v => if PyJson.truthy v then none else some false

/-- The grade of a receipt that is intact or not. -/
def gradeOf (ok replayOk attested attestationRequired : Bool) : Grade :=
  if ok && replayOk && (attested || !attestationRequired) && attested then .a
  else if ok && replayOk && !attestationRequired then .b
  else if ok && replayOk then .bMinus
  else if ok then .c
  else .f

/-- `verify_receipt`; `none` where it raises. -/
def verifyReceipt (C : Crypto) (r : Receipt) (expected : Expected)
    (replayOk attestationRequired : Bool) (seen : List PyStr) : Option ProvenanceVerdict := do
  let binds ← r.binds C expected
  let rid ← r.id C
  let attested ← r.attestedClaim
  let fresh := decide (rid ∉ seen)
  let ok := r.signed C && r.chainIntact C && binds && fresh
  some {
    signatureOk := r.signed C
    chainIntact := r.chainIntact C
    headBindsArtifact := binds
    replayOk := replayOk
    attested := attested
    notReplayedReceipt := fresh
    grade := gradeOf ok replayOk attested attestationRequired
    reasons :=
      (if r.signed C then [] else [.agentSignatureInvalid]) ++
      (if r.chainIntact C then [] else [.provenanceChainBroken]) ++
      (if r.headMatches C then [] else [.headHashMismatch]) ++
      (if binds then [] else [.receiptDoesNotBindSubmission]) ++
      (if fresh then [] else [.receiptReplayed]) ++
      (if attestationRequired && !attested then [.attestationMissingOrInvalid] else []) }

def ProvenanceVerdict.ok (v : ProvenanceVerdict) : Bool :=
  v.signatureOk && v.chainIntact && v.headBindsArtifact && v.notReplayedReceipt

section Verdicts

variable {C : Crypto} {r : Receipt} {expected : Expected} {replayOk required : Bool}
  {seen : List PyStr} {v : ProvenanceVerdict}

/-- What a verdict says, field by field. -/
structure IsVerdict (C : Crypto) (r : Receipt) (expected : Expected) (replayOk required : Bool)
    (seen : List PyStr) (v : ProvenanceVerdict) : Prop where
  signed : v.signatureOk = r.signed C
  chain : v.chainIntact = r.chainIntact C
  binds : r.binds C expected = some v.headBindsArtifact
  attested : r.attestedClaim = some v.attested
  fresh : ∃ rid, r.id C = some rid ∧ (v.notReplayedReceipt = true ↔ rid ∉ seen)
  grade : v.grade = gradeOf v.ok replayOk v.attested required

theorem isVerdict_of_verifyReceipt
    (h : verifyReceipt C r expected replayOk required seen = some v) :
    IsVerdict C r expected replayOk required seen v := by
  simp only [verifyReceipt, Option.bind_eq_bind, Option.bind_eq_some_iff] at h
  obtain ⟨binds, hbinds, rid, hrid, attested, hattested, h⟩ := h
  cases h
  exact ⟨rfl, rfl, hbinds, hattested, ⟨rid, hrid, by simp⟩, rfl⟩

/-- The best grade is for a receipt that is intact, replayed, and says of itself that it is
attested. -/
theorem gradeOf_eq_a {ok attested : Bool} :
    gradeOf ok replayOk attested required = .a ↔
      ok = true ∧ replayOk = true ∧ attested = true := by
  cases ok <;> cases replayOk <;> cases attested <;> cases required <;> decide

/-- What a receipt that binds its submission agrees with. -/
theorem binds_eq_true (h : r.binds C expected = some true) :
    r.headMatches C = true ∧ ∃ artifact, r.artifact = .obj artifact ∧
      expected.artifact.agrees artifact "challenge_id" = some true ∧
      expected.artifact.agrees artifact "cnf_sha256" = some true ∧
      PyJson.pyEq r.minerHotkey expected.hotkey = true ∧
      PyJson.pyEq r.missionId expected.mission = true ∧
      PyJson.pyEq r.nonce expected.nonce = true := by
  unfold Receipt.binds at h
  cases hhead : r.headMatches C with
  | false =>
    rw [hhead, if_neg (by simp), Option.some.injEq] at h
    cases h
  | true =>
    rw [hhead, if_pos rfl] at h
    refine ⟨rfl, ?_⟩
    split at h
    · rename_i artifact hartifact
      simp only [Option.bind_eq_bind, Option.bind_eq_some_iff, Option.some.injEq,
        Bool.and_eq_true] at h
      obtain ⟨challenge, hchallenge, formula, hformula, hall, hnonce⟩ := h
      obtain ⟨⟨⟨rfl, rfl⟩, hhotkey⟩, hmission⟩ := hall
      exact ⟨artifact, hartifact, hchallenge, hformula, hhotkey, hmission, hnonce⟩
    · cases h

end Verdicts

/-! ## What is built is accepted -/

section Built

variable {C : Crypto} (key : SigningKey C)

theorem linked_chainFrom (i : ℕ) (prev : PyStr) (raw : List RawStep) :
    linked C prev (chainFrom C i prev raw) = true := by
  induction raw generalizing i prev with
  | nil => rfl
  | cons s raw ih =>
    rw [chainFrom, linked, ih, Bool.and_true, decide_eq_true_eq]
    rfl

theorem chainSteps_ne_nil {raw : List RawStep} (h : raw ≠ []) : chainSteps C raw ≠ [] := by
  cases raw with
  | nil => exact absurd rfl h
  | cons s raw => exact List.cons_ne_nil _ _

variable {agentId minerHotkey missionId nonce environment : PyStr} {raw : List RawStep}
  {artifact : Members} {attestation : Value}

/-- A receipt that an agent builds is signed by its key. -/
theorem signed_buildReceipt : (buildReceipt C key agentId minerHotkey missionId nonce environment
    raw artifact attestation).signed C = true := by
  rw [Receipt.signed]
  simp only [buildReceipt, Hex.decode_encode]
  exact key.verifies _

theorem chainIntact_buildReceipt (h : raw ≠ []) : (buildReceipt C key agentId minerHotkey missionId
    nonce environment raw artifact attestation).chainIntact C = true := by
  rw [Receipt.chainIntact, Bool.and_eq_true, Bool.not_eq_true', List.isEmpty_eq_false_iff]
  exact ⟨linked_chainFrom 0 genesis raw, chainSteps_ne_nil h⟩

theorem headMatches_buildReceipt : (buildReceipt C key agentId minerHotkey missionId nonce
    environment raw artifact attestation).headMatches C = true := by
  rw [Receipt.headMatches, decide_eq_true_eq]
  rfl

/-- A receipt of at least one step is accepted by a caller that expects what it was built of. -/
theorem verifyReceipt_buildReceipt (hraw : raw ≠ []) {replayOk required : Bool} {claim : Bool}
    {expected : ExpectedArtifact} (hclaim : (buildReceipt C key agentId minerHotkey missionId nonce
      environment raw artifact attestation).attestedClaim = some claim)
    (hchallenge : expected.agrees artifact "challenge_id" = some true)
    (hformula : expected.agrees artifact "cnf_sha256" = some true) :
    ∃ v, verifyReceipt C (buildReceipt C key agentId minerHotkey missionId nonce environment raw
        artifact attestation) ⟨.str minerHotkey, .str missionId, .str nonce, expected⟩ replayOk
        required [] = some v ∧ v.ok = true ∧ v.attested = claim ∧ v.reasons =
          if required && !claim then [.attestationMissingOrInvalid] else [] := by
  have hbinds : (buildReceipt C key agentId minerHotkey missionId nonce environment raw
      artifact attestation).binds C ⟨.str minerHotkey, .str missionId, .str nonce, expected⟩ =
        some true := by
    rw [Receipt.binds, headMatches_buildReceipt, if_pos rfl]
    simp only [buildReceipt, hchallenge, hformula, Option.bind_eq_bind, Option.bind_some,
      PyJson.pyEq_str.mpr, Bool.and_self]
  have hid : ∃ rid, (buildReceipt C key agentId minerHotkey missionId nonce environment raw
      artifact attestation).id C = some rid := ⟨_, rfl⟩
  obtain ⟨rid, hrid⟩ := hid
  refine ⟨_, by rw [verifyReceipt, hbinds, hrid, hclaim]; rfl, ?_, rfl, ?_⟩
  · simp [ProvenanceVerdict.ok, signed_buildReceipt, chainIntact_buildReceipt key hraw]
  · simp [signed_buildReceipt, chainIntact_buildReceipt key hraw, headMatches_buildReceipt]

end Built

end Cathedral.Arena
