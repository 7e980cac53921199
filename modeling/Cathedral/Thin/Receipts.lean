import Cathedral.Lib.JsonSize
import Cathedral.Lib.PyRepr
import Cathedral.Thin.Canonical
import Cathedral.Thin.Reports

/-!
# Cathedral.Thin.Receipts — inference receipts

`verify_receipt` of `cathedral_thin/ml_receipts.py`. A receipt is a canonical document
that a miner signs; it may carry a validator's signature over the request, and a quote
whose verifier binds the request and its result.

The sr25519 check, the hash and the verifier of quotes are parameters.
-/

namespace Cathedral.Thin

/-- What receipts take from the interpreter and the wallet library, besides what all
documents take. -/
structure ReceiptPlatform extends Platform where
  /-- `str.isprintable` of one code point. -/
  printable : CodePoint → Bool
  /-- `Keypair(ss58_address=hotkey).verify(message, signature)`, `none` where it raises. -/
  sr25519 : String → Bytes → Bytes → Option Bool

/-! ## Digests of documents -/

def receiptSchema : String := "cathedral_ml_inference_receipt_v1"

def receiptDomain : Bytes := domainBytes "cathedral-ml-inference-receipt-v1"

def receiptIdDomain : Bytes := domainBytes "cathedral-ml-inference-receipt-id-v1"

def requestDomain : Bytes := domainBytes "cathedral-ml-request-v1"

def requestAuthorizationDomain : Bytes := domainBytes "cathedral-ml-request-authorization-v1"

def inputCommitmentDomain : Bytes := domainBytes "cathedral-ml-input-v1"

def parametersCommitmentDomain : Bytes := domainBytes "cathedral-ml-parameters-v1"

def outputCommitmentDomain : Bytes := domainBytes "cathedral-ml-output-v1"

def identityBindingDomain : Bytes := domainBytes "cathedral-ml-identity-binding-v1"

def executionBindingDomain : Bytes := domainBytes "cathedral-ml-execution-binding-v1"

def maxReceiptBytes : ℕ := 262144

def maxAttestationBytes : ℕ := 1048576

def maxModelIdBytes : ℕ := 256

def maxKeyBytes : ℕ := 128

def maxWorkUnitsPerReceipt : ℚ := 1000000000000

def receiptKeys : List String :=
  ["attestation", "completed_at", "issued_at", "miner_hotkey", "model", "netuid", "network",
    "nonce_base64", "receipt_id", "request", "request_authorization", "request_id", "result",
    "runtime", "schema", "signature", "source_epoch", "valid_from_block", "valid_until_block",
    "validator_hotkey"]

def modelKeys : List String := ["model_id", "tokenizer_digest", "weights_digest"]

def runtimeKeys : List String := ["image_digest", "runner_digest"]

def requestKeys : List String := ["input_commitment", "parameters_commitment"]

def resultKeys : List String :=
  ["input_tokens", "latency_ms", "output_commitment", "output_tokens", "work_units"]

def attestationKeys : List String :=
  ["evidence_digest", "evidence_uri", "kind", "policy_digest", "report_data_hex"]

/-- The keys that `_request_authorization_body` selects. -/
def authorizationKeys : List String :=
  ["network", "netuid", "source_epoch", "request_id", "validator_hotkey", "miner_hotkey",
    "nonce_base64", "issued_at", "valid_from_block", "valid_until_block", "model", "runtime",
    "request"]

/-- The keys of the identity that `expected_report_data` binds. -/
def identityKeys : List String :=
  ["network", "netuid", "source_epoch", "request_id", "validator_hotkey", "miner_hotkey",
    "nonce_base64", "issued_at", "completed_at", "valid_from_block", "valid_until_block"]

/-- The keys of the execution that `expected_report_data` binds. -/
def executionKeys : List String := ["request_id", "model", "runtime", "request", "result"]

/-- `sha256(domain + canonical_json(body))`. -/
def digestOf (platform : Platform) (domain : Bytes) (body : Fields) : Except Exc Sha256 := do
  let bytes ← canonicalJson platform (.obj body)
  pure (platform.sha256 (domain ++ bytes))

/-- The `n` lowest bytes of a number, the highest first. -/
def bigEndian (n value : ℕ) : Bytes :=
  (List.range n).reverse.map fun i => UInt8.ofNat (value / 256 ^ i)

/-- `commit_payload` for the domain of a kind. -/
def commitPayload (platform : Platform) (domain payload : Bytes) : String :=
  (platform.sha256 (domain ++ (bigEndian 8 payload.length ++ payload))).tagged

/-- The bytes that two digits each stand for. -/
def hexPairs : List Char → Bytes
  | a :: b :: rest =>
    UInt8.ofNat (16 * (Json.hexValue? a).getD 0 + (Json.hexValue? b).getD 0) :: hexPairs rest
  | _ => []

/-- What a quote has to bind: the digests of identity and execution. -/
structure ReportData where
  identity : Sha256
  execution : Sha256

/-- The 64 bytes of a report. -/
def ReportData.bytes (data : ReportData) : Bytes :=
  hexPairs data.identity.hex.toList ++ hexPairs data.execution.hex.toList

def ReportData.hex (data : ReportData) : String := data.identity.hex ++ data.execution.hex

def expectedReportData (platform : Platform) (fields : Fields) : Except Exc ReportData := do
  let identity ← digestOf platform identityBindingDomain (fields.pick identityKeys)
  let execution ← digestOf platform executionBindingDomain (fields.pick executionKeys)
  pure { identity := identity, execution := execution }

/-- The fields that name a request. -/
structure Request where
  network : String
  netuid : ℤ
  sourceEpoch : ℤ
  validatorHotkey : String
  minerHotkey : String
  nonce : Bytes
  inputCommitment : String
  parametersCommitment : String

/-- The document whose digest is the id of a request. -/
def Request.body (request : Request) : Fields :=
  .ofList
    [("network", strConst request.network),
      ("netuid", .num request.netuid),
      ("source_epoch", .num request.sourceEpoch),
      ("validator_hotkey", strConst request.validatorHotkey),
      ("miner_hotkey", strConst request.minerHotkey),
      ("nonce_base64", strConst (String.ofList (Base64.encode request.nonce))),
      ("input_commitment", strConst request.inputCommitment),
      ("parameters_commitment", strConst request.parametersCommitment)]

def requestIdFor (platform : Platform) (request : Request) : Except Exc String := do
  let digest ← digestOf platform requestDomain request.body
  pure digest.tagged

def receiptIdFor (platform : Platform) (fields : Fields) : Except Exc String := do
  let digest ← digestOf platform receiptIdDomain (fields.without ["receipt_id", "signature"])
  pure digest.tagged

/-! ## Policies and verifiers -/

/-- A frozen set is the list of its elements. -/
structure ReceiptPolicy where
  network : String
  netuid : ℤ
  currentBlock : ℤ
  maxAgeSeconds : ℤ := 3600
  maxFutureSeconds : ℤ := 30
  maxBlockSpan : ℤ := 7200
  requireAttestation : Bool := true
  expectedValidatorHotkey : Option String := none
  allowedModelDigests : List String := []
  allowedImageDigests : List String := []
  allowedRunnerDigests : List String := []
  allowedAttestationPolicyDigests : List String := []
  allowedVerifierDigests : List String := []

/-- None of the five allowed sets is empty. -/
def ReceiptPolicy.PinsDigests (policy : ReceiptPolicy) : Prop :=
  policy.allowedModelDigests ≠ [] ∧ policy.allowedImageDigests ≠ [] ∧
    policy.allowedRunnerDigests ≠ [] ∧ policy.allowedAttestationPolicyDigests ≠ [] ∧
    policy.allowedVerifierDigests ≠ []

instance (policy : ReceiptPolicy) : Decidable policy.PinsDigests :=
  inferInstanceAs (Decidable (_ ∧ _))

structure AttestationVerification where
  ok : Bool
  verifierDigest : String
  measurementDigest : Option String
  reason : String

/-- A verifier is given the evidence, the report data and the policy digest. -/
abbrev AttestationVerifier : Type := Bytes → Bytes → String → Except Exc AttestationVerification

structure VerifiedReceipt where
  receiptId : String
  requestId : String
  sourceEpoch : ℤ
  minerHotkey : String
  validatorHotkey : String
  weightsDigest : String
  imageDigest : String
  runnerDigest : String
  completedAt : UtcTime
  workUnits : ℚ
  inputTokens : ℤ
  outputTokens : ℤ
  attestationVerified : Bool
  verifierDigest : Option String
  measurementDigest : Option String
  document : Fields
deriving DecidableEq

/-- Payloads that are compared with their commitments. -/
structure Reveals where
  input : Option Bytes := none
  parameters : Option Bytes := none
  output : Option Bytes := none

/-- What `verify_receipt` is told besides the bytes. -/
structure ReceiptContext where
  policy : ReceiptPolicy
  now : UtcTime
  reveals : Reveals := {}
  evidence : Option Bytes := none
  verifier : Option AttestationVerifier := none

def isDigest (text : List Char) : Bool := isTagged "sha256" text

def digest (value : Document) (label : String) : Except Exc String :=
  matching isDigest value ("invalid " ++ label)

/-- `_digest` of a text. -/
def digestText (text : String) (label : String) : Except Exc String :=
  digest (strConst text) label

/-- A digest, where there is one. -/
def checkOptionalDigest (value : Document) (label : String) : Except Exc Unit :=
  match value with
  | .null => pure ()
  | value => do
    let _ ← digest value label
    pure ()

/-- `_bounded_string` with its default bound. -/
def boundedKey (value : Document) (label : String) : Except Exc String :=
  boundedString value maxKeyBytes ("invalid " ++ label)

/-- `_nonnegative_int`. -/
def nonnegative (value : Document) (label : String) : Except Exc ℤ :=
  nonnegativeInt value ("invalid " ++ label)

/-- `_decimal`. -/
def receiptDecimal (value : Document) (label : String) : Except Exc ℚ :=
  decimal value (label ++ " must be a canonical non-negative decimal")

/-- Every digest of an allowed set is one. -/
def checkDigests (values : List String) (label : String) : Except Exc Unit :=
  refuse (¬ ∀ value ∈ values, isDigest value.toList = true) ("invalid " ++ label)

def validatePolicy (policy : ReceiptPolicy) : Except Exc Unit := do
  refuse (policy.netuid < 0 ∨ policy.currentBlock < 0)
    "receipt policy network, netuid, or block is invalid"
  refuse (policy.maxAgeSeconds ≤ 0) "receipt policy max_age_seconds must be positive"
  refuse (policy.maxFutureSeconds ≤ 0) "receipt policy max_future_seconds must be positive"
  refuse (policy.maxBlockSpan ≤ 0) "receipt policy max_block_span must be positive"
  checkDigests policy.allowedModelDigests "allowed model digest"
  checkDigests policy.allowedImageDigests "allowed image digest"
  checkDigests policy.allowedRunnerDigests "allowed runner digest"
  checkDigests policy.allowedAttestationPolicyDigests "allowed attestation policy digest"
  checkDigests policy.allowedVerifierDigests "allowed verifier digest"
  refuse (policy.requireAttestation = true ∧ ¬ policy.PinsDigests)
    ("attested receipt policy must separately pin model, image, runner, attestation policy, " ++
      "and verifier digests")
  refuse (policy.requireAttestation = true ∧ policy.expectedValidatorHotkey = none)
    "attested receipt policy must pin the request-authorizing validator hotkey"

/-! ## The stages of `verify_receipt` -/

/-- The document of a receipt, before any of its fields is used. -/
def openReceipt (platform : Platform) (policy : ReceiptPolicy) (raw : Bytes) :
    Except Exc Fields := do
  validatePolicy policy
  let fields ← parseStrictJson platform (stripNewline raw) maxReceiptBytes
  let canonical ← canonicalJson platform (.obj fields)
  refuse (stripNewline raw ≠ canonical) "ML inference receipt JSON must be canonical"
  requireExactKeys fields receiptKeys "ML inference receipt"
  refuse (fields.get "schema" ≠ strConst receiptSchema) "unsupported ML inference receipt schema"
  pure fields

structure ReceiptScope where
  netuid : ℤ
  sourceEpoch : ℤ
  requestId : String
deriving DecidableEq

/-- The chain, the epoch and the request that a receipt names. -/
def receiptScope (policy : ReceiptPolicy) (fields : Fields) (network : String) :
    Except Exc ReceiptScope := do
  let netuid ← nonnegative (fields.get "netuid") "receipt netuid"
  let sourceEpoch ← nonnegative (fields.get "source_epoch") "receipt source_epoch"
  refuse (network ≠ policy.network ∨ netuid ≠ policy.netuid) "receipt network or netuid mismatch"
  let requestId ← digest (fields.get "request_id") "request id"
  pure { netuid := netuid, sourceEpoch := sourceEpoch, requestId := requestId }

def receiptWindow (policy : ReceiptPolicy) (fields : Fields) : Except Exc Unit := do
  let firstBlock ← nonnegative (fields.get "valid_from_block") "valid_from_block"
  let lastBlock ← nonnegative (fields.get "valid_until_block") "valid_until_block"
  refuse (policy.currentBlock < firstBlock ∨ lastBlock ≤ policy.currentBlock)
    "receipt is outside its authorized block window"
  refuse (lastBlock ≤ firstBlock ∨ policy.maxBlockSpan < lastBlock - firstBlock)
    "receipt block window is invalid or too wide"

/-- The times of a receipt; the result is when it was completed. -/
def receiptTimes (policy : ReceiptPolicy) (now : UtcTime) (fields : Fields) :
    Except Exc UtcTime := do
  let issuedAt ← parseTime (fields.get "issued_at") "receipt issued_at"
  let completedAt ← parseTime (fields.get "completed_at") "receipt completed_at"
  let age := now.micros - completedAt.micros
  refuse (age < -policy.maxFutureSeconds * 1000000 ∨ policy.maxAgeSeconds * 1000000 < age)
    "receipt is stale or future-dated"
  refuse (completedAt.micros < issuedAt.micros) "receipt completed_at precedes issued_at"
  pure completedAt

/-- One of the objects inside a receipt. -/
def receiptPart (fields : Fields) (name : String) (keys : List String) : Except Exc Fields := do
  let part ← object (fields.get name) ("receipt " ++ name ++ " must be an object")
  requireExactKeys part keys ("receipt " ++ name)
  pure part

structure ReceiptHead where
  nonce : Bytes
  completedAt : UtcTime
  model : Fields
  runtime : Fields
  request : Fields
  result : Fields
  attestation : Fields
deriving DecidableEq

/-- From the nonce of a receipt to the objects inside it. -/
def receiptHead (policy : ReceiptPolicy) (now : UtcTime) (fields : Fields)
    (validatorHotkey : String) : Except Exc ReceiptHead := do
  let nonce ← base64Bytes (fields.get "nonce_base64") 32 "nonce must be canonical base64"
    "nonce must contain exactly 32 bytes"
  refuse (∃ expected ∈ policy.expectedValidatorHotkey, validatorHotkey ≠ expected)
    "receipt validator hotkey mismatch"
  receiptWindow policy fields
  let completedAt ← receiptTimes policy now fields
  let model ← receiptPart fields "model" modelKeys
  let runtime ← receiptPart fields "runtime" runtimeKeys
  let request ← receiptPart fields "request" requestKeys
  let result ← receiptPart fields "result" resultKeys
  let attestation ← receiptPart fields "attestation" attestationKeys
  pure
    { nonce := nonce
      completedAt := completedAt
      model := model
      runtime := runtime
      request := request
      result := result
      attestation := attestation }

structure ReceiptWork where
  weightsDigest : String
  imageDigest : String
  runnerDigest : String
  inputCommitment : String
  parametersCommitment : String
  outputCommitment : String
  inputTokens : ℤ
  outputTokens : ℤ
  workUnits : ℚ
deriving DecidableEq

/-- The digests and the counts of a receipt. -/
def receiptWork (head : ReceiptHead) : Except Exc ReceiptWork := do
  let weightsDigest ← digest (head.model.get "weights_digest") "model weights digest"
  checkOptionalDigest (head.model.get "tokenizer_digest") "tokenizer digest"
  let imageDigest ← digest (head.runtime.get "image_digest") "runtime image digest"
  let runnerDigest ← digest (head.runtime.get "runner_digest") "runner digest"
  let inputCommitment ← digest (head.request.get "input_commitment") "input commitment"
  let parametersCommitment ← digest (head.request.get "parameters_commitment")
    "parameters commitment"
  let outputCommitment ← digest (head.result.get "output_commitment") "output commitment"
  let inputTokens ← nonnegative (head.result.get "input_tokens") "input_tokens"
  let outputTokens ← nonnegative (head.result.get "output_tokens") "output_tokens"
  let _ ← receiptDecimal (head.result.get "latency_ms") "latency_ms"
  let workUnits ← receiptDecimal (head.result.get "work_units") "work_units"
  refuse (maxWorkUnitsPerReceipt < workUnits) "receipt work_units exceeds protocol limit"
  pure
    { weightsDigest := weightsDigest
      imageDigest := imageDigest
      runnerDigest := runnerDigest
      inputCommitment := inputCommitment
      parametersCommitment := parametersCommitment
      outputCommitment := outputCommitment
      inputTokens := inputTokens
      outputTokens := outputTokens
      workUnits := workUnits }

/-- The texts with which the two signatures of a receipt are refused. -/
structure SignatureTexts where
  notObject : String
  fields : String
  algorithm : String
  malformed : String
  wrongLength : String
  invalidHotkey : String
  failed : String

/-- A signature object over a domain and a body. -/
def checkSr25519 (platform : ReceiptPlatform) (texts : SignatureTexts) (value : Document)
    (hotkey : String) (domain : Bytes) (body : Fields) : Except Exc Unit := do
  let signature ← object value texts.notObject
  requireExactKeys signature signatureKeys texts.fields
  refuse (signature.get "algorithm" ≠ strConst "sr25519") texts.algorithm
  let bytes ← base64Bytes (signature.get "value_base64") 64 texts.malformed texts.wrongLength
  match canonicalJson platform.toPlatform (.obj body) with
  | .error _ => fail texts.invalidHotkey
  | .ok message =>
    match platform.sr25519 hotkey (domain ++ message) bytes with
    | none => fail texts.invalidHotkey
    | some valid => refuse (valid = false) texts.failed

def authorizationTexts : SignatureTexts where
  notObject := "receipt request authorization must be an object"
  fields := "receipt request authorization"
  algorithm := "unsupported request authorization algorithm"
  malformed := "request authorization signature is not canonical base64"
  wrongLength := "request authorization signature must be 64 bytes"
  invalidHotkey := "receipt validator hotkey is invalid"
  failed := "request authorization signature verification failed"

def verifyRequestAuthorization (platform : ReceiptPlatform) (fields : Fields)
    (validatorHotkey : String) : Except Exc Bool :=
  match fields.get "request_authorization" with
  | .null => pure false
  | value => do
    checkSr25519 platform authorizationTexts value validatorHotkey requestAuthorizationDomain
      (fields.pick authorizationKeys)
    pure true

def receiptTexts : SignatureTexts where
  notObject := "receipt signature must be an object"
  fields := "receipt signature"
  algorithm := "unsupported receipt signature algorithm"
  malformed := "receipt signature is not canonical base64"
  wrongLength := "receipt signature must be 64 bytes"
  invalidHotkey := "receipt miner hotkey is invalid"
  failed := "receipt signature verification failed"

/-- A commitment equals that of its payload, where one is revealed. -/
def checkReveal (platform : Platform) (domain : Bytes) (reveal : Option Bytes)
    (commitment message : String) : Except Exc Unit :=
  refuse (∃ payload ∈ reveal, commitment ≠ commitPayload platform domain payload) message

/-- A digest is in an allowed set, unless that is empty. -/
def checkAllowed (allowed : List String) (value message : String) : Except Exc Unit :=
  refuse (allowed ≠ [] ∧ value ∉ allowed) message

/-- Whether the request is authorized: its id, the validator's signature and the reveals. -/
def receiptAuthorized (platform : ReceiptPlatform) (context : ReceiptContext) (fields : Fields)
    (request : Request) (requestId outputCommitment : String) : Except Exc Bool := do
  let recomputed ← requestIdFor platform.toPlatform request
  refuse (requestId ≠ recomputed) "receipt request id does not match its bound request"
  let authorized ← verifyRequestAuthorization platform fields request.validatorHotkey
  checkReveal platform.toPlatform inputCommitmentDomain context.reveals.input
    request.inputCommitment "input reveal does not match receipt commitment"
  checkReveal platform.toPlatform parametersCommitmentDomain context.reveals.parameters
    request.parametersCommitment "parameters reveal does not match receipt commitment"
  checkReveal platform.toPlatform outputCommitmentDomain context.reveals.output
    outputCommitment "output reveal does not match receipt commitment"
  pure authorized

/-- The allowed sets, the id of a receipt and the miner's signature. -/
def receiptSigned (platform : ReceiptPlatform) (policy : ReceiptPolicy) (fields : Fields)
    (minerHotkey : String) (work : ReceiptWork) : Except Exc String := do
  checkAllowed policy.allowedModelDigests work.weightsDigest
    "model weights digest is not allowed by validator policy"
  checkAllowed policy.allowedImageDigests work.imageDigest
    "runtime image digest is not allowed by validator policy"
  checkAllowed policy.allowedRunnerDigests work.runnerDigest
    "runner digest is not allowed by validator policy"
  let receiptId ← digest (fields.get "receipt_id") "receipt id"
  let expected ← receiptIdFor platform.toPlatform fields
  refuse (receiptId ≠ expected) "receipt id does not match its canonical body"
  checkSr25519 platform receiptTexts (fields.get "signature") minerHotkey receiptDomain
    (fields.without ["signature"])
  pure receiptId

/-! ## Attestation -/

/-- What the attestation of a receipt comes to. -/
structure Attested where
  verified : Bool := false
  verifierDigest : Option String := none
  measurementDigest : Option String := none
deriving DecidableEq

/-- `[0-9a-f]{128}`. -/
def isReportData (text : List Char) : Bool := text.length == 128 && text.all isLowerHex

/-- HTTPS or IPFS, without credentials, query or fragment. -/
def checkEvidenceUri (platform : Platform) (value : Document) : Except Exc Unit :=
  match value with
  | .null => pure ()
  | value => do
    let uri ← boundedString value 2048 "invalid attestation evidence URI"
    let url ← splitUrl platform uri
    refuse (¬ CredentialFree url ∨ url.query ≠ [])
      "attestation evidence URI must be credential-free HTTPS or IPFS"

/-- Evidence that is supplied is bounded and has the committed digest. -/
def checkEvidence (platform : Platform) (evidence : Option Bytes) (committed : String) :
    Except Exc Unit :=
  match evidence with
  | none => pure ()
  | some bytes => do
    refuse (bytes = []) "attestation evidence must not be empty"
    refuse (maxAttestationBytes < bytes.length) "attestation evidence exceeds size limit"
    refuse ((platform.sha256 bytes).tagged ≠ committed) "attestation evidence digest mismatch"

/-- The answer of a verifier, whose unexpected errors are isolated. -/
def askVerifier (verifier : AttestationVerifier) (evidence reportData : Bytes)
    (policyDigest : String) : Except Exc AttestationVerification :=
  match verifier evidence reportData policyDigest with
  | .error (.other _ _) => fail "attestation verifier raised an unexpected error"
  | answer => answer

/-- An answer counts if it is positive, from an allowed verifier. -/
def acceptVerification (policy : ReceiptPolicy) (verification : AttestationVerification) :
    Except Exc Attested := do
  let verifierDigest ← digestText verification.verifierDigest "attestation verifier digest"
  refuse (verification.ok = false) ("attestation verification failed: " ++
    String.ofList (verification.reason.toList.take 160))
  checkAllowed policy.allowedVerifierDigests verifierDigest
    "attestation verifier digest is not allowed by validator policy"
  checkOptionalDigest (verification.measurementDigest.elim .null strConst)
    "attestation measurement digest"
  pure
    { verified := true
      verifierDigest := some verifierDigest
      measurementDigest := verification.measurementDigest }

/-- A receipt of kind `none` carries nothing else. -/
def attestNone (context : ReceiptContext) (attestation : Fields) : Except Exc Attested := do
  refuse (∃ name ∈ ["evidence_digest", "evidence_uri", "policy_digest", "report_data_hex"],
    attestation.get name ≠ .null) "unattested receipt must omit attestation fields"
  refuse (context.evidence ≠ none ∨ context.verifier.isSome = true)
    "unattested receipt cannot carry verifier evidence"
  pure {}

/-- What a receipt of kind `tdx` needs before its evidence; the result is its digest. -/
def attestRoots (policy : ReceiptPolicy) (attestation : Fields) (authorized : Bool) :
    Except Exc String := do
  refuse (authorized = false)
    "attested receipt requires a validator-signed request authorization"
  refuse (¬ policy.PinsDigests)
    "attestation verification requires every validator trust root to be pinned"
  digest (attestation.get "evidence_digest") "attestation evidence digest"

/-- The policy digest and the report data of an attestation, and the data it has to bind. -/
def attestBinding (platform : Platform) (policy : ReceiptPolicy) (fields attestation : Fields) :
    Except Exc (String × ReportData) := do
  let policyDigest ← digest (attestation.get "policy_digest") "attestation policy digest"
  let reportDataHex ← matching isReportData (attestation.get "report_data_hex")
    "attestation report data must be 64-byte lowercase hex"
  let expected ← expectedReportData platform fields
  refuse (reportDataHex ≠ expected.hex) "attestation report data binding mismatch"
  checkAllowed policy.allowedAttestationPolicyDigests policyDigest
    "attestation policy digest is not allowed by validator policy"
  pure (policyDigest, expected)

/-- The evidence of an attestation and the answer of its verifier. -/
def attestEvidence (platform : Platform) (context : ReceiptContext) (fields attestation : Fields)
    (evidenceDigest : String) : Except Exc Attested := do
  let (policyDigest, expected) ← attestBinding platform context.policy fields attestation
  checkEvidence platform context.evidence evidenceDigest
  match context.verifier with
  | none => pure {}
  | some verifier =>
    match context.evidence with
    | none => fail "attestation verifier requires evidence bytes"
    | some evidence => do
      let verification ← askVerifier verifier evidence expected.bytes policyDigest
      acceptVerification context.policy verification

def attestTdx (platform : Platform) (context : ReceiptContext) (fields attestation : Fields)
    (authorized : Bool) : Except Exc Attested := do
  let evidenceDigest ← attestRoots context.policy attestation authorized
  checkEvidenceUri platform (attestation.get "evidence_uri")
  attestEvidence platform context fields attestation evidenceDigest

def attest (platform : Platform) (context : ReceiptContext) (fields attestation : Fields)
    (authorized : Bool) : Except Exc Attested :=
  if attestation.get "kind" = strConst "none" then attestNone context attestation
  else if attestation.get "kind" = strConst "tdx" then
    attestTdx platform context fields attestation authorized
  else fail "attestation kind must be none or tdx"

/-! ## Verification -/

/-- What a receipt is, once its model id has been read. -/
structure ReceiptCore where
  work : ReceiptWork
  authorized : Bool
  receiptId : String
deriving DecidableEq

/-- From the digests of a receipt to the miner's signature. -/
def receiptCore (platform : ReceiptPlatform) (context : ReceiptContext) (fields : Fields)
    (network : String) (scope : ReceiptScope) (validatorHotkey minerHotkey : String)
    (head : ReceiptHead) : Except Exc ReceiptCore := do
  let work ← receiptWork head
  let request : Request :=
    { network := network
      netuid := scope.netuid
      sourceEpoch := scope.sourceEpoch
      validatorHotkey := validatorHotkey
      minerHotkey := minerHotkey
      nonce := head.nonce
      inputCommitment := work.inputCommitment
      parametersCommitment := work.parametersCommitment }
  let authorized ← receiptAuthorized platform context fields request scope.requestId
    work.outputCommitment
  let receiptId ← receiptSigned platform context.policy fields minerHotkey work
  pure { work := work, authorized := authorized, receiptId := receiptId }

/-- What `verify_receipt` returns. -/
def receiptRecord (fields : Fields) (scope : ReceiptScope) (validatorHotkey minerHotkey : String)
    (head : ReceiptHead) (core : ReceiptCore) (attested : Attested) : VerifiedReceipt where
  receiptId := core.receiptId
  requestId := scope.requestId
  sourceEpoch := scope.sourceEpoch
  minerHotkey := minerHotkey
  validatorHotkey := validatorHotkey
  weightsDigest := core.work.weightsDigest
  imageDigest := core.work.imageDigest
  runnerDigest := core.work.runnerDigest
  completedAt := head.completedAt
  workUnits := core.work.workUnits
  inputTokens := core.work.inputTokens
  outputTokens := core.work.outputTokens
  attestationVerified := attested.verified
  verifierDigest := attested.verifierDigest
  measurementDigest := attested.measurementDigest
  document := fields

def verifyReceipt (platform : ReceiptPlatform) (context : ReceiptContext) (raw : Bytes) :
    Except Exc VerifiedReceipt := do
  let fields ← openReceipt platform.toPlatform context.policy raw
  let network ← boundedKey (fields.get "network") "receipt network"
  let scope ← receiptScope context.policy fields network
  let validatorHotkey ← boundedKey (fields.get "validator_hotkey") "validator hotkey"
  let minerHotkey ← boundedKey (fields.get "miner_hotkey") "miner hotkey"
  let head ← receiptHead context.policy context.now fields validatorHotkey
  let _ ← boundedString (head.model.get "model_id") maxModelIdBytes "invalid model id"
  let core ← receiptCore platform context fields network scope validatorHotkey minerHotkey head
  let attested ← attest platform.toPlatform context fields head.attestation core.authorized
  refuse (context.policy.requireAttestation = true ∧ attested.verified = false)
    "validator policy requires verified attestation"
  pure (receiptRecord fields scope validatorHotkey minerHotkey head core attested)

/-! ## What an accepted receipt has passed -/

section Checks

variable {platform : ReceiptPlatform} {context : ReceiptContext} {raw : Bytes}

/-- The stages of an accepted receipt, with what each of them yields. -/
structure ReceiptChecks (platform : ReceiptPlatform) (context : ReceiptContext) (raw : Bytes)
    (receipt : VerifiedReceipt) where
  network : String
  scope : ReceiptScope
  head : ReceiptHead
  modelId : String
  core : ReceiptCore
  attested : Attested
  opened : openReceipt platform.toPlatform context.policy raw = .ok receipt.document
  network_ok : boundedKey (receipt.document.get "network") "receipt network" = .ok network
  scope_ok : receiptScope context.policy receipt.document network = .ok scope
  validator_ok : boundedKey (receipt.document.get "validator_hotkey") "validator hotkey" =
    .ok receipt.validatorHotkey
  miner_ok : boundedKey (receipt.document.get "miner_hotkey") "miner hotkey" =
    .ok receipt.minerHotkey
  head_ok : receiptHead context.policy context.now receipt.document receipt.validatorHotkey =
    .ok head
  model_ok : boundedString (head.model.get "model_id") maxModelIdBytes "invalid model id" =
    .ok modelId
  core_ok : receiptCore platform context receipt.document network scope receipt.validatorHotkey
    receipt.minerHotkey head = .ok core
  attested_ok : attest platform.toPlatform context receipt.document head.attestation
    core.authorized = .ok attested
  required : ¬ (context.policy.requireAttestation = true ∧ attested.verified = false)
  receiptId_eq : receipt.receiptId = core.receiptId
  requestId_eq : receipt.requestId = scope.requestId
  sourceEpoch_eq : receipt.sourceEpoch = scope.sourceEpoch
  completedAt_eq : receipt.completedAt = head.completedAt
  workUnits_eq : receipt.workUnits = core.work.workUnits
  attestationVerified_eq : receipt.attestationVerified = attested.verified
  verifierDigest_eq : receipt.verifierDigest = attested.verifierDigest

theorem verifyReceipt_ok {receipt : VerifiedReceipt}
    (h : verifyReceipt platform context raw = .ok receipt) :
    Nonempty (ReceiptChecks platform context raw receipt) := by
  unfold verifyReceipt at h
  rcases bind_eq_ok.mp h with ⟨fields, hopened, h⟩
  rcases bind_eq_ok.mp h with ⟨network, hnetwork, h⟩
  rcases bind_eq_ok.mp h with ⟨scope, hscope, h⟩
  rcases bind_eq_ok.mp h with ⟨validatorHotkey, hvalidator, h⟩
  rcases bind_eq_ok.mp h with ⟨minerHotkey, hminer, h⟩
  rcases bind_eq_ok.mp h with ⟨head, hhead, h⟩
  rcases bind_eq_ok.mp h with ⟨modelId, hmodel, h⟩
  rcases bind_eq_ok.mp h with ⟨core, hcore, h⟩
  rcases bind_eq_ok.mp h with ⟨attested, hattested, h⟩
  rcases bind_eq_ok.mp h with ⟨_, hrequired, h⟩
  cases h
  exact ⟨⟨network, scope, head, modelId, core, attested, hopened, hnetwork, hscope, hvalidator,
    hminer, hhead, hmodel, hcore, hattested, refuse_eq_ok.mp hrequired, rfl, rfl, rfl, rfl, rfl, rfl, rfl⟩⟩

/-- An accepted receipt is a strict document in its canonical form. -/
theorem openReceipt_strict {policy : ReceiptPolicy} {fields : Fields}
    (h : openReceipt platform.toPlatform policy raw = .ok fields) :
    Strict platform.readDepth (.obj fields) ∧ stripNewline raw = dumps (.obj fields) ∧
      fields.HasKeys receiptKeys := by
  unfold openReceipt at h
  rcases bind_eq_ok.mp h with ⟨_, _, h⟩
  rcases bind_eq_ok.mp h with ⟨fields', hparsed, h⟩
  rcases bind_eq_ok.mp h with ⟨canonical, hcanonical, h⟩
  rcases bind_eq_ok.mp h with ⟨_, hsame, h⟩
  rcases bind_eq_ok.mp h with ⟨_, hkeys, h⟩
  rcases bind_eq_ok.mp h with ⟨_, _, h⟩
  cases h
  rw [refuse_eq_ok, not_not] at hsame
  rw [← hsame] at hcanonical
  rcases strict_of_canonical hparsed hcanonical with ⟨hstrict, hraw⟩
  exact ⟨hstrict, hraw, not_not.mp (refuse_eq_ok.mp hkeys)⟩

/-- The canonical bytes are no more than the weight of the document. -/
theorem length_dumps_le {value : Document} {maximumBytes : ℕ}
    (h : value.weight Json.intNumeral ≤ maximumBytes) : (dumps value).length ≤ maximumBytes := by
  unfold dumps
  rw [length_asciiBytes]
  exact (Json.length_render_sorted_le value).trans h

/-- The canonical bytes of a strict document with the right keys are opened. -/
theorem openReceipt_dumps {platform : Platform} {policy : ReceiptPolicy} {depth : ℕ}
    {fields : Fields} (hpolicy : validatePolicy policy = .ok ())
    (hstrict : Strict depth (.obj fields)) (hread : depth ≤ platform.readDepth)
    (hwrite : depth ≤ platform.writeDepth)
    (hsize : (dumps (.obj fields)).length ≤ maxReceiptBytes) (hkeys : fields.HasKeys receiptKeys)
    (hschema : fields.get "schema" = strConst receiptSchema) :
    openReceipt platform policy (dumps (.obj fields)) = .ok fields := by
  unfold openReceipt
  rw [stripNewline_dumps, hpolicy, parseStrictJson_dumps hstrict hread hsize]
  refine bind_eq_ok.mpr ⟨(), rfl, bind_eq_ok.mpr ⟨fields, rfl, ?_⟩⟩
  rw [canonicalJson_strict hstrict hwrite]
  refine bind_eq_ok.mpr ⟨_, rfl, bind_eq_ok.mpr ⟨(), refuse_eq_ok.mpr (not_not.mpr rfl), ?_⟩⟩
  refine bind_eq_ok.mpr ⟨(), refuse_eq_ok.mpr (not_not.mpr hkeys), ?_⟩
  exact bind_eq_ok.mpr ⟨(), refuse_eq_ok.mpr (not_not.mpr hschema), rfl⟩

end Checks

/-! ## What escapes the verifier -/

section Escapes

variable {platform : ReceiptPlatform} {context : ReceiptContext} {raw : Bytes}

/-- An evidence URI with a lone surrogate, or of admissible size that `urlsplit` refuses. -/
def EvidenceUriEscapes (platform : Platform) (value : Document) : Prop :=
  Unencodable value ∨ ∃ uri,
    boundedString value 2048 "invalid attestation evidence URI" = .ok uri ∧
      Url.urlsplit platform.urls uri.toList = none

/-- A receipt that is fine up to a string with a lone surrogate, or up to a URI that cannot
be split. -/
inductive ReceiptEscapes (platform : ReceiptPlatform) (context : ReceiptContext) (raw : Bytes) :
    Prop where
  | network {fields : Fields}
      (hopened : openReceipt platform.toPlatform context.policy raw = .ok fields)
      (hescapes : Unencodable (fields.get "network"))
  | validator {fields : Fields} {network : String} {scope : ReceiptScope}
      (hopened : openReceipt platform.toPlatform context.policy raw = .ok fields)
      (hnetwork : boundedKey (fields.get "network") "receipt network" = .ok network)
      (hscope : receiptScope context.policy fields network = .ok scope)
      (hescapes : Unencodable (fields.get "validator_hotkey"))
  | miner {fields : Fields} {network validatorHotkey : String} {scope : ReceiptScope}
      (hopened : openReceipt platform.toPlatform context.policy raw = .ok fields)
      (hnetwork : boundedKey (fields.get "network") "receipt network" = .ok network)
      (hscope : receiptScope context.policy fields network = .ok scope)
      (hvalidator : boundedKey (fields.get "validator_hotkey") "validator hotkey" =
        .ok validatorHotkey)
      (hescapes : Unencodable (fields.get "miner_hotkey"))
  | modelId {fields : Fields} {network validatorHotkey minerHotkey : String}
      {scope : ReceiptScope} {head : ReceiptHead}
      (hopened : openReceipt platform.toPlatform context.policy raw = .ok fields)
      (hnetwork : boundedKey (fields.get "network") "receipt network" = .ok network)
      (hscope : receiptScope context.policy fields network = .ok scope)
      (hvalidator : boundedKey (fields.get "validator_hotkey") "validator hotkey" =
        .ok validatorHotkey)
      (hminer : boundedKey (fields.get "miner_hotkey") "miner hotkey" = .ok minerHotkey)
      (hhead : receiptHead context.policy context.now fields validatorHotkey = .ok head)
      (hescapes : Unencodable (head.model.get "model_id"))
  | evidence {fields : Fields} {network validatorHotkey minerHotkey modelId : String}
      {scope : ReceiptScope} {head : ReceiptHead} {core : ReceiptCore} {evidenceDigest : String}
      (hopened : openReceipt platform.toPlatform context.policy raw = .ok fields)
      (hnetwork : boundedKey (fields.get "network") "receipt network" = .ok network)
      (hscope : receiptScope context.policy fields network = .ok scope)
      (hvalidator : boundedKey (fields.get "validator_hotkey") "validator hotkey" =
        .ok validatorHotkey)
      (hminer : boundedKey (fields.get "miner_hotkey") "miner hotkey" = .ok minerHotkey)
      (hhead : receiptHead context.policy context.now fields validatorHotkey = .ok head)
      (hmodel : boundedString (head.model.get "model_id") maxModelIdBytes "invalid model id" =
        .ok modelId)
      (hcore : receiptCore platform context fields network scope validatorHotkey minerHotkey
        head = .ok core)
      (hkind : head.attestation.get "kind" = strConst "tdx")
      (hroots : attestRoots context.policy head.attestation core.authorized = .ok evidenceDigest)
      (hescapes : EvidenceUriEscapes platform.toPlatform (head.attestation.get "evidence_uri"))

@[simp] theorem isolated_digest (value : Document) (label : String) :
    Isolated (digest value label) := isolated_matching _ _ _

@[simp] theorem isolated_checkOptionalDigest (value : Document) (label : String) :
    Isolated (checkOptionalDigest value label) := by
  unfold checkOptionalDigest
  split <;> simp

@[simp] theorem isolated_nonnegative (value : Document) (label : String) :
    Isolated (nonnegative value label) := isolated_nonnegativeInt _ _

@[simp] theorem isolated_receiptDecimal (value : Document) (label : String) :
    Isolated (receiptDecimal value label) := isolated_decimal _ _

@[simp] theorem isolated_checkDigests (values : List String) (label : String) :
    Isolated (checkDigests values label) := isolated_refuse

@[simp] theorem isolated_checkAllowed (allowed : List String) (value message : String) :
    Isolated (checkAllowed allowed value message) := isolated_refuse

@[simp] theorem isolated_validatePolicy (policy : ReceiptPolicy) :
    Isolated (validatePolicy policy) := by
  simp [validatePolicy]

theorem isolated_openReceipt (policy : ReceiptPolicy) (raw : Bytes) :
    Isolated (openReceipt platform.toPlatform policy raw) := by
  simp [openReceipt]

theorem isolated_receiptScope (policy : ReceiptPolicy) (fields : Fields) (network : String) :
    Isolated (receiptScope policy fields network) := by
  simp [receiptScope]

@[simp] theorem isolated_receiptWindow (policy : ReceiptPolicy) (fields : Fields) :
    Isolated (receiptWindow policy fields) := by
  simp [receiptWindow]

@[simp] theorem isolated_receiptTimes (policy : ReceiptPolicy) (now : UtcTime) (fields : Fields) :
    Isolated (receiptTimes policy now fields) := by
  simp [receiptTimes]

@[simp] theorem isolated_receiptPart (fields : Fields) (name : String) (keys : List String) :
    Isolated (receiptPart fields name keys) := by
  simp [receiptPart]

theorem isolated_receiptHead (policy : ReceiptPolicy) (now : UtcTime) (fields : Fields)
    (validatorHotkey : String) : Isolated (receiptHead policy now fields validatorHotkey) := by
  simp [receiptHead]

@[simp] theorem isolated_receiptWork (head : ReceiptHead) : Isolated (receiptWork head) := by
  simp [receiptWork]

@[simp] theorem isolated_digestOf (platform : Platform) (domain : Bytes) (body : Fields) :
    Isolated (digestOf platform domain body) := by
  simp [digestOf]

@[simp] theorem isolated_checkSr25519 (texts : SignatureTexts) (value : Document)
    (hotkey : String) (domain : Bytes) (body : Fields) :
    Isolated (checkSr25519 platform texts value hotkey domain body) := by
  unfold checkSr25519
  refine (isolated_object _ _).bind fun signature _ => ?_
  refine (isolated_requireExactKeys _ _ _).bind fun _ _ => isolated_refuse.bind fun _ _ => ?_
  refine (isolated_base64Bytes _ _ _ _).bind fun bytes _ => ?_
  split
  · simp
  · split <;> simp

@[simp] theorem isolated_verifyRequestAuthorization (fields : Fields) (hotkey : String) :
    Isolated (verifyRequestAuthorization platform fields hotkey) := by
  unfold verifyRequestAuthorization
  split <;> simp

@[simp] theorem isolated_receiptAuthorized (fields : Fields) (request : Request)
    (requestId outputCommitment : String) :
    Isolated (receiptAuthorized platform context fields request requestId outputCommitment) := by
  simp [receiptAuthorized, requestIdFor, checkReveal]

@[simp] theorem isolated_receiptSigned (policy : ReceiptPolicy) (fields : Fields)
    (minerHotkey : String) (work : ReceiptWork) :
    Isolated (receiptSigned platform policy fields minerHotkey work) := by
  simp [receiptSigned, receiptIdFor]

theorem isolated_receiptCore (fields : Fields) (network : String) (scope : ReceiptScope)
    (validatorHotkey minerHotkey : String) (head : ReceiptHead) :
    Isolated (receiptCore platform context fields network scope validatorHotkey minerHotkey
      head) := by
  simp [receiptCore]

theorem isolated_attestNone (attestation : Fields) :
    Isolated (attestNone context attestation) := by
  simp [attestNone]

theorem isolated_attestRoots (policy : ReceiptPolicy) (attestation : Fields) (authorized : Bool) :
    Isolated (attestRoots policy attestation authorized) := by
  simp [attestRoots]

@[simp] theorem isolated_askVerifier (verifier : AttestationVerifier) (evidence reportData : Bytes)
    (policyDigest : String) :
    Isolated (askVerifier verifier evidence reportData policyDigest) := by
  intro e h
  unfold askVerifier at h
  split at h
  · cases h
    exact ⟨_, rfl⟩
  · rename_i hother
    cases e with
    | thinSubnetError message => exact ⟨message, rfl⟩
    | other type message => exact absurd h (hother type message)

@[simp] theorem isolated_acceptVerification (policy : ReceiptPolicy)
    (verification : AttestationVerification) :
    Isolated (acceptVerification policy verification) := by
  simp [acceptVerification, digestText]

theorem isolated_attestEvidence (fields attestation : Fields) (evidenceDigest : String) :
    Isolated (attestEvidence platform.toPlatform context fields attestation evidenceDigest) := by
  unfold attestEvidence
  refine Isolated.bind ?_ fun binding _ => Isolated.bind ?_ fun _ _ => ?_
  · simp [attestBinding, expectedReportData]
  · unfold checkEvidence
    split <;> simp
  · split
    · simp
    · split <;> simp

theorem escapes_checkEvidenceUri {value : Document} :
    Escapes (checkEvidenceUri platform.toPlatform value) ↔
      EvidenceUriEscapes platform.toPlatform value := by
  unfold checkEvidenceUri EvidenceUriEscapes
  split
  · constructor
    · intro h
      exact absurd h (isolated_pure ()).not_escapes
    · rintro (⟨_, h, _⟩ | ⟨_, h, _⟩)
      · cases h
      · cases h
  · rw [escapes_bind_iff, escapes_boundedString]
    have hsplit : ∀ uri, Escapes (do
        let url ← splitUrl platform.toPlatform uri
        refuse (¬ CredentialFree url ∨ url.query ≠ [])
          "attestation evidence URI must be credential-free HTTPS or IPFS") ↔
        Url.urlsplit platform.urls uri.toList = none := by
      intro uri
      rw [escapes_bind_iff_left fun url _ => isolated_refuse, escapes_splitUrl]
    simp only [hsplit]

theorem escapes_attest {fields attestation : Fields} {authorized : Bool} :
    Escapes (attest platform.toPlatform context fields attestation authorized) ↔
      attestation.get "kind" = strConst "tdx" ∧ ∃ evidenceDigest,
        attestRoots context.policy attestation authorized = .ok evidenceDigest ∧
          EvidenceUriEscapes platform.toPlatform (attestation.get "evidence_uri") := by
  have hkinds : strConst "none" ≠ strConst "tdx" := by decide
  unfold attest
  split_ifs with hnone htdx
  · constructor
    · intro h
      exact absurd h (isolated_attestNone attestation).not_escapes
    · rintro ⟨htdx, _⟩
      exact absurd (hnone.symm.trans htdx) hkinds
  · unfold attestTdx
    rw [(isolated_attestRoots _ _ _).escapes_bind_iff, and_iff_right htdx]
    refine exists_congr fun evidenceDigest => and_congr_right fun _ => ?_
    exact (escapes_bind_iff_left fun _ _ => isolated_attestEvidence _ _ _).trans
      escapes_checkEvidenceUri
  · constructor
    · intro h
      exact absurd h (isolated_fail _).not_escapes
    · rintro ⟨h, _⟩
      exact absurd h htdx

/-- The bytes on which the verifier raises something other than `ThinSubnetError`. -/
theorem escapes_verifyReceipt :
    Escapes (verifyReceipt platform context raw) ↔ ReceiptEscapes platform context raw := by
  have hlength : ∀ (value : Document) (label : String),
      Escapes (boundedKey value label) ↔ Unencodable value := fun _ _ => escapes_boundedString
  unfold verifyReceipt
  rw [(isolated_openReceipt _ _).escapes_bind_iff]
  simp only [(isolated_receiptScope _ _ _).escapes_bind_iff,
    (isolated_receiptHead _ _ _ _).escapes_bind_iff,
    (isolated_receiptCore _ _ _ _ _ _).escapes_bind_iff, escapes_bind_iff, hlength,
    escapes_boundedString, isolated_refuse.not_escapes, (isolated_pure _).not_escapes, and_false,
    exists_false, or_false, escapes_attest]
  constructor
  · rintro ⟨fields, hopened, h⟩
    rcases h with h | ⟨network, hnetwork, scope, hscope, h⟩
    · exact .network hopened h
    rcases h with h | ⟨validatorHotkey, hvalidator, h⟩
    · exact .validator hopened hnetwork hscope h
    rcases h with h | ⟨minerHotkey, hminer, head, hhead, h⟩
    · exact .miner hopened hnetwork hscope hvalidator h
    rcases h with h | ⟨modelId, hmodel, core, hcore, h⟩
    · exact .modelId hopened hnetwork hscope hvalidator hminer hhead h
    rcases h with ⟨hkind, evidenceDigest, hroots, h⟩
    exact .evidence hopened hnetwork hscope hvalidator hminer hhead hmodel hcore hkind hroots h
  · rintro (⟨hopened, h⟩ | ⟨hopened, hnetwork, hscope, h⟩ |
      ⟨hopened, hnetwork, hscope, hvalidator, h⟩ |
      ⟨hopened, hnetwork, hscope, hvalidator, hminer, hhead, h⟩ |
      ⟨hopened, hnetwork, hscope, hvalidator, hminer, hhead, hmodel, hcore, hkind, hroots, h⟩)
    · exact ⟨_, hopened, .inl h⟩
    · exact ⟨_, hopened, .inr ⟨_, hnetwork, _, hscope, .inl h⟩⟩
    · exact ⟨_, hopened, .inr ⟨_, hnetwork, _, hscope, .inr ⟨_, hvalidator, .inl h⟩⟩⟩
    · exact ⟨_, hopened, .inr ⟨_, hnetwork, _, hscope, .inr ⟨_, hvalidator,
        .inr ⟨_, hminer, _, hhead, .inl h⟩⟩⟩⟩
    · exact ⟨_, hopened, .inr ⟨_, hnetwork, _, hscope, .inr ⟨_, hvalidator,
        .inr ⟨_, hminer, _, hhead, .inr ⟨_, hmodel, _, hcore, hkind, _, hroots, h⟩⟩⟩⟩⟩

end Escapes

/-! A receipt with a quote, which a validator authorized. Its digests are all zero. -/

def zeroReceipts : ReceiptPlatform where
  toPlatform := zeroPlatform
  printable _ := true
  sr25519 _ _ _ := some true

/-- A policy that allows the digests of the receipt, with or without a validator. -/
def zeroPolicy (validatorHotkey : Option String) : ReceiptPolicy where
  network := "test"
  netuid := 1
  currentBlock := 105
  requireAttestation := false
  expectedValidatorHotkey := validatorHotkey
  allowedModelDigests := [zeroDigest.tagged]
  allowedImageDigests := [zeroDigest.tagged]
  allowedRunnerDigests := [zeroDigest.tagged]
  allowedAttestationPolicyDigests := [zeroDigest.tagged]
  allowedVerifierDigests := [zeroDigest.tagged]

def zeroVerifier : AttestationVerifier := fun _ _ _ =>
  .ok
    { ok := true
      verifierDigest := zeroDigest.tagged
      measurementDigest := none
      reason := "verified" }

def zeroContext (validatorHotkey : Option String) : ReceiptContext where
  policy := zeroPolicy validatorHotkey
  now := noonTime
  evidence := some [1]
  verifier := some zeroVerifier

def quotedModel : Fields :=
  .ofList
    [("model_id", strConst "model"), ("tokenizer_digest", .null),
      ("weights_digest", strConst zeroDigest.tagged)]

def quotedRuntime : Fields :=
  .ofList
    [("image_digest", strConst zeroDigest.tagged), ("runner_digest", strConst zeroDigest.tagged)]

def quotedRequest : Fields :=
  .ofList
    [("input_commitment", strConst zeroDigest.tagged),
      ("parameters_commitment", strConst zeroDigest.tagged)]

def quotedResult : Fields :=
  .ofList
    [("input_tokens", .num 3), ("latency_ms", strConst "10"),
      ("output_commitment", strConst zeroDigest.tagged), ("output_tokens", .num 4),
      ("work_units", strConst "2")]

def quotedAttestation : Fields :=
  .ofList
    [("evidence_digest", strConst zeroDigest.tagged), ("evidence_uri", .null),
      ("kind", strConst "tdx"), ("policy_digest", strConst zeroDigest.tagged),
      ("report_data_hex", strConst (zeroDigest.hex ++ zeroDigest.hex))]

def quotedSignature : Fields :=
  .ofList
    [("algorithm", strConst "sr25519"),
      ("value_base64", strConst (String.ofList (Base64.encode zeroSignature)))]

def zeroNonce : Bytes := List.replicate 32 0

def quotedReceipt : Fields :=
  .ofList
    [("attestation", .obj quotedAttestation),
      ("completed_at", strConst "2026-07-26T12:00:00.000000Z"),
      ("issued_at", strConst "2026-07-26T12:00:00.000000Z"),
      ("miner_hotkey", strConst "miner"), ("model", .obj quotedModel), ("netuid", .num 1),
      ("network", strConst "test"),
      ("nonce_base64", strConst (String.ofList (Base64.encode zeroNonce))),
      ("receipt_id", strConst zeroDigest.tagged), ("request", .obj quotedRequest),
      ("request_authorization", .obj quotedSignature),
      ("request_id", strConst zeroDigest.tagged), ("result", .obj quotedResult),
      ("runtime", .obj quotedRuntime), ("schema", strConst receiptSchema),
      ("signature", .obj quotedSignature), ("source_epoch", .num 7),
      ("valid_from_block", .num 100), ("valid_until_block", .num 200),
      ("validator_hotkey", strConst "validator")]

theorem quotedReceipt_strict : Strict 2 (.obj quotedReceipt) := by
  have hmodel : Strict 1 (.obj quotedModel) := strict_ofList.mpr ⟨by decide, by simp⟩
  have hruntime : Strict 1 (.obj quotedRuntime) := strict_ofList.mpr ⟨by decide, by simp⟩
  have hrequest : Strict 1 (.obj quotedRequest) := strict_ofList.mpr ⟨by decide, by simp⟩
  have hresult : Strict 1 (.obj quotedResult) := strict_ofList.mpr ⟨by decide, by simp [InRange]⟩
  have hattestation : Strict 1 (.obj quotedAttestation) := strict_ofList.mpr ⟨by decide, by simp⟩
  have hsignature : Strict 1 (.obj quotedSignature) := strict_ofList.mpr ⟨by decide, by simp⟩
  exact strict_ofList.mpr ⟨by decide,
    by simp [hmodel, hruntime, hrequest, hresult, hattestation, hsignature, InRange]⟩

theorem quotedReceipt_size : (dumps (.obj quotedReceipt)).length ≤ maxReceiptBytes :=
  length_dumps_le (by decide +kernel)

theorem zeroPolicy_valid : validatePolicy (zeroPolicy none) = .ok () := by
  decide +kernel

theorem quotedReceipt_open :
    openReceipt zeroPlatform (zeroPolicy none) (dumps (.obj quotedReceipt)) = .ok quotedReceipt :=
  openReceipt_dumps zeroPolicy_valid quotedReceipt_strict (by decide) (by decide) quotedReceipt_size
    (by decide +kernel) (by decide +kernel)

/-- What the verifier makes of the receipt. -/
theorem quotedMoment_valid : ValidFields 2026 7 26 12 0 0 0 := by decide +kernel

def zeroReceipt : VerifiedReceipt where
  receiptId := zeroDigest.tagged
  requestId := zeroDigest.tagged
  sourceEpoch := 7
  minerHotkey := "miner"
  validatorHotkey := "validator"
  weightsDigest := zeroDigest.tagged
  imageDigest := zeroDigest.tagged
  runnerDigest := zeroDigest.tagged
  completedAt := ⟨2026, 7, 26, 12, 0, 0, 0, quotedMoment_valid⟩
  workUnits := 2
  inputTokens := 3
  outputTokens := 4
  attestationVerified := true
  verifierDigest := some zeroDigest.tagged
  measurementDigest := none
  document := quotedReceipt

def quotedHead : ReceiptHead where
  nonce := zeroNonce
  completedAt := ⟨2026, 7, 26, 12, 0, 0, 0, quotedMoment_valid⟩
  model := quotedModel
  runtime := quotedRuntime
  request := quotedRequest
  result := quotedResult
  attestation := quotedAttestation

/-- What the digests and the counts of the receipt are read as. -/
def quotedWork : ReceiptWork where
  weightsDigest := zeroDigest.tagged
  imageDigest := zeroDigest.tagged
  runnerDigest := zeroDigest.tagged
  inputCommitment := zeroDigest.tagged
  parametersCommitment := zeroDigest.tagged
  outputCommitment := zeroDigest.tagged
  inputTokens := 3
  outputTokens := 4
  workUnits := 2

/-- Without a pinned validator, the receipt of any validator is accepted as attested. -/
theorem verifyReceipt_quoted :
    verifyReceipt zeroReceipts (zeroContext none) (dumps (.obj quotedReceipt)) =
      .ok zeroReceipt := by
  -- one stage after the other, each with what it yields
  refine bind_eq_ok.mpr ⟨_, quotedReceipt_open, bind_eq_ok.mpr ⟨"test", by decide +kernel,
    bind_eq_ok.mpr ⟨⟨1, 7, zeroDigest.tagged⟩, by decide +kernel,
      bind_eq_ok.mpr ⟨"validator", by decide +kernel, bind_eq_ok.mpr ⟨"miner", by decide +kernel,
        bind_eq_ok.mpr ⟨quotedHead, by decide +kernel, bind_eq_ok.mpr ⟨"model", by decide +kernel,
          bind_eq_ok.mpr ⟨⟨quotedWork, true, zeroDigest.tagged⟩, by decide +kernel,
            bind_eq_ok.mpr ⟨⟨true, some zeroDigest.tagged, none⟩, by decide +kernel, ?_⟩⟩⟩⟩⟩⟩⟩⟩⟩
  decide +kernel

end Cathedral.Thin
