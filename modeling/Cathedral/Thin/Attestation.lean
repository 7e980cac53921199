import Cathedral.Thin.Receipts

/-!
# Cathedral.Thin.Attestation — what an attested receipt guarantees

A receipt that `verify_receipt` returns as attested carries a validator's signature
over the request, the miner's signature over the whole body, digests that the policy
allows, and evidence that the verifier accepted for the report data of this document.
`BindsFields` says that the messages behind the signatures and the report data cover
the fields: documents that differ in a field have different messages.

`attestation_guarantee_iff` says when the validator is the one that the policy expects:
exactly if the policy names one, or the receipt does not get that far.
-/

namespace Cathedral.Thin

/-! ## Messages -/

/-- What a validator signs before the inference. -/
def authorizationMessage (fields : Fields) : Bytes :=
  requestAuthorizationDomain ++ dumps (.obj (fields.pick authorizationKeys))

/-- What the miner signs. -/
def receiptMessage (fields : Fields) : Bytes :=
  receiptDomain ++ dumps (.obj (fields.without ["signature"]))

/-- The identity that a quote binds, before it is hashed. -/
def identityMessage (fields : Fields) : Bytes :=
  identityBindingDomain ++ dumps (.obj (fields.pick identityKeys))

/-- The execution that a quote binds, before it is hashed. -/
def executionMessage (fields : Fields) : Bytes :=
  executionBindingDomain ++ dumps (.obj (fields.pick executionKeys))

def reportDataOf (platform : Platform) (fields : Fields) : ReportData where
  identity := platform.sha256 (identityMessage fields)
  execution := platform.sha256 (executionMessage fields)

/-- Two documents that differ in a bound field have different messages. -/
structure BindsFields (a b : Fields) : Prop where
  request : ∀ name ∈ authorizationKeys, a.get name ≠ b.get name →
    authorizationMessage a ≠ authorizationMessage b
  body : ∀ name, name ≠ "signature" → a.get name ≠ b.get name →
    receiptMessage a ≠ receiptMessage b
  identity : ∀ name ∈ identityKeys, a.get name ≠ b.get name →
    identityMessage a ≠ identityMessage b
  execution : ∀ name ∈ executionKeys, a.get name ≠ b.get name →
    executionMessage a ≠ executionMessage b

theorem bindsFields_of_strict {depth depth' : ℕ} {a b : Fields} (ha : Strict depth (.obj a))
    (hb : Strict depth' (.obj b)) : BindsFields a b := by
  constructor
  · intro name hname hne h
    have hdumps := List.append_cancel_left h
    exact hne (get_of_dumps_pick ha hb (by decide) hdumps hname)
  · intro name hname hne h
    have hdumps := List.append_cancel_left h
    exact hne (get_of_dumps_without ha hb hdumps (by simpa using hname))
  · intro name hname hne h
    have hdumps := List.append_cancel_left h
    exact hne (get_of_dumps_pick ha hb (by decide) hdumps hname)
  · intro name hname hne h
    have hdumps := List.append_cancel_left h
    exact hne (get_of_dumps_pick ha hb (by decide) hdumps hname)

/-- A signature object whose bytes verify under a hotkey. -/
structure CarriesSignature (platform : ReceiptPlatform) (value : Document) (hotkey : String)
    (message : Bytes) : Prop where
  signed : ∃ (signature : Fields) (bytes : Bytes), value = .obj signature ∧
    signature.HasKeys signatureKeys ∧ signature.get "algorithm" = strConst "sr25519" ∧
    signature.get "value_base64" = strConst (String.ofList (Base64.encode bytes)) ∧
    bytes.length = 64 ∧ platform.sr25519 hotkey message bytes = some true

/-- The evidence of a receipt, and what the verifier answered on it. -/
structure EvidenceAccepted (platform : ReceiptPlatform) (context : ReceiptContext)
    (fields attestation : Fields) (verifierDigest : Option String) : Prop where
  accepted : ∃ evidence verifier policyDigest verification,
    context.evidence = some evidence ∧ context.verifier = some verifier ∧
    attestation.get "evidence_digest" = strConst (platform.sha256 evidence).tagged ∧
    attestation.get "policy_digest" = strConst policyDigest ∧
    policyDigest ∈ context.policy.allowedAttestationPolicyDigests ∧
    attestation.get "report_data_hex" =
      strConst (reportDataOf platform.toPlatform fields).hex ∧
    verifier evidence (reportDataOf platform.toPlatform fields).bytes policyDigest =
      .ok verification ∧
    verification.ok = true ∧ verifierDigest = some verification.verifierDigest ∧
    verification.verifierDigest ∈ context.policy.allowedVerifierDigests

/-- What an attested receipt guarantees about its document, whoever the validator is. -/
structure Authorized (platform : ReceiptPlatform) (context : ReceiptContext)
    (receipt : VerifiedReceipt) : Prop where
  validator : receipt.document.get "validator_hotkey" = strConst receipt.validatorHotkey
  authorized : CarriesSignature platform (receipt.document.get "request_authorization")
    receipt.validatorHotkey (authorizationMessage receipt.document)
  miner : receipt.document.get "miner_hotkey" = strConst receipt.minerHotkey
  signed : CarriesSignature platform (receipt.document.get "signature") receipt.minerHotkey
    (receiptMessage receipt.document)
  model : ∃ model weightsDigest, receipt.document.get "model" = .obj model ∧
    Fields.get model "weights_digest" = strConst weightsDigest ∧
    weightsDigest ∈ context.policy.allowedModelDigests
  runtime : ∃ runtime imageDigest runnerDigest, receipt.document.get "runtime" = .obj runtime ∧
    Fields.get runtime "image_digest" = strConst imageDigest ∧
    imageDigest ∈ context.policy.allowedImageDigests ∧
    Fields.get runtime "runner_digest" = strConst runnerDigest ∧
    runnerDigest ∈ context.policy.allowedRunnerDigests
  evidence : ∃ attestation, receipt.document.get "attestation" = .obj attestation ∧
    EvidenceAccepted platform context receipt.document attestation receipt.verifierDigest

/-! ## The stages that give it -/

section Stages

variable {platform : ReceiptPlatform} {context : ReceiptContext}

theorem digestOf_eq_ok {platform : Platform} {domain : Bytes} {body : Fields} {d : Sha256}
    (h : digestOf platform domain body = .ok d) : d = platform.sha256 (domain ++ dumps (.obj body)) := by
  rcases bind_eq_ok.mp h with ⟨bytes, hbytes, h⟩
  cases h
  rw [canonicalJson_ok hbytes]

theorem checkSr25519_ok {texts : SignatureTexts} {value : Document} {hotkey : String}
    {domain : Bytes} {body : Fields} (h : checkSr25519 platform texts value hotkey domain body = .ok ()) :
    CarriesSignature platform value hotkey (domain ++ dumps (.obj body)) := by
  unfold checkSr25519 at h
  rcases bind_eq_ok.mp h with ⟨signature, hobject, h⟩
  rcases bind_eq_ok.mp h with ⟨_, hkeys, h⟩
  rcases bind_eq_ok.mp h with ⟨_, halgorithm, h⟩
  rcases bind_eq_ok.mp h with ⟨bytes, hbytes, h⟩
  rcases base64Bytes_eq_ok.mp hbytes with ⟨hvalue, hlength⟩
  refine ⟨signature, bytes, object_eq_ok.mp hobject, requireExactKeys_eq_ok.mp hkeys,
    not_not.mp (refuse_eq_ok.mp halgorithm), hvalue, hlength, ?_⟩
  split at h
  · cases h
  · rename_i message hmessage
    rw [← canonicalJson_ok hmessage]
    split at h
    · cases h
    · rename_i valid hvalid
      rw [hvalid, Bool.eq_true_of_not_eq_false (refuse_eq_ok.mp h)]

theorem verifyRequestAuthorization_ok {fields : Fields} {validatorHotkey : String}
    (h : verifyRequestAuthorization platform fields validatorHotkey = .ok true) :
    CarriesSignature platform (fields.get "request_authorization") validatorHotkey
      (authorizationMessage fields) := by
  unfold verifyRequestAuthorization at h
  split at h
  · cases h
  · rcases bind_eq_ok.mp h with ⟨_, hsigned, _⟩
    exact checkSr25519_ok hsigned

/-- A digest that passes a set that is not empty is in it. -/
theorem checkAllowed_ok {allowed : List String} {value message : String} (hne : allowed ≠ [])
    (h : checkAllowed allowed value message = .ok ()) : value ∈ allowed := by
  have hallowed := refuse_eq_ok.mp h
  by_contra hnot
  exact hallowed ⟨hne, hnot⟩

theorem receiptPart_ok {fields part : Fields} {name : String} {keys : List String}
    (h : receiptPart fields name keys = .ok part) : fields.get name = .obj part := by
  rcases bind_eq_ok.mp h with ⟨part', hobject, h⟩
  rcases bind_eq_ok.mp h with ⟨_, _, h⟩
  cases h
  exact object_eq_ok.mp hobject

structure HeadFacts (policy : ReceiptPolicy) (fields : Fields) (validatorHotkey : String)
    (head : ReceiptHead) : Prop where
  nonce : fields.get "nonce_base64" = strConst (String.ofList (Base64.encode head.nonce))
  expected : ∀ expected ∈ policy.expectedValidatorHotkey, validatorHotkey = expected
  completed : parseTime (fields.get "completed_at") "receipt completed_at" = .ok head.completedAt
  model : fields.get "model" = .obj head.model
  runtime : fields.get "runtime" = .obj head.runtime
  request : fields.get "request" = .obj head.request
  attestation : fields.get "attestation" = .obj head.attestation

theorem receiptHead_ok {policy : ReceiptPolicy} {now : UtcTime} {fields : Fields}
    {validatorHotkey : String} {head : ReceiptHead}
    (h : receiptHead policy now fields validatorHotkey = .ok head) :
    HeadFacts policy fields validatorHotkey head := by
  unfold receiptHead at h
  rcases bind_eq_ok.mp h with ⟨nonce, hnonce, h⟩
  rcases bind_eq_ok.mp h with ⟨_, hexpected, h⟩
  rcases bind_eq_ok.mp h with ⟨_, _, h⟩
  rcases bind_eq_ok.mp h with ⟨completedAt, htimes, h⟩
  rcases bind_eq_ok.mp h with ⟨model, hmodel, h⟩
  rcases bind_eq_ok.mp h with ⟨runtime, hruntime, h⟩
  rcases bind_eq_ok.mp h with ⟨request, hrequest, h⟩
  rcases bind_eq_ok.mp h with ⟨result, _, h⟩
  rcases bind_eq_ok.mp h with ⟨attestation, hattestation, h⟩
  cases h
  have hcompleted : parseTime (fields.get "completed_at") "receipt completed_at" =
      .ok completedAt := by
    unfold receiptTimes at htimes
    rcases bind_eq_ok.mp htimes with ⟨_, _, htimes⟩
    rcases bind_eq_ok.mp htimes with ⟨completed, hcompleted, htimes⟩
    rcases bind_eq_ok.mp htimes with ⟨_, _, htimes⟩
    rcases bind_eq_ok.mp htimes with ⟨_, _, htimes⟩
    cases htimes
    exact hcompleted
  refine ⟨(base64Bytes_eq_ok.mp hnonce).1, ?_, hcompleted, receiptPart_ok hmodel,
    receiptPart_ok hruntime, receiptPart_ok hrequest, receiptPart_ok hattestation⟩
  intro expected hpolicy
  by_contra hne
  exact refuse_eq_ok.mp hexpected ⟨expected, hpolicy, hne⟩

structure WorkFacts (head : ReceiptHead) (work : ReceiptWork) : Prop where
  weights : head.model.get "weights_digest" = strConst work.weightsDigest
  image : head.runtime.get "image_digest" = strConst work.imageDigest
  runner : head.runtime.get "runner_digest" = strConst work.runnerDigest
  input : head.request.get "input_commitment" = strConst work.inputCommitment
  parameters : head.request.get "parameters_commitment" = strConst work.parametersCommitment
  units : ∃ text : String, decimal? text.toList = some work.workUnits
  bounded : work.workUnits ≤ maxWorkUnitsPerReceipt

theorem receiptWork_ok {head : ReceiptHead} {work : ReceiptWork}
    (h : receiptWork head = .ok work) : WorkFacts head work := by
  unfold receiptWork at h
  rcases bind_eq_ok.mp h with ⟨weightsDigest, hweights, h⟩
  rcases bind_eq_ok.mp h with ⟨_, _, h⟩
  rcases bind_eq_ok.mp h with ⟨imageDigest, himage, h⟩
  rcases bind_eq_ok.mp h with ⟨runnerDigest, hrunner, h⟩
  rcases bind_eq_ok.mp h with ⟨inputCommitment, hinput, h⟩
  rcases bind_eq_ok.mp h with ⟨parametersCommitment, hparameters, h⟩
  rcases bind_eq_ok.mp h with ⟨outputCommitment, _, h⟩
  rcases bind_eq_ok.mp h with ⟨inputTokens, _, h⟩
  rcases bind_eq_ok.mp h with ⟨outputTokens, _, h⟩
  rcases bind_eq_ok.mp h with ⟨_, _, h⟩
  rcases bind_eq_ok.mp h with ⟨workUnits, hunits, h⟩
  rcases bind_eq_ok.mp h with ⟨_, hbounded, h⟩
  cases h
  rcases decimal_eq_ok.mp hunits with ⟨text, _, htext⟩
  exact ⟨(matching_eq_ok.mp hweights).1, (matching_eq_ok.mp himage).1,
    (matching_eq_ok.mp hrunner).1, (matching_eq_ok.mp hinput).1,
    (matching_eq_ok.mp hparameters).1, ⟨text, htext⟩, not_lt.mp (refuse_eq_ok.mp hbounded)⟩

/-- The request that a receipt names, once it is checked. -/
def requestOf (network : String) (scope : ReceiptScope) (validatorHotkey minerHotkey : String)
    (head : ReceiptHead) (work : ReceiptWork) : Request where
  network := network
  netuid := scope.netuid
  sourceEpoch := scope.sourceEpoch
  validatorHotkey := validatorHotkey
  minerHotkey := minerHotkey
  nonce := head.nonce
  inputCommitment := work.inputCommitment
  parametersCommitment := work.parametersCommitment

structure CoreFacts (platform : ReceiptPlatform) (policy : ReceiptPolicy) (fields : Fields)
    (network : String) (scope : ReceiptScope) (validatorHotkey minerHotkey : String)
    (head : ReceiptHead) (core : ReceiptCore) : Prop where
  work : receiptWork head = .ok core.work
  requestId : requestIdFor platform.toPlatform
    (requestOf network scope validatorHotkey minerHotkey head core.work) = .ok scope.requestId
  authorized : core.authorized = true →
    CarriesSignature platform (fields.get "request_authorization") validatorHotkey
      (authorizationMessage fields)
  model : checkAllowed policy.allowedModelDigests core.work.weightsDigest
    "model weights digest is not allowed by validator policy" = .ok ()
  image : checkAllowed policy.allowedImageDigests core.work.imageDigest
    "runtime image digest is not allowed by validator policy" = .ok ()
  runner : checkAllowed policy.allowedRunnerDigests core.work.runnerDigest
    "runner digest is not allowed by validator policy" = .ok ()
  receiptId : fields.get "receipt_id" = strConst core.receiptId
  signed : CarriesSignature platform (fields.get "signature") minerHotkey (receiptMessage fields)

theorem receiptCore_ok {fields : Fields} {network : String} {scope : ReceiptScope}
    {validatorHotkey minerHotkey : String} {head : ReceiptHead} {core : ReceiptCore}
    (h : receiptCore platform context fields network scope validatorHotkey minerHotkey head =
      .ok core) :
    CoreFacts platform context.policy fields network scope validatorHotkey minerHotkey head
      core := by
  unfold receiptCore at h
  rcases bind_eq_ok.mp h with ⟨work, hwork, h⟩
  rcases bind_eq_ok.mp h with ⟨authorized, hauthorized, h⟩
  rcases bind_eq_ok.mp h with ⟨receiptId, hsigned, h⟩
  cases h
  unfold receiptAuthorized at hauthorized
  rcases bind_eq_ok.mp hauthorized with ⟨recomputed, hrecomputed, hauthorized⟩
  rcases bind_eq_ok.mp hauthorized with ⟨_, hrequest, hauthorized⟩
  rcases bind_eq_ok.mp hauthorized with ⟨verified, hverified, hauthorized⟩
  rcases bind_eq_ok.mp hauthorized with ⟨_, _, hauthorized⟩
  rcases bind_eq_ok.mp hauthorized with ⟨_, _, hauthorized⟩
  rcases bind_eq_ok.mp hauthorized with ⟨_, _, hauthorized⟩
  cases hauthorized
  unfold receiptSigned at hsigned
  rcases bind_eq_ok.mp hsigned with ⟨_, hmodel, hsigned⟩
  rcases bind_eq_ok.mp hsigned with ⟨_, himage, hsigned⟩
  rcases bind_eq_ok.mp hsigned with ⟨_, hrunner, hsigned⟩
  rcases bind_eq_ok.mp hsigned with ⟨_, hreceiptId, hsigned⟩
  rcases bind_eq_ok.mp hsigned with ⟨_, _, hsigned⟩
  rcases bind_eq_ok.mp hsigned with ⟨_, _, hsigned⟩
  rcases bind_eq_ok.mp hsigned with ⟨_, hsignature, hsigned⟩
  cases hsigned
  have hsame : scope.requestId = recomputed := not_not.mp (refuse_eq_ok.mp hrequest)
  refine ⟨hwork, ?_, ?_, hmodel, himage, hrunner, (matching_eq_ok.mp hreceiptId).1,
    checkSr25519_ok hsignature⟩
  · rw [hsame]
    exact hrecomputed
  · rintro rfl
    exact verifyRequestAuthorization_ok hverified

theorem expectedReportData_ok {platform : Platform} {fields : Fields} {data : ReportData}
    (h : expectedReportData platform fields = .ok data) : data = reportDataOf platform fields := by
  rcases bind_eq_ok.mp h with ⟨identity, hidentity, h⟩
  rcases bind_eq_ok.mp h with ⟨execution, hexecution, h⟩
  cases h
  rw [digestOf_eq_ok hidentity, digestOf_eq_ok hexecution]
  rfl

theorem attestBinding_ok {policy : ReceiptPolicy} {fields attestation : Fields}
    {policyDigest : String} {data : ReportData}
    (h : attestBinding platform.toPlatform policy fields attestation = .ok (policyDigest, data)) :
    data = reportDataOf platform.toPlatform fields ∧
      attestation.get "policy_digest" = strConst policyDigest ∧
      attestation.get "report_data_hex" = strConst data.hex ∧
      checkAllowed policy.allowedAttestationPolicyDigests policyDigest
        "attestation policy digest is not allowed by validator policy" = .ok () := by
  unfold attestBinding at h
  rcases bind_eq_ok.mp h with ⟨digest', hdigest, h⟩
  rcases bind_eq_ok.mp h with ⟨reportDataHex, hhex, h⟩
  rcases bind_eq_ok.mp h with ⟨expected, hexpected, h⟩
  rcases bind_eq_ok.mp h with ⟨_, hsame, h⟩
  rcases bind_eq_ok.mp h with ⟨_, hallowed, h⟩
  cases h
  have hsame : reportDataHex = data.hex := not_not.mp (refuse_eq_ok.mp hsame)
  exact ⟨expectedReportData_ok hexpected, (matching_eq_ok.mp hdigest).1,
    hsame ▸ (matching_eq_ok.mp hhex).1, hallowed⟩

theorem acceptVerification_ok {policy : ReceiptPolicy} {verification : AttestationVerification}
    {attested : Attested} (h : acceptVerification policy verification = .ok attested) :
    verification.ok = true ∧ attested.verifierDigest = some verification.verifierDigest ∧
      checkAllowed policy.allowedVerifierDigests verification.verifierDigest
        "attestation verifier digest is not allowed by validator policy" = .ok () := by
  unfold acceptVerification at h
  rcases bind_eq_ok.mp h with ⟨verifierDigest, hdigest, h⟩
  rcases bind_eq_ok.mp h with ⟨_, hpositive, h⟩
  rcases bind_eq_ok.mp h with ⟨_, hallowed, h⟩
  rcases bind_eq_ok.mp h with ⟨_, _, h⟩
  cases h
  have hsame : verification.verifierDigest = verifierDigest := by
    unfold digestText digest at hdigest
    have hstr := (matching_eq_ok.mp hdigest).1
    exact PyStr.ofString_injective (Json.str.inj hstr)
  rw [hsame]
  exact ⟨Bool.eq_true_of_not_eq_false (refuse_eq_ok.mp hpositive), rfl, hallowed⟩

theorem askVerifier_ok {verifier : AttestationVerifier} {evidence reportData : Bytes}
    {policyDigest : String} {verification : AttestationVerification}
    (h : askVerifier verifier evidence reportData policyDigest = .ok verification) :
    verifier evidence reportData policyDigest = .ok verification := by
  unfold askVerifier at h
  split at h
  · cases h
  · exact h

/-- A verified attestation has an authorized request, pinned sets and accepted evidence. -/
theorem attest_ok {fields attestation : Fields} {authorized : Bool} {attested : Attested}
    (h : attest platform.toPlatform context fields attestation authorized = .ok attested)
    (hverified : attested.verified = true) :
    authorized = true ∧ context.policy.PinsDigests ∧
      EvidenceAccepted platform context fields attestation attested.verifierDigest := by
  unfold attest at h
  split_ifs at h
  · rcases bind_eq_ok.mp h with ⟨_, _, h⟩
    rcases bind_eq_ok.mp h with ⟨_, _, h⟩
    cases h
    cases hverified
  · rcases bind_eq_ok.mp h with ⟨evidenceDigest, hroots, h⟩
    rcases bind_eq_ok.mp h with ⟨_, _, h⟩
    rcases bind_eq_ok.mp hroots with ⟨_, hauthorized, hroots⟩
    rcases bind_eq_ok.mp hroots with ⟨_, hpins, hdigest⟩
    have hpins : context.policy.PinsDigests := not_not.mp (refuse_eq_ok.mp hpins)
    refine ⟨Bool.eq_true_of_not_eq_false (refuse_eq_ok.mp hauthorized), hpins, ?_⟩
    rcases bind_eq_ok.mp h with ⟨⟨policyDigest, data⟩, hbinding, h⟩
    rcases bind_eq_ok.mp h with ⟨_, hevidence, h⟩
    rcases attestBinding_ok hbinding with ⟨rfl, hpolicy, hhex, hallowed⟩
    split at h
    · cases h
      cases hverified
    · rename_i verifier hverifier
      split at h
      · cases h
      · rename_i evidence hsupplied
        rcases bind_eq_ok.mp h with ⟨verification, hanswer, h⟩
        rcases acceptVerification_ok h with ⟨hpositive, hdigestEq, hverifierAllowed⟩
        have hcommitted : (platform.sha256 evidence).tagged = evidenceDigest := by
          rw [hsupplied] at hevidence
          rcases bind_eq_ok.mp hevidence with ⟨_, _, hevidence⟩
          rcases bind_eq_ok.mp hevidence with ⟨_, _, hevidence⟩
          exact not_not.mp (refuse_eq_ok.mp hevidence)
        exact ⟨evidence, verifier, policyDigest, verification, hsupplied, hverifier,
          hcommitted ▸ (matching_eq_ok.mp hdigest).1, hpolicy,
          checkAllowed_ok hpins.2.2.2.1 hallowed, hhex, askVerifier_ok hanswer, hpositive,
          hdigestEq, checkAllowed_ok hpins.2.2.2.2 hverifierAllowed⟩
  · cases h

/-- Every accepted receipt carries the miner's signature over its body. -/
theorem verifyReceipt_signed {raw : Bytes} {receipt : VerifiedReceipt}
    (h : verifyReceipt platform context raw = .ok receipt) :
    CarriesSignature platform (receipt.document.get "signature") receipt.minerHotkey
      (receiptMessage receipt.document) := by
  rcases verifyReceipt_ok h with ⟨checks⟩
  exact (receiptCore_ok checks.core_ok).signed

theorem verifyReceipt_authorized {raw : Bytes} {receipt : VerifiedReceipt}
    (h : verifyReceipt platform context raw = .ok receipt)
    (hattested : receipt.attestationVerified = true) : Authorized platform context receipt := by
  rcases verifyReceipt_ok h with ⟨checks⟩
  have hhead := receiptHead_ok checks.head_ok
  have hcore := receiptCore_ok checks.core_ok
  have hwork := receiptWork_ok hcore.work
  rw [checks.attestationVerified_eq] at hattested
  rcases attest_ok checks.attested_ok hattested with ⟨hauthorized, hpins, hevidence⟩
  constructor
  · exact (boundedString_eq_ok.mp checks.validator_ok).1
  · exact hcore.authorized hauthorized
  · exact (boundedString_eq_ok.mp checks.miner_ok).1
  · exact hcore.signed
  · exact ⟨checks.head.model, _, hhead.model, hwork.weights, checkAllowed_ok hpins.1 hcore.model⟩
  · exact ⟨checks.head.runtime, _, _, hhead.runtime, hwork.image,
      checkAllowed_ok hpins.2.1 hcore.image, hwork.runner,
      checkAllowed_ok hpins.2.2.1 hcore.runner⟩
  · rw [checks.verifierDigest_eq]
    exact ⟨checks.head.attestation, hhead.attestation, hevidence⟩

/-- Accepted documents that differ in a field have different messages. -/
theorem verifyReceipt_binds {context' : ReceiptContext} {raw raw' : Bytes}
    {receipt other : VerifiedReceipt} (h : verifyReceipt platform context raw = .ok receipt)
    (hother : verifyReceipt platform context' raw' = .ok other) :
    BindsFields receipt.document other.document := by
  rcases verifyReceipt_ok h with ⟨checks⟩
  rcases verifyReceipt_ok hother with ⟨checks'⟩
  exact bindsFields_of_strict (openReceipt_strict checks.opened).1
    (openReceipt_strict checks'.opened).1

end Stages

/-! ## The guarantee -/

section Guarantee

variable {platform : ReceiptPlatform} {context : ReceiptContext} {raw : Bytes}

/-- The guarantee of an attested receipt. Whatever else is accepted carries signatures over
its own messages, which differ from those of this receipt in each field that differs. -/
structure Guarantee (platform : ReceiptPlatform) (context : ReceiptContext)
    (receipt : VerifiedReceipt) : Prop where
  expected : context.policy.expectedValidatorHotkey = some receipt.validatorHotkey
  authorized : Authorized platform context receipt
  tampered : ∀ context' raw' other, verifyReceipt platform context' raw' = .ok other →
    BindsFields receipt.document other.document ∧
      CarriesSignature platform (other.document.get "signature") other.minerHotkey
        (receiptMessage other.document) ∧
      (other.attestationVerified = true → Authorized platform context' other)

/-- A receipt that passes the checks up to a verified attestation, under a policy that names
no validator. -/
structure SelfAuthorized (platform : ReceiptPlatform) (context : ReceiptContext) (raw : Bytes) :
    Prop where
  unpinned : context.policy.expectedValidatorHotkey = none
  passes : ∃ fields network scope validatorHotkey minerHotkey head modelId core attested,
    openReceipt platform.toPlatform context.policy raw = .ok fields ∧
    boundedKey (fields.get "network") "receipt network" = .ok network ∧
    receiptScope context.policy fields network = .ok scope ∧
    boundedKey (fields.get "validator_hotkey") "validator hotkey" = .ok validatorHotkey ∧
    boundedKey (fields.get "miner_hotkey") "miner hotkey" = .ok minerHotkey ∧
    receiptHead context.policy context.now fields validatorHotkey = .ok head ∧
    boundedString (head.model.get "model_id") maxModelIdBytes "invalid model id" = .ok modelId ∧
    receiptCore platform context fields network scope validatorHotkey minerHotkey head =
      .ok core ∧
    attest platform.toPlatform context fields head.attestation core.authorized = .ok attested ∧
    attested.verified = true

/-- Attested receipts are guaranteed exactly if the policy names the validator, or the receipt
does not pass the other checks. -/
theorem attestation_guarantee_iff :
    (∀ receipt, verifyReceipt platform context raw = .ok receipt →
        receipt.attestationVerified = true → Guarantee platform context receipt) ↔
      ¬ SelfAuthorized platform context raw := by
  constructor
  · rintro h ⟨hunpinned, fields, network, scope, validatorHotkey, minerHotkey, head, modelId, core,
      attested, hopened, hnetwork, hscope, hvalidator, hminer, hhead, hmodel, hcore, hattested,
      hverified⟩
    have hrequired : ¬ (context.policy.requireAttestation = true ∧ attested.verified = false) := by
      rw [hverified]
      exact fun hboth => Bool.noConfusion hboth.2
    have hok : verifyReceipt platform context raw =
        .ok (receiptRecord fields scope validatorHotkey minerHotkey head core attested) :=
      bind_eq_ok.mpr ⟨fields, hopened, bind_eq_ok.mpr ⟨network, hnetwork,
        bind_eq_ok.mpr ⟨scope, hscope, bind_eq_ok.mpr ⟨validatorHotkey, hvalidator,
        bind_eq_ok.mpr ⟨minerHotkey, hminer, bind_eq_ok.mpr ⟨head, hhead,
        bind_eq_ok.mpr ⟨modelId, hmodel, bind_eq_ok.mpr ⟨core, hcore,
        bind_eq_ok.mpr ⟨attested, hattested,
        bind_eq_ok.mpr ⟨(), refuse_eq_ok.mpr hrequired, rfl⟩⟩⟩⟩⟩⟩⟩⟩⟩⟩
    have hexpected := (h _ hok hverified).expected
    rw [hunpinned] at hexpected
    cases hexpected
  · intro h receipt hok hattested
    refine ⟨?_, verifyReceipt_authorized hok hattested, fun context' raw' other hother =>
      ⟨verifyReceipt_binds hok hother, verifyReceipt_signed hother,
        verifyReceipt_authorized hother⟩⟩
    rcases verifyReceipt_ok hok with ⟨checks⟩
    cases hpolicy : context.policy.expectedValidatorHotkey with
    | some expected =>
      have hsame := (receiptHead_ok checks.head_ok).expected expected hpolicy
      rw [hsame]
    | none =>
      refine absurd ⟨hpolicy, ?_⟩ h
      exact ⟨_, _, _, _, _, _, checks.modelId, _, _, checks.opened, checks.network_ok,
        checks.scope_ok, checks.validator_ok, checks.miner_ok, checks.head_ok, checks.model_ok,
        checks.core_ok, checks.attested_ok, checks.attestationVerified_eq ▸ hattested⟩

end Guarantee

/-- A receipt that some validator authorized is accepted as attested under a policy that names
no validator. -/
theorem attestation_of_any_validator :
    ¬ ∀ receipt,
      verifyReceipt zeroReceipts (zeroContext none) (dumps (.obj quotedReceipt)) = .ok receipt →
        receipt.attestationVerified = true →
          Guarantee zeroReceipts (zeroContext none) receipt := by
  intro h
  have hexpected := (h zeroReceipt verifyReceipt_quoted rfl).expected
  cases hexpected

end Cathedral.Thin
