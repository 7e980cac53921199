import Cathedral.Thin.Documents
import Cathedral.Thin.ScoreClasses

/-!
# Cathedral.Thin.Reports — signed score reports

`verify_report` and `sign_report` of `cathedral_thin/score_classes.py`. The bytes
of a report come from anyone; everything up to the signature is checked on bytes
that nobody has vouched for.

The Ed25519 check is a parameter, as the hash is.

`escapes_verifyReport` says which bytes make the verifier raise something other than
`ThinSubnetError`: `ReportEscapes` follows the checks that the bytes pass up to a
string that cannot be encoded or a URL that cannot be split.
-/

namespace Cathedral.Thin

/-! ## The document of a report -/

def reportSchema : String := "cathedral_score_class_report_v1"

def maxReportBytes : ℕ := 1048576

def maxReportEntries : ℕ := 4096

def maxEvidencePerEntry : ℕ := 32

def maxMetricsPerEntry : ℕ := 32

/-- `b"<name>\x00"`. -/
def domainBytes (name : String) : Bytes := asciiBytes name.toList ++ [0]

def reportDomain : Bytes := domainBytes "cathedral-score-class-report-v1"

def reportIdDomain : Bytes := domainBytes "cathedral-score-class-id-v1"

def reportKeys : List String :=
  ["class_id", "complete", "entries", "generated_at", "netuid", "network", "policy_digest",
    "previous_report_id", "report_id", "schema", "signature", "signing_key_id", "source_epoch",
    "source_id", "valid_from_block", "valid_until", "valid_until_block", "verifier_digest"]

def entryKeys : List String :=
  ["asserted_score", "evidence", "metrics", "miner_hotkey", "reason_codes"]

def evidenceKeys : List String := ["digest", "id", "kind", "uri"]

def signatureKeys : List String := ["algorithm", "value_base64"]

def reportIdFor (platform : Platform) (fields : Fields) : Except Exc String := do
  let body ← canonicalJson platform (.obj (fields.without ["report_id", "signature"]))
  pure (platform.sha256 (reportIdDomain ++ body)).tagged

/-- The bytes that the signature of a report covers. -/
def reportMessage (platform : Platform) (fields : Fields) : Except Exc Bytes := do
  let body ← canonicalJson platform (.obj (fields.without ["signature"]))
  pure (reportDomain ++ body)

/-- `document[name] = value` for a new key. -/
def Fields.set (fields : Fields) (name : String) (value : Document) : Fields :=
  fields ++ [(PyStr.ofString name, value)]

/-- `{"algorithm": algorithm, "value_base64": ...}`. -/
def signatureObject (algorithm : String) (signature : Bytes) : Document :=
  .obj [(PyStr.ofString "algorithm", strConst algorithm),
    (PyStr.ofString "value_base64", strConst (String.ofList (Base64.encode signature)))]

/-- `sign_report`; `sign` is the private key. -/
def signReport (platform : Platform) (sign : Bytes → Bytes) (fields : Fields) :
    Except Exc Bytes := do
  refuse (PyStr.ofString "report_id" ∈ fields.map Prod.fst ∨
      PyStr.ofString "signature" ∈ fields.map Prod.fst)
    "unsigned report must omit report_id and signature"
  let reportId ← reportIdFor platform fields
  let signed := fields.set "report_id" (strConst reportId)
  let message ← reportMessage platform signed
  canonicalJson platform (.obj (signed.set "signature" (signatureObject "ed25519" (sign message))))

/-! ## Entries -/

/-- `{_identifier(name): _decimal(raw) for name, raw in metrics.items()}`. -/
def parseMetrics (value : Document) : Except Exc (Dict String ℚ) := do
  let metrics ← object value "entry metrics must be a bounded object"
  refuse (maxMetricsPerEntry < metrics.length) "entry metrics must be a bounded object"
  let parsed ← metrics.mapM fun metric => do
    let name ← matching isIdentifier (.str metric.1) "invalid metric name"
    let score ← decimal metric.2
      ("metric " ++ name ++ " must be a canonical non-negative decimal string")
    pure (name, score)
  pure (Dict.ofList parsed)

def parseAssertedScore (value : Document) : Except Exc (Option ℚ) :=
  match value with
  | .null => pure none
  | value =>
    some <$> decimal value "asserted score must be a canonical non-negative decimal string"

/-- A sorted list of distinct reason codes. -/
def parseReasons (value : Document) : Except Exc (List String) := do
  let message := "reason_codes must be a sorted unique non-empty list"
  match value with
  | .arr items => do
    refuse (¬ (1 ≤ items.length ∧ items.length ≤ 32)) message
    let reasons ← items.mapM fun item => matching isIdentifier item message
    refuse (¬ reasons.Pairwise (· < ·)) message
    pure reasons
  | _ => fail message

/-- The fields of an evidence reference before its URI. -/
def parseEvidenceHead (fields : Fields) : Except Exc (String × String × String) := do
  requireExactKeys fields evidenceKeys "evidence reference"
  let kind ← matching isIdentifier (fields.get "kind") "invalid evidence kind"
  let id ← matching isReportDigest (fields.get "id") "invalid evidence id"
  let digest ← matching isReportDigest (fields.get "digest") "invalid evidence digest"
  pure (kind, id, digest)

/-- The URI of an evidence reference, when it has one. -/
def parseEvidenceUri (platform : Platform) (value : Document) : Except Exc (Option String) :=
  match value with
  | .null => pure none
  | value => do
    let uri ← boundedString value 2048 "evidence URI is invalid"
    let url ← splitUrl platform uri
    refuse (¬ CredentialFree url) "evidence URI must be credential-free HTTPS or IPFS"
    pure (some uri)

def parseEvidence (platform : Platform) (value : Document) : Except Exc EvidenceRef := do
  let fields ← object value "evidence reference must be an object"
  let (kind, id, digest) ← parseEvidenceHead fields
  let uri ← parseEvidenceUri platform (fields.get "uri")
  pure { kind := kind, id := id, digest := digest, uri := uri }

/-- One pass of the loop over the evidence of an entry. -/
def evidenceStep (platform : Platform) (seen : List EvidenceRef) (value : Document) :
    Except Exc (List EvidenceRef) := do
  let evidence ← parseEvidence platform value
  refuse ((evidence.kind, evidence.id) ∈ seen.map fun e => (e.kind, e.id))
    "duplicate evidence reference"
  pure (seen ++ [evidence])

def parseEvidenceList (platform : Platform) (value : Document) :
    Except Exc (List EvidenceRef) :=
  match value with
  | .arr items => do
    refuse (maxEvidencePerEntry < items.length) "evidence must be a bounded list"
    items.foldlM (evidenceStep platform) []
  | _ => fail "evidence must be a bounded list"

/-- The fields of an entry between its hotkey and its evidence. -/
def parseEntryScores (fields : Fields) :
    Except Exc (Dict String ℚ × Option ℚ × List String) := do
  let metrics ← parseMetrics (fields.get "metrics")
  let asserted ← parseAssertedScore (fields.get "asserted_score")
  let reasons ← parseReasons (fields.get "reason_codes")
  pure (metrics, asserted, reasons)

def parseEntryFields (value : Document) : Except Exc Fields := do
  let fields ← object value "score entry must be an object"
  requireExactKeys fields entryKeys "score entry"
  pure fields

def parseEntry (platform : Platform) (value : Document) : Except Exc ScoreEntry := do
  let fields ← parseEntryFields value
  let hotkey ← boundedString (fields.get "miner_hotkey") 512 "invalid miner hotkey"
  let (metrics, asserted, reasons) ← parseEntryScores fields
  let evidence ← parseEvidenceList platform (fields.get "evidence")
  pure
    { minerHotkey := hotkey
      metrics := metrics
      assertedScore := asserted
      reasonCodes := reasons
      evidence := evidence }

/-! ## Verification -/

/-- What `verify_report` is told besides the bytes: the class policy, the chain and
the clock. -/
structure ReportContext where
  policy : ExternalClassPolicy
  network : String
  netuid : ℤ
  currentBlock : ℤ
  now : UtcTime

/-- The document of a report, before any of its fields is used. -/
def openReport (platform : Platform) (context : ReportContext) (raw : Bytes) :
    Except Exc Fields := do
  refuse (context.netuid < 0 ∨ context.currentBlock < 0)
    "validator network, netuid, or block is invalid"
  let fields ← parseStrictJson platform raw maxReportBytes
  let canonical ← canonicalJson platform (.obj fields)
  refuse (raw ≠ canonical) "score report JSON must be canonical"
  requireExactKeys fields reportKeys "score report"
  refuse (fields.get "schema" ≠ strConst reportSchema ∨ fields.get "complete" ≠ .bool true)
    "unsupported or incomplete score report"
  pure fields

/-- The chain, the class and the blocks of a report; the result is its epoch and window. -/
def checkReportScope (context : ReportContext) (fields : Fields) (network : String) :
    Except Exc (ℤ × ℤ × ℤ) := do
  let netuid ← nonnegativeInt (fields.get "netuid") "score report network or netuid is invalid"
  refuse (network ≠ context.network ∨ netuid ≠ context.netuid)
    "score report network or netuid mismatch"
  refuse (fields.get "class_id" ≠ strConst context.policy.classId ∨
      fields.get "source_id" ≠ strConst context.policy.sourceId)
    "score report class or source mismatch"
  let sourceEpoch ← nonnegativeInt (fields.get "source_epoch") "invalid source epoch"
  let firstBlock ← nonnegativeInt (fields.get "valid_from_block") "invalid valid_from_block"
  let lastBlock ← nonnegativeInt (fields.get "valid_until_block") "invalid valid_until_block"
  refuse (context.currentBlock < firstBlock ∨ lastBlock ≤ context.currentBlock)
    "score report is outside its authorized block window"
  refuse (lastBlock ≤ firstBlock ∨ context.policy.maxBlockSpan < lastBlock - firstBlock)
    "score report block window is invalid or too wide"
  pure (sourceEpoch, firstBlock, lastBlock)

/-- The times of a report; an age counts in microseconds. -/
def checkReportTimes (context : ReportContext) (fields : Fields) : Except Exc Unit := do
  let generatedAt ← parseTime (fields.get "generated_at") "generated_at"
  let validUntil ← parseTime (fields.get "valid_until") "valid_until"
  let age := context.now.micros - generatedAt.micros
  refuse (age < -context.policy.maxFutureSeconds * 1000000 ∨
      context.policy.maxAgeSeconds * 1000000 < age)
    "score report generation time is stale or future-dated"
  refuse (¬ generatedAt.micros < validUntil.micros ∨ validUntil.micros ≤ context.now.micros)
    "score report validity window has expired"

structure ReportDigests where
  policyDigest : String
  verifierDigest : String
  previousReportId : Option String
  reportId : String

def checkReportDigests (platform : Platform) (fields : Fields) : Except Exc ReportDigests := do
  let policyDigest ← matching isReportDigest (fields.get "policy_digest") "invalid policy digest"
  let verifierDigest ← matching isReportDigest (fields.get "verifier_digest")
    "invalid verifier digest"
  let previous ←
    (match fields.get "previous_report_id" with
      | .null => pure none
      | value => some <$> matching isReportDigest value "invalid previous report id" :
        Except Exc (Option String))
  let reportId ← matching isReportDigest (fields.get "report_id") "invalid report id"
  let expected ← reportIdFor platform fields
  refuse (reportId ≠ expected) "score report id does not match its canonical body"
  pure
    { policyDigest := policyDigest
      verifierDigest := verifierDigest
      previousReportId := previous
      reportId := reportId }

/-- The signature of a report under a key that the class trusts; the result is the key id. -/
def checkReportSignature (platform : Platform) (ed25519 : PublicKey → Bytes → Bytes → Bool)
    (policy : ExternalClassPolicy) (fields : Fields) : Except Exc String := do
  let signingKeyId ← matching isKeyId (fields.get "signing_key_id") "invalid signing key id"
  match policy.trustedKeys.get? signingKeyId with
  | none => fail "score report signing key is not locally trusted"
  | some key => do
    let signature ← object (fields.get "signature") "score report signature must be an object"
    requireExactKeys signature signatureKeys "score report signature"
    refuse (signature.get "algorithm" ≠ strConst "ed25519")
      "unsupported score report signature algorithm"
    let bytes ← base64Bytes (signature.get "value_base64") 64
      "score report signature is not canonical base64"
      "score report signature must be 64 bytes"
    let message ← reportMessage platform fields
    refuse (ed25519 key bytes message = false) "score report signature verification failed"
    pure signingKeyId

/-- Everything of a report but its entries. -/
def verifyEnvelope (platform : Platform) (ed25519 : PublicKey → Bytes → Bytes → Bool)
    (context : ReportContext) (fields : Fields) (network : String) :
    Except Exc VerifiedReport := do
  let (sourceEpoch, firstBlock, lastBlock) ← checkReportScope context fields network
  checkReportTimes context fields
  let digests ← checkReportDigests platform fields
  let signingKeyId ← checkReportSignature platform ed25519 context.policy fields
  pure
    { classId := context.policy.classId
      sourceId := context.policy.sourceId
      sourceEpoch := sourceEpoch
      reportId := digests.reportId
      previousReportId := digests.previousReportId
      validFromBlock := firstBlock
      validUntilBlock := lastBlock
      policyDigest := digests.policyDigest
      verifierDigest := digests.verifierDigest
      signingKeyId := signingKeyId
      entries := [] }

/-- The entries of a report, in the order of their hotkeys. -/
def parseEntries (platform : Platform) (value : Document) : Except Exc (List ScoreEntry) :=
  match value with
  | .arr items => do
    refuse (maxReportEntries < items.length) "score report entries must be a bounded list"
    let entries ← items.mapM (parseEntry platform)
    refuse (¬ (entries.map ScoreEntry.minerHotkey).Pairwise (· < ·))
      "score report entries must have sorted unique hotkeys"
    pure entries
  | _ => fail "score report entries must be a bounded list"

def verifyReport (platform : Platform) (ed25519 : PublicKey → Bytes → Bytes → Bool)
    (context : ReportContext) (raw : Bytes) : Except Exc VerifiedReport := do
  let fields ← openReport platform context raw
  let network ← boundedString (fields.get "network") 128
    "score report network or netuid is invalid"
  let report ← verifyEnvelope platform ed25519 context fields network
  let entries ← parseEntries platform (fields.get "entries")
  pure { report with entries := entries }

/-! ## What escapes the verifier -/

section Escapes

variable {platform : Platform} {ed25519 : PublicKey → Bytes → Bytes → Bool}
  {context : ReportContext}

/-- A URI with a lone surrogate, or of admissible size that `urlsplit` refuses. -/
def UriEscapes (platform : Platform) (value : Document) : Prop :=
  Unencodable value ∨ ∃ uri, boundedString value 2048 "evidence URI is invalid" = .ok uri ∧
    Url.urlsplit platform.urls uri.toList = none

/-- An evidence reference that is fine up to such a URI. -/
def EvidenceEscapes (platform : Platform) (value : Document) : Prop :=
  ∃ (fields : Fields) (head : String × String × String), value = .obj fields ∧ parseEvidenceHead fields = .ok head ∧
    UriEscapes platform (fields.get "uri")

/-- A bounded list of evidence that is fine up to such a reference. -/
def EvidenceListEscapes (platform : Platform) (value : Document) : Prop :=
  ∃ before item after seen, value = .arr (before ++ item :: after) ∧
    (before ++ item :: after).length ≤ maxEvidencePerEntry ∧
    before.foldlM (evidenceStep platform) [] = .ok seen ∧ EvidenceEscapes platform item

/-- A score entry whose hotkey has a lone surrogate, or that is fine up to its evidence. -/
def EntryEscapes (platform : Platform) (value : Document) : Prop :=
  ∃ fields, parseEntryFields value = .ok fields ∧
    (Unencodable (fields.get "miner_hotkey") ∨
      ∃ hotkey scores,
        boundedString (fields.get "miner_hotkey") 512 "invalid miner hotkey" = .ok hotkey ∧
        parseEntryScores fields = .ok scores ∧ EvidenceListEscapes platform (fields.get "evidence"))

/-- A bounded list of entries that are fine up to such an entry. -/
def EntriesEscape (platform : Platform) (value : Document) : Prop :=
  ∃ before item after, value = .arr (before ++ item :: after) ∧
    (before ++ item :: after).length ≤ maxReportEntries ∧
    (∀ earlier ∈ before, ∃ entry, parseEntry platform earlier = .ok entry) ∧
    EntryEscapes platform item

/-- A canonical report whose network has a lone surrogate, which needs no signature; or
one with a trusted signature whose entries escape. -/
def ReportEscapes (platform : Platform) (ed25519 : PublicKey → Bytes → Bytes → Bool)
    (context : ReportContext) (raw : Bytes) : Prop :=
  ∃ fields, openReport platform context raw = .ok fields ∧
    (Unencodable (fields.get "network") ∨
      ∃ network report,
        boundedString (fields.get "network") 128 "score report network or netuid is invalid" =
          .ok network ∧
        verifyEnvelope platform ed25519 context fields network = .ok report ∧
        EntriesEscape platform (fields.get "entries"))

theorem escapes_parseEvidenceUri {value : Document} :
    Escapes (parseEvidenceUri platform value) ↔ UriEscapes platform value := by
  unfold parseEvidenceUri UriEscapes
  split
  · constructor
    · intro h
      exact absurd h (isolated_pure none).not_escapes
    · rintro (⟨_, h, _⟩ | ⟨_, h, _⟩)
      · cases h
      · cases h
  · rw [escapes_bind_iff, escapes_boundedString]
    have hsplit : ∀ uri, Escapes (do
        let url ← splitUrl platform uri
        refuse (¬ CredentialFree url) "evidence URI must be credential-free HTTPS or IPFS"
        pure (some uri)) ↔ Url.urlsplit platform.urls uri.toList = none := by
      intro uri
      rw [escapes_bind_iff_left fun url _ => isolated_refuse.bind fun _ _ => isolated_pure _,
        escapes_splitUrl]
    simp only [hsplit]

theorem isolated_parseEvidenceHead (fields : Fields) : Isolated (parseEvidenceHead fields) := by
  simp [parseEvidenceHead]

theorem object_eq_ok {value : Document} {message : String} {fields : Fields} :
    object value message = .ok fields ↔ value = .obj fields := by
  cases value <;> simp [object, fail, pure, Except.pure]

theorem escapes_parseEvidence {value : Document} :
    Escapes (parseEvidence platform value) ↔ EvidenceEscapes platform value := by
  unfold parseEvidence EvidenceEscapes
  rw [(isolated_object _ _).escapes_bind_iff]
  simp only [object_eq_ok]
  constructor
  · rintro ⟨fields, hfields, h⟩
    rcases (isolated_parseEvidenceHead fields).escapes_bind_iff.mp h with ⟨head, hhead, h⟩
    refine ⟨fields, head, hfields, hhead, ?_⟩
    exact escapes_parseEvidenceUri.mp ((escapes_bind_iff_left fun _ _ => isolated_pure _).mp h)
  · rintro ⟨fields, head, hfields, hhead, h⟩
    refine ⟨fields, hfields, (isolated_parseEvidenceHead fields).escapes_bind_iff.mpr
      ⟨head, hhead, ?_⟩⟩
    exact (escapes_bind_iff_left fun _ _ => isolated_pure _).mpr (escapes_parseEvidenceUri.mpr h)

theorem escapes_parseEvidenceList {value : Document} :
    Escapes (parseEvidenceList platform value) ↔ EvidenceListEscapes platform value := by
  have hstep : ∀ seen item, Escapes (evidenceStep platform seen item) ↔
      EvidenceEscapes platform item := by
    intro seen item
    unfold evidenceStep
    rw [escapes_bind_iff_left fun _ _ => isolated_refuse.bind fun _ _ => isolated_pure _,
      escapes_parseEvidence]
  unfold parseEvidenceList EvidenceListEscapes
  split
  · rename_i items
    rw [isolated_refuse.escapes_bind_iff]
    simp only [refuse_eq_ok, not_lt, escapes_foldlM_iff, hstep, Json.arr.injEq]
    constructor
    · rintro ⟨_, hlength, before, item, after, seen, rfl, hbefore, hitem⟩
      exact ⟨before, item, after, seen, rfl, hlength, hbefore, hitem⟩
    · rintro ⟨before, item, after, seen, rfl, hlength, hbefore, hitem⟩
      exact ⟨(), hlength, before, item, after, seen, rfl, hbefore, hitem⟩
  · rename_i hother
    constructor
    · intro h
      exact absurd h (isolated_fail _).not_escapes
    · rintro ⟨before, item, after, _, rfl, _⟩
      exact absurd rfl (hother _)

theorem isolated_parseEntryScores (fields : Fields) : Isolated (parseEntryScores fields) := by
  refine Isolated.bind ?_ fun metrics _ => Isolated.bind ?_ fun asserted _ =>
    Isolated.bind ?_ fun reasons _ => isolated_pure _
  · refine (isolated_object _ _).bind fun metrics _ => isolated_refuse.bind fun _ _ => ?_
    refine (isolated_mapM _ fun metric => ?_).bind fun parsed _ => isolated_pure _
    simp
  · unfold parseAssertedScore
    split <;> simp
  · unfold parseReasons
    split
    · refine isolated_refuse.bind fun _ _ => (isolated_mapM _ fun reason => ?_).bind fun _ _ => ?_
      · exact isolated_matching _ _ _
      · simp
    · simp

theorem isolated_parseEntryFields (value : Document) : Isolated (parseEntryFields value) := by
  simp [parseEntryFields]

theorem escapes_parseEntry {value : Document} :
    Escapes (parseEntry platform value) ↔ EntryEscapes platform value := by
  have hrest : ∀ fields hotkey, Escapes (do
      let (metrics, asserted, reasons) ← parseEntryScores fields
      let evidence ← parseEvidenceList platform (fields.get "evidence")
      pure
        { minerHotkey := hotkey
          metrics := metrics
          assertedScore := asserted
          reasonCodes := reasons
          evidence := evidence : ScoreEntry }) ↔
      ∃ scores, parseEntryScores fields = .ok scores ∧
        EvidenceListEscapes platform (fields.get "evidence") := by
    intro fields hotkey
    rw [(isolated_parseEntryScores fields).escapes_bind_iff]
    refine exists_congr fun scores => and_congr_right fun _ => ?_
    exact (escapes_bind_iff_left fun _ _ => isolated_pure _).trans escapes_parseEvidenceList
  unfold parseEntry EntryEscapes
  rw [(isolated_parseEntryFields value).escapes_bind_iff]
  refine exists_congr fun fields => and_congr_right fun _ => ?_
  rw [escapes_bind_iff, escapes_boundedString]
  simp only [hrest, exists_and_left]

theorem escapes_parseEntries {value : Document} :
    Escapes (parseEntries platform value) ↔ EntriesEscape platform value := by
  unfold parseEntries EntriesEscape
  split
  · rename_i items
    rw [isolated_refuse.escapes_bind_iff]
    simp only [refuse_eq_ok, not_lt, Json.arr.injEq]
    have hmap : Escapes (do
        let entries ← items.mapM (parseEntry platform)
        refuse (¬ (entries.map ScoreEntry.minerHotkey).Pairwise (· < ·))
          "score report entries must have sorted unique hotkeys"
        pure entries) ↔ Escapes (items.mapM (parseEntry platform)) :=
      escapes_bind_iff_left fun _ _ => isolated_refuse.bind fun _ _ => isolated_pure _
    simp only [hmap, escapes_mapM_iff, escapes_parseEntry]
    constructor
    · rintro ⟨_, hlength, before, item, after, rfl, hbefore, hitem⟩
      exact ⟨before, item, after, rfl, hlength, hbefore, hitem⟩
    · rintro ⟨before, item, after, rfl, hlength, hbefore, hitem⟩
      exact ⟨(), hlength, before, item, after, rfl, hbefore, hitem⟩
  · rename_i hother
    constructor
    · intro h
      exact absurd h (isolated_fail _).not_escapes
    · rintro ⟨before, item, after, rfl, _⟩
      exact absurd rfl (hother _)

theorem isolated_openReport (raw : Bytes) : Isolated (openReport platform context raw) := by
  simp [openReport]

@[simp] theorem isolated_checkReportScope (fields : Fields) (network : String) :
    Isolated (checkReportScope context fields network) := by
  simp [checkReportScope]

@[simp] theorem isolated_checkReportTimes (fields : Fields) :
    Isolated (checkReportTimes context fields) := by
  simp [checkReportTimes]

@[simp] theorem isolated_checkReportDigests (fields : Fields) :
    Isolated (checkReportDigests platform fields) := by
  refine (isolated_matching _ _ _).bind fun policyDigest _ => ?_
  refine (isolated_matching _ _ _).bind fun verifierDigest _ => Isolated.bind ?_ fun previous _ => ?_
  · split <;> simp
  · simp [reportIdFor]

@[simp] theorem isolated_checkReportSignature (policy : ExternalClassPolicy) (fields : Fields) :
    Isolated (checkReportSignature platform ed25519 policy fields) := by
  refine (isolated_matching _ _ _).bind fun signingKeyId _ => ?_
  split <;> simp [reportMessage]

theorem isolated_verifyEnvelope (fields : Fields) (network : String) :
    Isolated (verifyEnvelope platform ed25519 context fields network) := by
  simp [verifyEnvelope]

/-- The bytes on which the verifier raises something other than `ThinSubnetError`. -/
theorem escapes_verifyReport {raw : Bytes} :
    Escapes (verifyReport platform ed25519 context raw) ↔
      ReportEscapes platform ed25519 context raw := by
  have hrest : ∀ fields network, Escapes (do
      let report ← verifyEnvelope platform ed25519 context fields network
      let entries ← parseEntries platform (fields.get "entries")
      pure { report with entries := entries }) ↔
      ∃ report, verifyEnvelope platform ed25519 context fields network = .ok report ∧
        EntriesEscape platform (fields.get "entries") := by
    intro fields network
    rw [(isolated_verifyEnvelope fields network).escapes_bind_iff]
    refine exists_congr fun report => and_congr_right fun _ => ?_
    exact (escapes_bind_iff_left fun _ _ => isolated_pure _).trans escapes_parseEntries
  unfold verifyReport ReportEscapes
  rw [(isolated_openReport raw).escapes_bind_iff]
  refine exists_congr fun fields => and_congr_right fun _ => ?_
  rw [escapes_bind_iff, escapes_boundedString]
  simp only [hrest, exists_and_left]

end Escapes

end Cathedral.Thin
