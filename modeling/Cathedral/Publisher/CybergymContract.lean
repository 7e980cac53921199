import Cathedral.Lib.PyDatetime
import Cathedral.Lib.SqlCell

/-!
# Cathedral.Publisher.CybergymContract — the CyberGym score document

`scaffold/publisher/cybergym_contract.py`, shared by the route that stores producer
documents and by the adapter that reads them back: the one normal form of a wire
document, its canonical bytes and digest, the HMAC over the raw body, and
`verify_stored_report`.

The hash, the HMAC and the shortest text of a float are parameters, and so is what a
platform makes of `strftime("%Y")`. An error keeps its machine-readable reason; its
detail is `none` where the text is that of a library exception.
-/

namespace Cathedral.Publisher.Cybergym

/-- What the code takes from the interpreter and its libraries. -/
structure Interp where
  numbers : PyNumbers
  /-- Containers that the JSON reader opens before it raises `RecursionError`. -/
  readDepth : ℕ
  floatRepr : ℚ → List Char
  padsYear : Bool
  /-- `hashlib.sha256(body).hexdigest()`. -/
  sha256Hex : Bytes → String
  /-- `hmac.new(key, body, hashlib.sha256).hexdigest()`. -/
  hmacHex : Bytes → Bytes → String

/-! ## The document -/

/-- The normalized semantic form; `complete` is always true. -/
structure Document where
  producerHotkey : PyStr
  network : PyStr
  netuid : ℤ
  sourceEpoch : ℤ
  generatedAt : PyStr
  scoreUnits : PyStr
  scores : Dict PyStr ℚ
  evidenceSha256 : PyStr

def semanticKeys : List PyStr :=
  ["producer_hotkey", "network", "netuid", "source_epoch", "generated_at", "complete",
    "score_units", "scores", "evidence_sha256"].map PyStr.ofString

/-- The document as `json.dumps` takes it. -/
def Document.members (d : Document) : List (PyStr × PyJson.Value) :=
  semanticKeys.zip
    [.str d.producerHotkey, .str d.network, .num (.int d.netuid), .num (.int d.sourceEpoch),
      .str d.generatedAt, .bool true, .str d.scoreUnits,
      .obj (d.scores.items.map fun kv => (kv.1, .num (.float (.finite kv.2)))),
      .str d.evidenceSha256]

/-- `json.dumps` of a number. -/
def Interp.numeral (I : Interp) : PyNumber → List Char
  | .int n => Json.intNumeral n
  | .float (.finite q) => I.floatRepr q
  | .float .nan => "NaN".toList
  | .float .posInf => "Infinity".toList
  | .float .negInf => "-Infinity".toList

/-- `canonical_report_bytes` of a semantic document. -/
def canonicalReportBytes (I : Interp) (d : Document) : Bytes :=
  asciiBytes (Json.render I.numeral (Json.obj d.members).sorted)

def reportDigest (I : Interp) (d : Document) : String := I.sha256Hex (canonicalReportBytes I d)

def receiptId (I : Interp) (digest : String) : String :=
  "cyg-" ++ String.ofList ((I.sha256Hex (encodeUtf8
    ("cathedral:cybergym-scores:v1\x00" ++ digest).toList)).toList.take 32)

/-! ## Normalization -/

/-- What `normalize_semantic_document` raises. -/
inductive SemanticFault where
  | missing (keys : List PyStr)
  | unexpected
  | invalidDocument
  | generatedAt
  | overflow
  | invalidScore
  | invalidHotkey

/-- Its text, unless a library wrote it. -/
def SemanticFault.detail : SemanticFault → Option PyStr
  | .missing keys =>
    some (PyStr.ofString "missing " ++ (keys.intersperse (PyStr.ofString ",")).flatten)
  | .unexpected => some (PyStr.ofString "unexpected semantic fields")
  | .invalidDocument => some (PyStr.ofString "invalid semantic document")
  | .generatedAt | .overflow => none
  | .invalidScore => some (PyStr.ofString "invalid score")
  | .invalidHotkey => some (PyStr.ofString "invalid score hotkey")

/-- The fields of a wire document whose types pass. -/
structure WireFields where
  producer : PyStr
  network : PyStr
  netuid : ℤ
  sourceEpoch : ℤ
  generatedAt : PyStr
  scoreUnits : PyStr
  scores : List (PyStr × PyJson.Value)
  evidence : PyStr

abbrev Members : Type := List (PyStr × PyJson.Value)

def field (members : Members) (key : String) : Option PyJson.Value :=
  Dict.find (PyStr.ofString key) members

def strField (members : Members) (key : String) : Option PyStr :=
  match field members key with
  | some (.str s) => some s
  | _ => none

def intField (members : Members) (key : String) : Option ℤ :=
  match field members key with
  | some (.num (.int n)) => some n
  | _ => none

def objField (members : Members) (key : String) : Option Members :=
  match field members key with
  | some (.obj inner) => some inner
  | _ => none

/-- The `isinstance` checks; `complete` must be `True` itself. -/
def wireFields (members : Members) : Option WireFields := do
  let producer ← strField members "producer_hotkey"
  let network ← strField members "network"
  let netuid ← intField members "netuid"
  let sourceEpoch ← intField members "source_epoch"
  let generatedAt ← strField members "generated_at"
  let complete ← field members "complete"
  let scoreUnits ← strField members "score_units"
  let scores ← objField members "scores"
  let evidence ← strField members "evidence_sha256"
  if complete = .bool true then
    some ⟨producer, network, netuid, sourceEpoch, generatedAt, scoreUnits, scores, evidence⟩
  else none

/-- `float(value)` of a number; `none` where it raises `OverflowError`. -/
def Interp.toFloat (I : Interp) : PyNumber → Option PyFloat
  | .int n => I.numbers.floatOfInt n
  | .float x => some x

/-- A score that passes its checks. -/
def scoreOf (I : Interp) : PyJson.Value → Except SemanticFault ℚ
  | .num n =>
    match I.toFloat n with
    | none => .error .overflow
    | some (.finite q) => if 0 ≤ q then .ok q else .error .invalidScore
    | some _ => .error .invalidScore
  | _ => .error .invalidScore

def addScore (I : Interp) (scores : Dict PyStr ℚ) (entry : PyStr × PyJson.Value) :
    Except SemanticFault (Dict PyStr ℚ) := do
  let score ← scoreOf I entry.2
  let hotkey := PyStr.strip entry.1
  if hotkey = [] ∨ hotkey ∈ scores.keys then .error .invalidHotkey
  else .ok (scores.set hotkey score)

/-- The text of a timestamp in its canonical form. -/
def canonicalAt (I : Interp) (text : PyStr) : Except SemanticFault PyStr :=
  match readIso text with
  | none => .error .generatedAt
  | some t =>
    match t.utc? with
    | none => .error .overflow
    | some moment => .ok ((msIso I.padsYear moment).map CodePoint.ofChar)

/-- The normalized document of checked fields, a timestamp and scores. -/
def WireFields.document (wire : WireFields) (generatedAt : PyStr) (scores : Dict PyStr ℚ) :
    Document where
  producerHotkey := PyStr.strip wire.producer
  network := wire.network
  netuid := wire.netuid
  sourceEpoch := wire.sourceEpoch
  generatedAt := generatedAt
  scoreUnits := wire.scoreUnits
  scores := scores
  evidenceSha256 := wire.evidence

def normalizeSemanticDocument (I : Interp) (members : Members) : Except SemanticFault Document :=
  let keys := members.map Prod.fst
  let missing := semanticKeys.filter (· ∉ keys)
  if missing ≠ [] then .error (.missing missing)
  else if keys.any (· ∉ semanticKeys) then .error .unexpected
  else
    match wireFields members with
    | none => .error .invalidDocument
    | some wire => do
      let generatedAt ← canonicalAt I wire.generatedAt
      let scores ← wire.scores.foldlM (addScore I) Dict.empty
      pure (wire.document generatedAt scores)

/-! ## Authentication -/

def constantTimeEqual (supplied expected : PyStr) : Bool :=
  (PyStr.encode? supplied).isSome && supplied = expected

def bodyHmacHex (I : Interp) (secret : String) (body : Bytes) : String :=
  I.hmacHex (encodeUtf8 secret.toList) body

def stripSha256Prefix (signature : PyStr) : PyStr :=
  let supplied := PyStr.strip signature
  let mark := PyStr.ofString "sha256="
  if mark <+: supplied then supplied.drop mark.length else supplied

/-- `verify_body_hmac`; an empty secret never passes. -/
def verifyBodyHmac (I : Interp) (secret : String) (body : Bytes) (signature : PyStr) : Bool :=
  secret ≠ "" && signature ≠ [] &&
    constantTimeEqual (stripSha256Prefix signature) (PyStr.ofString (bodyHmacHex I secret body))

/-- `SHA256_HEX_RE.fullmatch`. -/
def isSha256Hex (text : PyStr) : Bool :=
  text.length = 64 &&
    text.all fun p => (48 ≤ p.val && p.val ≤ 57) || (97 ≤ p.val && p.val ≤ 102)

/-! ## Reading back -/

inductive Reason where
  | bodyMissing
  | bodyDigestMismatch
  | signatureUnverifiable
  | signatureInvalid
  | malformedReport
  | authenticatedSemanticsMismatch
  | reportDigestMismatch
  | headerMismatch
  | rowsTampered

def Reason.text : Reason → String
  | .bodyMissing => "body_missing"
  | .bodyDigestMismatch => "body_digest_mismatch"
  | .signatureUnverifiable => "signature_unverifiable"
  | .signatureInvalid => "signature_invalid"
  | .malformedReport => "malformed_report"
  | .authenticatedSemanticsMismatch => "authenticated_semantics_mismatch"
  | .reportDigestMismatch => "report_digest_mismatch"
  | .headerMismatch => "header_mismatch"
  | .rowsTampered => "rows_tampered"

structure ReportVerificationError where
  reason : Reason
  detail : Option PyStr

/-- The header of a stored report, as the reader's mapping holds it. -/
structure StoredReport where
  reportId : PyStr
  network : PyStr
  netuid : ℤ
  sourceEpoch : ℤ
  producerHotkey : PyStr
  complete : Bool
  generatedAtIso : PyStr
  reportSha256 : PyStr
  bodySha256 : PyStr
  scoreCount : ℤ
  signature : PyStr
  authenticatedBody : TextCell
  reportJson : TextCell

structure Verified where
  document : Document
  scores : Dict PyStr ℚ

/-- Raise unless a check passes. -/
def require (passes : Bool) (reason : Reason) (detail : PyStr) :
    Except ReportVerificationError Unit :=
  if passes then .ok () else .error ⟨reason, some detail⟩

/-- The semantic document of the authenticated bytes. -/
def authenticatedDocument (I : Interp) (raw : Bytes) : Except ReportVerificationError Document :=
  match PyJson.loads I.numbers I.readDepth raw with
  | none => .error ⟨.malformedReport, some (PyStr.ofString "body is not JSON")⟩
  | some (.obj members) =>
    match normalizeSemanticDocument I members with
    | .error fault => .error ⟨.malformedReport, fault.detail⟩
    | .ok document => .ok document
  | some _ => .error ⟨.malformedReport, some (PyStr.ofString "body is not an object")⟩

/-- The columns that must agree with the document. -/
def checkHeader (header : StoredReport) (d : Document) : Except ReportVerificationError Unit := do
  let mismatch (column : String) (agrees : Bool) : Except ReportVerificationError Unit :=
    require agrees .headerMismatch (PyStr.ofString column)
  mismatch "producer_hotkey" (header.producerHotkey = d.producerHotkey)
  mismatch "network" (header.network = d.network)
  mismatch "netuid" (header.netuid = d.netuid)
  mismatch "source_epoch" (header.sourceEpoch = d.sourceEpoch)
  mismatch "generated_at_iso" (header.generatedAtIso = d.generatedAt)
  mismatch "complete" header.complete
  mismatch "score_count" (header.scoreCount = d.scores.items.length)

/-- The projection must match the document exactly. -/
def checkRows (rows : Dict PyStr PyFloat) (scores : Dict PyStr ℚ) :
    Except ReportVerificationError Unit := do
  require (rows.keys.all (· ∈ scores.keys) && scores.keys.all (· ∈ rows.keys)) .rowsTampered
    (PyStr.ofString "hotkey set")
  scores.items.forM fun kv =>
    require (rows.get? kv.1 = some (.finite kv.2)) .rowsTampered kv.1

def verifyStoredReport (I : Interp) (secret : String) (header : StoredReport)
    (rows : Dict PyStr PyFloat) : Except ReportVerificationError Verified := do
  require (!header.reportJson.isEmptyText) .bodyMissing []
  let legacyCombinedBody := header.authenticatedBody.isEmptyText
  let raw := (if legacyCombinedBody then header.reportJson else header.authenticatedBody).bytes
  require (isSha256Hex header.bodySha256) .bodyDigestMismatch
    (PyStr.ofString "no stored body digest")
  require (constantTimeEqual (PyStr.ofString (I.sha256Hex raw)) header.bodySha256)
    .bodyDigestMismatch []
  require (secret ≠ "") .signatureUnverifiable []
  require (verifyBodyHmac I secret raw header.signature) .signatureInvalid []
  let document ← authenticatedDocument I raw
  require (legacyCombinedBody || canonicalReportBytes I document = header.reportJson.bytes)
    .authenticatedSemanticsMismatch []
  require (constantTimeEqual (PyStr.ofString (reportDigest I document)) header.reportSha256)
    .reportDigestMismatch []
  checkHeader header document
  checkRows rows document.scores
  pure ⟨document, document.scores⟩

/-! ## When a wire document normalizes -/

theorem strField_eq_some {members : Members} {key : String} {s : PyStr} :
    strField members key = some s ↔ field members key = some (.str s) := by
  unfold strField
  split <;> simp_all

theorem intField_eq_some {members : Members} {key : String} {n : ℤ} :
    intField members key = some n ↔ field members key = some (.num (.int n)) := by
  unfold intField
  split <;> simp_all

theorem objField_eq_some {members inner : Members} {key : String} :
    objField members key = some inner ↔ field members key = some (.obj inner) := by
  unfold objField
  split <;> simp_all

theorem wireFields_eq_some {members : Members} {wire : WireFields} :
    wireFields members = some wire ↔
      field members "producer_hotkey" = some (.str wire.producer) ∧
      field members "network" = some (.str wire.network) ∧
      field members "netuid" = some (.num (.int wire.netuid)) ∧
      field members "source_epoch" = some (.num (.int wire.sourceEpoch)) ∧
      field members "generated_at" = some (.str wire.generatedAt) ∧
      field members "complete" = some (.bool true) ∧
      field members "score_units" = some (.str wire.scoreUnits) ∧
      field members "scores" = some (.obj wire.scores) ∧
      field members "evidence_sha256" = some (.str wire.evidence) := by
  unfold wireFields
  simp only [Option.bind_eq_bind, Option.bind_eq_some_iff, strField_eq_some, intField_eq_some,
    objField_eq_some]
  constructor
  · rintro ⟨producer, hproducer, network, hnetwork, netuid, hnetuid, epoch, hepoch, at', hat,
      complete, hcomplete, units, hunits, scores, hscores, evidence, hevidence, h⟩
    split_ifs at h with htrue
    cases h
    exact ⟨hproducer, hnetwork, hnetuid, hepoch, hat, htrue ▸ hcomplete, hunits, hscores, hevidence⟩
  · rintro ⟨hproducer, hnetwork, hnetuid, hepoch, hat, hcomplete, hunits, hscores, hevidence⟩
    exact ⟨_, hproducer, _, hnetwork, _, hnetuid, _, hepoch, _, hat, _, hcomplete, _, hunits, _,
      hscores, _, hevidence, if_pos rfl⟩

theorem normalizeSemanticDocument_eq_ok {I : Interp} {members : Members} {d : Document} :
    normalizeSemanticDocument I members = .ok d ↔
      (∀ key, key ∈ members.map Prod.fst ↔ key ∈ semanticKeys) ∧
        ∃ wire generatedAt scores, wireFields members = some wire ∧
          canonicalAt I wire.generatedAt = .ok generatedAt ∧
          wire.scores.foldlM (addScore I) Dict.empty = .ok scores ∧
            d = wire.document generatedAt scores := by
  unfold normalizeSemanticDocument
  dsimp only
  constructor
  · intro h
    split_ifs at h with hmissing hunexpected
    split at h
    · cases h
    · next wire hwire =>
        simp only [bind_eq_ok, pure, Except.pure, Except.ok.injEq] at h
        obtain ⟨at', hat, scores, hscores, rfl⟩ := h
        refine ⟨fun key => ⟨fun hkey => ?_, fun hkey => ?_⟩, wire, at', scores, hwire, hat, hscores,
          rfl⟩
        · by_contra hnot
          exact hunexpected (List.any_eq_true.mpr ⟨key, hkey, decide_eq_true hnot⟩)
        · by_contra hnot
          rw [not_not, List.filter_eq_nil_iff] at hmissing
          exact hmissing key hkey (decide_eq_true hnot)
  · rintro ⟨hkeys, wire, at', scores, hwire, hat, hscores, rfl⟩
    have hmissing : semanticKeys.filter (· ∉ members.map Prod.fst) = [] := by
      rw [List.filter_eq_nil_iff]
      intro key hkey hnot
      exact of_decide_eq_true hnot ((hkeys key).mpr hkey)
    have hunexpected : ¬ (members.map Prod.fst).any (· ∉ semanticKeys) = true := by
      rw [List.any_eq_true]
      rintro ⟨key, hkey, hnot⟩
      exact of_decide_eq_true hnot ((hkeys key).mp hkey)
    rw [if_neg (not_not.mpr hmissing), if_neg hunexpected, hwire]
    dsimp only
    rw [hat, hscores]
    rfl

/-! ## When a stored report verifies -/

/-- The bytes that the digest and the HMAC of a stored report cover. -/
def StoredReport.rawBody (header : StoredReport) : Bytes :=
  (if header.authenticatedBody.isEmptyText then header.reportJson
    else header.authenticatedBody).bytes

/-- A document whose exact bytes a stored report authenticates, and that every column and
every row restates. -/
structure Authentic (I : Interp) (secret : String) (header : StoredReport)
    (rows : Dict PyStr PyFloat) (d : Document) : Prop where
  present : header.reportJson.isEmptyText = false
  digestForm : isSha256Hex header.bodySha256 = true
  bodyDigest : PyStr.ofString (I.sha256Hex header.rawBody) = header.bodySha256
  hmac : verifyBodyHmac I secret header.rawBody header.signature = true
  document : authenticatedDocument I header.rawBody = .ok d
  canonical : header.authenticatedBody.isEmptyText = true ∨
    canonicalReportBytes I d = header.reportJson.bytes
  digest : PyStr.ofString (reportDigest I d) = header.reportSha256
  producerHotkey : header.producerHotkey = d.producerHotkey
  network : header.network = d.network
  netuid : header.netuid = d.netuid
  sourceEpoch : header.sourceEpoch = d.sourceEpoch
  generatedAt : header.generatedAtIso = d.generatedAt
  complete : header.complete = true
  scoreCount : header.scoreCount = d.scores.items.length
  scores : ∀ hotkey, rows.get? hotkey = (d.scores.get? hotkey).map .finite

theorem require_eq_ok {passes : Bool} {reason : Reason} {detail : PyStr} {u : Unit} :
    require passes reason detail = .ok u ↔ passes = true := by
  unfold require
  split_ifs with h
  · simp [h]
  · simp [h]

theorem constantTimeEqual_ofString {s : String} {expected : PyStr} :
    constantTimeEqual (PyStr.ofString s) expected = true ↔ PyStr.ofString s = expected := by
  simp [constantTimeEqual]

theorem checkHeader_eq_ok {header : StoredReport} {d : Document} {u : Unit} :
    checkHeader header d = .ok u ↔
      header.producerHotkey = d.producerHotkey ∧ header.network = d.network ∧
        header.netuid = d.netuid ∧ header.sourceEpoch = d.sourceEpoch ∧
          header.generatedAtIso = d.generatedAt ∧ header.complete = true ∧
            header.scoreCount = d.scores.items.length := by
  unfold checkHeader
  simp only [bind_eq_ok, require_eq_ok, decide_eq_true_eq, exists_and_left, exists_const]

/-- The rows pass when they are the scores of the document. -/
theorem checkRows_eq_ok {rows : Dict PyStr PyFloat} {scores : Dict PyStr ℚ} {u : Unit} :
    checkRows rows scores = .ok u ↔
      ∀ hotkey, rows.get? hotkey = (scores.get? hotkey).map .finite := by
  unfold checkRows
  simp only [bind_eq_ok, require_eq_ok, forM_eq_ok, Bool.and_eq_true, List.all_eq_true,
    decide_eq_true_eq, exists_const]
  constructor
  · rintro ⟨⟨hrows, -⟩, hvalues⟩ hotkey
    cases hscore : scores.get? hotkey with
    | some q => exact hvalues (hotkey, q) (Dict.mem_items.mpr hscore)
    | none =>
      rw [Option.map_none, Dict.get?_eq_none]
      exact fun hmem => Dict.get?_eq_none.mp hscore (hrows hotkey hmem)
  · intro h
    refine ⟨⟨fun hotkey hmem => ?_, fun hotkey hmem => ?_⟩, fun entry hmem => ?_⟩
    · obtain ⟨x, hx⟩ := Dict.mem_keys.mp hmem
      rw [h] at hx
      obtain ⟨q, hq, -⟩ := Option.map_eq_some_iff.mp hx
      exact Dict.mem_keys.mpr ⟨q, hq⟩
    · obtain ⟨q, hq⟩ := Dict.mem_keys.mp hmem
      exact Dict.mem_keys.mpr ⟨_, by rw [h, hq, Option.map_some]⟩
    · rw [h, Dict.mem_items.mp hmem, Option.map_some]

/-- A stored report verifies as the document that it authenticates. -/
theorem verifyStoredReport_eq_ok {I : Interp} {secret : String} {header : StoredReport}
    {rows : Dict PyStr PyFloat} {v : Verified} :
    verifyStoredReport I secret header rows = .ok v ↔
      ∃ d, v = ⟨d, d.scores⟩ ∧ Authentic I secret header rows d := by
  unfold verifyStoredReport
  simp only [bind_eq_ok, require_eq_ok, checkHeader_eq_ok, checkRows_eq_ok,
    constantTimeEqual_ofString, Bool.not_eq_true', Bool.or_eq_true, decide_eq_true_eq,
    exists_const]
  constructor
  · rintro ⟨hpresent, hform, hbody, -, hhmac, d, hdocument, hcanonical, hdigest,
      ⟨hproducer, hnetwork, hnetuid, hepoch, hat, hcomplete, hcount⟩, hscores, hv⟩
    cases hv
    exact ⟨d, rfl, hpresent, hform, hbody, hhmac, hdocument, hcanonical, hdigest, hproducer,
      hnetwork, hnetuid, hepoch, hat, hcomplete, hcount, hscores⟩
  · rintro ⟨d, rfl, h⟩
    have hsecret : secret ≠ "" := by
      have hhmac := h.hmac
      simp only [verifyBodyHmac, Bool.and_eq_true, decide_eq_true_eq] at hhmac
      exact hhmac.1.1
    exact ⟨h.present, h.digestForm, h.bodyDigest, hsecret, h.hmac, d, h.document, h.canonical,
      h.digest, ⟨h.producerHotkey, h.network, h.netuid, h.sourceEpoch, h.generatedAt, h.complete,
        h.scoreCount⟩, h.scores, rfl⟩

end Cathedral.Publisher.Cybergym
