import Cathedral.Arena.Replay
import Cathedral.Lib.FloatOps
import Cathedral.Lib.Numeral
import Cathedral.Lib.PyConvert
import Cathedral.Lib.PyDatetime

/-!
# Cathedral.Publisher.TeeGpu — TEE GPU capacity

The rows of `tee_gpu_capacity` and what `scaffold/publisher/tee_gpu.py` computes from them
and from the bodies of its requests, on the SQLite backend: `evidence_summary`,
`preflight_capacity`, the row of `create_capacity` and its merge with an existing one, the
updates of `update_capacity_admin` from the row that it has read, the verified attestation,
the receipts, and `capacity_launch_evidence`.

Of a row only the columns that one of these functions reads are modelled, and of the events
the four types that are read back. `Updates.apply` is the write of an update on whatever row
there is by then; `Patch.preflight_apply` says for which row its preflight was computed.
-/

namespace Cathedral.Publisher.TeeGpu

open Arena (Members get record text toInt)
open Json (IsNumeral)
open PyJson (Value truthy)

/-! ## Texts and bodies -/

/-- `text.encode("utf-8")`; `none` where it raises. -/
def encoded (t : PyStr) : Option Bytes := (t.mapM CodePoint.toChar?).map encodeUtf8

/-- What the publisher takes from its libraries. -/
structure Host where
  numbers : PyNumbers
  /-- How deep `json.loads` goes. -/
  depth : ℕ
  /-- `json.loads` of a text with a lone surrogate. -/
  loadsLone : PyStr → Option Value
  /-- `str.lower` of a text that is not ASCII. -/
  lowerAbove : PyStr → PyStr
  printable : CodePoint → Bool
  floatRepr : ℚ → List Char
  floatRepr_numeral : ∀ q, IsNumeral (floatRepr q)
  /-- A float as SQLite writes it into a text. -/
  sqliteReal : ℚ → List Char
  sqliteReal_numeral : ∀ q, IsNumeral (sqliteReal q)
  sha256Hex : Bytes → PyStr
  padsYear : Bool

/-- The environment that the functions read. -/
structure Settings where
  requireCryptoEvidence : Bool
  requireEvidence : Bool
  chutesExecuteEnabled : Bool
  /-- `CATHEDRAL_TEE_GPU_CHUTES_HOTKEY_PATH` is set. -/
  hasHotkeyPath : Bool
  chutesTimeoutSecs : ℤ
  listingStaleSecs : ℤ
  evidenceRequestTtlSecs : ℤ
  verifierCommandDigest : PyStr

/-- How a call ends early: an `HTTPException`, or another exception. -/
inductive Stop where
  | http (status : ℕ) (detail : String)
  | raised

def require (passes : Bool) (status : ℕ) (detail : String) : Except Stop Unit :=
  if passes then .ok () else .error (.http status detail)

theorem require_eq_ok {passes : Bool} {status : ℕ} {detail : String} {x : Unit} :
    require passes status detail = .ok x ↔ passes = true := by
  cases passes <;> simp [require]

namespace Host

variable (H : Host)

/-- `str(value)`. -/
def str (v : Value) : PyStr := PyJson.str H.floatRepr H.printable v

def lower (t : PyStr) : PyStr :=
  if t.all (·.val < 128) then PyStr.asciiLower t else H.lowerAbove t

/-- `_now_iso` at a moment. -/
def iso (moment : UtcTime) : PyStr := PyRepr.ascii (msIso H.padsYear moment)

/-- `_int(value, default=default)`. -/
def int (default : ℤ) (v : Value) : ℤ := ((toInt H.numbers.tables v).toOption).getD default

/-- `json.dumps` of a number. -/
def numeral : PyNumber → List Char
  | .int n => Json.intNumeral n
  | .float (.finite q) => H.floatRepr q
  | .float .nan => "NaN".toList
  | .float .posInf => "Infinity".toList
  | .float .negInf => "-Infinity".toList

/-- `json.dumps(value, sort_keys=True, separators=(",", ":"))`. -/
def dumps (v : Value) : PyStr := PyRepr.ascii (Json.render H.numeral v.sorted)

/-- `json.loads` of a text; `none` where it raises. -/
def loads? (t : PyStr) : Option Value :=
  match encoded t with
  | some bytes => PyJson.loads H.numbers H.depth bytes
  | none => H.loadsLone t

def loads (t : PyStr) : Value := if t = [] then .obj [] else (H.loads? t).getD (.obj [])

def jsonBlob : Value → PyStr
  | .str s => H.dumps ((H.loads? s).getD (.obj (record [("raw", .str s)])))
  | v => H.dumps v

/-- `_digest_text` of a text that encodes. -/
def digestText (t : PyStr) : PyStr := H.sha256Hex ((encoded t).getD [])

/-- `value in {"1", "true", "yes", "on"}`. -/
def isTrueWord (t : PyStr) : Bool := t ∈ ["1", "true", "yes", "on"].map PyStr.ofString

def boolish : Value → Bool
  | .bool b => b
  | v => truthy v && isTrueWord (H.lower (PyStr.strip (H.str v)))

/-- `a or b or …` of fields of a body, where one of them is true. -/
def firstTruthy (body : Members) (names : List String) : Option Value :=
  names.findSome? fun name => (get body name).filter truthy

/-- `str(a or b or "")`. -/
def strOr (body : Members) (names : List String) : PyStr := (firstTruthy body names).elim [] H.str

def requiredStr (body : Members) (name : String) : Except Stop PyStr := do
  let val := PyStr.strip (H.strOr body [name])
  require (val ≠ []) 400 ("missing_" ++ name)
  .ok val

/-- `_float` of what `_is_finite_float` accepts. -/
def finiteFloat (v : Value) : Except Stop PyFloat :=
  match PyJson.toFloat? H.numbers v with
  | some (.finite q) => .ok (.finite q)
  | _ => .error (.http 400 "invalid_hourly_cost")

/-- What a `TEXT NOT NULL` column keeps of a bound value; `none` where the statement raises. -/
def bindText : Value → Option PyStr
  | .str s => (encoded s).map fun _ => s
  | .num (.int n) => if -2 ^ 63 ≤ n ∧ n < 2 ^ 63 then some (PyStr.numeral n) else none
  | .num (.float (.finite q)) => some (PyRepr.ascii (H.sqliteReal q))
  | .num (.float .posInf) => some (PyStr.ofString "Inf")
  | .num (.float .negInf) => some (PyStr.ofString "-Inf")
  | .bool b => some (PyStr.ofString (if b then "1" else "0"))
  | _ => none

end Host

/-! ## Evidence -/

inductive EvidenceStatus where
  | missing
  | submitted
  | submittedWithoutRequest
  | operatorReviewed
  | needsReview
  | rejected
  | cryptographicallyVerified
deriving DecidableEq

def EvidenceStatus.text : EvidenceStatus → String
  | missing => "missing"
  | submitted => "submitted"
  | submittedWithoutRequest => "submitted_without_request"
  | operatorReviewed => "operator_reviewed"
  | needsReview => "needs_review"
  | rejected => "rejected"
  | cryptographicallyVerified => "cryptographically_verified"

/-- `_EVIDENCE_ACCEPTED_STATUS`. -/
def EvidenceStatus.accepted : EvidenceStatus → Bool
  | operatorReviewed | cryptographicallyVerified => true
  | _ => false

/-- The status of a set that a text names. -/
def EvidenceStatus.ofText? (set : List EvidenceStatus) (t : PyStr) : Option EvidenceStatus :=
  set.find? fun status => PyStr.ofString status.text = t

def evidenceReviewStatus : List EvidenceStatus :=
  [.operatorReviewed, .needsReview, .rejected, .cryptographicallyVerified]

def evidenceManualReviewStatus : List EvidenceStatus := [.operatorReviewed, .needsReview, .rejected]

/-- `value not in (None, "", {}, [])` of what `dict.get` returns. -/
def isGiven : Option Value → Bool
  | none | some .null | some (.str []) | some (.obj []) | some (.arr []) => false
  | _ => true

def submittedEvidenceFields (body : Members) : List String :=
  ["tdx_quote_b64", "quote_b64", "raw_quote_b64", "collateral_b64", "collateral_json",
    "gpu_evidence_b64", "gpu_evidence_json", "nvidia_cc_evidence", "report_data_hex", "mrtd_hex",
    "rtmrs_json"].filter fun key => isGiven (get body key)

def evidenceRequestId (H : Host) (body : Members) : PyStr :=
  PyStr.strip (H.strOr body ["evidence_request_id", "request_id", "attestation_nonce", "nonce"])

/-- What `evidence_summary` says of an attestation, as far as it decides anything. -/
structure Evidence where
  status : EvidenceStatus
  acceptable : Bool
deriving DecidableEq

/-- `value if isinstance(value, dict) else {}`. -/
def membersOr : Option Value → Members
  | some (.obj members) => members
  | _ => []

def evidenceSummary (H : Host) (attestation : Value) : Evidence :=
  let body := membersOr (some (H.loads (H.jsonBlob attestation)))
  if body.isEmpty then ⟨.missing, false⟩
  else
    let review := membersOr (get body "cathedral_review")
    match EvidenceStatus.ofText? evidenceReviewStatus
        (H.lower (PyStr.strip (H.strOr review ["status"]))) with
    | some status => ⟨status, status.accepted⟩
    | none =>
      if (submittedEvidenceFields body).isEmpty then ⟨.missing, false⟩
      else if evidenceRequestId H body = [] then ⟨.submittedWithoutRequest, false⟩
      else ⟨.submitted, false⟩

/-- The members of a value, or the value as the only one. -/
def membersOrRaw : Value → Members
  | .obj members => members
  | v => record [("raw", v)]

/-- `value or {}`. -/
def orEmpty (v : Value) : Value := if truthy v then v else .obj []

def attestationInputJson (H : Host) (v : Value) (allowReview : Bool) : PyStr :=
  let body := membersOrRaw (H.loads (H.jsonBlob (orEmpty v)))
  let reviews := ["cathedral_review", "review"].map PyStr.ofString
  H.jsonBlob (.obj (if allowReview then body else body.filter fun m => m.1 ∉ reviews))

/-- `body[name] = value`. -/
def put (body : Members) (name : String) (v : Value) : Members :=
  Dict.upsert (PyStr.ofString name) v body

def normalReviewStatus (H : Host) (raw : PyStr) : Except Stop EvidenceStatus :=
  let status := (H.lower (PyStr.strip raw)).map fun p =>
    if p = CodePoint.ofChar '-' then CodePoint.ofChar '_' else p
  let isIn (words : List String) : Bool := status ∈ words.map PyStr.ofString
  if isIn ["accepted", "approved", "pass", "passed"] then .ok .operatorReviewed
  else if isIn ["fail", "failed", "deny", "denied"] then .ok .rejected
  else
    match EvidenceStatus.ofText? evidenceManualReviewStatus status with
    | some status => .ok status
    | none => .error (.http 400 "invalid_attestation_review_status")

/-- The `cathedral_review` of an admin. -/
def operatorReview (H : Host) (status : EvidenceStatus) (review : Members) (now : UtcTime) :
    List (String × Value) :=
  [("status", text status.text), ("reason", .str (H.strOr review ["reason"])),
    ("reviewed_by", text "admin"), ("reviewed_at_iso", .str (H.iso now)),
    ("proof", text "operator_review_only"), ("cryptographic_proof", .bool false),
    ("verifier", (Host.firstTruthy review ["verifier"]).elim (text "not_configured")
      fun v => .str (H.str v)),
    ("note", text "operator review only; this does not prove genuine TDX/GPU attestation")]

/-- `_attestation_review_json`, reviewed by an admin. -/
def attestationReviewJson (H : Host) (attestation review : Value) (now : UtcTime) :
    Except Stop PyStr := do
  let body := membersOrRaw (H.loads (H.jsonBlob (orEmpty attestation)))
  let review := membersOr (some review)
  let status ← normalReviewStatus H (H.strOr review ["status"])
  if status = .operatorReviewed then
    require (!(submittedEvidenceFields body).isEmpty) 400 "attestation_evidence_missing"
    require (evidenceRequestId H body ≠ []) 400 "evidence_request_missing"
  .ok (H.jsonBlob (.obj (put body "cathedral_review"
    (.obj (record (operatorReview H status review now))))))

/-! ## Preflight -/

/-- What `preflight_capacity` is given. -/
structure Judged where
  gpuShortRef : PyStr
  gpuCount : ℤ
  hourlyCost : PyFloat
  agentApi : PyStr
  teeKind : PyStr
  tdxClaimed : Bool
  gpuCcClaimed : Bool
  operatorUseAuthorized : Bool
  hasAttestation : Bool
  evidence : Evidence

inductive Verdict where
  | eligible
  | blocked
  | exploratory
deriving DecidableEq

def Verdict.text : Verdict → String
  | eligible => "eligible"
  | blocked => "blocked"
  | exploratory => "exploratory"

structure Preflight where
  status : Verdict
  reasons : List String
  warnings : List String
  capacityKind : String
  evidence : Evidence
  checkedAt : PyStr
  note : String
deriving DecidableEq

def chutesSupported : List PyStr :=
  ["3090", "4090", "5090", "a4000", "a4000_ada", "a5000", "a6000", "a6000_ada", "a10", "a40",
    "a100", "a100_sxm", "a100_40gb", "a100_40gb_sxm", "b200", "b300", "h20", "h100", "h100_nvl",
    "h100_sxm", "h200", "h800", "l4", "l40", "l40s", "mi300x", "pro_6000"].map PyStr.ofString

/-- `_TEE_CANDIDATES`, which are the keys of `_TEE_MEASUREMENT_GPU_COUNTS`. -/
def teeCandidates : List PyStr := ["h200", "b200", "b300", "pro_6000"].map PyStr.ofString

/-- `_TEE_MEASUREMENT_GPU_COUNTS` of every candidate. -/
def teeMeasurementGpuCounts : List ℤ := [8]

def exploratoryTpuRefs : List PyStr :=
  ["google_tpu", "tpu_v5e", "tpu_v5p", "tpu_v6e"].map PyStr.ofString

/-- `reasons.append` under a condition. -/
def reason (p : Bool) (name : String) : List String := if p then [name] else []

def Judged.isTpu (j : Judged) : Bool :=
  j.gpuShortRef ∈ exploratoryTpuRefs || (PyStr.ofString "tpu_").isPrefixOf j.gpuShortRef

/-- What is wrong with the model and the number of the GPUs. -/
def gpuReasons (j : Judged) : List String :=
  if j.isTpu then []
  else if j.gpuShortRef ∉ chutesSupported then ["gpu_short_ref_not_chutes_supported"]
  else if j.gpuShortRef ∉ teeCandidates then ["gpu_short_ref_not_tee_candidate"]
  else if j.gpuCount ∉ teeMeasurementGpuCounts then ["gpu_count_not_tee_measurement_profile"]
  else []

def costReasons : PyFloat → List String
  | .finite q => reason (q < 0) "hourly_cost_negative"
  | _ => ["hourly_cost_not_finite"]

/-- `agent_api.startswith(("http://", "https://"))`. -/
def isHttp (agentApi : PyStr) : Bool :=
  (PyStr.ofString "http://").isPrefixOf agentApi || (PyStr.ofString "https://").isPrefixOf agentApi

/-- `tee_kind and "tdx" not in tee_kind.lower()`. -/
def notTdx (H : Host) (teeKind : PyStr) : Bool :=
  teeKind ≠ [] && !decide (PyStr.ofString "tdx" <:+: H.lower teeKind)

def evidenceReasons (E : Settings) (j : Judged) : List String :=
  if E.requireCryptoEvidence && !j.isTpu then
    if !j.hasAttestation then ["attestation_evidence_required"]
    else reason (j.evidence.status ≠ .cryptographicallyVerified)
      "cryptographic_attestation_required"
  else if E.requireEvidence && !j.isTpu then
    if !j.hasAttestation then ["attestation_evidence_required"]
    else reason (!j.evidence.acceptable) "attestation_evidence_review_required"
  else []

/-- The reasons that do not read the texts of the offer. -/
def Judged.reasons (H : Host) (E : Settings) (j : Judged) : List String :=
  gpuReasons j ++ reason (j.gpuCount < 1 || 10 < j.gpuCount) "gpu_count_out_of_range" ++
    costReasons j.hourlyCost ++ reason (!isHttp j.agentApi) "agent_api_not_http" ++
    reason (!j.isTpu && !j.tdxClaimed) "intel_tdx_not_claimed" ++
    reason (!j.isTpu && !j.gpuCcClaimed) "nvidia_gpu_cc_not_claimed" ++
    reason (!j.operatorUseAuthorized) "operator_use_not_authorized" ++
    reason (!j.isTpu && notTdx H j.teeKind) "tee_kind_not_intel_tdx" ++
    reason (j.evidence.status = .rejected) "attestation_evidence_rejected" ++ evidenceReasons E j

def Judged.warnings (j : Judged) : List String :=
  if j.isTpu then
    ["google_tpu_exploratory_intake_only", "not_chutes_listable", "not_emissions_eligible"]
  else
    reason (isHttp j.agentApi && !decide (PyStr.ofString ":32000" <:+: j.agentApi))
      "agent_api_not_default_32000"

def preflightCapacity (H : Host) (E : Settings) (j : Judged) (checkedAt : PyStr) : Preflight where
  status :=
    if (j.reasons H E).isEmpty then (if j.isTpu then .exploratory else .eligible) else .blocked
  reasons := j.reasons H E
  warnings := j.warnings
  capacityKind := if j.isTpu then "google_tpu" else "tee_gpu"
  evidence := j.evidence
  checkedAt := checkedAt
  note :=
    if j.isTpu then "google_tpu_exploratory_inactive_for_scoring"
    else if E.requireCryptoEvidence then "cryptographic_tdx_gpu_attestation_required"
    else "operator_reviewed_evidence_only_not_cryptographic_attestation"

/-- `_json_blob` of what `preflight_capacity` returns. -/
def Preflight.blob (H : Host) (p : Preflight) : PyStr :=
  H.jsonBlob (.obj (record
    [("status", text p.status.text), ("reasons", .arr (p.reasons.map text)),
      ("warnings", .arr (p.warnings.map text)), ("capacity_kind", text p.capacityKind),
      ("evidence_status", text p.evidence.status.text),
      ("evidence_acceptable", .bool p.evidence.acceptable), ("checked_at", .str p.checkedAt),
      ("note", text p.note)]))

/-! ## Rows -/

inductive Status where
  | pending
  | active
  | paused
  | rejected
  | retired
deriving DecidableEq

def Status.text : Status → String
  | pending => "pending"
  | active => "active"
  | paused => "paused"
  | rejected => "rejected"
  | retired => "retired"

def Status.ofText? (t : PyStr) : Option Status :=
  [pending, active, paused, rejected, retired].find? fun status => PyStr.ofString status.text = t

/-- `status in _REVIEWED_REOPEN_STATUS`. -/
def Status.reopens : Status → Bool
  | active | paused => true
  | _ => false

/-- The values of `chutes_status` that the code writes, and what else an admin has set. -/
inductive ChutesStatus where
  | listing
  | listed
  | listFailed
  | needsRelisting
  | needsReview
  | other (t : PyStr)
deriving DecidableEq

def ChutesStatus.ofText (t : PyStr) : ChutesStatus :=
  if t = PyStr.ofString "listing" then listing
  else if t = PyStr.ofString "listed" then listed
  else if t = PyStr.ofString "list_failed" then listFailed
  else if t = PyStr.ofString "needs_relisting" then needsRelisting
  else if t = PyStr.ofString "needs_review" then needsReview
  else other t

/-- A row of `tee_gpu_capacity`, under its `capacity_id`. -/
structure Row where
  ownerHotkey : PyStr
  nodeId : PyStr
  agentApi : PyStr
  gpuShortRef : PyStr
  gpuModel : PyStr
  gpuCount : ℤ
  teeKind : PyStr
  tdxClaimed : Bool
  gpuCcClaimed : Bool
  hourlyCost : PyFloat
  operatorUseAuthorized : Bool
  attestationDigest : PyStr
  attestationJson : PyStr
  status : Status
  preflightStatus : Verdict
  preflightJson : PyStr
  chutesServerName : PyStr
  chutesServerId : PyStr
  chutesStatus : ChutesStatus
  updatedAtIso : PyStr

/-- What a miner's resubmission is reviewed for: `_MINER_REVIEW_FIELDS` but the digest. -/
structure Fields where
  gpuShortRef : PyStr
  gpuCount : ℤ
  agentApi : PyStr
  teeKind : PyStr
  tdxClaimed : Bool
  gpuCcClaimed : Bool
  hourlyCost : PyFloat
deriving DecidableEq

namespace Row

def fields (row : Row) : Fields :=
  ⟨row.gpuShortRef, row.gpuCount, row.agentApi, row.teeKind, row.tdxClaimed, row.gpuCcClaimed,
    row.hourlyCost⟩

/-- What `preflight_capacity` reads of a row. -/
def judged (H : Host) (row : Row) : Judged where
  gpuShortRef := row.gpuShortRef
  gpuCount := row.gpuCount
  hourlyCost := row.hourlyCost
  agentApi := row.agentApi
  teeKind := row.teeKind
  tdxClaimed := row.tdxClaimed
  gpuCcClaimed := row.gpuCcClaimed
  operatorUseAuthorized := row.operatorUseAuthorized
  hasAttestation := row.attestationDigest ≠ []
  evidence := evidenceSummary H (.str row.attestationJson)

/-- Every text of the row encodes, and its integer fits. -/
def Binds (row : Row) : Prop :=
  (∀ t ∈ [row.ownerHotkey, row.nodeId, row.agentApi, row.gpuShortRef, row.gpuModel, row.teeKind,
    row.chutesServerName, row.chutesServerId], (encoded t).isSome) ∧
    -2 ^ 63 ≤ row.gpuCount ∧ row.gpuCount < 2 ^ 63

instance (row : Row) : Decidable row.Binds := inferInstanceAs (Decidable (_ ∧ _))

end Row

/-- `_digest_text(blob) if blob != "{}" else ""`. -/
def attestationDigest (H : Host) (blob : PyStr) : PyStr :=
  if blob = PyStr.ofString "{}" then [] else H.digestText blob

/-- Where a change of a reviewed field leaves `chutes_status`, if it sets it. -/
def demotedChutes (chutes : ChutesStatus) (status : Status) : Option ChutesStatus :=
  if chutes = .listed ∨ chutes = .needsRelisting then some .needsRelisting
  else if status.reopens then some .needsReview
  else none

/-! ## `create_capacity` -/

/-- The arguments of `create_capacity`: the offer of a miner, or the record of an admin. -/
structure Offer where
  byAdmin : Bool
  ownerHotkey : PyStr
  body : Members

def capacityId (H : Host) (ownerHotkey nodeId : PyStr) : PyStr :=
  PyStr.ofString "tee-" ++
    (H.digestText (ownerHotkey ++ CodePoint.ofChar ':' :: nodeId)).take 16

def operatorUseAuthorized (H : Host) (body : Members) : Bool :=
  let auth := membersOr (get body "authorization")
  (["operator_use_authorized", "capacity_use_authorized", "use_authorized"].any fun name =>
      (get body name).any H.boolish) ||
    ["operator_use_authorized", "capacity_use_authorized"].any fun name =>
      (get auth name).any H.boolish

/-- `hourly_cost` of an offer. -/
def offeredCost (H : Host) (body : Members) : Except Stop PyFloat :=
  match get body "hourly_cost" with
  | none | some .null => .ok (.finite 0)
  | some v => H.finiteFloat v

/-- The attestation of an offer; only an admin may review it at once. -/
def offeredAttestation (H : Host) (offer : Offer) (now : UtcTime) : Except Stop PyStr :=
  let blob := attestationInputJson H
    ((Host.firstTruthy offer.body ["attestation", "attestation_json"]).getD (.obj [])) false
  match get offer.body "attestation_review" with
  | some review =>
    if offer.byAdmin then attestationReviewJson H (.str blob) review now else .ok blob
  | none => .ok blob

/-- `status` of an offer. -/
def offeredStatus (H : Host) (offer : Offer) (verdict : Verdict) : Status :=
  let requested :=
    if offer.byAdmin then
      let raw := (Host.firstTruthy offer.body ["status"]).elim (PyStr.ofString "pending") H.str
      (Status.ofText? (H.lower raw)).getD .pending
    else .pending
  if requested = .active ∧ verdict ≠ .eligible then .pending else requested

/-- A field that only an admin may set. -/
def adminText (H : Host) (offer : Offer) (name : String) : PyStr :=
  if offer.byAdmin then H.strOr offer.body [name] else []

/-- The row of an offer before its transaction. `requestExists` is what
`_evidence_request_exists` finds. -/
def offeredRow (H : Host) (E : Settings) (offer : Offer) (requestExists : PyStr → PyStr → Bool)
    (now : UtcTime) : Except Stop (PyStr × Row) := do
  let body := offer.body
  let nodeId ← H.requiredStr body "node_id"
  let gpuShortRef ← H.requiredStr body "gpu_short_ref"
  let hourlyCost ← offeredCost H body
  let blob ← offeredAttestation H offer now
  let authorized := operatorUseAuthorized H body
  require (offer.byAdmin || authorized) 400 "operator_use_authorization_required"
  let row : Row :=
    { ownerHotkey := offer.ownerHotkey
      nodeId := nodeId
      agentApi := H.strOr body ["agent_api"]
      gpuShortRef := H.lower gpuShortRef
      gpuModel := H.strOr body ["gpu_model"]
      gpuCount := (get body "gpu_count").elim 0 (H.int 0)
      teeKind := H.strOr body ["tee_kind"]
      tdxClaimed := (Host.firstTruthy body ["tdx_claimed", "tdx"]).any H.boolish
      gpuCcClaimed := (Host.firstTruthy body ["gpu_cc_claimed", "gpu_cc"]).any H.boolish
      hourlyCost := hourlyCost
      operatorUseAuthorized := authorized
      attestationDigest := attestationDigest H blob
      attestationJson := blob
      status := .pending
      preflightStatus := .blocked
      preflightJson := []
      chutesServerName := adminText H offer "chutes_server_name"
      chutesServerId := adminText H offer "chutes_server_id"
      chutesStatus := ChutesStatus.ofText (adminText H offer "chutes_status")
      updatedAtIso := H.iso now }
  let preflight := preflightCapacity H E (row.judged H) (H.iso now)
  let id := capacityId H offer.ownerHotkey nodeId
  require ((row.judged H).evidence.status ≠ .operatorReviewed ||
    requestExists id (evidenceRequestId H (membersOr (some (H.loads blob))))) 400
    "evidence_request_not_found"
  -- the statement raises where a value does not bind
  if row.Binds then
    .ok (id, { row with
      status := offeredStatus H offer preflight.status
      preflightStatus := preflight.status
      preflightJson := preflight.blob H })
  else .error .raised

/-- A reviewed field of a row is not that of the row that it replaces. -/
def Row.Changes (row existing : Row) : Prop :=
  row.fields ≠ existing.fields ∨ row.attestationDigest ≠ existing.attestationDigest

instance (row existing : Row) : Decidable (row.Changes existing) :=
  inferInstanceAs (Decidable (_ ∨ _))

/-- The row of a miner's offer, with what it keeps of the row that it replaces. -/
def Row.resubmitted (row existing : Row) : Row :=
  let status :=
    if row.Changes existing ∧ existing.status.reopens then .pending else existing.status
  { row with
    chutesServerName := existing.chutesServerName
    chutesServerId := existing.chutesServerId
    status := if status = .active ∧ row.preflightStatus ≠ .eligible then .pending else status
    chutesStatus :=
      if row.Changes existing then
        (demotedChutes existing.chutesStatus existing.status).getD existing.chutesStatus
      else existing.chutesStatus }

/-- The row that the transaction of `create_capacity` leaves. -/
def createdRow (byAdmin : Bool) (row : Row) : Option Row → Row
  | some existing => if byAdmin then row else row.resubmitted existing
  | none => row

/-! ## `update_capacity_admin` -/

/-- A value that an update binds to a text column: as the body has it, and as it is stored. -/
structure Bound (H : Host) where
  value : Value
  stored : PyStr
  binds : H.bindText value = some stored

/-- The columns that an update sets, `none` where it does not. -/
structure Updates where
  agentApi : Option PyStr
  teeKind : Option PyStr
  gpuModel : Option PyStr
  tdxClaimed : Option Bool
  gpuCcClaimed : Option Bool
  hourlyCost : Option PyFloat
  operatorUseAuthorized : Option Bool
  /-- `attestation_json`, which sets its digest too. -/
  attestation : Option PyStr
  status : Option Status
  chutesServerName : Option PyStr
  chutesServerId : Option PyStr
  chutesStatus : Option ChutesStatus
  preflight : Preflight
  updatedAtIso : PyStr

/-- The `UPDATE` of an update, on a row. -/
def Updates.apply (H : Host) (u : Updates) (row : Row) : Row :=
  { row with
    agentApi := u.agentApi.getD row.agentApi
    teeKind := u.teeKind.getD row.teeKind
    gpuModel := u.gpuModel.getD row.gpuModel
    tdxClaimed := u.tdxClaimed.getD row.tdxClaimed
    gpuCcClaimed := u.gpuCcClaimed.getD row.gpuCcClaimed
    hourlyCost := u.hourlyCost.getD row.hourlyCost
    operatorUseAuthorized := u.operatorUseAuthorized.getD row.operatorUseAuthorized
    attestationJson := u.attestation.getD row.attestationJson
    attestationDigest := u.attestation.elim row.attestationDigest (attestationDigest H)
    status := u.status.getD row.status
    chutesServerName := u.chutesServerName.getD row.chutesServerName
    chutesServerId := u.chutesServerId.getD row.chutesServerId
    chutesStatus := u.chutesStatus.getD row.chutesStatus
    preflightStatus := u.preflight.status
    preflightJson := u.preflight.blob H
    updatedAtIso := u.updatedAtIso }

/-- A text column of an update. -/
def boundField (H : Host) (body : Members) (name : String) : Except Stop (Option (Bound H)) :=
  match get body name with
  | none => .ok none
  | some v =>
    match h : H.bindText v with
    | some stored => .ok (some ⟨v, stored, h⟩)
    | none => .error .raised

/-- `status` of an update. -/
def updatedStatus (H : Host) (body : Members) : Except Stop (Option Status) :=
  match get body "status" with
  | none => .ok none
  | some v =>
    match Status.ofText? (H.lower (H.str v)) with
    | some status => .ok (some status)
    | none => .error (.http 400 "invalid_status")

/-- `hourly_cost` of an update. -/
def updatedCost (H : Host) (body : Members) : Except Stop (Option PyFloat) :=
  match get body "hourly_cost" with
  | none => .ok none
  | some v => (H.finiteFloat v).map some

/-- The body of an update, where a review of an admin has become an attestation. -/
def reviewedBody (H : Host) (body : Members) (row : Row) (requestExists : PyStr → Bool)
    (now : UtcTime) : Except Stop Members :=
  match get body "attestation_review" with
  | none => .ok body
  | some review => do
    let given := (get body "attestation_json").getD (.str row.attestationJson)
    let blob ← attestationReviewJson H given review now
    require ((evidenceSummary H (.str blob)).status ≠ .operatorReviewed ||
      requestExists (evidenceRequestId H (membersOr (some (H.loads blob))))) 400
      "evidence_request_not_found"
    .ok (put body "attestation_json" (.str blob))

/-- The fields of a body that an update may set, converted. -/
structure Patch (H : Host) where
  agentApi : Option (Bound H)
  teeKind : Option (Bound H)
  gpuModel : Option (Bound H)
  tdxClaimed : Option Bool
  gpuCcClaimed : Option Bool
  hourlyCost : Option PyFloat
  operatorUseAuthorized : Option Bool
  attestation : Option PyStr
  status : Option Status
  chutesServerName : Option (Bound H)
  chutesServerId : Option (Bound H)
  chutesStatus : Option (Bound H)

def readPatch (H : Host) (body : Members) (allowReview : Bool) : Except Stop (Patch H) := do
  let agentApi ← boundField H body "agent_api"
  let teeKind ← boundField H body "tee_kind"
  let gpuModel ← boundField H body "gpu_model"
  let hourlyCost ← updatedCost H body
  let status ← updatedStatus H body
  let chutesServerName ← boundField H body "chutes_server_name"
  let chutesServerId ← boundField H body "chutes_server_id"
  let chutesStatus ← boundField H body "chutes_status"
  .ok { agentApi, teeKind, gpuModel, hourlyCost, status, chutesServerName, chutesServerId
        chutesStatus
        tdxClaimed := (get body "tdx_claimed").map H.boolish
        gpuCcClaimed := (get body "gpu_cc_claimed").map H.boolish
        operatorUseAuthorized := (get body "operator_use_authorized").map H.boolish
        attestation := (get body "attestation_json").map fun v =>
          attestationInputJson H v allowReview }

/-- The value of a text column in `merged`. -/
def Bound.over {H : Host} (b : Option (Bound H)) (current : PyStr) : PyStr :=
  b.elim current fun b => H.str b.value

/-- `merged[key] != current[key]` of a text column. -/
def Bound.differs {H : Host} (b : Option (Bound H)) (current : PyStr) : Bool :=
  b.any fun b => !PyJson.pyEq b.value (.str current)

namespace Patch

variable {H : Host} (patch : Patch H) (row : Row)

/-- `attestation_digest` in `merged`. -/
def digest : PyStr := patch.attestation.elim row.attestationDigest (attestationDigest H)

/-- `material_changed`. -/
def material : Bool :=
  Bound.differs patch.agentApi row.agentApi || Bound.differs patch.teeKind row.teeKind ||
    patch.tdxClaimed.any (· ≠ row.tdxClaimed) || patch.gpuCcClaimed.any (· ≠ row.gpuCcClaimed) ||
    patch.hourlyCost.any (· ≠ row.hourlyCost) || patch.digest row ≠ row.attestationDigest

/-- What `merged` shows to `preflight_capacity`. -/
def judged : Judged where
  gpuShortRef := row.gpuShortRef
  gpuCount := row.gpuCount
  hourlyCost := patch.hourlyCost.getD row.hourlyCost
  agentApi := Bound.over patch.agentApi row.agentApi
  teeKind := Bound.over patch.teeKind row.teeKind
  tdxClaimed := patch.tdxClaimed.getD row.tdxClaimed
  gpuCcClaimed := patch.gpuCcClaimed.getD row.gpuCcClaimed
  operatorUseAuthorized := patch.operatorUseAuthorized.getD row.operatorUseAuthorized
  hasAttestation := patch.digest row ≠ []
  evidence := evidenceSummary H (.str (patch.attestation.getD row.attestationJson))

/-- `status` of the updates after what a change of a reviewed field does to it. -/
def reopened : Option Status :=
  if patch.material row ∧ row.status.reopens ∧ patch.status = none then some .pending
  else patch.status

/-- `chutes_status` of the updates. -/
def relisted : Option ChutesStatus :=
  let explicit := patch.chutesStatus.map fun b => ChutesStatus.ofText b.stored
  if patch.material row then (demotedChutes row.chutesStatus row.status).or explicit else explicit

/-- The updates of a patch, from the row that was read. -/
def updates (E : Settings) (now : UtcTime) : Updates :=
  let preflight := preflightCapacity H E (patch.judged row) (H.iso now)
  { agentApi := patch.agentApi.map Bound.stored
    teeKind := patch.teeKind.map Bound.stored
    gpuModel := patch.gpuModel.map Bound.stored
    tdxClaimed := patch.tdxClaimed
    gpuCcClaimed := patch.gpuCcClaimed
    hourlyCost := patch.hourlyCost
    operatorUseAuthorized := patch.operatorUseAuthorized
    attestation := patch.attestation
    status :=
      if patch.reopened row = none ∧ row.status = .active ∧ preflight.status ≠ .eligible then
        some .pending
      else patch.reopened row
    chutesServerName := patch.chutesServerName.map Bound.stored
    chutesServerId := patch.chutesServerId.map Bound.stored
    chutesStatus := patch.relisted row
    preflight := preflight
    updatedAtIso := H.iso now }

end Patch

/-- The updates that `update_capacity_admin` computes from the row that it has read. `keepReview`
is `preserve_embedded_review`. -/
def planUpdate (H : Host) (E : Settings) (row : Row) (body : Members) (keepReview : Bool)
    (requestExists : PyStr → Bool) (now : UtcTime) : Except Stop Updates := do
  let reviewed ← reviewedBody H body row requestExists now
  let patch ← readPatch H reviewed ((get body "attestation_review").isSome || keepReview)
  let u := patch.updates row E now
  require (u.status ≠ some .active || u.preflight.status = .eligible) 400 "preflight_not_eligible"
  .ok u

/-! ## Requests for evidence, and their verification -/

/-- The payload of `evidence_request_created`, of what is read back. -/
structure EvidenceRequest where
  requestId : PyStr
  expiresAtIso : PyStr
  bindingSha256 : PyStr

/-- `create_evidence_request` with a fresh id; `none` where it raises. -/
def createEvidenceRequest (H : Host) (E : Settings) (ownerHotkey nodeId requestId : PyStr)
    (ttlSecs : Option ℤ) (now : UtcTime) : Option (PyStr × EvidenceRequest) := do
  let ttl := max 60 (min (ttlSecs.getD E.evidenceRequestTtlSecs) 3600)
  let expires ← UtcTime.ofMicros (now.micros + ttl * 1000000)
  let colon := CodePoint.ofChar ':'
  let binding ← encoded (requestId ++ colon :: ownerHotkey ++ colon :: nodeId)
  some (capacityId H ownerHotkey nodeId, ⟨requestId, H.iso expires, H.sha256Hex binding⟩)

def parseIso (t : PyStr) : Option UtcTime :=
  (fromIsoFormat (t.flatMap fun p =>
    if p = CodePoint.ofChar 'Z' then PyStr.ofString "+00:00" else [p])).bind LocalTime.utc?

def timestamp (H : Host) (moment : UtcTime) : PyFloat := H.numbers.nearest (moment.micros / 1000000)

/-- `a > b` of finite floats. -/
def floatGt : PyFloat → PyFloat → Bool
  | .finite a, .finite b => b < a
  | _, _ => false

/-- `_require_fresh_evidence_request`. -/
def requireFresh (H : Host) (request : EvidenceRequest) (now : UtcTime) : Except Stop Unit :=
  match parseIso request.expiresAtIso with
  | none => .error (.http 400 "evidence_request_invalid_expiry")
  | some expires =>
    require (!floatGt (timestamp H now) (timestamp H expires)) 400 "evidence_request_expired"

/-- The attestation that a verification starts from, and the id of its request. -/
def submittedAttestation (H : Host) (row : Row) : Except Stop (Members × PyStr) := do
  let .obj attestation := H.loads row.attestationJson
    | .error (.http 400 "attestation_evidence_missing")
  require (!(submittedEvidenceFields attestation).isEmpty) 400 "attestation_evidence_missing"
  let requestId := evidenceRequestId H attestation
  require (requestId ≠ []) 400 "evidence_request_missing"
  .ok (attestation, requestId)

/-- `any(_boolish(result.get(alias)) for alias in aliases)`. -/
def anyOf (H : Host) (result : Members) (aliases : List String) : Bool :=
  aliases.any fun name => (get result name).any H.boolish

/-- A verifier that has run to its end accepts: `_verifier_result_ok`, no check of
`_missing_required_verifier_checks` is missing, and the process returned zero. -/
def verifierAccepts (H : Host) (result : Members) (returncode : ℤ) : Bool :=
  returncode = 0 && anyOf H result ["ok", "verified"] &&
    anyOf H result ["tdx_verified", "tdx_quote_verified"] &&
    anyOf H result ["gpu_verified", "gpu_attestation_verified"] &&
    anyOf H result ["report_data_match", "nonce_bound", "binding_verified"] &&
    anyOf H result ["debug_disabled", "tdx_debug_disabled"] &&
    (anyOf H result ["gpu_claims_match", "gpu_model_count_match", "capacity_gpu_match",
        "claimed_gpu_match"] ||
      anyOf H result ["gpu_model_match"] && anyOf H result ["gpu_count_match"])

/-- `_public_verifier_summary`; its keys are sorted. -/
def publicVerifierSummary (result : Members) : Members :=
  ["binding_verified", "capacity_gpu_match", "claimed_gpu_match", "debug_disabled",
    "gpu_attestation_verified", "gpu_claims_match", "gpu_count", "gpu_count_match", "gpu_model",
    "gpu_model_count_match", "gpu_model_match", "gpu_verified", "measurement", "mrtd_hex",
    "nonce_bound", "ok", "policy", "proof", "reason", "report_data_match", "returncode",
    "stderr_tail", "stdout_tail", "tdx_debug_disabled", "tdx_quote_verified", "tdx_verified",
    "verified", "verifier", "version"].filterMap fun key =>
      (get result key).map fun v => (PyStr.ofString key, v)

/-- `str(a or default)`. -/
def strOrElse (H : Host) (body : Members) (name default : String) : Value :=
  (Host.firstTruthy body [name]).elim (text default) fun v => .str (H.str v)

/-- `_attestation_verified_json` of an attestation that has been checked for its fields. -/
def attestationVerifiedJson (H : Host) (E : Settings) (attestation result : Members)
    (request : EvidenceRequest) (now : UtcTime) : PyStr :=
  let body := membersOrRaw (H.loads (H.jsonBlob (.obj attestation)))
  H.jsonBlob (.obj (put body "cathedral_review" (.obj (record
    [("status", text EvidenceStatus.cryptographicallyVerified.text),
      ("reason", strOrElse H result "reason" "tdx_and_gpu_attestation_verified"),
      ("reviewed_by", text "admin"), ("reviewed_at_iso", .str (H.iso now)),
      ("proof", strOrElse H result "proof" "tdx_dcap_and_nvidia_gpu_attestation"),
      ("cryptographic_proof", .bool true),
      ("verifier", strOrElse H result "verifier" "configured_verifier"),
      ("verifier_command_digest", .str E.verifierCommandDigest),
      ("verifier_result_digest", .str (H.digestText (H.jsonBlob (.obj result)))),
      ("evidence_request_id", .str (evidenceRequestId H body)),
      ("evidence_request_binding_sha256", .str request.bindingSha256),
      ("tdx_verified", .bool true), ("gpu_verified", .bool true), ("gpu_claims_match", .bool true),
      ("report_data_match", .bool true), ("debug_disabled", .bool true),
      ("verifier_summary", .obj (publicVerifierSummary result)),
      ("note", text ("fresh TDX quote and NVIDIA GPU confidential-compute evidence verified by " ++
        "configured verifier"))]))))

/-! ## Receipts -/

def providerAcceptedStatus : List PyStr :=
  ["accepted", "active", "listed", "running", "ready"].map PyStr.ofString

/-- The payload of `provider_status_verified`, of what is read back. -/
structure ProviderReceipt where
  providerStatus : PyStr
  serverId : PyStr
deriving DecidableEq

/-- The payload of `usage_receipt_verified`, of what is read back. -/
structure UsageReceipt where
  revenueUsd : Option PyFloat
  usageSeconds : Option PyFloat
  workloadCount : Option ℤ
deriving DecidableEq

def requireLaunchReadyBase (H : Host) (row : Row) : Except Stop Unit := do
  require ((evidenceSummary H (.str row.attestationJson)).status = .cryptographicallyVerified) 400
    "cryptographic_attestation_required"
  require (row.preflightStatus = .eligible) 400 "preflight_not_eligible"
  require row.operatorUseAuthorized 400 "operator_use_not_authorized"

def normalProviderStatus (H : Host) (raw : PyStr) : PyStr :=
  let status := (H.lower (PyStr.strip raw)).map fun p =>
    if p = CodePoint.ofChar '-' then CodePoint.ofChar '_' else p
  let aliases := [("ok", "listed"), ("up", "running"), ("healthy", "running"),
    ("available", "ready"), ("provisioned", "accepted"), ("registered", "listed")]
  ((aliases.find? fun pair => PyStr.ofString pair.1 = status).map fun pair =>
    PyStr.ofString pair.2).getD status

/-- What `record_provider_status` writes, from the row that it has read: its receipt, and the
server's name. -/
def planProviderStatus (H : Host) (row : Row) (body : Members) :
    Except Stop (ProviderReceipt × PyStr) := do
  requireLaunchReadyBase H row
  let raw ← H.requiredStr body "provider_status"
  let providerStatus := normalProviderStatus H raw
  let named (name other : String) (current : PyStr) : PyStr :=
    PyStr.strip ((Host.firstTruthy body [name, other]).elim current H.str)
  let serverId := named "server_id" "chutes_server_id" row.chutesServerId
  let serverName := named "server_name" "chutes_server_name" row.chutesServerName
  require (serverId ≠ []) 400 "provider_server_id_required"
  require (providerStatus ∈ providerAcceptedStatus) 400 "provider_status_not_accepted"
  let newName := if serverName = [] then row.chutesServerName else serverName
  if (encoded serverId).isSome ∧ (encoded newName).isSome then
    .ok (⟨providerStatus, serverId⟩, newName)
  else .error .raised

/-- The row that `record_provider_status` writes. -/
def Row.listedAs (row : Row) (serverId serverName updatedAtIso : PyStr) : Row :=
  { row with
    status := .active
    chutesStatus := .listed
    chutesServerId := serverId
    chutesServerName := serverName
    updatedAtIso := updatedAtIso }

def optionalFloat (H : Host) : Option Value → Option PyFloat
  | none | some (.bool _) => none
  | some v =>
    match PyJson.toFloat? H.numbers v with
    | some (.finite q) => some (.finite q)
    | _ => none

def optionalInt (H : Host) : Option Value → Option ℤ
  | none | some .null | some (.str []) => none
  | some v => some (H.int 0 v)

/-- `a or b` of two fields of a body. -/
def eitherField (body : Members) (name other : String) : Option Value :=
  ((get body name).filter truthy).or (get body other)

def isPositive (x : Option PyFloat) : Bool := x.any fun x => floatGt x (.finite 0)

/-- What `record_usage_receipt` records. -/
def usageReceipt (H : Host) (body : Members) : Except Stop UsageReceipt := do
  let _ ← H.requiredStr body "receipt_id"
  let revenueUsd := optionalFloat H (get body "revenue_usd")
  let usageSeconds := optionalFloat H (get body "usage_seconds")
  let workloadCount := optionalInt H (eitherField body "workload_count" "workloads_completed")
  require (isPositive revenueUsd || isPositive usageSeconds || workloadCount.any (0 < ·)) 400
    "usage_or_revenue_required"
  .ok ⟨revenueUsd, usageSeconds, workloadCount⟩

/-! ## Events -/

/-- The events that are read back. -/
inductive Payload where
  | evidenceRequest (request : EvidenceRequest)
  | provider (receipt : ProviderReceipt)
  | health
  | usage (receipt : UsageReceipt)

structure Event where
  payload : Payload
  createdAtIso : PyStr

/-- The last of the largest times. -/
def latest {α : Type} : List (α × PyStr) → Option (α × PyStr)
  | [] => none
  | e :: rest =>
    match latest rest with
    | some best => if best.2 < e.2 then some e else some best
    | none => some e

/-- `_latest_event` of the events that a reader takes, `ORDER BY created_at_iso ASC`: of two of
one time the one that was inserted later. -/
def latestEvent {α : Type} (reader : Payload → Option α) (events : List Event) :
    Option (α × PyStr) :=
  latest (events.filterMap fun e => (reader e.payload).map fun a => (a, e.createdAtIso))

def Payload.provider? : Payload → Option ProviderReceipt
  | provider receipt => some receipt
  | _ => none

def Payload.health? : Payload → Option Unit
  | health => some ()
  | _ => none

def Payload.usage? : Payload → Option UsageReceipt
  | usage receipt => some receipt
  | _ => none

/-- `_evidence_request_payload`: the latest request of an id. -/
def evidenceRequestPayload (events : List Event) (requestId : PyStr) : Option EvidenceRequest :=
  if requestId = [] then none
  else
    (latestEvent (fun payload =>
      match payload with
      | .evidenceRequest request => if request.requestId = requestId then some request else none
      | _ => none) events).map Prod.fst

def evidenceRequestExists (events : List Event) (requestId : PyStr) : Bool :=
  (evidenceRequestPayload events requestId).isSome

/-- `provider_ok` of `capacity_launch_evidence`. -/
def providerOk (events : List Event) : Bool :=
  (latestEvent Payload.provider? events).any fun latest =>
    latest.1.providerStatus ∈ providerAcceptedStatus && latest.1.serverId ≠ []

/-- `health_ok`; every receipt on record says so. -/
def healthOk (events : List Event) : Bool := (latestEvent Payload.health? events).isSome

/-- `usage_ok`; `none` where the float of a count overflows. -/
def usageOk (H : Host) (events : List Event) : Option Bool :=
  match latestEvent Payload.usage? events with
  | none => some false
  | some (receipt, _) =>
    if isPositive receipt.revenueUsd || isPositive receipt.usageSeconds then some true
    else
      match receipt.workloadCount with
      | none => some false
      | some n => (H.numbers.floatOfInt n).map fun x => floatGt x (.finite 0)

/-- What `capacity_launch_evidence` reports; the cryptographic status of the attestation is that
of the row. -/
structure LaunchEvidence where
  providerListingVerified : Bool
  healthVerified : Bool
  usageOrRevenueVerified : Bool
  productionComputeReady : Bool

/-- The part of `production_compute_ready` that is read from the row. -/
def Row.launchable (H : Host) (row : Row) : Bool :=
  row.status = .active && row.chutesStatus = .listed &&
    (evidenceSummary H (.str row.attestationJson)).status = .cryptographicallyVerified

/-- `capacity_launch_evidence` of a row and of the events, which are read after it; `none` where it
raises. -/
def capacityLaunchEvidence (H : Host) (row : Row) (events : List Event) : Option LaunchEvidence :=
  (usageOk H events).map fun usage =>
    { providerListingVerified := providerOk events
      healthVerified := healthOk events
      usageOrRevenueVerified := usage
      productionComputeReady :=
        row.launchable H && providerOk events && healthOk events && usage }

/-! ## Listing on Chutes -/

/-- `chutes_manifest_item` misses nothing, and nothing else blocks the listing. -/
def Row.listable (H : Host) (E : Settings) (row : Row) : Bool :=
  let preflight := membersOr (some (H.loads row.preflightJson))
  !PyJson.pyEqGet (get preflight "capacity_kind") (some (text "google_tpu")) &&
    PyStr.strip row.chutesServerName ≠ [] && PyStr.strip row.agentApi ≠ [] && E.hasHotkeyPath &&
    row.operatorUseAuthorized && row.preflightStatus = .eligible &&
    (evidenceSummary H (.str row.attestationJson)).status = .cryptographicallyVerified &&
    row.status = .active

/-- `list_capacity_on_chutes(execute=True)` up to its claim: whether it goes on to claim. -/
def startListing (H : Host) (E : Settings) (row : Row) : Except Stop Bool := do
  require (row.listable H E) 400 "chutes_listing_not_ready"
  if row.chutesStatus = .listed then .ok false
  else do
    require E.chutesExecuteEnabled 403 "chutes_execution_disabled"
    .ok true

def boundedTimeout (E : Settings) (timeoutSecs : Option ℤ) : ℤ :=
  max 5 (min (timeoutSecs.getD E.chutesTimeoutSecs) 900)

def listingClaimIsStale (H : Host) (E : Settings) (updatedAtIso : PyStr) (now : UtcTime) : Bool :=
  match parseIso updatedAtIso with
  | none => false
  | some updated =>
    let staleSecs := max (boundedTimeout E none + 60) E.listingStaleSecs
    match (timestamp H now).sub (timestamp H updated) with
    | .finite age => floatGt (H.numbers.nearest age) (.finite staleSecs)
    | _ => false

/-- How a claim ends. -/
inductive Claim where
  | claimed
  | alreadyListed
  | inProgress
deriving DecidableEq

/-- `_claim_chutes_listing` on the row that its transaction reads. -/
def claimChutesListing (H : Host) (E : Settings) (row : Row) (now : UtcTime) : Claim :=
  if row.chutesStatus = .listed then .alreadyListed
  else if row.chutesStatus = .listing ∧ ¬ listingClaimIsStale H E row.updatedAtIso now then
    .inProgress
  else .claimed

def Row.claimedAt (row : Row) (updatedAtIso : PyStr) : Row :=
  { row with chutesStatus := .listing, updatedAtIso := updatedAtIso }

/-- The row after a command; `snapshot` is the row that was read before the claim. -/
def Row.afterCommand (row snapshot : Row) (succeeded : Bool) (updatedAtIso : PyStr) : Row :=
  { row with
    status := if succeeded then .active else snapshot.status
    chutesStatus := if succeeded then .listed else .listFailed
    updatedAtIso := updatedAtIso }

/-! ## What an update is computed from

A number that an admin sets as a text is stored in another form than the one that is judged, but
neither is a URL, and neither names TDX. -/

section Plans

variable {H : Host} {E : Settings}

/-- A text of ASCII without the letters `h` and `x`. -/
def Plain (t : PyStr) : Prop := t ≠ [] ∧ ∀ p ∈ t, p.val < 128 ∧ p.val ∉ [88, 104, 120]

theorem plain_ascii {cs : List Char}
    (h : cs ≠ [] ∧ (cs.all fun c => c.toNat < 128 ∧ c.toNat ∉ [88, 104, 120]) = true) :
    Plain (PyRepr.ascii cs) := by
  refine ⟨List.map_eq_nil_iff.not.mpr h.1, fun p hp => ?_⟩
  obtain ⟨c, hc, rfl⟩ := List.mem_map.mp hp
  exact forall_mem_of_all h.2 c hc

theorem plain_of_isNumeral {cs : List Char} (h : IsNumeral cs) : Plain (PyRepr.ascii cs) := by
  have hall : ∀ c ∈ "+-.0123456789e".toList, c.toNat < 128 ∧ c.toNat ∉ [88, 104, 120] :=
    forall_mem_of_all (by decide)
  exact plain_ascii
    ⟨h.1, List.all_eq_true.mpr fun c hc => decide_eq_true (hall c (h.2 c hc))⟩

theorem Plain.not_isHttp {t : PyStr} (h : Plain t) : isHttp t = false := by
  obtain ⟨p, rest, rfl⟩ := List.exists_cons_of_ne_nil h.1
  have hp : p ≠ CodePoint.ofChar 'h' := by
    rintro rfl
    exact absurd (h.2 _ List.mem_cons_self).2 (by decide)
  have hword : ∀ word : List Char,
      ((CodePoint.ofChar 'h' :: word.map CodePoint.ofChar).isPrefixOf (p :: rest)) = false := by
    intro word
    rw [List.isPrefixOf_cons_cons, beq_false_of_ne (Ne.symm hp), Bool.false_and]
  rw [isHttp, Bool.or_eq_false_iff]
  exact ⟨hword "ttp://".toList, hword "ttps://".toList⟩

theorem Plain.notTdx {t : PyStr} (h : Plain t) : notTdx H t = true := by
  have hlower : H.lower t = PyStr.asciiLower t :=
    if_pos (List.all_eq_true.mpr fun p hp => decide_eq_true (h.2 p hp).1)
  rw [TeeGpu.notTdx, Bool.and_eq_true, Bool.not_eq_true', decide_eq_false_iff_not, hlower]
  refine ⟨decide_eq_true h.1, fun hinfix => ?_⟩
  -- the text would have an `x`, which comes from one of the two
  have hx : CodePoint.ofChar 'x' ∈ PyStr.asciiLower t := hinfix.subset (by decide)
  obtain ⟨p, hp, heq⟩ := List.mem_map.mp hx
  obtain ⟨hlt, hne⟩ := h.2 p hp
  have hval := congrArg Fin.val heq
  have h120 : (CodePoint.ofChar 'x').val = 120 := by decide
  rw [h120] at hval
  simp only [List.mem_cons, List.not_mem_nil, or_false, not_or] at hne
  split_ifs at hval with hupper
  · have hsum : (Fin.ofNat 0x110000 (p.val + 32)).val = p.val + 32 := Nat.mod_eq_of_lt (by omega)
    rw [hsum] at hval
    omega
  · exact hne.2.2 hval

/-- What is stored of a value is what is judged of it, or both are plain. -/
theorem Bound.stored_cases (b : Bound H) :
    b.stored = H.str b.value ∨ Plain b.stored ∧ Plain (H.str b.value) := by
  obtain ⟨v, stored, hbinds⟩ := b
  cases v with
  | null => cases hbinds
  | arr items => cases hbinds
  | obj members => cases hbinds
  | str s =>
    obtain ⟨_, -, rfl⟩ := Option.map_eq_some_iff.mp hbinds
    exact .inl rfl
  | bool b =>
    cases hbinds
    cases b with
    | false =>
      exact .inr ⟨@plain_ascii "0".toList (by decide), @plain_ascii "False".toList (by decide)⟩
    | true =>
      exact .inr
        ⟨@plain_ascii "1".toList (by decide), @plain_ascii "True".toList (by decide)⟩
  | num n =>
    cases n with
    | int n =>
      have hstored : (if -2 ^ 63 ≤ n ∧ n < 2 ^ 63 then some (PyStr.numeral n) else none) =
        some stored := hbinds
      split_ifs at hstored
      cases hstored
      exact .inl rfl
    | float x =>
      cases x with
      | finite q =>
        cases hbinds
        exact .inr ⟨plain_of_isNumeral (H.sqliteReal_numeral q),
          plain_of_isNumeral (H.floatRepr_numeral q)⟩
      | nan => cases hbinds
      | posInf =>
        cases hbinds
        exact .inr
          ⟨@plain_ascii "Inf".toList (by decide), @plain_ascii "inf".toList (by decide)⟩
      | negInf =>
        cases hbinds
        exact .inr
          ⟨@plain_ascii "-Inf".toList (by decide), @plain_ascii "-inf".toList (by decide)⟩

/-- Two texts of a column that `preflight_capacity` does not tell apart. -/
structure Alike (H : Host) (a b : PyStr) : Prop where
  isHttp : isHttp a = isHttp b
  eq_of_isHttp : TeeGpu.isHttp a = true → a = b
  notTdx : notTdx H a = notTdx H b

theorem Alike.refl (a : PyStr) : Alike H a a := ⟨rfl, fun _ => rfl, rfl⟩

/-- What an update stores in a text column is judged like what was judged. -/
theorem Bound.alike (b : Option (Bound H)) (current : PyStr) :
    Alike H ((b.map Bound.stored).getD current) (Bound.over b current) := by
  cases b with
  | none => exact .refl current
  | some b =>
    rcases b.stored_cases with heq | ⟨hstored, hvalue⟩
    · have hover : ((some b).map Bound.stored).getD current = Bound.over (some b) current := heq
      rw [hover]
      exact .refl _
    · refine ⟨hstored.not_isHttp.trans hvalue.not_isHttp.symm, fun hhttp => ?_,
        hstored.notTdx.trans hvalue.notTdx.symm⟩
      have hfalse : true = false := hhttp.symm.trans hstored.not_isHttp
      cases hfalse

theorem preflightCapacity_alike {j : Judged} {agentApi teeKind t : PyStr}
    (hapi : Alike H agentApi j.agentApi) (hkind : Alike H teeKind j.teeKind) :
    preflightCapacity H E { j with agentApi := agentApi, teeKind := teeKind } t =
      preflightCapacity H E j t := by
  have hreasons : Judged.reasons H E { j with agentApi := agentApi, teeKind := teeKind } =
      j.reasons H E := by
    show gpuReasons j ++ _ ++ costReasons j.hourlyCost ++ reason (!isHttp agentApi) _ ++
      reason (!j.isTpu && !j.tdxClaimed) _ ++ reason (!j.isTpu && !j.gpuCcClaimed) _ ++ _ ++
      reason (!j.isTpu && notTdx H teeKind) _ ++ _ ++ evidenceReasons E j = j.reasons H E
    rw [hapi.isHttp, hkind.notTdx]
    rfl
  have hwarnings : Judged.warnings { j with agentApi := agentApi, teeKind := teeKind } =
      j.warnings := by
    show (if j.isTpu then _ else reason (isHttp agentApi &&
      !decide (PyStr.ofString ":32000" <:+: agentApi)) _) = j.warnings
    cases hhttp : isHttp agentApi with
    | true =>
      have heq := hapi.eq_of_isHttp hhttp
      rw [Judged.warnings, ← heq, hhttp]
    | false =>
      rw [hapi.isHttp] at hhttp
      rw [Judged.warnings, hhttp]
      rfl
  rw [preflightCapacity, hreasons, hwarnings]
  rfl

/-- The preflight of an update is that of the row that was read, after the update. -/
theorem Patch.preflight_apply (patch : Patch H) (row : Row) (now : UtcTime) :
    preflightCapacity H E (((patch.updates row E now).apply H row).judged H) (H.iso now) =
      (patch.updates row E now).preflight :=
  preflightCapacity_alike (j := patch.judged row) (Bound.alike patch.agentApi row.agentApi)
    (Bound.alike patch.teeKind row.teeKind)

/-- An update that does not set the status is of a row that stays eligible if it is active. -/
theorem Patch.eligible_of_status_none {patch : Patch H} {row : Row} {now : UtcTime}
    (h : (patch.updates row E now).status = none) (hactive : row.status = .active) :
    (patch.updates row E now).preflight.status = .eligible := by
  have hstatus : (if patch.reopened row = none ∧ row.status = .active ∧
      (patch.updates row E now).preflight.status ≠ .eligible then some .pending
      else patch.reopened row) = none := h
  split_ifs at hstatus with hif
  by_contra hne
  exact hif ⟨hstatus, hactive, hne⟩

theorem planUpdate_eq_ok {row : Row} {body : Members} {keepReview : Bool}
    {requestExists : PyStr → Bool} {now : UtcTime} {u : Updates}
    (h : planUpdate H E row body keepReview requestExists now = .ok u) :
    ∃ reviewed patch, reviewedBody H body row requestExists now = .ok reviewed ∧
      readPatch H reviewed ((get body "attestation_review").isSome || keepReview) = .ok patch ∧
      u = patch.updates row E now ∧ (u.status = some .active → u.preflight.status = .eligible) := by
  obtain ⟨reviewed, hreviewed, h⟩ := bind_eq_ok.mp h
  obtain ⟨patch, hpatch, h⟩ := bind_eq_ok.mp h
  obtain ⟨_, hrequire, h⟩ := bind_eq_ok.mp h
  cases h
  refine ⟨reviewed, patch, hreviewed, hpatch, rfl, fun hactive => ?_⟩
  have hpasses := require_eq_ok.mp hrequire
  rw [hactive] at hpasses
  simpa using hpasses

end Plans

end Cathedral.Publisher.TeeGpu
