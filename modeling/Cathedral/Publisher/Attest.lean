import Cathedral.Arena.Replay
import Cathedral.Lib.PyConvert
import Cathedral.Lib.PyDatetime
import Cathedral.Lib.SqlCell
import Cathedral.Publisher.ArenaIntake

/-!
# Cathedral.Publisher.Attest — solver attestations

`verify_attestation` of `scaffold/publisher/attest.py`, as one call over the tables it uses, on
the SQLite backend. The verifier of quotes, SHA-256 and Ed25519 are parameters.

Every failure is meant to be a refusal. `verify_raises_iff` says what the call raises on
instead: a hashed field that is no text, a receipt that is no object, and an `eval_run_id` that
the driver cannot bind.
-/

namespace Cathedral.Publisher.Attest

open Arena (Crypto Members SigningKey get text integer utf8 toInt)
open ArenaIntake (SolverRow)
open Lanes.SolverArena (round6)
open PyJson (Value pyEq pyEqGet)

/-! ## The tables -/

/-- A row of `attest_nonces`, under its nonce. -/
structure NonceRow where
  minerHotkey : PyStr
  challengeId : PyStr
  minerPubkeyB64 : PyStr
  issuedAtIso : PyStr
  expiresAtIso : PyStr
  usedAtIso : Option PyStr

/-- A row of `eval_runs`, under its id. -/
structure EvalRun where
  rowJson : PyStr
  attested : ℤ

/-- A row of `attestations`, under its id. -/
structure Attestation where
  evalRunId : PyStr
  minerHotkey : PyStr
  challengeId : PyStr
  solverDigest : PyStr
  multiplier : PyFloat
  verifiedAtIso : PyStr
  quoteDigest : PyStr
  receiptDigest : PyStr
  verifierBackend : PyStr

structure Tables where
  nonces : Dict PyStr NonceRow
  evalRuns : Dict PyStr EvalRun
  attestations : Dict PyStr Attestation
  /-- `arena_solvers`, under their source hashes. -/
  solvers : Dict PyStr SolverRow

/-- What the publisher takes from its libraries. -/
structure Host where
  crypto : Crypto
  /-- The key that every call is given; `none` where its text is no key. -/
  privateKey : Option (SigningKey crypto)
  numbers : PyNumbers
  /-- How deep `json.loads` goes. -/
  depth : ℕ
  printable : CodePoint → Bool
  /-- A float as SQLite writes it into a text. -/
  sqliteReal : ℚ → PyStr
  padsYear : Bool

/-- `_now_iso` and the texts of `issue_nonce`. -/
def Host.iso (H : Host) (moment : UtcTime) : PyStr := PyRepr.ascii (msIso H.padsYear moment)

/-- `str(value)`. -/
def Host.str (H : Host) (v : Value) : PyStr := PyJson.str H.crypto.floatRepr H.printable v

/-! ## `verify_attestation`, up to its writes -/

/-- `AttestVerifyResult`. -/
structure Result where
  ok : Bool
  reason : Option String
  multiplier : PyFloat
  evalRunId : Option Value

def Result.refusal (reason : String) : Result := ⟨false, some reason, .finite 1, none⟩

/-- How a call ends before its write. -/
inductive Stop where
  | refused (reason : String)
  | raised

def require (p : Bool) (reason : String) : Except Stop Unit :=
  if p then .ok () else .error (.refused reason)

def orRefuse {α : Type} (reason : String) : Option α → Except Stop α
  | some a => .ok a
  | none => .error (.refused reason)

def orRaise {α : Type} : Option α → Except Stop α
  | some a => .ok a
  | none => .error .raised

/-- An `IntelCollateralVerifier`: `verify_intel` of a quote and its collateral, and its `backend`,
or `unknown`. -/
structure Intel where
  verifyIntel : Bytes → Option Value → Bool
  backend : PyStr

/-- The arguments of `verify_attestation`. -/
structure Request where
  payload : Members
  intel : Option Intel
  /-- The argument, or the configured one. -/
  multiplier : PyFloat
  authenticatedHotkey : Option PyStr

/-- The fields of a payload that are hashed as texts, and the others. -/
structure Claimed where
  nonce : PyStr
  minerPubkeyB64 : PyStr
  solverDigest : PyStr
  receipt : PyStr
  challengeId : Value
  instanceSha256 : Value
  outcome : Value
  answerHash : Value
  evalRunId : Value

/-- `payload.get(name, "")`. -/
def field (payload : Members) (name : String) : Value := (get payload name).getD (text "")

/-- A field that the code concatenates and encodes, which raises unless it is a text. -/
def textField (payload : Members) (name : String) : Except Stop PyStr :=
  match field payload name with
  | .str s => .ok s
  | _ => .error .raised

def claimed (payload : Members) : Except Stop Claimed := do
  let nonce ← textField payload "nonce"
  let minerPubkeyB64 ← textField payload "miner_pubkey_b64"
  let solverDigest ← textField payload "solver_digest"
  let receipt ← textField payload "receipt"
  .ok { nonce, minerPubkeyB64, solverDigest, receipt
        challengeId := field payload "challenge_id"
        instanceSha256 := field payload "instance_sha256"
        outcome := field payload "outcome"
        answerHash := field payload "answer_hash"
        evalRunId := field payload "eval_run_id" }

def asciiText? (s : PyStr) : Option (List Char) :=
  if s.all (·.val < 128) then some (s.map fun p => Char.ofNat p.val) else none

/-- `base64.b64decode(payload.get("quote_b64", ""), validate=False)`. -/
def quoteOf (payload : Members) : Except Stop Bytes :=
  match field payload "quote_b64" with
  | .str s => orRefuse "malformed_quote_b64" ((asciiText? s).bind Base64.decodeLenient)
  | _ => .error (.refused "malformed_quote_b64")

def recomputeReportData (H : Host) (c : Claimed) : Option Bytes := do
  let lo ← utf8 (c.nonce ++ c.minerPubkeyB64)
  let receipt ← utf8 c.receipt
  let hi ← utf8 (c.solverDigest ++ H.crypto.sha256Hex receipt)
  some (H.crypto.sha256 lo ++ H.crypto.sha256 hi)

/-- The quote and the fields, once the quote binds them and is genuine. -/
def checkQuote (H : Host) (request : Request) : Except Stop (Bytes × Claimed) := do
  let intel ← orRefuse "no_verifier_configured" request.intel
  let quote ← quoteOf request.payload
  require (632 ≤ quote.length) "quote_too_short"
  let c ← claimed request.payload
  let expect ← orRaise (recomputeReportData H c)
  require (expect = (quote.drop 568).take 64) "report_data_mismatch"
  require (intel.verifyIntel quote (get request.payload "collateral"))
    "intel_collateral_unverified"
  .ok (quote, c)

def parseIso (text : PyStr) : Option LocalTime :=
  fromIsoFormat (text.flatMap fun p =>
    if p = CodePoint.ofChar 'Z' then PyStr.ofString "+00:00" else [p])

/-- `expires_at < datetime.now(timezone.utc)`; a naive time does not compare. -/
def isPast (expiresAt : LocalTime) (now : UtcTime) : Option Bool :=
  expiresAt.offset.map fun offset => expiresAt.wall.micros - offset < now.micros

/-- The nonce is one that was issued for this miner and challenge, and is unused. -/
def checkNonce (request : Request) (c : Claimed) (row : Option NonceRow) (now : UtcTime) :
    Except Stop NonceRow := do
  let nrow ← orRefuse "unknown_nonce" row
  require (nrow.usedAtIso = none) "nonce_already_used"
  require (match request.authenticatedHotkey with
    | some hotkey => hotkey = [] || nrow.minerHotkey = hotkey
    | none => true) "authenticated_hotkey_mismatch"
  let expiresAt ← orRefuse "nonce_expired" (parseIso nrow.expiresAtIso)
  let past ← orRaise (isPast expiresAt now)
  require (!past) "nonce_expired"
  require (pyEq c.challengeId (.str nrow.challengeId)) "nonce_challenge_mismatch"
  require (nrow.minerPubkeyB64 = c.minerPubkeyB64) "nonce_pubkey_mismatch"
  .ok nrow

/-- `str(value).upper()`. -/
def upperText (H : Host) (v : Value) : PyStr :=
  PyStr.upper H.numbers.tables (H.str v)

/-- A document with members; another one has no `get`. -/
def membersOf : Value → Option Members
  | .obj members => some members
  | _ => none

/-- The receipt agrees with the payload. -/
def checkReceipt (H : Host) (c : Claimed) : Except Stop Unit := do
  let document ← orRefuse "malformed_receipt"
    ((utf8 c.receipt).bind (PyJson.loads H.numbers H.depth))
  let rj ← orRaise (membersOf document)
  require (pyEqGet (get rj "challenge_id") (some c.challengeId)) "receipt_challenge_mismatch"
  require (pyEqGet (get rj "instance_sha256") (some c.instanceSha256)) "receipt_instance_mismatch"
  require (pyEqGet (get rj "solver_digest") (some (.str c.solverDigest)))
    "receipt_solver_mismatch"
  require (upperText H (field rj "outcome") = upperText H c.outcome) "receipt_outcome_mismatch"
  require (pyEqGet (get rj "answer_hash") (some c.answerHash)) "receipt_answer_mismatch"

/-- What a call has found out when it has read its nonce. -/
structure Checked where
  request : Request
  quote : Bytes
  claimed : Claimed
  nrow : NonceRow

/-- The call up to its first query, and what it does with the answer. -/
def readNonce (H : Host) (T : Tables) (request : Request) (now : UtcTime) :
    Except Stop Checked := do
  let (quote, c) ← checkQuote H request
  let nrow ← checkNonce request c (T.nonces.get? c.nonce) now
  checkReceipt H c
  .ok ⟨request, quote, c, nrow⟩

/-- A value as a parameter that is compared with a text column: the text, nothing for `NULL`, and
`none` where the driver raises. -/
def bindText (H : Host) : Value → Option (Option PyStr)
  | .null => some none
  | .bool b => some (some (PyStr.numeral (if b then 1 else 0)))
  | .num (.int n) => if -2 ^ 63 ≤ n ∧ n < 2 ^ 63 then some (some (PyStr.numeral n)) else none
  | .num (.float (.finite q)) => some (some (H.sqliteReal q))
  | .num (.float .nan) => some none
  | .num (.float .posInf) => some (some (PyStr.ofString "Inf"))
  | .num (.float .negInf) => some (some (PyStr.ofString "-Inf"))
  | .str s => (utf8 s).map fun _ => some s
  | .arr _ | .obj _ => none

/-- `hashlib.sha256(f"{challenge_id}:{tier}".encode("utf-8")).hexdigest()[:16]`. -/
def taskPublic (H : Host) (challengeId : Value) (tier : ℤ) : Option PyStr :=
  (utf8 (H.str challengeId ++ PyStr.ofString ":" ++ PyStr.numeral tier)).map fun bytes =>
    (H.crypto.sha256Hex bytes).take 16

/-- The stored row belongs to the nonce's miner and to the challenge, and has the answer. -/
def checkRun (H : Host) (v : Checked) (run : EvalRun) : Except Stop Members := do
  require (run.attested = 0) "already_attested"
  let document ← orRaise ((utf8 run.rowJson).bind (PyJson.loads H.numbers H.depth))
  let row ← orRaise (membersOf document)
  require (pyEq (field row "miner_hotkey") (.str v.nrow.minerHotkey)) "nonce_miner_mismatch"
  require (pyEqGet (get row "answer_hash") (some v.claimed.answerHash)) "eval_run_answer_mismatch"
  let tier ← orRefuse "eval_run_challenge_unbound"
    (((get row "difficulty_tier").map (toInt H.numbers.tables)).bind Except.toOption)
  let expected ← orRaise (taskPublic H v.claimed.challengeId tier)
  require (pyEqGet (get row "task_id_public") (some (.str expected))) "eval_run_challenge_mismatch"
  .ok row

/-- What a call has found out when it has read its eval row. -/
structure Matched extends Checked where
  runId : PyStr
  erow : EvalRun
  row : Members

def readRun (H : Host) (T : Tables) (v : Checked) : Except Stop Matched := do
  let key ← orRaise (bindText H v.claimed.evalRunId)
  let runId ← orRefuse "unknown_eval_run" key
  let erow ← orRefuse "unknown_eval_run" (T.evalRuns.get? runId)
  let row ← checkRun H v erow
  .ok { v with runId, erow, row }

def ownedSolvers (T : Tables) (owner : Value) : List SolverRow :=
  T.solvers.values.filter fun r => pyEq owner (.str r.ownerHotkey)

/-- `sdigest_rows`. -/
def digestRegistered (T : Tables) (v : Matched) : Bool :=
  (ownedSolvers T (field v.row "miner_hotkey")).any (·.containerDigest = v.claimed.solverDigest)

/-! ## The new row -/

/-- `min(1.0, x)`. -/
def capped (x : PyFloat) : PyFloat := if Cell.numberLt x (.finite 1) then x else .finite 1

/-- `round(x, 6)`. -/
def roundSix (numbers : PyNumbers) : PyFloat → PyFloat
  | .finite q => numbers.nearest (round6 q)
  | x => x

/-- `new_ws`; `none` where the stored score is no number. -/
def newScore (H : Host) (row : Members) (multiplier : PyFloat) : Option PyFloat :=
  (PyJson.toFloat? H.numbers ((get row "weighted_score").getD (.num (.float (.finite 0))))).map
    fun base => roundSix H.numbers (capped (PyFloat.mul H.numbers.nearest base multiplier))

/-- `members[name] = value`. -/
def put (members : Members) (name : String) (value : Value) : Members :=
  Dict.upsert (PyStr.ofString name) value members

/-- The score in every place where the row has it. -/
def rescored (row : Members) (score : Value) : Members :=
  let scored := put row "weighted_score" score
  let valued :=
    if (get scored "challenge_value").isSome then put scored "challenge_value" score else scored
  match get valued "score_parts" with
  | some (.obj parts) => put valued "score_parts" (.obj (put parts "binary_correct" score))
  | _ => valued

def signedKeysV5 : List String :=
  ["id", "agent_id", "agent_display_name", "miner_hotkey", "task_type", "task_id_public",
    "epoch_salt", "difficulty_tier", "weighted_score", "score_parts", "answer_hash",
    "verifier_details_hash", "rejection_reason", "ran_at"]

def signedKeysV6 : List String :=
  signedKeysV5 ++ ["challenge_value", "solve_rank", "solved", "operator"]

/-- `SIGNED_KEYS_BY_VERSION`. -/
def signedKeys (version : ℤ) : Option (List String) :=
  if version = 5 then some signedKeysV5 else if version = 6 then some signedKeysV6 else none

/-- `signed_payload`; `none` where it raises. -/
def signedPayload (H : Host) (row : Members) : Option Members := do
  let version ← (toInt H.numbers.tables
    ((get row "eval_output_schema_version").getD (integer 1))).toOption
  let keys ← signedKeys version
  some (row.filter fun m => m.1 ∈ keys.map PyStr.ofString)

def canonicalJson (C : Crypto) (payload : Members) : Bytes :=
  C.canonical (payload.filter fun m =>
    m.1 ∉ ["signature", "cathedral_signature", "merkle_epoch"].map PyStr.ofString)

/-- `sign_row`; `none` where it raises. -/
def signRow (H : Host) (row : Members) : Option PyStr := do
  let key ← H.privateKey
  let payload ← signedPayload H row
  some (PyRepr.ascii (Base64.encode (key.sign (canonicalJson H.crypto payload))))

/-- The row with its new score, signed again. -/
def upgradedRow (H : Host) (request : Request) (row : Members) : Option Members := do
  let score ← newScore H row request.multiplier
  let scored := rescored row (.num (.float score))
  let signature ← signRow H scored
  some (put (put scored "cathedral_signature" (.str signature)) "attested" (.bool true))

/-- `json.dumps(row)`. -/
def dumps (H : Host) (row : Members) : PyStr :=
  PyRepr.ascii (PyJson.renderSpaced H.crypto.numeral (.obj row))

/-! ## The write -/

/-- `_upgrade`: the tables after it; `none` where the eval row is attested already. -/
def upgrade (H : Host) (T : Tables) (v : Matched) (row : Members) (attId : PyStr)
    (now : UtcTime) : Option Tables :=
  match T.evalRuns.get? v.runId with
  | none => none
  | some run =>
    if run.attested = 0 then
      let after : EvalRun := ⟨dumps H row, 1⟩
      let attestation : Attestation :=
        { evalRunId := v.runId
          minerHotkey := H.str (field row "miner_hotkey")
          challengeId := H.str v.claimed.challengeId
          solverDigest := v.claimed.solverDigest
          multiplier := v.request.multiplier
          verifiedAtIso := H.iso now
          quoteDigest := H.crypto.sha256Hex v.quote
          receiptDigest := H.crypto.sha256Hex ((utf8 v.claimed.receipt).getD [])
          verifierBackend := (v.request.intel.map Intel.backend).getD [] }
      some ({ T with
        evalRuns := T.evalRuns.set v.runId after
        nonces := T.nonces.modify v.claimed.nonce fun nrow =>
          { nrow with usedAtIso := some (H.iso now) }
        -- not a number is NULL, which the column refuses and the statement ignores
        attestations :=
          if v.request.multiplier = .nan then T.attestations
          else (T.attestations.insertIgnore attId attestation).1 })
    else none

/-! ## The call -/

/-- The registered digests are only asked for where the owner has registered any. -/
def readOwner (H : Host) (T : Tables) (v : Matched) : Except Stop Members := do
  require (ownedSolvers T (field v.row "miner_hotkey") = [] || digestRegistered T v)
    "solver_digest_not_registered"
  orRaise (upgradedRow H v.request v.row)

def verify (H : Host) (T : Tables) (request : Request) (attId : PyStr) (now : UtcTime) :
    Except Stop (Tables × Result) := do
  let checked ← readNonce H T request now
  let matched ← readRun H T checked
  let row ← readOwner H T matched
  let tables ← orRefuse "already_attested" (upgrade H T matched row attId now)
  .ok (tables, ⟨true, none, request.multiplier, some checked.claimed.evalRunId⟩)

/-- `verify_attestation`: the tables and the result it returns, `none` where it raises. -/
def verifyAttestation (H : Host) (T : Tables) (request : Request) (attId : PyStr) (now : UtcTime) :
    Option (Tables × Result) :=
  match verify H T request attId now with
  | .ok r => some r
  | .error (.refused reason) => some (T, Result.refusal reason)
  | .error .raised => none

/-! ## Raising -/

section Raising

variable {α β : Type}

@[simp] theorem require_raised {p : Bool} {reason : String} :
    require p reason = .error .raised ↔ False := by
  unfold require
  split <;> simp

@[simp] theorem orRefuse_raised {reason : String} {x : Option α} :
    orRefuse reason x = .error .raised ↔ False := by
  cases x <;> simp [orRefuse]

@[simp] theorem orRaise_raised {x : Option α} : orRaise x = .error .raised ↔ x = none := by
  cases x <;> simp [orRaise]

@[simp] theorem require_eq_ok {p : Bool} {reason : String} {u : Unit} :
    require p reason = .ok u ↔ p = true := by
  unfold require
  split <;> simp_all

@[simp] theorem orRefuse_eq_ok {reason : String} {x : Option α} {a : α} :
    orRefuse reason x = .ok a ↔ x = some a := by
  cases x <;> simp [orRefuse]

@[simp] theorem orRaise_eq_ok {x : Option α} {a : α} : orRaise x = .ok a ↔ x = some a := by
  cases x <;> simp [orRaise]

end Raising

/-! ## Texts -/

theorem utf8_isSome {t : PyStr} : (utf8 t).isSome = true ↔ ∃ s, t = PyStr.ofString s := by
  rw [utf8, Option.isSome_map, Option.isSome_iff_exists]
  exact exists_congr fun s => PyStr.encode?_eq_some

theorem utf8_append {t u : PyStr} :
    (utf8 (t ++ u)).isSome = true ↔ (utf8 t).isSome = true ∧ (utf8 u).isSome = true := by
  rw [utf8_isSome, utf8_isSome, utf8_isSome]
  constructor
  · rintro ⟨s, hs⟩
    obtain ⟨a, b, -, ha, hb⟩ := List.map_eq_append_iff.mp hs.symm
    exact ⟨⟨String.ofList a, by rw [PyStr.ofString, String.toList_ofList, ha]⟩,
      ⟨String.ofList b, by rw [PyStr.ofString, String.toList_ofList, hb]⟩⟩
  · rintro ⟨⟨a, rfl⟩, ⟨b, rfl⟩⟩
    exact ⟨a ++ b, by simp [PyStr.ofString]⟩

theorem exists_ofString {t : PyStr} (h : ∀ p ∈ t, p.val < 128) : ∃ s, t = PyStr.ofString s := by
  induction t with
  | nil => exact ⟨"", rfl⟩
  | cons p rest ih =>
    obtain ⟨s, hs⟩ := ih fun q hq => h q (List.mem_cons_of_mem _ hq)
    have hvalid : p.val.isValidChar := Or.inl (by have := h p List.mem_cons_self; omega)
    have hp : p = CodePoint.ofChar (Char.ofNatAux p.val hvalid) :=
      CodePoint.toChar?_eq_some.mp (dif_pos hvalid)
    refine ⟨String.ofList (Char.ofNatAux p.val hvalid :: s.toList), ?_⟩
    rw [PyStr.ofString, String.toList_ofList, List.map_cons, ← hp, hs, PyStr.ofString]

theorem utf8_sha256Hex (C : Crypto) (bytes : Bytes) : (utf8 (C.sha256Hex bytes)).isSome = true := by
  refine utf8_isSome.mpr (exists_ofString fun p hp => ?_)
  have hlower := Hex.isLower_of_mem_encode hp
  unfold Hex.IsLower at hlower
  omega

theorem utf8_numeral (n : ℤ) : (utf8 (PyStr.numeral n)).isSome = true := by
  refine utf8_isSome.mpr (exists_ofString fun p hp => ?_)
  rcases List.mem_append.mp hp with hp | hp
  · split_ifs at hp
    · rw [List.mem_singleton.mp hp]
      decide
    · cases hp
  · obtain ⟨c, hc, rfl⟩ := List.mem_map.mp hp
    have hdigit := PyStr.bounds_of_isDigit (PyStr.isDigit_of_mem hc)
    rw [CodePoint.ofChar_val]
    omega

/-! ## Rows -/

section Rows

theorem get_put (row : Members) (name : String) (v : Value) (name' : String) :
    get (put row name v) name' = if name = name' then some v else get row name' := by
  show Dict.find (PyStr.ofString name') (Dict.upsert (PyStr.ofString name) v row) = _
  rw [Dict.find_upsert]
  simp only [PyStr.ofString_injective.eq_iff]
  rfl

variable {row : Members}

theorem get_put_of_ne {name name' : String} {v : Value} (h : name ≠ name') :
    get (put row name v) name' = get row name' := by rw [get_put, if_neg h]

/-- Rewriting the scores only touches the places of the scores. -/
theorem get_rescored (row : Members) (score : Value) {name : String}
    (hvalue : name ≠ "challenge_value") (hparts : name ≠ "score_parts") :
    get (rescored row score) name = get (put row "weighted_score" score) name := by
  have hvalued : ∀ m : Members, get (if (get m "challenge_value").isSome
      then put m "challenge_value" score else m) name = get m name := by
    intro m
    split
    · rw [get_put_of_ne hvalue.symm]
    · rfl
  unfold rescored
  simp only
  split
  · rw [get_put_of_ne hparts.symm, hvalued]
  · rw [hvalued]

end Rows

/-! ## Stores -/

section Stores

variable {H : Host} {T : Tables} {request : Request} {now : UtcTime}

/-- A row that the publisher has stored: its score is a number, and it was signed. -/
structure SignedRow (H : Host) (row : Members) : Prop where
  score : ((get row "weighted_score").getD (.num (.float (.finite 0)))) |>
    PyJson.toFloat? H.numbers |>.isSome
  payload : (signedPayload H row).isSome

/-- What the publisher writes: times with an offset, texts that the database can hold, and
signed rows. -/
structure Tables.Written (H : Host) (T : Tables) : Prop where
  key : H.privateKey.isSome
  aware : ∀ nonce nrow, T.nonces.get? nonce = some nrow →
    ∀ expiresAt, parseIso nrow.expiresAtIso = some expiresAt → expiresAt.offset.isSome
  challenge : ∀ nonce nrow, T.nonces.get? nonce = some nrow → (utf8 nrow.challengeId).isSome
  runs : ∀ id run, T.evalRuns.get? id = some run → ∃ row,
    (utf8 run.rowJson).bind (PyJson.loads H.numbers H.depth) = some (.obj row) ∧ SignedRow H row

/-- A field that is a text without surrogates. -/
def IsText (payload : Members) (name : String) : Prop :=
  ∃ s, field payload name = .str s ∧ (utf8 s).isSome = true

/-- The fields that are hashed with the quote. -/
def Hashable (payload : Members) : Prop :=
  ∀ name ∈ ["nonce", "miner_pubkey_b64", "solver_digest", "receipt"], IsText payload name

/-- What a call raises on. -/
def Hostile (H : Host) (T : Tables) (request : Request) (now : UtcTime) : Prop :=
  (request.intel.isSome ∧ ¬ Hashable request.payload ∧
    ∃ quote, quoteOf request.payload = .ok quote ∧ 632 ≤ quote.length) ∨
  (∃ quote c nrow document, checkQuote H request = .ok (quote, c) ∧
    checkNonce request c (T.nonces.get? c.nonce) now = .ok nrow ∧
      (utf8 c.receipt).bind (PyJson.loads H.numbers H.depth) = some document ∧
        membersOf document = none) ∨
  ∃ checked, readNonce H T request now = .ok checked ∧
    bindText H checked.claimed.evalRunId = none

theorem textField_cases (payload : Members) (name : String) :
    (∃ s, field payload name = .str s ∧ textField payload name = .ok s) ∨
      ((∀ s, field payload name ≠ .str s) ∧ textField payload name = .error .raised) := by
  unfold textField
  cases h : field payload name with
  | str s => exact .inl ⟨s, rfl, rfl⟩
  | _ => exact .inr ⟨nofun, rfl⟩

theorem hashable_of_claimed {c : Claimed} {payload : Members} (hc : claimed payload = .ok c) :
    (recomputeReportData H c).isSome = true ↔ Hashable payload := by
  unfold claimed at hc
  obtain ⟨nonce, hnonce, hc⟩ := bind_eq_ok.mp hc
  obtain ⟨pubkey, hpubkey, hc⟩ := bind_eq_ok.mp hc
  obtain ⟨digest, hdigest, hc⟩ := bind_eq_ok.mp hc
  obtain ⟨receipt, hreceipt, hc⟩ := bind_eq_ok.mp hc
  cases hc
  have htext : ∀ {name s}, textField payload name = .ok s →
      (IsText payload name ↔ (utf8 s).isSome = true) := by
    intro name s hs
    rcases textField_cases payload name with ⟨s', hfield, hs'⟩ | ⟨-, hs'⟩
    · cases hs.symm.trans hs'
      constructor
      · rintro ⟨s'', hfield', h⟩
        cases hfield.symm.trans hfield'
        exact h
      · exact fun h => ⟨_, hfield, h⟩
    · cases hs.symm.trans hs'
  have hall : Hashable payload ↔ (utf8 nonce).isSome = true ∧ (utf8 pubkey).isSome = true ∧
      (utf8 digest).isSome = true ∧ (utf8 receipt).isSome = true := by
    simp only [Hashable, List.forall_mem_cons, List.not_mem_nil, false_implies, implies_true,
      and_true, htext hnonce, htext hpubkey, htext hdigest, htext hreceipt]
  rw [hall, ← and_assoc, ← utf8_append]
  unfold recomputeReportData
  dsimp only
  cases hlo : utf8 (nonce ++ pubkey) with
  | none => simp
  | some lo =>
    cases hbytes : utf8 receipt with
    | none => simp
    | some bytes =>
      have hhi : (utf8 (digest ++ H.crypto.sha256Hex bytes)).isSome = (utf8 digest).isSome := by
        rw [Bool.eq_iff_iff, utf8_append]
        exact and_iff_left (utf8_sha256Hex _ _)
      cases hd : utf8 (digest ++ H.crypto.sha256Hex bytes) with
      | none =>
        rw [hd] at hhi
        simp [hd, ← hhi]
      | some hi =>
        rw [hd] at hhi
        simp [hd, ← hhi]

theorem claimed_raised {payload : Members} (h : ∀ c, claimed payload ≠ .ok c) :
    ¬ Hashable payload := by
  intro hall
  obtain ⟨nonce, hnonce, -⟩ := hall "nonce" (by simp)
  obtain ⟨pubkey, hpubkey, -⟩ := hall "miner_pubkey_b64" (by simp)
  obtain ⟨digest, hdigest, -⟩ := hall "solver_digest" (by simp)
  obtain ⟨receipt, hreceipt, -⟩ := hall "receipt" (by simp)
  refine h ⟨nonce, pubkey, digest, receipt, field payload "challenge_id",
    field payload "instance_sha256", field payload "outcome", field payload "answer_hash",
    field payload "eval_run_id"⟩ ?_
  unfold claimed textField
  rw [hnonce, hpubkey, hdigest, hreceipt]
  rfl

theorem claimed_error {payload : Members} {stop : Stop} (h : claimed payload = .error stop) :
    stop = .raised := by
  have hfield : ∀ {name}, textField payload name = .error stop → stop = .raised := by
    intro name hs
    rcases textField_cases payload name with ⟨s, -, hs'⟩ | ⟨-, hs'⟩
    · cases hs.symm.trans hs'
    · cases hs.symm.trans hs'
      rfl
  unfold claimed at h
  rcases bind_eq_error.mp h with h | ⟨_, -, h⟩
  · exact hfield h
  rcases bind_eq_error.mp h with h | ⟨_, -, h⟩
  · exact hfield h
  rcases bind_eq_error.mp h with h | ⟨_, -, h⟩
  · exact hfield h
  rcases bind_eq_error.mp h with h | ⟨_, -, h⟩
  · exact hfield h
  · cases h

theorem quoteOf_raised {payload : Members} : quoteOf payload ≠ .error .raised := by
  unfold quoteOf
  cases field payload "quote_b64" <;> simp

/-- Up to the verifier, a call raises on what it cannot hash. -/
theorem checkQuote_raised : checkQuote H request = .error .raised ↔
    request.intel.isSome ∧ ¬ Hashable request.payload ∧
      ∃ quote, quoteOf request.payload = .ok quote ∧ 632 ≤ quote.length := by
  unfold checkQuote
  cases hintel : request.intel with
  | none => simp [orRefuse, bind, Except.bind]
  | some intel =>
    cases hquote : quoteOf request.payload with
    | error stop =>
      have hstop : stop ≠ .raised := fun h => quoteOf_raised (hquote.trans (congrArg _ h))
      simp [orRefuse, bind, Except.bind, hstop]
    | ok quote =>
      by_cases hlength : 632 ≤ quote.length
      · cases hclaimed : claimed request.payload with
        | error stop =>
          have hnot : ¬ Hashable request.payload := by
            refine claimed_raised fun c hc => ?_
            cases hclaimed.symm.trans hc
          have hstop : stop = .raised := claimed_error hclaimed
          simp [orRefuse, require, bind, Except.bind, hlength, hnot, hstop]
        | ok c =>
          have hhash := @hashable_of_claimed H c request.payload hclaimed
          cases hdata : recomputeReportData H c with
          | none =>
            rw [hdata] at hhash
            have hnot : ¬ Hashable request.payload := fun h => nomatch hhash.mpr h
            simp [orRefuse, orRaise, require, bind, Except.bind, hlength, hnot, hdata]
          | some expect =>
            rw [hdata] at hhash
            have hall : Hashable request.payload := hhash.mp rfl
            simp only [hall, not_true_eq_false, false_and, and_false, iff_false]
            simp [orRefuse, orRaise, bind_eq_error, hdata]
      · simp [orRefuse, require, bind, Except.bind, hlength]

/-- The check of a stored nonce does not raise, and finds the challenge of its row. -/
theorem checkNonce_raised (hT : T.Written H) {c : Claimed} :
    checkNonce request c (T.nonces.get? c.nonce) now ≠ .error .raised := by
  intro h
  unfold checkNonce at h
  cases hrow : T.nonces.get? c.nonce with
  | none =>
    rw [hrow] at h
    cases h
  | some nrow =>
    rw [hrow] at h
    simp only [bind_eq_error, orRefuse_raised, require_raised, orRaise_raised, orRefuse_eq_ok,
      false_or, Option.some.injEq, reduceCtorEq, or_false, and_false, exists_false] at h
    obtain ⟨row, rfl, _, -, _, -, expiresAt, hexpires, hpast⟩ := h
    have haware := hT.aware _ _ hrow _ hexpires
    rw [isPast, Option.map_eq_none_iff] at hpast
    rw [hpast] at haware
    cases haware

theorem checkNonce_challenge {c : Claimed} {row : Option NonceRow} {nrow : NonceRow}
    (h : checkNonce request c row now = .ok nrow) :
    row = some nrow ∧ c.challengeId = .str nrow.challengeId := by
  unfold checkNonce at h
  simp only [bind_eq_ok, orRefuse_eq_ok, require_eq_ok, orRaise_eq_ok] at h
  obtain ⟨row', rfl, _, -, _, -, _, -, _, -, _, -, _, hchallenge, _, -, h⟩ := h
  cases h
  exact ⟨rfl, PyJson.pyEq_str.mp hchallenge⟩

theorem checkReceipt_raised {c : Claimed} : checkReceipt H c = .error .raised ↔
    ∃ document, (utf8 c.receipt).bind (PyJson.loads H.numbers H.depth) = some document ∧
      membersOf document = none := by
  unfold checkReceipt
  simp only [bind_eq_error, orRefuse_raised, require_raised, orRaise_raised, orRefuse_eq_ok,
    false_or, and_false, exists_false, or_false]

theorem readNonce_raised (hT : T.Written H) : readNonce H T request now = .error .raised ↔
    checkQuote H request = .error .raised ∨
      ∃ quote c nrow document, checkQuote H request = .ok (quote, c) ∧
        checkNonce request c (T.nonces.get? c.nonce) now = .ok nrow ∧
          (utf8 c.receipt).bind (PyJson.loads H.numbers H.depth) = some document ∧
            membersOf document = none := by
  unfold readNonce
  simp only [bind_eq_error, checkReceipt_raised, checkNonce_raised hT, false_or, reduceCtorEq,
    and_false, exists_false, or_false, Prod.exists]
  refine or_congr_right ⟨?_, ?_⟩
  · rintro ⟨quote, c, hquote, nrow, hnonce, document, hdocument, hnone⟩
    exact ⟨quote, c, nrow, document, hquote, hnonce, hdocument, hnone⟩
  · rintro ⟨quote, c, nrow, document, hquote, hnonce, hdocument, hnone⟩
    exact ⟨quote, c, hquote, nrow, hnonce, document, hdocument, hnone⟩

theorem readNonce_challenge {v : Checked} (h : readNonce H T request now = .ok v) :
    ∃ nonce nrow, T.nonces.get? nonce = some nrow ∧
      v.claimed.challengeId = .str nrow.challengeId := by
  unfold readNonce at h
  obtain ⟨⟨quote, c⟩, -, h⟩ := bind_eq_ok.mp h
  obtain ⟨nrow, hnonce, h⟩ := bind_eq_ok.mp h
  obtain ⟨_, -, h⟩ := bind_eq_ok.mp h
  cases h
  obtain ⟨hrow, hchallenge⟩ := checkNonce_challenge hnonce
  exact ⟨_, nrow, hrow, hchallenge⟩

/-- The row of a run is only compared with what is known to be a text. -/
theorem checkRun_raised (hT : T.Written H) {v : Checked} {id : PyStr} {run : EvalRun}
    (hrun : T.evalRuns.get? id = some run) {nonce : PyStr} {nrow : NonceRow}
    (hnonce : T.nonces.get? nonce = some nrow)
    (hchallenge : v.claimed.challengeId = .str nrow.challengeId) :
    checkRun H v run ≠ .error .raised := by
  obtain ⟨row, hrow, -⟩ := hT.runs _ _ hrun
  have htask : ∀ tier, taskPublic H v.claimed.challengeId tier ≠ none := by
    intro tier hnone
    rw [taskPublic, Option.map_eq_none_iff, hchallenge, Host.str, PyJson.str_str] at hnone
    have hcolon : (utf8 (PyStr.ofString ":")).isSome = true := utf8_isSome.mpr ⟨_, rfl⟩
    have htier : (utf8 (PyStr.numeral tier)).isSome = true := utf8_numeral tier
    have hsome := utf8_append.mpr ⟨utf8_append.mpr ⟨hT.challenge _ _ hnonce, hcolon⟩, htier⟩
    rw [hnone] at hsome
    cases hsome
  unfold checkRun
  simp only [bind_eq_error, orRefuse_raised, require_raised, orRaise_raised, orRaise_eq_ok,
    hrow, membersOf, htask, ne_eq]
  simp

/-- A row that was signed can be signed with another score. -/
theorem signRow_rescored (hT : T.Written H) {row : Members} (hrow : SignedRow H row)
    (score : Value) : ∃ signature, signRow H (rescored row score) = some signature := by
  obtain ⟨key, hkey⟩ := Option.isSome_iff_exists.mp hT.key
  obtain ⟨payload, hpayload⟩ := Option.isSome_iff_exists.mp hrow.payload
  unfold signedPayload at hpayload
  obtain ⟨version, hversion, hpayload⟩ := Option.bind_eq_some_iff.mp hpayload
  obtain ⟨keys, hkeys, -⟩ := Option.bind_eq_some_iff.mp hpayload
  have hsame : get (rescored row score) "eval_output_schema_version" =
      get row "eval_output_schema_version" := by
    rw [get_rescored _ _ (by decide) (by decide), get_put_of_ne (by decide)]
  unfold signRow signedPayload
  rw [hkey, hsame, hversion]
  simp [hkeys]

theorem upgradedRow_ne_none (hT : T.Written H) {row : Members} (hrow : SignedRow H row) :
    upgradedRow H request row ≠ none := by
  obtain ⟨base, hbase⟩ := Option.isSome_iff_exists.mp hrow.score
  unfold upgradedRow newScore
  rw [hbase]
  obtain ⟨signature, hsignature⟩ := signRow_rescored hT hrow
    (.num (.float (roundSix H.numbers (capped (PyFloat.mul H.numbers.nearest base
      request.multiplier)))))
  simp [hsignature]

theorem readRun_raised (hT : T.Written H) {v : Checked} (hv : readNonce H T request now = .ok v) :
    readRun H T v = .error .raised ↔ bindText H v.claimed.evalRunId = none := by
  obtain ⟨nonce, nrow, hnonce, hchallenge⟩ := readNonce_challenge hv
  unfold readRun
  simp only [bind_eq_error, orRaise_raised, orRefuse_raised, orRefuse_eq_ok, false_or,
    reduceCtorEq, and_false, exists_false, or_false]
  refine or_iff_left ?_
  rintro ⟨_, -, id, -, run, hrun, hraised⟩
  exact checkRun_raised hT hrun hnonce hchallenge hraised

theorem readOwner_raised (hT : T.Written H) {v : Checked} {m : Matched}
    (hm : readRun H T v = .ok m) : readOwner H T m ≠ .error .raised := by
  unfold readRun at hm
  simp only [bind_eq_ok, orRaise_eq_ok, orRefuse_eq_ok] at hm
  obtain ⟨_, -, id, -, run, hrun, row, hcheck, hm⟩ := hm
  cases hm
  obtain ⟨stored, hstored, hsigned⟩ := hT.runs _ _ hrun
  have hrow : row = stored := by
    unfold checkRun at hcheck
    simp only [bind_eq_ok, orRaise_eq_ok, hstored, Option.some.injEq] at hcheck
    obtain ⟨_, -, document, rfl, members, hmembers, hcheck⟩ := hcheck
    cases hmembers
    obtain ⟨_, -, _, -, _, -, _, -, _, -, hcheck⟩ := hcheck
    exact (Except.ok.inj hcheck).symm
  unfold readOwner
  simp only [bind_eq_error, require_raised, orRaise_raised, false_or, ne_eq]
  rintro ⟨_, -, hnone⟩
  exact upgradedRow_ne_none hT (hrow ▸ hsigned) hnone

/-- Over what the publisher has stored, a call raises exactly on hostile input. -/
theorem verify_raises_iff (hT : T.Written H) (attId : PyStr) :
    verifyAttestation H T request attId now = none ↔ Hostile H T request now := by
  have hverify : verifyAttestation H T request attId now = none ↔
      verify H T request attId now = .error .raised := by
    unfold verifyAttestation
    cases verify H T request attId now with
    | ok r => simp
    | error stop => cases stop <;> simp
  rw [hverify, Hostile, ← or_assoc, ← checkQuote_raised, ← readNonce_raised hT]
  unfold verify
  simp only [bind_eq_error, orRefuse_raised, reduceCtorEq, and_false, exists_false, or_false]
  refine or_congr_right ⟨?_, ?_⟩
  · rintro ⟨v, hv, hrun | ⟨m, hm, howner⟩⟩
    · exact ⟨v, hv, (readRun_raised hT hv).mp hrun⟩
    · exact absurd howner (readOwner_raised hT hm)
  · rintro ⟨v, hv, hbind⟩
    exact ⟨v, hv, .inl ((readRun_raised hT hv).mpr hbind)⟩

end Stores

/-! ## A number for a nonce -/

section Sample

/-- Groups of one letter stand for zeros. -/
theorem decodeLenient_letters (n : ℕ) :
    Base64.decodeLenient (List.replicate (4 * n) 'A') = some (List.replicate (3 * n) 0) := by
  have hletter : Base64.value? 'A' = some 0 := by decide
  unfold Base64.decodeLenient
  induction n with
  | zero => rfl
  | succ n ih =>
    rw [Nat.mul_succ, Nat.mul_succ]
    simp only [List.replicate_succ, Base64.decodeFrom, hletter, ih]
    rfl

def sampleCrypto : Crypto where
  sha256 _ := List.replicate 32 0
  length_sha256 _ := rfl
  ed25519 _ _ _ := true
  floatRepr _ := []

def sampleHost : Host where
  crypto := sampleCrypto
  privateKey := some ⟨[], fun _ => [], fun _ => rfl⟩
  numbers := PyStr.exactNumbers
  depth := 900
  printable _ := true
  sqliteReal _ := []
  padsYear := true

def emptyTables : Tables := ⟨Dict.empty, Dict.empty, Dict.empty, Dict.empty⟩

/-- A quote of zeros, under a nonce that is a number. -/
def sampleRequest : Request where
  payload := [(PyStr.ofString "quote_b64", .str (List.replicate (4 * 211) (CodePoint.ofChar 'A'))),
    (PyStr.ofString "nonce", integer 7)]
  intel := some ⟨fun _ _ => true, PyStr.ofString "stub"⟩
  multiplier := .finite 1
  authenticatedHotkey := none

def sampleNow : UtcTime := ⟨2026, 8, 2, 9, 30, 0, 0, by decide⟩

theorem written_empty : emptyTables.Written sampleHost where
  key := rfl
  aware _ _ h := nomatch h
  challenge _ _ h := nomatch h
  runs _ _ h := nomatch h

theorem quoteOf_sample : quoteOf sampleRequest.payload = .ok (List.replicate (3 * 211) 0) := by
  have hfield : field sampleRequest.payload "quote_b64" =
      .str (List.replicate (4 * 211) (CodePoint.ofChar 'A')) := rfl
  have hascii : asciiText? (List.replicate (4 * 211) (CodePoint.ofChar 'A')) =
      some (List.replicate (4 * 211) 'A') := by
    rw [asciiText?, if_pos (by rw [List.all_replicate]; rfl), List.map_replicate]
    rfl
  rw [quoteOf, hfield]
  dsimp only
  rw [hascii, Option.bind_some, decodeLenient_letters]
  rfl

theorem not_hashable_sample : ¬ Hashable sampleRequest.payload := by
  intro h
  obtain ⟨s, hs, -⟩ := h "nonce" (by simp)
  cases hs

theorem verify_raises_iff_sample :
    verifyAttestation sampleHost emptyTables sampleRequest [] sampleNow = none ↔
      Hostile sampleHost emptyTables sampleRequest sampleNow :=
  verify_raises_iff written_empty []

/-- The call raises on a number for a nonce. -/
theorem verify_number_raises : emptyTables.Written sampleHost ∧
    verifyAttestation sampleHost emptyTables sampleRequest [] sampleNow = none := by
  refine ⟨written_empty, ?_⟩
  have hraised : checkQuote sampleHost sampleRequest = .error .raised :=
    checkQuote_raised.mpr ⟨rfl, not_hashable_sample, _, quoteOf_sample,
      by rw [List.length_replicate]; omega⟩
  rw [verifyAttestation, verify, readNonce, hraised]
  rfl

end Sample

end Cathedral.Publisher.Attest
