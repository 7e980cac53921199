import Cathedral.Lib.Selection
import Cathedral.Publisher.Bitset

/-!
# Cathedral.Publisher.Manifests — the queue of solution manifests

A miner publishes a solution elsewhere and submits a signed manifest of it. The
manifest is admitted as a `received` row; workers claim rows under leases, fetch
and verify the solution, and write the verdict in a second transaction. A fetch
that fails for now sends the row to `retry`; every claim counts as an attempt, and
rows that have used up their attempts are swept to `rejected`.

The baked formulas that verification stores for later are not modelled: nothing
here reads them back.
-/

namespace Cathedral.Publisher.Manifests

/-! ## Rows -/

/-- `solution_manifests.status`. -/
inductive ManifestStatus where
  | received
  | retry
  | verifying
  | verified
  | rejected
deriving DecidableEq, Repr

/-- `receipt_payload`: the statuses that are final. -/
def ManifestStatus.terminal : ManifestStatus → Bool
  | .verified | .rejected => true
  | _ => false

/-- The object a miner signs. -/
structure ManifestBody where
  schema : String
  cardId : String
  minerHotkey : String
  submittedAt : String
  challengeId : String
  assignmentEncoding : String
  solutionCid : String
  solutionSha256 : String
  solutionBytes : ℕ
  cnfSha256 : String
deriving DecidableEq, Repr

/-- A row of `solution_manifests`; its key is the receipt id. -/
structure Manifest where
  idempotencyKey : String
  minerHotkey : String
  challengeId : String
  cardId : String
  assignmentEncoding : String
  solutionCid : String
  solutionSha256 : String
  solutionBytes : ℕ
  cnfSha256 : String
  status : ManifestStatus
  rejectionReason : Option String
  submittedAt : String
  receivedAt : Millis
  verifiedAt : Option Millis
  attemptCount : ℕ
  nextAttemptAt : Option Millis
  lockedBy : Option String
  lockedUntil : Option Millis
  epoch : Option ℤ
  tier : Option ℤ
  seq : Option ℤ
  assignmentIdentity : Option String
  weightedScore : Option ℚ
  answerHash : Option String
  verifierDetailsHash : Option String
  lastError : Option String
  signature : String
  manifestJson : String
  solutionInline : Option (List ℕ)
deriving DecidableEq, Repr

/-! ## Admission -/

def receivedRow (idempotencyKey : String) (receivedAt : Millis) (body : ManifestBody)
    (signature manifestJson : String) (inlineSolution : Option (List ℕ)) : Manifest where
  idempotencyKey := idempotencyKey
  minerHotkey := body.minerHotkey
  challengeId := body.challengeId
  cardId := body.cardId
  assignmentEncoding := body.assignmentEncoding
  solutionCid := body.solutionCid
  solutionSha256 := body.solutionSha256
  solutionBytes := body.solutionBytes
  cnfSha256 := body.cnfSha256
  status := .received
  rejectionReason := none
  submittedAt := body.submittedAt
  receivedAt := receivedAt
  verifiedAt := none
  attemptCount := 0
  nextAttemptAt := none
  lockedBy := none
  lockedUntil := none
  epoch := none
  tier := none
  seq := none
  assignmentIdentity := none
  weightedScore := none
  answerHash := none
  verifierDetailsHash := none
  lastError := none
  signature := signature
  manifestJson := manifestJson
  solutionInline := inlineSolution

/-- `admit_manifest`: `INSERT OR IGNORE` under the two unique keys, the receipt id and
the idempotency key; then the row of the idempotency key, and whether it is the new one. -/
def admitManifest (rid : String) (row : Manifest) (rows : Dict String Manifest) :
    Dict String Manifest × Option (String × Manifest) × Bool :=
  let taken := rows.items.any fun r => r.2.idempotencyKey = row.idempotencyKey
  let rows' := if taken then rows else (rows.insertIgnore rid row).1
  let found := rows'.items.find? fun r => r.2.idempotencyKey = row.idempotencyKey
  (rows', found, found.any fun r => r.1 = rid)

/-! ## Claims -/

/-- The rows `claim_batch` selects from at `now`; no cap when `maxAttempts` is zero. -/
def Manifest.claimable (maxAttempts : ℕ) (now : Millis) (e : Manifest) : Bool :=
  (e.status = .received || e.status = .retry || e.status = .verifying) &&
    e.nextAttemptAt.all (· ≤ now) && e.lockedUntil.all (· ≤ now) &&
    (maxAttempts = 0 || e.attemptCount < maxAttempts)

def claimedRow (workerId : String) (lockUntil : Millis) (e : Manifest) : Manifest :=
  { e with
    status := .verifying
    lockedBy := some workerId
    lockedUntil := some lockUntil
    attemptCount := e.attemptCount + 1
    lastError := none }

/-- `ORDER BY received_at_iso ASC LIMIT ?`; on Postgres rows that a concurrent
transaction has locked are skipped. -/
def claimSelection (maxAttempts : ℕ) (skipLocked : List String) (rows : Dict String Manifest)
    (now : Millis) (batchSize : ℕ) : List (String × Manifest) :=
  rows.oldest (fun rid e => rid ∉ skipLocked && e.claimable maxAttempts now)
    Manifest.receivedAt batchSize

/-- `claim_batch`: claim the selected rows and return them, on Postgres as they are
after the update. -/
def claimBatch (postgres : Bool) (maxAttempts : ℕ) (skipLocked : List String)
    (rows : Dict String Manifest) (workerId : String) (now lockUntil : Millis) (batchSize : ℕ) :
    Dict String Manifest × List (String × Manifest) :=
  let selection := claimSelection maxAttempts skipLocked rows now batchSize
  (rows.modifyAll (selection.map Prod.fst) (claimedRow workerId lockUntil),
    if postgres then selection.map fun row => (row.1, claimedRow workerId lockUntil row.2)
    else selection)

/-! ## Verification -/

/-- How `blob_store.fetch` ends. -/
inductive FetchResult where
  | bytes (data : List ℕ)
  /-- A `ValueError` with its message. -/
  | valueError (message : String)
  /-- Another exception, by its class. -/
  | raised (className : String)
deriving DecidableEq, Repr

/-- The functions verification calls; an outer `none` is a raised exception. -/
structure VerifyEnv where
  now : Millis
  /-- Whether `json.loads` accepts the manifest text. -/
  manifestParses : String → Bool
  lower : String → String
  maxBlobBytes : ℤ
  fetch : String → FetchResult
  sha256 : List ℕ → String
  /-- `parse_challenge_id`, its epoch. -/
  parseChallengeId : String → Option ℤ
  scoringIdentity : String → Option String
  resolveTierSeqFor : (identity : String) → (epoch : ℤ) → (challengeId : String) →
    Option (Option (ℤ × ℤ))
  /-- `v2_cnf_store.get`, where an error is a miss. -/
  storedCnf : (challengeId : String) → (expectedSha256 : Option String) → Option String
  getMinerCnf : (identity : String) → (epoch tier seq : ℤ) → Option (Option (String × String))
  decodeUtf8 : List ℕ → Option String
  verifyDimacsSolution : (cnfText text : String) → Option (Except (Option String) (List ℤ))
  parseCnf : String → Option (ℤ × List (List ℤ))
  verifyMinerSubmissionFor : (identity : String) → (epoch tier seq : ℤ) → (challengeId : String) →
    List ℤ → Option (Except (Option String) Unit)
  weightFor : ℤ → ℚ
  sha256Hex : String → String

/-- What `_finish_verified` writes. -/
structure VerifiedResult where
  epoch : ℤ
  tier : ℤ
  seq : ℤ
  assignmentIdentity : String
  weightedScore : ℚ
  answerHash : String
  verifierDetailsHash : String
deriving DecidableEq, Repr

/-- A verdict; `retry` is `_finish_rejected` with `terminal=False`. -/
inductive Verdict where
  | verified (result : VerifiedResult)
  | rejected (reason : String)
  | retry (reason : String)
deriving DecidableEq, Repr

/-- `reason or default`. -/
def orDefault (reason : Option String) (default : String) : String :=
  match reason with
  | some r => if r = "" then default else r
  | none => default

/-- The inline copy of the solution, unless it is missing, empty or too large. -/
def inlineBlob (env : VerifyEnv) (row : Manifest) : Option (List ℕ) :=
  match row.solutionInline with
  | none => none
  | some raw =>
    if raw = [] then none
    else if env.maxBlobBytes ≠ 0 ∧ env.maxBlobBytes < (raw.length : ℤ) then none
    else some raw

/-- The solution bytes, or the verdict on a failed fetch. -/
def fetchBlob (env : VerifyEnv) (row : Manifest) : Except Verdict (List ℕ) :=
  match inlineBlob env row with
  | some blob => .ok blob
  | none =>
    match env.fetch row.solutionCid with
    | .bytes data => .ok data
    | .valueError message =>
      let reason := orDefault (some message) "blob_fetch_failed"
      if reason ∈ ["blob_too_large", "unsupported_cid_scheme",
          "cid_fetch_backend_not_configured"] then .error (.rejected reason)
      else .error (.retry reason)
    | .raised className =>
      let reason := "blob_fetch_failed:" ++ className
      -- a local blob without an inline copy can never be fetched
      let noInline := row.solutionInline.all (· = [])
      if noInline && row.solutionCid.startsWith "local://" then .error (.rejected reason)
      else .error (.retry reason)

/-- The challenge a manifest answers. -/
structure Resolved where
  identity : String
  epoch : ℤ
  tier : ℤ
  seq : ℤ
  cnfText : String

/-- The challenge of a row and its formula, from the store or generated again. -/
def resolveChallenge (env : VerifyEnv) (row : Manifest) : Option (Except Verdict Resolved) := do
  match env.parseChallengeId row.challengeId with
  | none => some (.error (.rejected "unsupported_challenge_kind"))
  | some epoch =>
    let identity ← env.scoringIdentity row.minerHotkey
    match ← env.resolveTierSeqFor identity epoch row.challengeId with
    | none => some (.error (.rejected "assignment_required_fetch_challenges_first"))
    | some (tier, seq) =>
      let eventCnfSha := if row.cnfSha256 = "" then none else some row.cnfSha256
      match env.storedCnf row.challengeId eventCnfSha with
      | some cnfText => some (.ok ⟨identity, epoch, tier, seq, cnfText⟩)
      | none =>
        match ← env.getMinerCnf identity epoch tier seq with
        | none => some (.error (.rejected "challenge_id_not_in_miner_set"))
        | some (_, cnfText) => some (.ok ⟨identity, epoch, tier, seq, cnfText⟩)

/-- `decode_bitset_assignment`, which refuses a wrong length. -/
def decodeBitset (blob : List ℕ) (nVars : ℤ) : Except String (List ℤ) :=
  if (blob.length : ℤ) ≠ (nVars + 7) / 8 then .error "bitset_size_mismatch"
  else .ok (Bitset.decodeBitsetAssignment blob nVars)

/-- The witness check for the encoding of the row. -/
def checkAssignment (env : VerifyEnv) (row : Manifest) (cnfText : String) (blob : List ℕ) :
    Option (Except Verdict (List ℤ)) :=
  if row.assignmentEncoding = "dimacs/v1" then
    match env.decodeUtf8 blob with
    | none => some (.error (.rejected "solution_non_utf8"))
    | some text => do
      match ← env.verifyDimacsSolution cnfText text with
      | .error reason => some (.error (.rejected (orDefault reason "witness_check_failed")))
      | .ok assignment => some (.ok assignment)
  else if row.assignmentEncoding = "bitset/v1" then do
    let cnf ← env.parseCnf cnfText
    match decodeBitset blob cnf.1 with
    | .error reason => some (.error (.rejected (orDefault (some reason) "invalid_bitset")))
    | .ok assignment =>
      match Bitset.verifyAssignmentLiterals cnf assignment with
      | some reason =>
        some (.error (.rejected (orDefault (some reason) "witness_check_failed")))
      | none => some (.ok assignment)
  else some (.error (.rejected "unsupported_assignment_encoding"))

/-- The receipt of a verified row. -/
def verifiedResult (env : VerifyEnv) (row : Manifest) (c : Resolved) (assignment : List ℤ) :
    VerifiedResult where
  epoch := c.epoch
  tier := c.tier
  seq := c.seq
  assignmentIdentity := row.minerHotkey
  weightedScore := env.weightFor c.tier
  answerHash := env.sha256Hex (",".intercalate (assignment.map toString))
  verifierDetailsHash := env.sha256Hex (row.challengeId ++ ":" ++ env.lower row.solutionSha256)

/-- The checks of `verify_one` once the solution bytes are there. -/
def judgeBlob (env : VerifyEnv) (row : Manifest) (blob : List ℕ) : Option Verdict :=
  if env.sha256 blob ≠ env.lower row.solutionSha256 then
    some (.rejected "solution_sha256_mismatch")
  else do
    match ← resolveChallenge env row with
    | .error verdict => some verdict
    | .ok c =>
      match ← checkAssignment env row c.cnfText blob with
      | .error verdict => some verdict
      | .ok assignment =>
        match ← env.verifyMinerSubmissionFor c.identity c.epoch c.tier c.seq row.challengeId
            assignment with
        | .error reason => some (.rejected (orDefault reason "witness_check_failed"))
        | .ok () => some (.verified (verifiedResult env row c assignment))

/-- `verify_one` up to its write; `none` when it raises. -/
def verifyOne (env : VerifyEnv) (row : Manifest) : Option Verdict :=
  if env.manifestParses row.manifestJson = false then some (.rejected "invalid_manifest_json")
  else
    match fetchBlob env row with
    | .error verdict => some verdict
    | .ok blob => judgeBlob env row blob

/-! ## The writes of a verdict -/

/-- A retry waits 15 seconds. -/
def retryDelay : Millis := 15000

/-- The row `_finish_verified` or `_finish_rejected` leaves. -/
def finishedRow (now : Millis) : Verdict → Manifest → Manifest
  | .verified result, e =>
    { e with
      status := .verified
      rejectionReason := none
      verifiedAt := some now
      lockedBy := none
      lockedUntil := none
      nextAttemptAt := none
      epoch := some result.epoch
      tier := some result.tier
      seq := some result.seq
      assignmentIdentity := some result.assignmentIdentity
      weightedScore := some result.weightedScore
      answerHash := some result.answerHash
      verifierDetailsHash := some result.verifierDetailsHash
      lastError := none }
  | .rejected reason, e =>
    { e with
      status := .rejected
      rejectionReason := some reason
      verifiedAt := some now
      lockedBy := none
      lockedUntil := none
      nextAttemptAt := none
      lastError := some reason }
  | .retry reason, e =>
    { e with
      status := .retry
      rejectionReason := some reason
      verifiedAt := none
      lockedBy := none
      lockedUntil := none
      nextAttemptAt := some (now + retryDelay)
      lastError := some reason }

/-! ## The sweep -/

/-- The rows `sweep_exhausted` selects from at `now`. -/
def Manifest.exhausted (maxAttempts : ℕ) (now : Millis) (e : Manifest) : Bool :=
  (e.status = .received || e.status = .retry) && maxAttempts ≤ e.attemptCount &&
    e.lockedUntil.all (· ≤ now)

def sweptRow (e : Manifest) : Manifest :=
  { e with
    status := .rejected
    rejectionReason := some "verify_attempts_exhausted"
    lockedBy := none
    lockedUntil := none
    nextAttemptAt := none
    lastError := some "verify_attempts_exhausted" }

/-- `sweep_exhausted` for the ids its query returned; it is off without a cap. -/
def sweepExhausted (maxAttempts : ℕ) (rows : Dict String Manifest) (picked : List String) :
    Dict String Manifest :=
  if maxAttempts = 0 then rows else rows.modifyAll picked sweptRow

/-- What the query of the sweep may return: it has a limit and no order. -/
def SweepPicks (maxAttempts limit : ℕ) (rows : Dict String Manifest) (now : Millis)
    (picked : List String) : Prop :=
  rows.Selects (fun _ e => e.exhausted maxAttempts now) limit picked

/-! ## The system -/

structure QueueSettings where
  postgres : Bool
  maxAttempts : ℕ
  sweepLimit : ℕ

/-- The table, the claimed copies that workers hold, and the time. -/
structure World where
  rows : Dict String Manifest
  work : List (String × Manifest)
  now : Millis

inductive Action where
  | submit (rid : String) (row : Manifest)
  | claim (workerId : String) (now lockUntil : Millis) (batchSize : ℕ) (skipLocked : List String)
  | verify (env : VerifyEnv) (rid : String) (row : Manifest)
  | crash (rid : String) (row : Manifest)
  | sweep (now : Millis) (picked : List String)
  | tick (now : Millis)

/-- One transaction, the loss of a claimed copy, or time passing. A transaction
carries the time its process read, which may differ from the time it commits. -/
inductive Step (s : QueueSettings) : World → Action → World → Prop where
  | submit {w : World} {rid idempotencyKey : String} {receivedAt : Millis} {body : ManifestBody}
      {signature manifestJson : String} {inlineSolution : Option (List ℕ)} {row : Manifest} :
      row = receivedRow idempotencyKey receivedAt body signature manifestJson inlineSolution →
      Step s w (.submit rid row) { w with rows := (admitManifest rid row w.rows).1 }
  | claim {w : World} {workerId : String} {now lockUntil : Millis} {batchSize : ℕ}
      {skipLocked : List String} {rows : Dict String Manifest}
      {claimed : List (String × Manifest)} :
      (s.postgres = false → skipLocked = []) →
      claimBatch s.postgres s.maxAttempts skipLocked w.rows workerId now lockUntil batchSize =
        (rows, claimed) →
      Step s w (.claim workerId now lockUntil batchSize skipLocked)
        { w with rows := rows, work := claimed ++ w.work }
  | verify {w : World} {env : VerifyEnv} {rid : String} {row : Manifest} {verdict : Verdict} :
      (rid, row) ∈ w.work → verifyOne env row = some verdict →
      Step s w (.verify env rid row)
        { w with
          rows := w.rows.modify rid (finishedRow env.now verdict)
          work := w.work.erase (rid, row) }
  /-- A worker dies, or `verify_one` raises: nothing is written. -/
  | crash {w : World} {rid : String} {row : Manifest} :
      Step s w (.crash rid row) { w with work := w.work.erase (rid, row) }
  | sweep {w : World} {now : Millis} {picked : List String} :
      SweepPicks s.maxAttempts s.sweepLimit w.rows now picked →
      Step s w (.sweep now picked)
        { w with rows := sweepExhausted s.maxAttempts w.rows picked }
  | tick {w : World} {now : Millis} : w.now ≤ now → Step s w (.tick now) { w with now := now }

/-- A deployment before its first manifest. -/
structure Start (w : World) : Prop where
  rows : w.rows = Dict.empty
  work : w.work = []

end Cathedral.Publisher.Manifests
