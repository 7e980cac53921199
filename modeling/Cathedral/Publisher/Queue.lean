import Cathedral.Publisher.Tables

/-!
# Cathedral.Publisher.Queue — durable admission and worker claims

The operations of `submit_admission` on the attempts table: admission under an
idempotency key with its backpressure gate, the shadow twin's admission, a
worker's claim of the oldest claimable rows, and the terminal writes of the
finalisers. Each is one transaction.
-/

namespace Cathedral.Publisher

abbrev Attempts : Type := Dict String Attempt

/-! ## Keys -/

/-- What `idempotency_key` hashes. -/
def liveKeyText (minerHotkey challengeId solutionSha : String) : String :=
  minerHotkey ++ "\x00" ++ challengeId ++ "\x00" ++ solutionSha

/-- What `shadow_idempotency_key` hashes. -/
def shadowKeyText (minerHotkey challengeId solutionSha : String) : String :=
  "shadow\x00" ++ minerHotkey ++ "\x00" ++ challengeId ++ "\x00" ++ solutionSha

def idempotencyKey (sha256Hex : String → String)
    (minerHotkey challengeId solutionSha : String) : String :=
  sha256Hex (liveKeyText minerHotkey challengeId solutionSha)

def shadowIdempotencyKey (sha256Hex : String → String)
    (minerHotkey challengeId solutionSha : String) : String :=
  sha256Hex (shadowKeyText minerHotkey challengeId solutionSha)

def challengeKind (challengeId : String) : ChallengeKind :=
  if challengeId = "" then .kindUnknown
  else if "pm-".toList.isPrefixOf challengeId.toList then .kindPerMiner
  else .kindPublic

/-! ## Backpressure -/

/-- The configured limits, and the workers whose heartbeat is fresh. -/
structure QueueBackpressure where
  activeWorkers : ℕ
  maxPending : ℤ
  maxWorkerLagSecs : ℚ
deriving DecidableEq, Repr

/-- Why new work is shed. -/
inductive Pressure where
  | pendingLimit
  | workerLagLimit
deriving DecidableEq, Repr

def Pressure.reason : Pressure → String
  | .pendingLimit => "submit_queue_pending_limit"
  | .workerLagLimit => "submit_queue_worker_lag_limit"

/-- The rows the pending count is over. -/
def openLive (t : Attempts) : List Attempt :=
  t.values.filter fun a => !a.status.terminal && a.live

/-- `_age_secs` of the oldest open row; a row without a time of receipt has none. -/
def workerLag (t : Attempts) (now : Millis) : Option ℚ :=
  ((openLive t).filterMap (·.receivedAt)).min?.map fun oldest => (max 0 (now - oldest) : ℤ) / 1000

def queueBackpressureDecision (limits : QueueBackpressure) (now : Millis) (t : Attempts) :
    Option Pressure :=
  if limits.activeWorkers = 0 then none
  else if 0 < limits.maxPending ∧ limits.maxPending ≤ (openLive t).length then some .pendingLimit
  else if 0 < limits.maxWorkerLagSecs ∧
      (workerLag t now).any (limits.maxWorkerLagSecs ≤ ·) then some .workerLagLimit
  else none

/-! ## Admission -/

/-- `_fetch_by_idem` with shadow rows excluded. -/
def fetchByIdem (t : Attempts) (key : String) : Option (String × Attempt) :=
  t.items.find? fun row => row.2.idempotencyKey = some key ∧ row.2.live

def fetchById (t : Attempts) (receiptId : String) : Option (String × Attempt) :=
  (t.get? receiptId).map (receiptId, ·)

/-- `INSERT OR IGNORE INTO per_miner_attempts` under the primary key and the
unique index on the idempotency key. -/
def insertAttemptIgnore (t : Attempts) (receiptId key : String) (row : Attempt) : Attempts × Bool :=
  if (t.get? receiptId).isSome ∨ t.values.any (·.idempotencyKey = some key) then (t, false)
  else (t.set receiptId { row with idempotencyKey := some key }, true)

/-- The arguments of an admission besides its key. -/
structure Admission where
  minerHotkey : String
  challengeId : String
  dimacsSolutionSha256 : String
  dimacsSolution : String
  submittedAt : String
  receivedAt : Millis
  signature : String
  epoch : ℤ
  assignmentIdentity : Option String
deriving DecidableEq, Repr

def Admission.key (settings : Settings) (adm : Admission) : String :=
  idempotencyKey settings.sha256Hex adm.minerHotkey adm.challengeId adm.dimacsSolutionSha256

def Admission.shadowKey (settings : Settings) (adm : Admission) : String :=
  shadowIdempotencyKey settings.sha256Hex adm.minerHotkey adm.challengeId adm.dimacsSolutionSha256

/-- The row an admission inserts. -/
def pendingRow (adm : Admission) (kind : ChallengeKind) (reason : Option String)
    (recordedAt : Millis) : Attempt where
  challengeId := adm.challengeId
  minerHotkey := adm.minerHotkey
  epoch := adm.epoch
  status := .pending
  rejectionReason := reason
  dimacsSolutionSha256 := adm.dimacsSolutionSha256
  submittedAt := adm.submittedAt
  recordedAt := recordedAt
  signature := adm.signature
  idempotencyKey := none
  receivedAt := some adm.receivedAt
  verifiedAt := none
  challengeKind := some kind
  solutionBody := some adm.dimacsSolution
  solveRank := none
  weightedScore := none
  evalRunId := none
  attemptCount := 0
  nextAttemptAt := none
  lockedBy := none
  lockedUntil := none
  assignmentIdentity := adm.assignmentIdentity
  shadowStatus := none
  shadowRejectionReason := none

/-- What `admit_pending` returns. `created` carries the row read back by id. -/
inductive AdmitOutcome where
  | created (row : Option (String × Attempt))
  | replayed (row : String × Attempt)
  | backpressure (pressure : Pressure)
deriving DecidableEq, Repr

/-- The receipt an admission answers with. -/
def AdmitOutcome.receiptId : AdmitOutcome → Option String
  | .created row => row.map Prod.fst
  | .replayed row => some row.1
  | .backpressure _ => none

/-- The insert of `admit_pending`, with the re-read after a lost race. -/
def admitRow (t : Attempts) (receiptId key : String) (adm : Admission) : Attempts × AdmitOutcome :=
  match insertAttemptIgnore t receiptId key
      (pendingRow adm (challengeKind adm.challengeId) none adm.receivedAt) with
  | (t', true) => (t', .created (fetchById t' receiptId))
  | (t', false) =>
    match fetchByIdem t' key with
    | some row => (t', .replayed row)
    | none => (t', .created (fetchById t' receiptId))

/-- `admit_pending`: a known key is replayed before the backpressure gate. -/
def admitPending (limits : Option QueueBackpressure) (t : Attempts) (receiptId key : String)
    (adm : Admission) : Attempts × AdmitOutcome :=
  match fetchByIdem t key with
  | some row => (t, .replayed row)
  | none =>
    match limits.bind fun l => queueBackpressureDecision l adm.receivedAt t with
    | some pressure => (t, .backpressure pressure)
    | none => admitRow t receiptId key adm

/-- `_admit_pm_shadow`: the twin carries the inline verdict as its reason. -/
def admitPmShadow (t : Attempts) (receiptId key : String) (adm : Admission) (inlineMarker : String)
    (now : Millis) : Attempts :=
  (insertAttemptIgnore t receiptId key
    (pendingRow adm .kindPerMinerShadow (some inlineMarker) now)).1

/-! ## Lookups and inserts -/

section

variable {t : Attempts}

/-- An insert is ignored when its id or its key is taken. -/
theorem insertAttemptIgnore_cases (t : Attempts) (receiptId key : String) (row : Attempt) :
    ((t.get? receiptId ≠ none ∨ ∃ other a, t.get? other = some a ∧ a.idempotencyKey = some key) ∧
        insertAttemptIgnore t receiptId key row = (t, false)) ∨
      (t.get? receiptId = none ∧
        (∀ other a, t.get? other = some a → a.idempotencyKey ≠ some key) ∧
        insertAttemptIgnore t receiptId key row =
          (t.set receiptId { row with idempotencyKey := some key }, true)) := by
  have hany : t.values.any (·.idempotencyKey = some key) = true ↔
      ∃ other a, t.get? other = some a ∧ a.idempotencyKey = some key := by
    simp only [List.any_eq_true, Dict.values, List.mem_map, decide_eq_true_eq, Prod.exists]
    constructor
    · rintro ⟨_, ⟨other, a, hmem, rfl⟩, hkey⟩
      exact ⟨other, a, Dict.mem_items.mp hmem, hkey⟩
    · rintro ⟨other, a, hget, hkey⟩
      exact ⟨a, ⟨other, a, Dict.mem_items.mpr hget, rfl⟩, hkey⟩
  unfold insertAttemptIgnore
  split
  · next htaken =>
      refine Or.inl ⟨htaken.imp ?_ hany.mp, rfl⟩
      exact fun hsome hnone => by simp [hnone] at hsome
  · next hfree =>
      rw [not_or] at hfree
      refine Or.inr ⟨by simpa using hfree.1, fun other a hget hkey => ?_, rfl⟩
      exact hfree.2 (hany.mpr ⟨other, a, hget, hkey⟩)

theorem fetchByIdem_eq_some {key : String} {row : String × Attempt}
    (h : fetchByIdem t key = some row) :
    t.get? row.1 = some row.2 ∧ row.2.idempotencyKey = some key ∧ row.2.live = true := by
  have hpred := List.find?_some h
  rw [decide_eq_true_eq] at hpred
  exact ⟨Dict.mem_items.mp (List.mem_of_find?_eq_some h), hpred⟩

theorem fetchByIdem_eq_none {key : String} (h : fetchByIdem t key = none) {r : String}
    {a : Attempt} (hget : t.get? r = some a) : ¬ (a.idempotencyKey = some key ∧ a.live = true) := by
  have hall := List.find?_eq_none.mp h (r, a) (Dict.mem_items.mpr hget)
  simpa using hall

end

/-! ## Claims -/

/-- The rows a worker may claim at `now`. -/
def Attempt.claimable (now : Millis) (a : Attempt) : Bool :=
  !a.status.terminal && a.nextAttemptAt.all (· ≤ now) && a.lockedUntil.all (· ≤ now)

/-- `ORDER BY received_at_iso, id`; a missing time sorts first. -/
def claimBefore (a b : String × Attempt) : Prop :=
  match a.2.receivedAt, b.2.receivedAt with
  | none, none => a.1 ≤ b.1
  | none, some _ => True
  | some _, none => False
  | some x, some y => x < y ∨ (x = y ∧ a.1 ≤ b.1)

instance : DecidableRel claimBefore := fun a b => by
  unfold claimBefore
  split <;> infer_instance

/-- The rows a claim takes, oldest first. -/
def claimSelection (t : Attempts) (now : Millis) (batchSize : ℕ) : List (String × Attempt) :=
  ((t.items.filter fun row => row.2.claimable now).insertionSort claimBefore).take batchSize

def claimedRow (settings : Settings) (workerId : String) (now lockDeadline : Millis)
    (a : Attempt) : Attempt :=
  { a with
    status := .verifying
    lockedBy := some workerId
    lockedUntil := some lockDeadline
    attemptCount := a.attemptCount + 1
    verifiedAt := none
    recordedAt := if settings.postgres then now else a.recordedAt }

/-- `claim_pending`: lock the selected rows and return them. -/
def claimPending (settings : Settings) (t : Attempts) (workerId : String)
    (now lockDeadline : Millis) (batchSize : ℕ) : Attempts × List (String × Attempt) :=
  let selection := claimSelection t now batchSize
  (t.modifyAll (selection.map Prod.fst) (claimedRow settings workerId now lockDeadline),
    selection.map fun row => (row.1, claimedRow settings workerId now lockDeadline row.2))

/-! ## Terminal writes -/

/-- A row rejected by `_mark_rejected`. -/
def rejectedRow (reason : String) (now : Millis) (a : Attempt) : Attempt :=
  { a with
    status := .rejected
    rejectionReason := some reason
    verifiedAt := some now
    recordedAt := now
    lockedBy := none
    lockedUntil := none }

def markRejected (t : Attempts) (receiptId reason : String) (now : Millis) : Attempts :=
  t.modify receiptId (rejectedRow reason now)

/-- A row ranked by an accept transaction. -/
def rankedRow (rowUuid : String) (now : Millis) (rank : ℕ) (score : ℚ) (a : Attempt) : Attempt :=
  { a with
    status := .ranked
    rejectionReason := none
    verifiedAt := some now
    recordedAt := now
    solveRank := some rank
    weightedScore := some score
    evalRunId := some rowUuid
    solutionBody := none
    lockedBy := none
    lockedUntil := none }

/-- The receipt's update at the end of an accept transaction. -/
def markRanked (t : Attempts) (receiptId rowUuid : String) (now : Millis) (rank : ℕ) (score : ℚ) :
    Attempts :=
  t.modify receiptId (rankedRow rowUuid now rank score)

/-- A row closed by `finalize_pm_shadow` with the verdict `err`. -/
def shadowRow (err : Option String) (now : Millis) (a : Attempt) : Attempt :=
  let status := if err.isSome then AttemptStatus.rejected else .ranked
  { a with
    shadowStatus := some status
    shadowRejectionReason := err
    status := status
    verifiedAt := some now
    recordedAt := now
    solutionBody := none
    lockedBy := none
    lockedUntil := none }

/-- The write of `finalize_pm_shadow`. -/
def markShadow (t : Attempts) (receiptId : String) (err : Option String) (now : Millis) :
    Attempts :=
  t.modify receiptId (shadowRow err now)

end Cathedral.Publisher
