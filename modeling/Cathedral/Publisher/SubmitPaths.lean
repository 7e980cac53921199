import Cathedral.Publisher.Accept

/-!
# Cathedral.Publisher.SubmitPaths — one submission on either path

`agents_submit` after the signature check, on the public and on the per-miner
lane, once as the synchronous path and once as durable admission followed by a
worker tick. A function here is a sequence of transactions; a raised exception
rolls back the transaction it is raised in and ends the function.
-/

namespace Cathedral.Publisher

/-! ## Requests and outcomes -/

/-- A submit request whose signature has been verified. -/
structure Request where
  minerHotkey : String
  challengeId : String
  dimacsSolution : String
  submittedAt : String
  signature : String
  receivedAt : Millis
deriving DecidableEq, Repr

/-- The submission a request makes. -/
def Request.solve (settings : Settings) (req : Request) : SignedSolve where
  challengeId := req.challengeId
  minerHotkey := req.minerHotkey
  signature := req.signature
  submittedAt := req.submittedAt
  dimacsSolutionSha256 := settings.sha256Hex req.dimacsSolution
  dimacsSolution := some req.dimacsSolution

/-- A verdict with its rejection reason. -/
inductive Verdict where
  | ranked (rank : ℕ) (score : ℚ)
  | refused (reason : String)
deriving DecidableEq, Repr

/-- How handling a request ended: with a verdict, by an exception, with a
receipt that is still open, or shed by backpressure. -/
inductive Outcome where
  | decided (verdict : Verdict)
  | raised
  | undecided
  | shed
deriving DecidableEq, Repr

/-! ## Checks -/

/-- The checks of a per-miner submission, inline and in `_pm_resolve_and_verify`:
ownership of the challenge, the DIMACS check, and the witness check. -/
def pmResolveAndVerify (checks : Checks) (identity : String) (epoch : ℤ)
    (challengeId dimacsSolution : String) : Option (Except String (PmInstance × List ℤ)) :=
  match checks.resolveTierSeqFor identity epoch challengeId with
  | none => some (.error "assignment_required_fetch_challenges_first")
  | some (tier, seq) =>
    match checks.getMinerCnf identity epoch tier seq with
    | none => some (.error "challenge_id_not_in_miner_set")
    | some cnfText =>
      match checks.verifyDimacsSolution cnfText dimacsSolution with
      | none => none
      | some (.error fault) => some (.error fault.reason)
      | some (.ok assignment) =>
        if checks.instanceId identity epoch tier seq ≠ challengeId then
          some (.error "challenge_id_not_in_miner_set")
        else if checks.witnessCheck identity epoch tier seq assignment then
          some (.ok (⟨epoch, tier, seq⟩, assignment))
        else some (.error "witness_check_failed")

/-! ## The synchronous path -/

def acceptOutcome {α : Type} (s : Store) (rank : α → ℕ) (score : α → ℚ) :
    Option (Store × Except AcceptError α) → Store × Outcome
  | none => (s, .raised)
  | some (s', .error err) => (s', .decided (.refused err.reason))
  | some (s', .ok a) => (s', .decided (.ranked (rank a) (score a)))

/-- `_rej` and `_pm_rej`: burn the signature and record the rejection together.
`receipt` is the write to the attempts table. -/
def rejectSync (subId reason : String) (now : Millis) (solve : SignedSolve)
    (receipt : Attempts → Option Attempts) (s : Store) : Store × Outcome :=
  match burnSignature s solve.signature now with
  | (_, false) => (s, .decided (.refused AcceptError.replayedSignature.reason))
  | (burned, true) =>
    match insertSubmission burned subId (rejectedSubmission solve reason), receipt s.attempts with
    | some recorded, some attempts =>
      ({ recorded with attempts := attempts }, .decided (.refused reason))
    | _, _ => (s, .raised)

/-- The public lane of `agents_submit`. -/
def submitPublicSync (settings : Settings) (checks : Checks) (ids : RowIds) (subId : String)
    (now : Millis) (req : Request) (s : Store) : Store × Outcome :=
  match s.laneChallenges.get? req.challengeId with
  | none => (s, .decided (.refused AcceptError.challengeNotActive.reason))
  | some chal =>
    if chal.status ≠ .active then
      (s, .decided (.refused AcceptError.challengeAlreadyLocked.reason))
    else
      match checks.verifyDimacsSolution chal.cnfText req.dimacsSolution with
      | none => (s, .raised)
      | some (.error fault) => rejectSync subId fault.reason now (req.solve settings) some s
      | some (.ok assignment) =>
        acceptOutcome s Prod.fst Prod.snd
          (acceptPublicSync settings ids subId now (req.solve settings) chal assignment s)

/-- Record the receipt of a refused accept on the per-miner lane. -/
def recordPmAttempt (subId : String) (now : Millis) (solve : SignedSolve) (epoch : ℤ)
    (reason : String) (s : Store) : Option Store :=
  (s.attempts.insertNew subId (inlineAttempt solve epoch .rejected (some reason) now)).map
    fun attempts => { s with attempts := attempts }

/-- The per-miner lane of `agents_submit`, for the miner's assignment identity
and the challenge's epoch. -/
def submitPmSync (settings : Settings) (checks : Checks) (ids : RowIds) (subId : String)
    (now : Millis) (req : Request) (identity : String) (epoch : ℤ) (s : Store) : Store × Outcome :=
  let solve := req.solve settings
  match pmResolveAndVerify checks identity epoch req.challengeId req.dimacsSolution with
  | none => (s, .raised)
  | some (.error reason) =>
    rejectSync subId reason now solve (fun attempts => attempts.insertNew subId
      (inlineAttempt solve epoch .rejected (some reason) now)) s
  | some (.ok (inst, assignment)) =>
    match acceptPmSync settings ids subId now solve inst assignment s with
    | some (s', .error .alreadySolved) =>
      match recordPmAttempt subId now solve epoch AcceptError.alreadySolved.reason s' with
      | none => (s', .raised)
      | some s'' => (s'', .decided (.refused AcceptError.alreadySolved.reason))
    | result => acceptOutcome s (fun _ => 1) id result

/-! ## The worker -/

def rejectAttempt (receiptId reason : String) (now : Millis) (s : Store) : Store :=
  { s with attempts := markRejected s.attempts receiptId reason now }

/-- The end of a finaliser: a refusal is written in a second transaction. -/
def finishAttempt {α : Type} (receiptId : String) (now : Millis) :
    Option (Store × Except AcceptError α) → Option Store
  | none => none
  | some (s', .error err) => some (rejectAttempt receiptId err.reason now s')
  | some (s', .ok _) => some s'

/-- `finalize_attempt` with `_accept_public_async`; `none` when it raises. -/
def finalizeAttempt (settings : Settings) (checks : Checks) (ids : RowIds) (now : Millis)
    (receiptId : String) (row : Attempt) (s : Store) : Option Store :=
  match row.solutionBody with
  | none => some (rejectAttempt receiptId "missing_solution_body" now s)
  | some body =>
    match s.laneChallenges.get? row.challengeId with
    | none => some (rejectAttempt receiptId AcceptError.challengeNotActive.reason now s)
    | some chal =>
      match checks.verifyDimacsSolution chal.cnfText body with
      | none => none
      | some (.error fault) => some (rejectAttempt receiptId fault.reason now s)
      | some (.ok assignment) =>
        if chal.status = .retired then
          some (rejectAttempt receiptId AcceptError.challengeNotActive.reason now s)
        else
          finishAttempt receiptId now
            (acceptPublicAsync settings ids receiptId row chal assignment now s)

def Attempt.identity (a : Attempt) : String :=
  match a.assignmentIdentity with
  | some identity => if identity = "" then a.minerHotkey else identity
  | none => a.minerHotkey

/-- `finalize_pm_attempt` with `_pm_resolve_and_verify` and `_accept_pm_async`. -/
def finalizePmAttempt (settings : Settings) (checks : Checks) (ids : RowIds) (now : Millis)
    (receiptId : String) (row : Attempt) (s : Store) : Option Store :=
  match row.solutionBody with
  | none => some (rejectAttempt receiptId "missing_solution_body" now s)
  | some body =>
    match pmResolveAndVerify checks row.identity row.epoch row.challengeId body with
    | none => none
    | some (.error reason) => some (rejectAttempt receiptId reason now s)
    | some (.ok (inst, assignment)) =>
      finishAttempt receiptId now
        (acceptPmAsync settings ids receiptId row inst assignment now s)

/-- `finalize_pm_shadow`: the verdict goes to the shadow columns. -/
def finalizePmShadow (checks : Checks) (now : Millis) (receiptId : String) (row : Attempt)
    (s : Store) : Option Store :=
  let close (err : Option String) : Store :=
    { s with attempts := markShadow s.attempts receiptId err now }
  match row.solutionBody with
  | none => some (close (some "missing_solution_body"))
  | some body =>
    match pmResolveAndVerify checks row.identity row.epoch row.challengeId body with
    | none => none
    | some (.error reason) => some (close (some reason))
    | some (.ok _) => some (close none)

/-- The dispatch of `_async_verify_tick` on the kind of an attempt. -/
def finalizeClaimed (settings : Settings) (checks : Checks) (ids : RowIds) (now : Millis)
    (receiptId : String) (row : Attempt) (s : Store) : Option Store :=
  match row.challengeKind with
  | some .kindPerMinerShadow => finalizePmShadow checks now receiptId row s
  | some .kindPerMiner => finalizePmAttempt settings checks ids now receiptId row s
  | _ => finalizeAttempt settings checks ids now receiptId row s

/-- The loop over the claimed rows; an exception ends it. -/
def finalizeAll (settings : Settings) (checks : Checks) (ids : String → RowIds) (now : Millis) :
    List (String × Attempt) → Store → Store × Bool
  | [], s => (s, true)
  | (receiptId, row) :: rest, s =>
    match finalizeClaimed settings checks (ids receiptId) now receiptId row s with
    | none => (s, false)
    | some s' => finalizeAll settings checks ids now rest s'

/-- A worker and its clock. -/
structure Tick where
  workerId : String
  now : Millis
  lockDeadline : Millis
  batchSize : ℕ
  ids : String → RowIds

/-- `_async_verify_tick`: claim a batch and finalise it; `false` when it raised. -/
def asyncVerifyTick (settings : Settings) (checks : Checks) (tick : Tick) (s : Store) :
    Store × Bool :=
  let (attempts, claimed) :=
    claimPending settings s.attempts tick.workerId tick.now tick.lockDeadline tick.batchSize
  finalizeAll settings checks tick.ids tick.now claimed { s with attempts := attempts }

/-! ## The asynchronous path -/

def receiptOutcome (s : Store) (receiptId : String) : Outcome :=
  match s.attempts.get? receiptId with
  | none => .undecided
  | some a =>
    match a.status with
    | .ranked => .decided (.ranked (a.solveRank.getD 0) (a.weightedScore.getD 0))
    | .rejected => .decided (.refused (a.rejectionReason.getD ""))
    | _ => .undecided

/-- Durable admission followed by one worker tick; what the client gets is the
receipt it was answered with. -/
def submitAsync (settings : Settings) (checks : Checks) (limits : Option QueueBackpressure)
    (receiptId : String) (adm : Admission) (tick : Tick) (s : Store) : Store × Outcome :=
  match admitPending limits s.attempts receiptId (adm.key settings) adm with
  | (attempts, .backpressure _) => ({ s with attempts := attempts }, .shed)
  | (attempts, outcome) =>
    match asyncVerifyTick settings checks tick { s with attempts := attempts } with
    | (s', false) => (s', .raised)
    | (s', true) => (s', receiptOutcome s' (outcome.receiptId.getD receiptId))

def publicAdmission (settings : Settings) (req : Request) : Admission where
  minerHotkey := req.minerHotkey
  challengeId := req.challengeId
  dimacsSolutionSha256 := settings.sha256Hex req.dimacsSolution
  dimacsSolution := req.dimacsSolution
  submittedAt := req.submittedAt
  receivedAt := req.receivedAt
  signature := req.signature
  epoch := 0
  assignmentIdentity := none

/-- The admission of a per-miner request. -/
def pmAdmission (settings : Settings) (req : Request) (identity : String) (epoch : ℤ) : Admission :=
  { publicAdmission settings req with
    epoch := epoch
    assignmentIdentity := some identity }

end Cathedral.Publisher
