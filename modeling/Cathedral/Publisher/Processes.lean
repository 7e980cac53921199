import Cathedral.Lib.Run
import Cathedral.Publisher.SubmitPaths

/-!
# Cathedral.Publisher.Processes — request handlers and workers side by side

Any number of processes handle requests and work the queue. A transaction is
atomic; between two of its transactions a process holds one item of work: a
claimed attempt, a refusal it has yet to mark, or the attempt row of a refused
per-miner accept. `Step` is one transaction, or a process taking or losing an
item. What a process read and checked before a transaction is existential in the
labels: rows it observed may be stale.

`Timely` is the condition the receipts depend on: a worker's verdict reaches a
receipt that has none yet.
-/

namespace Cathedral.Publisher.Processes

/-! ## The state -/

/-- What a process holds between two transactions. -/
inductive Work where
  | attempt (receiptId : String) (row : Attempt)
  | refusal (receiptId reason : String)
  | record (subId : String) (solve : SignedSolve) (epoch : ℤ)
deriving DecidableEq

/-- The receipt or submission id of an item. -/
def Work.id : Work → String
  | .attempt receiptId _ => receiptId
  | .refusal receiptId _ => receiptId
  | .record subId _ _ => subId

/-- The tables and the work in hand. -/
structure World where
  store : Store
  work : List Work

/-- The item is done or lost. -/
def World.drop (w : World) (item : Work) : World := { w with work := w.work.erase item }

/-- The item is replaced by what follows from it. -/
def World.follow (w : World) (item next : Work) : World :=
  { w with work := next :: w.work.erase item }

/-! ## The steps -/

inductive Action where
  | submitPublic (subId : String) (ids : RowIds) (now : Millis) (solve : SignedSolve)
      (chal : LaneChallenge) (assignment : List ℤ)
  | refusePublic (subId reason : String) (now : Millis) (solve : SignedSolve)
  | submitPm (subId : String) (ids : RowIds) (now : Millis) (solve : SignedSolve)
      (inst : PmInstance) (assignment : List ℤ)
  | refusePm (subId reason : String) (now : Millis) (solve : SignedSolve) (epoch : ℤ)
  | recordPm (subId : String) (now : Millis) (solve : SignedSolve) (epoch : ℤ)
  | receive (limits : Option QueueBackpressure) (receiptId : String) (adm : Admission)
  | receiveShadow (receiptId : String) (adm : Admission) (inlineMarker : String) (now : Millis)
  | claim (workerId : String) (now lockDeadline : Millis) (batchSize : ℕ)
  | refuse (receiptId : String) (row : Attempt) (reason : String)
  | accept (receiptId : String) (row : Attempt) (ids : RowIds) (now : Millis)
      (chal : LaneChallenge) (assignment : List ℤ)
  | acceptPm (receiptId : String) (row : Attempt) (ids : RowIds) (now : Millis)
      (inst : PmInstance) (assignment : List ℤ)
  | mark (receiptId reason : String) (now : Millis)
  | shadow (receiptId : String) (row : Attempt) (err : Option String) (now : Millis)
  | lose (item : Work)
  | retire (challengeId : String) (now : Millis)
  | publish (challengeId : String) (chal : LaneChallenge)

/-- No item of work has the id. -/
def World.Free (w : World) (id : String) : Prop := ∀ item ∈ w.work, item.id ≠ id

/-- A generated id names nothing yet. -/
structure World.NewId (w : World) (id : String) : Prop where
  attempt : w.store.attempts.get? id = none
  submission : w.store.agentSubmissions.get? id = none
  work : w.Free id

/-- A generated row id names nothing yet. -/
structure NewRun (s : Store) (ids : RowIds) : Prop where
  run : s.evalRuns.get? ids.rowUuid = none
  compat : s.evalRuns.get? (compatId ids.rowUuid) = none

def retiredChallenge (now : Millis) (chal : LaneChallenge) : LaneChallenge :=
  { chal with status := .retired, cnfText := "", updatedAt := some now }

/-- After an accept by a worker: a refusal is still to be marked. -/
def afterAccept {α : Type} (w : World) (item : Work) (s : Store) (result : Except AcceptError α) :
    World :=
  match result with
  | .error err => { w.follow item (.refusal item.id err.reason) with store := s }
  | .ok _ => { w.drop item with store := s }

/-- After a per-miner accept of the request path: `already_solved` is still to
be recorded. -/
def afterSubmitPm (w : World) (subId : String) (solve : SignedSolve) (epoch : ℤ) (s : Store)
    (result : Except AcceptError ℚ) : World :=
  match result with
  | .error .alreadySolved => { store := s, work := .record subId solve epoch :: w.work }
  | _ => { w with store := s }

/-- One transaction, or a process taking or losing work. A transaction that raises
is rolled back, so it is no step; its process loses the item. -/
inductive Step (settings : Settings) : World → Action → World → Prop where
  | submitPublic {w : World} {subId : String} {ids : RowIds} {now : Millis} {solve : SignedSolve}
      {chal : LaneChallenge} {assignment : List ℤ} {s : Store}
      {result : Except AcceptError (ℕ × ℚ)} :
      w.NewId subId → NewRun w.store ids →
      acceptPublicSync settings ids subId now solve chal assignment w.store = some (s, result) →
      Step settings w (.submitPublic subId ids now solve chal assignment) { w with store := s }
  | refusePublic {w : World} {subId reason : String} {now : Millis} {solve : SignedSolve} :
      w.NewId subId →
      Step settings w (.refusePublic subId reason now solve)
        { w with store := (rejectSync subId reason now solve some w.store).1 }
  | submitPm {w : World} {subId : String} {ids : RowIds} {now : Millis} {solve : SignedSolve}
      {inst : PmInstance} {assignment : List ℤ} {s : Store} {result : Except AcceptError ℚ} :
      challengeKind solve.challengeId = .kindPerMiner → w.NewId subId → NewRun w.store ids →
      acceptPmSync settings ids subId now solve inst assignment w.store = some (s, result) →
      Step settings w (.submitPm subId ids now solve inst assignment)
        (afterSubmitPm w subId solve inst.epoch s result)
  | refusePm {w : World} {subId reason : String} {now : Millis} {solve : SignedSolve}
      {epoch : ℤ} :
      challengeKind solve.challengeId = .kindPerMiner → w.NewId subId →
      Step settings w (.refusePm subId reason now solve epoch)
        { w with store := (rejectSync subId reason now solve (fun attempts => attempts.insertNew
            subId (inlineAttempt solve epoch .rejected (some reason) now)) w.store).1 }
  | recordPm {w : World} {subId : String} {now : Millis} {solve : SignedSolve} {epoch : ℤ}
      {s : Store} :
      .record subId solve epoch ∈ w.work →
      recordPmAttempt subId now solve epoch AcceptError.alreadySolved.reason w.store = some s →
      Step settings w (.recordPm subId now solve epoch)
        { w.drop (.record subId solve epoch) with store := s }
  | receive {w : World} {limits : Option QueueBackpressure} {receiptId : String}
      {adm : Admission} :
      w.NewId receiptId →
      Step settings w (.receive limits receiptId adm)
        { w with store := { w.store with
            attempts :=
              (admitPending limits w.store.attempts receiptId (adm.key settings) adm).1 } }
  | receiveShadow {w : World} {receiptId : String} {adm : Admission} {inlineMarker : String}
      {now : Millis} :
      w.NewId receiptId →
      Step settings w (.receiveShadow receiptId adm inlineMarker now)
        { w with store := { w.store with
            attempts := admitPmShadow w.store.attempts receiptId (adm.shadowKey settings) adm
              inlineMarker now } }
  | claim {w : World} {workerId : String} {now lockDeadline : Millis} {batchSize : ℕ}
      {attempts : Attempts} {claimed : List (String × Attempt)} :
      claimPending settings w.store.attempts workerId now lockDeadline batchSize =
        (attempts, claimed) →
      Step settings w (.claim workerId now lockDeadline batchSize)
        { store := { w.store with attempts := attempts }
          work := claimed.map (fun row => .attempt row.1 row.2) ++ w.work }
  /-- The worker's checks refuse the solution. -/
  | refuse {w : World} {receiptId reason : String} {row : Attempt} :
      .attempt receiptId row ∈ w.work → row.live = true →
      Step settings w (.refuse receiptId row reason)
        (w.follow (.attempt receiptId row) (.refusal receiptId reason))
  | accept {w : World} {receiptId : String} {row : Attempt} {ids : RowIds} {now : Millis}
      {chal : LaneChallenge} {assignment : List ℤ} {s : Store}
      {result : Except AcceptError (ℕ × ℚ)} :
      .attempt receiptId row ∈ w.work → row.live = true →
      row.challengeKind ≠ some .kindPerMiner → NewRun w.store ids →
      acceptPublicAsync settings ids receiptId row chal assignment now w.store =
        some (s, result) →
      Step settings w (.accept receiptId row ids now chal assignment)
        (afterAccept w (.attempt receiptId row) s result)
  | acceptPm {w : World} {receiptId : String} {row : Attempt} {ids : RowIds} {now : Millis}
      {inst : PmInstance} {assignment : List ℤ} {s : Store} {result : Except AcceptError ℚ} :
      .attempt receiptId row ∈ w.work → row.challengeKind = some .kindPerMiner →
      NewRun w.store ids →
      acceptPmAsync settings ids receiptId row inst assignment now w.store = some (s, result) →
      Step settings w (.acceptPm receiptId row ids now inst assignment)
        (afterAccept w (.attempt receiptId row) s result)
  | mark {w : World} {receiptId reason : String} {now : Millis} :
      .refusal receiptId reason ∈ w.work →
      Step settings w (.mark receiptId reason now)
        { w.drop (.refusal receiptId reason) with
          store := rejectAttempt receiptId reason now w.store }
  | shadow {w : World} {receiptId : String} {row : Attempt} {err : Option String} {now : Millis} :
      .attempt receiptId row ∈ w.work → row.live = false →
      Step settings w (.shadow receiptId row err now)
        { w.drop (.attempt receiptId row) with
          store := { w.store with attempts := markShadow w.store.attempts receiptId err now } }
  | lose {w : World} {item : Work} : Step settings w (.lose item) (w.drop item)
  | retire {w : World} {challengeId : String} {now : Millis} :
      Step settings w (.retire challengeId now)
        { w with store := { w.store with
            laneChallenges := w.store.laneChallenges.modify challengeId (retiredChallenge now) } }
  /-- A public challenge gets a new id, which is not a per-miner id. -/
  | publish {w : World} {challengeId : String} {chal : LaneChallenge} :
      w.store.laneChallenges.get? challengeId = none →
      challengeKind challengeId ≠ .kindPerMiner →
      Step settings w (.publish challengeId chal)
        { w with store := { w.store with
            laneChallenges := w.store.laneChallenges.set challengeId chal } }

/-! ## Verdicts in time -/

/-- An accept of the row would credit it. -/
def Creditable (settings : Settings) (s : Store) (row : Attempt) : Prop :=
  s.submitSignatures.get? row.signature = none ∧
    if row.challengeKind = some .kindPerMiner then
      s.perMinerSolves.get? row.solve.pair = none
    else
      ActiveChallenge s row.challengeId ∧
        (settings.lockWins = true ∨ s.laneChallengeSolves.get? row.solve.pair = none)

/-- A worker's verdict meets a receipt that has none yet, or the same one: a
refusal is marked on an open receipt or on one rejected for the same reason, and a
rejected receipt's solution is not credited. -/
def Timely (settings : Settings) (w : World) : Action → Prop
  | .mark receiptId reason _ => ∀ a, w.store.attempts.get? receiptId = some a →
      a.status.terminal = true → a.status = .rejected ∧ a.rejectionReason = some reason
  | .accept receiptId row _ _ _ _ | .acceptPm receiptId row _ _ _ _ =>
    Creditable settings w.store row →
      ∀ a, w.store.attempts.get? receiptId = some a → a.status ≠ .rejected
  | _ => True

/-- A step in which every verdict is in time. -/
def TimelyStep (settings : Settings) (w : World) (action : Action) (w' : World) : Prop :=
  Step settings w action w' ∧ Timely settings w action

/-- A store before its first submission, with any challenges and burned
signatures; per-miner ids are no public challenges. -/
structure Start (w : World) : Prop where
  attempts : w.store.attempts = Dict.empty
  submissions : w.store.agentSubmissions = Dict.empty
  laneSolves : w.store.laneChallengeSolves = Dict.empty
  pmSolves : w.store.perMinerSolves = Dict.empty
  board : ∀ cid, w.store.laneChallenges.get? cid ≠ none → challengeKind cid ≠ .kindPerMiner
  work : w.work = []

end Cathedral.Publisher.Processes
