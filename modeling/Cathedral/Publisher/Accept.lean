import Cathedral.Publisher.Queue

/-!
# Cathedral.Publisher.Accept — the accept transactions

Accepting a solve is one transaction: it burns the signature, takes the solve
row of the (challenge, hotkey) pair, writes the ranked submission row and the
two signed feed rows, and on the worker's path advances the receipt. It is
written four times in the source, for two lanes and two paths; here each of the
four is the lane's transaction applied to that path's own ids, times and last
write.

A transaction that returns a refusal still commits what it wrote before it;
`none` is a raised exception, which rolls everything back.
-/

namespace Cathedral.Publisher

/-! ## Feed rows -/

/-- The ids a submission generates besides its own. -/
structure RowIds where
  rowUuid : String
  agentId : String
deriving DecidableEq, Repr

/-- The id of the version 5 mirror. -/
def compatId (rowUuid : String) : String := rowUuid ++ "-v5compat"

def hash16 (settings : Settings) (text : String) : String :=
  String.ofList ((settings.sha256Hex text).toList.take 16)

/-- `rows.build_solve_rows` for an accepted solve: the version 6 row and its
version 5 mirror, with their ids. -/
def buildSolveRows (settings : Settings) (ids : RowIds) (minerHotkey challengeId : String)
    (tier : ℤ) (weightedScore : ℚ) (answerHash verifierDetailsHash : String) (ranAt : Millis)
    (solveRank : ℕ) : List (String × EvalRun) :=
  let v5 : EvalRun :=
    { ranAt := ranAt
      schemaVersion := 5
      minerHotkey := minerHotkey
      agentId := ids.agentId
      taskIdPublic := hash16 settings (challengeId ++ ":" ++ toString tier)
      epochSalt := settings.epochSalt
      difficultyTier := tier
      weightedScore := weightedScore
      answerHash := answerHash
      verifierDetailsHash := verifierDetailsHash
      rejectionReason := none
      extension := none }
  let v6 : EvalRun :=
    { v5 with
      schemaVersion := 6
      extension := some ⟨weightedScore, solveRank, true, minerHotkey⟩ }
  [(ids.rowUuid, v6), (compatId ids.rowUuid, v5)]

/-- `INSERT OR IGNORE INTO eval_runs` for each row. -/
def insertRows (runs : Dict String EvalRun) (rows : List (String × EvalRun)) :
    Dict String EvalRun :=
  rows.foldl (fun runs row => (runs.insertIgnore row.1 row.2).1) runs

def emitRows (s : Store) (rows : List (String × EvalRun)) : Store :=
  { s with evalRuns := insertRows s.evalRuns rows }

/-! ## The parts of a transaction -/

/-- Why an accept transaction refuses. -/
inductive AcceptError where
  | replayedSignature
  | challengeAlreadyLocked
  | challengeNotActive
  | alreadySolved
deriving DecidableEq, Repr

/-- The refusal in the rejection vocabulary. -/
def AcceptError.reason : AcceptError → String
  | .replayedSignature => "replayed_signature"
  | .challengeAlreadyLocked => "challenge_already_locked"
  | .challengeNotActive => "challenge_not_active"
  | .alreadySolved => "already_solved"

/-- The submission an accept transaction is about. -/
structure SignedSolve where
  challengeId : String
  minerHotkey : String
  signature : String
  submittedAt : String
  dimacsSolutionSha256 : String
  dimacsSolution : Option String
deriving DecidableEq, Repr

/-- The (challenge, hotkey) pair a solve is credited to. -/
def SignedSolve.pair (solve : SignedSolve) : String × String :=
  (solve.challengeId, solve.minerHotkey)

/-- Burn a signature; `false` when it was seen before. -/
def burnSignature (s : Store) (signature : String) (seenAt : Millis) : Store × Bool :=
  let (signatures, inserted) := s.submitSignatures.insertIgnore signature seenAt
  ({ s with submitSignatures := signatures }, inserted)

/-- `scoring.claim_solve`: take the pair's solve row and return the first-seen
rank, or `none` when the hotkey has solved the challenge. -/
def claimSolve (s : Store) (pair : String × String) (solvedAt : Millis) : Store × Option ℕ :=
  match s.laneChallengeSolves.get? pair with
  | some _ => (s, none)
  | none =>
    let solves := s.laneChallengeSolves.set pair solvedAt
    ({ s with laneChallengeSolves := solves },
      some (solves.items.countP fun row => row.1.1 = pair.1))

/-- The status gate and the solve row of the public lane. The challenge is
re-read inside the transaction; `lock_wins` locks it and ranks a hotkey whose
solve row is already there first. -/
def takePublicSlot (settings : Settings) (pair : String × String) (now solvedAt : Millis)
    (s : Store) : Store × Except AcceptError ℕ :=
  match s.laneChallenges.get? pair.1 with
  | some ⟨_, .active, _, _, _⟩ =>
    if settings.lockWins then
      let locked := { s with
        laneChallenges := s.laneChallenges.modify pair.1 ({ · with status := .locked }) }
      let (claimed, rank) := claimSolve locked pair solvedAt
      (claimed, .ok (rank.getD 1))
    else
      let touched := { s with
        laneChallenges := s.laneChallenges.modify pair.1 ({ · with updatedAt := some now }) }
      match claimSolve touched pair solvedAt with
      | (claimed, some rank) => (claimed, .ok rank)
      | (claimed, none) => (claimed, .error .alreadySolved)
  | _ =>
    (s, .error (if settings.lockWins then .challengeAlreadyLocked else .challengeNotActive))

/-- Insert a submission row; a taken id raises. -/
def insertSubmission (s : Store) (subId : String) (row : AgentSubmission) : Option Store :=
  (s.agentSubmissions.insertNew subId row).map fun rows => { s with agentSubmissions := rows }

/-- The ranked submission row of a solve. -/
def rankedSubmission (solve : SignedSolve) (score : ℚ) (rank : ℕ) : AgentSubmission where
  minerHotkey := solve.minerHotkey
  satChallengeId := solve.challengeId
  status := .ranked
  rejectionReason := none
  currentScore := score
  seqNo := rank
  submittedAt := solve.submittedAt
  signature := solve.signature

/-- The rejected submission row of a solve. -/
def rejectedSubmission (solve : SignedSolve) (reason : String) : AgentSubmission where
  minerHotkey := solve.minerHotkey
  satChallengeId := solve.challengeId
  status := .rejected
  rejectionReason := some reason
  currentScore := 0
  seqNo := 1
  submittedAt := solve.submittedAt
  signature := solve.signature

/-- `",".join(str(x) for x in assignment)`, hashed. -/
def answerHash (settings : Settings) (assignment : List ℤ) : String :=
  settings.sha256Hex (String.intercalate "," (assignment.map toString))

/-- `sha256_hex(f"{challenge_id}:{sol_sha}")`. -/
def verifierDetailsHash (settings : Settings) (solve : SignedSolve) : String :=
  settings.sha256Hex (solve.challengeId ++ ":" ++ solve.dimacsSolutionSha256)

/-! ## The public lane -/

/-- The public accept transaction. `chal` is the challenge row as read before
the transaction, `solvedAt` the time of the solve and feed rows, and `finish` the
write to the attempts table. -/
def acceptPublic (settings : Settings) (ids : RowIds) (subId : String) (now solvedAt : Millis)
    (solve : SignedSolve) (chal : LaneChallenge) (assignment : List ℤ)
    (finish : ℕ → ℚ → Attempts → Attempts) (s : Store) :
    Option (Store × Except AcceptError (ℕ × ℚ)) :=
  match burnSignature s solve.signature now with
  | (burned, false) => some (burned, .error .replayedSignature)
  | (burned, true) =>
    match takePublicSlot settings solve.pair now solvedAt burned with
    | (gated, .error err) => some (gated, .error err)
    | (gated, .ok rank) =>
      -- `weighted_score_for` is flat
      let score := 1 * chal.scoreMultiplier * settings.publicRowScoreMultiplier
      (insertSubmission gated subId (rankedSubmission solve score rank)).map fun submitted =>
        let emitted := emitRows submitted (buildSolveRows settings ids solve.minerHotkey
          solve.challengeId chal.tier score (answerHash settings assignment)
          (verifierDetailsHash settings solve) solvedAt rank)
        ({ emitted with attempts := finish rank score emitted.attempts }, .ok (rank, score))

/-- `_accept` of `agents_submit`: its own time dates the solve and the feed rows. -/
def acceptPublicSync (settings : Settings) (ids : RowIds) (subId : String) (now : Millis)
    (solve : SignedSolve) (chal : LaneChallenge) (assignment : List ℤ) (s : Store) :
    Option (Store × Except AcceptError (ℕ × ℚ)) :=
  acceptPublic settings ids subId now now solve chal assignment (fun _ _ t => t) s

/-- The submission an attempt row stands for. -/
def Attempt.solve (a : Attempt) : SignedSolve where
  challengeId := a.challengeId
  minerHotkey := a.minerHotkey
  signature := a.signature
  submittedAt := a.submittedAt
  dimacsSolutionSha256 := a.dimacsSolutionSha256
  dimacsSolution := a.solutionBody

/-- `_accept` of `_accept_public_async`: the submission row takes the receipt's
id, and the time of receipt dates the solve and the feed rows. -/
def acceptPublicAsync (settings : Settings) (ids : RowIds) (receiptId : String) (attempt : Attempt)
    (chal : LaneChallenge) (assignment : List ℤ) (now : Millis) (s : Store) :
    Option (Store × Except AcceptError (ℕ × ℚ)) :=
  acceptPublic settings ids receiptId now (attempt.receivedAt.getD now) attempt.solve chal
    assignment (fun rank score t => markRanked t receiptId ids.rowUuid now rank score) s

/-! ## The per-miner lane -/

/-- A per-miner instance as resolved for an attempt. -/
structure PmInstance where
  epoch : ℤ
  tier : ℤ
  seq : ℤ
deriving DecidableEq, Repr

/-- Take the pair's row of `per_miner_solves`. -/
def takePmSlot (pair : String × String) (row : PerMinerSolve) (s : Store) :
    Store × Except AcceptError Unit :=
  match s.perMinerSolves.insertIgnore pair row with
  | (solves, true) => ({ s with perMinerSolves := solves }, .ok ())
  | (_, false) => (s, .error .alreadySolved)

/-- Insert a witness row; a taken pair raises. -/
def insertWitness (s : Store) (pair : String × String) (row : PerMinerWitness) : Option Store :=
  (s.perMinerWitnesses.insertNew pair row).map fun rows => { s with perMinerWitnesses := rows }

/-- The per-miner accept transaction. `receipt` is the write to the attempts
table; its place among the writes of one transaction does not matter. -/
def acceptPm (settings : Settings) (ids : RowIds) (subId : String) (now solvedAt : Millis)
    (solve : SignedSolve) (inst : PmInstance) (assignment : List ℤ)
    (receipt : ℚ → Attempts → Option Attempts) (s : Store) :
    Option (Store × Except AcceptError ℚ) :=
  let weight := settings.weightFor inst.tier
  match burnSignature s solve.signature now with
  | (burned, false) => some (burned, .error .replayedSignature)
  | (burned, true) =>
    match takePmSlot solve.pair
        ⟨inst.epoch, inst.tier, inst.seq, weight, true, solvedAt⟩ burned with
    | (gated, .error err) => some (gated, .error err)
    | (gated, .ok ()) => do
      let submitted ← insertSubmission gated subId (rankedSubmission solve weight 1)
      let attempts ← receipt weight submitted.attempts
      let witnessed ← insertWitness { submitted with attempts := attempts } solve.pair
        ⟨inst.epoch, inst.tier, inst.seq, solve.dimacsSolutionSha256,
          answerHash settings assignment, solve.dimacsSolution, now⟩
      let emitted := emitRows witnessed (buildSolveRows settings ids solve.minerHotkey
        solve.challengeId inst.tier weight (answerHash settings assignment)
        (verifierDetailsHash settings solve) solvedAt 1)
      some (emitted, .ok weight)

/-- The attempts row the request path inserts for its verdict. -/
def inlineAttempt (solve : SignedSolve) (epoch : ℤ) (status : AttemptStatus)
    (reason : Option String) (recordedAt : Millis) : Attempt where
  challengeId := solve.challengeId
  minerHotkey := solve.minerHotkey
  epoch := epoch
  status := status
  rejectionReason := reason
  dimacsSolutionSha256 := solve.dimacsSolutionSha256
  submittedAt := solve.submittedAt
  recordedAt := recordedAt
  signature := solve.signature
  idempotencyKey := none
  receivedAt := none
  verifiedAt := none
  challengeKind := none
  solutionBody := none
  solveRank := none
  weightedScore := none
  evalRunId := none
  attemptCount := 0
  nextAttemptAt := none
  lockedBy := none
  lockedUntil := none
  assignmentIdentity := none
  shadowStatus := none
  shadowRejectionReason := none

/-- `_pm_accept` of `agents_submit`: the receipt row is inserted ranked. -/
def acceptPmSync (settings : Settings) (ids : RowIds) (subId : String) (now : Millis)
    (solve : SignedSolve) (inst : PmInstance) (assignment : List ℤ) (s : Store) :
    Option (Store × Except AcceptError ℚ) :=
  acceptPm settings ids subId now now solve inst assignment
    (fun _ t => t.insertNew subId (inlineAttempt solve inst.epoch .ranked none now)) s

/-- `_accept` of `_accept_pm_async`. -/
def acceptPmAsync (settings : Settings) (ids : RowIds) (receiptId : String) (attempt : Attempt)
    (inst : PmInstance) (assignment : List ℤ) (now : Millis) (s : Store) :
    Option (Store × Except AcceptError ℚ) :=
  acceptPm settings ids receiptId now (attempt.receivedAt.getD now) attempt.solve inst assignment
    (fun weight t => some (markRanked t receiptId ids.rowUuid now 1 weight)) s

/-! ## What a transaction does -/

section Spec

variable {settings : Settings} {ids : RowIds} {subId : String} {now solvedAt : Millis}
variable {solve : SignedSolve} {chal : LaneChallenge} {assignment : List ℤ} {s : Store}

/-- The refusal of a challenge that is not active. -/
def closedError (settings : Settings) : AcceptError :=
  if settings.lockWins then .challengeAlreadyLocked else .challengeNotActive

/-- What taking the slot does to the challenge row. -/
def slotChallenge (settings : Settings) (now : Millis) (chal : LaneChallenge) : LaneChallenge :=
  if settings.lockWins then { chal with status := .locked } else { chal with updatedAt := some now }

/-- The rank a hotkey gets: first-seen, or 1 when `lock_wins` meets its solve row. -/
def slotRank (s : Store) (pair : String × String) : ℕ :=
  match s.laneChallengeSolves.get? pair with
  | some _ => 1
  | none => s.laneChallengeSolves.keys.countP (fun key => key.1 = pair.1) + 1

def ActiveChallenge (s : Store) (challengeId : String) : Prop :=
  ∃ chal, s.laneChallenges.get? challengeId = some chal ∧ chal.status = .active

/-- The feed rows of an accepted public solve. -/
def publicRows (settings : Settings) (ids : RowIds) (solve : SignedSolve) (chal : LaneChallenge)
    (assignment : List ℤ) (score : ℚ) (solvedAt : Millis) (rank : ℕ) : List (String × EvalRun) :=
  buildSolveRows settings ids solve.minerHotkey solve.challengeId chal.tier score
    (answerHash settings assignment) (verifierDetailsHash settings solve) solvedAt rank

def publicScore (settings : Settings) (chal : LaneChallenge) : ℚ :=
  1 * chal.scoreMultiplier * settings.publicRowScoreMultiplier

theorem takePublicSlot_cases (settings : Settings) (pair : String × String)
    (now solvedAt : Millis) (s : Store) :
    (¬ ActiveChallenge s pair.1 ∧
      takePublicSlot settings pair now solvedAt s = (s, .error (closedError settings))) ∨
    (ActiveChallenge s pair.1 ∧ settings.lockWins = false ∧
      (∃ seen, s.laneChallengeSolves.get? pair = some seen) ∧
      takePublicSlot settings pair now solvedAt s =
        ({ s with laneChallenges := s.laneChallenges.modify pair.1 (slotChallenge settings now) },
          .error .alreadySolved)) ∨
    (ActiveChallenge s pair.1 ∧
      (settings.lockWins = true ∨ s.laneChallengeSolves.get? pair = none) ∧
      takePublicSlot settings pair now solvedAt s =
        ({ s with
          laneChallenges := s.laneChallenges.modify pair.1 (slotChallenge settings now)
          laneChallengeSolves := (s.laneChallengeSolves.insertIgnore pair solvedAt).1 },
          .ok (slotRank s pair))) := by
  unfold takePublicSlot
  cases hget : s.laneChallenges.get? pair.1 with
  | none =>
    refine Or.inl ⟨?_, rfl⟩
    rintro ⟨chal, hchal, -⟩
    simp [hget] at hchal
  | some chal =>
    rcases chal with ⟨tier, status, multiplier, cnfText, updatedAt⟩
    by_cases hactive : status = .active
    swap
    · -- locked or retired
      refine Or.inl ⟨?_, ?_⟩
      · rintro ⟨chal, hchal, hstatus⟩
        rw [hget, Option.some.injEq] at hchal
        subst hchal
        exact hactive hstatus
      · cases status
        · exact absurd rfl hactive
        · rfl
        · rfl
    · subst hactive
      have hopen : ActiveChallenge s pair.1 := ⟨_, hget, rfl⟩
      have hcount : ∀ h : s.laneChallengeSolves.get? pair = none,
          (s.laneChallengeSolves.set pair solvedAt).items.countP (fun row => row.1.1 = pair.1) =
            s.laneChallengeSolves.keys.countP (fun key => key.1 = pair.1) + 1 := by
        intro h
        rw [Dict.items_set_of_none solvedAt h, List.countP_append, Dict.keys, List.countP_map]
        simp [Function.comp_def]
      cases hmode : settings.lockWins with
      | true =>
        have hlock : slotChallenge settings now = ({ · with status := .locked }) := by
          funext chal
          simp [slotChallenge, hmode]
        refine Or.inr (Or.inr ⟨hopen, Or.inl rfl, ?_⟩)
        cases hsolve : s.laneChallengeSolves.get? pair with
        | some seen =>
          simp [claimSolve, hsolve, slotRank, hlock, Dict.insertIgnore_of_some hsolve]
        | none => simp [claimSolve, hsolve, slotRank, hlock, Dict.insertIgnore_of_none hsolve,
            hcount hsolve]
      | false =>
        have htouch : slotChallenge settings now = ({ · with updatedAt := some now }) := by
          funext chal
          simp [slotChallenge, hmode]
        cases hsolve : s.laneChallengeSolves.get? pair with
        | some seen =>
          refine Or.inr (Or.inl ⟨hopen, rfl, ⟨seen, rfl⟩, ?_⟩)
          simp [claimSolve, hsolve, htouch]
        | none =>
          refine Or.inr (Or.inr ⟨hopen, Or.inr rfl, ?_⟩)
          simp [claimSolve, hsolve, slotRank, htouch, Dict.insertIgnore_of_none hsolve,
            hcount hsolve]

/-- What the public accept transaction does. -/
inductive PublicAccept (settings : Settings) (ids : RowIds) (subId : String)
    (now solvedAt : Millis) (solve : SignedSolve) (chal : LaneChallenge) (assignment : List ℤ)
    (finish : ℕ → ℚ → Attempts → Attempts) (s : Store) :
    Option (Store × Except AcceptError (ℕ × ℚ)) → Prop where
  | replayed : s.submitSignatures.get? solve.signature ≠ none →
      PublicAccept settings ids subId now solvedAt solve chal assignment finish s
        (some (s, .error .replayedSignature))
  /-- The signature is burned and the challenge is not active. -/
  | closed : s.submitSignatures.get? solve.signature = none →
      ¬ ActiveChallenge s solve.challengeId →
      PublicAccept settings ids subId now solvedAt solve chal assignment finish s
        (some ({ s with submitSignatures := s.submitSignatures.set solve.signature now },
          .error (closedError settings)))
  /-- The signature is burned and the hotkey has solved the challenge before. -/
  | solved : s.submitSignatures.get? solve.signature = none →
      ActiveChallenge s solve.challengeId → settings.lockWins = false →
      s.laneChallengeSolves.get? solve.pair ≠ none →
      PublicAccept settings ids subId now solvedAt solve chal assignment finish s
        (some ({ s with
          submitSignatures := s.submitSignatures.set solve.signature now
          laneChallenges :=
            s.laneChallenges.modify solve.challengeId (slotChallenge settings now) },
          .error .alreadySolved))
  /-- The submission id is taken: an exception. -/
  | raised : s.submitSignatures.get? solve.signature = none →
      s.agentSubmissions.get? subId ≠ none →
      PublicAccept settings ids subId now solvedAt solve chal assignment finish s none
  | ranked : s.submitSignatures.get? solve.signature = none →
      ActiveChallenge s solve.challengeId →
      settings.lockWins = true ∨ s.laneChallengeSolves.get? solve.pair = none →
      s.agentSubmissions.get? subId = none →
      PublicAccept settings ids subId now solvedAt solve chal assignment finish s
        (some ({ s with
          attempts := finish (slotRank s solve.pair) (publicScore settings chal) s.attempts
          submitSignatures := s.submitSignatures.set solve.signature now
          laneChallenges := s.laneChallenges.modify solve.challengeId (slotChallenge settings now)
          laneChallengeSolves := (s.laneChallengeSolves.insertIgnore solve.pair solvedAt).1
          agentSubmissions := s.agentSubmissions.set subId
            (rankedSubmission solve (publicScore settings chal) (slotRank s solve.pair))
          evalRuns := insertRows s.evalRuns (publicRows settings ids solve chal assignment
            (publicScore settings chal) solvedAt (slotRank s solve.pair)) },
          .ok (slotRank s solve.pair, publicScore settings chal)))

theorem acceptPublic_cases (finish : ℕ → ℚ → Attempts → Attempts) :
    PublicAccept settings ids subId now solvedAt solve chal assignment finish s
      (acceptPublic settings ids subId now solvedAt solve chal assignment finish s) := by
  unfold acceptPublic burnSignature
  rcases Dict.insertIgnore_cases s.submitSignatures solve.signature now with
    ⟨seen, hseen, heq⟩ | ⟨hfresh, heq⟩
  · rw [heq]
    exact .replayed (by simp [hseen])
  · simp only [heq]
    rcases takePublicSlot_cases settings solve.pair now solvedAt
        { s with submitSignatures := s.submitSignatures.set solve.signature now } with
      ⟨hclosed, hslot⟩ | ⟨hopen, hmode, ⟨seen, hseen⟩, hslot⟩ | ⟨hopen, hfree, hslot⟩
    · rw [hslot]
      exact .closed hfresh hclosed
    · rw [hslot]
      exact .solved hfresh hopen hmode (by simp [hseen])
    · rw [hslot]
      simp only [insertSubmission]
      cases hsub : s.agentSubmissions.get? subId with
      | some taken =>
        rw [Dict.insertNew, hsub]
        exact .raised hfresh (by simp [hsub])
      | none =>
        rw [Dict.insertNew_of_none hsub]
        exact .ranked hfresh hopen hfree hsub

/-- The per-miner solve row of an instance. -/
def pmSolve (settings : Settings) (inst : PmInstance) (solvedAt : Millis) : PerMinerSolve :=
  ⟨inst.epoch, inst.tier, inst.seq, settings.weightFor inst.tier, true, solvedAt⟩

/-- The witness row of an accepted per-miner solve. -/
def pmWitness (settings : Settings) (solve : SignedSolve) (inst : PmInstance) (assignment : List ℤ)
    (now : Millis) : PerMinerWitness :=
  ⟨inst.epoch, inst.tier, inst.seq, solve.dimacsSolutionSha256, answerHash settings assignment,
    solve.dimacsSolution, now⟩

/-- The feed rows of an accepted per-miner solve. -/
def pmRows (settings : Settings) (ids : RowIds) (solve : SignedSolve) (inst : PmInstance)
    (assignment : List ℤ) (solvedAt : Millis) : List (String × EvalRun) :=
  buildSolveRows settings ids solve.minerHotkey solve.challengeId inst.tier
    (settings.weightFor inst.tier) (answerHash settings assignment)
    (verifierDetailsHash settings solve) solvedAt 1

/-- What the per-miner accept transaction does. -/
inductive PmAccept (settings : Settings) (ids : RowIds) (subId : String) (now solvedAt : Millis)
    (solve : SignedSolve) (inst : PmInstance) (assignment : List ℤ)
    (receipt : ℚ → Attempts → Option Attempts) (s : Store) :
    Option (Store × Except AcceptError ℚ) → Prop where
  | replayed : s.submitSignatures.get? solve.signature ≠ none →
      PmAccept settings ids subId now solvedAt solve inst assignment receipt s
        (some (s, .error .replayedSignature))
  /-- The signature is burned and the hotkey has solved the instance before. -/
  | solved : s.submitSignatures.get? solve.signature = none →
      s.perMinerSolves.get? solve.pair ≠ none →
      PmAccept settings ids subId now solvedAt solve inst assignment receipt s
        (some ({ s with submitSignatures := s.submitSignatures.set solve.signature now },
          .error .alreadySolved))
  /-- One of the inserts meets a taken key: an exception. -/
  | raised : s.submitSignatures.get? solve.signature = none →
      s.perMinerSolves.get? solve.pair = none →
      s.agentSubmissions.get? subId ≠ none ∨
        receipt (settings.weightFor inst.tier) s.attempts = none ∨
        s.perMinerWitnesses.get? solve.pair ≠ none →
      PmAccept settings ids subId now solvedAt solve inst assignment receipt s none
  | ranked {attempts : Attempts} : s.submitSignatures.get? solve.signature = none →
      s.perMinerSolves.get? solve.pair = none →
      s.agentSubmissions.get? subId = none →
      receipt (settings.weightFor inst.tier) s.attempts = some attempts →
      s.perMinerWitnesses.get? solve.pair = none →
      PmAccept settings ids subId now solvedAt solve inst assignment receipt s
        (some ({ s with
          attempts := attempts
          submitSignatures := s.submitSignatures.set solve.signature now
          perMinerSolves := s.perMinerSolves.set solve.pair (pmSolve settings inst solvedAt)
          agentSubmissions := s.agentSubmissions.set subId
            (rankedSubmission solve (settings.weightFor inst.tier) 1)
          perMinerWitnesses := s.perMinerWitnesses.set solve.pair
            (pmWitness settings solve inst assignment now)
          evalRuns := insertRows s.evalRuns
            (pmRows settings ids solve inst assignment solvedAt) },
          .ok (settings.weightFor inst.tier)))

theorem acceptPm_cases {inst : PmInstance} (receipt : ℚ → Attempts → Option Attempts) :
    PmAccept settings ids subId now solvedAt solve inst assignment receipt s
      (acceptPm settings ids subId now solvedAt solve inst assignment receipt s) := by
  unfold acceptPm burnSignature
  rcases Dict.insertIgnore_cases s.submitSignatures solve.signature now with
    ⟨seen, hseen, heq⟩ | ⟨hfresh, heq⟩
  · rw [heq]
    exact .replayed (by simp [hseen])
  · simp only [heq, takePmSlot]
    rcases Dict.insertIgnore_cases s.perMinerSolves solve.pair (pmSolve settings inst solvedAt) with
      ⟨taken, htaken, hslot⟩ | ⟨hfree, hslot⟩
    · simp only [pmSolve] at hslot
      simp only [hslot]
      exact .solved hfresh (by simp [htaken])
    · simp only [pmSolve] at hslot
      simp only [hslot, insertSubmission, insertWitness, bind, Option.bind]
      cases hsub : s.agentSubmissions.get? subId with
      | some row =>
        simp only [Dict.insertNew, hsub, Option.map_none]
        exact .raised hfresh hfree (Or.inl (by simp [hsub]))
      | none =>
        simp only [Dict.insertNew_of_none hsub, Option.map_some]
        cases hreceipt : receipt (settings.weightFor inst.tier) s.attempts with
        | none => exact .raised hfresh hfree (Or.inr (Or.inl hreceipt))
        | some attempts =>
          cases hwitness : s.perMinerWitnesses.get? solve.pair with
          | some row =>
            simp only [Dict.insertNew, hwitness, Option.map_none]
            exact .raised hfresh hfree (Or.inr (Or.inr (by simp [hwitness])))
          | none =>
            simp only [Dict.insertNew_of_none hwitness, Option.map_some]
            exact .ranked hfresh hfree hsub hreceipt hwitness

end Spec

end Cathedral.Publisher
