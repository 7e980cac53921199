import Mathlib.Data.Rat.Defs
import Cathedral.Lib.Table

/-!
# Cathedral.Publisher.Tables — the submit ledger's tables

The tables a solve submission reads and writes, as keyed tables of rows, and
the deployment's settings. Timestamps are written by one function with
millisecond precision and a four-digit year, so comparing their texts compares
them as counts of milliseconds; `Millis` is that count. Scores are exact
rationals.

Row columns that no submission path reads or writes are left out, as are the
signatures over emitted rows, which are functions of the rows.
-/

namespace Cathedral.Publisher

/-- A timestamp, in milliseconds. -/
abbrev Millis : Type := ℤ

/-! ## Rows -/

/-- `per_miner_attempts.status`. -/
inductive AttemptStatus where
  | pending
  | verifying
  | ranked
  | rejected
  | failedRetryable
deriving DecidableEq, Repr

/-- `_TERMINAL_STATES`. -/
def AttemptStatus.terminal : AttemptStatus → Bool
  | .ranked | .rejected => true
  | _ => false

inductive ChallengeKind where
  | kindUnknown
  | kindPublic
  | kindPerMiner
  | kindPerMinerShadow
deriving DecidableEq, Repr

/-- A row of `per_miner_attempts`; its key is the receipt id. -/
structure Attempt where
  challengeId : String
  minerHotkey : String
  epoch : ℤ
  status : AttemptStatus
  rejectionReason : Option String
  dimacsSolutionSha256 : String
  submittedAt : String
  recordedAt : Millis
  signature : String
  idempotencyKey : Option String
  receivedAt : Option Millis
  verifiedAt : Option Millis
  challengeKind : Option ChallengeKind
  solutionBody : Option String
  solveRank : Option ℕ
  weightedScore : Option ℚ
  evalRunId : Option String
  attemptCount : ℕ
  nextAttemptAt : Option Millis
  lockedBy : Option String
  lockedUntil : Option Millis
  assignmentIdentity : Option String
  shadowStatus : Option AttemptStatus
  shadowRejectionReason : Option String
deriving DecidableEq, Repr

/-- `challenge_kind != 'per_miner_shadow'`, where a missing kind counts. -/
def Attempt.live (a : Attempt) : Bool := a.challengeKind != some .kindPerMinerShadow

/-- `lane_challenges.status`. -/
inductive ChallengeStatus where
  | active
  | locked
  | retired
deriving DecidableEq, Repr

/-- A row of `lane_challenges`. -/
structure LaneChallenge where
  tier : ℤ
  status : ChallengeStatus
  scoreMultiplier : ℚ
  cnfText : String
  updatedAt : Option Millis
deriving DecidableEq, Repr

/-- `agent_submissions.status`. -/
inductive SubmissionStatus where
  | ranked
  | rejected
deriving DecidableEq, Repr

/-- A row of `agent_submissions`. -/
structure AgentSubmission where
  minerHotkey : String
  satChallengeId : String
  status : SubmissionStatus
  rejectionReason : Option String
  currentScore : ℚ
  seqNo : ℕ
  submittedAt : String
  signature : String
deriving DecidableEq, Repr

/-- A row of `per_miner_solves`. -/
structure PerMinerSolve where
  epoch : ℤ
  tier : ℤ
  seq : ℤ
  difficultyWeight : ℚ
  verified : Bool
  solvedAt : Millis
deriving DecidableEq, Repr

/-- A row of `per_miner_witnesses`. -/
structure PerMinerWitness where
  epoch : ℤ
  tier : ℤ
  seq : ℤ
  dimacsSolutionSha256 : String
  answerHash : String
  dimacsSolution : Option String
  recordedAt : Millis
deriving DecidableEq, Repr

/-- What the version 6 row adds to the version 5 row. -/
structure SolveExtension where
  challengeValue : ℚ
  solveRank : ℕ
  solved : Bool
  operator : String
deriving DecidableEq, Repr

/-- A row of `eval_runs` as `build_solve_rows` makes it. -/
structure EvalRun where
  ranAt : Millis
  schemaVersion : ℕ
  minerHotkey : String
  agentId : String
  taskIdPublic : String
  epochSalt : String
  difficultyTier : ℤ
  weightedScore : ℚ
  answerHash : String
  verifierDetailsHash : String
  rejectionReason : Option String
  extension : Option SolveExtension
deriving DecidableEq, Repr

/-- The tables. Pairs are `(challenge_id, miner_hotkey)`. -/
structure Store where
  attempts : Dict String Attempt
  submitSignatures : Dict String Millis
  laneChallenges : Dict String LaneChallenge
  laneChallengeSolves : Dict (String × String) Millis
  perMinerSolves : Dict (String × String) PerMinerSolve
  agentSubmissions : Dict String AgentSubmission
  perMinerWitnesses : Dict (String × String) PerMinerWitness
  evalRuns : Dict String EvalRun

def Store.empty : Store where
  attempts := Dict.empty
  submitSignatures := Dict.empty
  laneChallenges := Dict.empty
  laneChallengeSolves := Dict.empty
  perMinerSolves := Dict.empty
  agentSubmissions := Dict.empty
  perMinerWitnesses := Dict.empty
  evalRuns := Dict.empty

/-! ## Settings and checks -/

/-- Why `verify_dimacs_solution` refuses a solution. -/
inductive SolutionFault where
  | missing
  | nonIntegerLiteral
  | missingStatus
  | statusUnsatisfiable
  | unknownStatus
  | variableOutOfRange
  | contradictoryAssignment
  | incompleteAssignment
  | unsatisfied
deriving DecidableEq, Repr

/-- `rejection_reason` of a `SolveCheck`. -/
def SolutionFault.reason : SolutionFault → String
  | .missing => "answer_missing_dimacs_solution"
  | .nonIntegerLiteral => "solution_non_integer_literal"
  | .missingStatus => "solution_missing_status"
  | .statusUnsatisfiable => "solution_status_unsatisfiable"
  | .unknownStatus => "solution_unknown_status"
  | .variableOutOfRange => "solution_variable_out_of_range"
  | .contradictoryAssignment => "solution_contradictory_assignment"
  | .incompleteAssignment => "solution_incomplete_assignment"
  | .unsatisfied => "solution_unsatisfied"

/-- A `SolveCheck`: the witness, or why there is none. -/
abbrev SolveCheck : Type := Except SolutionFault (List ℤ)

/-- The deterministic checks both submit paths call: the DIMACS verifier (which
may raise on a malformed CNF), and the per-miner instances of an assignment
identity with their ownership check. -/
structure Checks where
  verifyDimacsSolution : (cnfText dimacsSolution : String) → Option SolveCheck
  resolveTierSeqFor : (identity : String) → (epoch : ℤ) → (challengeId : String) → Option (ℤ × ℤ)
  getMinerCnf : (identity : String) → (epoch tier seq : ℤ) → Option String
  witnessCheck : (identity : String) → (epoch tier seq : ℤ) → List ℤ → Bool
  instanceId : (identity : String) → (epoch tier seq : ℤ) → String

structure Settings where
  sha256Hex : String → String
  /-- `submit_mode() == "lock_wins"`. -/
  lockWins : Bool
  publicRowScoreMultiplier : ℚ
  epochSalt : String
  /-- `per_miner.weight_for`. -/
  weightFor : ℤ → ℚ
  /-- `store.backend == "postgres"`. -/
  postgres : Bool

end Cathedral.Publisher
