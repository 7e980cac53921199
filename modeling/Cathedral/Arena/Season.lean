import Cathedral.Arena.Engine
import Cathedral.Arena.Reward
import Cathedral.Lanes.ArenaCredit

/-!
# Cathedral.Arena.Season — rounds folded into a season

`game/arena/season.py`, what it reads of the round that `ArenaEngine._assemble` composes, and
the checks of `verify_season`. Floats are exact but for the roundings the code writes.
-/

namespace Cathedral.Arena

/-! ## A round -/

structure Target where
  netuid : ℤ
  name : String
  severity : ℕ
deriving DecidableEq

/-- One graded agent of a round, as `_record_agent` is given it. -/
structure AgentResult where
  agentId : String
  hotkey : String
  coldkey : String
  target : Target
  challengeId : String
  tier : ℤ
  bounty : Bool
  wallMs : PyFloat
  gates : GateOutcome

/-- `weight_for`, where the environment sets none. -/
def weightFor (tier : ℤ) : ℚ := if tier = 2 then 2 else 1

/-- `TIER_REFERENCE_MS.get(tier, 500.0)`. -/
def referenceMs (tier : ℤ) : ℚ := if tier = 2 then 700 else 500

/-- The credit of a graded agent; what it says about a failed gate is no part of a season. -/
def AgentResult.credit (a : AgentResult) : SolveCredit :=
  { hotkey := a.hotkey, challengeId := a.challengeId, tier := a.tier
    verified := a.gates.passed, attestGate := true
    tierWeight := weightFor a.tier * if a.bounty then 13 / 10 else 1
    speed := Lanes.SolverArena.speedBonus a.wallMs (.finite (referenceMs a.tier)) }

def AgentResult.miner (a : AgentResult) : Miner :=
  { hotkey := a.hotkey, coldkey := a.coldkey, archetype := a.agentId
    live := a.gates.validIdentity }

/-- `round(x, 1)`. -/
def round1 (x : ℚ) : ℚ := Thin.roundHalfEven (x * 10) / 10

def roundEmissionPool : ℚ := 1000

def provenanceMult : Grade → ℚ
  | .a => 1
  | .b => 17 / 20
  | .bMinus => 7 / 10
  | .c => 1 / 2
  | .f => 0

def targetBounty (t : Target) : ℚ := round1 (60 * t.severity)

/-- The `TargetState` of a target, as far as a season reads it. -/
structure TargetState where
  agents : List String := []
  verifiedProofs : ℕ := 0
deriving DecidableEq

/-- The `ArenaResult` of a round, as far as a season reads it. -/
structure ArenaResult where
  season : String
  roundNo : ℤ
  targets : List Target
  targetState : Dict ℤ TargetState
  agents : List AgentResult
  emissions : Dict String ℚ

/-- What `_record_agent` does to the state of its target. -/
def recordAgent (states : Dict ℤ TargetState) (a : AgentResult) : Dict ℤ TargetState :=
  states.modify a.target.netuid fun st =>
    { agents := st.agents ++ [a.agentId]
      verifiedProofs := if a.gates.passed then st.verifiedProofs + 1 else st.verifiedProofs }

def roundWeights (agents : List AgentResult) : Dict String ℚ :=
  (compose Lanes.SolverArena.round6 (agents.map AgentResult.miner) (agents.map AgentResult.credit)).mapItems
    fun _ r => r.weight

def emission (weights : Dict String ℚ) (a : AgentResult) : ℚ :=
  if a.gates.passed then
    round1 (weights.getD a.hotkey 0 * roundEmissionPool * provenanceMult a.gates.provenanceGrade +
      targetBounty a.target)
  else 0

/-- `_assemble`, after the agents are recorded. -/
def assembleRound (season : String) (roundNo : ℤ) (targets : List Target) (agents : List AgentResult) :
    ArenaResult :=
  { season := season, roundNo := roundNo, targets := targets
    targetState := agents.foldl recordAgent (Dict.ofList (targets.map fun t => (t.netuid, {})))
    agents := agents
    emissions := Dict.ofList (agents.map fun a => (a.hotkey, emission (roundWeights agents) a)) }

/-! ## The season -/

structure AgentSeason where
  agentId : String
  hotkey : String
  totalEmissions : ℚ := 0
  breaches : ℤ := 0
  roundsPlayed : ℤ := 0
  roundsVerified : ℤ := 0
  streak : ℤ := 0
  bestStreak : ℤ := 0
  lastPosition : ℤ := -1
deriving DecidableEq

structure TargetSeason where
  netuid : ℤ
  name : String := ""
  breaches : ℤ := 0
  attempts : ℤ := 0
  firstBrokenRound : Option ℤ := none
deriving DecidableEq

structure SeasonState where
  season : String := "S1"
  rounds : ℤ := 0
  agents : Dict String AgentSeason := Dict.empty
  targets : Dict ℤ TargetSeason := Dict.empty
deriving DecidableEq

/-- The sort key of the leaderboard. -/
def standing (s : AgentSeason) : ℚ ×ₗ ℤ ×ₗ String :=
  toLex (-s.totalEmissions, toLex (-s.bestStreak, s.agentId))

def SeasonState.leaderboard (s : SeasonState) : List AgentSeason :=
  s.agents.values.insertionSort fun a b => standing a ≤ standing b

/-- The positions before the round. -/
def SeasonState.positions (s : SeasonState) : Dict String ℤ :=
  Dict.ofList (s.leaderboard.zipIdx.map fun entry => (entry.1.hotkey, (entry.2 : ℤ)))

/-- The step of `update` for one target. -/
def conquer (result : ArenaResult) (targets : Dict ℤ TargetSeason) (t : Target) :
    Dict ℤ TargetSeason :=
  let ts := targets.getD t.netuid { netuid := t.netuid, name := t.name }
  match result.targetState.get? t.netuid with
  | none => targets.set t.netuid ts
  | some st =>
    let ts := { ts with attempts := ts.attempts + st.agents.length }
    if 0 < st.verifiedProofs then
      targets.set t.netuid { ts with
        breaches := ts.breaches + st.verifiedProofs
        firstBrokenRound := ts.firstBrokenRound.or (some result.roundNo) }
    else targets.set t.netuid ts

/-- What a round makes of the record of one agent. -/
def played (result : ArenaResult) (positions : Dict String ℤ) (st : AgentSeason)
    (a : AgentResult) : AgentSeason :=
  let st := { st with
    roundsPlayed := st.roundsPlayed + 1
    totalEmissions := round1 (st.totalEmissions + result.emissions.getD a.hotkey 0)
    lastPosition := positions.getD a.hotkey (-1) }
  if a.gates.passed then
    { st with
      roundsVerified := st.roundsVerified + 1
      breaches := st.breaches + 1
      streak := st.streak + 1
      bestStreak := max st.bestStreak (st.streak + 1) }
  else { st with streak := 0 }

/-- The step of `update` for one agent. -/
def playAgent (result : ArenaResult) (positions : Dict String ℤ)
    (agents : Dict String AgentSeason) (a : AgentResult) : Dict String AgentSeason :=
  agents.set a.hotkey (played result positions
    (agents.getD a.hotkey { agentId := a.agentId, hotkey := a.hotkey }) a)

def SeasonState.update (s : SeasonState) (result : ArenaResult) : SeasonState :=
  { season := result.season
    rounds := max s.rounds result.roundNo
    targets := result.targets.foldl (conquer result) s.targets
    agents := result.agents.foldl (playAgent result s.positions) s.agents }

/-! ## Persistence -/

/-- The document of `save`: the keys of an object are texts. -/
structure SavedSeason where
  season : String
  rounds : ℤ
  agents : Dict String AgentSeason
  targets : Dict (List Char) TargetSeason

/-- The file format: `json.dumps` of a document and `json.loads`, which reads it back. -/
structure SeasonCodec (Text : Type) where
  dumps : SavedSeason → Text
  loads : Text → Option SavedSeason
  loads_dumps : ∀ d, loads (dumps d) = some d

section Persistence

variable {Text : Type} (codec : SeasonCodec Text)

def SeasonState.save (s : SeasonState) : Text :=
  codec.dumps
    { season := s.season, rounds := s.rounds, agents := s.agents
      targets := Dict.ofList (s.targets.items.map fun row => (Json.intNumeral row.1, row.2)) }

/-- `load`: an absent file and one that is no JSON give a new season, and the round count is at
least that of any agent. -/
def SeasonState.load (file : Option Text) : SeasonState :=
  match file.bind codec.loads with
  | none => {}
  | some d =>
    { season := d.season
      rounds := d.agents.values.foldl (fun rounds a => max rounds a.roundsPlayed) d.rounds
      agents := Dict.ofList d.agents.items
      targets := Dict.ofList (d.targets.items.map fun row => (Json.readInt row.1, row.2)) }

end Persistence

/-! ## The audit -/

inductive SeasonViolation where
  | negativeEmissions (hk : String) (totalEmissions : ℚ)
  | negativeCounter (hk : String)
  | roundsPlayed (hk : String) (roundsPlayed rounds : ℤ)
  | roundsVerified (hk : String) (roundsVerified roundsPlayed : ℤ)
  | breaches (hk : String) (breaches roundsPlayed : ℤ)
  | streak (hk : String) (streak bestStreak : ℤ)
  | bestStreak (hk : String) (bestStreak roundsPlayed : ℤ)
  | earned (hk : String) (totalEmissions : ℚ)
  | negativeBreaches (netuid : ℤ)
  | firstBrokenRound (netuid firstBrokenRound rounds : ℤ)
deriving DecidableEq

/-- The violations whose condition holds. -/
def violated (checks : List (Bool × SeasonViolation)) : List SeasonViolation :=
  checks.filterMap fun check => if check.1 then some check.2 else none

def verifyAgent (rounds : ℤ) (hk : String) (s : AgentSeason) : List SeasonViolation :=
  violated
    [(s.totalEmissions < 0, .negativeEmissions hk s.totalEmissions),
      (min s.breaches (min s.roundsPlayed (min s.roundsVerified (min s.streak s.bestStreak))) < 0,
        .negativeCounter hk),
      (s.roundsPlayed > rounds, .roundsPlayed hk s.roundsPlayed rounds),
      (s.roundsVerified > s.roundsPlayed, .roundsVerified hk s.roundsVerified s.roundsPlayed),
      (s.breaches > s.roundsPlayed, .breaches hk s.breaches s.roundsPlayed),
      (s.streak > s.bestStreak, .streak hk s.streak s.bestStreak),
      (s.bestStreak > s.roundsPlayed, .bestStreak hk s.bestStreak s.roundsPlayed),
      (0 < s.totalEmissions ∧ s.breaches = 0, .earned hk s.totalEmissions)]

def verifyTarget (rounds n : ℤ) (t : TargetSeason) : List SeasonViolation :=
  violated
    [(t.breaches < 0, .negativeBreaches n),
      (t.firstBrokenRound.any fun r => ¬ (1 ≤ r ∧ r ≤ rounds),
        .firstBrokenRound n (t.firstBrokenRound.getD 0) rounds)]

/-- The violations of `verify_season`. -/
def verifySeason (s : SeasonState) : List SeasonViolation :=
  (s.agents.items.flatMap fun row => verifyAgent s.rounds row.1 row.2) ++
    s.targets.items.flatMap fun row => verifyTarget s.rounds row.1 row.2

end Cathedral.Arena
