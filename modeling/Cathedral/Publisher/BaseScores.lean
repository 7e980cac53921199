import Cathedral.Lib.Groups
import Cathedral.Lib.PyFloat
import Cathedral.Publisher.Tables

/-!
# Cathedral.Publisher.BaseScores — base and per-miner scores of the weight vector

The composers of `weights.py` that read work: the proportional, flat and row-score
modes of the shared board, the per-miner window scores, and the two ways per-miner
scores enter the base (`pm_primary`, `bonus`).

Numbers are exact rationals. The rounding `round(x, 6)` is a setting: the identity is
exact arithmetic.
-/

namespace Cathedral.Publisher.Weights

open Groups (insertMember spread)

/-! ## Settings -/

/-- `CATHEDRAL_WEIGHTS_MODE`. -/
inductive BaseMode where
  | flatRecent
  | proportional
  | rowScoreRecent
deriving DecidableEq, Repr

/-- `CATHEDRAL_PERMINER_SCORING_MODE`. -/
inductive PerminerMode where
  | bonus
  | pmPrimary
  | assignedOnly
deriving DecidableEq, Repr

/-- Modes in which per-miner work is the paying lane. -/
def PerminerMode.primary : PerminerMode → Bool
  | .bonus => false
  | .pmPrimary | .assignedOnly => true

/-- The environment variables the base composers read, parsed. -/
structure BaseSettings where
  round6 : ℚ → ℚ
  postgres : Bool
  mode : BaseMode
  rowScoreTaskTypes : List String
  /-- The (tier, weight) pairs of `CATHEDRAL_WEIGHTS_TIER_WEIGHTS`. -/
  tierEntries : List (ℤ × ℚ)
  /-- `CATHEDRAL_WEIGHTS_TIER2_MULT`. -/
  tier2Mult : ℚ
  coldkeyCollapse : Bool
  perminerEnabled : Bool
  perminerShadow : Bool
  perminerMode : PerminerMode
  bonusMult : ℚ
  historyFloor : ℚ

/-! ## Tables -/

/-- A row of `lane_challenge_solves`. -/
structure LaneSolve where
  minerHotkey : String
  challengeId : String
  solvedAt : Millis
deriving DecidableEq, Repr

/-- A row of `lane_challenges`; its key is the challenge id. -/
structure LaneChallenge where
  tier : Option ℤ
  scoreMultiplier : Option ℚ
deriving DecidableEq, Repr

/-- A row of `eval_runs`, with the number under `weighted_score` of its `row_json`. -/
structure EvalRun where
  minerHotkey : String
  taskType : String
  weightedScore : Option PyFloat
  ranAt : Millis
  attested : Bool
deriving DecidableEq, Repr

structure WorkTables where
  laneSolves : List LaneSolve
  laneChallenges : Dict String LaneChallenge
  evalRuns : List EvalRun
  perMinerSolves : Dict (String × String) PerMinerSolve

/-! ## Tiers -/

/-- The digits zero of `\d`, one for each decimal script. -/
def decimalZeros : List ℕ :=
  [0x30, 0x660, 0x6F0, 0x7C0, 0x966, 0x9E6, 0xA66, 0xAE6, 0xB66, 0xBE6, 0xC66, 0xCE6, 0xD66, 0xDE6,
    0xE50, 0xED0, 0xF20, 0x1040, 0x1090, 0x17E0, 0x1810, 0x1946, 0x19D0, 0x1A80, 0x1A90, 0x1B50,
    0x1BB0, 0x1C40, 0x1C50, 0xA620, 0xA8D0, 0xA900, 0xA9D0, 0xA9F0, 0xAA50, 0xABF0, 0xFF10, 0x104A0,
    0x10D30, 0x11066, 0x110F0, 0x11136, 0x111D0, 0x112F0, 0x11450, 0x114D0, 0x11650, 0x116C0,
    0x11730, 0x118E0, 0x11950, 0x11C50, 0x11D50, 0x11DA0, 0x16A60, 0x16AC0, 0x16B50, 0x1D7CE,
    0x1D7D8, 0x1D7E2, 0x1D7EC, 0x1D7F6, 0x1E140, 0x1E2F0, 0x1E950, 0x1FBF0]

def decimalValue? (c : Char) : Option ℕ :=
  (decimalZeros.find? fun zero => zero ≤ c.toNat && c.toNat < zero + 10).map (c.toNat - ·)

/-- The text after `(?:sat|audit|pm)[-_]t`. -/
def afterLane (cid : List Char) : Option (List Char) :=
  ["sat", "audit", "pm"].findSome? fun lane =>
    match cid.dropPrefix? lane.toList with
    | some ('-' :: 't' :: rest) | some ('_' :: 't' :: rest) => some rest
    | _ => none

/-- `tier_from_challenge_id`. `int` refuses more than 4300 digits. -/
def tierFromChallengeId (cid : String) : ℤ :=
  match afterLane cid.toList with
  | none => 1
  | some rest =>
    let digits := (rest.takeWhile fun c => (decimalValue? c).isSome).filterMap decimalValue?
    match rest.dropWhile fun c => (decimalValue? c).isSome with
    | [] | ['\n'] | '-' :: _ | '_' :: _ =>
      if digits = [] ∨ 4300 < digits.length then 1
      else digits.foldl (fun n digit => n * 10 + (digit : ℤ)) 0
    | _ => 1

/-- The pairs that pass `_valid_weight`. -/
def validEntries (s : BaseSettings) : List (ℤ × ℚ) :=
  s.tierEntries.filter fun entry => 0 < entry.1 && 0 < entry.2

/-- `tier_weights`: the valid pairs, or the default with the tier-2 multiplier. -/
def tierWeights (s : BaseSettings) : Dict ℤ ℚ :=
  if validEntries s = [] then Dict.ofList [(1, 1), (2, s.tier2Mult)]
  else Dict.ofList (validEntries s)

/-- `weights_by_tier.get(tier, weights_by_tier.get(1, 1.0))`. -/
def tierWeight (s : BaseSettings) (tier : ℤ) : ℚ :=
  (tierWeights s).getD tier ((tierWeights s).getD 1 1)

/-- The weight of a challenge in the identity composer. -/
def challengeWeight (s : BaseSettings) (cid : String) : ℚ := tierWeight s (tierFromChallengeId cid)

/-! ## Normalisation -/

/-- `max(d.values())`. -/
def top {K : Type} (d : Dict K ℚ) : ℚ := d.values.max?.getD 0

/-- The maximum of a dictionary that is not empty. -/
theorem top_spec {K : Type} {d : Dict K ℚ} (h : d.isEmpty = false) :
    top d ∈ d.values ∧ ∀ v ∈ d.values, v ≤ top d := by
  have hne : d.values ≠ [] := by
    intro hnil
    rw [Dict.values, List.map_eq_nil_iff] at hnil
    simp [Dict.isEmpty, hnil] at h
  obtain ⟨m, hm⟩ := Option.isSome_iff_exists.mp (List.isSome_max?_of_ne_nil hne)
  have htop : top d = m := by rw [top, hm, Option.getD_some]
  rw [htop]
  exact List.max?_eq_some_iff.mp hm

/-- `round((score / top) / len(members), 6)`. -/
def evenPart (s : BaseSettings) (top score : ℚ) (count : ℕ) : ℚ := s.round6 (score / top / count)

/-- The split of scored identities over their hotkeys, empty when nothing is positive. -/
def splitScores (s : BaseSettings) (scores : Dict String ℚ) (members : Dict String (List String)) :
    Dict String ℚ :=
  if scores.isEmpty ∨ top scores ≤ 0 then Dict.empty
  else spread scores members (evenPart s (top scores))

/-- `{hk: round(v / top, 6) for hk, v in d.items()}`, empty when nothing is positive. -/
def topNormalized (s : BaseSettings) (d : Dict String ℚ) : Dict String ℚ :=
  if d.isEmpty ∨ top d ≤ 0 then Dict.empty else d.mapItems fun _ v => s.round6 (v / top d)

/-! ## The proportional mode -/

/-- `COALESCE(c.score_multiplier, 1.0)` of the left join. -/
def scoreMultiplier (t : WorkTables) (cid : String) : ℚ :=
  ((t.laneChallenges.get? cid).bind (·.scoreMultiplier)).getD 1

/-- The distinct (hotkey, challenge) pairs of the window that count. -/
def countedSolves (t : WorkTables) (since : Millis) : List (String × String) :=
  ((t.laneSolves.filter fun solve =>
    since < solve.solvedAt && 0 < scoreMultiplier t solve.challengeId).map fun solve =>
      (solve.minerHotkey, solve.challengeId)).dedup

/-- `challenge_id LIKE '%-t<tier>-%'`, which SQLite matches without case. -/
def likeTier (s : BaseSettings) (tier : ℤ) (cid : String) : Bool :=
  let fold := fun c : Char => if s.postgres then c else c.toLower
  decide (("-t" ++ toString tier ++ "-").toList.map fold <:+: cid.toList.map fold)

/-- The tier expression of the SQL composer. -/
def sqlTier (s : BaseSettings) (t : WorkTables) (cid : String) : ℤ :=
  match (t.laneChallenges.get? cid).bind (·.tier) with
  | some tier => tier
  | none =>
    ((((tierWeights s).keys.filter (· ≠ 1)).insertionSort (· ≤ ·)).find? fun tier =>
      likeTier s tier cid).getD 1

/-- `_compose_proportional_hotkey_sql` up to its normalisation: the positive sums. -/
def sqlUnits (s : BaseSettings) (t : WorkTables) (since : Millis) : Dict String ℚ :=
  ((countedSolves t since).foldl (fun d row => d.add row.1 (tierWeight s (sqlTier s t row.2)))
    Dict.empty).filterItems fun _ units => 0 < units

def composeProportionalHotkeySql (s : BaseSettings) (t : WorkTables) (since : Millis) :
    Dict String ℚ := topNormalized s (sqlUnits s t since)

/-- The dictionaries of the identity composer. -/
structure Tally where
  scores : Dict String ℚ
  seen : Dict String (List String)
  members : Dict String (List String)

def Tally.empty : Tally := ⟨Dict.empty, Dict.empty, Dict.empty⟩

/-- One turn of its loop: a challenge counts once for each identity. -/
def Tally.add (s : BaseSettings) (ident : String → String) (tally : Tally)
    (row : String × String) : Tally :=
  let idk := ident row.1
  if row.2 ∈ tally.seen.getD idk [] then
    { tally with members := insertMember tally.members idk row.1 }
  else
    { scores := tally.scores.add idk (challengeWeight s row.2)
      seen := insertMember tally.seen idk row.2
      members := insertMember tally.members idk row.1 }

def tallySolves (s : BaseSettings) (ident : String → String) (rows : List (String × String)) :
    Tally := rows.foldl (Tally.add s ident) .empty

/-- Exceptions of the composers. A `VectorError` is given without the values its text
quotes. -/
inductive Exc where
  | zeroDivisionError
  | vectorError (reason : String)
deriving DecidableEq, Repr

/-- The proportional branch of `compose_scores`; `none` where it falls through. -/
def composeProportional (s : BaseSettings) (t : WorkTables) (since : Millis)
    (ident : String → String) (useCk : Bool) : Except Exc (Option (Dict String ℚ)) :=
  let sqlBase := composeProportionalHotkeySql s t since
  if ¬ useCk ∧ ¬ sqlBase.isEmpty then .ok (some sqlBase)
  else
    let tally := tallySolves s ident (countedSolves t since)
    if tally.scores.isEmpty then .ok none
    -- `w / top` for each identity
    else if top tally.scores = 0 then .error .zeroDivisionError
    else .ok (some (spread tally.scores tally.members (evenPart s (top tally.scores))))

/-! ## The flat and row-score modes -/

def groupHotkeys (ident : String → String) (hotkeys : List String) : Dict String (List String) :=
  hotkeys.foldl (fun members hk => insertMember members (ident hk) hk) Dict.empty

def composeFlat (s : BaseSettings) (t : WorkTables) (since : Millis) (ident : String → String)
    (useCk : Bool) : Dict String ℚ :=
  let hotkeys := ((t.evalRuns.filter fun run => since < run.ranAt).map (·.minerHotkey)).dedup
  if ¬ useCk then Dict.ofList (hotkeys.map fun hk => (hk, 1))
  else
    let members := groupHotkeys ident hotkeys
    spread (members.mapItems fun _ _ => (1 : ℚ)) members (evenPart s 1)

def positiveRowWeightedScore (run : EvalRun) : Option ℚ :=
  (run.weightedScore.bind PyFloat.finite?).filter (0 < ·)

/-- The rows of `_compose_row_score_recent` that count, with their scores. -/
def scoredRuns (s : BaseSettings) (t : WorkTables) (since : Millis) : List (String × ℚ) :=
  (t.evalRuns.filter fun run =>
    since < run.ranAt && run.attested && run.taskType ∈ s.rowScoreTaskTypes).filterMap fun run =>
      (positiveRowWeightedScore run).map fun score => (run.minerHotkey, score)

def composeRowScoreRecent (s : BaseSettings) (t : WorkTables) (since : Millis)
    (ident : String → String) : Dict String ℚ :=
  let rows := scoredRuns s t since
  splitScores s (rows.foldl (fun d row => d.add (ident row.1) row.2) Dict.empty)
    (groupHotkeys ident (rows.map Prod.fst))

/-- The base of `compose_scores`, before per-miner and external scores. -/
def composeBase (s : BaseSettings) (t : WorkTables) (since : Millis) (ident : String → String)
    (useCk : Bool) : Except Exc (Dict String ℚ) :=
  match s.mode with
  | .rowScoreRecent => .ok (composeRowScoreRecent s t since ident)
  | .flatRecent => .ok (composeFlat s t since ident useCk)
  | .proportional => do
    match ← composeProportional s t since ident useCk with
    | some base => .ok base
    | none => .ok (composeFlat s t since ident useCk)

/-! ## Per-miner scores -/

/-- `SUM(difficulty_weight)` of the verified rows of the window, by hotkey. -/
def perminerTotals (t : WorkTables) (since : Millis) : Dict String ℚ :=
  ((t.perMinerSolves.items.filter fun row =>
      since < row.2.solvedAt && row.2.verified && 0 < row.2.difficultyWeight).foldl
    (fun d row => d.add row.1.2 row.2.difficultyWeight) Dict.empty).filterItems
      fun _ total => 0 < total

/-- `best[ident(hk)] = max(best.get(ident(hk), 0.0), score)` over the items. -/
def bestByIdentity (ident : String → String) (scores : Dict String ℚ) : Dict String ℚ :=
  scores.items.foldl
    (fun d row => d.set (ident row.1) (max (d.getD (ident row.1) 0) row.2)) Dict.empty

def perminerWindowScores (s : BaseSettings) (t : WorkTables) (since : Millis)
    (ident : String → String) : Dict String ℚ :=
  let totals := perminerTotals t since
  splitScores s (bestByIdentity ident totals) (groupHotkeys ident totals.keys)

def perminerComposeScores (s : BaseSettings) (t : WorkTables) (since : Millis)
    (ident : String → String) : Option (Dict String ℚ) :=
  if ¬ s.perminerEnabled then none
  else
    let scores := perminerWindowScores s t since ident
    if s.perminerShadow then none
    else if ¬ scores.isEmpty then some scores
    else if s.perminerMode.primary then some Dict.empty
    else none

/-- `budgeted`: the scores scaled to a sum. -/
def budgeted (scores : Dict String ℚ) (budget : ℚ) : Dict String ℚ :=
  let total := (scores.values.map fun v => max 0 v).sum
  if budget ≤ 0 ∨ total ≤ 0 then Dict.empty
  else scores.mapItems fun _ score => budget * max 0 score / total

def perminerPublicBaseline : ℚ := 0

/-- `combined[hk] = combined.get(hk, 0.0) + score` over the items. -/
def addScores (combined part : Dict String ℚ) : Dict String ℚ :=
  part.items.foldl (fun d row => d.add row.1 row.2) combined

def applyPerminerPrimary (s : BaseSettings) (base pmScores : Dict String ℚ) : Dict String ℚ :=
  topNormalized s
    (addScores (addScores Dict.empty (budgeted base perminerPublicBaseline))
      (budgeted pmScores (1 - perminerPublicBaseline)))

/-- `history_floor + (1 - history_floor) * max(0, min(1, recent))`. -/
def historyMult (s : BaseSettings) (recent : ℚ) : ℚ :=
  s.historyFloor + (1 - s.historyFloor) * max 0 (min 1 recent)

/-- The loop of the bonus without a coldkey map. -/
def bonusByHotkey (s : BaseSettings) (base pmScores : Dict String ℚ) : Dict String ℚ :=
  pmScores.items.foldl (fun combined row =>
    let history := if top base ≤ 0 then 1 else combined.getD row.1 0 / top base
    combined.add row.1 (s.bonusMult * row.2 * historyMult s history)) base

/-- The loop of the bonus over coldkeys. -/
def bonusByColdkey (s : BaseSettings) (mapped : String → String) (base pmScores : Dict String ℚ) :
    Dict String ℚ :=
  let members := groupHotkeys mapped (base.keys ++ pmScores.keys).dedup
  let history := bestByIdentity mapped base
  (bestByIdentity mapped pmScores).items.foldl (fun combined row =>
    let hks := members.getD row.1 []
    let recent := if top history ≤ 0 then 1 else history.getD row.1 0 / top history
    let perHotkey := s.bonusMult * row.2 * historyMult s recent / hks.length
    hks.foldl (fun combined hk => combined.add hk perHotkey) combined) base

def perminerScores (s : BaseSettings) (t : WorkTables) (since : Millis) : Dict String ℚ :=
  if ¬ s.perminerEnabled ∨ s.perminerShadow then Dict.empty
  else perminerWindowScores s t since id

def applyPerminerBonus (s : BaseSettings) (t : WorkTables) (since : Millis)
    (coldkeyOf : Dict String String) (base : Dict String ℚ) : Dict String ℚ :=
  let pmScores := perminerScores s t since
  if s.bonusMult ≤ 0 ∨ pmScores.isEmpty then base
  else
    topNormalized s
      (if coldkeyOf.isEmpty then bonusByHotkey s base pmScores
      else bonusByColdkey s (fun hk => coldkeyOf.getD hk hk) base pmScores)

/-! ## The work part of `compose_scores` -/

/-- `use_ck`. -/
def useColdkeys (s : BaseSettings) (coldkeyOf : Dict String String) : Bool :=
  s.coldkeyCollapse && !coldkeyOf.isEmpty

/-- `ident`. -/
def identOf (s : BaseSettings) (coldkeyOf : Dict String String) (hk : String) : String :=
  if useColdkeys s coldkeyOf then coldkeyOf.getD hk hk else hk

/-- `pm_ident`. -/
def pmIdentOf (s : BaseSettings) (coldkeyOf : Dict String String) (hk : String) : String :=
  if coldkeyOf.isEmpty then identOf s coldkeyOf hk else coldkeyOf.getD hk hk

/-- What `compose_scores` hands to the external step. -/
def composeWork (s : BaseSettings) (t : WorkTables) (since : Millis)
    (coldkeyOf : Dict String String) : Except Exc (Dict String ℚ) :=
  let pmScores := perminerComposeScores s t since (pmIdentOf s coldkeyOf)
  match pmScores, s.perminerMode with
  | some pm, .assignedOnly => .ok pm
  | _, _ => do
    let base ← composeBase s t since (identOf s coldkeyOf) (useColdkeys s coldkeyOf)
    match pmScores, s.perminerMode with
    | some pm, .pmPrimary => .ok (applyPerminerPrimary s base pm)
    | _, _ => .ok (applyPerminerBonus s t since coldkeyOf base)

end Cathedral.Publisher.Weights
