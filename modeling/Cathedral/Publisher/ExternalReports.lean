import Mathlib.Data.List.DropRight
import Mathlib.Data.List.MinMax
import Cathedral.Lib.Json
import Cathedral.Publisher.Tables
import Cathedral.Thin.Core

/-!
# Cathedral.Publisher.ExternalReports — the intake of external scores

The functions of `external_scores.py` between a posted report and the blend:
`normalizeReport` checks a report and gives it a digest and an id, `storeReport`
admits it under the epoch fence of its source or audience, and
`latestSnapshotScores` reads the newest complete one.

A payload holds the values the checks convert from JSON; a value of another type is
refused under the reason of its field. Instants are microseconds, stored ones
milliseconds as in the ISO texts. The digest of the canonical text is a parameter.
-/

namespace Cathedral.Publisher.ExternalReports

/-- A JSON document kept as it came. -/
abbrev Document : Type := Json PyFloat

/-! ## Texts -/

/-- `str.isspace` of one character. -/
def isPySpace (c : Char) : Bool :=
  let n := c.toNat
  (0x09 ≤ n && n ≤ 0x0D) || (0x1C ≤ n && n ≤ 0x20) || n = 0x85 || n = 0xA0 || n = 0x1680 ||
    (0x2000 ≤ n && n ≤ 0x200A) || n = 0x2028 || n = 0x2029 || n = 0x202F || n = 0x205F ||
    n = 0x3000

def strip (text : String) : String :=
  String.ofList ((text.toList.dropWhile isPySpace).rdropWhile isPySpace)

/-- `value or other` for a text that may be missing. -/
def textOr (value other : Option String) : Option String :=
  match value with
  | some text => if text = "" then other else some text
  | none => other

/-! ## Settings -/

def defaultSource : String := "violet_audio"

def completeRequiredSources : List String := ["cathedral_confidential_tdx"]

def audienceRequiredSources : List String := ["cathedral_confidential_tdx"]

def maxNetuid : ℕ := 2 ^ 16 - 1

/-- The environment variables of one call, and the digest of the canonical text. -/
structure ScoreEnv (Content : Type) where
  policyNetwork : Option String
  policyNetuid : Option String
  maxReportAgeSecs : ℚ
  maxReportFutureSecs : ℚ
  maxScores : ℕ
  contentDigest : Content → String

/-- A network name of `configured_score_audience`: visible ASCII only. -/
def validNetwork (network : String) : Bool :=
  network ≠ "" && network.length ≤ 128 && strip network = network &&
    network.toList.all fun c => 0x21 ≤ c.toNat && c.toNat ≤ 0x7E

/-- `[0-9]{1,5}`. -/
def netuidDigits (raw : String) : Bool :=
  raw ≠ "" && raw.length ≤ 5 && raw.toList.all Char.isDigit

def configuredScoreAudience {Content : Type} (env : ScoreEnv Content) (source : String) :
    Except String (Option (String × ℤ)) :=
  if source ∉ audienceRequiredSources then .ok none
  else
    match env.policyNetwork, env.policyNetuid with
    | some network, some netuidRaw =>
      if ¬ validNetwork network ∨ ¬ netuidDigits netuidRaw then
        .error "score_audience_not_configured"
      else
        let netuid := Nat.ofDigitChars 10 netuidRaw.toList 0
        if maxNetuid < netuid then .error "score_audience_not_configured"
        else .ok (some (network, netuid))
    | _, _ => .error "score_audience_not_configured"

/-! ## Reports -/

/-- One element of the posted score list. -/
structure RawScore where
  minerHotkey : Option String
  hotkey : Option String
  uid : Option ℤ
  score : Option PyFloat
  quality : Option PyFloat
  latency : Option PyFloat
  validity : Option PyFloat
  confidence : Option PyFloat
  tasksScored : Option ℤ
  metaJson : Document

/-- A posted report. -/
structure Payload where
  source : Option String
  mechanism : Option String
  epoch : ℤ
  complete : Option Bool
  network : Option String
  netuid : Option ℤ
  generatedAt : ℤ
  scores : List RawScore
  metadata : Document
  reportId : Option String

structure Score where
  minerHotkey : String
  uid : Option ℤ
  score : ℚ
  quality : Option ℚ
  latency : Option ℚ
  validity : Option ℚ
  tasksScored : ℤ
  confidence : Option ℚ
  metaJson : Document
deriving DecidableEq

/-- What the digest covers. -/
structure Content where
  source : String
  mechanism : String
  epoch : ℤ
  complete : Option Bool
  network : Option String
  netuid : Option ℤ
  generatedAt : Millis
  scores : List Score
  metadata : Document
deriving DecidableEq

/-- A normalised report, with the digest of the body it came in once that is bound. -/
structure Report extends Content where
  reportSha256 : String
  reportId : String
  bodySha256 : Option String
deriving DecidableEq

/-- `_source`: a label of `[A-Za-z0-9_.:-]{1,64}`. -/
def sourceLabel (value : Option String) : Except String String :=
  let source := strip ((textOr value none).getD defaultSource)
  if 1 ≤ source.length ∧ source.length ≤ 64 ∧
      source.toList.all (fun c => c.isAlphanum || c ∈ ['_', '.', ':', '-']) then .ok source
  else .error "invalid_source"

def reportAudience (env : ScoreEnv Content) (payload : Payload) (source : String) :
    Except String (Option String × Option ℤ) := do
  match ← configuredScoreAudience env source with
  | some expected =>
    match payload.network, payload.netuid with
    | some network, some netuid =>
      if (network, netuid) ≠ expected then .error "score_audience_mismatch"
      else .ok (some network, some netuid)
    | _, _ => .error "invalid_score_audience"
  | none =>
    if payload.network.any fun network => strip network = "" then .error "invalid_network"
    else .ok (payload.network.map strip, payload.netuid)

/-- `round(x, 9)`. -/
def round9 (x : ℚ) : ℚ := Thin.roundHalfEven (x * 10 ^ 9) / 10 ^ 9

/-- `_float_01` of a field that may be missing, rounded. -/
def float01 (field : String) : Option PyFloat → Except String (Option ℚ)
  | none => .ok none
  | some (.finite x) =>
    if x < 0 ∨ 1 < x then .error ("invalid_" ++ field) else .ok (some (round9 x))
  | some _ => .error ("invalid_" ++ field)

/-- `_float_01` of a required field, rounded. -/
def requiredFloat01 (field : String) (value : Option PyFloat) : Except String ℚ := do
  match ← float01 field value with
  | some x => .ok x
  | none => .error ("missing_" ++ field)

def intNonnegative (field : String) (value : ℤ) : Except String ℤ :=
  if value < 0 then .error ("invalid_" ++ field) else .ok value

/-- The field `name` of the score at an index, as the reasons name it. -/
def fieldAt (name : String) (idx : ℕ) : String := name ++ "_" ++ toString idx

/-- One turn of the loop over the scores. -/
def normalizeScore (idx : ℕ) (seen : List String) (raw : RawScore) : Except String Score := do
  let hotkey := strip ((textOr raw.minerHotkey raw.hotkey).getD "")
  if hotkey = "" ∨ 128 < hotkey.length then .error (fieldAt "invalid_hotkey" idx)
  else if hotkey ∈ seen then .error (fieldAt "duplicate_hotkey" idx)
  else
    let uid ← raw.uid.mapM (intNonnegative (fieldAt "uid" idx))
    let score ← requiredFloat01 (fieldAt "score" idx) raw.score
    let quality ← float01 (fieldAt "quality" idx) raw.quality
    let latency ← float01 (fieldAt "latency" idx) raw.latency
    let validity ← float01 (fieldAt "validity" idx) raw.validity
    let confidence ← float01 (fieldAt "confidence" idx) raw.confidence
    let tasksScored ← intNonnegative (fieldAt "tasks_scored" idx) (raw.tasksScored.getD 0)
    .ok ⟨hotkey, uid, score, quality, latency, validity, tasksScored, confidence, raw.metaJson⟩

/-- The loop over the scores. -/
def normalizeScores : ℕ → List String → List RawScore → Except String (List Score)
  | _, _, [] => .ok []
  | idx, seen, raw :: rest => do
    let score ← normalizeScore idx seen raw
    let scores ← normalizeScores (idx + 1) (score.minerHotkey :: seen) rest
    .ok (score :: scores)

def checkScoreCount (env : ScoreEnv Content) (payload : Payload) : Except String Unit :=
  if payload.scores = [] ∧ payload.complete ≠ some true then .error "missing_scores"
  else if env.maxScores < payload.scores.length then .error "too_many_scores"
  else .ok ()

/-- The digest and the id that end `_normalize_report`. The payload may bring its own id. -/
def finishReport (env : ScoreEnv Content) (content : Content) (reportId : Option String) :
    Report :=
  let digest := env.contentDigest content
  { content with
    reportSha256 := digest
    reportId := (textOr reportId none).getD ("ext-" ++ String.ofList (digest.toList.take 32))
    bodySha256 := none }

/-- The freshness of `generated_at`. -/
def checkFreshness (env : ScoreEnv Content) (generatedAt : Millis) (now : ℤ) :
    Except String Unit :=
  let age : ℚ := (now - generatedAt * 1000 : ℤ) / 10 ^ 6
  if env.maxReportAgeSecs < age then .error "report_too_old"
  else if age < -env.maxReportFutureSecs then .error "report_in_future"
  else .ok ()

def normalizeReport (env : ScoreEnv Content) (payload : Payload) (now : ℤ) :
    Except String Report := do
  let source ← sourceLabel (textOr payload.source payload.mechanism)
  let generatedAt : Millis := payload.generatedAt / 1000
  let (network, netuid) ← reportAudience env payload source
  checkFreshness env generatedAt now
  if payload.complete ≠ some true ∧ source ∈ completeRequiredSources then
    .error "complete_required_for_source"
  else
    checkScoreCount env payload
    let scores ← normalizeScores 0 [] payload.scores
    .ok (finishReport env
      { source, epoch := payload.epoch, complete := payload.complete, network, netuid,
        generatedAt, scores, metadata := payload.metadata
        mechanism := (textOr payload.mechanism none).getD source } payload.reportId)

/-- `bind_authenticated_body`, with the digest of the body. -/
def bindAuthenticatedBody (report : Report) (bodySha256 : String) : Report :=
  { report with bodySha256 := some bodySha256 }

/-! ## Tables -/

/-- A row of `external_score_reports`; its key is the report id. -/
structure ReportRow where
  source : String
  network : Option String
  netuid : Option ℤ
  epoch : ℤ
  generatedAt : Millis
  receivedAt : Millis
  reportSha256 : String
  scoreCount : ℕ
  /-- The report that `report_json` renders. -/
  reportJson : Report
deriving DecidableEq

/-- A row of `external_score_entries`; its key is the report id and the hotkey. -/
structure EntryRow where
  source : String
  epoch : ℤ
  uid : Option ℤ
  score : PyFloat
  quality : Option ℚ
  latency : Option ℚ
  validity : Option ℚ
  tasksScored : ℤ
  confidence : Option ℚ
  generatedAt : Millis
  receivedAt : Millis
  metaJson : Document
deriving DecidableEq

structure ScoreTables where
  reports : Dict String ReportRow
  entries : Dict (String × String) EntryRow
deriving DecidableEq

def ScoreTables.empty : ScoreTables := ⟨Dict.empty, Dict.empty⟩

/-! ## The epoch fence -/

/-- `WHERE source=?`, with `AND network=? AND netuid=?` where an audience is required. -/
def ofAudience (source : String) (audience : Option (String × ℤ)) (row : ReportRow) : Bool :=
  row.source = source && audience.all fun a => row.network = some a.1 && row.netuid = some a.2

/-- `ORDER BY epoch DESC LIMIT 1` over the reports of a source or audience. -/
def latestReport (t : ScoreTables) (source : String) (audience : Option (String × ℤ)) :
    Option (String × ReportRow) :=
  -- the order of the integers by name: the one of their conditionally complete lattice does
  -- not compute
  letI : Preorder ℤ := Int.instLinearOrder.toPreorder
  (t.reports.items.filter fun row => ofAudience source audience row.2).argmax fun row => row.2.epoch

/-- The row `_write` inserts. -/
def Report.row (report : Report) (receivedAt : Millis) : ReportRow where
  source := report.source
  network := report.network
  netuid := report.netuid
  epoch := report.epoch
  generatedAt := report.generatedAt
  receivedAt := receivedAt
  reportSha256 := report.reportSha256
  scoreCount := report.scores.length
  reportJson := report

/-- The entry `_write` inserts for one score. -/
def Report.entry (report : Report) (receivedAt : Millis) (score : Score) : EntryRow where
  source := report.source
  epoch := report.epoch
  uid := score.uid
  score := .finite score.score
  quality := score.quality
  latency := score.latency
  validity := score.validity
  tasksScored := score.tasksScored
  confidence := score.confidence
  generatedAt := report.generatedAt
  receivedAt := receivedAt
  metaJson := score.metaJson

/-- The entries after `DELETE … WHERE report_id=?` and the inserts. -/
def writeEntries (entries : Dict (String × String) EntryRow) (report : Report)
    (receivedAt : Millis) : Dict (String × String) EntryRow :=
  report.scores.foldl
    (fun d score => d.set (report.reportId, score.minerHotkey) (report.entry receivedAt score))
    (entries.filterItems fun key _ => key.1 ≠ report.reportId)

/-- The writes of a report that passed the fence: both tables are replaced by id. -/
def writeReport (t : ScoreTables) (report : Report) (receivedAt : Millis) : ScoreTables where
  reports := t.reports.set report.reportId (report.row receivedAt)
  entries := writeEntries t.entries report receivedAt

/-- What `store_report` returns. -/
structure Accepted where
  reportId : String
  source : String
  epoch : ℤ
  scoreCount : ℕ
  receivedAt : Millis
  reportSha256 : String
  idempotent : Bool
deriving DecidableEq, Repr

def Report.accepted (report : Report) (receivedAt : Millis) (idempotent : Bool) : Accepted :=
  ⟨report.reportId, report.source, report.epoch, report.scores.length, receivedAt,
    report.reportSha256, idempotent⟩

/-- `_SHA256_HEX_RE`. -/
def isSha256Hex (text : String) : Bool := text.length = 64 && text.toList.all Thin.isLowerHex

/-- The checks of `store_report` before its transaction; the result is the audience. -/
def checkStored (env : ScoreEnv Content) (report : Report) :
    Except String (Option (String × ℤ)) := do
  if report.source ∈ completeRequiredSources ∧ ¬ report.bodySha256.any isSha256Hex then
    .error "authenticated_body_digest_required"
  else
    let expected ← configuredScoreAudience env report.source
    if expected.any fun a => (report.network, report.netuid) ≠ (some a.1, some a.2) then
      .error "score_audience_mismatch"
    else .ok expected

def storeReport (env : ScoreEnv Content) (t : ScoreTables) (report : Report)
    (receivedAt : Millis) : Except String (ScoreTables × Accepted) := do
  let audience ← checkStored env report
  match latestReport t report.source audience with
  | none => .ok (writeReport t report receivedAt, report.accepted receivedAt false)
  | some (_, stored) =>
    if report.epoch < stored.epoch then .error "epoch_too_old"
    else if report.epoch = stored.epoch then
      if stored.reportSha256 ≠ report.reportSha256 then .error "epoch_conflict"
      else .ok (t, report.accepted receivedAt true)
    else .ok (writeReport t report receivedAt, report.accepted receivedAt false)

/-! ## The snapshot -/

/-- `SELECT miner_hotkey, score … WHERE report_id=? AND source=?`. -/
def entriesOf (t : ScoreTables) (reportId source : String) :
    List ((String × String) × EntryRow) :=
  t.entries.items.filter fun row => row.1.1 = reportId && row.2.source = source

/-- One turn of the loop over the entries. A score that is not positive revokes. -/
def addScore (source : String) (scores : Dict String ℚ) (row : (String × String) × EntryRow) :
    Except String (Dict String ℚ) :=
  match row.2.score with
  | .finite x =>
    if source ∈ completeRequiredSources ∧ ¬ (0 ≤ x ∧ x ≤ 1) then
      .error "invalid_stored_confidential_score"
    else if 0 < x then .ok (scores.set row.1.2 (min 1 (max 0 x)))
    else .ok scores
  | _ =>
    if source ∈ completeRequiredSources then .error "invalid_stored_confidential_score"
    else .ok scores

/-- `latest_snapshot_scores`; `none` where there is no fresh, complete report. -/
def latestSnapshotScores (env : ScoreEnv Content) (t : ScoreTables) (source : String)
    (maxAge now : ℤ) : Except String (Option (Dict String ℚ)) := do
  let audience ← configuredScoreAudience env source
  match latestReport t source audience with
  | none => .ok none
  | some (reportId, row) =>
    if row.generatedAt ≤ (now - maxAge) / 1000 then .ok none
    else if audience.any fun a =>
        (row.reportJson.network, row.reportJson.netuid) ≠ (some a.1, some a.2) then
      .error "invalid_stored_score_audience"
    else if row.reportJson.complete ≠ some true then .ok none
    else
      let scores ← (entriesOf t reportId source).foldlM (addScore source) Dict.empty
      .ok (some scores)

/-- What the weight composer reads of `status`: whether the latest report is complete and
whether it is newer than `since`. -/
def latestStatus (env : ScoreEnv Content) (t : ScoreTables) (source : String) (since : Millis) :
    Except String (Bool × Bool) := do
  let audience ← configuredScoreAudience env source
  match latestReport t source audience with
  | none => .ok (false, false)
  | some (_, row) =>
    let addressed := audience.all fun a =>
      (row.reportJson.network, row.reportJson.netuid) = (some a.1, some a.2)
    .ok (row.reportJson.complete = some true && addressed, since < row.generatedAt)

end Cathedral.Publisher.ExternalReports
