import Cathedral.Publisher.CybergymContract
import Cathedral.Publisher.Metagraph

/-!
# Cathedral.Publisher.CybergymSnapshot — reading a CyberGym report back

`scaffold/publisher/mechanism_cybergym_adapter.py`: the newest complete report of the
configured audience is read with its score rows, verified against its authenticated
bytes, and its positive scores are mapped to uids.

The tables are what a SQLite file may hold: every cell is a `Cell` or a `TextCell`,
and nothing ties a row to another. A query does not fail; a table may be missing.
Times are microseconds since year one, and `float` ages are exact rationals.
-/

namespace Cathedral.Publisher.Cybergym

open Mechanisms (Audience Exc Metagraph ScoreVector ScoreVectorMeta)

/-! ## The tables -/

structure ReportRow where
  id : TextCell
  network : TextCell
  netuid : Cell
  sourceEpoch : Cell
  producerHotkey : TextCell
  complete : Cell
  scoreUnits : TextCell
  scoreCount : Cell
  generatedAtIso : TextCell
  receivedAtIso : TextCell
  reportSha256 : TextCell
  bodySha256 : TextCell
  evidenceSha256 : TextCell
  signature : TextCell
  authenticatedBody : TextCell
  reportJson : TextCell

structure ScoreRow where
  reportId : TextCell
  minerHotkey : TextCell
  epoch : Cell
  score : Cell
  network : TextCell
  netuid : Cell
  producerHotkey : TextCell
  reportSha256 : TextCell
  generatedAtIso : TextCell
  receivedAtIso : TextCell

structure EpochStatusRow where
  epoch : Cell
  state : Cell

/-- The CyberGym tables, `none` where a table is missing. -/
structure Tables where
  reports : Option (List ReportRow)
  scores : Option (List ScoreRow)
  epochStatus : Option (List EpochStatusRow)

/-! ## Configuration -/

structure ReaderEnv where
  network : String
  /-- `none` where `int` of the variable raises. -/
  netuid : Option ℤ
  maxScoreAgeRaw : String
  maxFutureSkewRaw : String
  hmacSecret : String

/-- `max(0.0, x)`. -/
def atLeastZero : PyFloat → PyFloat
  | .finite q => .finite (max 0 q)
  | .posInf => .posInf
  | .nan | .negInf => .finite 0

/-- A number of seconds from the environment. -/
def secsSetting (numbers : PyNumbers) (default : ℚ) (raw : String) : PyFloat :=
  if PyStr.strip (PyStr.ofString raw) = [] then .finite default
  else
    match PyStr.float? numbers (PyStr.ofString raw) with
    | some x => atLeastZero x
    | none => .finite default

def maxScoreAgeSecs (I : Interp) (env : ReaderEnv) : PyFloat :=
  secsSetting I.numbers 3600 env.maxScoreAgeRaw

def maxFutureSkewSecs (I : Interp) (env : ReaderEnv) : PyFloat :=
  secsSetting I.numbers 120 env.maxFutureSkewRaw

/-- `age > limit`. -/
def exceeds (age : ℚ) : PyFloat → Bool
  | .finite limit => limit < age
  | .negInf => true
  | .posInf | .nan => false

/-! ## The reads -/

def epochClosed : PyStr := PyStr.ofString "closed"

/-- `_epoch_state`; an epoch that does not fit a SQLite integer has no state. -/
def epochState (I : Interp) (t : Tables) (epoch : ℤ) : Option PyStr :=
  if ¬ (-2 ^ 63 ≤ epoch ∧ epoch < 2 ^ 63) then none
  else
    match (t.epochStatus.getD []).find? fun row => row.epoch.equalsInt epoch with
    | none => none
    | some row => if row.state = .null then none else some (row.state.str I.floatRepr)

/-- `int(cell)`. -/
def cellInt (I : Interp) (cell : Cell) : Except Exc ℤ :=
  match cell.toInt? I.numbers.tables with
  | some n => .ok n
  | none => .error (if cell = .real .posInf ∨ cell = .real .negInf then .overflowError else .valueError)

/-- `WHERE network=? AND netuid=? AND complete=1`. -/
def completeRows (reports : List ReportRow) (a : Audience) : List ReportRow :=
  reports.filter fun row =>
    row.network.equals (PyStr.ofString a.network) && row.netuid.equalsInt a.netuid &&
      row.complete.equalsInt 1

/-- The mapping of a row whose integers are read. -/
def ReportRow.mapping (row : ReportRow) (netuid sourceEpoch scoreCount : ℤ) : StoredReport where
  reportId := row.id.str
  network := row.network.str
  netuid := netuid
  sourceEpoch := sourceEpoch
  producerHotkey := row.producerHotkey.str
  complete := row.complete.truthy
  generatedAtIso := row.generatedAtIso.str
  reportSha256 := row.reportSha256.str
  bodySha256 := row.bodySha256.strOr
  scoreCount := scoreCount
  signature := row.signature.strOr
  authenticatedBody := row.authenticatedBody
  reportJson := row.reportJson

def storedReport (I : Interp) (row : ReportRow) : Except Exc StoredReport := do
  let netuid ← cellInt I row.netuid
  let sourceEpoch ← cellInt I row.sourceEpoch
  let scoreCount ← cellInt I row.scoreCount
  pure (row.mapping netuid sourceEpoch scoreCount)

def latestCompleteReport (I : Interp) (reports : List ReportRow) (a : Audience)
    (epoch : Option ℤ) : Except Exc (Option StoredReport) :=
  match topBy ReportRow.sourceEpoch (completeRows reports a) with
  | none => .ok none
  | some row => do
    let report ← storedReport I row
    pure (if epoch.all (· = report.sourceEpoch) then some report else none)

/-- `_report_rows`: a row that is no number compares equal to nothing. -/
def reportRows (I : Interp) (scores : List ScoreRow) (reportId : PyStr) : Dict PyStr PyFloat :=
  Dict.ofList ((scores.filter fun row => row.reportId.equals reportId).map fun row =>
    (row.minerHotkey.str, (row.score.toFloat? I.numbers).getD .nan))

/-- `_parse_iso`; `none` where `fromisoformat` raises. -/
def parseIso (value : PyStr) : Except Exc (Option UtcTime) :=
  match readIso value with
  | none => .ok none
  | some t =>
    match t.utc? with
    | some moment => .ok (some moment)
    | none => .error .overflowError

/-! ## The snapshot -/

structure Info where
  network : String
  netuid : Option ℤ
  requestedEpoch : Option ℤ
  contributing : Bool
  reason : String
  report : Option StoredReport
  signedAtMs : Option ℤ
  ageSecs : Option ℚ
  maxAgeSecs : Option PyFloat
  maxFutureSkewSecs : Option PyFloat
  verificationDetail : Option PyStr
  verified : Bool
  droppedUnmappedHotkeys : Option ℕ
  nUids : Option ℕ

def Info.start (network : String) (netuid epoch : Option ℤ) : Info :=
  ⟨network, netuid, epoch, false, "no_report", none, none, none, none, none, none, false, none,
    none⟩

structure Snapshot where
  vector : ScoreVector
  scoreMeta : ScoreVectorMeta
  info : Info

def mechanismId : String := "cybergym_v0"

def scoreMeta (signedAtMs : ℤ) (sigOk : Bool) : ScoreVectorMeta :=
  ⟨mechanismId, signedAtMs, sigOk, "cybergym_adapter"⟩

/-- `_empty`. -/
def emptySnapshot (info : Info) (reason : String) (signedAtMs : ℤ) (sigOk : Bool) : Snapshot :=
  ⟨Dict.empty, scoreMeta signedAtMs sigOk, { info with reason := reason }⟩

/-- Microseconds from year one to 1970. -/
def unixEpoch : ℤ := daysBeforeYear 1970 * 86400000000

/-- `int(generated_at.timestamp() * 1000)`. -/
def timestampMs (moment : UtcTime) : ℤ := (moment.micros - unixEpoch).tdiv 1000

/-- The uid of a hotkey; a lone surrogate is in no text column. -/
def uidOf (g : Metagraph) (a : Audience) (hotkey : PyStr) : Option ℤ :=
  (PyStr.encode? hotkey).bind (Mechanisms.loadHotkeyToUid g a).get?

/-- `{hotkey: value for ... if value > 0.0}`. -/
def positiveScores (scores : Dict PyStr ℚ) : Dict PyStr ℚ := scores.filterItems fun _ q => 0 < q

/-- The end of the snapshot: the verified scores by uid. -/
def creditSnapshot (g : Metagraph) (a : Audience) (info : Info) (signedAtMs : ℤ)
    (verified : Verified) : Snapshot :=
  let totals := positiveScores verified.scores
  if totals.isEmpty then emptySnapshot info "empty_report" signedAtMs true
  else
    let vector := Mechanisms.creditUids (uidOf g a) totals
    let info :=
      { info with droppedUnmappedHotkeys := some (Mechanisms.droppedHotkeys (uidOf g a) totals) }
    if vector.isEmpty then emptySnapshot info "no_uid_mapping" signedAtMs true
    else
      ⟨vector, scoreMeta signedAtMs true,
        { info with contributing := true, reason := "ok", nUids := some vector.items.length }⟩

/-- The snapshot of a report that is read, from its timestamp on. -/
def datedSnapshot (I : Interp) (env : ReaderEnv) (t : Tables) (g : Metagraph) (a : Audience)
    (info : Info) (report : StoredReport) (generatedAt : UtcTime) (now : ℤ) : Snapshot :=
  let signedAtMs := timestampMs generatedAt
  let ageSecs : ℚ := (now - generatedAt.micros) / 1000000
  let info :=
    { info with
      signedAtMs := some signedAtMs
      ageSecs := some ageSecs
      maxAgeSecs := some (maxScoreAgeSecs I env)
      maxFutureSkewSecs := some (maxFutureSkewSecs I env) }
  if exceeds (-ageSecs) (maxFutureSkewSecs I env) then
    emptySnapshot info "future_dated" signedAtMs false
  else if exceeds ageSecs (maxScoreAgeSecs I env) then emptySnapshot info "stale" signedAtMs true
  else
    match t.scores with
    | none => emptySnapshot info "table_missing" 0 false
    | some scores =>
      match verifyStoredReport I env.hmacSecret report (reportRows I scores report.reportId) with
      | .error e =>
        emptySnapshot { info with verificationDetail := e.detail } e.reason.text signedAtMs false
      | .ok verified => creditSnapshot g a { info with verified := true } signedAtMs verified

def reportSnapshot (I : Interp) (env : ReaderEnv) (t : Tables) (g : Metagraph) (a : Audience)
    (info : Info) (report : StoredReport) (now : ℤ) : Except Exc Snapshot :=
  match epochState I t report.sourceEpoch with
  | some state =>
    if state ≠ epochClosed then .error (.epochNotClosed report.sourceEpoch state)
    else dated
  | none => dated
where
  dated : Except Exc Snapshot := do
    let info := { info with report := some report }
    match ← parseIso report.generatedAtIso with
    | none => pure (emptySnapshot info "unauthenticated" 0 false)
    | some generatedAt => pure (datedSnapshot I env t g a info report generatedAt now)

def cybergymScoreSnapshot (I : Interp) (env : ReaderEnv) (t : Tables) (g : Metagraph)
    (epoch : Option ℤ) (now : ℤ) : Except Exc Snapshot :=
  match env.netuid with
  | none =>
    .ok ⟨Dict.empty, scoreMeta 0 false,
      { Info.start env.network none none with reason := "bad_netuid_config" }⟩
  | some netuid =>
    let a : Audience := ⟨env.network, netuid⟩
    let info := Info.start env.network (some netuid) epoch
    match t.reports with
    | none => .ok (emptySnapshot info "table_missing" 0 false)
    | some reports => do
      match ← latestCompleteReport I reports a epoch with
      | none =>
        pure (emptySnapshot info
          (if epoch = none then "no_report" else "epoch_not_available") 0 false)
      | some report => reportSnapshot I env t g a info report now

/-! ## What a snapshot that contributes has read -/

/-- Nothing is contributed. -/
def Snapshot.Empty (snapshot : Snapshot) : Prop :=
  snapshot.vector = Dict.empty ∧ snapshot.info.contributing = false

/-- A report that is in time, of an epoch that is not open, and verifies. -/
structure Credited (I : Interp) (env : ReaderEnv) (t : Tables) (report : StoredReport) (now : ℤ)
    (scores : List ScoreRow) (generatedAt : UtcTime) (verified : Verified) : Prop where
  scoresTable : t.scores = some scores
  notOpen : ∀ state ∈ epochState I t report.sourceEpoch, state = epochClosed
  dated : parseIso report.generatedAtIso = .ok (some generatedAt)
  notFuture : exceeds (-(((now : ℚ) - generatedAt.micros) / 1000000))
    (maxFutureSkewSecs I env) = false
  notStale : exceeds (((now : ℚ) - generatedAt.micros) / 1000000) (maxScoreAgeSecs I env) = false
  verifies : verifyStoredReport I env.hmacSecret report
    (reportRows I scores report.reportId) = .ok verified

/-- The scores of a verified document, by uid. -/
def creditVector (g : Metagraph) (a : Audience) (verified : Verified) : ScoreVector :=
  Mechanisms.creditUids (uidOf g a) (positiveScores verified.scores)

/-- A snapshot that holds the scores of a verified report. -/
structure Credits (g : Metagraph) (a : Audience) (generatedAt : UtcTime) (verified : Verified)
    (snapshot : Snapshot) : Prop where
  vector : snapshot.vector = creditVector g a verified
  signed : snapshot.scoreMeta = scoreMeta (timestampMs generatedAt) true
  verified : snapshot.info.verified = true
  contributing : snapshot.info.contributing = !snapshot.vector.isEmpty

section Cases

variable {I : Interp} {env : ReaderEnv} {t : Tables} {g : Metagraph} {a : Audience} {info : Info}
  {report : StoredReport} {now : ℤ} {snapshot : Snapshot} {scores : List ScoreRow}
  {generatedAt : UtcTime} {verified : Verified}

theorem credits_creditSnapshot (hinfo : info.contributing = false) (hverified : info.verified = true) :
    Credits g a generatedAt verified
      (creditSnapshot g a info (timestampMs generatedAt) verified) := by
  unfold creditSnapshot
  dsimp only
  split_ifs with htotals hvector
  · -- no positive score: the loop has nothing to credit
    have hitems : (positiveScores verified.scores).items = [] := List.isEmpty_iff.mp htotals
    refine ⟨?_, rfl, hverified, hinfo⟩
    rw [creditVector, Mechanisms.creditUids, hitems]
    rfl
  · refine ⟨?_, rfl, hverified, hinfo⟩
    exact (Dict.ext (List.isEmpty_iff.mp hvector)).symm
  · refine ⟨rfl, rfl, hverified, ?_⟩
    show true = !(creditVector g a verified).isEmpty
    rw [creditVector, eq_false_of_ne_true hvector, Bool.not_false]

/-- A report that is credited gives its scores. -/
theorem credits_reportSnapshot (hinfo : info.contributing = false)
    (h : Credited I env t report now scores generatedAt verified) :
    ∃ snapshot, reportSnapshot I env t g a info report now = .ok snapshot ∧
      Credits g a generatedAt verified snapshot := by
  have hopen : reportSnapshot I env t g a info report now =
      reportSnapshot.dated I env t g a info report now := by
    unfold reportSnapshot
    cases hstate : epochState I t report.sourceEpoch with
    | none => rfl
    | some state => exact if_neg (not_not.mpr (h.notOpen state hstate))
  rw [hopen, reportSnapshot.dated, h.dated]
  refine ⟨_, rfl, ?_⟩
  rw [datedSnapshot, if_neg (by rw [h.notFuture]; exact Bool.false_ne_true),
    if_neg (by rw [h.notStale]; exact Bool.false_ne_true), h.scoresTable]
  dsimp only
  rw [h.verifies]
  exact credits_creditSnapshot (by exact hinfo) rfl

/-- Otherwise it gives an empty snapshot, or raises. -/
theorem reportSnapshot_cases (hinfo : info.contributing = false)
    (h : reportSnapshot I env t g a info report now = .ok snapshot) :
    snapshot.Empty ∨ ∃ scores generatedAt verified,
      Credited I env t report now scores generatedAt verified ∧
        Credits g a generatedAt verified snapshot := by
  have hclosed : (∀ state ∈ epochState I t report.sourceEpoch, state = epochClosed) ∧
      reportSnapshot.dated I env t g a info report now = .ok snapshot := by
    unfold reportSnapshot at h
    split at h
    · next state hstate =>
        by_cases hopen : state = epochClosed
        · rw [if_neg (not_not.mpr hopen)] at h
          refine ⟨fun state' hstate' => ?_, h⟩
          rw [Option.mem_def, hstate] at hstate'
          cases hstate'
          exact hopen
        · rw [if_pos hopen] at h
          cases h
    · next hnone =>
        refine ⟨fun state hstate => ?_, h⟩
        rw [hnone] at hstate
        cases hstate
  obtain ⟨hclosed, h⟩ := hclosed
  unfold reportSnapshot.dated at h
  obtain ⟨parsed, hparsed, h⟩ := bind_eq_ok.mp h
  cases parsed with
  | none =>
    cases h
    exact Or.inl ⟨rfl, hinfo⟩
  | some generatedAt =>
    have h := Except.ok.inj h
    unfold datedSnapshot at h
    dsimp only at h
    split_ifs at h with hfuture hstale
    · subst h
      exact Or.inl ⟨rfl, hinfo⟩
    · subst h
      exact Or.inl ⟨rfl, hinfo⟩
    · split at h
      · subst h
        exact Or.inl ⟨rfl, hinfo⟩
      · next scores hscores =>
          split at h
          · subst h
            exact Or.inl ⟨rfl, hinfo⟩
          · next verified hverifies =>
              subst h
              exact Or.inr ⟨scores, generatedAt, verified, ⟨hscores, hclosed, hparsed,
                eq_false_of_ne_true hfuture, eq_false_of_ne_true hstale, hverifies⟩,
                credits_creditSnapshot (by exact hinfo) rfl⟩

/-- The newest complete report of the audience, when it has the epoch asked for. -/
def Newest (I : Interp) (env : ReaderEnv) (t : Tables) (epoch : Option ℤ) (a : Audience)
    (report : StoredReport) : Prop :=
  env.network = a.network ∧ env.netuid = some a.netuid ∧ ∃ reports, t.reports = some reports ∧
    latestCompleteReport I reports a epoch = .ok (some report)

/-- A snapshot is empty, or it holds the scores of the newest complete report. -/
theorem snapshot_cases {epoch : Option ℤ}
    (h : cybergymScoreSnapshot I env t g epoch now = .ok snapshot) :
    snapshot.Empty ∨ ∃ a report scores generatedAt verified, Newest I env t epoch a report ∧
      Credited I env t report now scores generatedAt verified ∧
        Credits g a generatedAt verified snapshot := by
  unfold cybergymScoreSnapshot at h
  split at h
  · cases h
    exact Or.inl ⟨rfl, rfl⟩
  · next netuid hnetuid =>
      dsimp only at h
      split at h
      · cases h
        exact Or.inl ⟨rfl, rfl⟩
      · next reports hreports =>
          obtain ⟨latest, hlatest, h⟩ := bind_eq_ok.mp h
          cases latest with
          | none =>
            cases h
            exact Or.inl ⟨rfl, rfl⟩
          | some report =>
            refine (reportSnapshot_cases rfl h).imp_right ?_
            rintro ⟨scores, generatedAt, verified, hcredited, hcredits⟩
            exact ⟨⟨env.network, netuid⟩, report, scores, generatedAt, verified,
              ⟨rfl, hnetuid, reports, hreports, hlatest⟩, hcredited, hcredits⟩

/-- The newest complete report is read when it can be credited. -/
theorem snapshot_of_credited {epoch : Option ℤ} (hnewest : Newest I env t epoch a report)
    (hcredited : Credited I env t report now scores generatedAt verified) :
    ∃ snapshot, cybergymScoreSnapshot I env t g epoch now = .ok snapshot ∧
      Credits g a generatedAt verified snapshot := by
  obtain ⟨hnetwork, hnetuid, reports, hreports, hlatest⟩ := hnewest
  have hstart : (Info.start env.network (some a.netuid) epoch).contributing = false := rfl
  obtain ⟨snapshot, hok, hcredits⟩ := credits_reportSnapshot (g := g) (a := a) hstart hcredited
  refine ⟨snapshot, ?_, hcredits⟩
  have haudience : (⟨env.network, a.netuid⟩ : Audience) = a := by rw [hnetwork]
  unfold cybergymScoreSnapshot
  rw [hnetuid, hreports]
  dsimp only
  rw [haudience, hlatest]
  exact hok

end Cases

end Cathedral.Publisher.Cybergym
