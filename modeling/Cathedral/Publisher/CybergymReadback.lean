import Cathedral.Publisher.CybergymSnapshot

/-!
# Cathedral.Publisher.CybergymReadback — hostile tables

The CyberGym tables may hold anything. `never_raises_iff` says for which contents the
snapshot raises nothing but an open epoch, `contributing_proven` what the scores of a
contributing snapshot are bound to, and `rows_exact_iff` when the score rows themselves
are those of the document; `snapshot_safe_iff` puts the three together.
-/

namespace Cathedral.Publisher.Cybergym

open Mechanisms (Audience Exc Metagraph)

/-! ## The newest row -/

/-- The newest complete row of the configured audience. -/
def NewestRow (env : ReaderEnv) (t : Tables) (a : Audience) (row : ReportRow) : Prop :=
  env.network = a.network ∧ env.netuid = some a.netuid ∧ ∃ reports, t.reports = some reports ∧
    topBy ReportRow.sourceEpoch (completeRows reports a) = some row

section Rows

variable {I : Interp} {env : ReaderEnv} {t : Tables} {g : Metagraph} {a : Audience}
  {row : ReportRow} {epoch : Option ℤ} {now : ℤ}

theorem NewestRow.unique {a' : Audience} {row' : ReportRow} (h : NewestRow env t a row)
    (h' : NewestRow env t a' row') : a' = a ∧ row' = row := by
  obtain ⟨hnetwork, hnetuid, reports, hreports, htop⟩ := h
  obtain ⟨hnetwork', hnetuid', reports', hreports', htop'⟩ := h'
  obtain ⟨network, netuid⟩ := a
  obtain ⟨network', netuid'⟩ := a'
  obtain rfl : network' = network := hnetwork'.symm.trans hnetwork
  obtain rfl : netuid' = netuid := Option.some.inj (hnetuid'.symm.trans hnetuid)
  cases Option.some.inj (hreports.symm.trans hreports')
  exact ⟨rfl, Option.some.inj (htop'.symm.trans htop)⟩

theorem cellInt_eq_ok {cell : Cell} {n : ℤ} :
    cellInt I cell = .ok n ↔ cell.toInt? I.numbers.tables = some n := by
  unfold cellInt
  cases cell.toInt? I.numbers.tables <;> simp

theorem cellInt_error {cell : Cell} {e : Exc} (h : cellInt I cell = .error e) :
    cell.toInt? I.numbers.tables = none ∧ (e = .overflowError ∨ e = .valueError) := by
  unfold cellInt at h
  cases hcell : cell.toInt? I.numbers.tables with
  | some n =>
    rw [hcell] at h
    cases h
  | none =>
    rw [hcell] at h
    dsimp only at h
    split_ifs at h
    · exact ⟨rfl, Or.inl (Except.error.inj h).symm⟩
    · exact ⟨rfl, Or.inr (Except.error.inj h).symm⟩

theorem storedReport_eq_ok {report : StoredReport} :
    storedReport I row = .ok report ↔ ∃ netuid sourceEpoch scoreCount,
      row.netuid.toInt? I.numbers.tables = some netuid ∧
        row.sourceEpoch.toInt? I.numbers.tables = some sourceEpoch ∧
          row.scoreCount.toInt? I.numbers.tables = some scoreCount ∧
            report = row.mapping netuid sourceEpoch scoreCount := by
  unfold storedReport
  simp only [bind_eq_ok, cellInt_eq_ok, pure, Except.pure, Except.ok.injEq]
  constructor
  · rintro ⟨n, hn, e, he, c, hc, rfl⟩
    exact ⟨n, e, c, hn, he, hc, rfl⟩
  · rintro ⟨n, e, c, hn, he, hc, rfl⟩
    exact ⟨n, hn, e, he, c, hc, rfl⟩

/-- What a numeric comparison in SQL matched, `int` reads. -/
theorem toInt?_of_equalsInt {tables : UnicodeTables} {cell : Cell} {n : ℤ}
    (h : cell.equalsInt n = true) : cell.toInt? tables = some n := by
  cases cell with
  | int m => exact congrArg some (of_decide_eq_true h)
  | real x =>
    cases x with
    | finite q =>
      obtain rfl : q = n := of_decide_eq_true h
      simp [Cell.toInt?]
    | nan => cases h
    | posInf => cases h
    | negInf => cases h
  | null => cases h
  | text s => cases h
  | blob b => cases h

/-- A row of the audience names it. -/
theorem NewestRow.audience (h : NewestRow env t a row) :
    row.network.str = PyStr.ofString a.network ∧
      row.netuid.toInt? I.numbers.tables = some a.netuid ∧ row.complete.equalsInt 1 = true := by
  obtain ⟨-, -, reports, -, htop⟩ := h
  have hmem := mem_of_topBy htop
  simp only [completeRows, List.mem_filter, Bool.and_eq_true] at hmem
  obtain ⟨-, ⟨hnetwork, hnetuid⟩, hcomplete⟩ := hmem
  refine ⟨?_, toInt?_of_equalsInt hnetuid, hcomplete⟩
  cases hcell : row.network with
  | text s =>
    rw [hcell] at hnetwork
    exact of_decide_eq_true hnetwork
  | blob b =>
    rw [hcell] at hnetwork
    cases hnetwork

/-- The snapshot reads the newest row, unless another epoch is asked for. -/
theorem snapshot_of_newestRow (h : NewestRow env t a row) :
    cybergymScoreSnapshot I env t g epoch now = (do
      let report ← storedReport I row
      if epoch.all (· = report.sourceEpoch) then
        reportSnapshot I env t g a (Info.start env.network (some a.netuid) epoch) report now
      else
        pure (emptySnapshot (Info.start env.network (some a.netuid) epoch)
          (if epoch = none then "no_report" else "epoch_not_available") 0 false)) := by
  obtain ⟨hnetwork, hnetuid, reports, hreports, htop⟩ := h
  have haudience : (⟨env.network, a.netuid⟩ : Audience) = a := by rw [hnetwork]
  unfold cybergymScoreSnapshot
  rw [hnetuid, hreports]
  dsimp only
  rw [haudience, latestCompleteReport, htop]
  dsimp only
  cases storedReport I row with
  | error e => rfl
  | ok report =>
    simp only [bind, Except.bind, pure, Except.pure]
    split_ifs <;> rfl

theorem snapshot_of_noRow (h : ∀ a row, ¬ NewestRow env t a row) :
    ∃ snapshot, cybergymScoreSnapshot I env t g epoch now = .ok snapshot ∧ snapshot.Empty := by
  unfold cybergymScoreSnapshot
  cases hnetuid : env.netuid with
  | none => exact ⟨_, rfl, rfl, rfl⟩
  | some netuid =>
    cases hreports : t.reports with
    | none => exact ⟨_, rfl, rfl, rfl⟩
    | some reports =>
      cases htop : topBy ReportRow.sourceEpoch
          (completeRows reports ⟨env.network, netuid⟩) with
      | none =>
        dsimp only
        rw [latestCompleteReport, htop]
        exact ⟨_, rfl, rfl, rfl⟩
      | some row => exact absurd ⟨rfl, hnetuid, reports, hreports, htop⟩ (h _ row)

/-! ## Raising -/

/-- The cells that reading a row converts do convert: its integers, and its timestamp when
the report is of the epoch asked for and that epoch is not open. -/
structure Readable (I : Interp) (t : Tables) (epoch : Option ℤ) (row : ReportRow) : Prop where
  sourceEpoch : (row.sourceEpoch.toInt? I.numbers.tables).isSome = true
  scoreCount : (row.scoreCount.toInt? I.numbers.tables).isSome = true
  generatedAt : ∀ n ∈ row.sourceEpoch.toInt? I.numbers.tables, epoch.all (· = n) = true →
    (∀ state ∈ epochState I t n, state = epochClosed) →
      ∀ moment ∈ readIso row.generatedAtIso.str, moment.utc?.isSome = true

theorem parseIso_error {text : PyStr} {e : Exc} : parseIso text = .error e ↔
    e = .overflowError ∧ ∃ moment ∈ readIso text, moment.utc? = none := by
  unfold parseIso
  cases readIso text with
  | none => simp
  | some moment =>
    cases hutc : moment.utc? with
    | none => simp [hutc, eq_comm]
    | some utc => simp [hutc]

theorem reportSnapshot_error {info : Info} {report : StoredReport} {e : Exc} :
    reportSnapshot I env t g a info report now = .error e ↔
      (∃ state ∈ epochState I t report.sourceEpoch, state ≠ epochClosed ∧
        e = .epochNotClosed report.sourceEpoch state) ∨
      (∀ state ∈ epochState I t report.sourceEpoch, state = epochClosed) ∧
        parseIso report.generatedAtIso = .error e := by
  have hdated : reportSnapshot.dated I env t g a info report now = .error e ↔
      parseIso report.generatedAtIso = .error e := by
    unfold reportSnapshot.dated
    rw [bind_eq_error]
    refine or_iff_left ?_
    rintro ⟨parsed, -, h⟩
    cases parsed <;> cases h
  unfold reportSnapshot
  cases hstate : epochState I t report.sourceEpoch with
  | none => simp [hdated]
  | some state =>
    by_cases hopen : state = epochClosed
    · simp [hdated, hopen]
    · simp [hopen, eq_comm]

theorem storedReport_error {e : Exc} (h : storedReport I row = .error e) :
    e = .overflowError ∨ e = .valueError := by
  unfold storedReport at h
  rcases bind_eq_error.mp h with h | ⟨netuid, -, h⟩
  · exact (cellInt_error h).2
  · rcases bind_eq_error.mp h with h | ⟨sourceEpoch, -, h⟩
    · exact (cellInt_error h).2
    · rcases bind_eq_error.mp h with h | ⟨scoreCount, -, h⟩
      · exact (cellInt_error h).2
      · cases h

/-- Only an open epoch is raised, exactly when the cells of the newest row convert. -/
theorem never_raises_iff :
    (∀ e, cybergymScoreSnapshot I env t g epoch now = .error e →
      ∃ n state, e = .epochNotClosed n state) ↔
      ∀ a row, NewestRow env t a row → Readable I t epoch row := by
  constructor
  · intro h a row hrow
    rw [snapshot_of_newestRow hrow] at h
    obtain ⟨report, hreport⟩ : ∃ report, storedReport I row = .ok report := by
      cases hstored : storedReport I row with
      | ok report => exact ⟨report, rfl⟩
      | error e =>
        obtain ⟨n, state, rfl⟩ := h e (bind_eq_error.mpr (Or.inl hstored))
        rcases storedReport_error hstored with heq | heq <;> cases heq
    obtain ⟨netuid, n, count, -, hn, hcount, rfl⟩ := storedReport_eq_ok.mp hreport
    refine ⟨by rw [hn]; rfl, by rw [hcount]; rfl, ?_⟩
    intro n' hn' hpin hclosed moment hmoment
    obtain rfl : n = n' := Option.some.inj (hn.symm.trans hn')
    by_contra hnone
    -- the overflow leaves the snapshot
    have hraise : reportSnapshot I env t g a (Info.start env.network (some a.netuid) epoch)
        (row.mapping netuid n count) now = .error .overflowError :=
      reportSnapshot_error.mpr (Or.inr ⟨hclosed, parseIso_error.mpr
        ⟨rfl, moment, hmoment, Option.not_isSome_iff_eq_none.mp hnone⟩⟩)
    obtain ⟨m, state, heq⟩ := h .overflowError
      (bind_eq_error.mpr (Or.inr ⟨_, hreport, (if_pos hpin).trans hraise⟩))
    cases heq
  · intro h e he
    by_cases hrow : ∃ a row, NewestRow env t a row
    · obtain ⟨a, row, hrow⟩ := hrow
      have hread := h a row hrow
      rw [snapshot_of_newestRow hrow] at he
      obtain ⟨n, hn⟩ := Option.isSome_iff_exists.mp hread.sourceEpoch
      obtain ⟨count, hcount⟩ := Option.isSome_iff_exists.mp hread.scoreCount
      rw [storedReport_eq_ok.mpr ⟨_, n, count, hrow.audience.2.1, hn, hcount, rfl⟩] at he
      rcases bind_eq_error.mp he with hnot | ⟨report, hreport, he⟩
      · cases hnot
      · cases hreport
        by_cases hpin : epoch.all (· = n) = true
        · rcases reportSnapshot_error.mp ((if_pos hpin).symm.trans he) with ⟨state, -, -, heq⟩ | ⟨hclosed, hparse⟩
          · exact ⟨_, state, heq⟩
          · obtain ⟨-, moment, hmoment, hutc⟩ := parseIso_error.mp hparse
            have hsome := hread.generatedAt n hn hpin hclosed moment hmoment
            rw [hutc] at hsome
            cases hsome
        · cases (if_neg hpin).symm.trans he
    · have hno : ∀ a row, ¬ NewestRow env t a row := fun a row hr => hrow ⟨a, row, hr⟩
      obtain ⟨snapshot, hok, -⟩ := @snapshot_of_noRow I env t g epoch now hno
      rw [hok] at he
      cases he

end Rows

/-! ## Contributing -/

/-- The bytes of a row that its digest and its HMAC cover. -/
def ReportRow.rawBody (row : ReportRow) : Bytes :=
  (if row.authenticatedBody.isEmptyText then row.reportJson else row.authenticatedBody).bytes

/-- What the scores of a contributing snapshot are bound to: one complete document of the
audience, whose exact bytes carry the HMAC and whose columns are those of the row. -/
structure ProvenBy (I : Interp) (env : ReaderEnv) (g : Metagraph) (now : ℤ) (snapshot : Snapshot)
    (a : Audience) (row : ReportRow) (members : Members) (d : Document) (generatedAt : UtcTime) :
    Prop where
  bytes : PyJson.loads I.numbers I.readDepth row.rawBody = some (.obj members)
  complete : field members "complete" = some (.bool true)
  document : normalizeSemanticDocument I members = .ok d
  hmac : verifyBodyHmac I env.hmacSecret row.rawBody row.signature.strOr = true
  network : d.network = PyStr.ofString a.network
  netuid : d.netuid = a.netuid
  sourceEpoch : row.sourceEpoch.toInt? I.numbers.tables = some d.sourceEpoch
  producerHotkey : row.producerHotkey.str = d.producerHotkey
  generatedAtIso : row.generatedAtIso.str = d.generatedAt
  dated : (readIso d.generatedAt).bind LocalTime.utc? = some generatedAt
  notFuture : exceeds (-(((now : ℚ) - generatedAt.micros) / 1000000))
    (maxFutureSkewSecs I env) = false
  notStale : exceeds (((now : ℚ) - generatedAt.micros) / 1000000) (maxScoreAgeSecs I env) = false
  signed : snapshot.scoreMeta = scoreMeta (timestampMs generatedAt) true
  vector : snapshot.vector = Mechanisms.creditUids (uidOf g a) (positiveScores d.scores)

def scoreRowsOf (scores : List ScoreRow) (row : ReportRow) : List ScoreRow :=
  scores.filter fun r => r.reportId.equals row.id.str

/-- The score rows of a report are those of a document, each once. -/
def RowsExact (I : Interp) (scores : List ScoreRow) (row : ReportRow) (d : Document) : Prop :=
  ((scoreRowsOf scores row).map fun r => (r.minerHotkey.str, r.score.toFloat? I.numbers)).Perm
    (d.scores.items.map fun kv => (kv.1, some (PyFloat.finite kv.2)))

/-- No two score rows of a report have hotkeys with one text; a text and a blob may. -/
def DistinctTexts (scores : List ScoreRow) (row : ReportRow) : Prop :=
  ((scoreRowsOf scores row).map fun r => r.minerHotkey.str).Nodup

/-- The report of a row is of the epoch asked for, is credited and scores a known hotkey. -/
def Creditable (I : Interp) (env : ReaderEnv) (t : Tables) (g : Metagraph) (epoch : Option ℤ)
    (now : ℤ) (a : Audience) (row : ReportRow) (scores : List ScoreRow) : Prop :=
  ∃ report generatedAt verified, storedReport I row = .ok report ∧
    epoch.all (· = report.sourceEpoch) = true ∧
    Credited I env t report now scores generatedAt verified ∧
      ∃ hotkey q uid, verified.scores.get? hotkey = some q ∧ 0 < q ∧ uidOf g a hotkey = some uid

section Contributing

variable {I : Interp} {env : ReaderEnv} {t : Tables} {g : Metagraph} {a : Audience}
  {row : ReportRow} {scores : List ScoreRow} {epoch : Option ℤ} {now : ℤ} {snapshot : Snapshot}
  {d : Document}

theorem complete_of_normalize {members : Members}
    (h : normalizeSemanticDocument I members = .ok d) :
    field members "complete" = some (.bool true) := by
  obtain ⟨-, wire, generatedAt, scores, hwire, -⟩ := normalizeSemanticDocument_eq_ok.mp h
  exact (wireFields_eq_some.mp hwire).2.2.2.2.2.1

theorem members_of_authenticatedDocument {raw : Bytes}
    (h : authenticatedDocument I raw = .ok d) :
    ∃ members, PyJson.loads I.numbers I.readDepth raw = some (.obj members) ∧
      normalizeSemanticDocument I members = .ok d := by
  unfold authenticatedDocument at h
  split at h
  · cases h
  · next members hloads =>
      split at h
      · cases h
      · next document hnormal =>
          cases h
          exact ⟨members, hloads, hnormal⟩
  · cases h

theorem getD_nan_eq_finite {value : Option PyFloat} {q : ℚ} :
    value.getD .nan = .finite q ↔ value = some (.finite q) := by
  cases value with
  | none => simp
  | some x => simp

/-- Read as a mapping, the rows pass; they are exact when the mapping lost none of them. -/
theorem rows_exact_iff
    (h : ∀ hotkey, (reportRows I scores row.id.str).get? hotkey =
      (d.scores.get? hotkey).map .finite) :
    RowsExact I scores row d ↔ DistinctTexts scores row := by
  have hkeys : ∀ f : ScoreRow → Option PyFloat,
      ((scoreRowsOf scores row).map fun r => (r.minerHotkey.str, f r)).map Prod.fst =
        (scoreRowsOf scores row).map fun r => r.minerHotkey.str := by
    intro f
    rw [List.map_map]
    rfl
  constructor
  · intro hexact
    have hperm := hexact.map Prod.fst
    rw [hkeys, List.map_map] at hperm
    exact hperm.nodup_iff.mpr d.scores.nodup
  · intro hnodup
    -- without a clash the mapping has the rows as its items
    have hitems : ∀ hotkey x, (reportRows I scores row.id.str).get? hotkey = some x ↔
        ∃ r ∈ scoreRowsOf scores row, r.minerHotkey.str = hotkey ∧
          (r.score.toFloat? I.numbers).getD .nan = x := by
      intro hotkey x
      rw [← Dict.mem_items, reportRows, Dict.items_ofList, List.mem_map]
      · simp only [Prod.mk.injEq]
        exact Iff.rfl
      · rw [List.map_map]
        exact hnodup
    refine (List.perm_ext_iff_of_nodup ?_ ?_).mpr ?_
    · exact List.Nodup.of_map Prod.fst ((hkeys _).symm ▸ hnodup)
    · refine List.Nodup.of_map Prod.fst ?_
      rw [List.map_map]
      exact d.scores.nodup
    · rintro ⟨hotkey, value⟩
      simp only [List.mem_map, Prod.mk.injEq, Prod.exists, Dict.mem_items]
      constructor
      · rintro ⟨r, hr, rfl, rfl⟩
        have hget := (hitems _ _).mpr ⟨r, hr, rfl, rfl⟩
        rw [h, Option.map_eq_some_iff] at hget
        obtain ⟨q, hq, hvalue⟩ := hget
        exact ⟨_, q, hq, rfl, (getD_nan_eq_finite.mp hvalue.symm).symm⟩
      · rintro ⟨_, q, hq, rfl, rfl⟩
        obtain ⟨r, hr, htext, hvalue⟩ := (hitems _ (.finite q)).mp (by rw [h, hq, Option.map_some])
        exact ⟨r, hr, htext, getD_nan_eq_finite.mp hvalue⟩

theorem newest_iff {report : StoredReport} : Newest I env t epoch a report ↔
    ∃ row, NewestRow env t a row ∧ storedReport I row = .ok report ∧
      epoch.all (· = report.sourceEpoch) = true := by
  constructor
  · rintro ⟨hnetwork, hnetuid, reports, hreports, hlatest⟩
    unfold latestCompleteReport at hlatest
    split at hlatest
    · cases hlatest
    · next row htop =>
        obtain ⟨stored, hstored, hlatest⟩ := bind_eq_ok.mp hlatest
        split_ifs at hlatest with hpin
        · cases hlatest
          exact ⟨row, ⟨hnetwork, hnetuid, reports, hreports, htop⟩, hstored, hpin⟩
        · cases hlatest
  · rintro ⟨row, ⟨hnetwork, hnetuid, reports, hreports, htop⟩, hstored, hpin⟩
    refine ⟨hnetwork, hnetuid, reports, hreports, ?_⟩
    rw [latestCompleteReport, htop]
    dsimp only
    rw [hstored]
    exact congrArg Except.ok (if_pos hpin)

/-- A uid is credited when a positive score is that of a known hotkey. -/
theorem creditVector_nonempty_iff {verified : Verified} :
    (!(creditVector g a verified).isEmpty) = true ↔
      ∃ hotkey q uid, verified.scores.get? hotkey = some q ∧ 0 < q ∧
        uidOf g a hotkey = some uid := by
  have hpositive : ∀ hotkey, hotkey ∈ (positiveScores verified.scores).keys ↔
      ∃ q, verified.scores.get? hotkey = some q ∧ 0 < q := by
    intro hotkey
    simp only [positiveScores, Dict.mem_keys, Dict.get?_filterItems, Option.filter_eq_some_iff,
      decide_eq_true_eq]
  rw [Bool.not_eq_true', ← Bool.not_eq_true, Dict.isEmpty_iff, not_forall]
  constructor
  · rintro ⟨uid, huid⟩
    obtain ⟨x, hx⟩ := Option.ne_none_iff_exists'.mp huid
    obtain ⟨hotkey, hkey, hmapped⟩ :=
      (Mechanisms.mem_keys_creditUids _ _ uid).mp (Dict.mem_keys.mpr ⟨x, hx⟩)
    obtain ⟨q, hq, hpos⟩ := (hpositive hotkey).mp hkey
    exact ⟨hotkey, q, uid, hq, hpos, hmapped⟩
  · rintro ⟨hotkey, q, uid, hq, hpos, hmapped⟩
    have hmem := (Mechanisms.mem_keys_creditUids (uidOf g a) (positiveScores verified.scores)
      uid).mpr ⟨hotkey, (hpositive hotkey).mpr ⟨q, hq, hpos⟩, hmapped⟩
    obtain ⟨x, hx⟩ := Dict.mem_keys.mp hmem
    exact ⟨uid, by rw [creditVector, hx]; exact Option.some_ne_none x⟩

/-- What a contributing snapshot is bound to. -/
theorem contributing_proven (h : cybergymScoreSnapshot I env t g epoch now = .ok snapshot)
    (hcontributing : snapshot.info.contributing = true) :
    ∃ a row scores members d generatedAt, NewestRow env t a row ∧ t.scores = some scores ∧
      ProvenBy I env g now snapshot a row members d generatedAt ∧
      Creditable I env t g epoch now a row scores ∧
        ∀ hotkey, (reportRows I scores row.id.str).get? hotkey =
          (d.scores.get? hotkey).map .finite := by
  rcases snapshot_cases h with ⟨-, hidle⟩ | ⟨a, report, scores, generatedAt, verified, hnewest,
    hcredited, hcredits⟩
  · rw [hcontributing] at hidle
    cases hidle
  · obtain ⟨row, hrow, hstored, hpin⟩ := newest_iff.mp hnewest
    obtain ⟨netuid, n, count, hnetuid, hn, hcount, rfl⟩ := storedReport_eq_ok.mp hstored
    obtain ⟨d, rfl, hauthentic⟩ := verifyStoredReport_eq_ok.mp hcredited.verifies
    obtain ⟨members, hloads, hnormal⟩ := members_of_authenticatedDocument hauthentic.document
    obtain ⟨hnetwork, hnetuid', -⟩ := hrow.audience (I := I)
    have hmapped := hcredits.contributing.symm.trans hcontributing
    rw [hcredits.vector, creditVector_nonempty_iff] at hmapped
    have hdated : (readIso d.generatedAt).bind LocalTime.utc? = some generatedAt := by
      have hparse := hcredited.dated
      rw [hauthentic.generatedAt] at hparse
      unfold parseIso at hparse
      cases hread : readIso d.generatedAt with
      | none =>
        rw [hread] at hparse
        cases hparse
      | some moment =>
        rw [hread] at hparse
        dsimp only at hparse
        split at hparse
        · next utc hutc =>
            cases hparse
            exact hutc
        · cases hparse
    refine ⟨a, row, scores, members, d, generatedAt, hrow, hcredited.scoresTable, ?_,
      ⟨_, generatedAt, _, hstored, hpin, hcredited, hmapped⟩, hauthentic.scores⟩
    exact
      { bytes := hloads
        complete := complete_of_normalize hnormal
        document := hnormal
        hmac := hauthentic.hmac
        network := hauthentic.network.symm.trans hnetwork
        netuid := hauthentic.netuid.symm.trans (Option.some.inj (hnetuid.symm.trans hnetuid'))
        sourceEpoch := hn.trans (congrArg some hauthentic.sourceEpoch)
        producerHotkey := hauthentic.producerHotkey
        generatedAtIso := hauthentic.generatedAt
        dated := hdated
        notFuture := hcredited.notFuture
        notStale := hcredited.notStale
        signed := hcredits.signed
        vector := hcredits.vector }

/-- The snapshot raises nothing but an open epoch, and what it contributes is proven down to
the score rows, exactly when the cells it converts convert and no rows clash where it
contributes. -/
theorem snapshot_safe_iff (I : Interp) (env : ReaderEnv) (t : Tables) (g : Metagraph)
    (epoch : Option ℤ) (now : ℤ) :
    ((∀ e, cybergymScoreSnapshot I env t g epoch now = .error e →
        ∃ n state, e = .epochNotClosed n state) ∧
      ∀ snapshot, cybergymScoreSnapshot I env t g epoch now = .ok snapshot →
        snapshot.info.contributing = true →
          ∃ a row scores members d generatedAt, NewestRow env t a row ∧ t.scores = some scores ∧
            ProvenBy I env g now snapshot a row members d generatedAt ∧
              RowsExact I scores row d) ↔
      ∀ a row, NewestRow env t a row → Readable I t epoch row ∧
        ∀ scores, t.scores = some scores → Creditable I env t g epoch now a row scores →
          DistinctTexts scores row := by
  constructor
  · rintro ⟨hraise, hexact⟩ a row hrow
    refine ⟨never_raises_iff.mp hraise a row hrow, ?_⟩
    rintro scores hscores ⟨report, generatedAt, verified, hstored, hpin, hcredited, hmapped⟩
    obtain ⟨snapshot, hok, hcredits⟩ := snapshot_of_credited (g := g)
      (newest_iff.mpr ⟨row, hrow, hstored, hpin⟩) hcredited
    have hcontributing : snapshot.info.contributing = true := by
      rw [hcredits.contributing, hcredits.vector, creditVector_nonempty_iff]
      exact hmapped
    obtain ⟨a', row', scores', members, d, at', hrow', hscores', -, hrows⟩ :=
      hexact snapshot hok hcontributing
    obtain ⟨rfl, rfl⟩ := hrow.unique hrow'
    cases Option.some.inj (hscores.symm.trans hscores')
    have hkeys := hrows.map Prod.fst
    rw [List.map_map, List.map_map] at hkeys
    exact hkeys.nodup_iff.mpr d.scores.nodup
  · intro h
    refine ⟨never_raises_iff.mpr fun a row hrow => (h a row hrow).1, ?_⟩
    intro snapshot hok hcontributing
    obtain ⟨a, row, scores, members, d, generatedAt, hrow, hscores, hproven, hcreditable, hrows⟩ :=
      contributing_proven hok hcontributing
    exact ⟨a, row, scores, members, d, generatedAt, hrow, hscores, hproven,
      (rows_exact_iff hrows).mpr ((h a row hrow).2 scores hscores hcreditable)⟩

end Contributing

/-! ## A hand-written row -/

/-- An interpreter whose hashes nothing here looks at. -/
def plainInterp : Interp where
  numbers := PyStr.exactNumbers
  readDepth := 0
  floatRepr _ := []
  padsYear := true
  sha256Hex _ := ""
  hmacHex _ _ := ""

def readerEnv : ReaderEnv := ⟨"finney", some 39, "", "", "secret"⟩

/-- A hand-written row, dated so that its instant is before year one. -/
def earlyRow : ReportRow where
  id := .text "cyg-0"
  network := .text "finney"
  netuid := .int 39
  sourceEpoch := .int 1
  producerHotkey := .text ""
  complete := .int 1
  scoreUnits := .text ""
  scoreCount := .int 0
  generatedAtIso := .text "0001-01-01T00:00:00+01:00"
  receivedAtIso := .text ""
  reportSha256 := .text ""
  bodySha256 := .text ""
  evidenceSha256 := .text ""
  signature := .text ""
  authenticatedBody := .text ""
  reportJson := .text "x"

def earlyTables : Tables := ⟨some [earlyRow], some [], none⟩

/-- The timestamp is one that `fromisoformat` takes and `astimezone` does not. -/
theorem early_row_raises :
    cybergymScoreSnapshot plainInterp readerEnv earlyTables Dict.empty none 0 =
      .error .overflowError := rfl

end Cathedral.Publisher.Cybergym
