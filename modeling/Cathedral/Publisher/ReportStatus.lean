import Cathedral.Publisher.ReportFences

/-!
# Cathedral.Publisher.ReportStatus — the status of a source beside its snapshot

`external_scores.status` counts the entries of the latest report by one query, and
`latest_snapshot_scores` reads them by another. Over the stored entries both see the same
rows: an entry belongs to the report that holds its id.
-/

namespace Cathedral.Publisher.ExternalReports

/-! ## The status -/

structure Status where
  latestReportId : Option String
  latestEpoch : Option ℤ
  latestGeneratedAt : Option Millis
  latestReceivedAt : Option Millis
  latestScoreCount : ℕ
  latestReportSha256 : Option String
  latestBodySha256 : Option String
  latestComplete : Bool
  latestFresh : Bool
  activeScoreCount : ℕ

/-- `score > 0` of a column; a NaN is stored as NULL. -/
def positive : PyFloat → Bool
  | .finite x => 0 < x
  | .posInf => true
  | _ => false

/-- `SELECT COUNT(*) … WHERE report_id=? AND score > 0`. -/
def positiveCount (t : ScoreTables) (reportId : String) : ℕ :=
  t.entries.items.countP fun row => row.1.1 = reportId && positive row.2.score

def status (env : ScoreEnv Content) (t : ScoreTables) (source : String) (since : Millis) :
    Except String Status := do
  let audience ← configuredScoreAudience env source
  match latestReport t source audience with
  | none => .ok ⟨none, none, none, none, 0, none, none, false, false, 0⟩
  | some (reportId, row) =>
    let complete := decide (row.reportJson.complete = some true) && audience.all fun a =>
      (row.reportJson.network, row.reportJson.netuid) = (some a.1, some a.2)
    let fresh := decide (since < row.generatedAt)
    .ok
      { latestReportId := some reportId
        latestEpoch := some row.epoch
        latestGeneratedAt := some row.generatedAt
        latestReceivedAt := some row.receivedAt
        latestScoreCount := row.scoreCount
        latestReportSha256 := some row.reportSha256
        latestBodySha256 := row.reportJson.bodySha256.filter isSha256Hex
        latestComplete := complete
        latestFresh := fresh
        activeScoreCount := if complete && fresh then positiveCount t reportId else 0 }

/-! ## Scores of a normalised report -/

variable {env : ScoreEnv Content} {t t' : ScoreTables} {report : Report} {receivedAt : Millis}

/-- `0 <= score <= 1`. -/
def Unit01 (x : ℚ) : Prop := 0 ≤ x ∧ x ≤ 1

theorem round9_unit {x : ℚ} (h : Unit01 x) : Unit01 (round9 x) := by
  have hbounds : 0 ≤ Thin.roundHalfEven (x * 10 ^ 9) ∧
      Thin.roundHalfEven (x * 10 ^ 9) ≤ 10 ^ 9 := by
    have hnonneg : 0 ≤ ⌊x * 10 ^ 9⌋ := Int.floor_nonneg.mpr (by linarith [h.1])
    have hle := Int.floor_le (x * 10 ^ 9)
    have hmax : x * 10 ^ 9 ≤ 10 ^ 9 := by linarith [h.2]
    rcases lt_or_ge ⌊x * 10 ^ 9⌋ (10 ^ 9) with hlt | hge
    · simp only [Thin.roundHalfEven]
      split_ifs <;> omega
    · -- the largest score is exact
      have heq : x * 10 ^ 9 = ((10 ^ 9 : ℤ) : ℚ) := by
        have hcast : ((10 ^ 9 : ℤ) : ℚ) ≤ ⌊x * 10 ^ 9⌋ := by exact_mod_cast hge
        push_cast at hcast ⊢
        linarith
      rw [heq]
      simp [Thin.roundHalfEven]
  have hpos : (0 : ℚ) < 10 ^ 9 := by norm_num
  constructor
  · exact div_nonneg (by exact_mod_cast hbounds.1) hpos.le
  · rw [round9, div_le_one hpos]
    exact_mod_cast hbounds.2

theorem requiredFloat01_unit {field : String} {value : Option PyFloat} {x : ℚ}
    (h : requiredFloat01 field value = .ok x) : Unit01 x := by
  obtain ⟨found, hfound, h⟩ := bind_eq_ok.mp h
  unfold float01 at hfound
  split at hfound
  · cases hfound
    cases h
  · next y =>
    split at hfound
    · cases hfound
    · next hrange =>
      cases hfound
      cases h
      rw [not_or, not_lt, not_lt] at hrange
      exact round9_unit hrange
  · cases hfound

theorem normalizeScore_unit {idx : ℕ} {seen : List String} {raw : RawScore} {score : Score}
    (h : normalizeScore idx seen raw = .ok score) : Unit01 score.score := by
  unfold normalizeScore at h
  dsimp only at h
  split_ifs at h
  obtain ⟨uid, _, h⟩ := bind_eq_ok.mp h
  obtain ⟨x, hx, h⟩ := bind_eq_ok.mp h
  obtain ⟨_, _, h⟩ := bind_eq_ok.mp h
  obtain ⟨_, _, h⟩ := bind_eq_ok.mp h
  obtain ⟨_, _, h⟩ := bind_eq_ok.mp h
  obtain ⟨_, _, h⟩ := bind_eq_ok.mp h
  obtain ⟨_, _, h⟩ := bind_eq_ok.mp h
  cases h
  exact requiredFloat01_unit hx

theorem normalizeScores_unit {raws : List RawScore} {scores : List Score} :
    ∀ {idx : ℕ} {seen : List String}, normalizeScores idx seen raws = .ok scores →
      ∀ score ∈ scores, Unit01 score.score := by
  induction raws generalizing scores with
  | nil =>
    intro idx seen h
    cases h
    exact fun score hmem => absurd hmem List.not_mem_nil
  | cons raw rest ih =>
    intro idx seen h
    obtain ⟨first, hfirst, h⟩ := bind_eq_ok.mp h
    obtain ⟨others, hothers, h⟩ := bind_eq_ok.mp h
    cases h
    exact List.forall_mem_cons.mpr ⟨normalizeScore_unit hfirst, ih hothers⟩

/-- The scores of a report that was normalised for a call. -/
theorem normalized_unit {call : Call} (h : call.normalized = .ok report) :
    ∀ score ∈ report.scores, Unit01 score.score := by
  obtain ⟨normal, hnormal, h⟩ := bind_eq_ok.mp h
  have hscores : report.scores = normal.scores := by
    cases h
    cases call.bodySha256 <;> rfl
  rw [hscores]
  obtain ⟨source, _, hnormal⟩ := bind_eq_ok.mp hnormal
  obtain ⟨⟨network, netuid⟩, _, hnormal⟩ := bind_eq_ok.mp hnormal
  obtain ⟨_, _, hnormal⟩ := bind_eq_ok.mp hnormal
  split_ifs at hnormal
  obtain ⟨_, _, hnormal⟩ := bind_eq_ok.mp hnormal
  obtain ⟨scores, hall, hnormal⟩ := bind_eq_ok.mp hnormal
  cases hnormal
  exact normalizeScores_unit hall

/-! ## Stored entries -/

/-- An entry belongs to the report that holds its id, with a score of a report; a row says of
its audience what its document says. -/
structure Filed (t : ScoreTables) : Prop where
  entry : ∀ id hotkey entry, t.entries.get? (id, hotkey) = some entry →
    ∃ row, t.reports.get? id = some row ∧ row.source = entry.source ∧
      ∃ x, entry.score = .finite x ∧ Unit01 x
  audience : ∀ id row, t.reports.get? id = some row →
    row.network = row.reportJson.network ∧ row.netuid = row.reportJson.netuid

theorem filed_empty : Filed .empty where
  entry id hotkey entry h := by cases h
  audience id row h := by cases h

/-- An entry after a write is one of the report, or an older one under another id. -/
theorem get?_writeEntries {entries : Dict (String × String) EntryRow} {key : String × String}
    {entry : EntryRow} (h : (writeEntries entries report receivedAt).get? key = some entry) :
    (key.1 = report.reportId ∧ ∃ score ∈ report.scores, entry = report.entry receivedAt score) ∨
      (key.1 ≠ report.reportId ∧ entries.get? key = some entry) := by
  have hinserts : ∀ (scores : List Score) (d : Dict (String × String) EntryRow),
      (scores.foldl (fun d score => d.set (report.reportId, score.minerHotkey)
        (report.entry receivedAt score)) d).get? key = some entry →
      (key.1 = report.reportId ∧ ∃ score ∈ scores, entry = report.entry receivedAt score) ∨
        d.get? key = some entry := by
    intro scores
    induction scores with
    | nil => exact fun d hget => .inr hget
    | cons score rest ih =>
      intro d hget
      rcases ih _ hget with ⟨hkey, found, hmem, heq⟩ | hget
      · exact .inl ⟨hkey, found, List.mem_cons_of_mem _ hmem, heq⟩
      · rw [Dict.get?_set] at hget
        split_ifs at hget with hkey
        · cases hget
          exact .inl ⟨hkey ▸ rfl, score, List.mem_cons_self, rfl⟩
        · exact .inr hget
  rcases hinserts _ _ h with hnew | hold
  · exact .inl hnew
  · rw [Dict.get?_filterItems] at hold
    obtain ⟨hget, hkept⟩ := Option.filter_eq_some_iff.mp hold
    exact .inr ⟨of_decide_eq_true hkept, hget⟩

theorem filed_writeReport (h : Filed t) (hscores : ∀ score ∈ report.scores, Unit01 score.score) :
    Filed (writeReport t report receivedAt) where
  entry id hotkey entry hget := by
    rcases get?_writeEntries hget with ⟨hid, score, hmem, rfl⟩ | ⟨hid, hget⟩
    · refine ⟨report.row receivedAt, ?_, rfl, score.score, rfl, hscores score hmem⟩
      rw [get?_writeReport, if_pos hid.symm]
    · obtain ⟨row, hrow, hrest⟩ := h.entry id hotkey entry hget
      refine ⟨row, ?_, hrest⟩
      rwa [get?_writeReport, if_neg (Ne.symm hid)]
  audience id row hget := by
    rw [get?_writeReport] at hget
    split_ifs at hget
    · cases hget
      exact ⟨rfl, rfl⟩
    · exact h.audience id row hget

theorem filed_step {call : Call} (hfiled : Filed t) (h : Step t call t') : Filed t' := by
  cases h with
  | refused => exact hfiled
  | stored hreport hstore =>
    rcases storeReport_cases hstore with ⟨rfl, -, -⟩ | ⟨rfl, -, -⟩
    · exact hfiled
    · exact filed_writeReport hfiled (normalized_unit hreport)

theorem filed_of_run {ls : List Call} (h : Run Step .empty ls t) : Filed t :=
  Run.invariant filed_empty (fun _ _ _ hfiled hstep => filed_step hfiled hstep) h

/-! ## Agreement -/

section Agreement

variable {id source : String} {row : ReportRow}

/-- The snapshot takes every positive entry, each for another hotkey. -/
theorem foldlM_addScore {l : List ((String × String) × EntryRow)} :
    ∀ {d : Dict String ℚ}, (∀ item ∈ l, ∃ x, item.2.score = .finite x ∧ Unit01 x) →
      (l.map fun item => item.1.2).Nodup → (∀ item ∈ l, d.get? item.1.2 = none) →
      ∃ scores, l.foldlM (addScore source) d = .ok scores ∧
        scores.items.length = d.items.length + l.countP fun item => positive item.2.score := by
  induction l with
  | nil => exact fun _ _ _ => ⟨_, rfl, rfl⟩
  | cons item rest ih =>
    intro d hscores hnodup hfresh
    obtain ⟨x, hx, hunit⟩ := hscores item List.mem_cons_self
    have hrest : ∀ other ∈ rest, ∃ x, other.2.score = .finite x ∧ Unit01 x := fun other hmem =>
      hscores other (List.mem_cons_of_mem _ hmem)
    rw [List.map_cons, List.nodup_cons] at hnodup
    have hunrefused : ¬ (source ∈ completeRequiredSources ∧ ¬ (0 ≤ x ∧ x ≤ 1)) := fun hbad =>
      hbad.2 hunit
    rw [List.foldlM_cons, List.countP_cons]
    by_cases hpos : 0 < x
    · have hadd : addScore source d item = .ok (d.set item.1.2 (min 1 (max 0 x))) := by
        rw [addScore, hx]
        dsimp only
        rw [if_neg hunrefused, if_pos hpos]
      have hnone := hfresh item List.mem_cons_self
      obtain ⟨scores, hfold, hlength⟩ := ih hrest hnodup.2 (d := d.set item.1.2 (min 1 (max 0 x)))
        fun other hmem => by
          have hne : item.1.2 ≠ other.1.2 := fun heq =>
            hnodup.1 (List.mem_map.mpr ⟨other, hmem, heq.symm⟩)
          rw [Dict.get?_set_ne _ _ hne]
          exact hfresh other (List.mem_cons_of_mem _ hmem)
      refine ⟨scores, by rw [hadd]; exact hfold, ?_⟩
      rw [hlength, Dict.items_set_of_none _ hnone, hx, positive, decide_eq_true hpos]
      simp only [List.length_append, List.length_cons, List.length_nil, if_true]
      omega
    · have hadd : addScore source d item = .ok d := by
        rw [addScore, hx]
        dsimp only
        rw [if_neg hunrefused, if_neg hpos]
      obtain ⟨scores, hfold, hlength⟩ := ih hrest hnodup.2
        fun other hmem => hfresh other (List.mem_cons_of_mem _ hmem)
      refine ⟨scores, by rw [hadd]; exact hfold, ?_⟩
      rw [hlength, hx, positive, decide_eq_false hpos]
      simp

/-- The two queries read the same rows. -/
theorem entriesOf_eq (hfiled : Filed t) (hget : t.reports.get? id = some row) :
    entriesOf t id row.source = t.entries.items.filter fun item => item.1.1 = id := by
  refine List.filter_congr fun item hmem => ?_
  by_cases hid : item.1.1 = id
  · obtain ⟨found, hfound, hsource, _⟩ := hfiled.entry item.1.1 item.1.2 item.2
      (Dict.mem_items.mp hmem)
    rw [hid, hget, Option.some.injEq] at hfound
    simp [hid, ← hsource, hfound]
  · simp [hid]

/-- The snapshot of a stored report has as many hotkeys as the report has positive entries. -/
theorem snapshot_length (hfiled : Filed t) (hget : t.reports.get? id = some row) :
    ∃ scores, (entriesOf t id row.source).foldlM (addScore source) Dict.empty = .ok scores ∧
      scores.items.length = positiveCount t id := by
  have hunit : ∀ item ∈ entriesOf t id row.source,
      ∃ x, item.2.score = .finite x ∧ Unit01 x := by
    intro item hmem
    obtain ⟨_, _, _, hscore⟩ := hfiled.entry item.1.1 item.1.2 item.2
      (Dict.mem_items.mp (List.mem_filter.mp hmem).1)
    exact hscore
  have hnodup : ((entriesOf t id row.source).map fun item => item.1.2).Nodup := by
    -- two rows of one report differ in the hotkey
    rw [entriesOf_eq hfiled hget]
    refine List.Nodup.map_on ?_ ((List.Nodup.of_map _ t.entries.nodup).filter _)
    intro a ha b hb heq
    obtain ⟨hmema, hida⟩ := List.mem_filter.mp ha
    obtain ⟨hmemb, hidb⟩ := List.mem_filter.mp hb
    have hkey : a.1 = b.1 :=
      Prod.ext ((of_decide_eq_true hida).trans (of_decide_eq_true hidb).symm) heq
    exact List.inj_on_of_nodup_map t.entries.nodup hmema hmemb hkey
  obtain ⟨scores, hfold, hlength⟩ := @foldlM_addScore source _ Dict.empty hunit hnodup
    fun _ _ => Dict.get?_empty _
  refine ⟨scores, hfold, ?_⟩
  rw [hlength, entriesOf_eq hfiled hget, List.countP_filter, positiveCount]
  simp [Dict.empty, Bool.and_comm]

/-- The document of a row that the query selects is addressed as the query asks. -/
theorem of_key {k : Scope} (hfiled : Filed t) (hget : t.reports.get? id = some row)
    (hkey : row.fenceKey = k.key) : row.source = k.source ∧
      ∀ a ∈ k.audience, (row.reportJson.network, row.reportJson.netuid) = (some a.1, some a.2) := by
  have hselected := (ofAudience_iff k row).mpr hkey
  rw [ofAudience, Bool.and_eq_true, decide_eq_true_eq] at hselected
  refine ⟨hselected.1, fun a ha => ?_⟩
  have hrow := (Option.all_eq_true _ _).mp hselected.2 a ha
  rw [Bool.and_eq_true, decide_eq_true_eq, decide_eq_true_eq] at hrow
  obtain ⟨hnetwork, hnetuid⟩ := hfiled.audience id row hget
  rw [← hnetwork, ← hnetuid, hrow.1, hrow.2]

/-- The status returns with the number of hotkeys of the snapshot, none where there is no
snapshot; both raise where the audience of the source is not configured. -/
def Agree (env : ScoreEnv Content) (t : ScoreTables) (source : String) (maxAge now : ℤ) : Prop :=
  match latestSnapshotScores env t source maxAge now,
    status env t source ((now - maxAge) / 1000) with
  | .ok (some scores), .ok st => st.activeScoreCount = scores.items.length
  | .ok none, .ok st => st.activeScoreCount = 0
  | .error e, .error e' => e = e' ∧ configuredScoreAudience env source = .error e
  | _, _ => False

end Agreement

end Cathedral.Publisher.ExternalReports
