import Cathedral.Lib.Run
import Cathedral.Publisher.ExternalReports

/-!
# Cathedral.Publisher.ReportFences — epochs of external reports over whole runs

`store_report` reads its fence by source or audience and writes its rows by report
id. The two agree as long as no report takes the id of a row from another source or
audience.
-/

namespace Cathedral.Publisher.ExternalReports

/-! ## Scopes -/

/-- What a fence is for: the source, with the network and netuid where an audience is
required. -/
abbrev FenceKey : Type := String × Option (Option String × Option ℤ)

def fenceKey (source : String) (network : Option String) (netuid : Option ℤ) : FenceKey :=
  (source, if source ∈ audienceRequiredSources then some (network, netuid) else none)

def ReportRow.fenceKey (row : ReportRow) : FenceKey :=
  ExternalReports.fenceKey row.source row.network row.netuid

def Report.fenceKey (report : Report) : FenceKey :=
  ExternalReports.fenceKey report.source report.network report.netuid

/-- A source with an audience exactly if it requires one. -/
structure Scope where
  source : String
  audience : Option (String × ℤ)
  required : audience.isSome = decide (source ∈ audienceRequiredSources)

def Scope.key (k : Scope) : FenceKey :=
  (k.source, k.audience.map fun a => (some a.1, some a.2))

/-- The latest report of a scope, and its epoch. -/
def Scope.latest (k : Scope) (t : ScoreTables) : Option (String × ReportRow) :=
  latestReport t k.source k.audience

def Scope.epoch (k : Scope) (t : ScoreTables) : Option ℤ := (k.latest t).map fun row => row.2.epoch

variable {t t' t'' : ScoreTables} {k : Scope} {env : ScoreEnv Content} {report : Report}
  {receivedAt : Millis} {accepted : Accepted}

/-- The query of a scope selects the rows with its key. -/
theorem ofAudience_iff (k : Scope) (row : ReportRow) :
    ofAudience k.source k.audience row = true ↔ row.fenceKey = k.key := by
  obtain ⟨source, audience, hrequired⟩ := k
  cases audience with
  | none =>
    have hnot : source ∉ audienceRequiredSources := by simpa using hrequired
    simp only [ofAudience, ReportRow.fenceKey, fenceKey, Scope.key, Option.all_none,
      Bool.and_true, decide_eq_true_eq, Option.map_none, Prod.mk.injEq]
    constructor
    · intro hsource
      exact ⟨hsource, if_neg (hsource ▸ hnot)⟩
    · exact And.left
  | some a =>
    have hmem : source ∈ audienceRequiredSources := by simpa using hrequired
    simp only [ofAudience, ReportRow.fenceKey, fenceKey, Scope.key, Option.all_some,
      Bool.and_eq_true, decide_eq_true_eq, Option.map_some, Prod.mk.injEq]
    constructor
    · rintro ⟨hsource, hnetwork, hnetuid⟩
      refine ⟨hsource, ?_⟩
      rw [if_pos (hsource ▸ hmem), hnetwork, hnetuid]
    · rintro ⟨hsource, haudience⟩
      rw [if_pos (hsource ▸ hmem), Option.some.injEq, Prod.mk.injEq] at haudience
      exact ⟨hsource, haudience⟩

theorem mem_ofAudience (k : Scope) (t : ScoreTables) (id : String) (row : ReportRow) :
    (id, row) ∈ t.reports.items.filter (fun row => ofAudience k.source k.audience row.2) ↔
      t.reports.get? id = some row ∧ row.fenceKey = k.key := by
  rw [List.mem_filter, Dict.mem_items, ofAudience_iff]

variable {id : String} {row : ReportRow}

/-- The latest report is a row of its scope, and no row of the scope has a later epoch. -/
theorem of_latest (h : k.latest t = some (id, row)) :
    t.reports.get? id = some row ∧ row.fenceKey = k.key ∧
      ∀ id' row', t.reports.get? id' = some row' → row'.fenceKey = k.key →
        row'.epoch ≤ row.epoch := by
  obtain ⟨hget, hkey⟩ := (mem_ofAudience k t id row).mp (List.argmax_mem h)
  refine ⟨hget, hkey, fun id' row' hget' hkey' => ?_⟩
  exact List.le_of_mem_argmax (f := fun row : String × ReportRow => row.2.epoch)
    ((mem_ofAudience k t id' row').mpr ⟨hget', hkey'⟩) h

theorem of_latest_none (h : k.latest t = none) (hget : t.reports.get? id = some row) :
    row.fenceKey ≠ k.key := by
  intro hkey
  have hmem := (mem_ofAudience k t id row).mpr ⟨hget, hkey⟩
  rw [List.argmax_eq_none.mp h] at hmem
  exact List.not_mem_nil hmem

/-- A row of a scope is at most as new as its latest report. -/
theorem exists_latest (hget : t.reports.get? id = some row) (hkey : row.fenceKey = k.key) :
    ∃ id' row', k.latest t = some (id', row') ∧ row.epoch ≤ row'.epoch := by
  cases h : k.latest t with
  | none => exact absurd hkey (of_latest_none h hget)
  | some latest =>
    obtain ⟨id', row'⟩ := latest
    exact ⟨id', row', rfl, (of_latest h).2.2 id row hget hkey⟩

/-! ## What one call does -/

/-- The report is newer than every stored one of its scope. -/
def Newest (t : ScoreTables) (report : Report) : Prop :=
  ∀ id row, t.reports.get? id = some row → row.fenceKey = report.fenceKey →
    row.epoch < report.epoch

/-- The report passes its fence, and its id belongs to a row of another scope. -/
def Displaces (t : ScoreTables) (report : Report) : Prop :=
  Newest t report ∧
    ∃ row, t.reports.get? report.reportId = some row ∧ row.fenceKey ≠ report.fenceKey

theorem configuredScoreAudience_isSome {source : String} {audience : Option (String × ℤ)}
    (h : configuredScoreAudience env source = .ok audience) :
    audience.isSome = decide (source ∈ audienceRequiredSources) := by
  unfold configuredScoreAudience at h
  split at h
  · next hnot =>
      cases h
      simp [hnot]
  · next hmem =>
      rw [not_not] at hmem
      split at h
      · split at h
        · cases h
        · simp only at h
          split at h
          · cases h
          · cases h
            simp [hmem]
      · cases h

/-- The audience `store_report` works with is that of the report. -/
theorem checkStored_scope {audience : Option (String × ℤ)}
    (h : checkStored env report = .ok audience) :
    ∃ k : Scope, k.source = report.source ∧ k.audience = audience ∧ k.key = report.fenceKey := by
  unfold checkStored at h
  split at h
  · cases h
  · obtain ⟨expected, hexpected, h⟩ := bind_eq_ok.mp h
    have hrequired := configuredScoreAudience_isSome hexpected
    split at h
    · cases h
    · next hmatch =>
        cases h
        refine ⟨⟨report.source, audience, hrequired⟩, rfl, rfl, ?_⟩
        cases audience with
        | none =>
          have hnot : report.source ∉ audienceRequiredSources := by simpa using hrequired
          simp [Scope.key, Report.fenceKey, fenceKey, hnot]
        | some a =>
          have hmem : report.source ∈ audienceRequiredSources := by simpa using hrequired
          have haudience : report.network = some a.1 ∧ report.netuid = some a.2 := by
            simpa using hmatch
          simp [Scope.key, Report.fenceKey, fenceKey, hmem, haudience.1, haudience.2]

/-- A call that returns found its report as the latest of its scope, or wrote a report
newer than all of them. -/
theorem storeReport_cases (h : storeReport env t report receivedAt = .ok (t', accepted)) :
    (t' = t ∧ accepted.idempotent = true ∧
      ∃ id row, t.reports.get? id = some row ∧ row.fenceKey = report.fenceKey ∧
        row.epoch = report.epoch ∧ row.reportSha256 = report.reportSha256) ∨
    (t' = writeReport t report receivedAt ∧ accepted.idempotent = false ∧ Newest t report) := by
  obtain ⟨audience, hcheck, h⟩ := bind_eq_ok.mp h
  obtain ⟨k, hsource, haudience, hkey⟩ := checkStored_scope hcheck
  have hlatest : latestReport t report.source audience = k.latest t := by
    rw [Scope.latest, hsource, haudience]
  rw [hlatest] at h
  split at h
  · next hnone =>
      cases h
      refine Or.inr ⟨rfl, rfl, fun id row hget hrow => ?_⟩
      exact absurd (hrow.trans hkey.symm) (of_latest_none hnone hget)
  · next id stored hsome =>
      obtain ⟨hget, hstored, hmax⟩ := of_latest hsome
      split at h
      · cases h
      · next hnotOld =>
          split at h
          · next hequal =>
              split at h
              · cases h
              · next hdigest =>
                  cases h
                  rw [not_not] at hdigest
                  exact Or.inl ⟨rfl, rfl, id, stored, hget, hstored.trans hkey, hequal.symm,
                    hdigest⟩
          · next hnotEqual =>
              cases h
              refine Or.inr ⟨rfl, rfl, fun id' row' hget' hrow' => ?_⟩
              have hle := hmax id' row' hget' (hrow'.trans hkey.symm)
              omega

/-! ## Advance of the reports -/

/-- Every row stays or is followed by one of its scope that is no older; every new row
is newer than all the old ones of its scope. -/
structure Advanced (t t' : ScoreTables) : Prop where
  kept : ∀ id row, t.reports.get? id = some row → ∃ id' row',
    t'.reports.get? id' = some row' ∧ row'.fenceKey = row.fenceKey ∧ row.epoch ≤ row'.epoch
  fresh : ∀ id' row', t'.reports.get? id' = some row' →
    (∃ id, t.reports.get? id = some row') ∨
      ∀ id row, t.reports.get? id = some row → row.fenceKey = row'.fenceKey →
        row.epoch < row'.epoch

theorem Advanced.refl (t : ScoreTables) : Advanced t t where
  kept id row hget := ⟨id, row, hget, rfl, le_rfl⟩
  fresh id' _ hget' := Or.inl ⟨id', hget'⟩

theorem Advanced.trans (h : Advanced t t') (h' : Advanced t' t'') : Advanced t t'' where
  kept id row hget := by
    obtain ⟨id', row', hget', hkey', hle'⟩ := h.kept id row hget
    obtain ⟨id'', row'', hget'', hkey'', hle''⟩ := h'.kept id' row' hget'
    exact ⟨id'', row'', hget'', hkey''.trans hkey', hle'.trans hle''⟩
  fresh id'' row'' hget'' := by
    rcases h'.fresh id'' row'' hget'' with ⟨id', hget'⟩ | hnewer
    · exact h.fresh id' row'' hget'
    · refine Or.inr fun id row hget hkey => ?_
      obtain ⟨id', row', hget', hkey', hle⟩ := h.kept id row hget
      exact hle.trans_lt (hnewer id' row' hget' (hkey'.trans hkey))

theorem get?_writeReport (t : ScoreTables) (report : Report) (receivedAt : Millis) (id : String) :
    (writeReport t report receivedAt).reports.get? id =
      if report.reportId = id then some (report.row receivedAt) else t.reports.get? id :=
  Dict.get?_set ..

/-- The report takes its own id: a free one, or one of its scope. -/
def OwnId (t : ScoreTables) (report : Report) : Prop :=
  ∀ row, t.reports.get? report.reportId = some row → row.fenceKey = report.fenceKey

theorem ownId_of_not_displaces (hnew : Newest t report) (h : ¬ Displaces t report) :
    OwnId t report := by
  intro row hget
  by_contra hne
  exact h ⟨hnew, row, hget, hne⟩

theorem advanced_writeReport (hnew : Newest t report) (hown : OwnId t report) :
    Advanced t (writeReport t report receivedAt) where
  kept id row hget := by
    by_cases hid : report.reportId = id
    · -- the old row of the id is replaced by a newer one of its scope
      subst hid
      have hkey := hown row hget
      refine ⟨report.reportId, report.row receivedAt, ?_, hkey.symm, (hnew _ row hget hkey).le⟩
      rw [get?_writeReport, if_pos rfl]
    · refine ⟨id, row, ?_, rfl, le_rfl⟩
      rw [get?_writeReport, if_neg hid, hget]
  fresh id' row' hget' := by
    rw [get?_writeReport] at hget'
    split at hget'
    · cases hget'
      exact Or.inr hnew
    · exact Or.inl ⟨id', hget'⟩

/-! ## One digest for each epoch -/

/-- Rows of one scope and epoch have one digest across two states of the tables. -/
def DigestsAgree (t t' : ScoreTables) : Prop :=
  ∀ id id' row row', t.reports.get? id = some row → t'.reports.get? id' = some row' →
    row.fenceKey = row'.fenceKey → row.epoch = row'.epoch → row.reportSha256 = row'.reportSha256

theorem DigestsAgree.advance (h : DigestsAgree t t) (hadv : Advanced t t') : DigestsAgree t t' := by
  intro id id' row row' hget hget' hkey hepoch
  rcases hadv.fresh id' row' hget' with ⟨id'', hget''⟩ | hnewer
  · exact h id id'' row row' hget hget'' hkey hepoch
  · exact absurd hepoch (hnewer id row hget hkey).ne

theorem digestsAgree_writeReport (h : DigestsAgree t t) (hnew : Newest t report) :
    DigestsAgree (writeReport t report receivedAt) (writeReport t report receivedAt) := by
  intro id id' row row' hget hget' hkey hepoch
  rw [get?_writeReport] at hget hget'
  split at hget
  · cases hget
    split at hget'
    · cases hget'
      rfl
    · -- the new report is newer than every old row of its scope
      exact absurd hepoch (hnew id' row' hget' hkey.symm).ne'
  · split at hget'
    · cases hget'
      exact absurd hepoch (hnew id row hget hkey).ne
    · exact h id id' row row' hget hget' hkey hepoch

/-! ## The system -/

/-- One posted report: what `normalize_report` and `store_report` are called with. -/
structure Call where
  env : ScoreEnv Content
  payload : Payload
  now : ℤ
  bodySha256 : Option String
  receivedAt : Millis

/-- The normalised report, bound to its body when that has a digest. -/
def Call.normalized (call : Call) : Except String Report := do
  let report ← normalizeReport call.env call.payload call.now
  .ok (call.bodySha256.elim report (bindAuthenticatedBody report))

/-- A call commits, or fails anywhere and leaves the tables as they were. -/
inductive Step (t : ScoreTables) (call : Call) : ScoreTables → Prop where
  | stored {report : Report} {t' : ScoreTables} {accepted : Accepted} :
      call.normalized = .ok report →
      storeReport call.env t report call.receivedAt = .ok (t', accepted) → Step t call t'
  | refused : Step t call t

/-- A step whose report takes no id from another scope. -/
def OwnStep (t : ScoreTables) (call : Call) (t' : ScoreTables) : Prop :=
  Step t call t' ∧ ∀ report, call.normalized = .ok report → ¬ Displaces t report

theorem step_advanced {call : Call} (h : OwnStep t call t') : Advanced t t' := by
  obtain ⟨hstep, hown⟩ := h
  cases hstep with
  | refused => exact .refl t
  | stored hreport hstore =>
    rcases storeReport_cases hstore with ⟨rfl, -, -⟩ | ⟨rfl, -, hnew⟩
    · exact .refl _
    · exact advanced_writeReport hnew (ownId_of_not_displaces hnew (hown _ hreport))

theorem run_advanced {ls : List Call} (h : Run OwnStep t ls t') : Advanced t t' :=
  Run.invariant (.refl t) (fun _ _ _ hadv hstep => hadv.trans (step_advanced hstep)) h

theorem step_digests {call : Call} (hdigests : DigestsAgree t t) (h : Step t call t') :
    DigestsAgree t' t' := by
  cases h with
  | refused => exact hdigests
  | stored hreport hstore =>
    rcases storeReport_cases hstore with ⟨rfl, -, -⟩ | ⟨rfl, -, hnew⟩
    · exact hdigests
    · exact digestsAgree_writeReport hdigests hnew

theorem run_digests {ls : List Call} (h : Run OwnStep .empty ls t) : DigestsAgree t t :=
  Run.invariant (I := fun t => DigestsAgree t t) (by intro id id' row row' hget; cases hget)
    (fun _ _ _ hdigests hstep => step_digests hdigests hstep.1) h

/-! ## Other scopes -/

/-- The query of another scope does not see the write. -/
theorem latest_writeReport (receivedAt : Millis) (hown : OwnId t report)
    (hne : k.key ≠ report.fenceKey) : k.latest (writeReport t report receivedAt) = k.latest t := by
  have hother : ∀ row : ReportRow, row.fenceKey = report.fenceKey →
      ofAudience k.source k.audience row = false := by
    intro row hrow
    rw [Bool.eq_false_iff, Ne, ofAudience_iff, hrow]
    exact hne.symm
  have hrows : (writeReport t report receivedAt).reports.items.filter
        (fun row => ofAudience k.source k.audience row.2) =
      t.reports.items.filter fun row => ofAudience k.source k.audience row.2 :=
    Dict.filter_set t.reports (hother _ rfl) fun old hold => hother old (hown old hold)
  rw [Scope.latest, latestReport, hrows]
  rfl

/-- The entries of another report stay. -/
theorem entriesOf_writeReport (source : String) (hne : id ≠ report.reportId) :
    entriesOf (writeReport t report receivedAt) id source = entriesOf t id source := by
  have hinserts : ∀ (scores : List Score) (d : Dict (String × String) EntryRow),
      (scores.foldl (fun d score => d.set (report.reportId, score.minerHotkey)
        (report.entry receivedAt score)) d).items.filter
          (fun row => row.1.1 = id && row.2.source = source) =
        d.items.filter fun row => row.1.1 = id && row.2.source = source := by
    intro scores
    induction scores with
    | nil => exact fun _ => rfl
    | cons score rest ih =>
      intro d
      rw [List.foldl_cons, ih]
      exact Dict.filter_set d (by simp [hne.symm]) fun old _ => by simp [hne.symm]
  have hdelete : (t.entries.items.filter fun row => decide (row.1.1 ≠ report.reportId)).filter
        (fun row => row.1.1 = id && row.2.source = source) =
      t.entries.items.filter fun row => row.1.1 = id && row.2.source = source := by
    rw [List.filter_filter]
    refine List.filter_congr fun row _ => ?_
    by_cases hid : row.1.1 = id
    · simp [hid, hne]
    · simp [hid]
  exact (hinserts report.scores _).trans hdelete

/-- Nothing another scope reads has changed. -/
def Untouched (k : Scope) (t t' : ScoreTables) : Prop :=
  k.latest t' = k.latest t ∧ k.epoch t' = k.epoch t ∧
    ∀ (env : ScoreEnv Content) (maxAge now : ℤ),
      configuredScoreAudience env k.source = .ok k.audience →
        latestSnapshotScores env t' k.source maxAge now =
          latestSnapshotScores env t k.source maxAge now

/-- The snapshot is read from the latest report and its entries. -/
theorem snapshot_congr (hlatest : k.latest t' = k.latest t)
    (hentries : ∀ id row, k.latest t = some (id, row) →
      entriesOf t' id k.source = entriesOf t id k.source)
    (env : ScoreEnv Content) (maxAge now : ℤ)
    (haudience : configuredScoreAudience env k.source = .ok k.audience) :
    latestSnapshotScores env t' k.source maxAge now =
      latestSnapshotScores env t k.source maxAge now := by
  have hreports : latestReport t' k.source k.audience = latestReport t k.source k.audience :=
    hlatest
  unfold latestSnapshotScores
  rw [haudience]
  simp only [bind, Except.bind]
  rw [hreports]
  split
  · rfl
  · next id row hsome => rw [hentries id row hsome]

theorem untouched_writeReport (hown : OwnId t report) (hne : k.key ≠ report.fenceKey) :
    Untouched k t (writeReport t report receivedAt) := by
  have hlatest := latest_writeReport receivedAt hown hne
  refine ⟨hlatest, by rw [Scope.epoch, hlatest, Scope.epoch], ?_⟩
  refine snapshot_congr hlatest fun id row hsome => ?_
  obtain ⟨hget, hkey, -⟩ := of_latest hsome
  refine entriesOf_writeReport k.source ?_
  rintro rfl
  exact hne (hkey.symm.trans (hown row hget))

/-! ## The laws of the fences -/

/-- What holds between two states of a run. -/
structure Fenced (t t' : ScoreTables) : Prop where
  monotone : ∀ (k : Scope) (epoch : ℤ), k.epoch t = some epoch →
    ∃ epoch', k.epoch t' = some epoch' ∧ epoch ≤ epoch'
  oneDigest : DigestsAgree t t'
  retry : ∀ id row (env : ScoreEnv Content) report receivedAt t'' accepted,
    t.reports.get? id = some row → row.fenceKey = report.fenceKey → row.epoch = report.epoch →
      storeReport env t' report receivedAt = .ok (t'', accepted) →
        row.reportSha256 = report.reportSha256 → t'' = t' ∧ accepted.idempotent = true

theorem epoch_monotone (hadv : Advanced t t') {epoch : ℤ} (h : k.epoch t = some epoch) :
    ∃ epoch', k.epoch t' = some epoch' ∧ epoch ≤ epoch' := by
  obtain ⟨⟨id, row⟩, hlatest, rfl⟩ := Option.map_eq_some_iff.mp h
  obtain ⟨hget, hkey, -⟩ := of_latest hlatest
  obtain ⟨id', row', hget', hkey', hle⟩ := hadv.kept id row hget
  obtain ⟨id'', row'', hlatest', hle'⟩ := exists_latest hget' (hkey'.trans hkey)
  exact ⟨row''.epoch, by rw [Scope.epoch, hlatest', Option.map_some], hle.trans hle'⟩

/-- A report that was once stored is not written again. -/
theorem retry_unchanged (hadv : Advanced t t') (hget : t.reports.get? id = some row)
    (hkey : row.fenceKey = report.fenceKey) (hepoch : row.epoch = report.epoch)
    (hstore : storeReport env t' report receivedAt = .ok (t'', accepted)) :
    t'' = t' ∧ accepted.idempotent = true := by
  rcases storeReport_cases hstore with ⟨hsame, hidem, -⟩ | ⟨-, -, hnew⟩
  · exact ⟨hsame, hidem⟩
  · obtain ⟨id', row', hget', hkey', hle⟩ := hadv.kept id row hget
    have hlt := hnew id' row' hget' (hkey'.trans hkey)
    omega

/-- Over every run whose reports take no id of another source or audience: epochs never
fall, an epoch has one digest, a retry changes nothing, and a further report leaves
every other source and audience as it was. -/
theorem report_fences {before after : List Call} (hbefore : Run OwnStep .empty before t)
    (hafter : Run OwnStep t after t') :
    Fenced t t' ∧ ∀ (call : Call) report t'' accepted, call.normalized = .ok report →
      ¬ Displaces t' report →
        storeReport call.env t' report call.receivedAt = .ok (t'', accepted) →
          ∀ k : Scope, k.key ≠ report.fenceKey → Untouched k t' t'' := by
  have hadv : Advanced t t' := run_advanced hafter
  refine ⟨⟨fun k epoch => epoch_monotone hadv, (run_digests hbefore).advance hadv, ?_⟩, ?_⟩
  · intro id row env report receivedAt t'' accepted hget hkey hepoch hstore _
    exact retry_unchanged hadv hget hkey hepoch hstore
  · intro call report t'' accepted _ hown hstore k hne
    rcases storeReport_cases hstore with ⟨rfl, -, -⟩ | ⟨rfl, -, hnew⟩
    · exact ⟨rfl, rfl, fun _ _ _ _ => rfl⟩
    · exact untouched_writeReport (ownId_of_not_displaces hnew hown) hne

/-! ## One source takes the id of another -/

def sampleEnv : ScoreEnv Content where
  policyNetwork := some "finney"
  policyNetuid := some "39"
  maxReportAgeSecs := 3600
  maxReportFutureSecs := 120
  maxScores := 4096
  contentDigest := fun content => content.mechanism

/-- A complete report of one hotkey; the mechanism stands for its digest. -/
def samplePayload (source mechanism : String) (epoch : ℤ) (reportId : String) : Payload where
  source := some source
  mechanism := some mechanism
  epoch := epoch
  complete := some true
  network := some "finney"
  netuid := some 39
  generatedAt := 0
  scores := [⟨some "5F", none, none, some (.finite 1), none, none, none, none, none, .null⟩]
  metadata := .null
  reportId := some reportId

def sampleCall (source mechanism : String) (epoch : ℤ) (reportId : String) : Call :=
  ⟨sampleEnv, samplePayload source mechanism epoch reportId, 0, none, 0⟩

def sampleReport (source mechanism : String) (epoch : ℤ) (reportId : String) : Report :=
  finishReport sampleEnv
    { source, mechanism, epoch, complete := some true, network := some "finney",
      netuid := some 39, generatedAt := 0, metadata := .null
      scores := [⟨"5F", none, 1, none, none, none, 0, none, .null⟩] } (some reportId)

def violet : Scope := ⟨"violet_audio", none, by decide⟩

theorem not_displaces
    (h : (t.reports.get? report.reportId).all fun row => row.fenceKey = report.fenceKey) :
    ¬ Displaces t report := by
  rintro ⟨-, row, hget, hne⟩
  rw [hget, Option.all_some, decide_eq_true_eq] at h
  exact hne h

/-- A call that writes its report. -/
def Writes (t : ScoreTables) (call : Call) (report : Report) : Prop :=
  call.normalized = .ok report ∧
    storeReport call.env t report call.receivedAt =
      .ok (writeReport t report call.receivedAt, report.accepted call.receivedAt false)

theorem Writes.step {call : Call} (h : Writes t call report) :
    Step t call (writeReport t report call.receivedAt) := .stored h.1 h.2

theorem Writes.ownStep {call : Call} (h : Writes t call report)
    (hown : (t.reports.get? report.reportId).all fun row => row.fenceKey = report.fenceKey) :
    OwnStep t call (writeReport t report call.receivedAt) := by
  refine ⟨h.step, fun report' hnormal => ?_⟩
  have hsame : report = report' := Except.ok.inj (h.1.symm.trans hnormal)
  exact hsame ▸ not_displaces hown

/-- The reports of the runs below: two of Violet for one epoch, and one of another
source under Violet's id and under an id of its own. -/
def violetFirst : Report := sampleReport "violet_audio" "a" 5 "r1"

def violetOther : Report := sampleReport "violet_audio" "b" 5 "r3"

def fastForeign : Report := sampleReport "cathedral_sat_fast" "c" 1 "r1"

def fastOwn : Report := sampleReport "cathedral_sat_fast" "c" 1 "r2"

def fastNext : Report := sampleReport "cathedral_sat_fast" "d" 2 "r2"

/-- Violet's report is the first row. -/
def violetStored : ScoreTables := writeReport .empty violetFirst 0

theorem violet_writes : Writes .empty (sampleCall "violet_audio" "a" 5 "r1") violetFirst :=
  ⟨by decide +kernel, by decide +kernel⟩

/-- Another source stores two reports under an id of its own; Violet's stands. -/
theorem report_fences_two_sources : ∃ t : ScoreTables,
    Fenced violetStored t ∧ violet.epoch t = some 5 ∧
      Untouched violet t (writeReport t fastNext 0) := by
  have hstart : Run OwnStep .empty [] .empty := .nil
  have hviolet := hstart.snoc (violet_writes.ownStep (by decide +kernel))
  have hown : Writes violetStored (sampleCall "cathedral_sat_fast" "c" 1 "r2") fastOwn :=
    ⟨by decide +kernel, by decide +kernel⟩
  have hfast := hviolet.here.snoc (hown.ownStep (by decide +kernel))
  have hnext : Writes (writeReport violetStored fastOwn 0)
      (sampleCall "cathedral_sat_fast" "d" 2 "r2") fastNext :=
    ⟨by decide +kernel, by decide +kernel⟩
  obtain ⟨hfenced, hothers⟩ := report_fences hviolet hfast
  refine ⟨_, hfenced, by decide +kernel, ?_⟩
  exact hothers _ fastNext _ _ hnext.1 (not_displaces (by decide +kernel)) hnext.2 violet
    (by decide +kernel)

/-- Another source takes the id of Violet's report: Violet has no report any more, and
then stores a second digest for the same epoch. -/
theorem foreign_id_drops_report : ∃ t t' calls calls',
    Run Step .empty [sampleCall "violet_audio" "a" 5 "r1"] violetStored ∧
      Run Step violetStored calls t ∧ Run Step t calls' t' ∧
      violet.key ≠ fastForeign.fenceKey ∧ violet.epoch violetStored = some 5 ∧
      violet.epoch t = none ∧ ¬ Fenced violetStored t ∧ ¬ Untouched violet violetStored t ∧
      ¬ DigestsAgree violetStored t' := by
  have hforeign : Writes violetStored (sampleCall "cathedral_sat_fast" "c" 1 "r1") fastForeign :=
    ⟨by decide +kernel, by decide +kernel⟩
  have hsecond : Writes (writeReport violetStored fastForeign 0)
      (sampleCall "violet_audio" "b" 5 "r3") violetOther :=
    ⟨by decide +kernel, by decide +kernel⟩
  have hbefore : violet.epoch violetStored = some 5 := by decide +kernel
  have hafter : violet.epoch (writeReport violetStored fastForeign 0) = none := by decide +kernel
  refine ⟨_, _, _, _, Run.single_iff.mpr violet_writes.step, Run.single_iff.mpr hforeign.step,
    Run.single_iff.mpr hsecond.step, by decide +kernel, hbefore, hafter, ?_, ?_, ?_⟩
  · intro hfenced
    obtain ⟨epoch, hepoch, -⟩ := hfenced.monotone violet 5 hbefore
    exact absurd (hafter.symm.trans hepoch) (by simp)
  · rintro ⟨-, hsame, -⟩
    exact absurd (hafter.symm.trans (hsame.trans hbefore)) (by simp)
  · intro hagree
    have hdigest := hagree "r1" "r3" (violetFirst.row 0) (violetOther.row 0) (by decide +kernel)
      (by decide +kernel) rfl rfl
    exact absurd hdigest (by decide +kernel)

end Cathedral.Publisher.ExternalReports
