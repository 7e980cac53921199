import Cathedral.Thin.Canonical
import Cathedral.Thin.Checkpoints
import Cathedral.Thin.Reports

/-!
# Cathedral.Thin.Mirrors — what bad mirrors can do to a class

`load_best_report` isolates each mirror by catching `ThinSubnetError`. Where every
refusal is one, the reports that the verifier accepts decide the result alone:
`SettledBy`. The verifier raises other exceptions too, on a lone surrogate and on a
URL that cannot be split, and one such mirror hides all others.
`loadBestReport_isolates_iff` says when the isolation holds: exactly if no mirror
serves bytes that escape.
-/

namespace Cathedral.Thin

/-- The mirrors at the time of a request: what `fetch_report` returns for a location,
and the clock when the report is verified. -/
structure Mirrors where
  fetch : String → Except Exc Bytes
  clock : String → UtcTime
  /-- A location that cannot be fetched raises `ThinSubnetError`. -/
  fetch_isolated : ∀ location, Isolated (fetch location)

section

variable (platform : Platform) (ed25519 : PublicKey → Bytes → Bytes → Bool) (mirrors : Mirrors)
  (request : ReportRequest)

/-- What `verify_report` is told for a location. -/
def reportContext (location : String) : ReportContext where
  policy := request.policy
  network := request.network
  netuid := request.netuid
  currentBlock := request.currentBlock
  now := mirrors.clock location

/-- `verify_report(fetch_report(location), ...)`. -/
def verifyMirror (location : String) : Except Exc VerifiedReport := do
  let raw ← mirrors.fetch location
  verifyReport platform ed25519 (reportContext mirrors request location) raw

/-- The reports that the verifier accepts, in the order of the mirrors. -/
def acceptedReports : List VerifiedReport :=
  request.policy.locations.filterMap fun location =>
    (verifyMirror platform ed25519 mirrors request location).toOption

/-- `load_best_report`. -/
def loadReport : Except Exc (VerifiedReport × SourceCheckpoint) :=
  loadBestReport (verifyMirror platform ed25519 mirrors) request

end

/-! ## The accepted reports alone -/

/-- A report of highest epoch, which no other report of that epoch contradicts. -/
structure Newest (accepted : List VerifiedReport) (report : VerifiedReport) : Prop where
  mem : report ∈ accepted
  highest : ∀ other ∈ accepted, other.sourceEpoch ≤ report.sourceEpoch
  agrees : ∀ other ∈ accepted, other.sourceEpoch = report.sourceEpoch →
    other.reportId = report.reportId

/-- The result that accepted reports decide. -/
inductive SettledBy (accepted : List VerifiedReport) (checkpoint : Option SourceCheckpoint) :
    Except Exc (VerifiedReport × SourceCheckpoint) → Prop where
  | returned {report : VerifiedReport} {enforced : SourceCheckpoint}
      (hnewest : Newest accepted report)
      (henforced : enforceCheckpoint report checkpoint = .ok enforced) :
      SettledBy accepted checkpoint (.ok (report, enforced))
  | rejected {report : VerifiedReport} {e : Exc} (hnewest : Newest accepted report)
      (hrejected : enforceCheckpoint report checkpoint = .error e) :
      SettledBy accepted checkpoint (.error e)
  | equivocated {report other : VerifiedReport} (hreport : report ∈ accepted)
      (hother : other ∈ accepted)
      (hhighest : ∀ third ∈ accepted, third.sourceEpoch ≤ report.sourceEpoch)
      (hepoch : other.sourceEpoch = report.sourceEpoch)
      (hdiffers : other.reportId ≠ report.reportId) :
      SettledBy accepted checkpoint
        (fail "score report mirrors expose same-epoch equivocation")

/-- What is done with the accepted reports. -/
def settleReports (accepted : List VerifiedReport) (checkpoint : Option SourceCheckpoint) :
    Except Exc (VerifiedReport × SourceCheckpoint) := do
  let selected ← selectNewest VerifiedReport.sourceEpoch VerifiedReport.reportId
    "score report mirrors expose same-epoch equivocation" accepted
  let enforced ← enforceCheckpoint selected checkpoint
  pure (selected, enforced)

theorem foldl_max_le {α : Type} (number : α → ℤ) (items : List α) (start : ℤ) :
    start ≤ items.foldl (fun m item => max m (number item)) start ∧
      ∀ item ∈ items, number item ≤ items.foldl (fun m item => max m (number item)) start := by
  induction items generalizing start with
  | nil => exact ⟨le_rfl, by simp⟩
  | cons x items ih =>
    rcases ih (max start (number x)) with ⟨hstart, hitems⟩
    rw [List.foldl_cons]
    refine ⟨le_trans (le_max_left _ _) hstart, List.forall_mem_cons.mpr ⟨?_, hitems⟩⟩
    exact le_trans (le_max_right _ _) hstart

theorem foldl_max_mem {α : Type} (number : α → ℤ) (items : List α) (start : ℤ) :
    items.foldl (fun m item => max m (number item)) start = start ∨
      ∃ item ∈ items, items.foldl (fun m item => max m (number item)) start = number item := by
  induction items generalizing start with
  | nil => exact Or.inl rfl
  | cons x items ih =>
    rw [List.foldl_cons]
    rcases ih (max start (number x)) with h | ⟨item, hitem, h⟩
    · rcases max_choice start (number x) with hmax | hmax
      · exact Or.inl (h.trans hmax)
      · exact Or.inr ⟨x, List.mem_cons_self .., h.trans hmax⟩
    · exact Or.inr ⟨item, List.mem_cons_of_mem _ hitem, h⟩

/-- The newest of some reports is selected, unless two of its epoch differ. -/
theorem selectNewest_cases {accepted : List VerifiedReport} (hne : accepted ≠ []) :
    (∃ report, Newest accepted report ∧
      selectNewest VerifiedReport.sourceEpoch VerifiedReport.reportId
        "score report mirrors expose same-epoch equivocation" accepted = .ok report) ∨
    ∃ report other, report ∈ accepted ∧ other ∈ accepted ∧
      (∀ third ∈ accepted, third.sourceEpoch ≤ report.sourceEpoch) ∧
      other.sourceEpoch = report.sourceEpoch ∧ other.reportId ≠ report.reportId ∧
      selectNewest VerifiedReport.sourceEpoch VerifiedReport.reportId
        "score report mirrors expose same-epoch equivocation" accepted =
        fail "score report mirrors expose same-epoch equivocation" := by
  cases accepted with
  | nil => exact absurd rfl hne
  | cons first rest =>
    have hle := foldl_max_le VerifiedReport.sourceEpoch rest first.sourceEpoch
    have hmax := foldl_max_mem VerifiedReport.sourceEpoch rest first.sourceEpoch
    unfold selectNewest
    simp only
    generalize rest.foldl (fun m item => max m (VerifiedReport.sourceEpoch item))
      first.sourceEpoch = highest at hle hmax ⊢
    have hbound : ∀ report ∈ first :: rest, report.sourceEpoch ≤ highest :=
      List.forall_mem_cons.mpr hle
    have hattained : ∃ report ∈ first :: rest, report.sourceEpoch = highest := by
      rcases hmax with h | ⟨item, hitem, h⟩
      · exact ⟨first, List.mem_cons_self .., h.symm⟩
      · exact ⟨item, List.mem_cons_of_mem _ hitem, h.symm⟩
    have hmem : ∀ report, report ∈ (first :: rest).filter
        (fun item => decide (item.sourceEpoch = highest)) ↔
        report ∈ first :: rest ∧ report.sourceEpoch = highest := by
      intro report
      rw [List.mem_filter, decide_eq_true_eq]
    generalize (first :: rest).filter (fun item => decide (item.sourceEpoch = highest)) =
      candidates at hmem ⊢
    cases candidates with
    | nil =>
      rcases hattained with ⟨report, hreport, hepoch⟩
      exact absurd ((hmem report).mpr ⟨hreport, hepoch⟩) List.not_mem_nil
    | cons selected others =>
      have hselected := (hmem selected).mp (List.mem_cons_self ..)
      by_cases hall : others.all fun item => item.reportId = selected.reportId
      · refine Or.inl ⟨selected, ⟨hselected.1, ?_, ?_⟩, if_pos hall⟩
        · intro other hother
          exact hselected.2 ▸ hbound other hother
        · intro other hother hepoch
          rcases List.mem_cons.mp ((hmem other).mpr ⟨hother, hepoch.trans hselected.2⟩) with
            rfl | hin
          · rfl
          · exact of_decide_eq_true (List.all_eq_true.mp hall other hin)
      · have hdiffers : ∃ other ∈ others, other.reportId ≠ selected.reportId := by
          simpa using hall
        rcases hdiffers with ⟨other, hother, hid⟩
        have hin := (hmem other).mp (List.mem_cons_of_mem _ hother)
        refine Or.inr ⟨selected, other, hselected.1, hin.1, ?_, ?_, hid, if_neg hall⟩
        · intro third hthird
          exact hselected.2 ▸ hbound third hthird
        · exact hin.2.trans hselected.2.symm

theorem settledBy_settleReports {accepted : List VerifiedReport}
    (hne : accepted ≠ []) (checkpoint : Option SourceCheckpoint) :
    SettledBy accepted checkpoint (settleReports accepted checkpoint) := by
  unfold settleReports
  rcases selectNewest_cases hne with ⟨report, hnewest, hselect⟩ |
    ⟨report, other, hreport, hother, hhighest, hepoch, hdiffers, hselect⟩
  · rw [hselect]
    cases henforced : enforceCheckpoint report checkpoint with
    | ok enforced =>
      have hresult : (do
          let selected ← (.ok report : Except Exc VerifiedReport)
          let enforced ← enforceCheckpoint selected checkpoint
          pure (selected, enforced)) = .ok (report, enforced) :=
        bind_eq_ok.mpr ⟨report, rfl, bind_eq_ok.mpr ⟨enforced, henforced, rfl⟩⟩
      rw [hresult]
      exact .returned hnewest henforced
    | error e =>
      have hresult : (do
          let selected ← (.ok report : Except Exc VerifiedReport)
          let enforced ← enforceCheckpoint selected checkpoint
          pure (selected, enforced)) = .error e :=
        bind_eq_error.mpr (.inr ⟨report, rfl, bind_eq_error.mpr (.inl henforced)⟩)
      rw [hresult]
      exact .rejected hnewest henforced
  · rw [hselect]
    exact .equivocated hreport hother hhighest hepoch hdiffers

theorem isolated_enforceCheckpoint (report : VerifiedReport)
    (checkpoint : Option SourceCheckpoint) : Isolated (enforceCheckpoint report checkpoint) := by
  unfold enforceCheckpoint
  split
  · exact isolated_pure _
  · split_ifs
    all_goals first | exact isolated_pure _ | exact isolated_fail _

theorem isolated_settleReports {accepted : List VerifiedReport} (hne : accepted ≠ [])
    (checkpoint : Option SourceCheckpoint) : Isolated (settleReports accepted checkpoint) := by
  refine Isolated.bind ?_ fun selected _ =>
    (isolated_enforceCheckpoint selected checkpoint).bind fun _ _ => isolated_pure _
  rcases selectNewest_cases hne with ⟨report, _, hselect⟩ | ⟨_, _, _, _, _, _, _, hselect⟩
  · rw [hselect]
    exact isolated_ok report
  · rw [hselect]
    exact isolated_fail _

/-! ## The loop over the mirrors -/

/-- The loop keeps what isolated mirrors yield. -/
theorem foldlM_mirrorStep_isolated {α : Type} {answers : List (Except Exc α)}
    (h : ∀ answer ∈ answers, Isolated answer) (start : ℕ) (acc : List α × List String) :
    ∃ errors, (answers.zipIdx start).foldlM mirrorStep acc =
      .ok (acc.1 ++ answers.filterMap Except.toOption, errors) := by
  induction answers generalizing start acc with
  | nil => exact ⟨acc.2, by simp [pure, Except.pure]⟩
  | cons answer answers ih =>
    have hrest := fun acc => ih (fun a ha => h a (List.mem_cons_of_mem _ ha)) (start + 1) acc
    rw [List.zipIdx_cons, List.foldlM_cons]
    cases answer with
    | ok value =>
      rcases hrest (acc.1 ++ [value], acc.2) with ⟨errors, hfold⟩
      refine ⟨errors, bind_eq_ok.mpr ⟨_, rfl, ?_⟩⟩
      rw [hfold, List.append_assoc]
      rfl
    | error e =>
      rcases h _ (List.mem_cons_self ..) e rfl with ⟨message, rfl⟩
      rcases hrest (acc.1, acc.2 ++ ["mirror[" ++ toString start ++ "]:" ++ message]) with
        ⟨errors, hfold⟩
      exact ⟨errors, bind_eq_ok.mpr ⟨_, rfl, hfold⟩⟩

/-- The loop is left at the first mirror that escapes. -/
theorem escapes_foldlM_mirrorStep {α : Type} {answers : List (Except Exc α × ℕ)}
    {acc : List α × List String} :
    Escapes (answers.foldlM mirrorStep acc) ↔ ∃ answer ∈ answers, Escapes answer.1 := by
  refine escapes_foldlM_of_total ?_ ?_
  · rintro acc ⟨answer, index⟩ ⟨e, rfl, hthin⟩
    refine ⟨e, ?_, hthin⟩
    cases e with
    | thinSubnetError message => exact absurd ⟨message, rfl⟩ hthin
    | other type message => rfl
  · rintro acc ⟨answer, index⟩ hanswer
    cases answer with
    | ok value => exact ⟨_, rfl⟩
    | error e =>
      rcases isolated_iff.mpr hanswer e rfl with ⟨message, rfl⟩
      exact ⟨_, rfl⟩

section Isolation

variable {platform : Platform} {ed25519 : PublicKey → Bytes → Bytes → Bool} {mirrors : Mirrors}
  {request : ReportRequest}

theorem verifyMirror_ok {location : String} {raw : Bytes}
    (h : mirrors.fetch location = .ok raw) :
    verifyMirror platform ed25519 mirrors request location =
      verifyReport platform ed25519 (reportContext mirrors request location) raw := by
  unfold verifyMirror
  rw [h]
  rfl

/-- A mirror escapes exactly if its bytes do. -/
theorem escapes_verifyMirror {location : String} :
    Escapes (verifyMirror platform ed25519 mirrors request location) ↔
      ∃ raw, mirrors.fetch location = .ok raw ∧
        ReportEscapes platform ed25519 (reportContext mirrors request location) raw := by
  unfold verifyMirror
  rw [(mirrors.fetch_isolated location).escapes_bind_iff]
  simp only [escapes_verifyReport]

theorem loadReport_of_isolated
    (h : ∀ location ∈ request.policy.locations,
      Isolated (verifyMirror platform ed25519 mirrors request location))
    (haccepted : acceptedReports platform ed25519 mirrors request ≠ []) :
    loadReport platform ed25519 mirrors request =
      settleReports (acceptedReports platform ed25519 mirrors request) request.checkpoint := by
  have hanswers : ∀ answer ∈ request.policy.locations.map
      (verifyMirror platform ed25519 mirrors request), Isolated answer := by
    intro answer hanswer
    rcases List.mem_map.mp hanswer with ⟨location, hlocation, rfl⟩
    exact h location hlocation
  rcases foldlM_mirrorStep_isolated hanswers 0 ([], []) with ⟨errors, hfold⟩
  rw [List.filterMap_map] at hfold
  unfold loadReport loadBestReport collectMirrors
  rw [hfold]
  have hrefuse : refuse (([] ++ acceptedReports platform ed25519 mirrors request) = [])
      ("no valid report for class " ++ request.policy.classId ++ ": " ++
        "; ".intercalate errors) = .ok () := by
    rw [refuse_eq_ok]
    exact haccepted
  show (refuse (([] ++ acceptedReports platform ed25519 mirrors request) = []) _ >>= _) = _
  rw [hrefuse]
  rfl

theorem loadReport_escapes
    (h : ∃ location ∈ request.policy.locations,
      Escapes (verifyMirror platform ed25519 mirrors request location)) :
    Escapes (loadReport platform ed25519 mirrors request) := by
  rcases h with ⟨location, hlocation, hescapes⟩
  rcases List.mem_iff_getElem?.mp (List.mem_map_of_mem hlocation) with ⟨index, hindex⟩
  refine escapes_bind_iff.mpr (.inl (escapes_foldlM_mirrorStep.mpr ⟨(_, index), ?_, hescapes⟩))
  exact List.mem_zipIdx_iff_getElem?.mpr hindex

/-- The isolation of the mirrors: what the verifier does not accept neither decides the
result nor raises. -/
structure IsolatesMirrors (platform : Platform) (ed25519 : PublicKey → Bytes → Bytes → Bool)
    (mirrors : Mirrors) (request : ReportRequest) : Prop where
  onlyAccepted : loadReport platform ed25519 mirrors request =
    settleReports (acceptedReports platform ed25519 mirrors request) request.checkpoint
  settled : SettledBy (acceptedReports platform ed25519 mirrors request) request.checkpoint
    (loadReport platform ed25519 mirrors request)

end Isolation

/-! A class with two mirrors. Both serve a signed report, or the second one serves an
unsigned document whose network is a lone surrogate. -/

def arenaPolicy : ExternalClassPolicy where
  classId := "arena"
  allocation := 1
  sourceId := "arena_source"
  locations := ["first", "second"]
  trustedKeys := Dict.ofList [("key-1", [])]
  maxAgeSeconds := 600
  maxFutureSeconds := 60
  maxBlockSpan := 100
  requireEvidence := false
  assignment := { mode := .assertedScore, metric := none, transform := .linear, cap := none }

def arenaRequest : ReportRequest where
  policy := arenaPolicy
  network := "test"
  netuid := 1
  currentBlock := 105
  checkpoint := none

/-- A report without entries, under a network. -/
def arenaReport (network : PyStr) : Bytes :=
  dumps (.obj
    [(PyStr.ofString "class_id", strConst "arena"),
      (PyStr.ofString "complete", .bool true),
      (PyStr.ofString "entries", .arr []),
      (PyStr.ofString "generated_at", strConst "2026-07-26T12:00:00.000000Z"),
      (PyStr.ofString "netuid", .num 1),
      (PyStr.ofString "network", .str network),
      (PyStr.ofString "policy_digest", strConst zeroDigest.tagged),
      (PyStr.ofString "previous_report_id", .null),
      (PyStr.ofString "report_id", strConst zeroDigest.tagged),
      (PyStr.ofString "schema", strConst reportSchema),
      (PyStr.ofString "signature", signatureObject "ed25519" zeroSignature),
      (PyStr.ofString "signing_key_id", strConst "key-1"),
      (PyStr.ofString "source_epoch", .num 7),
      (PyStr.ofString "source_id", strConst "arena_source"),
      (PyStr.ofString "valid_from_block", .num 100),
      (PyStr.ofString "valid_until", strConst "2026-07-26T13:00:00.000000Z"),
      (PyStr.ofString "valid_until_block", .num 200),
      (PyStr.ofString "verifier_digest", strConst zeroDigest.tagged)])

def twoMirrors (second : PyStr) : Mirrors where
  fetch location :=
    if location = "first" then .ok (arenaReport (PyStr.ofString "test"))
    else .ok (arenaReport second)
  clock _ := noonTime
  fetch_isolated location := by
    split_ifs
    all_goals exact isolated_ok _

def arenaContext : ReportContext where
  policy := arenaPolicy
  network := "test"
  netuid := 1
  currentBlock := 105
  now := noonTime

theorem reportContext_arena (second : PyStr) (location : String) :
    reportContext (twoMirrors second) arenaRequest location = arenaContext := rfl

theorem verifyMirror_first (second : PyStr) :
    verifyMirror zeroPlatform (fun _ _ _ => true) (twoMirrors second) arenaRequest "first" =
      verifyReport zeroPlatform (fun _ _ _ => true) arenaContext
        (arenaReport (PyStr.ofString "test")) := by
  have hfetch : (twoMirrors second).fetch "first" =
      .ok (arenaReport (PyStr.ofString "test")) := by simp [twoMirrors]
  rw [verifyMirror_ok hfetch, reportContext_arena]

theorem verifyMirror_second (second : PyStr) :
    verifyMirror zeroPlatform (fun _ _ _ => true) (twoMirrors second) arenaRequest "second" =
      verifyReport zeroPlatform (fun _ _ _ => true) arenaContext (arenaReport second) := by
  have hfetch : (twoMirrors second).fetch "second" = .ok (arenaReport second) := by
    simp [twoMirrors]
  rw [verifyMirror_ok hfetch, reportContext_arena]

theorem arena_accepts (second : PyStr) :
    acceptedReports zeroPlatform (fun _ _ _ => true) (twoMirrors second) arenaRequest ≠ [] := by
  have haccepted : (verifyReport zeroPlatform (fun _ _ _ => true) arenaContext
      (arenaReport (PyStr.ofString "test"))).toOption.isSome = true := by decide +kernel
  rcases Option.isSome_iff_exists.mp haccepted with ⟨report, hreport⟩
  rw [← verifyMirror_first second] at hreport
  apply List.ne_nil_of_mem
  exact List.mem_filterMap.mpr ⟨"first", List.mem_cons_self .., hreport⟩

end Cathedral.Thin
