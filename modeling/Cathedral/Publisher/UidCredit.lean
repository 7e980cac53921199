import Cathedral.Publisher.CybergymSnapshot

/-!
# Cathedral.Publisher.UidCredit — whose scores a uid is paid for

The artifact adapters add the scores of hotkeys up by uid, through a mapping that reads
rows of any age; `compose_eligible` then pays the uids that a fresh row holds. The SAT
adapter (`scaffold/publisher/mechanism_sat_adapter.py`, with `score_totals` of
`v2_pipeline.py`) is here, the CyberGym one in `CybergymSnapshot`.

A uid's counted score is a function of the scores of the hotkeys mapped to it.
`creditsOnly_iff` says when these are hotkeys bound to it in a given sense, and
`recycled_uid_credit_iff` instantiates it with fresh rows for both adapters.
-/

namespace Cathedral.Publisher.Mechanisms

/-! ## The SAT adapter -/

/-- A row of `solution_manifests` or `v2_submit_events`. -/
structure SolveRow where
  minerHotkey : String
  challengeId : String
  status : String
  weightedScore : Option ℚ
  verifiedAtIso : Option String
  epoch : Option ℤ

structure SolveTables where
  solutionManifests : List SolveRow
  v2SubmitEvents : List SolveRow

/-- The keyword arguments of `score_totals`. -/
structure ScoreWindow where
  sinceIso : Option String
  epoch : Option ℤ

def scoreRows (table : List SolveRow) (w : ScoreWindow) : List SolveRow :=
  table.filter fun row =>
    row.status = "verified" &&
      (w.sinceIso.filter (· ≠ "")).all (fun since => row.verifiedAtIso.any (since < ·)) &&
      w.epoch.all fun epoch => row.epoch = some epoch

/-- One row of the loop: a later row of a miner and challenge replaces one of no higher
priority. -/
def keepRow (priority : ℕ) (byKey : Dict (String × String) (ℕ × ℚ)) (row : SolveRow) :
    Dict (String × String) (ℕ × ℚ) :=
  if row.minerHotkey = "" ∨ row.challengeId = "" then byKey
  else
    let key := (row.minerHotkey, row.challengeId)
    if (byKey.get? key).all fun current => current.1 ≤ priority then
      byKey.set key (priority, row.weightedScore.getD 0)
    else byKey

/-- `score_totals`: the bitset events win over the manifests. -/
def scoreTotals (t : SolveTables) (w : ScoreWindow) : Dict String ℚ :=
  let byKey := (scoreRows t.solutionManifests w).foldl (keepRow 0) Dict.empty
  let byKey := (scoreRows t.v2SubmitEvents w).foldl (keepRow 1) byKey
  byKey.items.foldl (fun totals kv => totals.add kv.1.1 kv.2.2) Dict.empty

def satMechanismScores (t : SolveTables) (g : Metagraph) (a : Audience) (w : ScoreWindow)
    (builtAtMs : ℤ) : ScoreVector × ScoreVectorMeta :=
  (creditUids (loadHotkeyToUid g a).get? (scoreTotals t w),
    ⟨"sat_v2", builtAtMs, true, "sat_adapter"⟩)

/-! ## Counted scores -/

section Credit

variable {K : Type} {o : Options} {spec : MechanismSpec} {uidOf : K → Option ℤ}
  {binds : K → ℤ → Prop} {totals : Dict K ℚ}

/-- A uid is credited the scores of the hotkeys mapped to it. -/
theorem getD_creditUids (uidOf : K → Option ℤ) (totals : Dict K ℚ) (uid : ℤ) :
    (creditUids uidOf totals).getD uid 0 = totals.sumOn fun k => uidOf k = some uid := by
  have hloop : ∀ (l : List (K × ℚ)) (vector : ScoreVector),
      (l.foldl (creditHotkey uidOf) vector).getD uid 0 =
        vector.getD uid 0 + ((l.filter fun kv => uidOf kv.1 = some uid).map Prod.snd).sum := by
    intro l
    induction l with
    | nil => simp
    | cons kv rest ih =>
      intro vector
      rw [List.foldl_cons, ih, List.filter_cons, creditHotkey]
      cases huid : uidOf kv.1 with
      | none => simp
      | some u =>
        rw [Dict.getD_add]
        by_cases heq : u = uid
        · simp [heq, add_assoc]
        · simp [heq]
  rw [creditUids, hloop, Dict.getD_empty, zero_add, Dict.sumOn]

theorem registeredScore_creditUids (o : Options) (spec : MechanismSpec) (uidOf : K → Option ℤ)
    (totals : Dict K ℚ) (uid : ℤ) :
    registeredScore o spec (creditUids uidOf totals) uid =
      if Payable o spec uid then max 0 (totals.sumOn fun k => uidOf k = some uid) else 0 := by
  rw [registeredScore, getD_creditUids]

variable [DecidableEq K]

/-- The counted score of a uid derives only from the scores of hotkeys bound to it: it is
the same for any scores of the same hotkeys that agree on those. -/
def CreditsOnly (o : Options) (spec : MechanismSpec) (uidOf : K → Option ℤ)
    (binds : K → ℤ → Prop) (totals : Dict K ℚ) : Prop :=
  ∀ (uid : ℤ) (totals' : Dict K ℚ), (∀ k, k ∈ totals'.keys ↔ k ∈ totals.keys) →
    (∀ k, binds k uid → totals'.get? k = totals.get? k) →
      registeredScore o spec (creditUids uidOf totals') uid =
        registeredScore o spec (creditUids uidOf totals) uid

theorem creditsOnly_iff : CreditsOnly o spec uidOf binds totals ↔
    ∀ k ∈ totals.keys, ∀ uid, uidOf k = some uid → Payable o spec uid → binds k uid := by
  constructor
  · intro h k hk uid huid hpayable
    by_contra hbinds
    -- a score for `k` that lifts the sum of its uid above what is counted now
    obtain ⟨lift, hlift⟩ : ∃ lift, lift =
        max 0 (totals.sumOn fun j => uidOf j = some uid) + 1 -
          totals.sumOn fun j => uidOf j = some uid := ⟨_, rfl⟩
    have hkeys : ∀ j, j ∈ (totals.add k lift).keys ↔ j ∈ totals.keys := by
      intro j
      rw [Dict.mem_keys, Dict.mem_keys, Dict.get?_add]
      by_cases hj : k = j
      · subst hj
        simpa using Dict.mem_keys.mp hk
      · rw [if_neg hj]
    have hagree : ∀ j, binds j uid → (totals.add k lift).get? j = totals.get? j := by
      intro j hj
      rw [Dict.get?_add, if_neg]
      rintro rfl
      exact hbinds hj
    have hsame := h uid (totals.add k lift) hkeys hagree
    rw [registeredScore_creditUids, registeredScore_creditUids, if_pos hpayable, if_pos hpayable,
      Dict.sumOn_add, if_pos huid, hlift, add_sub_cancel] at hsame
    have hpos : (0 : ℚ) ≤ max 0 (totals.sumOn fun j => uidOf j = some uid) := le_max_left _ _
    rw [max_eq_right (by linarith)] at hsame
    linarith
  · intro h uid totals' hkeys hagree
    rw [registeredScore_creditUids, registeredScore_creditUids]
    by_cases hpayable : Payable o spec uid
    · rw [if_pos hpayable, if_pos hpayable, Dict.sumOn_eq_sum, Dict.sumOn_eq_sum]
      have hfinset : totals'.keys.toFinset = totals.keys.toFinset := by
        ext k
        rw [List.mem_toFinset, List.mem_toFinset, hkeys]
      rw [hfinset]
      congr 1
      refine Finset.sum_congr rfl fun k hk => ?_
      obtain ⟨hk, huid⟩ := Finset.mem_filter.mp hk
      rw [Dict.getD, Dict.getD, hagree k (h k (List.mem_toFinset.mp hk) uid huid hpayable)]
    · rw [if_neg hpayable, if_neg hpayable]

end Credit

/-! ## Fresh rows -/

/-- No scored hotkey is recorded, by a row that is not fresh, with a uid that a fresh row
holds and the mechanism may pay. -/
def NoStaleHolder (g : Metagraph) (a : Audience) (cutoff : String) (blockSelfWeight : Bool)
    (ownerUid : Option ℤ) (scored : String → Prop) : Prop :=
  ∀ hotkey row uid, scored hotkey → g.get? (a.network, a.netuid, hotkey) = some row →
    row.uid = some uid → (∃ holder, FreshlyBinds g a cutoff holder uid) →
      ¬ (blockSelfWeight = true ∧ ownerUid = some uid) → cutoff < row.updatedAtIso

/-- The mapping of the adapters credits fresh rows only, when no stale row shares a uid with
one of them. -/
theorem creditsOnly_fresh_iff {K : Type} [DecidableEq K] (text : K → Option String)
    {g : Metagraph} {a : Audience} {cutoff : String} {uids : Finset ℤ}
    (huids : ∀ uid, uid ∈ uids ↔ ∃ hotkey, FreshlyBinds g a cutoff hotkey uid)
    (args : ComposeArgs) (nowMs : ℤ) (spec : MechanismSpec) (totals : Dict K ℚ) :
    CreditsOnly (args.options uids nowMs) spec
        (fun k => (text k).bind (loadHotkeyToUid g a).get?)
        (fun k uid => ∃ hotkey, text k = some hotkey ∧ FreshlyBinds g a cutoff hotkey uid) totals ↔
      NoStaleHolder g a cutoff args.blockSelfWeight spec.ownerUid
        fun hotkey => ∃ k ∈ totals.keys, text k = some hotkey := by
  rw [creditsOnly_iff]
  constructor
  · rintro h hotkey row uid ⟨k, hk, htext⟩ hrow huid hholder howner
    have hmapped : (text k).bind (loadHotkeyToUid g a).get? = some uid := by
      rw [htext, Option.bind_some, get?_loadHotkeyToUid]
      exact ⟨row, hrow, huid⟩
    obtain ⟨hotkey', htext', row', hrow', -, hfresh⟩ :=
      h k hk uid hmapped ⟨(huids uid).mpr hholder, howner⟩
    cases Option.some.inj (htext.symm.trans htext')
    cases Option.some.inj (hrow.symm.trans hrow')
    exact hfresh
  · rintro h k hk uid hmapped ⟨hmem, howner⟩
    obtain ⟨hotkey, htext, hmapped⟩ := Option.bind_eq_some_iff.mp hmapped
    obtain ⟨row, hrow, huid⟩ := (get?_loadHotkeyToUid g a hotkey uid).mp hmapped
    exact ⟨hotkey, htext, row, hrow, huid,
      h hotkey row uid ⟨k, hk, htext⟩ hrow huid ((huids uid).mp hmem) howner⟩

/-- The hotkey scores behind a CyberGym snapshot: the positive ones of its report. -/
def ReportTotals (I : Cybergym.Interp) (env : Cybergym.ReaderEnv) (t : Cybergym.Tables)
    (a : Audience) (epoch : Option ℤ) (readAt : ℤ) (snapshot : Cybergym.Snapshot)
    (totals : Dict PyStr ℚ) : Prop :=
  snapshot.Empty ∧ totals = Dict.empty ∨
    ∃ report scores generatedAt verified, Cybergym.Newest I env t epoch a report ∧
      Cybergym.Credited I env t report readAt scores generatedAt verified ∧
        totals = Cybergym.positiveScores verified.scores

/-- The weights of `compose_eligible` are shares of counted scores, and what either adapter
posts counts for a uid only the scores of hotkeys freshly bound to it exactly when no scored
hotkey has a stale row with the uid of a fresh one. -/
theorem recycled_uid_credit_iff {s : SnapshotSettings} {g : Metagraph} {now : ℤ} {minStake : ℚ}
    {uids : Finset ℤ} {info : EligibilityMeta} {cutoff : String}
    (hgate : eligibleUids s g now minStake = .ok (uids, info)) (hcutoff : s.cutoff now = .ok cutoff)
    (args : ComposeArgs) (nowMs : ℤ) :
    (∀ specs scores weights debug info',
      composeEligible s g now minStake specs scores nowMs args = .ok (weights, debug, info') →
        ∀ uid, weights.getD uid 0 =
          ((specs.filter fun spec => Contributes (args.options uids nowMs) scores spec).map
            fun spec => spec.weightFraction * Share.share uids
              (registeredScore (args.options uids nowMs) spec (posted scores spec)) uid).sum /
            renorm (args.options uids nowMs) debug) ∧
    (∀ (spec : MechanismSpec) (t : SolveTables) (w : ScoreWindow) (builtAtMs : ℤ),
      (satMechanismScores t g s.audience w builtAtMs).1 =
          creditUids (loadHotkeyToUid g s.audience).get? (scoreTotals t w) ∧
        (CreditsOnly (args.options uids nowMs) spec (loadHotkeyToUid g s.audience).get?
            (FreshlyBinds g s.audience cutoff) (scoreTotals t w) ↔
          NoStaleHolder g s.audience cutoff args.blockSelfWeight spec.ownerUid
            (· ∈ (scoreTotals t w).keys))) ∧
    ∀ (spec : MechanismSpec) (I : Cybergym.Interp) (env : Cybergym.ReaderEnv)
      (t : Cybergym.Tables) (epoch : Option ℤ) (readAt : ℤ) (snapshot : Cybergym.Snapshot),
      env.network = s.audience.network → env.netuid = some s.audience.netuid →
      Cybergym.cybergymScoreSnapshot I env t g epoch readAt = .ok snapshot →
        ∃ totals, ReportTotals I env t s.audience epoch readAt snapshot totals ∧
          snapshot.vector = creditUids (Cybergym.uidOf g s.audience) totals ∧
          (CreditsOnly (args.options uids nowMs) spec (Cybergym.uidOf g s.audience)
              (fun k uid => ∃ hotkey, PyStr.encode? k = some hotkey ∧
                FreshlyBinds g s.audience cutoff hotkey uid) totals ↔
            NoStaleHolder g s.audience cutoff args.blockSelfWeight spec.ownerUid
              fun hotkey => ∃ k ∈ totals.keys, PyStr.encode? k = some hotkey) := by
  obtain ⟨cutoff', hcutoff', huids⟩ := eligibleUids_ok hgate
  cases Except.ok.inj (hcutoff.symm.trans hcutoff')
  refine ⟨?_, ?_, ?_⟩
  · intro specs scores weights debug info' h uid
    obtain ⟨uids', hgate', hcompose⟩ := composeEligible_compose h
    rw [hgate] at hgate'
    cases hgate'
    exact compose_shares hcompose uid
  · intro spec t w builtAtMs
    refine ⟨rfl, ?_⟩
    have h := creditsOnly_fresh_iff some huids args nowMs spec (scoreTotals t w)
    simp only [Option.some.injEq, exists_eq_left', exists_eq_right] at h
    exact h
  · intro spec I env t epoch readAt snapshot hnetwork hnetuid h
    rcases Cybergym.snapshot_cases h with ⟨hvector, hidle⟩ | ⟨a, report, scores, generatedAt,
      verified, hnewest, hcredited, hcredits⟩
    · exact ⟨Dict.empty, Or.inl ⟨⟨hvector, hidle⟩, rfl⟩, hvector,
        creditsOnly_fresh_iff PyStr.encode? huids args nowMs spec _⟩
    · obtain rfl : a = s.audience := by
        obtain ⟨network, netuid⟩ := a
        have hsame := Option.some.inj (hnewest.2.1.symm.trans hnetuid)
        exact congrArg₂ Audience.mk (hnewest.1.symm.trans hnetwork) hsame
      exact ⟨Cybergym.positiveScores verified.scores,
        Or.inr ⟨report, scores, generatedAt, verified, hnewest, hcredited, rfl⟩, hcredits.vector,
        creditsOnly_fresh_iff PyStr.encode? huids args nowMs spec _⟩

/-! ## A recycled uid -/

/-- A uid recorded for a hotkey that left and for the one that has it now. -/
def recycledRows : Metagraph := Dict.ofList
  [(("finney", 39, "gone"), ⟨some 5, "2026-01-01T00:00:00.000Z"⟩),
    (("finney", 39, "here"), ⟨some 5, "2026-01-02T00:00:00.000Z"⟩)]

/-- One verified solve, of the hotkey that left. -/
def goneSolves : SolveTables where
  solutionManifests := []
  v2SubmitEvents := [⟨"gone", "c1", "verified", some 3, some "2026-01-01T00:00:00.000Z", some 1⟩]

def satSpec : MechanismSpec := ⟨"sat_v2", "", 1, "artifact", none, true, false⟩

def tenMinutes : SnapshotSettings := ⟨⟨"finney", 39⟩, 600 * 1000000, true⟩

/-- One second into 2 January 2026. -/
def newYear : ℤ := (daysBeforeYear 2026 + 1) * 86400000000 + 1000000

def anySolves : ScoreWindow := ⟨none, none⟩

theorem cutoff_newYear : tenMinutes.cutoff newYear = .ok "2026-01-01T23:50:01.000Z" := by
  decide +kernel

/-- The fresh row is that of the hotkey that has the uid now. -/
theorem freshlyBinds_recycledRows {cutoff hotkey : String} {uid : ℤ}
    (hcutoff : tenMinutes.cutoff newYear = .ok cutoff)
    (h : FreshlyBinds recycledRows tenMinutes.audience cutoff hotkey uid) : hotkey = "here" := by
  cases Except.ok.inj (cutoff_newYear.symm.trans hcutoff)
  obtain ⟨row, hrow, -, hfresh⟩ := h
  have hmem := Dict.mem_of_get?_ofList hrow
  simp only [List.mem_cons, Prod.mk.injEq, List.not_mem_nil, or_false] at hmem
  rcases hmem with ⟨-, rfl⟩ | ⟨⟨-, -, rfl⟩, -⟩
  · exact absurd hfresh (by decide)
  · rfl

/-- The uid is paid the whole fraction, and no hotkey freshly bound to it has a score. -/
theorem recycled_uid_paid : ∃ weights debug info,
    composeEligible tenMinutes recycledRows newYear 0 [satSpec]
        (Dict.ofList [("sat_v2",
          satMechanismScores goneSolves recycledRows tenMinutes.audience anySolves 0)])
        0 ⟨true, none, true⟩ = .ok (weights, debug, info) ∧
      weights.getD 5 0 = 1 ∧
        ∀ cutoff hotkey, tenMinutes.cutoff newYear = .ok cutoff →
          FreshlyBinds recycledRows tenMinutes.audience cutoff hotkey 5 →
            (scoreTotals goneSolves anySolves).get? hotkey = none := by
  have hpaid : (composeEligible tenMinutes recycledRows newYear 0 [satSpec]
      (Dict.ofList [("sat_v2",
        satMechanismScores goneSolves recycledRows tenMinutes.audience anySolves 0)])
      0 ⟨true, none, true⟩).toOption.map (fun r => r.1.getD 5 0) = some 1 := by
    decide +kernel
  obtain ⟨⟨weights, debug, info⟩, hok, hweight⟩ := Option.map_eq_some_iff.mp hpaid
  refine ⟨weights, debug, info, toOption_eq_some.mp hok, hweight, ?_⟩
  intro cutoff hotkey hcutoff hfresh
  rw [freshlyBinds_recycledRows hcutoff hfresh]
  decide +kernel

/-- So the counted score of a uid does not derive from its fresh hotkeys here. -/
theorem recycled_uid_credit_stale : ∃ uids info,
    eligibleUids tenMinutes recycledRows newYear 0 = .ok (uids, info) ∧
      ¬ CreditsOnly ((⟨true, none, true⟩ : ComposeArgs).options uids 0) satSpec
        (loadHotkeyToUid recycledRows tenMinutes.audience).get?
        (FreshlyBinds recycledRows tenMinutes.audience "2026-01-01T23:50:01.000Z")
        (scoreTotals goneSolves anySolves) := by
  have hok : (eligibleUids tenMinutes recycledRows newYear 0).toOption.isSome = true := by
    decide +kernel
  obtain ⟨⟨uids, info⟩, hgate⟩ := Option.isSome_iff_exists.mp hok
  have hgate := toOption_eq_some.mp hgate
  refine ⟨uids, info, hgate, ?_⟩
  rw [((recycled_uid_credit_iff hgate cutoff_newYear ⟨true, none, true⟩ 0).2.1 satSpec goneSolves
    anySolves 0).2]
  intro h
  have hscored : "gone" ∈ (scoreTotals goneSolves anySolves).keys := by decide +kernel
  have hgone : recycledRows.get? ("finney", 39, "gone") =
      some ⟨some 5, "2026-01-01T00:00:00.000Z"⟩ := by decide
  have hholder : FreshlyBinds recycledRows tenMinutes.audience "2026-01-01T23:50:01.000Z" "here" 5 :=
    ⟨⟨some 5, "2026-01-02T00:00:00.000Z"⟩, by decide, rfl, by decide⟩
  exact absurd (h "gone" _ 5 hscored hgone rfl ⟨"here", hholder⟩ (by decide)) (by decide)

end Cathedral.Publisher.Mechanisms
