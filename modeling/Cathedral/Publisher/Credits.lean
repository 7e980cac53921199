import Cathedral.Publisher.Processes

/-!
# Cathedral.Publisher.Credits — what receipts and the payout ledger share

A receipt stands for a solve row, a ranked submission row and two feed rows
(`Credited`). A step of the processes does one of two things to the tables: it
credits one solve (`Credits`), or it credits none (`Uncredited`). `Inv` ties
receipts, submissions and solve rows together, and both kinds of step keep it.
-/

namespace Cathedral.Publisher.Processes

variable {settings : Settings} {w w' : World} {s s' : Store}

/-! ## What is credited -/

/-- The (challenge, hotkey) pair of a submission row. -/
def pairOf (sub : AgentSubmission) : String × String := (sub.satChallengeId, sub.minerHotkey)

/-- The pair has its row in the solve ledger of its lane. -/
def SolveRow (s : Store) (pair : String × String) : Prop :=
  if challengeKind pair.1 = .kindPerMiner then s.perMinerSolves.get? pair ≠ none
  else s.laneChallengeSolves.get? pair ≠ none

/-- A feed row of a ranked submission. -/
structure FeedRow (settings : Settings) (version : ℕ) (sub : AgentSubmission) (run : EvalRun) :
    Prop where
  version : run.schemaVersion = version
  hotkey : run.minerHotkey = sub.minerHotkey
  task : ∃ tier : ℤ, run.taskIdPublic = hash16 settings (sub.satChallengeId ++ ":" ++ toString tier)
  score : run.weightedScore = sub.currentScore
  accepted : run.rejectionReason = none

/-- The two feed rows of a ranked submission. -/
def FeedRows (settings : Settings) (s : Store) (rowUuid : String) (sub : AgentSubmission) : Prop :=
  ∃ v6 v5, s.evalRuns.get? rowUuid = some v6 ∧ s.evalRuns.get? (compatId rowUuid) = some v5 ∧
    FeedRow settings 6 sub v6 ∧ FeedRow settings 5 sub v5

/-- An attempt row is about the submission row. -/
structure About (a : Attempt) (sub : AgentSubmission) : Prop where
  hotkey : sub.minerHotkey = a.minerHotkey
  challenge : sub.satChallengeId = a.challengeId
  signature : sub.signature = a.signature

/-- The rows a ranked receipt names: its score and its feed rows, where it
stores them. -/
structure Names (a : Attempt) (sub : AgentSubmission) (rowUuid : String) : Prop where
  score : a.weightedScore = none ∨ a.weightedScore = some sub.currentScore
  run : a.evalRunId = none ∨ a.evalRunId = some rowUuid

/-- The rows a receipt stands for: the solve, the ranked submission and the two
feed rows. -/
def Credited (settings : Settings) (s : Store) (receiptId : String) (a : Attempt) : Prop :=
  ∃ sub rowUuid, s.agentSubmissions.get? receiptId = some sub ∧ sub.status = .ranked ∧
    About a sub ∧ SolveRow s (pairOf sub) ∧ FeedRows settings s rowUuid sub ∧ Names a sub rowUuid

/-- What a client may rely on in a receipt. -/
def verdict (a : Attempt) : AttemptStatus × Option String × Option ℕ × Option ℚ × Option String :=
  (a.status, a.rejectionReason, a.solveRank, a.weightedScore, a.evalRunId)

/-! ## What a step does to the tables -/

/-- The columns no transaction rewrites. -/
structure SameSubmission (a a' : Attempt) : Prop where
  challenge : a'.challengeId = a.challengeId
  hotkey : a'.minerHotkey = a.minerHotkey
  signature : a'.signature = a.signature
  kind : a'.challengeKind = a.challengeKind

/-- What a step that credits nothing does to an attempt row: a verdict stays, and
an open live row does not become ranked. -/
structure Kept (a a' : Attempt) : Prop extends SameSubmission a a' where
  closed : a.live = true → a.status.terminal = true → verdict a' = verdict a
  unranked : a.live = true → a.status ≠ .ranked → a'.status ≠ .ranked

theorem SameSubmission.refl (a : Attempt) : SameSubmission a a := ⟨rfl, rfl, rfl, rfl⟩

theorem SameSubmission.live {a a' : Attempt} (h : SameSubmission a a') : a'.live = a.live := by
  rw [Attempt.live, Attempt.live, h.kind]

theorem Kept.refl (a : Attempt) : Kept a a where
  toSameSubmission := .refl a
  closed _ _ := rfl
  unranked _ h := h

/-- The kind of a live row is its challenge's; the request path writes its own
verdicts on per-miner challenges without a kind. -/
def KindOk (a : Attempt) : Prop :=
  a.live = true → a.challengeKind = some (challengeKind a.challengeId) ∨
    (a.challengeKind = none ∧ challengeKind a.challengeId = .kindPerMiner ∧
      a.status.terminal = true)

/-- What a step does to the challenge rows: none disappears or becomes active
again, and a new one has no per-miner id. -/
structure BoardKept (d d' : Dict String LaneChallenge) : Prop where
  old : ∀ cid chal, d.get? cid = some chal →
    ∃ chal', d'.get? cid = some chal' ∧ (chal'.status = .active → chal.status = .active)
  new : ∀ cid chal', d'.get? cid = some chal' → d.get? cid ≠ none ∨
    challengeKind cid ≠ .kindPerMiner

theorem BoardKept.refl (d : Dict String LaneChallenge) : BoardKept d d :=
  ⟨fun _ chal h => ⟨chal, h, id⟩, fun _ _ h => Or.inl (by simp [h])⟩

/-- A step that credits nothing; `free` are the ids no work item has. -/
structure Uncredited (free : String → Prop) (s s' : Store) : Prop where
  kept : ∀ r a, s.attempts.get? r = some a → ∃ a', s'.attempts.get? r = some a' ∧ Kept a a'
  origin : ∀ r a', s'.attempts.get? r = some a' → (∃ a, s.attempts.get? r = some a ∧ Kept a a') ∨
    (s.agentSubmissions.get? r = none ∧ a'.status ≠ .ranked ∧ KindOk a' ∧
      (free r ∨ a'.challengeKind = none))
  signatures : ∀ g, s.submitSignatures.get? g ≠ none → s'.submitSignatures.get? g ≠ none
  board : BoardKept s.laneChallenges s'.laneChallenges
  laneSolves : s'.laneChallengeSolves = s.laneChallengeSolves
  pmSolves : s'.perMinerSolves = s.perMinerSolves
  submissionsKept : ∀ r sub, s.agentSubmissions.get? r = some sub →
    s'.agentSubmissions.get? r = some sub
  submissions : ∀ r sub, s'.agentSubmissions.get? r = some sub →
    s.agentSubmissions.get? r = some sub ∨ (sub.status = .rejected ∧ free r)
  feed : s'.evalRuns = s.evalRuns

/-- A step that credits the submission `sub` under the id `r`. -/
structure Credits (settings : Settings) (free : String → Prop) (s s' : Store) (r : String)
    (sub : AgentSubmission) (rowUuid : String) : Prop where
  ranked : sub.status = .ranked
  fresh : s.agentSubmissions.get? r = none
  submissions : s'.agentSubmissions = s.agentSubmissions.set r sub
  unburned : s.submitSignatures.get? sub.signature = none
  burned : s'.submitSignatures.get? sub.signature ≠ none
  signatures : ∀ g, s.submitSignatures.get? g ≠ none → s'.submitSignatures.get? g ≠ none
  unsolved : ¬ SolveRow s (pairOf sub)
  solved : SolveRow s' (pairOf sub)
  solves : ∀ pair, SolveRow s pair → SolveRow s' pair
  board : BoardKept s.laneChallenges s'.laneChallenges
  laneSolves : ∀ pair, s'.laneChallengeSolves.get? pair ≠ none →
    s.laneChallengeSolves.get? pair ≠ none ∨
      (s.laneChallenges.get? pair.1 ≠ none ∧
        (settings.lockWins = true → ¬ ActiveChallenge s' pair.1))
  feedKept : ∀ u run, s.evalRuns.get? u = some run → s'.evalRuns.get? u = some run
  feed : FeedRows settings s' rowUuid sub
  others : ∀ r', r' ≠ r → s'.attempts.get? r' = s.attempts.get? r'
  receipt : ∀ a', s'.attempts.get? r = some a' →
    a'.status = .ranked ∧ About a' sub ∧ Names a' sub rowUuid ∧ KindOk a'
  kept : ∀ a, s.attempts.get? r = some a → a.live = true ∧ a.status.terminal = false ∧
    a.challengeKind ≠ none ∧ ∃ a', s'.attempts.get? r = some a' ∧ SameSubmission a a'
  free : free r ∨ s.attempts.get? r ≠ none

/-! ## The invariant -/

/-- What holds of an item of work. -/
def WorkOk (s : Store) : Work → Prop
  | .attempt receiptId row => ∃ a, s.attempts.get? receiptId = some a ∧ SameSubmission a row ∧
      (row.live = true → row.challengeKind ≠ none)
  | .refusal receiptId _ => ∃ a, s.attempts.get? receiptId = some a ∧ a.live = true
  | .record subId solve _ => challengeKind solve.challengeId = .kindPerMiner ∧
      s.agentSubmissions.get? subId = none ∧
      ∀ a, s.attempts.get? subId = some a → a.challengeKind = none

structure Inv (settings : Settings) (w : World) : Prop where
  receipts : ∀ r a, w.store.attempts.get? r = some a → a.live = true → a.status = .ranked →
    Credited settings w.store r a
  submissions : ∀ r sub, w.store.agentSubmissions.get? r = some sub → sub.status = .ranked →
    w.store.submitSignatures.get? sub.signature ≠ none ∧ SolveRow w.store (pairOf sub) ∧
      ∀ a, w.store.attempts.get? r = some a → a.live = true → a.status = .ranked
  once : ∀ r r' sub sub', w.store.agentSubmissions.get? r = some sub →
    w.store.agentSubmissions.get? r' = some sub' → sub.status = .ranked → sub'.status = .ranked →
    pairOf sub = pairOf sub' ∨ sub.signature = sub'.signature → r = r'
  kinds : ∀ r a, w.store.attempts.get? r = some a → KindOk a
  board : ∀ cid, w.store.laneChallenges.get? cid ≠ none → challengeKind cid ≠ .kindPerMiner
  /-- In `lock_wins` mode a solved challenge is locked. -/
  slots : ∀ pair, w.store.laneChallengeSolves.get? pair ≠ none →
    w.store.laneChallenges.get? pair.1 ≠ none ∧
      (settings.lockWins = true → ¬ ActiveChallenge w.store pair.1)
  work : ∀ item ∈ w.work, WorkOk w.store item

theorem start_inv (h : Start w) : Inv settings w where
  receipts r a hget := by simp [h.attempts] at hget
  submissions r sub hget := by simp [h.submissions] at hget
  once r r' sub sub' hget := by simp [h.submissions] at hget
  kinds r a hget := by simp [h.attempts] at hget
  board := h.board
  slots pair hget := by simp [h.laneSolves] at hget
  work item hitem := by simp [h.work] at hitem

/-! ## Steps that credit nothing keep the invariant -/

section Uncredited

variable {free : String → Prop}

theorem BoardKept.active {d d' : Dict String LaneChallenge} (h : BoardKept d d') {cid : String}
    (hold : d.get? cid ≠ none) :
    (∃ chal, d'.get? cid = some chal ∧ chal.status = .active) →
      ∃ chal, d.get? cid = some chal ∧ chal.status = .active := by
  rintro ⟨chal', hget', hactive⟩
  obtain ⟨chal, hget⟩ := Option.ne_none_iff_exists'.mp hold
  obtain ⟨chal'', hget'', hkept⟩ := h.old cid chal hget
  rw [hget', Option.some.injEq] at hget''
  subst hget''
  exact ⟨chal, hget, hkept hactive⟩

theorem BoardKept.present {d d' : Dict String LaneChallenge} (h : BoardKept d d') {cid : String}
    (hold : d.get? cid ≠ none) : d'.get? cid ≠ none := by
  obtain ⟨chal, hget⟩ := Option.ne_none_iff_exists'.mp hold
  obtain ⟨chal', hget', -⟩ := h.old cid chal hget
  simp [hget']

theorem Uncredited.solveRow (h : Uncredited free s s') (pair : String × String) :
    SolveRow s' pair ↔ SolveRow s pair := by
  simp only [SolveRow, h.laneSolves, h.pmSolves]

theorem Uncredited.feedRows (h : Uncredited free s s') (rowUuid : String) (sub : AgentSubmission) :
    FeedRows settings s' rowUuid sub ↔ FeedRows settings s rowUuid sub := by
  simp only [FeedRows, h.feed]

/-- A ranked submission row after the step was there before it. -/
theorem Uncredited.ranked (h : Uncredited free s s') {r : String} {sub : AgentSubmission}
    (hget : s'.agentSubmissions.get? r = some sub) (hranked : sub.status = .ranked) :
    s.agentSubmissions.get? r = some sub := by
  rcases h.submissions r sub hget with hold | ⟨hrejected, -⟩
  · exact hold
  · rw [hranked] at hrejected
    cases hrejected

theorem Kept.about {a a' : Attempt} (h : Kept a a') {sub : AgentSubmission} (habout : About a sub) :
    About a' sub :=
  ⟨habout.hotkey.trans h.hotkey.symm, habout.challenge.trans h.challenge.symm,
    habout.signature.trans h.signature.symm⟩

theorem Kept.kindOk {a a' : Attempt} (h : Kept a a') (hkind : KindOk a) : KindOk a' := by
  intro hlive
  have hlive' : a.live = true := h.live.symm.trans hlive
  rw [h.kind, h.challenge]
  refine (hkind hlive').imp_right fun ⟨hnone, hcid, hterminal⟩ => ⟨hnone, hcid, ?_⟩
  have hstatus : a'.status = a.status := congrArg Prod.fst (h.closed hlive' hterminal)
  rw [hstatus, hterminal]

theorem workOk_uncredited (h : Uncredited free w.store s') (hfree : ∀ r, free r → w.Free r)
    {item : Work} (hmem : item ∈ w.work) (hok : WorkOk w.store item) : WorkOk s' item := by
  cases item with
  | attempt receiptId row =>
    obtain ⟨a, hget, hsame, hkind⟩ := hok
    obtain ⟨a', hget', hkept⟩ := h.kept receiptId a hget
    exact ⟨a', hget', ⟨hsame.challenge.trans hkept.challenge.symm,
      hsame.hotkey.trans hkept.hotkey.symm, hsame.signature.trans hkept.signature.symm,
      hsame.kind.trans hkept.kind.symm⟩, hkind⟩
  | refusal receiptId reason =>
    obtain ⟨a, hget, hlive⟩ := hok
    obtain ⟨a', hget', hkept⟩ := h.kept receiptId a hget
    exact ⟨a', hget', hkept.live.trans hlive⟩
  | record subId solve epoch =>
    obtain ⟨hcid, hnone, hrows⟩ := hok
    refine ⟨hcid, ?_, fun a' hget' => ?_⟩
    · rw [Option.eq_none_iff_forall_ne_some]
      intro sub hget
      rcases h.submissions subId sub hget with hold | ⟨-, hnew⟩
      · simp [hnone] at hold
      · exact hfree subId hnew _ hmem rfl
    · rcases h.origin subId a' hget' with ⟨a, hget, hkept⟩ | ⟨-, -, -, hnew | hnew⟩
      · exact hkept.kind.trans (hrows a hget)
      · exact absurd rfl (hfree subId hnew _ hmem)
      · exact hnew

/-- The tables' part of the invariant under a step that credits nothing; its new
work is for the caller. -/
theorem inv_uncredited (hinv : Inv settings w) (h : Uncredited free w.store s')
    (hfree : ∀ r, free r → w.Free r) {work : List Work}
    (hwork : ∀ item ∈ work, item ∈ w.work ∨ WorkOk s' item) :
    Inv settings { store := s', work := work } where
  receipts r a' hget' hlive hranked := by
    rcases h.origin r a' hget' with ⟨a, hget, hkept⟩ | ⟨-, hopen, -⟩
    · have hlive' : a.live = true := hkept.live.symm.trans hlive
      have hstatus : a.status = .ranked := by
        by_contra hne
        exact hkept.unranked hlive' hne hranked
      obtain ⟨sub, u, hsub, hsubRanked, habout, hsolve, hfeed, hnames⟩ :=
        hinv.receipts r a hget hlive' hstatus
      have hverdict := hkept.closed hlive' (by rw [hstatus]; rfl)
      simp only [verdict, Prod.mk.injEq] at hverdict
      refine ⟨sub, u, h.submissionsKept r sub hsub, hsubRanked, hkept.about habout,
        (h.solveRow _).mpr hsolve, (h.feedRows u sub).mpr hfeed, ?_, ?_⟩
      · rw [hverdict.2.2.2.1]
        exact hnames.score
      · rw [hverdict.2.2.2.2]
        exact hnames.run
    · exact absurd hranked hopen
  submissions r sub hget' hranked := by
    have hget := h.ranked hget' hranked
    obtain ⟨hburned, hsolve, hrows⟩ := hinv.submissions r sub hget hranked
    refine ⟨h.signatures _ hburned, (h.solveRow _).mpr hsolve, fun a' ha' hlive => ?_⟩
    rcases h.origin r a' ha' with ⟨a, ha, hkept⟩ | ⟨hnone, -⟩
    · have hlive' : a.live = true := hkept.live.symm.trans hlive
      have hstatus := hrows a ha hlive'
      have hverdict := hkept.closed hlive' (by rw [hstatus]; rfl)
      exact (congrArg Prod.fst hverdict).trans hstatus
    · simp [hget] at hnone
  once r r' sub sub' hget hget' hranked hranked' :=
    hinv.once r r' sub sub' (h.ranked hget hranked) (h.ranked hget' hranked') hranked hranked'
  kinds r a' hget' := by
    rcases h.origin r a' hget' with ⟨a, hget, hkept⟩ | ⟨-, -, hkind, -⟩
    · exact hkept.kindOk (hinv.kinds r a hget)
    · exact hkind
  board cid hget' := by
    obtain ⟨chal', hchal'⟩ := Option.ne_none_iff_exists'.mp hget'
    rcases h.board.new cid chal' hchal' with hold | hnew
    · exact hinv.board cid hold
    · exact hnew
  slots pair hget' := by
    rw [h.laneSolves] at hget'
    obtain ⟨hpresent, hlocked⟩ := hinv.slots pair hget'
    exact ⟨h.board.present hpresent, fun hmode hactive =>
      hlocked hmode (h.board.active hpresent hactive)⟩
  work item hitem := by
    rcases hwork item hitem with hold | hnew
    · exact workOk_uncredited h hfree hold (hinv.work item hold)
    · exact hnew

end Uncredited

/-! ## Steps that credit a solve keep the invariant -/

section Credits

variable {free : String → Prop} {r : String} {sub : AgentSubmission} {rowUuid : String}

theorem Credits.submission_self (h : Credits settings free s s' r sub rowUuid) :
    s'.agentSubmissions.get? r = some sub := by
  rw [h.submissions, Dict.get?_set_self]

theorem Credits.submission_ne (h : Credits settings free s s' r sub rowUuid) {r' : String}
    (hne : r' ≠ r) : s'.agentSubmissions.get? r' = s.agentSubmissions.get? r' := by
  rw [h.submissions, Dict.get?_set_ne _ _ (Ne.symm hne)]

theorem Credits.feedRows (h : Credits settings free s s' r sub rowUuid) {u : String}
    {sub' : AgentSubmission} (hrows : FeedRows settings s u sub') :
    FeedRows settings s' u sub' := by
  obtain ⟨v6, v5, h6, h5, hrest⟩ := hrows
  exact ⟨v6, v5, h.feedKept u v6 h6, h.feedKept _ v5 h5, hrest⟩

/-- A row that was there stays, with its submission. -/
theorem Credits.sameSubmission (h : Credits settings free s s' r sub rowUuid) {r' : String}
    {a : Attempt} (hget : s.attempts.get? r' = some a) :
    ∃ a', s'.attempts.get? r' = some a' ∧ SameSubmission a a' := by
  by_cases heq : r' = r
  · subst heq
    obtain ⟨-, -, -, a', hget', hsame⟩ := h.kept a hget
    exact ⟨a', hget', hsame⟩
  · exact ⟨a, by rw [h.others r' heq, hget], .refl a⟩

theorem workOk_credits (h : Credits settings free w.store s' r sub rowUuid)
    (hfree : ∀ r, free r → w.Free r) {item : Work} (hmem : item ∈ w.work)
    (hok : WorkOk w.store item) : WorkOk s' item := by
  cases item with
  | attempt receiptId row =>
    obtain ⟨a, hget, hsame, hkind⟩ := hok
    obtain ⟨a', hget', hkept⟩ := h.sameSubmission hget
    exact ⟨a', hget', ⟨hsame.challenge.trans hkept.challenge.symm,
      hsame.hotkey.trans hkept.hotkey.symm, hsame.signature.trans hkept.signature.symm,
      hsame.kind.trans hkept.kind.symm⟩, hkind⟩
  | refusal receiptId reason =>
    obtain ⟨a, hget, hlive⟩ := hok
    obtain ⟨a', hget', hkept⟩ := h.sameSubmission hget
    exact ⟨a', hget', hkept.live.trans hlive⟩
  | record subId solve epoch =>
    obtain ⟨hcid, hnone, hrows⟩ := hok
    -- the credited id is not the recorded one
    have hne : subId ≠ r := by
      rintro rfl
      rcases h.free with hnew | hold
      · exact hfree subId hnew _ hmem rfl
      · obtain ⟨a, hget⟩ := Option.ne_none_iff_exists'.mp hold
        exact (h.kept a hget).2.2.1 (hrows a hget)
    refine ⟨hcid, (h.submission_ne hne).trans hnone, fun a hget => hrows a ?_⟩
    rw [← h.others subId hne, hget]

/-- The credited submission is the first of its pair and of its signature. -/
theorem Credits.first (hinv : Inv settings w) (h : Credits settings free w.store s' r sub rowUuid)
    {r' : String} {sub' : AgentSubmission} (hget : w.store.agentSubmissions.get? r' = some sub')
    (hranked : sub'.status = .ranked) :
    ¬ (pairOf sub = pairOf sub' ∨ sub.signature = sub'.signature) := by
  obtain ⟨hburned, hsolve, -⟩ := hinv.submissions r' sub' hget hranked
  rintro (hpair | hsignature)
  · exact h.unsolved (hpair ▸ hsolve)
  · exact hburned (hsignature ▸ h.unburned)

theorem inv_credits (hinv : Inv settings w) (h : Credits settings free w.store s' r sub rowUuid)
    (hfree : ∀ r, free r → w.Free r) {work : List Work}
    (hwork : ∀ item ∈ work, item ∈ w.work ∨ WorkOk s' item) :
    Inv settings { store := s', work := work } where
  receipts r' a' hget' hlive hranked := by
    by_cases heq : r' = r
    · subst heq
      obtain ⟨-, habout, hnames, -⟩ := h.receipt a' hget'
      exact ⟨sub, rowUuid, h.submission_self, h.ranked, habout, h.solved, h.feed, hnames⟩
    · have hget : w.store.attempts.get? r' = some a' := by rw [← h.others r' heq, hget']
      obtain ⟨sub', u, hsub, hsubRanked, habout, hsolve, hfeed, hnames⟩ :=
        hinv.receipts r' a' hget hlive hranked
      exact ⟨sub', u, (h.submission_ne heq).trans hsub, hsubRanked, habout, h.solves _ hsolve,
        h.feedRows hfeed, hnames⟩
  submissions r' sub' hget' hranked := by
    by_cases heq : r' = r
    · subst heq
      rw [h.submission_self, Option.some.injEq] at hget'
      subst hget'
      exact ⟨h.burned, h.solved, fun a' ha' _ => (h.receipt a' ha').1⟩
    · rw [h.submission_ne heq] at hget'
      obtain ⟨hburned, hsolve, hrows⟩ := hinv.submissions r' sub' hget' hranked
      refine ⟨h.signatures _ hburned, h.solves _ hsolve, fun a' ha' => hrows a' ?_⟩
      rw [← h.others r' heq, ha']
  once r₁ r₂ sub₁ sub₂ hget₁ hget₂ hranked₁ hranked₂ hsame := by
    by_cases heq₁ : r₁ = r
    · by_cases heq₂ : r₂ = r
      · exact heq₁.trans heq₂.symm
      · -- the second one was there before
        subst heq₁
        rw [h.submission_self, Option.some.injEq] at hget₁
        subst hget₁
        rw [h.submission_ne heq₂] at hget₂
        exact absurd hsame (h.first hinv hget₂ hranked₂)
    · rw [h.submission_ne heq₁] at hget₁
      by_cases heq₂ : r₂ = r
      · subst heq₂
        rw [h.submission_self, Option.some.injEq] at hget₂
        subst hget₂
        exact absurd (hsame.imp Eq.symm Eq.symm) (h.first hinv hget₁ hranked₁)
      · rw [h.submission_ne heq₂] at hget₂
        exact hinv.once r₁ r₂ sub₁ sub₂ hget₁ hget₂ hranked₁ hranked₂ hsame
  kinds r' a' hget' := by
    by_cases heq : r' = r
    · subst heq
      exact (h.receipt a' hget').2.2.2
    · exact hinv.kinds r' a' (by rw [← h.others r' heq, hget'])
  board cid hget' := by
    obtain ⟨chal', hchal'⟩ := Option.ne_none_iff_exists'.mp hget'
    rcases h.board.new cid chal' hchal' with hold | hnew
    · exact hinv.board cid hold
    · exact hnew
  slots pair hget' := by
    rcases h.laneSolves pair hget' with hold | ⟨hpresent, hlocked⟩
    · obtain ⟨hpresent, hlocked⟩ := hinv.slots pair hold
      exact ⟨h.board.present hpresent, fun hmode hactive =>
        hlocked hmode (h.board.active hpresent hactive)⟩
    · exact ⟨h.board.present hpresent, hlocked⟩
  work item hitem := by
    rcases hwork item hitem with hold | hnew
    · exact workOk_credits h hfree hold (hinv.work item hold)
    · exact hnew

end Credits

end Cathedral.Publisher.Processes
