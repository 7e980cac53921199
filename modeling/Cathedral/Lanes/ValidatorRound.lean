import Cathedral.Lanes.Encoding

/-!
# Cathedral.Lanes.ValidatorRound — a round of the validator over the encoding lane

`scaffold/validator.py` with `scaffold/consensus.py`. In each challenge the first submission of
a hotkey is graded; then a verified counterexample refutes the peers that called the contract
safe, and the scores are added up for each hotkey.

The consensus pass only takes from peers what they never had, so that the total of a hotkey
depends on its own submissions alone (`total_of_own`).
-/

namespace Cathedral.Lanes.Encoding

open EncodingReal

/-! ## Consensus -/

inductive ConsensusClass where
  | find
  | none
  | invalid
deriving DecidableEq

def classify : SolverArena.Outcome → ConsensusClass
  | .sat => .find
  | .unsat | .timeout => .none
  | .invalid => .invalid

/-- The fraction of `agreement`; its caller drops the majority class. -/
def agreement (R : Rounding) (classes : List ConsensusClass) : ℚ :=
  if classes = [] then 0
  else
    let top := (classes.map fun c => classes.count c).foldr max 0
    R.nearest (round4 (R.nearest (top / classes.length)))

structure ConsensusVerdict where
  overrideScore : Option ℚ
  reason : Option String
  flag : String

/-- The verdict on a submission of a class, by whether some peer has a find. -/
def verdictOn (anyFind : Bool) (c : ConsensusClass) : ConsensusVerdict :=
  if !anyFind then ⟨none, none, if c = .none then "unanimous_none" else "n/a"⟩
  else
    match c with
    | .find => ⟨none, none, "verified_find"⟩
    | .none => ⟨some 0, some "refuted_by_peer_counterexample", "outlier"⟩
    | .invalid => ⟨none, none, "n/a"⟩

def resolve (classes : List ConsensusClass) : List ConsensusVerdict :=
  classes.map (verdictOn (classes.contains .find))

example : (resolve [.none, .find, .invalid]).map (·.overrideScore) = [some 0, none, none] := rfl

/-! ## Grading -/

structure GradedSubmission where
  familyId : String
  taskId : PyStr
  minerHotkey : PyStr
  weightedScore : ℚ
  outcome : SolverArena.Outcome
  rejectionReason : Option String
  details : Details
  consensusFlag : String := ""

/-- One submission, verified and scored. -/
def gradeSubmission (H : Host) (c : Challenge) (sub : Submission) :
    Except String GradedSubmission := do
  let vr ← validateSubmission H c.2 sub
  let sr := score H.rounding c.1 vr (H.observedWallMs sub.minerHotkey c.1)
  .ok { familyId := familyId, taskId := c.1.taskId, minerHotkey := sub.minerHotkey,
        weightedScore := sr.1, outcome := vr.outcome, rejectionReason := sr.2,
        details := vr.details }

/-- The loop over the submissions for a challenge: the group, with the hotkeys seen. -/
def gradeStep (H : Host) (c : Challenge) (acc : List GradedSubmission × List PyStr)
    (sub : Submission) : Except String (List GradedSubmission × List PyStr) :=
  if sub.taskId ≠ c.1.taskId ∨ sub.minerHotkey ∈ acc.2 then .ok acc
  else do
    let g ← gradeSubmission H c sub
    .ok (acc.1 ++ [g], acc.2 ++ [sub.minerHotkey])

def GradedSubmission.adopt (agree : ℚ) (g : GradedSubmission) (cv : ConsensusVerdict) :
    GradedSubmission :=
  let g := { g with
    consensusFlag := cv.flag
    details := { g.details with consensusAgree := some agree } }
  match cv.overrideScore with
  | some s => { g with weightedScore := s, rejectionReason := cv.reason }
  | none => g

/-- The consensus pass over the group of a challenge. -/
def consensusPass (R : Rounding) (group : List GradedSubmission) : List GradedSubmission :=
  let classes := group.map fun g => classify g.outcome
  let agree := agreement R classes
  List.zipWith (GradedSubmission.adopt agree) group (resolve classes)

/-! ## Rounds -/

/-- What the miners answer to the challenge of a number. -/
abbrev MinerPool : Type := ℕ → PublicProblem → List Submission

structure RoundState where
  graded : List GradedSubmission
  hotkeyScores : Dict PyStr ℚ

structure RoundReport extends RoundState where
  weights : Dict PyStr ℚ

def commit (R : Rounding) (st : RoundState) (g : GradedSubmission) : RoundState :=
  { graded := st.graded ++ [g]
    hotkeyScores := st.hotkeyScores.set g.minerHotkey
      (R.add (st.hotkeyScores.getD g.minerHotkey 0) g.weightedScore) }

/-- One challenge of a round. -/
def runChallenge (H : Host) (seed0 tier : ℤ) (miners : MinerPool) (st : RoundState) (k : ℕ) :
    Except String RoundState := do
  let c ← mintChallenge H (seed0 + k) tier
  let (group, _) ← (miners k c.1).foldlM (gradeStep H c) ([], [])
  .ok ((consensusPass H.rounding group).foldl (commit H.rounding) st)

def normalize (H : Host) (scores : Dict PyStr ℚ) : Dict PyStr ℚ :=
  let total := H.sum scores.values
  scores.mapItems fun _ v =>
    if total ≤ 0 then 0
    else H.rounding.nearest (SolverArena.round6 (H.rounding.nearest (v / total)))

/-- `run_round` with the encoding lane alone. -/
def runRound (H : Host) (seed0 tier : ℤ) (perLane : ℕ) (miners : MinerPool) :
    Except String RoundReport := do
  let st ← (List.range perLane).foldlM (runChallenge H seed0 tier miners) ⟨[], Dict.empty⟩
  .ok { st with weights := normalize H st.hotkeyScores }

/-! ## What counts -/

def challenges (H : Host) (seed0 tier : ℤ) (perLane : ℕ) : Except String (List Challenge) :=
  (List.range perLane).mapM fun k : ℕ => mintChallenge H (seed0 + k) tier

/-- The first submission of a hotkey for a challenge. -/
def firstOf (p : PublicProblem) (hotkey : PyStr) (subs : List Submission) : Option Submission :=
  subs.find? fun sub => sub.taskId = p.taskId ∧ sub.minerHotkey = hotkey

def firstGraded (H : Host) (c : Challenge) (hotkey : PyStr) (subs : List Submission) :
    Option GradedSubmission :=
  (firstOf c.1 hotkey subs).bind fun sub => (gradeSubmission H c sub).toOption

/-- The scores of the first submissions of a hotkey, challenge by challenge. -/
def firstScores (H : Host) (hotkey : PyStr) (miners : MinerPool) (cs : List Challenge) : List ℚ :=
  cs.zipIdx.filterMap fun ck =>
    (firstGraded H ck.1 hotkey (miners ck.2 ck.1.1)).map (·.weightedScore)

/-! ## One challenge -/

section Group

variable {H : Host} {c : Challenge}

theorem gradeSubmission_ok (hvalid : c.2.toContract.Valid) (sub : Submission) :
    ∃ g, gradeSubmission H c sub = .ok g ∧ g.minerHotkey = sub.minerHotkey ∧
      (VerifiedCounterexample c.2.toContract sub → 1 / 4 ≤ g.weightedScore) ∧
      (¬ VerifiedCounterexample c.2.toContract sub → g.weightedScore = 0) ∧
      (classify g.outcome = .none → g.weightedScore = 0) := by
  obtain ⟨v, hv, hfound, hnot⟩ := @validateSubmission_ok H c.2 sub hvalid
  refine ⟨_, bind_eq_ok.mpr ⟨v, hv, rfl⟩, rfl, ?_, ?_, ?_⟩
  · intro h
    obtain ⟨hok, hsat, hraw⟩ := hfound h
    exact quarter_le_score hok hsat hraw
  · intro h
    obtain ⟨hsat, hraw⟩ := hnot h
    exact score_eq_zero hsat hraw
  · intro hclass
    have hsat : v.outcome ≠ .sat := by
      intro heq
      rw [heq] at hclass
      cases hclass
    exact score_eq_zero hsat (hnot fun h => hsat (hfound h).2.1).2

/-- What the loop over the submissions has made of a prefix of them. -/
structure Graded (H : Host) (c : Challenge) (subs : List Submission)
    (acc : List GradedSubmission × List PyStr) : Prop where
  seen : acc.1.map (·.minerHotkey) = acc.2
  first : ∀ hotkey, acc.1.filter (·.minerHotkey = hotkey) = (firstGraded H c hotkey subs).toList
  harmless : ∀ g ∈ acc.1, classify g.outcome = .none → g.weightedScore = 0

theorem firstOf_snoc (p : PublicProblem) (hotkey : PyStr) (subs : List Submission)
    (sub : Submission) : firstOf p hotkey (subs ++ [sub]) = (firstOf p hotkey subs).or
      (if sub.taskId = p.taskId ∧ sub.minerHotkey = hotkey then some sub else none) := by
  rw [firstOf, List.find?_append, List.find?_singleton]
  simp only [decide_eq_true_eq]
  rfl

theorem firstGraded_eq_none (hvalid : c.2.toContract.Valid) {hotkey : PyStr}
    {subs : List Submission} :
    firstGraded H c hotkey subs = none ↔ firstOf c.1 hotkey subs = none := by
  unfold firstGraded
  cases hfirst : firstOf c.1 hotkey subs with
  | none => simp
  | some sub =>
    obtain ⟨g, hg, -⟩ := @gradeSubmission_ok H c hvalid sub
    simp [hg, Except.toOption]

theorem Graded.mem_seen {subs : List Submission} {acc : List GradedSubmission × List PyStr}
    (h : Graded H c subs acc) {hotkey : PyStr} :
    hotkey ∈ acc.2 ↔ firstGraded H c hotkey subs ≠ none := by
  rw [← h.seen, Ne, ← Option.toList_eq_nil_iff, ← h.first, List.filter_eq_nil_iff, List.mem_map]
  push Not
  simp only [decide_eq_true_eq]

/-- A submission that is not the first of its hotkey changes nothing. -/
theorem Graded.skip {subs : List Submission} {acc : List GradedSubmission × List PyStr}
    {sub : Submission} (hvalid : c.2.toContract.Valid) (h : Graded H c subs acc)
    (hskip : sub.taskId ≠ c.1.taskId ∨ sub.minerHotkey ∈ acc.2) :
    Graded H c (subs ++ [sub]) acc := by
  refine ⟨h.seen, fun hotkey => ?_, h.harmless⟩
  have hsame : firstOf c.1 hotkey (subs ++ [sub]) = firstOf c.1 hotkey subs := by
    rw [firstOf_snoc]
    split_ifs with hsub
    · obtain ⟨htask, rfl⟩ := hsub
      have hold : firstOf c.1 sub.minerHotkey subs ≠ none := by
        rw [Ne, ← @firstGraded_eq_none H c hvalid]
        exact h.mem_seen.mp (hskip.resolve_left (not_not.mpr htask))
      obtain ⟨first, hfirst⟩ := Option.ne_none_iff_exists'.mp hold
      rw [hfirst, Option.some_or]
    · rw [Option.or_none]
  rw [h.first, firstGraded, firstGraded, hsame]

theorem Graded.snoc {subs : List Submission} {acc : List GradedSubmission × List PyStr}
    {sub : Submission} {g : GradedSubmission} (hvalid : c.2.toContract.Valid)
    (h : Graded H c subs acc) (htask : sub.taskId = c.1.taskId) (hnew : sub.minerHotkey ∉ acc.2)
    (hg : gradeSubmission H c sub = .ok g) (hkey : g.minerHotkey = sub.minerHotkey)
    (hharmless : classify g.outcome = .none → g.weightedScore = 0) :
    Graded H c (subs ++ [sub]) (acc.1 ++ [g], acc.2 ++ [sub.minerHotkey]) := by
  refine ⟨by simp [h.seen, hkey], fun hotkey => ?_, ?_⟩
  · have hold : firstGraded H c sub.minerHotkey subs = none := by
      by_contra hsome
      exact hnew (h.mem_seen.mpr hsome)
    rw [List.filter_append, h.first, firstGraded, firstGraded, firstOf_snoc]
    by_cases hsub : sub.minerHotkey = hotkey
    · subst hsub
      rw [(firstGraded_eq_none hvalid).mp hold, if_pos ⟨htask, rfl⟩]
      simp [hg, hkey, Except.toOption]
    · rw [if_neg fun hboth => hsub hboth.2, Option.or_none]
      simp [hkey, hsub]
  · intro g' hg'
    rcases List.mem_append.mp hg' with hg' | hg'
    · exact h.harmless g' hg'
    · rw [List.mem_singleton.mp hg']
      exact hharmless

/-- The loop grades the first submission of every hotkey. -/
theorem gradeGroup (hvalid : c.2.toContract.Valid) (subs : List Submission) :
    ∃ acc, subs.foldlM (gradeStep H c) ([], []) = .ok acc ∧ Graded H c subs acc := by
  induction subs using List.reverseRecOn with
  | nil => exact ⟨_, rfl, rfl, fun _ => rfl, by simp⟩
  | append_singleton subs sub ih =>
    obtain ⟨acc, hacc, hinv⟩ := ih
    rw [List.foldlM_append, hacc]
    by_cases hskip : sub.taskId ≠ c.1.taskId ∨ sub.minerHotkey ∈ acc.2
    · refine ⟨acc, ?_, hinv.skip hvalid hskip⟩
      change (gradeStep H c acc sub >>= pure) = _
      rw [gradeStep, if_pos hskip]
      rfl
    · obtain ⟨g, hg, hkey, -, -, hharmless⟩ := @gradeSubmission_ok H c hvalid sub
      refine ⟨(acc.1 ++ [g], acc.2 ++ [sub.minerHotkey]), ?_, ?_⟩
      · change (gradeStep H c acc sub >>= pure) = _
        rw [gradeStep, if_neg hskip, hg]
        rfl
      · push Not at hskip
        exact hinv.snoc hvalid hskip.1 hskip.2 hg hkey hharmless

end Group

/-! ## Totals -/

section Totals

variable {H : Host} {R : Rounding}

theorem verdictOn_override {anyFind : Bool} {c : ConsensusClass} {s : ℚ}
    (h : (verdictOn anyFind c).overrideScore = some s) : s = 0 ∧ c = .none := by
  cases anyFind with
  | false => cases h
  | true =>
    cases c with
    | none => exact ⟨(Option.some.inj h).symm, rfl⟩
    | _ => cases h

theorem adopt_score (agree : ℚ) {g : GradedSubmission} {cv : ConsensusVerdict}
    (h : ∀ s, cv.overrideScore = some s → s = g.weightedScore) :
    ((g.adopt agree cv).minerHotkey, (g.adopt agree cv).weightedScore) =
      (g.minerHotkey, g.weightedScore) := by
  unfold GradedSubmission.adopt
  cases hs : cv.overrideScore with
  | none => rfl
  | some s => simp only [h s hs]

/-- The consensus pass leaves every score as it is, where a claim of safety earns nothing. -/
theorem consensusPass_scores {group : List GradedSubmission}
    (hharmless : ∀ g ∈ group, classify g.outcome = .none → g.weightedScore = 0) :
    (consensusPass R group).map (fun g => (g.minerHotkey, g.weightedScore)) =
      group.map fun g => (g.minerHotkey, g.weightedScore) := by
  unfold consensusPass resolve
  dsimp only
  rw [List.map_map, List.zipWith_map_right, List.zipWith_self, List.map_map]
  refine List.map_congr_left fun g hg => ?_
  refine adopt_score _ fun s hs => ?_
  obtain ⟨rfl, hclass⟩ := verdictOn_override hs
  exact (hharmless g hg hclass).symm

theorem getD_commit (group : List GradedSubmission) (hotkey : PyStr) :
    ∀ st : RoundState, (group.foldl (commit R) st).hotkeyScores.getD hotkey 0 =
      (((group.map fun g => (g.minerHotkey, g.weightedScore)).filter (·.1 = hotkey)).map
        Prod.snd).foldl R.add (st.hotkeyScores.getD hotkey 0) := by
  induction group with
  | nil => exact fun _ => rfl
  | cons g rest ih =>
    intro st
    rw [List.foldl_cons, ih, List.map_cons, List.filter_cons]
    have hset : (commit R st g).hotkeyScores.getD hotkey 0 =
        if g.minerHotkey = hotkey then R.add (st.hotkeyScores.getD hotkey 0) g.weightedScore
        else st.hotkeyScores.getD hotkey 0 := by
      unfold commit Dict.getD
      rw [Dict.get?_set]
      split_ifs with hkey <;> simp_all
    rw [hset]
    split_ifs with hkey hkey' hkey' <;> simp_all

theorem runChallenge_ok {seed0 tier : ℤ} {k : ℕ} {c : Challenge} (miners : MinerPool)
    (st : RoundState) (hmint : mintChallenge H (seed0 + k) tier = .ok c) :
    ∃ st', runChallenge H seed0 tier miners st k = .ok st' ∧
      ∀ hotkey, st'.hotkeyScores.getD hotkey 0 =
        ((firstGraded H c hotkey (miners k c.1)).map (·.weightedScore)).toList.foldl
          H.rounding.add (st.hotkeyScores.getD hotkey 0) := by
  obtain ⟨acc, hacc, hinv⟩ := @gradeGroup H c (mintChallenge_valid hmint) (miners k c.1)
  refine ⟨_, bind_eq_ok.mpr ⟨c, hmint, bind_eq_ok.mpr ⟨acc, hacc, rfl⟩⟩, fun hotkey => ?_⟩
  rw [getD_commit, consensusPass_scores hinv.harmless, List.filter_map, List.map_map]
  have hfirst := congrArg (List.map (·.weightedScore)) (hinv.first hotkey)
  rw [← Option.toList_map] at hfirst
  rw [← hfirst]
  rfl

/-- A round runs if its challenges can be minted, and adds up the scores of first
submissions. -/
theorem runChallenges (seed0 tier : ℤ) (miners : MinerPool) (n : ℕ) :
    match challenges H seed0 tier n with
    | .error e =>
      (List.range n).foldlM (runChallenge H seed0 tier miners) ⟨[], Dict.empty⟩ = .error e
    | .ok cs => cs.length = n ∧ ∃ st,
      (List.range n).foldlM (runChallenge H seed0 tier miners) ⟨[], Dict.empty⟩ = .ok st ∧
        ∀ hotkey, st.hotkeyScores.getD hotkey 0 =
          (firstScores H hotkey miners cs).foldl H.rounding.add 0 := by
  induction n with
  | zero => exact ⟨rfl, _, rfl, fun _ => rfl⟩
  | succ n ih =>
    unfold challenges at ih ⊢
    rw [List.range_succ, List.mapM_append, List.foldlM_append]
    cases hcs : (List.range n).mapM fun k : ℕ => mintChallenge H (seed0 + k) tier with
    | error e =>
      rw [hcs] at ih
      change _ = _ at ih
      rw [ih]
      rfl
    | ok cs =>
      rw [hcs] at ih
      obtain ⟨hlength, st, hst, htotal⟩ := ih
      rw [hst]
      cases hmint : mintChallenge H (seed0 + (n : ℕ)) tier with
      | error e =>
        have hrun : runChallenge H seed0 tier miners st n = .error e := by
          rw [runChallenge, hmint]
          rfl
        simp [hmint, hrun, bind, Except.bind]
      | ok c =>
        obtain ⟨st', hst', hadd⟩ := runChallenge_ok miners st hmint
        have hscores : ∀ hotkey, firstScores H hotkey miners (cs ++ [c]) =
            firstScores H hotkey miners cs ++
              ((firstGraded H c hotkey (miners n c.1)).map (·.weightedScore)).toList := by
          intro hotkey
          rw [firstScores, List.zipIdx_append, List.filterMap_append, hlength]
          congr 1
          cases h : (firstGraded H c hotkey (miners n c.1)).map (·.weightedScore) <;> simp [h]
        have hsum : ∀ hotkey, st'.hotkeyScores.getD hotkey 0 =
            (firstScores H hotkey miners (cs ++ [c])).foldl H.rounding.add 0 := by
          intro hotkey
          rw [hscores, List.foldl_append, ← htotal, hadd]
        simp [hmint, hst', hlength, hsum, bind, Except.bind, pure, Except.pure]

/-- The total of a hotkey is computed from its own first submissions. -/
theorem total_of_own (seed0 tier : ℤ) (n : ℕ) (miners : MinerPool) (hotkey : PyStr) :
    (runRound H seed0 tier n miners).map (fun report => report.hotkeyScores.getD hotkey 0) =
      (challenges H seed0 tier n).map fun cs =>
        (firstScores H hotkey miners cs).foldl H.rounding.add 0 := by
  have hrun := @runChallenges H seed0 tier miners n
  unfold runRound
  cases hcs : challenges H seed0 tier n with
  | error e =>
    rw [hcs] at hrun
    change _ = _ at hrun
    rw [hrun]
    rfl
  | ok cs =>
    rw [hcs] at hrun
    obtain ⟨-, st, hst, htotal⟩ := hrun
    rw [hst]
    exact congrArg Except.ok (htotal hotkey)

/-- Scores that are nothing or a quarter and more add up to something exactly if one is. -/
theorem foldl_add_pos {scores : List ℚ} (hscores : ∀ s ∈ scores, s = 0 ∨ 1 / 4 ≤ s) :
    ∀ {total : ℚ}, total = 0 ∨ 1 / 4 ≤ total →
      (0 < scores.foldl R.add total ↔ 0 < total ∨ ∃ s ∈ scores, 1 / 4 ≤ s) := by
  induction scores with
  | nil => simp
  | cons s rest ih =>
    intro total htotal
    have hs : s = 0 ∨ 1 / 4 ≤ s := hscores s List.mem_cons_self
    have hadd : (R.add total s = 0 ∨ 1 / 4 ≤ R.add total s) ∧
        (0 < R.add total s ↔ 0 < total ∨ 1 / 4 ≤ s) := by
      rcases htotal with rfl | htotal
      · rcases hs with rfl | hs
        · have hzero : R.add 0 0 = 0 := by rw [Rounding.add, add_zero, R.nearest_zero]
          rw [hzero]
          norm_num
        · have hquarter : 1 / 4 ≤ R.add 0 s := R.quarter_le (by linarith)
          exact ⟨.inr hquarter, iff_of_true (by linarith) (.inr hs)⟩
      · have hquarter : 1 / 4 ≤ R.add total s :=
          R.quarter_le_add htotal (hs.elim (fun h => h.ge) fun h => by linarith)
        exact ⟨.inr hquarter, iff_of_true (by linarith) (.inl (by linarith))⟩
    rw [List.foldl_cons, ih (fun s hs => hscores s (List.mem_cons_of_mem _ hs)) hadd.1, hadd.2,
      List.exists_mem_cons_iff, or_assoc]

theorem getElem?_challenges {seed0 tier : ℤ} {n : ℕ} {cs : List Challenge}
    (h : challenges H seed0 tier n = .ok cs) (k : ℕ) (c : Challenge) :
    cs[k]? = some c ↔ k < n ∧ mintChallenge H (seed0 + k) tier = .ok c := by
  obtain ⟨hlength, hget⟩ := List.forall₂_iff_get.mp (mapM_eq_ok.mp h)
  rw [List.length_range] at hlength
  constructor
  · intro hk
    obtain ⟨hlt, hc⟩ := List.getElem?_eq_some_iff.mp hk
    have hmint := hget k (by simpa [hlength] using hlt) hlt
    simp only [List.get_eq_getElem, List.getElem_range, hc] at hmint
    exact ⟨hlength ▸ hlt, hmint⟩
  · rintro ⟨hk, hmint⟩
    have hget' := hget k (by simpa using hk) (hlength ▸ hk)
    simp only [List.get_eq_getElem, List.getElem_range, hmint] at hget'
    exact List.getElem?_eq_some_iff.mpr ⟨hlength ▸ hk, (Except.ok.inj hget').symm⟩

theorem mem_firstScores {hotkey : PyStr} {miners : MinerPool} {cs : List Challenge} {s : ℚ} :
    s ∈ firstScores H hotkey miners cs ↔ ∃ k c sub g, cs[k]? = some c ∧
      firstOf c.1 hotkey (miners k c.1) = some sub ∧ gradeSubmission H c sub = .ok g ∧
        g.weightedScore = s := by
  rw [firstScores, List.mem_filterMap]
  constructor
  · rintro ⟨⟨c, k⟩, hmem, hs⟩
    obtain ⟨g, hg, hs⟩ := Option.map_eq_some_iff.mp hs
    obtain ⟨sub, hsub, hg⟩ := Option.bind_eq_some_iff.mp hg
    exact ⟨k, c, sub, g, List.mem_zipIdx_iff_getElem?.mp hmem, hsub, toOption_eq_some.mp hg, hs⟩
  · rintro ⟨k, c, sub, g, hc, hsub, hg, hs⟩
    refine ⟨(c, k), List.mem_zipIdx_iff_getElem?.mpr hc, ?_⟩
    rw [firstGraded, hsub, Option.bind_some, toOption_eq_some.mpr hg, Option.map_some, hs]

/-- A hotkey has a total exactly if one of its first submissions is a counterexample. -/
theorem total_pos_iff {seed0 tier : ℤ} {n : ℕ} {miners : MinerPool} {report : RoundReport}
    (h : runRound H seed0 tier n miners = .ok report) (hotkey : PyStr) :
    0 < report.hotkeyScores.getD hotkey 0 ↔ ∃ k c sub, k < n ∧
      mintChallenge H (seed0 + (k : ℕ)) tier = .ok c ∧
        firstOf c.1 hotkey (miners k c.1) = some sub ∧
          VerifiedCounterexample c.2.toContract sub := by
  have htotal := @total_of_own H seed0 tier n miners hotkey
  rw [h] at htotal
  cases hcs : challenges H seed0 tier n with
  | error e =>
    rw [hcs] at htotal
    cases htotal
  | ok cs =>
    rw [hcs] at htotal
    have hvalue : report.hotkeyScores.getD hotkey 0 =
        (firstScores H hotkey miners cs).foldl H.rounding.add 0 := Except.ok.inj htotal
    have hvalid : ∀ {k : ℕ} {c : Challenge}, cs[k]? = some c → c.2.toContract.Valid := fun hk =>
      mintChallenge_valid ((getElem?_challenges hcs _ _).mp hk).2
    have hscores : ∀ s ∈ firstScores H hotkey miners cs, s = 0 ∨ 1 / 4 ≤ s := by
      intro s hs
      obtain ⟨k, c, sub, g, hk, -, hg, rfl⟩ := mem_firstScores.mp hs
      obtain ⟨g', hg', -, hfind, hnot, -⟩ := @gradeSubmission_ok H c (hvalid hk) sub
      cases hg.symm.trans hg'
      by_cases hv : VerifiedCounterexample c.2.toContract sub
      · exact .inr (hfind hv)
      · exact .inl (hnot hv)
    rw [hvalue, foldl_add_pos hscores (.inl rfl)]
    simp only [lt_irrefl, false_or]
    constructor
    · rintro ⟨s, hs, hquarter⟩
      obtain ⟨k, c, sub, g, hk, hsub, hg, rfl⟩ := mem_firstScores.mp hs
      obtain ⟨hlt, hmint⟩ := (getElem?_challenges hcs _ _).mp hk
      refine ⟨k, c, sub, hlt, hmint, hsub, ?_⟩
      by_contra hv
      obtain ⟨g', hg', -, -, hnot, -⟩ := @gradeSubmission_ok H c (hvalid hk) sub
      cases hg.symm.trans hg'
      rw [hnot hv] at hquarter
      norm_num at hquarter
    · rintro ⟨k, c, sub, hlt, hmint, hsub, hv⟩
      have hk := (getElem?_challenges hcs k c).mpr ⟨hlt, hmint⟩
      obtain ⟨g, hg, -, hfind, -⟩ := @gradeSubmission_ok H c (hvalid hk) sub
      exact ⟨_, mem_firstScores.mpr ⟨k, c, sub, g, hk, hsub, hg, rfl⟩, hfind hv⟩

end Totals

/-! ## What the consensus leaves -/

/-- A group after its consensus: each hotkey has one entry, and a claim that there is no bug is
refuted exactly if some peer has found one. -/
structure Settled (group : List GradedSubmission) : Prop where
  single : (group.map (·.minerHotkey)).Nodup
  refuted : ∀ g ∈ group, g.consensusFlag = "outlier" ↔
    classify g.outcome = .none ∧ ∃ peer ∈ group, classify peer.outcome = .find
  unpaid : ∀ g ∈ group, g.consensusFlag = "outlier" →
    g.weightedScore = 0 ∧ g.rejectionReason = some "refuted_by_peer_counterexample"
  found : ∀ g ∈ group, g.consensusFlag = "verified_find" ↔ classify g.outcome = .find

section Consensus

variable {H : Host} {R : Rounding}

theorem adopt_same (agree : ℚ) (g : GradedSubmission) (cv : ConsensusVerdict) :
    (g.adopt agree cv).minerHotkey = g.minerHotkey ∧ (g.adopt agree cv).outcome = g.outcome ∧
      (g.adopt agree cv).consensusFlag = cv.flag := by
  unfold GradedSubmission.adopt
  cases cv.overrideScore <;> exact ⟨rfl, rfl, rfl⟩

theorem flag_verdictOn (anyFind : Bool) (c : ConsensusClass) :
    ((verdictOn anyFind c).flag = "outlier" ↔ c = .none ∧ anyFind = true) ∧
      ((verdictOn anyFind c).flag = "verified_find" ↔ c = .find ∧ anyFind = true) := by
  cases anyFind <;> cases c <;> decide

theorem settled_consensusPass {group : List GradedSubmission}
    (hsingle : (group.map (·.minerHotkey)).Nodup) : Settled (consensusPass R group) := by
  have hpass : ∃ agree anyFind, (anyFind = true ↔ ∃ peer ∈ group, classify peer.outcome = .find) ∧
      consensusPass R group =
        group.map fun g => g.adopt agree (verdictOn anyFind (classify g.outcome)) := by
    unfold consensusPass resolve
    dsimp only
    rw [List.map_map, List.zipWith_map_right, List.zipWith_self]
    exact ⟨_, _, by simp, rfl⟩
  obtain ⟨agree, anyFind, hany, hpass⟩ := hpass
  rw [hpass]
  refine ⟨?_, ?_, ?_, ?_⟩
  · rw [List.map_map]
    simpa only [Function.comp_def, adopt_same] using hsingle
  all_goals
    rw [List.forall_mem_map]
    intro g hg
    simp only [adopt_same, flag_verdictOn]
  · simp only [List.mem_map, exists_exists_and_eq_and, adopt_same, hany]
  · rintro ⟨hc, hfind⟩
    rw [hc, hfind]
    exact ⟨rfl, rfl⟩
  · exact and_iff_left_of_imp fun hc => hany.mpr ⟨g, hg, hc⟩

theorem graded_foldl_commit (group : List GradedSubmission) (st : RoundState) :
    (group.foldl (commit R) st).graded = st.graded ++ group := by
  induction group generalizing st with
  | nil => exact (List.append_nil _).symm
  | cons g rest ih => rw [List.foldl_cons, ih, commit, List.append_assoc, List.singleton_append]

theorem Graded.single {c : Challenge} {subs : List Submission}
    {acc : List GradedSubmission × List PyStr} (h : Graded H c subs acc) :
    (acc.1.map (·.minerHotkey)).Nodup := by
  refine List.nodup_iff_count_le_one.mpr fun hotkey => ?_
  have hlength := congrArg List.length (h.first hotkey)
  rw [← List.countP_eq_length_filter] at hlength
  rw [List.count, List.countP_map]
  refine le_trans (le_of_eq ?_) (hlength.le.trans Option.length_toList_le)
  exact List.countP_congr fun g _ => by simp

/-- The entries of the first challenges of a round, in a settled group for each. -/
theorem settled_groups {seed0 tier : ℤ} {miners : MinerPool} {n : ℕ} {st : RoundState}
    (h : (List.range n).foldlM (runChallenge H seed0 tier miners) ⟨[], Dict.empty⟩ = .ok st) :
    ∃ groups : List (List GradedSubmission),
      st.graded = groups.flatten ∧ groups.length = n ∧ ∀ group ∈ groups, Settled group := by
  induction n generalizing st with
  | zero =>
    cases h
    exact ⟨[], rfl, rfl, by simp⟩
  | succ n ih =>
    rw [List.range_succ, List.foldlM_append] at h
    obtain ⟨st₁, hst₁, h⟩ := bind_eq_ok.mp h
    obtain ⟨groups, hgraded, hlength, hsettled⟩ := ih hst₁
    obtain ⟨st₂, hst₂, h⟩ := bind_eq_ok.mp h
    cases h
    obtain ⟨c, hmint, hst₂⟩ := bind_eq_ok.mp hst₂
    obtain ⟨acc, hacc, hst₂⟩ := bind_eq_ok.mp hst₂
    cases hst₂
    obtain ⟨acc', hacc', hinv⟩ := @gradeGroup H c (mintChallenge_valid hmint) (miners n c.1)
    cases hacc.symm.trans hacc'
    refine ⟨groups ++ [consensusPass H.rounding acc.1], ?_, by simp [hlength], ?_⟩
    · simp [graded_foldl_commit, hgraded]
    · intro group hgroup
      rcases List.mem_append.mp hgroup with hold | hnew
      · exact hsettled group hold
      · rw [List.mem_singleton.mp hnew]
        exact settled_consensusPass hinv.single

def ReportsSettled (H : Host) (seed0 tier : ℤ) (perLane : ℕ) (miners : MinerPool) : Prop :=
  ∀ report, runRound H seed0 tier perLane miners = .ok report →
    ∃ groups : List (List GradedSubmission), report.graded = groups.flatten ∧
      groups.length = perLane ∧ ∀ group ∈ groups, Settled group

end Consensus

/-! ## Independence -/

def own (hotkey : PyStr) (subs : List Submission) : List Submission :=
  subs.filter (·.minerHotkey = hotkey)

theorem firstOf_own (p : PublicProblem) (hotkey : PyStr) (subs : List Submission) :
    firstOf p hotkey (own hotkey subs) = firstOf p hotkey subs := by
  unfold firstOf own
  induction subs with
  | nil => rfl
  | cons sub rest ih =>
    by_cases hkey : sub.minerHotkey = hotkey
    · rw [List.filter_cons_of_pos (by simpa using hkey), List.find?_cons, List.find?_cons, ih]
    · rw [List.filter_cons_of_neg (by simpa using hkey), ih,
        List.find?_cons_of_neg (by simp [hkey])]

/-- What a round promises to a miner, whatever the others submit. -/
structure IndependentGrading (H : Host) (seed0 tier : ℤ) (perLane : ℕ) : Prop where
  /-- The total adds up the scores of the first submissions. -/
  counts : ∀ miners hotkey,
    (runRound H seed0 tier perLane miners).map (fun report => report.hotkeyScores.getD hotkey 0) =
      (challenges H seed0 tier perLane).map fun cs =>
        (firstScores H hotkey miners cs).foldl H.rounding.add 0
  rewarded : ∀ miners report, runRound H seed0 tier perLane miners = .ok report → ∀ hotkey,
    0 < report.hotkeyScores.getD hotkey 0 ↔ ∃ k c sub, k < perLane ∧
      mintChallenge H (seed0 + (k : ℕ)) tier = .ok c ∧
        firstOf c.1 hotkey (miners k c.1) = some sub ∧
          VerifiedCounterexample c.2.toContract sub
  /-- Pools with the same submissions of a hotkey give it the same total. -/
  independent : ∀ miners others hotkey,
    (∀ k p, own hotkey (miners k p) = own hotkey (others k p)) →
      (runRound H seed0 tier perLane miners).map (fun report => report.hotkeyScores.getD hotkey 0) =
        (runRound H seed0 tier perLane others).map fun report => report.hotkeyScores.getD hotkey 0

theorem run_round_independent (H : Host) (seed0 tier : ℤ) (perLane : ℕ) :
    IndependentGrading H seed0 tier perLane where
  counts miners hotkey := total_of_own seed0 tier perLane miners hotkey
  rewarded _ _ h hotkey := total_pos_iff h hotkey
  independent miners others hotkey h := by
    have hfirst : ∀ k p, firstOf p hotkey (miners k p) = firstOf p hotkey (others k p) := by
      intro k p
      rw [← firstOf_own, h, firstOf_own]
    have hscores : ∀ cs, firstScores H hotkey miners cs = firstScores H hotkey others cs := by
      intro cs
      simp only [firstScores, firstGraded, hfirst]
    rw [total_of_own, total_of_own]
    simp only [hscores]

end Cathedral.Lanes.Encoding
