import Cathedral.Lanes.ArenaCredit
import Cathedral.Lanes.EncodingReal
import Cathedral.Lib.PyValue

/-!
# Cathedral.Lanes.Encoding — what an answer in the encoding lane earns

`lanes/encoding.py` with its solver. An answer names a bug or calls the contract safe. A
counterexample that the solver confirms earns at least a quarter of a point, however the
floats are rounded (`quarter_le_score`); nothing else earns anything (`score_eq_zero`).
-/

namespace Cathedral.Lanes.Encoding

open EncodingReal
open PyJson (Value)

/-! ## Floats -/

/-- The nearest double, as far as sums of scores need it. -/
structure Rounding where
  nearest : ℚ → ℚ
  mono : Monotone nearest
  nearest_zero : nearest 0 = 0
  nearest_quarter : nearest (1 / 4) = 1 / 4

def Rounding.add (R : Rounding) (x y : ℚ) : ℚ := R.nearest (x + y)

/-! ## Challenges -/

def familyId : String := "encoding_v1"

structure PublicProblem where
  taskId : PyStr
  difficultyTier : ℤ
  publicInput : Contract
  timeLimitSeconds : ℕ

structure HiddenMetadata extends Hidden where
  rarity : ℚ

structure Submission where
  taskId : PyStr
  minerHotkey : PyStr
  answer : List (PyStr × Value)

/-- What a validator takes from the interpreter, the solver and its clock. -/
structure Host where
  sha256Hex : String → String
  /-- `random.Random(seed)`. -/
  draws : ℤ → (tier : ℤ) → Draws (mintWidth tier)
  solver : Solver
  rounding : Rounding
  /-- `sum(...)`, which need not round after every addition. -/
  sum : List ℚ → ℚ
  observedWallMs : PyStr → PublicProblem → PyFloat

abbrev Challenge : Type := PublicProblem × HiddenMetadata

/-- `round(x, 4)`. -/
def round4 (x : ℚ) : ℚ := Thin.roundHalfEven (x * 10 ^ 4) / 10 ^ 4

/-- `_mint_z3`. -/
def mintChallenge (H : Host) (seed tier : ℤ) : Except String Challenge := do
  let hidden ← mintZ3 H.solver tier (H.draws seed tier)
  let digest := H.sha256Hex (familyId ++ ":z3:" ++ toString seed ++ ":" ++ toString tier)
  let rarity := H.rounding.nearest (round4 (H.rounding.nearest (hidden.trigK / hidden.width)))
  .ok (⟨(PyStr.ofString digest).take 32, tier, hidden.toContract, 300⟩, ⟨hidden, rarity⟩)

/-! ## Verdicts -/

structure Details where
  isTrap : Bool
  mutation : Mutation
  verdict : Value
  encode : Value
  rarity : ℚ
  cex : Option Value := none
  /-- Set by the consensus of a round. -/
  consensusAgree : Option ℚ := none

structure VerifierResult where
  parsedOk : Bool
  outcome : SolverArena.Outcome
  rawMetric : ℚ
  rejectionReason : Option String
  details : Details

/-- `value == text`. -/
def isText (text : String) : Value → Bool
  | .str s => s = PyStr.ofString text
  | _ => false

def Submission.get (sub : Submission) (key : String) (default : Value) : Value :=
  (Dict.find (PyStr.ofString key) sub.answer).getD default

/-- `_validate_z3`. -/
def validateSubmission (H : Host) (h : HiddenMetadata) (sub : Submission) :
    Except String VerifierResult :=
  let verdict := sub.get "verdict" .null
  let encode := sub.get "encode" (.str (PyStr.ofString "faithful"))
  let det : Details := ⟨h.isTrap, h.mutation, verdict, encode, h.rarity, none, none⟩
  if !(isText "bug" verdict || isText "safe" verdict) then
    .ok ⟨false, .invalid, 0, some "no_verdict", det⟩
  else if isText "bug" verdict then do
    let cex := sub.get "counterexample" .null
    let confirmed ← verifyCounterexample H.solver h.toContract cex
    if !confirmed then .ok ⟨true, .invalid, 0, some "bad_counterexample", det⟩
    else .ok ⟨true, .sat, 1, none, { det with cex := some cex }⟩
  else if isText "vacuous" encode then .ok ⟨true, .invalid, 0, some "unsound_encode", det⟩
  -- a claim of safety only falls into a trap that has a witness
  else if h.isTrap && h.isBuggy then .ok ⟨true, .invalid, 0, some "failed_windowed_trap", det⟩
  else if !PyJson.truthy (sub.get "solved" .null) then
    .ok ⟨true, .timeout, 0, some "unproven_safe", det⟩
  else .ok ⟨true, .unsat, 0, some "no_bug_unrewarded", det⟩

/-! ## Scores -/

def referenceMs (p : PublicProblem) : ℚ := p.publicInput.width * 4

/-- `grading.speed_bonus`, for a finite reference. -/
def speedBonus (R : Rounding) (wallMs : PyFloat) (reference : ℚ) : ℚ :=
  if reference ≤ 0 then 0
  else
    match wallMs with
    | .finite wall =>
      if wall < 0 then 0
      else R.nearest (SolverArena.round6 (R.nearest (reference / R.nearest (reference + wall))))
    | _ => 0

/-- `score`: its value, with the reason for a rejection. -/
def score (R : Rounding) (p : PublicProblem) (v : VerifierResult) (wallMs : PyFloat) :
    ℚ × Option String :=
  if v.parsedOk && v.outcome = .sat && 0 < v.rawMetric then
    let speed := speedBonus R wallMs (referenceMs p)
    let rarity := max 0 (min 1 v.details.rarity)
    let share := R.nearest (3 / 10)
    let found := R.add (R.nearest (2 / 5)) (R.nearest (share * speed))
    (R.nearest (SolverArena.round6 (min 1 (R.add found (R.nearest (share * rarity))))), none)
  else
    let graded := SolverArena.grade ⟨v.parsedOk, v.outcome, v.rawMetric, v.rejectionReason, .none⟩ 0
      (p.timeLimitSeconds * 1000) none none false
    (graded.weightedScore, graded.rejectionReason)

/-! ## What a score says -/

section Rounding

variable {R : Rounding} {x y : ℚ}

theorem le_roundHalfEven {n : ℤ} (h : n ≤ x) : n ≤ Thin.roundHalfEven x := by
  have hfloor : n ≤ ⌊x⌋ := Int.le_floor.mpr h
  unfold Thin.roundHalfEven
  dsimp only
  split_ifs <;> omega

theorem round6_nonneg (h : 0 ≤ x) : 0 ≤ SolverArena.round6 x := by
  have hround : (0 : ℤ) ≤ Thin.roundHalfEven (x * 10 ^ 6) :=
    le_roundHalfEven (by push_cast; positivity)
  have hcast : (0 : ℚ) ≤ Thin.roundHalfEven (x * 10 ^ 6) := by exact_mod_cast hround
  exact div_nonneg hcast (by positivity)

theorem quarter_le_round6 (h : 1 / 4 ≤ x) : 1 / 4 ≤ SolverArena.round6 x := by
  have hround : (250000 : ℤ) ≤ Thin.roundHalfEven (x * 10 ^ 6) :=
    le_roundHalfEven (by push_cast; linarith)
  have hcast : (250000 : ℚ) ≤ Thin.roundHalfEven (x * 10 ^ 6) := by exact_mod_cast hround
  rw [SolverArena.round6, le_div_iff₀ (by positivity)]
  exact le_trans (by norm_num) hcast

theorem Rounding.nonneg (h : 0 ≤ x) : 0 ≤ R.nearest x := by
  rw [← R.nearest_zero]
  exact R.mono h

theorem Rounding.quarter_le (h : 1 / 4 ≤ x) : 1 / 4 ≤ R.nearest x := by
  rw [← R.nearest_quarter]
  exact R.mono h

theorem Rounding.quarter_le_add (hx : 1 / 4 ≤ x) (hy : 0 ≤ y) : 1 / 4 ≤ R.add x y :=
  R.quarter_le (le_add_of_le_of_nonneg hx hy)

theorem speedBonus_nonneg {wallMs : PyFloat} {reference : ℚ} :
    0 ≤ speedBonus R wallMs reference := by
  unfold speedBonus
  split_ifs with hreference
  · exact le_rfl
  · cases wallMs with
    | finite wall =>
      dsimp only
      split_ifs with hwall
      · exact le_rfl
      · push Not at hreference hwall
        have hsum : 0 ≤ R.nearest (reference + wall) := R.nonneg (by linarith)
        exact R.nonneg (round6_nonneg (R.nonneg (div_nonneg hreference.le hsum)))
    | _ => exact le_rfl

end Rounding

section Score

variable {H : Host} {R : Rounding} {p : PublicProblem} {v : VerifierResult} {wallMs : PyFloat}

/-- A find earns a quarter of a point and more. -/
theorem quarter_le_score (hok : v.parsedOk = true) (hsat : v.outcome = .sat)
    (hraw : 0 < v.rawMetric) : 1 / 4 ≤ (score R p v wallMs).1 := by
  rw [score, if_pos (by simp [hok, hsat, hraw])]
  have hshare : 0 ≤ R.nearest (3 / 10) := R.nonneg (by norm_num)
  have hspeed : 0 ≤ R.nearest (R.nearest (3 / 10) * speedBonus R wallMs (referenceMs p)) :=
    R.nonneg (mul_nonneg hshare speedBonus_nonneg)
  have hrarity : 0 ≤ R.nearest (R.nearest (3 / 10) * max 0 (min 1 v.details.rarity)) :=
    R.nonneg (mul_nonneg hshare (le_max_left _ _))
  have hbase : 1 / 4 ≤ R.nearest (2 / 5) := R.quarter_le (by norm_num)
  have hsum := R.quarter_le_add (R.quarter_le_add hbase hspeed) hrarity
  exact R.quarter_le (quarter_le_round6 (le_min (by norm_num) hsum))

theorem score_eq_zero (hsat : v.outcome ≠ .sat) (hraw : v.rawMetric = 0) :
    (score R p v wallMs).1 = 0 := by
  rw [score, if_neg (by simp [hsat])]
  simp only [SolverArena.grade, hraw, Bool.false_eq_true, if_false]
  split_ifs <;> simp

end Score

/-! ## Counterexamples -/

/-- The submission claims a bug and names a word that triggers the fault and that the fault
changes. -/
structure VerifiedCounterexample (c : Contract) (sub : Submission) : Prop where
  claims : isText "bug" (sub.get "verdict" .null) = true
  breaks : ∃ s : ℤ, sub.get "counterexample" .null = .num (.int s) ∧ 0 ≤ s ∧ s < 2 ^ c.width ∧
    c.Triggers s ∧ Changes c.mutation c.width s

section Verdicts

variable {H : Host} {h : HiddenMetadata} {sub : Submission}

/-- Every answer to a valid contract is judged, and found exactly if it is a counterexample. -/
theorem validateSubmission_ok (hvalid : h.toContract.Valid) :
    ∃ v, validateSubmission H h sub = .ok v ∧
      (VerifiedCounterexample h.toContract sub →
        v.parsedOk = true ∧ v.outcome = .sat ∧ 0 < v.rawMetric) ∧
      (¬ VerifiedCounterexample h.toContract sub → v.outcome ≠ .sat ∧ v.rawMetric = 0) := by
  obtain ⟨b, hb, hiff⟩ := @verifyCounterexample_iff H.solver _ hvalid
    (sub.get "counterexample" .null)
  unfold validateSubmission
  dsimp only
  by_cases hbug : isText "bug" (sub.get "verdict" .null) = true
  · have hfound : VerifiedCounterexample h.toContract sub ↔ b = true :=
      ⟨fun hv => hiff.mpr hv.breaks, fun hv => ⟨hbug, hiff.mp hv⟩⟩
    rw [if_neg (by simp [hbug]), if_pos hbug, hb, hfound]
    cases b with
    | false => exact ⟨_, rfl, by simp, by simp⟩
    | true => exact ⟨_, rfl, by simp, by simp⟩
  · have hnot : ¬ VerifiedCounterexample h.toContract sub := fun hv => hbug hv.claims
    rw [if_neg hbug]
    split_ifs <;> exact ⟨_, rfl, fun hv => absurd hv hnot, by simp⟩

theorem mintChallenge_valid {seed tier : ℤ} {c : Challenge}
    (hmint : mintChallenge H seed tier = .ok c) : c.2.toContract.Valid := by
  obtain ⟨hidden, hhidden, hc⟩ := bind_eq_ok.mp hmint
  cases hc
  obtain ⟨contract, -, hcheck⟩ := bind_eq_ok.mp hhidden
  obtain ⟨found, hfound, heq⟩ := bind_eq_ok.mp hcheck
  cases heq
  obtain ⟨q, hq, -⟩ := map_eq_ok.mp hfound
  exact valid_of_build hq

end Verdicts

end Cathedral.Lanes.Encoding
