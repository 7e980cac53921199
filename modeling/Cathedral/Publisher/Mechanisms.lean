import Cathedral.Lib.Dict
import Cathedral.Lib.Share

/-!
# Cathedral.Publisher.Mechanisms — the mechanism router

`compose` of `scaffold/publisher/mechanism_router.py`: every proof rail is a
mechanism with a fraction of the weight, its scores are normalised over the
registered uids, and a mechanism that cannot prove its scores this cycle
forfeits its fraction.

Fractions and scores are exact rationals. The accounting of one pass of the loop
is `Accounts`; it holds of every list of specs (`run_accounts`), and the laws of
`compose` are read off it.
-/

namespace Cathedral.Publisher.Mechanisms

/-! ## Data -/

abbrev ScoreVector : Type := Dict ℤ ℚ

structure MechanismSpec where
  mechanismId : String
  ownerPubkey : String
  weightFraction : ℚ
  tier : String
  ownerUid : Option ℤ
  enabled : Bool
  requiresForfeitPreservation : Bool

structure ScoreVectorMeta where
  mechanismId : String
  signedAtMs : ℤ
  sigOk : Bool
  source : String

/-- The scores of the mechanisms, by mechanism id. -/
abbrev Scores : Type := Dict String (ScoreVector × ScoreVectorMeta)

inductive FallbackReason where
  | disabled
  | zeroFraction
  | missing
  | sigBad
  | stale
  | emptyAfterFilter

/-- Whether the fraction counts as forfeited. -/
def FallbackReason.forfeits : FallbackReason → Bool
  | .disabled | .zeroFraction => false
  | _ => true

structure MechanismDebug where
  fraction : ℚ
  contributing : Bool
  nUids : ℕ
  fallbackReason : Option FallbackReason

structure Debug where
  mechanisms : Dict String MechanismDebug
  combinedTotalBeforeRenorm : ℚ
  blockSelfWeight : Bool
  maxScoreAgeMs : Option ℤ
  nowMs : ℤ
  forfeitedFraction : ℚ
  contributingFraction : ℚ
  preserveForfeited : Bool
  nFinalUids : ℕ

/-- The keyword arguments of `compose`. -/
structure Options where
  registeredUids : Finset ℤ
  blockSelfWeight : Bool
  maxScoreAgeMs : Option ℤ
  nowMs : ℤ
  preserveForfeited : Bool

/-- `ForfeitPreservationRequired`, with the mechanisms that block. -/
structure ForfeitPreservationRequired where
  blocking : List String

/-! ## One mechanism -/

/-- Enabled, with a positive fraction. -/
def MechanismSpec.live (spec : MechanismSpec) : Bool := spec.enabled && 0 < spec.weightFraction

/-- The registered positive scores, without the owner's own. -/
def filtered (o : Options) (spec : MechanismSpec) (vec : ScoreVector) : ScoreVector :=
  let kept := vec.filterItems fun uid val => uid ∈ o.registeredUids && 0 < val
  if o.blockSelfWeight then kept.filterItems fun uid _ => spec.ownerUid ≠ some uid else kept

/-- The vector that a mechanism shares out, or why it does not. -/
def standing (o : Options) (scores : Scores) (spec : MechanismSpec) :
    Except FallbackReason ScoreVector :=
  if !spec.enabled then .error .disabled
  else if spec.weightFraction ≤ 0 then .error .zeroFraction
  else
    match scores.get? spec.mechanismId with
    | none => .error .missing
    | some (vec, info) =>
      if !info.sigOk then .error .sigBad
      else if o.maxScoreAgeMs.any (· < o.nowMs - info.signedAtMs) then .error .stale
      else if (filtered o spec vec).total ≤ 0 then .error .emptyAfterFilter
      else .ok (filtered o spec vec)

/-! ## The loop -/

/-- The variables of the loop. -/
structure Progress where
  perMechDebug : Dict String MechanismDebug
  combined : Dict ℤ ℚ
  forfeitedFraction : ℚ
  contributingFraction : ℚ

def Progress.start : Progress := ⟨Dict.empty, Dict.empty, 0, 0⟩

/-- `combined[uid] += fraction * (val / total)` over a vector. -/
def shareOut (fraction : ℚ) (vec : ScoreVector) (combined : Dict ℤ ℚ) : Dict ℤ ℚ :=
  vec.items.foldl (fun d kv => d.add kv.1 (fraction * (kv.2 / vec.total))) combined

def composeStep (o : Options) (scores : Scores) (st : Progress) (spec : MechanismSpec) : Progress :=
  let fraction := spec.weightFraction
  match standing o scores spec with
  | .error reason =>
    { st with
      perMechDebug := st.perMechDebug.set spec.mechanismId ⟨fraction, false, 0, some reason⟩
      forfeitedFraction := st.forfeitedFraction + if reason.forfeits then fraction else 0 }
  | .ok vec =>
    { st with
      perMechDebug := st.perMechDebug.set spec.mechanismId
        ⟨fraction, true, vec.items.length, none⟩
      combined := shareOut fraction vec st.combined
      contributingFraction := st.contributingFraction + fraction }

/-- `sorted(specs, key=lambda s: s.mechanism_id)`. -/
def sortedSpecs (specs : List MechanismSpec) : List MechanismSpec :=
  specs.insertionSort fun a b => a.mechanismId ≤ b.mechanismId

/-- The mechanisms that may only be composed with their forfeit preserved. -/
def blocking (specs : List MechanismSpec) : List String :=
  ((specs.filter fun spec => spec.requiresForfeitPreservation && spec.live).map
    (·.mechanismId)).insertionSort (· ≤ ·)

def compose (specs : List MechanismSpec) (scores : Scores) (o : Options) :
    Except ForfeitPreservationRequired (Dict ℤ ℚ × Debug) :=
  if !o.preserveForfeited && !(blocking specs).isEmpty then .error ⟨blocking specs⟩
  else
    let st := (sortedSpecs specs).foldl (composeStep o scores) .start
    let combinedTotal := st.combined.total
    let debug (nFinalUids : ℕ) : Debug :=
      { mechanisms := st.perMechDebug
        combinedTotalBeforeRenorm := combinedTotal
        blockSelfWeight := o.blockSelfWeight
        maxScoreAgeMs := o.maxScoreAgeMs
        nowMs := o.nowMs
        forfeitedFraction := st.forfeitedFraction
        contributingFraction := st.contributingFraction
        preserveForfeited := o.preserveForfeited
        nFinalUids := nFinalUids }
    if combinedTotal ≤ 0 then .ok (Dict.empty, debug 0)
    else if o.preserveForfeited then .ok (st.combined, debug st.combined.items.length)
    else
      let final := st.combined.mapItems fun _ w => w / combinedTotal
      .ok (final, debug final.items.length)

/-! ## What a mechanism distributes -/

/-- The score of a uid as compose normalises it, for one mechanism. -/
def normalised (o : Options) (scores : Scores) (spec : MechanismSpec) (uid : ℤ) : ℚ :=
  match standing o scores spec with
  | .error _ => 0
  | .ok vec => vec.getD uid 0 / vec.total

/-- Its fraction of the weight, spread by those scores. -/
def distributed (o : Options) (scores : Scores) (spec : MechanismSpec) (uid : ℤ) : ℚ :=
  spec.weightFraction * normalised o scores spec uid

/-- The fraction that a mechanism contributes. -/
def contributed (o : Options) (scores : Scores) (spec : MechanismSpec) : ℚ :=
  match standing o scores spec with
  | .error _ => 0
  | .ok _ => spec.weightFraction

/-- The fractions of the enabled positive mechanisms. -/
def liveTotal (specs : List MechanismSpec) : ℚ :=
  ((specs.filter (·.live)).map (·.weightFraction)).sum

theorem fraction_pos {spec : MechanismSpec} (h : spec.live = true) : 0 < spec.weightFraction := by
  rw [MechanismSpec.live, Bool.and_eq_true, decide_eq_true_eq] at h
  exact h.2

section Standing

variable {o : Options} {scores : Scores} {spec : MechanismSpec}

/-- The two ways a mechanism takes part: it shares a positive vector, or it says why not. -/
theorem standing_ok {vec : ScoreVector} (h : standing o scores spec = .ok vec) :
    spec.live = true ∧ 0 < vec.total ∧
      ∃ posted info, scores.get? spec.mechanismId = some (posted, info) ∧
        vec = filtered o spec posted := by
  unfold standing at h
  split_ifs at h with henabled hfraction
  split at h
  · cases h
  · next posted info hget =>
      split_ifs at h with hsig hage htotal
      cases h
      refine ⟨?_, not_le.mp htotal, posted, info, hget, rfl⟩
      simpa [MechanismSpec.live] using ⟨by simpa using henabled, not_le.mp hfraction⟩

theorem forfeits_iff_live {reason : FallbackReason} (h : standing o scores spec = .error reason) :
    reason.forfeits = spec.live := by
  unfold standing at h
  split_ifs at h with henabled hfraction
  · cases h
    simp_all [FallbackReason.forfeits, MechanismSpec.live]
  · cases h
    simp_all [FallbackReason.forfeits, MechanismSpec.live]
  · have hlive : spec.live = true := by
      simpa [MechanismSpec.live] using ⟨by simpa using henabled, not_le.mp hfraction⟩
    rw [hlive]
    split at h
    · cases h
      rfl
    · split_ifs at h <;> cases h <;> rfl

theorem get?_filtered (o : Options) (spec : MechanismSpec) (vec : ScoreVector) (uid : ℤ) :
    (filtered o spec vec).get? uid =
      (vec.get? uid).filter fun val => uid ∈ o.registeredUids ∧ 0 < val ∧
        ¬ (o.blockSelfWeight = true ∧ spec.ownerUid = some uid) := by
  unfold filtered
  split_ifs with hblock
  · rw [Dict.get?_filterItems, Dict.get?_filterItems, Option.filter_filter]
    congr 1
    funext val
    simp [hblock, Bool.and_assoc]
  · rw [Dict.get?_filterItems]
    congr 1
    funext val
    simp [hblock]

/-- What a mechanism distributes depends on its own entry only. -/
theorem distributed_congr {scores' : Scores}
    (h : scores'.get? spec.mechanismId = scores.get? spec.mechanismId) (uid : ℤ) :
    distributed o scores' spec uid = distributed o scores spec uid := by
  have hstanding : standing o scores' spec = standing o scores spec := by
    unfold standing
    rw [h]
  rw [distributed, distributed, normalised, normalised, hstanding]

end Standing

/-! ## Registered shares -/

/-- A uid that a mechanism may pay: registered, and not its own. -/
def Payable (o : Options) (spec : MechanismSpec) (uid : ℤ) : Prop :=
  uid ∈ o.registeredUids ∧ ¬ (o.blockSelfWeight = true ∧ spec.ownerUid = some uid)

instance (o : Options) (spec : MechanismSpec) : DecidablePred (Payable o spec) := fun _ =>
  inferInstanceAs (Decidable (_ ∧ _))

/-- The score of a registered uid, zero for the owner of the mechanism. -/
def registeredScore (o : Options) (spec : MechanismSpec) (vec : ScoreVector) (uid : ℤ) : ℚ :=
  if Payable o spec uid then max 0 (vec.getD uid 0) else 0

/-- The scores that a mechanism posted. -/
def posted (scores : Scores) (spec : MechanismSpec) : ScoreVector :=
  ((scores.get? spec.mechanismId).map Prod.fst).getD Dict.empty

/-- A mechanism contributes when it is live, its scores are signed and in time, and
some registered uid scores. -/
def Contributes (o : Options) (scores : Scores) (spec : MechanismSpec) : Prop :=
  spec.live = true ∧ ∃ entry ∈ scores.get? spec.mechanismId, entry.2.sigOk = true ∧
    (∀ limit ∈ o.maxScoreAgeMs, o.nowMs - entry.2.signedAtMs ≤ limit) ∧
      0 < ∑ uid ∈ o.registeredUids, registeredScore o spec entry.1 uid

instance (o : Options) (scores : Scores) : DecidablePred (Contributes o scores) := fun _ =>
  inferInstanceAs (Decidable (_ ∧ _))

section Shares

variable {o : Options} {scores : Scores} {spec : MechanismSpec}

theorem getD_filtered (o : Options) (spec : MechanismSpec) (vec : ScoreVector) (uid : ℤ) :
    (filtered o spec vec).getD uid 0 = registeredScore o spec vec uid := by
  rw [Dict.getD, get?_filtered, registeredScore, Dict.getD]
  cases vec.get? uid with
  | none => simp
  | some val =>
    rw [Option.filter_some, Option.getD_some]
    -- the filter keeps what is registered, positive and not the owner's
    by_cases hreg : Payable o spec uid
    · rw [if_pos hreg]
      by_cases hval : 0 < val
      · rw [if_pos (decide_eq_true ⟨hreg.1, hval, hreg.2⟩), Option.getD_some,
          max_eq_right hval.le]
      · simp [hval, max_eq_left (not_lt.mp hval)]
    · rw [if_neg hreg, if_neg fun h => hreg ⟨(of_decide_eq_true h).1, (of_decide_eq_true h).2.2⟩]
      rfl

theorem total_filtered (o : Options) (spec : MechanismSpec) (vec : ScoreVector) :
    (filtered o spec vec).total = ∑ uid ∈ o.registeredUids, registeredScore o spec vec uid := by
  rw [← Dict.sumOn_true, Dict.sumOn_eq_sum]
  simp only [getD_filtered, Finset.filter_true]
  refine Finset.sum_subset (fun uid huid => ?_) fun uid _ huid => ?_
  · obtain ⟨val, hval⟩ := Dict.mem_keys.mp (List.mem_toFinset.mp huid)
    rw [get?_filtered, Option.filter_eq_some_iff] at hval
    exact (of_decide_eq_true hval.2).1
  · rw [List.mem_toFinset, ← Dict.get?_eq_none] at huid
    rw [← getD_filtered, Dict.getD, huid, Option.getD_none]

theorem standing_eq_ok {vec : ScoreVector} : standing o scores spec = .ok vec ↔
    Contributes o scores spec ∧ vec = filtered o spec (posted scores spec) := by
  constructor
  · intro h
    obtain ⟨hlive, hpos, given, info, hget, rfl⟩ := standing_ok h
    have hposted : posted scores spec = given := by rw [posted, hget]; rfl
    refine ⟨⟨hlive, _, hget, ?_⟩, by rw [hposted]⟩
    unfold standing at h
    rw [hget] at h
    split_ifs at h with henabled hfraction
    dsimp only at h
    split_ifs at h with hsig hage
    refine ⟨by simpa using hsig, ?_, by rw [← total_filtered]; exact hpos⟩
    intro limit hlimit
    rw [Option.mem_def.mp hlimit] at hage
    simpa using hage
  · rintro ⟨⟨hlive, ⟨given, info⟩, hget, hsig, hage, hpos⟩, rfl⟩
    have hposted : posted scores spec = given := by rw [posted, Option.mem_def.mp hget]; rfl
    have hin : ¬ (o.maxScoreAgeMs.any fun limit => limit < o.nowMs - info.signedAtMs) = true := by
      cases hlimit : o.maxScoreAgeMs with
      | none => simp
      | some limit => simpa [not_lt] using hage limit hlimit
    rw [MechanismSpec.live, Bool.and_eq_true, decide_eq_true_eq] at hlive
    unfold standing
    rw [if_neg (by simp [hlive.1]), if_neg (not_le.mpr hlive.2), Option.mem_def.mp hget, hposted]
    dsimp only
    rw [if_neg (by simpa using hsig), if_neg hin, if_neg]
    rw [total_filtered]
    exact not_le.mpr hpos

/-- A contributing mechanism shares out its fraction over the registered scores. -/
theorem distributed_eq_share (uid : ℤ) : distributed o scores spec uid =
    if Contributes o scores spec then
      spec.weightFraction *
        Share.share o.registeredUids (registeredScore o spec (posted scores spec)) uid
    else 0 := by
  unfold distributed normalised
  split
  · next reason herror =>
      have hnot : ¬ Contributes o scores spec := by
        intro h
        rw [standing_eq_ok.mpr ⟨h, rfl⟩] at herror
        cases herror
      rw [if_neg hnot, mul_zero]
  · next vec hok =>
      obtain ⟨h, rfl⟩ := standing_eq_ok.mp hok
      rw [if_pos h, getD_filtered, total_filtered, Share.share]

end Shares

/-! ## The accounts of the loop -/

theorem sumOn_shareOut (p : ℤ → Prop) [DecidablePred p] (fraction : ℚ) (vec : ScoreVector)
    (combined : Dict ℤ ℚ) :
    (shareOut fraction vec combined).sumOn p =
      combined.sumOn p + fraction * (vec.sumOn p / vec.total) := by
  have hscale : ∀ l : List (ℤ × ℚ), (l.map fun kv => fraction * (kv.2 / vec.total)).sum =
      fraction * ((l.map Prod.snd).sum / vec.total) := by
    intro l
    induction l with
    | nil => simp
    | cons kv rest ih =>
      rw [List.map_cons, List.sum_cons, ih, List.map_cons, List.sum_cons]
      ring
  rw [shareOut, Dict.sumOn_foldl_add, hscale]
  rfl

/-- What the loop has booked after some specs. -/
structure Accounts (o : Options) (scores : Scores) (specs : List MechanismSpec) (st : Progress) :
    Prop where
  paid : ∀ uid, st.combined.getD uid 0 = (specs.map fun spec => distributed o scores spec uid).sum
  total : st.combined.total = st.contributingFraction
  contributing : st.contributingFraction = (specs.map (contributed o scores)).sum
  conserved : st.contributingFraction + st.forfeitedFraction = liveTotal specs
  forfeited_nonneg : 0 ≤ st.forfeitedFraction

theorem accounts_start (o : Options) (scores : Scores) : Accounts o scores [] .start where
  paid _ := rfl
  total := rfl
  contributing := rfl
  conserved := by simp [Progress.start, liveTotal]
  forfeited_nonneg := le_rfl

theorem liveTotal_concat (specs : List MechanismSpec) (spec : MechanismSpec) :
    liveTotal (specs ++ [spec]) =
      liveTotal specs + if spec.live then spec.weightFraction else 0 := by
  unfold liveTotal
  rw [List.filter_append, List.map_append, List.sum_append]
  cases h : spec.live <;> simp [h]

/-- One mechanism is booked: its fraction is shared out, forfeited or not live. -/
theorem step_accounts {o : Options} {scores : Scores} {specs : List MechanismSpec} {st : Progress}
    (h : Accounts o scores specs st) (spec : MechanismSpec) :
    Accounts o scores (specs ++ [spec]) (composeStep o scores st spec) := by
  unfold composeStep
  cases hstanding : standing o scores spec with
  | error reason =>
    have hpaid : ∀ uid, distributed o scores spec uid = 0 := by
      intro uid
      rw [distributed, normalised, hstanding, mul_zero]
    have hcontributed : contributed o scores spec = 0 := by rw [contributed, hstanding]
    refine ⟨fun uid => ?_, h.total, ?_, ?_, ?_⟩
    · simp [h.paid uid, hpaid uid]
    · simp [h.contributing, hcontributed]
    · rw [liveTotal_concat, ← h.conserved, ← forfeits_iff_live hstanding]
      show st.contributingFraction + (st.forfeitedFraction + _) = _
      ring
    · refine add_nonneg h.forfeited_nonneg ?_
      split_ifs with hforfeits
      · rw [forfeits_iff_live hstanding] at hforfeits
        exact (fraction_pos hforfeits).le
      · exact le_rfl
  | ok vec =>
    obtain ⟨hlive, hpos, -⟩ := standing_ok hstanding
    have hpaid : ∀ uid, distributed o scores spec uid =
        spec.weightFraction * (vec.getD uid 0 / vec.total) := by
      intro uid
      rw [distributed, normalised, hstanding]
    have hcontributed : contributed o scores spec = spec.weightFraction := by
      rw [contributed, hstanding]
    refine ⟨fun uid => ?_, ?_, ?_, ?_, h.forfeited_nonneg⟩
    · show (shareOut _ vec st.combined).getD uid 0 = _
      rw [← Dict.sumOn_eq, sumOn_shareOut, Dict.sumOn_eq, Dict.sumOn_eq, h.paid uid]
      simp [hpaid uid]
    · show (shareOut _ vec st.combined).total = _
      -- the normalised scores sum to one
      have hone : vec.total / vec.total = 1 := div_self hpos.ne'
      rw [← Dict.sumOn_true, sumOn_shareOut, Dict.sumOn_true, Dict.sumOn_true, h.total, hone,
        mul_one]
    · simp [h.contributing, hcontributed]
    · rw [liveTotal_concat, ← h.conserved, hlive, if_pos rfl]
      show st.contributingFraction + _ + st.forfeitedFraction = _
      ring

theorem run_accounts (o : Options) (scores : Scores) (specs : List MechanismSpec) :
    Accounts o scores specs (specs.foldl (composeStep o scores) .start) := by
  induction specs using List.reverseRecOn with
  | nil => exact accounts_start o scores
  | append_singleton specs spec ih =>
    rw [List.foldl_append]
    exact step_accounts ih spec

/-! ## The laws of `compose` -/

theorem sortedSpecs_perm (specs : List MechanismSpec) : (sortedSpecs specs).Perm specs :=
  List.perm_insertionSort _ specs

/-- The order of the mechanisms does not matter to the accounts. -/
theorem Accounts.perm {o : Options} {scores : Scores} {specs specs' : List MechanismSpec}
    {st : Progress} (h : Accounts o scores specs st) (hperm : specs.Perm specs') :
    Accounts o scores specs' st where
  paid uid := (h.paid uid).trans (hperm.map _).sum_eq
  total := h.total
  contributing := h.contributing.trans (hperm.map _).sum_eq
  conserved := h.conserved.trans ((hperm.filter _).map _).sum_eq
  forfeited_nonneg := h.forfeited_nonneg

/-- A mechanism that distributes anything contributes a positive fraction. -/
theorem contributed_pos {o : Options} {scores : Scores} {spec : MechanismSpec} {uid : ℤ}
    (h : distributed o scores spec uid ≠ 0) : 0 < contributed o scores spec := by
  cases hstanding : standing o scores spec with
  | error reason =>
    rw [distributed, normalised, hstanding, mul_zero] at h
    exact absurd rfl h
  | ok vec =>
    obtain ⟨hlive, -, -⟩ := standing_ok hstanding
    rw [contributed, hstanding]
    exact fraction_pos hlive

theorem contributed_nonneg (o : Options) (scores : Scores) (spec : MechanismSpec) :
    0 ≤ contributed o scores spec := by
  cases hstanding : standing o scores spec with
  | error reason => rw [contributed, hstanding]
  | ok vec =>
    obtain ⟨hlive, -, -⟩ := standing_ok hstanding
    rw [contributed, hstanding]
    exact (fraction_pos hlive).le

/-- What `compose` promises about the weights it returns. -/
structure Composed (o : Options) (scores : Scores) (specs : List MechanismSpec)
    (weights : Dict ℤ ℚ) (debug : Debug) : Prop where
  total : weights.total = debug.contributingFraction
  conserved : debug.contributingFraction + debug.forfeitedFraction = liveTotal specs
  forfeited_nonneg : 0 ≤ debug.forfeitedFraction
  paid : ∀ uid, weights.getD uid 0 = (specs.map fun spec => distributed o scores spec uid).sum

/-- Only contributing mechanisms distribute, by registered score. -/
theorem sum_distributed (o : Options) (scores : Scores) (specs : List MechanismSpec) (uid : ℤ) :
    (specs.map fun spec => distributed o scores spec uid).sum =
      ((specs.filter fun spec => Contributes o scores spec).map fun spec =>
        spec.weightFraction * Share.share o.registeredUids
          (registeredScore o spec (posted scores spec)) uid).sum := by
  induction specs with
  | nil => rfl
  | cons spec specs ih =>
    rw [List.map_cons, List.sum_cons, ih, distributed_eq_share, List.filter_cons]
    by_cases hspec : Contributes o scores spec
    · rw [if_pos hspec, if_pos (decide_eq_true hspec), List.map_cons, List.sum_cons]
    · rw [if_neg hspec, if_neg (by simpa using hspec), zero_add]

theorem compose_accounts (o : Options) (scores : Scores) (specs : List MechanismSpec) :
    Accounts o scores specs ((sortedSpecs specs).foldl (composeStep o scores) .start) :=
  (run_accounts o scores (sortedSpecs specs)).perm (sortedSpecs_perm specs)

/-- Without mass nothing is paid: each contributing mechanism has a positive fraction. -/
theorem Accounts.unpaid {o : Options} {scores : Scores} {specs : List MechanismSpec}
    {st : Progress} (h : Accounts o scores specs st) (htotal : st.combined.total ≤ 0) :
    st.contributingFraction = 0 ∧
      ∀ uid, (specs.map fun spec => distributed o scores spec uid).sum = 0 := by
  rw [h.total] at htotal
  have hnonneg : ∀ x ∈ specs.map (contributed o scores), 0 ≤ x := by
    intro x hx
    obtain ⟨spec, -, rfl⟩ := List.mem_map.mp hx
    exact contributed_nonneg o scores spec
  refine ⟨?_, fun uid => List.sum_eq_zero fun x hx => ?_⟩
  · have hsum := List.sum_nonneg hnonneg
    rw [← h.contributing] at hsum
    exact le_antisymm htotal hsum
  · obtain ⟨spec, hspec, rfl⟩ := List.mem_map.mp hx
    by_contra hne
    have hle := List.single_le_sum hnonneg _ (List.mem_map_of_mem hspec)
    rw [← h.contributing] at hle
    exact absurd (hle.trans htotal) (not_le.mpr (contributed_pos hne))

/-- With the forfeit preserved, `compose` returns and keeps the accounts. -/
theorem compose_composed {o : Options} (ho : o.preserveForfeited = true) (scores : Scores)
    (specs : List MechanismSpec) :
    ∃ weights debug, compose specs scores o = .ok (weights, debug) ∧
      Composed o scores specs weights debug := by
  have haccounts := compose_accounts o scores specs
  unfold compose
  rw [if_neg (by simp [ho])]
  dsimp only
  split_ifs with htotal
  · obtain ⟨hzero, hunpaid⟩ := haccounts.unpaid htotal
    exact ⟨_, _, rfl, hzero.symm, haccounts.conserved, haccounts.forfeited_nonneg,
      fun uid => (hunpaid uid).symm⟩
  · exact ⟨_, _, rfl, haccounts.total, haccounts.conserved, haccounts.forfeited_nonneg,
      haccounts.paid⟩

/-- What `compose` divides the weights by. -/
def renorm (o : Options) (debug : Debug) : ℚ :=
  if o.preserveForfeited then 1 else debug.contributingFraction

/-- In either mode a weight is what the mechanisms share out, up to one factor for all. -/
theorem compose_shares {o : Options} {scores : Scores} {specs : List MechanismSpec}
    {weights : Dict ℤ ℚ} {debug : Debug} (h : compose specs scores o = .ok (weights, debug))
    (uid : ℤ) :
    weights.getD uid 0 = ((specs.filter fun spec => Contributes o scores spec).map fun spec =>
      spec.weightFraction * Share.share o.registeredUids
        (registeredScore o spec (posted scores spec)) uid).sum / renorm o debug := by
  have haccounts := compose_accounts o scores specs
  rw [← sum_distributed, renorm]
  unfold compose at h
  dsimp only at h
  split_ifs at h with hblocking htotal ho
  · cases h
    rw [(haccounts.unpaid htotal).2 uid, zero_div]
    rfl
  · cases h
    rw [if_pos ho, div_one]
    exact haccounts.paid uid
  · cases h
    rw [if_neg ho, ← haccounts.paid uid, ← haccounts.total, Dict.getD, Dict.get?_mapItems,
      Dict.getD]
    cases Dict.get? _ uid with
    | none => simp
    | some w => rfl

end Cathedral.Publisher.Mechanisms
