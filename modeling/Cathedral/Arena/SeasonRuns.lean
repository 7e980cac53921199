import Cathedral.Arena.Season

/-!
# Cathedral.Arena.SeasonRuns — a season over its runs

What every round keeps of the counters of an agent and of a target, and from it what holds of
the state after any sequence of seasons, with the state saved and loaded anywhere between.
-/

namespace Cathedral.Arena

/-! ## The counters of an agent -/

/-- The relations between the counters of an agent. -/
structure AgentOk (rounds : ℤ) (a : AgentSeason) : Prop where
  emissions : 0 ≤ a.totalEmissions
  earned : a.roundsVerified = 0 → a.totalEmissions = 0
  breaches : a.breaches = a.roundsVerified
  streak_nonneg : 0 ≤ a.streak
  streak_le : a.streak ≤ a.bestStreak
  best_le : a.bestStreak ≤ a.roundsVerified
  verified_le : a.roundsVerified ≤ a.roundsPlayed
  played_le : a.roundsPlayed ≤ rounds

section Counters

variable {rounds : ℤ} {a : AgentSeason}

theorem AgentOk.mono {rounds' : ℤ} (h : AgentOk rounds a) (hle : rounds ≤ rounds') :
    AgentOk rounds' a :=
  { h with played_le := h.played_le.trans hle }

theorem agentOk_new {agentId hotkey : String} (h : 0 ≤ rounds) :
    AgentOk rounds { agentId := agentId, hotkey := hotkey } where
  emissions := le_rfl
  earned := fun _ => rfl
  breaches := rfl
  streak_nonneg := le_rfl
  streak_le := le_rfl
  best_le := le_rfl
  verified_le := le_rfl
  played_le := h

theorem roundHalfEven_nonneg {x : ℚ} (h : 0 ≤ x) : (0 : ℚ) ≤ Thin.roundHalfEven x := by
  have hfloor : 0 ≤ ⌊x⌋ := Int.floor_nonneg.mpr h
  have hround : 0 ≤ Thin.roundHalfEven x := by
    simp only [Thin.roundHalfEven]
    split_ifs
    · exact hfloor
    · omega
    · exact hfloor
    · omega
  exact_mod_cast hround

theorem round1_nonneg {x : ℚ} (h : 0 ≤ x) : 0 ≤ round1 x :=
  div_nonneg (roundHalfEven_nonneg (by linarith)) (by norm_num)

theorem round6_nonneg {x : ℚ} (h : 0 ≤ x) : 0 ≤ Lanes.SolverArena.round6 x :=
  div_nonneg (roundHalfEven_nonneg (by positivity)) (by norm_num)

theorem round1_zero : round1 0 = 0 := by decide +kernel

variable {result : ArenaResult} {positions : Dict String ℤ} {r : AgentResult}

/-- A round keeps the relations, with one round more. -/
theorem AgentOk.played (h : AgentOk rounds a) (hnonneg : 0 ≤ result.emissions.getD r.hotkey 0)
    (hfailed : r.gates.passed = false → result.emissions.getD r.hotkey 0 = 0) :
    AgentOk (rounds + 1) (played result positions a r) := by
  have hemitted : 0 ≤ round1 (a.totalEmissions + result.emissions.getD r.hotkey 0) :=
    round1_nonneg (add_nonneg h.emissions hnonneg)
  have hverified : 0 ≤ a.roundsVerified := (h.streak_nonneg.trans h.streak_le).trans h.best_le
  have hbreaches := h.breaches
  have hstreak := h.streak_le
  have hbest := h.best_le
  have hle := h.verified_le
  have hplayed := h.played_le
  have hnew := h.streak_nonneg
  cases hpassed : r.gates.passed with
  | true =>
    refine ⟨?_, ?_, ?_, ?_, ?_, ?_, ?_, ?_⟩ <;>
      simp only [Arena.played, hpassed, if_true]
    · exact hemitted
    · intro hzero
      omega
    · omega
    · omega
    · omega
    · omega
    · omega
    · omega
  | false =>
    refine ⟨?_, ?_, ?_, ?_, ?_, ?_, ?_, ?_⟩ <;>
      simp only [Arena.played, hpassed, Bool.false_eq_true, if_false]
    · exact hemitted
    · intro hzero
      rw [h.earned hzero, hfailed hpassed, add_zero, round1_zero]
    · omega
    · omega
    · omega
    · omega
    · omega
    · omega

end Counters

/-! ## The loops of a round -/

section Loops

variable {result : ArenaResult} {positions : Dict String ℤ}

/-- An agent after the loop either played the round or is as before. -/
theorem get?_foldl_play {hk : String} {s : AgentSeason} :
    ∀ (agents : List AgentResult) (d : Dict String AgentSeason),
      (agents.map AgentResult.hotkey).Nodup →
      (agents.foldl (playAgent result positions) d).get? hk = some s →
      (∃ a ∈ agents, a.hotkey = hk ∧ s = played result positions
        (d.getD hk { agentId := a.agentId, hotkey := a.hotkey }) a) ∨ d.get? hk = some s
  | [], _, _, h => .inr h
  | a :: rest, d, hnd, h => by
    rw [List.map_cons, List.nodup_cons] at hnd
    rw [List.foldl_cons] at h
    rcases get?_foldl_play rest _ hnd.2 h with ⟨b, hb, hkey, hs⟩ | hget
    · have hne : a.hotkey ≠ hk := fun heq =>
        hnd.1 (List.mem_map.mpr ⟨b, hb, hkey.trans heq.symm⟩)
      refine .inl ⟨b, List.mem_cons_of_mem _ hb, hkey, ?_⟩
      rw [hs, playAgent, Dict.getD, Dict.get?_set_ne _ _ hne, Dict.getD]
    · rw [playAgent, Dict.get?_set] at hget
      by_cases heq : a.hotkey = hk
      · rw [if_pos heq, Option.some.injEq] at hget
        exact .inl ⟨a, List.mem_cons_self .., heq, by rw [← hget, heq]⟩
      · rw [if_neg heq] at hget
        exact .inr hget

/-- A verified proof of the round against a target. -/
def ArenaResult.Proven (result : ArenaResult) (n : ℤ) : Prop :=
  ∃ st, result.targetState.get? n = some st ∧ 0 < st.verifiedProofs

def firstBroken (targets : Dict ℤ TargetSeason) (n : ℤ) : Option ℤ :=
  (targets.get? n).bind (·.firstBrokenRound)

theorem firstBroken_conquer {targets : Dict ℤ TargetSeason} {t : Target} (n : ℤ) :
    (t.netuid = n ∧ result.Proven n →
      firstBroken (conquer result targets t) n =
        (firstBroken targets n).or (some result.roundNo)) ∧
    (¬ (t.netuid = n ∧ result.Proven n) →
      firstBroken (conquer result targets t) n = firstBroken targets n) := by
  by_cases ht : t.netuid = n
  · subst ht
    have hold : (targets.getD t.netuid { netuid := t.netuid, name := t.name }).firstBrokenRound =
        firstBroken targets t.netuid := by
      rw [Dict.getD, firstBroken]
      cases targets.get? t.netuid <;> rfl
    cases hst : result.targetState.get? t.netuid with
    | none =>
      have hnot : ¬ result.Proven t.netuid := by
        rintro ⟨st, hget, _⟩
        rw [hst] at hget
        cases hget
      refine ⟨fun h => absurd h.2 hnot, fun _ => ?_⟩
      rw [← hold, conquer, hst, firstBroken, Dict.get?_set_self, Option.bind_some]
    | some st =>
      by_cases hpos : 0 < st.verifiedProofs
      · refine ⟨fun _ => ?_, fun h => absurd ⟨rfl, st, hst, hpos⟩ h⟩
        simp only [conquer, hst, if_pos hpos]
        rw [← hold, firstBroken, Dict.get?_set_self, Option.bind_some]
      · have hnot : ¬ result.Proven t.netuid := by
          rintro ⟨st', hget, hpos'⟩
          rw [hst, Option.some.injEq] at hget
          exact hpos (hget ▸ hpos')
        refine ⟨fun h => absurd h.2 hnot, fun _ => ?_⟩
        simp only [conquer, hst, if_neg hpos]
        rw [← hold, firstBroken, Dict.get?_set_self, Option.bind_some]
  · have hsame : (conquer result targets t).get? n = targets.get? n := by
      rw [conquer]
      cases result.targetState.get? t.netuid with
      | none => exact Dict.get?_set_ne _ _ ht
      | some st =>
        dsimp only
        split_ifs
        · exact Dict.get?_set_ne _ _ ht
        · exact Dict.get?_set_ne _ _ ht
    exact ⟨fun h => absurd h.1 ht, fun _ => by rw [firstBroken, hsame, firstBroken]⟩

/-- What the loop over the targets makes of a first broken round. -/
theorem firstBroken_foldl (n : ℤ) : ∀ (ts : List Target) (targets : Dict ℤ TargetSeason),
    ((∃ t ∈ ts, t.netuid = n) ∧ result.Proven n →
      firstBroken (ts.foldl (conquer result) targets) n =
        (firstBroken targets n).or (some result.roundNo)) ∧
    (¬ ((∃ t ∈ ts, t.netuid = n) ∧ result.Proven n) →
      firstBroken (ts.foldl (conquer result) targets) n = firstBroken targets n)
  | [], _ => ⟨fun ⟨⟨_, hmem, _⟩, _⟩ => absurd hmem List.not_mem_nil, fun _ => rfl⟩
  | t :: rest, targets => by
    obtain ⟨hset, hkeep⟩ := @firstBroken_conquer result targets t n
    obtain ⟨hset', hkeep'⟩ := firstBroken_foldl n rest (conquer result targets t)
    rw [List.foldl_cons]
    by_cases hproven : result.Proven n
    · by_cases ht : t.netuid = n
      · refine ⟨fun _ => ?_, fun h => absurd ⟨⟨t, List.mem_cons_self .., ht⟩, hproven⟩ h⟩
        by_cases hrest : ∃ t ∈ rest, t.netuid = n
        · -- the round is entered once
          rw [hset' ⟨hrest, hproven⟩, hset ⟨ht, hproven⟩]
          cases firstBroken targets n <;> rfl
        · rw [hkeep' fun h => hrest h.1, hset ⟨ht, hproven⟩]
      · have hiff : (∃ u ∈ t :: rest, u.netuid = n) ↔ ∃ u ∈ rest, u.netuid = n := by
          simp [ht]
        rw [hiff]
        rw [hkeep fun h => ht h.1] at hset' hkeep'
        exact ⟨hset', hkeep'⟩
    · refine ⟨fun h => absurd h.2 hproven, fun _ => ?_⟩
      rw [hkeep' fun h => hproven h.2, hkeep fun h => hproven h.2]

/-- The breaches of no target become negative. -/
def BreachesOk (targets : Dict ℤ TargetSeason) : Prop :=
  ∀ n t, targets.get? n = some t → 0 ≤ t.breaches

theorem BreachesOk.conquer {targets : Dict ℤ TargetSeason} (h : BreachesOk targets) (t : Target) :
    BreachesOk (conquer result targets t) := by
  have hold : 0 ≤ (targets.getD t.netuid { netuid := t.netuid, name := t.name }).breaches := by
    rw [Dict.getD]
    cases hget : targets.get? t.netuid with
    | none => exact le_rfl
    | some ts => exact h _ ts hget
  have hset : ∀ ts : TargetSeason, 0 ≤ ts.breaches → BreachesOk (targets.set t.netuid ts) := by
    intro ts hts n ts' hget
    rw [Dict.get?_set] at hget
    split_ifs at hget
    · exact Option.some.inj hget ▸ hts
    · exact h n ts' hget
  rw [Arena.conquer]
  cases result.targetState.get? t.netuid with
  | none => exact hset _ hold
  | some st =>
    dsimp only
    split_ifs
    · exact hset _ (add_nonneg hold (Int.natCast_nonneg _))
    · exact hset _ hold

theorem BreachesOk.foldl {ts : List Target} {targets : Dict ℤ TargetSeason}
    (h : BreachesOk targets) : BreachesOk (ts.foldl (Arena.conquer result) targets) := by
  induction ts generalizing targets with
  | nil => exact h
  | cons t rest ih => exact ih (h.conquer t)

end Loops

/-! ## What a round hands over -/

/-- What a season relies on of a round. -/
structure ArenaResult.Sound (result : ArenaResult) : Prop where
  distinct : (result.agents.map AgentResult.hotkey).Nodup
  emitted : ∀ a ∈ result.agents, 0 ≤ result.emissions.getD a.hotkey 0
  failed : ∀ a ∈ result.agents, a.gates.passed = false → result.emissions.getD a.hotkey 0 = 0
  proven : ∀ n, (∃ t ∈ result.targets, t.netuid = n) →
    (result.Proven n ↔ ∃ a ∈ result.agents, a.target.netuid = n ∧ a.gates.passed = true)

section Assembled

variable {season : String} {roundNo : ℤ} {targets : List Target} {agents : List AgentResult}

theorem contrib_credit_nonneg (a : AgentResult) : 0 ≤ a.credit.contrib := by
  have hspeed : 0 ≤ a.credit.speed := by
    show 0 ≤ Lanes.SolverArena.speedBonus a.wallMs (.finite (referenceMs a.tier))
    cases a.wallMs with
    | finite wall =>
      simp only [Lanes.SolverArena.speedBonus]
      split_ifs with href hwall
      · exact le_rfl
      · exact le_rfl
      · exact round6_nonneg (div_nonneg (not_le.mp href).le
          (add_nonneg (not_le.mp href).le (not_lt.mp hwall)))
    | posInf => exact le_rfl
    | negInf => exact le_rfl
    | nan => exact le_rfl
  have hweight : 0 ≤ a.credit.tierWeight := by
    show 0 ≤ weightFor a.tier * if a.bounty then (13 / 10 : ℚ) else 1
    rw [weightFor]
    split_ifs <;> norm_num
  rw [SolveCredit.contrib]
  refine mul_nonneg (mul_nonneg (mul_nonneg ?_ ?_) hweight) hspeed
  · split_ifs <;> norm_num
  · split_ifs <;> norm_num

theorem roundWeights_nonneg (hk : String) : 0 ≤ (roundWeights agents).getD hk 0 := by
  rw [roundWeights, Dict.getD, Dict.get?_mapItems]
  cases hget : (compose Lanes.SolverArena.round6 (agents.map AgentResult.miner)
      (agents.map AgentResult.credit)).get? hk with
  | none => exact le_rfl
  | some r =>
    refine weight_nonneg (fun x hx => round6_nonneg hx) (fun c hc => ?_) (Dict.mem_items.mpr hget)
    obtain ⟨a, _, rfl⟩ := List.mem_map.mp hc
    exact contrib_credit_nonneg a

theorem emission_nonneg {weights : Dict String ℚ} {a : AgentResult}
    (h : 0 ≤ weights.getD a.hotkey 0) : 0 ≤ emission weights a := by
  have hmult : 0 ≤ provenanceMult a.gates.provenanceGrade := by
    cases a.gates.provenanceGrade <;> norm_num [provenanceMult]
  have hbounty : 0 ≤ targetBounty a.target := round1_nonneg (by positivity)
  rw [emission]
  split_ifs
  · exact round1_nonneg (add_nonneg (mul_nonneg (mul_nonneg h (by norm_num [roundEmissionPool]))
      hmult) hbounty)
  · exact le_rfl

theorem getD_emissions (hnd : (agents.map AgentResult.hotkey).Nodup) {a : AgentResult}
    (h : a ∈ agents) : (assembleRound season roundNo targets agents).emissions.getD a.hotkey 0 =
      emission (roundWeights agents) a := by
  have hkeys : ((agents.map fun a => (a.hotkey, emission (roundWeights agents) a)).map
      Prod.fst).Nodup := by
    rw [List.map_map]
    exact hnd
  rw [assembleRound, Dict.getD, Dict.get?_ofList_of_mem hkeys (List.mem_map_of_mem h),
    Option.getD_some]

theorem get?_foldl_record (n : ℤ) (states : Dict ℤ TargetState) :
    (agents.foldl recordAgent states).get? n = (states.get? n).map fun st =>
      { agents := st.agents ++ (agents.filter fun a => a.target.netuid = n).map (·.agentId)
        verifiedProofs := st.verifiedProofs +
          agents.countP fun a => a.target.netuid = n ∧ a.gates.passed = true } := by
  induction agents generalizing states with
  | nil => simp
  | cons a rest ih =>
    rw [List.foldl_cons, ih, recordAgent, Dict.get?_modify]
    by_cases hn : a.target.netuid = n
    · rw [if_pos hn, Option.map_map]
      refine congrArg (Option.map · (states.get? n)) (funext fun st => ?_)
      by_cases hpassed : a.gates.passed
      · simp [hn, hpassed, add_assoc, add_comm 1]
      · simp [hn, hpassed]
    · rw [if_neg hn]
      simp [hn]

theorem sound_assembleRound (hnd : (agents.map AgentResult.hotkey).Nodup) :
    (assembleRound season roundNo targets agents).Sound where
  distinct := hnd
  emitted := fun a ha => by
    rw [getD_emissions hnd ha]
    exact emission_nonneg (roundWeights_nonneg a.hotkey)
  failed := fun a ha hfailed => by
    rw [getD_emissions hnd ha, emission, hfailed]
    rfl
  proven := fun n ⟨t, ht, htn⟩ => by
    have hkey : n ∈ (Dict.ofList (targets.map fun t => (t.netuid, ({} : TargetState)))).keys :=
      Dict.mem_keys_ofList.mpr (by
        rw [List.map_map]
        exact List.mem_map.mpr ⟨t, ht, htn⟩)
    obtain ⟨st, hget⟩ := Dict.mem_keys.mp hkey
    have hnew : st = {} := by
      obtain ⟨_, _, heq⟩ := List.mem_map.mp (Dict.mem_of_get?_ofList hget)
      exact (Prod.mk.inj heq).2.symm
    simp only [ArenaResult.Proven, assembleRound, get?_foldl_record, hget, hnew, Option.map_some,
      Option.some.injEq, exists_eq_left', zero_add, List.countP_pos_iff, decide_eq_true_eq]

end Assembled

/-! ## Runs -/

/-- The graded agents of a round: no two under one hotkey. -/
structure Roster where
  agents : List AgentResult
  distinct : (agents.map AgentResult.hotkey).Nodup

/-- One call of `run_season`: how many rounds, and what the engine grades in each. -/
structure SeasonCall where
  rounds : ℕ
  season : String
  targets : List Target
  roster : ℤ → Roster

def SeasonCall.round (call : SeasonCall) (r : ℤ) : ArenaResult :=
  assembleRound call.season r call.targets (call.roster r).agents

/-- The results of the first `k` rounds from the stored count on. -/
def SeasonCall.results (call : SeasonCall) (s : SeasonState) (k : ℕ) : List ArenaResult :=
  (List.range k).map fun i => call.round (s.rounds + 1 + i)

def runSeason (call : SeasonCall) (s : SeasonState) : SeasonState :=
  (call.results s call.rounds).foldl SeasonState.update s

section Runs

variable {Text : Type}

/-- A season after any calls, saved and loaded anywhere between, with the rounds played. -/
inductive SeasonRun (codec : SeasonCodec Text) : List ArenaResult → SeasonState → Prop
  | fresh : SeasonRun codec [] (SeasonState.load codec none)
  | season {played : List ArenaResult} {s : SeasonState} (call : SeasonCall) :
      SeasonRun codec played s →
        SeasonRun codec (played ++ call.results s call.rounds) (runSeason call s)
  | reloaded {played : List ArenaResult} {s : SeasonState} :
      SeasonRun codec played s →
        SeasonRun codec played (SeasonState.load codec (some (s.save codec)))

/-- The target had a verified proof in the round. -/
def ArenaResult.HadVerifiedProof (result : ArenaResult) (n : ℤ) : Prop :=
  (∃ t ∈ result.targets, t.netuid = n) ∧
    ∃ a ∈ result.agents, a.target.netuid = n ∧ a.gates.passed = true

/-- The rounds in which a target had a verified proof. -/
def brokenRounds (results : List ArenaResult) (n : ℤ) : Set ℤ :=
  {r | ∃ result ∈ results, result.roundNo = r ∧ result.HadVerifiedProof n}

/-- What holds of a season whose rounds were `results`. -/
structure SeasonInv (results : List ArenaResult) (s : SeasonState) : Prop where
  rounds : 0 ≤ s.rounds
  agents : ∀ hk a, s.agents.get? hk = some a → AgentOk s.rounds a
  breaches : BreachesOk s.targets
  numbered : ∀ result ∈ results, 1 ≤ result.roundNo ∧ result.roundNo ≤ s.rounds
  first : ∀ n r, firstBroken s.targets n = some r → IsLeast (brokenRounds results n) r
  unbroken : ∀ n, firstBroken s.targets n = none → brokenRounds results n = ∅

variable {results : List ArenaResult} {s : SeasonState}

theorem seasonInv_fresh : SeasonInv [] {} where
  rounds := le_rfl
  agents := fun _ _ h => nomatch h
  breaches := fun _ _ h => nomatch h
  numbered := fun _ h => absurd h List.not_mem_nil
  first := fun _ _ h => nomatch h
  unbroken := fun _ _ => Set.eq_empty_of_forall_notMem fun _ ⟨_, hmem, _⟩ =>
    absurd hmem List.not_mem_nil

/-- The broken rounds with one round more. -/
theorem brokenRounds_append {result : ArenaResult} {n r : ℤ} :
    r ∈ brokenRounds (results ++ [result]) n ↔
      r ∈ brokenRounds results n ∨ (result.roundNo = r ∧ result.HadVerifiedProof n) := by
  simp only [brokenRounds, Set.mem_ofPred_eq, List.mem_append, List.mem_singleton, or_and_right,
    exists_or, exists_eq_left]

theorem brokenRounds_same {result : ArenaResult} {n : ℤ} (h : ¬ result.HadVerifiedProof n) :
    brokenRounds (results ++ [result]) n = brokenRounds results n :=
  Set.ext fun _ => brokenRounds_append.trans (or_iff_left fun hlast => h hlast.2)

/-- The loop over the targets, by the proofs of the round. -/
theorem firstBroken_update {result : ArenaResult} (hsound : result.Sound) (n : ℤ) :
    (result.HadVerifiedProof n → firstBroken (s.update result).targets n =
      (firstBroken s.targets n).or (some result.roundNo)) ∧
    (¬ result.HadVerifiedProof n →
      firstBroken (s.update result).targets n = firstBroken s.targets n) := by
  have hiff : (∃ t ∈ result.targets, t.netuid = n) ∧ result.Proven n ↔
      result.HadVerifiedProof n := and_congr_right fun ht => hsound.proven n ht
  have hloop := @firstBroken_foldl result n result.targets s.targets
  rw [hiff] at hloop
  exact hloop

/-- A round keeps the invariant. -/
theorem SeasonInv.update {result : ArenaResult} (h : SeasonInv results s) (hsound : result.Sound)
    (hnext : result.roundNo = s.rounds + 1) :
    SeasonInv (results ++ [result]) (s.update result) := by
  have hrounds : (s.update result).rounds = s.rounds + 1 := by
    show max s.rounds result.roundNo = s.rounds + 1
    rw [hnext]
    exact max_eq_right (by omega)
  have hearlier : ∀ n, ∀ r ∈ brokenRounds results n, r ≤ result.roundNo := by
    rintro n _ ⟨other, hother, rfl, _⟩
    have hle := (h.numbered other hother).2
    omega
  refine ⟨?_, ?_, h.breaches.foldl, ?_, ?_, ?_⟩
  · rw [hrounds]
    exact add_nonneg h.rounds zero_le_one
  · intro hk a hget
    rw [hrounds]
    rcases get?_foldl_play result.agents s.agents hsound.distinct hget with
      ⟨r, hr, rfl, rfl⟩ | hold
    · refine AgentOk.played ?_ (hsound.emitted r hr) (hsound.failed r hr)
      rw [Dict.getD]
      cases hbefore : s.agents.get? r.hotkey with
      | none => exact agentOk_new h.rounds
      | some b => exact h.agents r.hotkey b hbefore
    · exact (h.agents hk a hold).mono (by omega)
  · intro other hother
    rw [hrounds]
    rcases List.mem_append.mp hother with hmem | hmem
    · have hbounds := h.numbered other hmem
      omega
    · rw [List.mem_singleton.mp hmem, hnext]
      have hnonneg := h.rounds
      omega
  · intro n r hfirst
    by_cases hproof : result.HadVerifiedProof n
    · rw [(firstBroken_update hsound n).1 hproof] at hfirst
      cases hold : firstBroken s.targets n with
      | none =>
        -- no earlier round has a proof
        rw [hold, Option.none_or, Option.some.injEq] at hfirst
        subst hfirst
        refine ⟨brokenRounds_append.mpr (.inr ⟨rfl, hproof⟩), fun r hr => ?_⟩
        rcases brokenRounds_append.mp hr with hmem | ⟨heq, _⟩
        · rw [h.unbroken n hold] at hmem
          exact absurd hmem (Set.notMem_empty r)
        · exact heq.le
      | some first =>
        rw [hold, Option.some_or, Option.some.injEq] at hfirst
        subst hfirst
        have hleast := h.first n first hold
        refine ⟨brokenRounds_append.mpr (.inl hleast.1), fun r hr => ?_⟩
        rcases brokenRounds_append.mp hr with hmem | ⟨heq, _⟩
        · exact hleast.2 hmem
        · exact heq ▸ hearlier n first hleast.1
    · rw [(firstBroken_update hsound n).2 hproof] at hfirst
      rw [brokenRounds_same hproof]
      exact h.first n r hfirst
  · intro n hnone
    by_cases hproof : result.HadVerifiedProof n
    · rw [(firstBroken_update hsound n).1 hproof] at hnone
      cases hold : firstBroken s.targets n <;> simp [hold] at hnone
    · rw [(firstBroken_update hsound n).2 hproof] at hnone
      rw [brokenRounds_same hproof]
      exact h.unbroken n hnone

theorem SeasonInv.rounds_of_fold {call : SeasonCall} (h : SeasonInv results s) (k : ℕ) :
    SeasonInv (results ++ call.results s k) ((call.results s k).foldl SeasonState.update s) ∧
      ((call.results s k).foldl SeasonState.update s).rounds = s.rounds + k := by
  induction k with
  | zero => simpa [SeasonCall.results] using h
  | succ k ih =>
    obtain ⟨hinv, hcount⟩ := ih
    have hstep : call.results s (k + 1) = call.results s k ++ [call.round (s.rounds + 1 + k)] := by
      simp [SeasonCall.results, List.range_succ]
    have hnext : (call.round (s.rounds + 1 + k)).roundNo =
        ((call.results s k).foldl SeasonState.update s).rounds + 1 := by
      rw [hcount]
      show s.rounds + 1 + k = s.rounds + k + 1
      omega
    rw [hstep, List.foldl_append, ← List.append_assoc]
    refine ⟨hinv.update (sound_assembleRound (call.roster _).distinct) hnext, ?_⟩
    show max _ (call.round (s.rounds + 1 + k)).roundNo = _
    rw [hnext, hcount]
    push_cast
    exact max_eq_right (by omega) |>.trans (by omega)

/-- What was saved is read back, where no agent played more rounds than there were. -/
theorem load_save (codec : SeasonCodec Text)
    (h : ∀ hk a, s.agents.get? hk = some a → a.roundsPlayed ≤ s.rounds) :
    SeasonState.load codec (some (s.save codec)) = s := by
  have hkeys : ((s.targets.items.map fun row => (Json.intNumeral row.1, row.2)).map
      Prod.fst).Nodup := by
    have hinj : Function.Injective Json.intNumeral := fun m n heq => by
      rw [← Json.readInt_intNumeral m, heq, Json.readInt_intNumeral n]
    rw [List.map_map]
    have hnd := s.targets.nodup.map hinj
    rwa [List.map_map] at hnd
  have hmax : s.agents.values.foldl (fun rounds a => max rounds a.roundsPlayed) s.rounds =
      s.rounds := by
    have hle : ∀ a ∈ s.agents.values, a.roundsPlayed ≤ s.rounds := fun a ha => by
      obtain ⟨row, hrow, rfl⟩ := List.mem_map.mp ha
      exact h row.1 row.2 (Dict.mem_items.mp hrow)
    generalize s.agents.values = values at hle
    induction values with
    | nil => rfl
    | cons a rest ih =>
      rw [List.foldl_cons, max_eq_left (hle a (List.mem_cons_self ..))]
      exact ih fun b hb => hle b (List.mem_cons_of_mem _ hb)
  have hagents : Dict.ofList s.agents.items = s.agents :=
    Dict.ext (Dict.items_ofList s.agents.nodup)
  have htargets : Dict.ofList (((Dict.ofList (s.targets.items.map fun row =>
      (Json.intNumeral row.1, row.2))).items.map fun row => (Json.readInt row.1, row.2))) =
        s.targets := by
    have hback : (s.targets.items.map fun row => (Json.intNumeral row.1, row.2)).map
        (fun row => (Json.readInt row.1, row.2)) = s.targets.items := by
      rw [List.map_map]
      refine List.map_id'' (fun row => ?_) _
      simp [Json.readInt_intNumeral]
    rw [Dict.items_ofList hkeys, hback]
    exact Dict.ext (Dict.items_ofList s.targets.nodup)
  simp only [SeasonState.load, SeasonState.save, Option.bind_some, codec.loads_dumps, hmax,
    hagents, htargets]

theorem seasonInv_run {codec : SeasonCodec Text} (h : SeasonRun codec results s) :
    SeasonInv results s := by
  induction h with
  | fresh => exact seasonInv_fresh
  | season call _ ih => exact (ih.rounds_of_fold call.rounds).1
  | reloaded _ ih =>
    rw [load_save codec fun hk a hget => (ih.agents hk a hget).played_le]
    exact ih

/-! ## The audit of a run -/

theorem violated_eq_nil {checks : List (Bool × SeasonViolation)}
    (h : ∀ check ∈ checks, check.1 = false) : violated checks = [] :=
  List.filterMap_eq_nil_iff.mpr fun check hcheck => by rw [h check hcheck, if_neg Bool.false_ne_true]

theorem verifyAgent_of_ok {a : AgentSeason} {rounds : ℤ} (hk : String) (h : AgentOk rounds a) :
    verifyAgent rounds hk a = [] := by
  have hemissions := h.emissions
  have hbreaches := h.breaches
  have hnew := h.streak_nonneg
  have hstreak := h.streak_le
  have hbest := h.best_le
  have hverified := h.verified_le
  have hplayed := h.played_le
  refine violated_eq_nil ?_
  simp only [List.forall_mem_cons, List.not_mem_nil, IsEmpty.forall_iff, implies_true, and_true,
    decide_eq_false_iff_not, not_lt, gt_iff_lt, not_and]
  refine ⟨hemissions, by omega, hplayed, hverified, by omega, hstreak, by omega, fun hpos hzero => ?_⟩
  exact hpos.ne' (h.earned (by omega))

theorem SeasonInv.audited (h : SeasonInv results s) : verifySeason s = [] := by
  rw [verifySeason, List.append_eq_nil_iff, List.flatMap_eq_nil_iff, List.flatMap_eq_nil_iff]
  constructor
  · exact fun row hrow => verifyAgent_of_ok row.1 (h.agents row.1 row.2 (Dict.mem_items.mp hrow))
  · intro row hrow
    have hget := Dict.mem_items.mp hrow
    refine violated_eq_nil ?_
    simp only [List.forall_mem_cons, List.not_mem_nil, IsEmpty.forall_iff, implies_true, and_true,
      decide_eq_false_iff_not, not_lt]
    refine ⟨h.breaches row.1 row.2 hget, ?_⟩
    cases hfirst : row.2.firstBrokenRound with
    | none => rfl
    | some r =>
      have hbroken : firstBroken s.targets row.1 = some r := by
        rw [firstBroken, hget, Option.bind_some, hfirst]
      obtain ⟨⟨result, hmem, rfl, _⟩, _⟩ := h.first row.1 r hbroken
      have hbounds := h.numbered result hmem
      simp [hbounds]

/-- After any calls, with the state saved and loaded anywhere between: the audit finds nothing,
what is saved is read back, and a target was first broken in the earliest round in which it had
a verified proof. -/
theorem season_sound {codec : SeasonCodec Text} (h : SeasonRun codec results s) :
    verifySeason s = [] ∧ SeasonState.load codec (some (s.save codec)) = s ∧
      ∀ n r, firstBroken s.targets n = some r ↔ IsLeast (brokenRounds results n) r := by
  have hinv := seasonInv_run h
  refine ⟨hinv.audited, load_save codec fun hk a hget => (hinv.agents hk a hget).played_le,
    fun n r => ⟨hinv.first n r, fun hleast => ?_⟩⟩
  cases hfirst : firstBroken s.targets n with
  | none =>
    rw [hinv.unbroken n hfirst] at hleast
    exact absurd hleast.1 (Set.notMem_empty r)
  | some first => exact congrArg some ((hinv.first n first hfirst).unique hleast)

end Runs

/-! ## Two rounds -/

/-- A file that holds the document itself. -/
def plainCodec : SeasonCodec SavedSeason where
  dumps := id
  loads := some
  loads_dumps _ := rfl

def sampleGates (witnessVerifies : Bool) : GateOutcome :=
  { validIdentity := true, assignedMission := true, freshNonce := true, noReplay := true
    correctOwner := true, completeArtifact := true, cnfHashMatches := true
    decodeMapPresent := true, witnessVerifies := witnessVerifies, replaySucceeds := true
    computeProfileHonest := true, attestationValid := true, agentSignatureValid := true
    provenanceChainIntact := true, hypothesisAligned := true, reasons := []
    provenanceGrade := .a }

def sampleTarget : Target := { netuid := 39, name := "basilica", severity := 7 }

def sampleAgent (name : String) (witnessVerifies : Bool) : AgentResult :=
  { agentId := name, hotkey := name, coldkey := name, target := sampleTarget, challengeId := "c-1"
    tier := 1, bounty := false, wallMs := .finite 500, gates := sampleGates witnessVerifies }

/-- Two agents; the target is broken in the second round. -/
def sampleCall : SeasonCall where
  rounds := 2
  season := "S1"
  targets := [sampleTarget]
  roster r := ⟨[sampleAgent "aurora" (r = 2), sampleAgent "onyx" false], by simp [sampleAgent]⟩

/-- The season after these rounds, saved and loaded. -/
def sampleSeason : SeasonState :=
  .load plainCodec (some ((runSeason sampleCall (.load plainCodec none)).save plainCodec))

theorem season_sound_two : verifySeason sampleSeason = [] ∧
    SeasonState.load plainCodec (some (sampleSeason.save plainCodec)) = sampleSeason ∧
      ∀ n r, firstBroken sampleSeason.targets n = some r ↔
        IsLeast (brokenRounds ([] ++ sampleCall.results (.load plainCodec none) 2) n) r :=
  season_sound (.reloaded (.season sampleCall .fresh))

example : firstBroken sampleSeason.targets 39 = some 2 := by decide +kernel

end Cathedral.Arena
