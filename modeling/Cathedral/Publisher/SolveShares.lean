import Mathlib.Algebra.Order.Archimedean.Basic
import Cathedral.Lib.Coverage
import Cathedral.Publisher.BaseScores

/-!
# Cathedral.Publisher.SolveShares — shares of coldkeys in the proportional mode

With coldkey collapse on, the identity composer credits a challenge once for each
coldkey and splits the coldkey's score over its hotkeys. In exact arithmetic the share
of a coldkey is therefore the weight of the challenges its hotkeys cover over the sum
of these weights.
-/

namespace Cathedral.Publisher.Weights

open Coverage Groups

variable {s : BaseSettings} {t : WorkTables} {since : Millis} {coldkeyOf : Dict String String}
  {ident : String → String}

/-! ## The loop over the solves -/

/-- What the dictionaries hold after a set of rows. -/
structure TallyOf (s : BaseSettings) (ident : String → String) (rows : Finset (String × String))
    (tally : Tally) : Prop where
  scores : ∀ c, tally.scores.getD c 0 = coverWeight ident (challengeWeight s) rows c
  seen : ∀ c cid, cid ∈ tally.seen.getD c [] ↔ cid ∈ covered ident rows c
  scoreKeys : ∀ c, c ∈ tally.scores.keys ↔ c ∈ occupied ident rows
  memberKeys : ∀ c, c ∈ tally.members.keys ↔ c ∈ occupied ident rows
  grouped : GroupedBy ident tally.members

theorem tally_empty (s : BaseSettings) (ident : String → String) : TallyOf s ident ∅ .empty where
  scores _ := rfl
  seen _ _ := by simp [covered, Tally.empty, Dict.getD]
  scoreKeys _ := by simp [occupied, Tally.empty, Dict.keys, Dict.empty]
  memberKeys _ := by simp [occupied, Tally.empty, Dict.keys, Dict.empty]
  grouped := groupedBy_empty ident

theorem mem_getD_insertMember (groups : Dict String (List String)) (k k' cid cid' : String) :
    cid' ∈ (insertMember groups k cid).getD k' [] ↔
      cid' ∈ groups.getD k' [] ∨ (k' = k ∧ cid' = cid) := by
  rw [insertMember, Dict.getD, Dict.get?_set]
  split
  · next hk =>
      subst hk
      simp [or_comm]
  · next hk => simp [Ne.symm hk, Dict.getD]

theorem tally_add {rows : Finset (String × String)} {tally : Tally}
    (h : TallyOf s ident rows tally) (row : String × String) :
    TallyOf s ident (insert row rows) (tally.add s ident row) := by
  obtain ⟨hk, cid⟩ := row
  have hmembers : ∀ c, c ∈ (insertMember tally.members (ident hk) hk).keys ↔
      c ∈ occupied ident (insert (hk, cid) rows) := by
    intro c
    rw [mem_keys_insertMember, h.memberKeys, occupied_insert, Finset.mem_insert, or_comm]
  simp only [Tally.add]
  split
  · next hseen =>
      -- the identity has the challenge already
      have hcovered : cid ∈ covered ident rows (ident hk) := (h.seen _ _).mp hseen
      have hcopy : occupied ident (insert (hk, cid) rows) = occupied ident rows :=
        occupied_insert_copy hcovered
      refine ⟨fun c => ?_, fun c cid' => ?_, fun c => ?_, hmembers, h.grouped.insertMember hk⟩
      · rw [h.scores c, coverWeight_insert_copy hcovered]
      · rw [h.seen c cid', covered_insert_copy hcovered]
      · rw [h.scoreKeys c, hcopy]
  · next hseen =>
      have hnew : cid ∉ covered ident rows (ident hk) := fun hmem => hseen ((h.seen _ _).mpr hmem)
      refine ⟨fun c => ?_, fun c cid' => ?_, fun c => ?_, hmembers, h.grouped.insertMember hk⟩
      · rw [Dict.getD_add, h.scores c]
        by_cases hc : ident hk = c
        · subst hc
          rw [if_pos rfl, coverWeight_insert_self hnew, add_comm]
        · rw [if_neg hc, add_zero, coverWeight_insert_ne hc]
      · rw [mem_getD_insertMember, h.seen c cid']
        by_cases hc : ident hk = c
        · subst hc
          simp [covered_insert_self, or_comm]
        · rw [covered_insert_ne rows hk cid hc]
          simp [Ne.symm hc]
      · rw [occupied_insert, Finset.mem_insert, ← h.scoreKeys c, Dict.mem_keys, Dict.mem_keys]
        simp only [Dict.get?_add]
        by_cases hc : ident hk = c
        · simp [hc]
        · simp [hc, Ne.symm hc]

/-- The loop over any list of rows. -/
theorem tally_of (s : BaseSettings) (ident : String → String) (rows : List (String × String)) :
    TallyOf s ident rows.toFinset (tallySolves s ident rows) := by
  induction rows using List.reverseRecOn with
  | nil => exact tally_empty s ident
  | append_singleton rows row ih =>
    have hrows : (rows ++ [row]).toFinset = insert row rows.toFinset := by
      ext x
      simp
    rw [hrows, tallySolves, List.foldl_append]
    exact tally_add ih row

theorem TallyOf.total {rows : Finset (String × String)} {tally : Tally}
    (h : TallyOf s ident rows tally) :
    tally.scores.total = totalWeight ident (challengeWeight s) rows := by
  have hkeys : tally.scores.keys.toFinset = occupied ident rows := by
    ext c
    rw [List.mem_toFinset, h.scoreKeys]
  rw [← Dict.sumOn_true, Dict.sumOn_eq_sum, Finset.filter_true, hkeys, totalWeight]
  exact Finset.sum_congr rfl fun c _ => h.scores c

/-! ## The composed base -/

/-- The counted solves of the window, as a set of rows. -/
def counted (t : WorkTables) (since : Millis) : Finset (String × String) :=
  (countedSolves t since).toFinset

/-- A solve in the window for a challenge that scores. -/
def Counts (t : WorkTables) (since : Millis) (solve : LaneSolve) : Prop :=
  since < solve.solvedAt ∧ 0 < scoreMultiplier t solve.challengeId

variable {row : String × String}

theorem mem_countedSolves :
    row ∈ countedSolves t since ↔
      ∃ solve ∈ t.laneSolves, Counts t since solve ∧
        (solve.minerHotkey, solve.challengeId) = row := by
  simp [countedSolves, Counts, and_assoc]

theorem mem_counted :
    row ∈ counted t since ↔
      ∃ solve ∈ t.laneSolves, Counts t since solve ∧
        (solve.minerHotkey, solve.challengeId) = row := by
  rw [counted, List.mem_toFinset, mem_countedSolves]

/-- The base `compose_scores` arrives at. -/
def Composes (s : BaseSettings) (t : WorkTables) (since : Millis) (coldkeyOf : Dict String String)
    (base : Dict String ℚ) : Prop :=
  composeBase s t since (identOf s coldkeyOf) (useColdkeys s coldkeyOf) = .ok base

/-- Tier weights in force are positive: one valid pair is configured, or else the tier-2
multiplier is positive. -/
def PositiveTiers (s : BaseSettings) : Prop := validEntries s ≠ [] ∨ 0 < s.tier2Mult

theorem tierWeights_pos (h : PositiveTiers s) {tier : ℤ} {w : ℚ}
    (hget : (tierWeights s).get? tier = some w) : 0 < w := by
  unfold tierWeights at hget
  split at hget
  · next hnone =>
      have hmult : 0 < s.tier2Mult := h.resolve_left fun hne => hne hnone
      have hmem := Dict.mem_of_get?_ofList hget
      simp only [List.mem_cons, Prod.mk.injEq, List.not_mem_nil, or_false] at hmem
      rcases hmem with ⟨-, rfl⟩ | ⟨-, rfl⟩
      · exact one_pos
      · exact hmult
  · have hmem := Dict.mem_of_get?_ofList hget
    have hvalid := (List.mem_filter.mp hmem).2
    simp only [Bool.and_eq_true, decide_eq_true_eq] at hvalid
    exact hvalid.2

theorem tierWeight_pos (h : PositiveTiers s) (tier : ℤ) : 0 < tierWeight s tier := by
  have hdefault : 0 < (tierWeights s).getD 1 1 := by
    rw [Dict.getD]
    cases hget : (tierWeights s).get? 1 with
    | none => exact one_pos
    | some w => exact tierWeights_pos h hget
  rw [tierWeight, Dict.getD]
  cases hget : (tierWeights s).get? tier with
  | none => exact hdefault
  | some w => exact tierWeights_pos h hget

/-- The highest identity score, when every identity's weight is positive. -/
theorem top_tally_pos (h : PositiveTiers s) (ident : String → String)
    {rows : List (String × String)} (hrows : rows ≠ []) :
    (tallySolves s ident rows).scores.isEmpty = false ∧
      0 < top (tallySolves s ident rows).scores := by
  have htally := tally_of s ident rows
  obtain ⟨row, rest, rfl⟩ := List.exists_cons_of_ne_nil hrows
  have hmem : row ∈ (row :: rest).toFinset := by simp
  have hkey := (htally.scoreKeys (ident row.1)).mpr (mem_occupied.mpr ⟨row, hmem, rfl⟩)
  obtain ⟨w, hw⟩ := Dict.mem_keys.mp hkey
  have hnonempty : (tallySolves s ident (row :: rest)).scores.isEmpty = false := by
    rw [Bool.eq_false_iff, Ne, Dict.isEmpty_iff, not_forall]
    exact ⟨ident row.1, by simp [hw]⟩
  refine ⟨hnonempty, lt_of_lt_of_le ?_ ((top_spec hnonempty).2 w ?_)⟩
  · have hscore := htally.scores (ident row.1)
    rw [Dict.getD, hw, Option.getD_some] at hscore
    rw [hscore]
    have hcovered : row.2 ∈ covered ident (row :: rest).toFinset (ident row.1) :=
      mem_covered.mpr ⟨row.1, hmem, rfl⟩
    exact Finset.sum_pos (fun cid _ => tierWeight_pos h _) ⟨row.2, hcovered⟩
  · have hitem : (ident row.1, w) ∈ (tallySolves s ident (row :: rest)).scores.items :=
      Dict.mem_items.mpr hw
    exact List.mem_map.mpr ⟨_, hitem, rfl⟩

/-- The base is the split of the tally, and a coldkey's share is that of its cover. -/
theorem composes_share (hmode : s.mode = .proportional) (hexact : s.round6 = id)
    (hck : useColdkeys s coldkeyOf = true) {tally : Tally}
    (hdef : tallySolves s (identOf s coldkeyOf) (countedSolves t since) = tally)
    (hnonempty : tally.scores.isEmpty = false) (htop : top tally.scores ≠ 0) :
    ∃ base, Composes s t since coldkeyOf base ∧ ∀ c,
      share (identOf s coldkeyOf) base c =
        coverShare (identOf s coldkeyOf) (challengeWeight s) (counted t since) c := by
  have htally : TallyOf s (identOf s coldkeyOf) (counted t since) tally :=
    hdef ▸ tally_of s (identOf s coldkeyOf) (countedSolves t since)
  refine ⟨spread tally.scores tally.members (evenPart s (top tally.scores)), ?_, fun c => ?_⟩
  · simp only [Composes, composeBase, hmode, composeProportional, hck, not_true_eq_false, false_and,
      if_false, hdef, hnonempty, Bool.false_eq_true, htop]
    rfl
  · rw [share_spread htally.grouped ?_ (inv_ne_zero htop) ?_ c, htally.total, htally.scores,
      coverShare]
    · intro k hk
      exact (htally.memberKeys k).mpr ((htally.scoreKeys k).mp hk)
    · intro score count
      rw [evenPart, hexact, id, div_eq_inv_mul score]

theorem composes_of_positive (hmode : s.mode = .proportional) (hexact : s.round6 = id)
    (hcollapse : s.coldkeyCollapse = true) (hpos : PositiveTiers s)
    (hmap : coldkeyOf.isEmpty = false) (hrows : countedSolves t since ≠ []) :
    ∃ base, Composes s t since coldkeyOf base ∧ ∀ c,
      share (identOf s coldkeyOf) base c =
        coverShare (identOf s coldkeyOf) (challengeWeight s) (counted t since) c := by
  have hck : useColdkeys s coldkeyOf = true := by rw [useColdkeys, hcollapse, hmap]; rfl
  obtain ⟨hnonempty, htop⟩ := top_tally_pos hpos (identOf s coldkeyOf) hrows
  exact composes_share hmode hexact hck rfl hnonempty htop.ne'

/-! ## The laws -/

/-- The ledger with further solves. -/
def WorkTables.solved (t : WorkTables) (solves : List LaneSolve) : WorkTables :=
  { t with laneSolves := t.laneSolves ++ solves }

/-- What a coldkey's share is, that copies of solves inside a coldkey change none, and
that a further challenge raises its solver's. -/
structure ShareLaws (s : BaseSettings) : Prop where
  shares : ∀ t since coldkeyOf, coldkeyOf.isEmpty = false → countedSolves t since ≠ [] →
    ∃ base, Composes s t since coldkeyOf base ∧ ∀ c,
      share (identOf s coldkeyOf) base c =
        coverShare (identOf s coldkeyOf) (challengeWeight s) (counted t since) c
  copies : ∀ t since coldkeyOf copies, coldkeyOf.isEmpty = false → countedSolves t since ≠ [] →
    (∀ copy ∈ copies, ∃ solve ∈ t.laneSolves, Counts t since solve ∧
      solve.challengeId = copy.challengeId ∧
        identOf s coldkeyOf solve.minerHotkey = identOf s coldkeyOf copy.minerHotkey) →
    ∃ base base', Composes s t since coldkeyOf base ∧
      Composes s (t.solved copies) since coldkeyOf base' ∧
        ∀ c, share (identOf s coldkeyOf) base' c = share (identOf s coldkeyOf) base c
  further : ∀ t since coldkeyOf solve, coldkeyOf.isEmpty = false → Counts t since solve →
    solve.challengeId ∉
        covered (identOf s coldkeyOf) (counted t since) (identOf s coldkeyOf solve.minerHotkey) →
    (∃ c, c ≠ identOf s coldkeyOf solve.minerHotkey ∧
      0 < coverWeight (identOf s coldkeyOf) (challengeWeight s) (counted t since) c) →
    ∃ base base', Composes s t since coldkeyOf base ∧
      Composes s (t.solved [solve]) since coldkeyOf base' ∧
        share (identOf s coldkeyOf) base (identOf s coldkeyOf solve.minerHotkey) <
          share (identOf s coldkeyOf) base' (identOf s coldkeyOf solve.minerHotkey)

theorem mem_counted_solved {solves : List LaneSolve} :
    row ∈ counted (t.solved solves) since ↔ row ∈ counted t since ∨
      ∃ solve ∈ solves, Counts t since solve ∧ (solve.minerHotkey, solve.challengeId) = row := by
  rw [mem_counted, mem_counted]
  simp only [WorkTables.solved, List.mem_append, or_and_right, exists_or]
  rfl

theorem counted_subset (t : WorkTables) (since : Millis) (solves : List LaneSolve) :
    counted t since ⊆ counted (t.solved solves) since :=
  fun _ hrow => mem_counted_solved.mpr (Or.inl hrow)

theorem countedSolves_ne_nil (h : row ∈ counted t since) : countedSolves t since ≠ [] :=
  List.ne_nil_of_mem (List.mem_toFinset.mp h)

theorem exists_counted (h : countedSolves t since ≠ []) : ∃ row, row ∈ counted t since := by
  obtain ⟨row, hrow⟩ := List.exists_mem_of_ne_nil _ h
  exact ⟨row, List.mem_toFinset.mpr hrow⟩

theorem solved_ne_nil (solves : List LaneSolve) (h : countedSolves t since ≠ []) :
    countedSolves (t.solved solves) since ≠ [] := by
  obtain ⟨row, hrow⟩ := exists_counted h
  exact countedSolves_ne_nil (counted_subset t since solves hrow)

theorem counted_solved_single {solve : LaneSolve} (h : Counts t since solve) :
    counted (t.solved [solve]) since =
      insert (solve.minerHotkey, solve.challengeId) (counted t since) := by
  ext row
  rw [mem_counted_solved, Finset.mem_insert]
  constructor
  · rintro (hold | ⟨other, hother, -, rfl⟩)
    · exact Or.inr hold
    · rw [List.mem_singleton] at hother
      exact Or.inl (by rw [hother])
  · rintro (rfl | hold)
    · exact Or.inr ⟨solve, List.mem_singleton.mpr rfl, h, rfl⟩
    · exact Or.inl hold

theorem share_laws (hmode : s.mode = .proportional) (hexact : s.round6 = id)
    (hcollapse : s.coldkeyCollapse = true) (hpos : PositiveTiers s) : ShareLaws s where
  shares t since coldkeyOf hmap hrows :=
    composes_of_positive hmode hexact hcollapse hpos hmap hrows
  copies t since coldkeyOf copies hmap hrows hcopies := by
    obtain ⟨base, hbase, hshare⟩ :=
      composes_of_positive hmode hexact hcollapse hpos hmap hrows
    obtain ⟨base', hbase', hshare'⟩ :=
      composes_of_positive hmode hexact hcollapse hpos hmap (solved_ne_nil copies hrows)
    refine ⟨base, base', hbase, hbase', fun c => ?_⟩
    rw [hshare c, hshare' c]
    refine coverShare_eq_of_copies (counted_subset t since copies) (fun row hrow => ?_) c
    rcases mem_counted_solved.mp hrow with hold | ⟨copy, hcopy, -, rfl⟩
    · exact mem_covered.mpr ⟨row.1, hold, rfl⟩
    · obtain ⟨solve, hsolve, hcounts, hsame, hident⟩ := hcopies copy hcopy
      have hrow' : (solve.minerHotkey, copy.challengeId) ∈ counted t since :=
        mem_counted.mpr ⟨solve, hsolve, hcounts, by rw [hsame]⟩
      exact mem_covered.mpr ⟨solve.minerHotkey, hrow', hident⟩
  further t since coldkeyOf solve hmap hcounts hnew hother := by
    obtain ⟨c, hne, hweight⟩ := hother
    have hcovered : (covered (identOf s coldkeyOf) (counted t since) c).Nonempty :=
      Finset.nonempty_of_sum_ne_zero hweight.ne'
    obtain ⟨cid, hcid⟩ := hcovered
    obtain ⟨hk, hrow, -⟩ := mem_covered.mp hcid
    have hrows := countedSolves_ne_nil hrow
    obtain ⟨base, hbase, hshare⟩ :=
      composes_of_positive hmode hexact hcollapse hpos hmap hrows
    obtain ⟨base', hbase', hshare'⟩ :=
      composes_of_positive hmode hexact hcollapse hpos hmap (solved_ne_nil [solve] hrows)
    refine ⟨base, base', hbase, hbase', ?_⟩
    rw [hshare, hshare', counted_solved_single hcounts]
    exact coverShare_lt_insert (fun cid => (tierWeight_pos hpos _).le) hnew (tierWeight_pos hpos _)
      hne hweight

/-! ## A multiplier that is not positive -/

/-- Ids that name no tier. -/
def fillerId (n : ℕ) : String := String.ofList (List.replicate n 'x')

theorem fillerId_injective : Function.Injective fillerId := by
  intro m n h
  have hlists := congrArg (fun id => id.toList.length) h
  simpa [fillerId] using hlists

theorem tier_fillerId (n : ℕ) : tierFromChallengeId (fillerId n) = 1 := by
  rw [tierFromChallengeId, fillerId, String.toList_ofList]
  cases n with
  | zero => rfl
  | succ n => rfl

/-- Two coldkeys with one hotkey each. -/
def pairMap : Dict String String := Dict.ofList [("A", "ckA"), ("B", "ckB")]

/-- A ledger in which the second coldkey has solved `n` challenges. -/
def fillerTables (n : ℕ) : WorkTables where
  laneSolves := (List.range n).map fun i => ⟨"B", fillerId i, 1⟩
  laneChallenges := Dict.empty
  evalRuns := []
  perMinerSolves := Dict.empty

def tier2Solve : LaneSolve := ⟨"A", "sat-t2-a", 1⟩

theorem counts_filler (n : ℕ) (solve : LaneSolve) (h : solve.solvedAt = 1) :
    Counts (fillerTables n) 0 solve := by
  refine ⟨by rw [h]; exact one_pos, ?_⟩
  simp [scoreMultiplier, fillerTables]

theorem mem_counted_filler {n : ℕ} :
    row ∈ counted (fillerTables n) 0 ↔ ∃ i < n, row = ("B", fillerId i) := by
  rw [mem_counted]
  constructor
  · rintro ⟨solve, hsolve, -, rfl⟩
    obtain ⟨i, hi, rfl⟩ := List.mem_map.mp hsolve
    exact ⟨i, List.mem_range.mp hi, rfl⟩
  · rintro ⟨i, hi, rfl⟩
    refine ⟨⟨"B", fillerId i, 1⟩, ?_, counts_filler n _ rfl, rfl⟩
    exact List.mem_map.mpr ⟨i, List.mem_range.mpr hi, rfl⟩

section Multiplier

variable (hcollapse : s.coldkeyCollapse = true)
include hcollapse

theorem identOf_pairMap (hk : String) : identOf s pairMap hk = pairMap.getD hk hk := by
  have hck : useColdkeys s pairMap = true := by rw [useColdkeys, hcollapse]; rfl
  rw [identOf, if_pos hck]

theorem covered_filler (n : ℕ) :
    covered (identOf s pairMap) (counted (fillerTables n) 0) "ckB" =
      (Finset.range n).image fillerId := by
  ext cid
  simp only [mem_covered, mem_counted_filler, Finset.mem_image, Finset.mem_range, Prod.mk.injEq]
  constructor
  · rintro ⟨hk, ⟨i, hi, -, rfl⟩, -⟩
    exact ⟨i, hi, rfl⟩
  · rintro ⟨i, hi, rfl⟩
    exact ⟨"B", ⟨i, hi, rfl, rfl⟩, identOf_pairMap hcollapse "B"⟩

theorem occupied_filler (n : ℕ) :
    occupied (identOf s pairMap) (counted (fillerTables n) 0) ⊆ {"ckB"} := by
  intro c hc
  obtain ⟨row, hrow, rfl⟩ := mem_occupied.mp hc
  obtain ⟨i, -, rfl⟩ := mem_counted_filler.mp hrow
  exact Finset.mem_singleton.mpr (identOf_pairMap hcollapse "B")

theorem coverWeight_ckA (n : ℕ) :
    coverWeight (identOf s pairMap) (challengeWeight s) (counted (fillerTables n) 0) "ckA" = 0 := by
  refine coverWeight_eq_zero fun hmem => ?_
  exact absurd (Finset.mem_singleton.mp (occupied_filler hcollapse n hmem)) (by decide)

variable (hnone : validEntries s = [])
include hnone

omit hcollapse in
theorem tierWeight_default (tier : ℤ) :
    tierWeight s tier = if tier = 2 then s.tier2Mult else 1 := by
  rw [tierWeight, tierWeights, if_pos hnone]
  by_cases h1 : tier = 1
  · subst h1
    rfl
  · by_cases h2 : tier = 2
    · subst h2
      rfl
    · have hget : (Dict.ofList [((1 : ℤ), (1 : ℚ)), (2, s.tier2Mult)]).get? tier = none := by
        refine Dict.get?_eq_none.mpr fun hmem => ?_
        rw [Dict.mem_keys_ofList] at hmem
        simp [h1, h2] at hmem
      rw [if_neg h2, Dict.getD, hget]
      rfl

theorem coverWeight_filler (n : ℕ) :
    coverWeight (identOf s pairMap) (challengeWeight s) (counted (fillerTables n) 0) "ckB" = n := by
  have hone : ∀ i, challengeWeight s (fillerId i) = 1 := by
    intro i
    rw [challengeWeight, tier_fillerId, tierWeight_default hnone]
    rfl
  rw [coverWeight, covered_filler hcollapse, Finset.sum_image fun i _ j _ h => fillerId_injective h]
  simp [hone]

theorem totalWeight_filler (n : ℕ) :
    totalWeight (identOf s pairMap) (challengeWeight s) (counted (fillerTables n) 0) = n := by
  rw [totalWeight_eq (occupied_filler hcollapse n), Finset.sum_singleton,
    coverWeight_filler hcollapse hnone]

/-- A tier-2 solve under a multiplier that is not positive raises no share, once the
other coldkey has enough weight. -/
theorem not_share_laws (hmult : s.tier2Mult ≤ 0) : ¬ ShareLaws s := by
  intro hlaws
  obtain ⟨n, hn⟩ : ∃ n : ℕ, -s.tier2Mult < n := exists_nat_gt _
  have hnpos : (0 : ℚ) < n := (neg_nonneg.mpr hmult).trans_lt hn
  have hidentA : identOf s pairMap tier2Solve.minerHotkey = "ckA" := identOf_pairMap hcollapse "A"
  have hcounts : Counts (fillerTables n) 0 tier2Solve := counts_filler n _ rfl
  have hempty : covered (identOf s pairMap) (counted (fillerTables n) 0) "ckA" = ∅ := by
    refine covered_eq_empty fun hmem => ?_
    exact absurd (Finset.mem_singleton.mp (occupied_filler hcollapse n hmem)) (by decide)
  have hnew : tier2Solve.challengeId ∉ covered (identOf s pairMap) (counted (fillerTables n) 0)
      (identOf s pairMap tier2Solve.minerHotkey) := by
    rw [hidentA, hempty]
    exact Finset.notMem_empty _
  obtain ⟨base, base', hbase, hbase', hlt⟩ := hlaws.further (fillerTables n) 0 pairMap tier2Solve
    rfl hcounts hnew ⟨"ckB", by rw [hidentA]; decide, by
      rw [coverWeight_filler hcollapse hnone]
      exact hnpos⟩
  -- the shares before and after, from the share law
  have hrows' : countedSolves ((fillerTables n).solved [tier2Solve]) 0 ≠ [] :=
    countedSolves_ne_nil (mem_counted_solved.mpr
      (Or.inr ⟨tier2Solve, List.mem_singleton.mpr rfl, hcounts, rfl⟩))
  have hrows : countedSolves (fillerTables n) 0 ≠ [] := by
    have hzero : 0 < n := by exact_mod_cast hnpos
    exact countedSolves_ne_nil (mem_counted_filler.mpr ⟨0, hzero, rfl⟩)
  obtain ⟨before, hbefore, hshare⟩ := hlaws.shares _ 0 pairMap rfl hrows
  obtain ⟨after, hafter, hshare'⟩ := hlaws.shares _ 0 pairMap rfl hrows'
  rw [Except.ok.inj (hbase.symm.trans hbefore), Except.ok.inj (hbase'.symm.trans hafter), hshare,
    hshare', counted_solved_single hcounts, coverShare, coverShare, coverWeight_insert_self hnew,
    totalWeight_insert hnew, totalWeight_filler hcollapse hnone, hidentA,
    coverWeight_ckA hcollapse] at hlt
  have hweight : challengeWeight s tier2Solve.challengeId = s.tier2Mult := by
    rw [challengeWeight, tierWeight_default hnone]
    rfl
  rw [hweight, zero_div, add_zero] at hlt
  have htotal : 0 < s.tier2Mult + n := neg_lt_iff_pos_add'.mp hn
  exact absurd hlt (not_lt.mpr (div_nonpos_of_nonpos_of_nonneg hmult htotal.le))

end Multiplier

/-- In exact arithmetic, with coldkey collapse on in the proportional mode: the share of
a coldkey is its cover's part of all covers, copies change no share and a further
challenge raises its solver's, exactly when the tier weights in force are positive. -/
theorem share_laws_iff (hmode : s.mode = .proportional) (hexact : s.round6 = id)
    (hcollapse : s.coldkeyCollapse = true) : ShareLaws s ↔ PositiveTiers s := by
  constructor
  · intro hlaws
    by_contra hnot
    rw [PositiveTiers, not_or, not_not, not_lt] at hnot
    exact not_share_laws hcollapse hnot.1 hnot.2 hlaws
  · exact share_laws hmode hexact hcollapse

/-! ## A multiplier of zero -/

/-- The launch settings, with coldkey collapse and a given tier-2 multiplier. -/
def sampleSettings (tier2Mult : ℚ) : BaseSettings where
  round6 := id
  postgres := false
  mode := .proportional
  rowScoreTaskTypes := []
  tierEntries := []
  tier2Mult := tier2Mult
  coldkeyCollapse := true
  perminerEnabled := false
  perminerShadow := false
  perminerMode := .bonus
  bonusMult := 1 / 5
  historyFloor := 1 / 4

theorem share_laws_launch : ShareLaws (sampleSettings 3) :=
  (share_laws_iff rfl rfl rfl).mpr (Or.inr (by decide +kernel))

/-- Two coldkeys with one tier-1 solve each. -/
def evenTables : WorkTables where
  laneSolves := [⟨"A", "sat-t1-a", 1⟩, ⟨"B", "sat-t1-b", 1⟩]
  laneChallenges := Dict.empty
  evalRuns := []
  perMinerSolves := Dict.empty

/-- The share of the first coldkey under a multiplier of zero. -/
def shareOfA (t : WorkTables) : Except Exc ℚ := do
  let base ← composeBase (sampleSettings 0) t 0 (identOf (sampleSettings 0) pairMap)
    (useColdkeys (sampleSettings 0) pairMap)
  .ok (share (identOf (sampleSettings 0) pairMap) base "ckA")

/-- With the multiplier at zero a further tier-2 challenge leaves its solver's share at one
half, and a ledger of tier-2 solves alone divides by zero. -/
theorem zero_multiplier_pays_nothing : ¬ ShareLaws (sampleSettings 0) ∧
    shareOfA evenTables = .ok (1 / 2) ∧ shareOfA (evenTables.solved [tier2Solve]) = .ok (1 / 2) ∧
    shareOfA ⟨[tier2Solve], Dict.empty, [], Dict.empty⟩ = .error .zeroDivisionError :=
  ⟨not_share_laws rfl rfl le_rfl, by decide +kernel, by decide +kernel, by decide +kernel⟩

end Cathedral.Publisher.Weights
