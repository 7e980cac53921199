import Cathedral.Publisher.PlantedSat

/-!
# Cathedral.Publisher.Refill — the refill of a tier

`publisher/refill.py`: a pass retires what is due, plans mints, and mints them. The loop of
`_plan_tier` tests a count that its planning does not change (`planLoop_eq`), so below the target
it plans to the cap or to the guard, not to the target (`refill_fills_iff`).

A mint takes the oldest text that the pre-generation worker has left, and generates from its own
seed only where none waits (`mint_text`).
-/

namespace Cathedral.Publisher.Refill

open PlantedSat Graders

/-! ## The store -/

/-- A row of `lane_challenges`. -/
structure Row where
  familyId : String
  tier : ℤ
  cnfText : PyStr
  status : String
  cnfSource : String
  createdAt : String

/-- `lane_challenges` by id, and the pairs of `lane_challenge_solves`. -/
structure Store where
  challenges : Dict String Row
  solves : List (String × String)

def family : String := "synthetic_boolean_v1"

def Row.local (tier : ℤ) (row : Row) : Bool :=
  row.familyId == family && row.tier == tier && row.cnfSource == "local"

def Row.activeLocal (tier : ℤ) (row : Row) : Bool := row.local tier && row.status == "active"

def Store.count (store : Store) (p : Row → Bool) : ℕ :=
  store.challenges.items.countP fun kv => p kv.2

def activeLocalCount (store : Store) (tier : ℤ) : ℕ := store.count (Row.activeLocal tier)

/-- An `UPDATE` of `retire_ready`, with its row count. -/
def retireWhere (tier : ℤ) (due : String → Row → Bool) (store : Store) : ℕ × Store :=
  let hit := fun cid row => Row.activeLocal tier row && due cid row
  let retire := fun cid row =>
    if hit cid row then { row with status := "retired", cnfText := [] } else row
  ((store.challenges.filterItems hit).items.length,
    { store with challenges := store.challenges.mapItems retire })

/-- `COUNT(DISTINCT miner_hotkey)` of a challenge. -/
def distinctSolvers (store : Store) (cid : String) : ℕ :=
  ((store.solves.filter fun s => s.1 = cid).map Prod.snd).dedup.length

/-- `retire_ready`: by age, then by solvers; a challenge without a solve is in no group. -/
def retireReady (tier threshold : ℤ) (ageCutoff : String) (store : Store) : ℕ × Store :=
  let (aged, store) := retireWhere tier (fun _ row => decide (row.createdAt ≤ ageCutoff)) store
  let (solved, store) := retireWhere tier (fun cid _ =>
    store.solves.any (·.1 = cid) && decide (threshold ≤ distinctSolvers store cid)) store
  (aged + solved, store)

/-! ## The settings -/

/-- The process: what `int`, the words for on and off, and `strip` with `lower` make of an
environment variable that is set, what was read at import, the server's HMAC in hexadecimal, and
`random.Random` with a bound on the attempts of a generator. -/
structure Process (ρ : Type) where
  int : String → Option ℤ
  flag : String → Option Bool
  text : String → Option String
  mintCapFork : ℤ
  pregenQueueSize : ℤ
  hmacHex : String → List (Fin 16)
  tables : UnicodeTables
  rng : Rng ρ
  seeded : ℤ → ρ
  fuel : ℕ

/-- `_TIER_SHAPE.get(tier, (6000, 25560))`. -/
def tierShape (tier : ℤ) : ℤ × ℤ := if tier = 2 then (400, 1704) else (6000, 25560)

/-- `_TIER_METHOD.get(tier, "biased")`. -/
def tierMethod (tier : ℤ) : String := if tier = 2 then "ajm" else "biased"

variable {ρ : Type} (c : Process ρ)

def targetFor (tier : ℤ) : ℤ :=
  (c.int s!"CATHEDRAL_REFILL_TARGET_T{tier}").getD (if tier = 1 ∨ tier = 2 then 25 else 0)

def shapeFor (tier : ℤ) : ℤ × ℤ :=
  ((c.int s!"CATHEDRAL_REFILL_NVARS_T{tier}").getD (tierShape tier).1,
    (c.int s!"CATHEDRAL_REFILL_NCLAUSES_T{tier}").getD (tierShape tier).2)

def methodFor (tier : ℤ) : String :=
  (c.text s!"CATHEDRAL_REFILL_METHOD_T{tier}").getD (tierMethod tier)

def retireAfterDistinctSolvers : ℤ :=
  (c.int "CATHEDRAL_OPEN_WINDOW_RETIRE_AFTER_DISTINCT_SOLVERS").getD 256

def generatorRequested : Bool := (c.flag "CATHEDRAL_SAT_GENERATOR_ENABLED").getD false

def generatorConfigured : Bool :=
  (c.text "CATHEDRAL_SAT_GENERATOR_URL").isSome && (c.text "CATHEDRAL_SAT_GENERATOR_TOKEN").isSome

def generatorEnabled : Bool := generatorRequested c && generatorConfigured c

def generatorMaxMints : ℤ := max 1 ((c.int "CATHEDRAL_SAT_GENERATOR_MAX_MINTS").getD 25)

def localFallback : Bool := (c.flag "CATHEDRAL_SAT_GENERATOR_LOCAL_FALLBACK").getD false

/-- The cap of a pass, with `_FORK_OK` as it is. -/
def mintCap (forkOk : Bool) : ℤ :=
  if generatorEnabled c then generatorMaxMints c else if forkOk then c.mintCapFork else 1

def pregenEnabled : Bool :=
  decide (0 < c.pregenQueueSize) && (c.flag "CATHEDRAL_PREGEN_ENABLED").getD true

/-- `int(h[:16], 16)` of the digest. -/
def mintSeed (seedInput : String) (tier : ℤ) (sequence : ℕ) : ℤ :=
  ((c.hmacHex s!"seed:{seedInput}:{tier}:{sequence}").take 16).foldl (fun n d => 16 * n + d.val) 0

def mintChallengeId (seedInput : String) (tier : ℤ) (sequence : ℕ) : String :=
  s!"sat-t{tier}-random-3sat-" ++ String.ofList
    (((c.hmacHex s!"id:{seedInput}:{tier}:{sequence}").take 20).map fun d => Nat.digitChar d.val)

/-- The text of `gen_planted_3sat`, none where it raises or is not done. -/
def genText (seed nVars nClauses : ℤ) (method : String) : Option PyStr :=
  (genPlanted3sat c.rng c.fuel nVars nClauses method (c.seeded seed)).map Prod.fst

/-! ## Planning -/

/-- An entry of the planned work. -/
structure Work where
  cid : String
  seed : ℤ
  nVars : ℤ
  nClauses : ℤ
  method : String

/-- What is planned for a sequence number. -/
def workItem (seedInput : String) (tier : ℤ) (sequence : ℕ) : Work :=
  ⟨mintChallengeId c seedInput tier sequence, mintSeed c seedInput tier sequence,
    (shapeFor c tier).1, (shapeFor c tier).2, methodFor c tier⟩

/-- The loop of `_plan_tier`, on what is left of `guard`. -/
def planLoop (store : Store) (seedInput : String) (tier cap : ℤ) :
    ℕ → ℕ → List Work → List Work
  | 0, _, work => work
  | guard + 1, seq, work =>
    if activeLocalCount store tier < targetFor c tier then
      if cap ≤ work.length then work
      else if store.challenges.contains (mintChallengeId c seedInput tier seq) then
        planLoop store seedInput tier cap guard (seq + 1) work
      else planLoop store seedInput tier cap guard (seq + 1) (work ++ [workItem c seedInput tier seq])
    else work

/-- `guard < target * 4 + 8`. -/
def guardLimit (tier : ℤ) : ℕ := (targetFor c tier * 4 + 8).toNat

/-- `_plan_tier`: how many were retired, the store after that, and the work. -/
def planTier (ageCutoff seedInput : String) (tier cap : ℤ) (store : Store) :
    ℕ × Store × List Work :=
  let (retired, store) := retireReady tier (retireAfterDistinctSolvers c) ageCutoff store
  (retired, store,
    planLoop c store seedInput tier cap (guardLimit c tier) (store.count (Row.local tier)) [])

/-! ## Minting -/

/-- What a mint meets: the time, the text of the generator service if the lease goes through, the
texts that wait for the tier, and whether a forked child answers in time. -/
structure Around where
  now : String
  lease : Option PyStr
  waiting : List PyStr
  childAnswers : Bool

/-- The store and `_FORK_OK`. -/
structure World where
  store : Store
  forkOk : Bool

/-- `_gen_cnf`, with `_FORK_OK` after it. -/
def genCnf (childAnswers forkOk : Bool) (item : Work) : Option PyStr × Bool :=
  let cnf := genText c item.seed item.nVars item.nClauses item.method
  if forkOk && childAnswers && cnf.isSome then (cnf, true) else (cnf, false)

def getPregenCnf (o : Around) : Option PyStr := if pregenEnabled c then o.waiting.head? else none

/-- `_commit_challenge` of an active row; `parse_cnf` may raise. -/
def commitChallenge (now cid : String) (tier : ℤ) (store : Store) (cnf : PyStr) : Option Store :=
  (parseCnf c.tables cnf).map fun _ =>
    { store with challenges :=
        store.challenges.set cid ⟨family, tier, cnf, "active", "local", now⟩ }

/-- The text with the store that has it. -/
def committed (o : Around) (cid : String) (tier : ℤ) (store : Store) (cnf : Option PyStr) :
    Option (PyStr × Store) :=
  cnf.bind fun cnf => (commitChallenge c o.now cid tier store cnf).map fun store => (cnf, store)

/-- What the generator service gives, if it is asked at all. -/
def leased (o : Around) (tier : ℤ) (w : World) (item : Work) : Option (PyStr × Store) :=
  if generatorEnabled c then committed c o item.cid tier w.store o.lease else none

/-- `_mint_one`: no text where it raises. -/
def mintOne (o : Around) (tier : ℤ) (w : World) (item : Work) : Option PyStr × World :=
  if generatorRequested c && !generatorConfigured c then (none, w)
  else
    match leased c o tier w item with
    | some (cnf, store) => (some cnf, { w with store := store })
    | none =>
      if generatorEnabled c && !localFallback c then (none, w)
      else
        let (cnf, forkOk) := match getPregenCnf c o with
          | some cnf => (some cnf, w.forkOk)
          | none => genCnf c o.childAnswers w.forkOk item
        match committed c o item.cid tier w.store cnf with
        | some (cnf, store) => (some cnf, ⟨store, forkOk⟩)
        | none => (none, { w with forkOk := forkOk })

/-- The mints of `refill_tier`: the first that raises ends the pass. -/
def mintAll (around : Work → Around) (tier : ℤ) (w : World) (work : List Work) : Option World :=
  work.foldlM (fun w item =>
    let r := mintOne c (around item) tier w item
    r.1.map fun _ => r.2) w

/-- The mints of `refill_tier_async`, with how many failed. -/
def mintEach (around : Work → Around) (tier : ℤ) : World → List Work → World × ℕ
  | w, [] => (w, 0)
  | w, item :: rest =>
    let r := mintOne c (around item) tier w item
    let (w', failed) := mintEach around tier r.2 rest
    (w', failed + if r.1.isSome then 0 else 1)

/-- What a pass reports, less the shape. -/
structure Summary where
  retired : ℕ
  minted : ℕ
  failed : ℕ
  active : ℕ
  target : ℤ
deriving DecidableEq

section Pass

variable (around : Work → Around) (ageCutoff seedInput : String) (tier : ℤ) (w : World)

def refillTier : Option (Summary × World) :=
  let (retired, store, work) := planTier c ageCutoff seedInput tier (mintCap c w.forkOk) w.store
  (mintAll c around tier { w with store := store } work).map fun w =>
    (⟨retired, work.length, 0, activeLocalCount w.store tier, targetFor c tier⟩, w)

def refillTierAsync : Summary × World :=
  let (retired, store, work) := planTier c ageCutoff seedInput tier (mintCap c w.forkOk) w.store
  let (w, failed) := mintEach c around tier { w with store := store } work
  (⟨retired, work.length - failed, failed, activeLocalCount w.store tier, targetFor c tier⟩, w)

end Pass

/-- A pass in which every mint succeeds. -/
def Succeeds (around : Work → Around) (ageCutoff seedInput : String) (tier : ℤ) (w : World)
    (r : Summary × World) : Prop :=
  refillTier c around ageCutoff seedInput tier w = some r ∨
    refillTierAsync c around ageCutoff seedInput tier w = r ∧ r.1.failed = 0

/-- The ids within the guard differ, and the board has none of them. -/
structure NoCollision (store : Store) (seedInput : String) (tier : ℤ) : Prop where
  fresh : ∀ i < guardLimit c tier,
    mintChallengeId c seedInput tier (store.count (Row.local tier) + i) ∉ store.challenges.keys
  distinct : ∀ i < guardLimit c tier, ∀ j < guardLimit c tier,
    mintChallengeId c seedInput tier (store.count (Row.local tier) + i) =
      mintChallengeId c seedInput tier (store.count (Row.local tier) + j) → i = j

/-! ## A pass -/

variable {c} {o : Around} {tier cap : ℤ} {w w' : World} {item : Work} {cnf : PyStr}
variable {store store' : Store} {now cid seedInput : String}

theorem commitChallenge_fresh (h : commitChallenge c now cid tier store cnf = some store')
    (hfresh : cid ∉ store.challenges.keys) :
    store'.challenges.keys = store.challenges.keys ++ [cid] ∧
      activeLocalCount store' tier = activeLocalCount store tier + 1 := by
  obtain ⟨_, -, rfl⟩ := Option.map_eq_some_iff.mp h
  refine ⟨Dict.keys_set_of_notMem _ hfresh, ?_⟩
  have hitems := Dict.upsert_of_notMem (⟨family, tier, cnf, "active", "local", now⟩ : Row) hfresh
  simp [activeLocalCount, Store.count, Dict.set, hitems, Row.activeLocal, Row.local]

theorem committed_eq_some {text : Option PyStr}
    (h : committed c o cid tier store text = some (cnf, store')) :
    text = some cnf ∧ commitChallenge c o.now cid tier store cnf = some store' := by
  obtain ⟨_, htext, h⟩ := Option.bind_eq_some_iff.mp h
  obtain ⟨_, hcommit, h⟩ := Option.map_eq_some_iff.mp h
  cases h
  exact ⟨htext, hcommit⟩

/-- A mint that succeeds, commits its text: of the generator service, of the queue, or of
`gen_planted_3sat`, forked or not. -/
theorem mintOne_eq_some (h : mintOne c o tier w item = (some cnf, w')) :
    commitChallenge c o.now item.cid tier w.store cnf = some w'.store ∧
      (leased c o tier w item = none → getPregenCnf c o = some cnf ∨ getPregenCnf c o = none ∧
        genText c item.seed item.nVars item.nClauses item.method = some cnf) := by
  cases hleased : leased c o tier w item with
  | some found =>
    obtain ⟨text, store⟩ := found
    simp only [mintOne, hleased] at h
    split_ifs at h
    · cases h
    · cases h
      rw [leased] at hleased
      split_ifs at hleased
      exact ⟨(committed_eq_some hleased).2, fun h => by cases h⟩
  | none =>
    simp only [mintOne, hleased] at h
    split_ifs at h
    · cases h
    · cases h
    cases hqueue : getPregenCnf c o with
    | some text =>
      simp only [hqueue] at h
      split at h
      · rename_i hcommitted
        cases h
        obtain ⟨htext, hcommit⟩ := committed_eq_some hcommitted
        exact ⟨hcommit, fun _ => .inl htext⟩
      · cases h
    | none =>
      simp only [hqueue] at h
      split at h
      · rename_i hcommitted
        cases h
        obtain ⟨hgen, hcommit⟩ := committed_eq_some hcommitted
        refine ⟨hcommit, fun _ => .inr ⟨rfl, ?_⟩⟩
        rw [genCnf] at hgen
        split_ifs at hgen <;> exact hgen
      · cases h

/-- Each mint of new ids raises the count by one. -/
theorem mintEach_count {around : Work → Around} : ∀ {work : List Work} {w w' : World},
    mintEach c around tier w work = (w', 0) → (work.map Work.cid).Nodup →
      (∀ item ∈ work, item.cid ∉ w.store.challenges.keys) →
        activeLocalCount w'.store tier = activeLocalCount w.store tier + work.length
  | [], _, _, h, _, _ => by
    cases h
    rfl
  | item :: rest, w, w', h, hnodup, hfresh => by
    obtain ⟨hitem, hrest⟩ := List.forall_mem_cons.mp hfresh
    obtain ⟨hnot, hnodup⟩ := List.nodup_cons.mp hnodup
    cases hmint : mintOne c (around item) tier w item with
    | mk text between =>
      simp only [mintEach, hmint, Prod.mk.injEq, Nat.add_eq_zero_iff] at h
      obtain ⟨rfl, hfailed, hsome⟩ := h
      obtain ⟨cnf, rfl⟩ : ∃ cnf, text = some cnf := by
        cases text with
        | none => cases hsome
        | some cnf => exact ⟨cnf, rfl⟩
      obtain ⟨hkeys, hcount⟩ := commitChallenge_fresh (mintOne_eq_some hmint).1 hitem
      rw [mintEach_count (Prod.ext rfl hfailed) hnodup, hcount, List.length_cons]
      · omega
      · intro other hother
        rw [hkeys, List.mem_append, List.mem_singleton]
        rintro (hin | heq)
        · exact hrest other hother hin
        · exact hnot (heq ▸ List.mem_map_of_mem hother)

theorem mintEach_of_mintAll {around : Work → Around} : ∀ {work : List Work} {w w' : World},
    mintAll c around tier w work = some w' → mintEach c around tier w work = (w', 0)
  | [], _, _, h => by
    cases h
    rfl
  | item :: rest, w, w', h => by
    obtain ⟨between, hmint, h⟩ := Option.bind_eq_some_iff.mp h
    obtain ⟨cnf, hcnf, rfl⟩ := Option.map_eq_some_iff.mp hmint
    rw [mintEach, mintEach_of_mintAll h]
    simp only [hcnf, Option.isSome_some, if_true, Nat.add_zero]

/-- Below the target the loop plans to the cap or to the guard. -/
theorem planLoop_eq (hlow : (activeLocalCount store tier : ℤ) < targetFor c tier) :
    ∀ {guard seq : ℕ} {work : List Work},
      (∀ i < guard, mintChallengeId c seedInput tier (seq + i) ∉ store.challenges.keys) →
        planLoop c store seedInput tier cap guard seq work =
          work ++ (List.range' seq (min guard (cap - work.length).toNat)).map
            (workItem c seedInput tier)
  | 0, _, _, _ => by simp [planLoop]
  | guard + 1, seq, work, hfree => by
    unfold planLoop
    rw [if_pos hlow]
    split_ifs with hcap hin
    · rw [Int.toNat_of_nonpos (by omega), Nat.min_zero]
      simp
    · obtain ⟨_, hget⟩ := Option.isSome_iff_exists.mp hin
      exact absurd (Dict.mem_keys.mpr ⟨_, hget⟩) (hfree 0 (by omega))
    · have hnext : ∀ i < guard,
          mintChallengeId c seedInput tier (seq + 1 + i) ∉ store.challenges.keys := by
        intro i hi
        rw [Nat.add_assoc, Nat.add_comm 1]
        exact hfree (i + 1) (by omega)
      have hcount : min (guard + 1) (cap - work.length).toNat =
          min guard (cap - (work.length + 1 : ℕ)).toNat + 1 := by omega
      rw [planLoop_eq hlow hnext, List.length_append, List.length_singleton, hcount,
        List.range'_succ, List.map_cons, List.append_assoc, List.singleton_append]

theorem planLoop_full (h : targetFor c tier ≤ activeLocalCount store tier) (guard seq : ℕ) :
    planLoop c store seedInput tier cap guard seq [] = [] := by
  cases guard with
  | zero => rfl
  | succ guard => rw [planLoop, if_neg (not_lt.mpr h)]

section Filled

variable {around : Work → Around} {ageCutoff : String} {s : Summary}

theorem Succeeds.mints (h : Succeeds c around ageCutoff seedInput tier w (s, w')) :
    let plan := planTier c ageCutoff seedInput tier (mintCap c w.forkOk) w.store
    mintEach c around tier { w with store := plan.2.1 } plan.2.2 = (w', 0) ∧
      s.active = activeLocalCount w'.store tier := by
  rcases h with h | ⟨h, hfailed⟩
  · obtain ⟨_, hall, h⟩ := Option.map_eq_some_iff.mp h
    cases h
    exact ⟨mintEach_of_mintAll hall, rfl⟩
  · cases h
    exact ⟨Prod.ext rfl hfailed, rfl⟩

/-- What a pass leaves: below the target, as much more as the cap and the guard let it plan. -/
theorem active_after
    (hfree : NoCollision c
      (retireReady tier (retireAfterDistinctSolvers c) ageCutoff w.store).2 seedInput tier)
    (h : Succeeds c around ageCutoff seedInput tier w (s, w')) :
    let a := activeLocalCount
      (retireReady tier (retireAfterDistinctSolvers c) ageCutoff w.store).2 tier
    s.active = a + if (a : ℤ) < targetFor c tier then
      min (guardLimit c tier) (mintCap c w.forkOk).toNat else 0 := by
  intro a
  obtain ⟨hmints, hactive⟩ := h.mints
  rw [hactive]
  split_ifs with hlow
  · have hplan : planLoop c _ seedInput tier (mintCap c w.forkOk) (guardLimit c tier) _ [] = _ :=
      planLoop_eq hlow hfree.fresh
    simp only [planTier, hplan, List.nil_append, List.length_nil, Nat.cast_zero, sub_zero] at hmints
    rw [mintEach_count hmints, List.length_map, List.length_range']
    · rw [List.map_map, List.range'_eq_map_range, List.map_map]
      refine List.Nodup.map_on (fun i hi j hj => ?_) List.nodup_range
      rw [List.mem_range, lt_min_iff] at hi hj
      exact hfree.distinct i hi.1 j hj.1
    · simp only [List.forall_mem_map, List.mem_range'_1]
      intro seq hseq
      obtain ⟨i, rfl⟩ := Nat.exists_eq_add_of_le hseq.1
      exact hfree.fresh i (by omega)
  · have hnone := @planLoop_full _ c tier (mintCap c w.forkOk) _ seedInput (not_lt.mp hlow)
    simp only [planTier, hnone] at hmints
    cases hmints
    rfl

/-- A pass whose mints all succeed fills the tier up to its target, as far as the cap allows,
exactly if the target is met before or takes all that the cap allows. -/
theorem refill_fills_iff (around : Work → Around) (ageCutoff seedInput : String) (tier : ℤ)
    (w w' : World) (s : Summary)
    (hfree : NoCollision c
      (retireReady tier (retireAfterDistinctSolvers c) ageCutoff w.store).2 seedInput tier)
    (h : Succeeds c around ageCutoff seedInput tier w (s, w')) :
    let a := activeLocalCount
      (retireReady tier (retireAfterDistinctSolvers c) ageCutoff w.store).2 tier
    (s.active : ℤ) = max (a : ℤ) (min (targetFor c tier) (a + mintCap c w.forkOk)) ↔
      targetFor c tier ≤ a ∨ a + mintCap c w.forkOk ≤ targetFor c tier := by
  intro a
  have hafter := active_after hfree h
  dsimp only at hafter
  rw [hafter, guardLimit]
  split_ifs with hlow <;> omega

end Filled

/-! ## The text of a mint -/

/-- The counter and the queue of a tier's worker, which takes the shape and the method of the tier
and no override. -/
inductive Pregen (c : Process ρ) (tier : ℤ) : ℤ → List PyStr → Prop
  | start (n : ℤ) : Pregen c tier n []
  | put {n : ℤ} {q : List PyStr} {cnf : PyStr} : Pregen c tier n q → q.length < c.pregenQueueSize →
      genText c (n + 1) (tierShape tier).1 (tierShape tier).2 (tierMethod tier) = some cnf →
        Pregen c tier (n + 1) (q ++ [cnf])
  | error {n : ℤ} {q : List PyStr} : Pregen c tier n q → Pregen c tier (n + 1) q
  | get {n : ℤ} {q : List PyStr} {cnf : PyStr} : Pregen c tier n (cnf :: q) → Pregen c tier n q

variable {n : ℤ} {q : List PyStr} {seq : ℕ}

theorem Pregen.generated (h : Pregen c tier n q) : ∀ cnf ∈ q, ∃ counter,
    genText c counter (tierShape tier).1 (tierShape tier).2 (tierMethod tier) = some cnf := by
  induction h with
  | start n => exact fun _ h => absurd h List.not_mem_nil
  | put _ _ hgen ih => exact List.forall_mem_append.mpr ⟨ih, List.forall_mem_singleton.mpr ⟨_, hgen⟩⟩
  | error _ ih => exact ih
  | get _ ih => exact fun cnf h => ih cnf (List.mem_cons_of_mem _ h)

section Sample

/-- Tier 1 with three variables, one clause and a target of one. -/
def sample : Process (List Bool) where
  int name :=
    if name = "CATHEDRAL_REFILL_NVARS_T1" then some 3
    else if name = "CATHEDRAL_REFILL_NCLAUSES_T1" ∨ name = "CATHEDRAL_REFILL_TARGET_T1" then some 1
    else none
  flag _ := none
  text _ := none
  mintCapFork := 4
  pregenQueueSize := 8
  hmacHex message := message.toList.map fun ch => Fin.ofNat 16 ch.toNat
  tables := asciiTables
  rng := coins
  seeded _ := []
  fuel := 25561

def emptyBoard (forkOk : Bool) : World := ⟨⟨Dict.empty, []⟩, forkOk⟩

def quiet (_ : Work) : Around := ⟨"2026-01-01T00:00:00.000Z", none, [], true⟩

theorem sample_local {o : Around} : leased sample o tier w item = none := if_neg (by decide)

theorem sample_free (forkOk : Bool) : NoCollision sample
    (retireReady 1 (retireAfterDistinctSolvers sample) "" (emptyBoard forkOk).store).2 "s" 1 := by
  cases forkOk <;> exact ⟨by decide +kernel, by decide +kernel⟩

theorem sample_mints (forkOk : Bool) : (refillTier sample quiet "" "s" 1 (emptyBoard forkOk)).map
    Prod.fst = some ⟨0, if forkOk then 4 else 1, 0, if forkOk then 4 else 1, 1⟩ := by
  cases forkOk <;> decide +kernel

/-- Without forks the cap is one, and one is minted. -/
theorem refill_fills_one : ∃ s : Summary, s.active = 1 ∧
    ((s.active : ℤ) = max (0 : ℤ) (min (targetFor sample 1) (0 + mintCap sample false)) ↔
      targetFor sample 1 ≤ 0 ∨ 0 + mintCap sample false ≤ targetFor sample 1) := by
  obtain ⟨⟨s, w'⟩, hrun, hs⟩ := Option.map_eq_some_iff.mp (sample_mints false)
  exact ⟨s, congrArg Summary.active hs,
    refill_fills_iff quiet "" "s" 1 (emptyBoard false) w' s (sample_free false) (.inl hrun)⟩

/-- With forks the cap is four, and four are minted for a target of one. -/
theorem refill_overfills : ¬ ∀ (c : Process (List Bool)) (around : Work → Around)
    (ageCutoff seedInput : String) (tier : ℤ) (w w' : World) (s : Summary),
    NoCollision c (retireReady tier (retireAfterDistinctSolvers c) ageCutoff w.store).2 seedInput
      tier → Succeeds c around ageCutoff seedInput tier w (s, w') →
    let a := activeLocalCount
      (retireReady tier (retireAfterDistinctSolvers c) ageCutoff w.store).2 tier
    (s.active : ℤ) = max (a : ℤ) (min (targetFor c tier) (a + mintCap c w.forkOk)) := by
  intro h
  obtain ⟨⟨s, w'⟩, hrun, hs⟩ := Option.map_eq_some_iff.mp (sample_mints true)
  have hone := h sample quiet "" "s" 1 (emptyBoard true) w' s (sample_free true) (.inl hrun)
  rw [show s = _ from hs] at hone
  exact absurd hone (by decide +kernel)

end Sample

end Cathedral.Publisher.Refill
