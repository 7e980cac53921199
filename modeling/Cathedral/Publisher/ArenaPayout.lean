import Cathedral.Lanes.SolverArena

/-!
# Cathedral.Publisher.ArenaPayout — paying for instances that the champion cannot close

`scaffold/publisher/arena_payout.py`: an instance pays its owner when the champion times
out on it and another solver, long registered and broadly competitive, closes it. Several
processes tick at once; each settles the instances it has read at the start of its tick,
for a round of its own, and pays in one transaction that tests and sets the last paid
round.

`payouts_hold` is what holds of every payment when no tick settles an instance for a
round below its last paid one; `backward_round_pays_twice` is what happens otherwise.

What the solvers do may differ from one instance to the next. Of an emitted row the
signature and the fields that are the same for every row are left out.
-/

namespace Cathedral.Publisher.ArenaPayout

open Lanes.SolverArena

/-! ## Tables -/

/-- A row of `arena_instances`. -/
structure ArenaInstance where
  instanceId : String
  ownerHotkey : String
  cnfText : String
  submittedRound : ℤ
  status : String
  createdAtIso : String
  lastPaidRound : Option ℤ
  paidAtIso : Option String

/-- A row of `eval_runs`. -/
structure EvalRun where
  id : String
  ranAt : String
  evalOutputSchemaVersion : ℕ
  minerHotkey : String
  taskIdPublic : String
  difficultyTier : ℤ
  weightedScore : PyFloat
  answerHash : String
  verifierDetailsHash : String

structure Store where
  instances : Dict String ArenaInstance
  evalRuns : Dict String EvalRun

/-! ## The price -/

def quarantineRounds : ℤ := 3

def minBatchScore : ℚ := 1 / 2

def decay : ℚ := 97 / 100

/-- How far the closer is ahead, in limits, between zero and one. -/
def separation (championPar2 closerPar2 timeoutMs : ℚ) : ℚ :=
  max 0 (min 1 ((championPar2 - closerPar2) / timeoutMs))

def laneIPrice (championPar2 closerPar2 timeoutMs : ℚ) (roundNo : ℤ) (base : PyFloat) : PyFloat :=
  if timeoutMs ≤ 0 then .finite 0
  else
    ((base.scale (separation championPar2 closerPar2 timeoutMs)).scale
      (decay ^ roundNo.toNat)).mapFinite round6

/-! ## Settling an instance -/

structure PayoutHost extends Host where
  floatRepr : ℚ → String

/-- The arguments of a tick that do not depend on the solvers. -/
structure Tick where
  currentRound : ℤ
  base : PyFloat
  tier : ℤ
  batchSize : ℕ

structure Closer where
  spec : SolverSpec
  adapter : SolverAdapter
  registeredRound : ℤ

/-- The solvers of a settlement. -/
structure Field where
  championSpec : SolverSpec
  championAdapter : SolverAdapter
  closers : List Closer

/-- The fraction of the standard batch that a closer has solved. -/
def batchScore (results : List InstanceResult) : ℚ :=
  if results.isEmpty then 0 else results.countP (·.solved) / results.length

/-- One turn of the loop over the closers; the best closer so far with its PAR-2. -/
def considerCloser (H : Host) (lane : SolverArenaLane) (tick : Tick) (inst : Instance)
    (championId : PyStr) (cutoff : ℤ) (best : Option (SolverSpec × ℚ)) (c : Closer) :
    Option (Option (SolverSpec × ℚ)) :=
  if c.spec.commitmentId = championId then some best
  else if cutoff < c.registeredRound then some best
  else do
    let batch ← runBatch H c.adapter (lane.buildBatch H tick.currentRound tick.tier tick.batchSize)
    if batchScore batch < minBatchScore then some best
    else
      let results ← runBatch H c.adapter [inst]
      if !(results.head?.any (·.solved)) then some best
      else
        let .finite par2 := par2Ms results (timeoutsOf [inst]) | some best
        if best.all fun b => par2 < b.2 then some (some (c.spec, par2)) else some best

/-- `hashlib.sha256(text)`, its first sixteen digits four times. -/
def rowHash (H : Host) (text : String) : String :=
  let digest := (H.sha256Hex (encodeUtf8 text.toList)).toList.take 16
  String.ofList ((digest ++ digest ++ digest ++ digest).take 64)

/-- What is paid when the transaction goes through. -/
structure Offer where
  price : PyFloat
  championPar2 : ℚ
  closerPar2 : ℚ
  closer : SolverSpec
  rows : List EvalRun

inductive Verdict where
  | alreadyPaidThisRound
  | noCnfBody
  | championDidNotTimeOut
  | noValidCloser
  | zeroPrice (championPar2 closerPar2 : ℚ)
  | offered (offer : Offer)

def Verdict.reason : Verdict → Option String
  | .alreadyPaidThisRound => some "already_paid_this_round"
  | .noCnfBody => some "no_cnf_body"
  | .championDidNotTimeOut => some "champion_did_not_time_out"
  | .noValidCloser => some "no_valid_closer"
  | .zeroPrice _ _ => some "zero_price"
  | .offered _ => none

/-- `build_solve_rows`: a row of version six and its mirror of version five. -/
def solveRows (H : PayoutHost) (row : ArenaInstance) (tick : Tick) (rowUuid ranAt : String)
    (closerId : String) (price : PyFloat) (championPar2 closerPar2 : ℚ) : List EvalRun :=
  let challengeId := "lanei:" ++ row.instanceId
  let v6 : EvalRun :=
    { id := rowUuid
      ranAt := ranAt
      evalOutputSchemaVersion := 6
      minerHotkey := row.ownerHotkey
      taskIdPublic := String.ofList ((H.sha256Hex (encodeUtf8
        (challengeId ++ ":" ++ toString tick.tier).toList)).toList.take 16)
      difficultyTier := tick.tier
      weightedScore := price
      answerHash := rowHash H.toHost (challengeId ++ ":" ++ closerId)
      verifierDetailsHash := rowHash H.toHost ("sep:" ++ H.floatRepr championPar2 ++ ":" ++
        H.floatRepr closerPar2 ++ ":r" ++ toString tick.currentRound) }
  [v6, { v6 with id := rowUuid ++ "-v5compat", evalOutputSchemaVersion := 5 }]

/-- The instance as the solvers see it. -/
def posed (row : ArenaInstance) (tick : Tick) : Instance :=
  ⟨row.instanceId, row.cnfText, (tierOf tick.tier).2.2⟩

/-- `settle_instance` up to its transaction, on the row that the tick has read; `none` where
a solver or a check raises. -/
def settleInstance (H : PayoutHost) (lane : SolverArenaLane) (tick : Tick) (solvers : Field)
    (row : ArenaInstance) (rowUuid ranAt : String) : Option Verdict :=
  if row.lastPaidRound = some tick.currentRound then some .alreadyPaidThisRound
  else if PyStr.strip (PyStr.ofString row.cnfText) = [] then some .noCnfBody
  else do
    let inst := posed row tick
    let champion ← runBatch H.toHost solvers.championAdapter [inst]
    if !(champion.head?.any fun r => r.outcome = .timeout) then some .championDidNotTimeOut
    else
      let best ← solvers.closers.foldlM
        (considerCloser H.toHost lane tick inst solvers.championSpec.commitmentId
          (row.submittedRound - quarantineRounds)) none
      match par2Ms champion (timeoutsOf [inst]), best with
      | .finite championPar2, some (closer, closerPar2) =>
        let price := laneIPrice championPar2 closerPar2 inst.timeoutMs tick.currentRound tick.base
        if price.le (.finite 0) then some (.zeroPrice championPar2 closerPar2)
        else do
          let closerId ← PyStr.encode? closer.commitmentId
          some (.offered ⟨price, championPar2, closerPar2, closer,
            solveRows H row tick rowUuid ranAt closerId price championPar2 closerPar2⟩)
      | _, _ => some .noValidCloser

/-- The transaction `_pay`; `none` where its update matches no row. -/
def Store.pay (st : Store) (instanceId : String) (currentRound : ℤ) (ranAt : String)
    (rows : List EvalRun) : Option Store :=
  match st.instances.get? instanceId with
  | none => none
  | some row =>
    if row.lastPaidRound = some currentRound then none
    else
      some
        { instances := st.instances.set instanceId
            { row with
              status := "paid"
              lastPaidRound := some currentRound
              paidAtIso := some ranAt }
          evalRuns := rows.foldl (fun runs r => (runs.insertIgnore r.id r).1) st.evalRuns }

/-- `_pending_instances`. -/
def Store.pending (st : Store) : List ArenaInstance :=
  (st.instances.values.filter fun row => row.status = "pending" || row.status = "paid").insertionSort
    fun a b => a.createdAtIso ≤ b.createdAtIso

/-! ## Processes -/

/-- A tick in progress: the instances read at its start that are still to be settled. -/
structure OpenTick where
  tick : Tick
  remaining : List ArenaInstance

structure State where
  store : Store
  ticks : ℕ → Option OpenTick

inductive Action where
  /-- `POST /v1/arena/instances` stores a new instance. -/
  | submit (row : ArenaInstance)
  /-- A process reads the instances that it will settle. -/
  | start (p : ℕ) (tick : Tick)
  /-- A process settles the next instance of its tick. -/
  | settle (p : ℕ) (solvers : Field) (rowUuid ranAt : String)
  /-- A process dies. -/
  | stop (p : ℕ)

/-- A payment, with all that led to it. -/
structure Payment where
  row : ArenaInstance
  tick : Tick
  solvers : Field
  offer : Offer

/-- The instance and the round of a payment. -/
def Payment.key (pay : Payment) : String × ℤ := (pay.row.instanceId, pay.tick.currentRound)

def State.setTick (s : State) (p : ℕ) (open' : Option OpenTick) : State :=
  { s with ticks := Function.update s.ticks p open' }

/-- One action: the state after it, and what it has paid. -/
def act (H : PayoutHost) (lane : SolverArenaLane) (s : State) :
    Action → Option (State × Option Payment)
  | .submit row =>
    if s.store.instances.get? row.instanceId = none ∧ row.status = "pending" ∧
        row.lastPaidRound = none then
      some ({ s with store :=
        { s.store with instances := s.store.instances.set row.instanceId row } }, none)
    else none
  | .start p tick => some (s.setTick p (some ⟨tick, s.store.pending⟩), none)
  | .stop p => some (s.setTick p none, none)
  | .settle p solvers rowUuid ranAt =>
    match s.ticks p with
    | some ⟨tick, row :: rest⟩ =>
      match settleInstance H lane tick solvers row rowUuid ranAt with
      -- an exception ends the tick
      | none => some (s.setTick p none, none)
      | some (.offered offer) =>
        let s' := s.setTick p (some ⟨tick, rest⟩)
        match s.store.pay row.instanceId tick.currentRound ranAt offer.rows with
        | none => some (s', none)
        | some store => some ({ s' with store := store }, some ⟨row, tick, solvers, offer⟩)
      | some _ => some (s.setTick p (some ⟨tick, rest⟩), none)
    | _ => none

structure Event where
  action : Action
  payment : Option Payment

def step (H : PayoutHost) (lane : SolverArenaLane) (s : State) (l : Event) (t : State) : Prop :=
  act H lane s l.action = some (t, l.payment)

def payments (ls : List Event) : List Payment := ls.filterMap Event.payment

/-! ## What is promised of a payment -/

/-- The closer that a payment rests on. -/
structure Closes (H : Host) (lane : SolverArenaLane) (pay : Payment) (c : Closer) : Prop where
  mem : c ∈ pay.solvers.closers
  other : c.spec.commitmentId ≠ pay.solvers.championSpec.commitmentId
  registered : c.registeredRound + 3 ≤ pay.row.submittedRound
  broad : ∃ results, runBatch H c.adapter
    (lane.buildBatch H pay.tick.currentRound pay.tick.tier pay.tick.batchSize) = some results ∧
      0 < results.length ∧ results.length ≤ 2 * results.countP (·.solved)
  closes : ∃ r, runBatch H c.adapter [posed pay.row pay.tick] = some [r] ∧ r.solved = true

/-- A payment for hardness that was proven, to the owner of the instance. -/
structure Justified (H : Host) (lane : SolverArenaLane) (st : Store) (pay : Payment) : Prop where
  owner : ∃ row, st.instances.get? pay.row.instanceId = some row ∧
    row.submittedRound = pay.row.submittedRound ∧
      ∀ r ∈ pay.offer.rows, r.minerHotkey = row.ownerHotkey
  price : ∃ q b, pay.tick.base = .finite b ∧ 0 < q ∧ q ≤ b ∧
    ∀ r ∈ pay.offer.rows, r.weightedScore = .finite q
  timedOut : ∃ r, runBatch H pay.solvers.championAdapter [posed pay.row pay.tick] = some [r] ∧
    r.outcome = .timeout
  closer : ∃ c, Closes H lane pay c

/-- A base that rounding to six places does not raise. -/
def RoundsDown (base : PyFloat) : Prop := ∃ b, base = .finite b ∧ round6 b ≤ b

/-- The round to be settled is not below the last one paid, and the base is in whole
millionths or rounds down. -/
def Orderly (s : State) : Action → Prop
  | .settle p _ _ _ => ∀ tick row rest, s.ticks p = some ⟨tick, row :: rest⟩ →
      RoundsDown tick.base ∧
        ∀ current, s.store.instances.get? row.instanceId = some current →
          ∀ last ∈ current.lastPaidRound, last ≤ tick.currentRound
  | _ => True

/-! ## The price stays within the base -/

theorem roundHalfEven_bounds (x : ℚ) :
    ⌊x⌋ ≤ Thin.roundHalfEven x ∧ Thin.roundHalfEven x ≤ ⌊x⌋ + 1 := by
  simp only [Thin.roundHalfEven]
  split_ifs <;> omega

theorem roundHalfEven_mono {x y : ℚ} (h : x ≤ y) :
    Thin.roundHalfEven x ≤ Thin.roundHalfEven y := by
  rcases (Int.floor_mono h).lt_or_eq with hlt | heq
  · have hx := (roundHalfEven_bounds x).2
    have hy := (roundHalfEven_bounds y).1
    omega
  · -- on one floor the fractions decide
    simp only [Thin.roundHalfEven, heq]
    have hrest : x - (⌊y⌋ : ℤ) ≤ y - (⌊y⌋ : ℤ) := by linarith
    split_ifs <;> first | omega | (exfalso; linarith)

theorem round6_mono {x y : ℚ} (h : x ≤ y) : round6 x ≤ round6 y := by
  have hscaled : x * 10 ^ 6 ≤ y * 10 ^ 6 := by linarith
  have hround : (Thin.roundHalfEven (x * 10 ^ 6) : ℚ) ≤ Thin.roundHalfEven (y * 10 ^ 6) := by
    exact_mod_cast roundHalfEven_mono hscaled
  exact div_le_div_of_nonneg_right hround (by positivity)

theorem round6_nonpos {x : ℚ} (h : x ≤ 0) : round6 x ≤ 0 := by
  have hzero : round6 0 = 0 := by simp [round6, Thin.roundHalfEven]
  exact hzero ▸ round6_mono h

theorem separation_bounds (a b t : ℚ) : 0 ≤ separation a b t ∧ separation a b t ≤ 1 :=
  ⟨le_max_left .., max_le zero_le_one (min_le_left ..)⟩

theorem decay_bounds (n : ℕ) : 0 ≤ decay ^ n ∧ decay ^ n ≤ 1 :=
  ⟨pow_nonneg (by norm_num [decay]) n, pow_le_one₀ (by norm_num [decay]) (by norm_num [decay])⟩

/-- A price that is paid lies within a base that rounds down. -/
theorem laneIPrice_le {championPar2 closerPar2 timeoutMs : ℚ} {roundNo : ℤ} {b : ℚ}
    (hdown : round6 b ≤ b)
    (hpaid : (laneIPrice championPar2 closerPar2 timeoutMs roundNo (.finite b)).le (.finite 0) =
      false) :
    ∃ q, laneIPrice championPar2 closerPar2 timeoutMs roundNo (.finite b) = .finite q ∧
      0 < q ∧ q ≤ b := by
  unfold laneIPrice at hpaid ⊢
  split_ifs at hpaid ⊢ with htimeout
  · simp [PyFloat.le] at hpaid
  · set sep := separation championPar2 closerPar2 timeoutMs
    set power := decay ^ roundNo.toNat
    have hpos : 0 < round6 (b * sep * power) := by
      simpa [PyFloat.scale, PyFloat.mapFinite, PyFloat.le] using hpaid
    refine ⟨round6 (b * sep * power), rfl, hpos, ?_⟩
    obtain ⟨hsep0, hsep1⟩ := separation_bounds championPar2 closerPar2 timeoutMs
    obtain ⟨hpower0, hpower1⟩ := decay_bounds roundNo.toNat
    have hfactor : sep * power ≤ 1 := mul_le_one₀ hsep1 hpower0 hpower1
    rcases le_total b 0 with hb | hb
    · -- a base below zero prices nothing
      have hprice : b * sep * power ≤ 0 :=
        mul_nonpos_of_nonpos_of_nonneg (mul_nonpos_of_nonpos_of_nonneg hb hsep0) hpower0
      exact absurd (round6_nonpos hprice) (not_le.mpr hpos)
    · have hprice : b * sep * power ≤ b := by
        rw [mul_assoc]
        exact mul_le_of_le_one_right hb hfactor
      exact (round6_mono hprice).trans hdown

/-! ## What one settlement has seen -/

section Settle

variable {H : PayoutHost} {lane : SolverArenaLane} {tick : Tick} {solvers : Field}
  {row : ArenaInstance} {rowUuid ranAt : String} {offer : Offer}

theorem runBatch_singleton {adapter : SolverAdapter} {inst : Instance}
    {results : List InstanceResult} (h : runBatch H.toHost adapter [inst] = some results) :
    ∃ r, results = [r] := by
  rw [runBatch, List.mapM_cons, Option.bind_eq_bind, Option.bind_eq_some_iff] at h
  obtain ⟨r, -, h⟩ := h
  exact ⟨r, (Option.some.inj h).symm⟩

/-- A closer only becomes the best one when it closes the instance. -/
theorem considerCloser_cases {pay : Payment} {best best' : Option (SolverSpec × ℚ)} {c : Closer}
    (hmem : c ∈ pay.solvers.closers)
    (h : considerCloser H.toHost lane pay.tick (posed pay.row pay.tick)
      pay.solvers.championSpec.commitmentId (pay.row.submittedRound - quarantineRounds) best c =
        some best') :
    best' = best ∨ (Closes H.toHost lane pay c ∧ ∃ par2, best' = some (c.spec, par2)) := by
  unfold considerCloser at h
  split_ifs at h with hchampion hquarantine
  · exact Or.inl (Option.some.inj h).symm
  · exact Or.inl (Option.some.inj h).symm
  · obtain ⟨batch, hbatch, h⟩ := Option.bind_eq_some_iff.mp h
    split_ifs at h with hscore
    · exact Or.inl (Option.some.inj h).symm
    · obtain ⟨results, hresults, h⟩ := Option.bind_eq_some_iff.mp h
      obtain ⟨r, rfl⟩ := runBatch_singleton hresults
      by_cases hsolved : r.solved = true
      · have hregistered : c.registeredRound + 3 ≤ pay.row.submittedRound := by
          have hcutoff := not_lt.mp hquarantine
          unfold quarantineRounds at hcutoff
          omega
        have hbroad : 0 < batch.length ∧ batch.length ≤ 2 * batch.countP (·.solved) := by
          unfold batchScore at hscore
          split_ifs at hscore with hempty
          · exact absurd (by norm_num [minBatchScore]) hscore
          · have hlength : 0 < batch.length :=
              List.length_pos_iff.mpr fun hnil => hempty (List.isEmpty_iff.mpr hnil)
            have hlengthQ : (0 : ℚ) < batch.length := by exact_mod_cast hlength
            have hhalf := not_lt.mp hscore
            rw [minBatchScore, le_div_iff₀ hlengthQ] at hhalf
            have hdouble : (batch.length : ℚ) ≤ 2 * batch.countP (·.solved) := by linarith
            exact ⟨hlength, by exact_mod_cast hdouble⟩
        have hcloses : Closes H.toHost lane pay c :=
          ⟨hmem, hchampion, hregistered, ⟨batch, hbatch, hbroad⟩, r, hresults, hsolved⟩
        simp only [List.head?_cons, Option.any_some, hsolved, Bool.not_true, Bool.false_eq_true,
          if_false] at h
        split at h
        · split_ifs at h
          · exact Or.inr ⟨hcloses, _, (Option.some.inj h).symm⟩
          · exact Or.inl (Option.some.inj h).symm
        · exact Or.inl (Option.some.inj h).symm
      · simp [hsolved] at h
        exact Or.inl h.symm

/-- The closer that the loop ends with is one of them, and closes the instance. -/
theorem closes_of_best {pay : Payment} {best : SolverSpec × ℚ}
    (h : pay.solvers.closers.foldlM (considerCloser H.toHost lane pay.tick
      (posed pay.row pay.tick) pay.solvers.championSpec.commitmentId
      (pay.row.submittedRound - quarantineRounds)) none = some (some best)) :
    ∃ c, Closes H.toHost lane pay c ∧ c.spec = best.1 := by
  -- every turn leaves the best closer as it was, or it is a closer of the list
  have hkept : ∀ closers : List Closer, (∀ c ∈ closers, c ∈ pay.solvers.closers) →
      ∀ start result, closers.foldlM (considerCloser H.toHost lane pay.tick
        (posed pay.row pay.tick) pay.solvers.championSpec.commitmentId
        (pay.row.submittedRound - quarantineRounds)) start = some result → result = start ∨
          ∃ c par2, Closes H.toHost lane pay c ∧ result = some (c.spec, par2) := by
    intro closers
    induction closers with
    | nil =>
      intro _ start result hresult
      exact Or.inl (Option.some.inj hresult).symm
    | cons c closers ih =>
      intro hsub start result hresult
      rw [List.foldlM_cons] at hresult
      obtain ⟨mid, hmid, hrest⟩ := Option.bind_eq_some_iff.mp hresult
      rcases ih (fun d hd => hsub d (List.mem_cons_of_mem c hd)) mid result hrest with
        hsame | hlater
      · rcases considerCloser_cases (hsub c List.mem_cons_self) hmid with
          hstart | ⟨hcloses, par2, hmid'⟩
        · exact Or.inl (hsame.trans hstart)
        · exact Or.inr ⟨c, par2, hcloses, hsame.trans hmid'⟩
      · exact Or.inr hlater
  rcases hkept _ (fun c hc => hc) none (some best) h with hnone | ⟨c, par2, hcloses, hbest⟩
  · cases hnone
  · cases hbest
    exact ⟨c, hcloses, rfl⟩

/-- What an offer rests on. -/
theorem settleInstance_offered
    (h : settleInstance H lane tick solvers row rowUuid ranAt = some (.offered offer)) :
    row.lastPaidRound ≠ some tick.currentRound ∧
    (∃ r, runBatch H.toHost solvers.championAdapter [posed row tick] = some [r] ∧
      r.outcome = .timeout) ∧
    (∃ c, Closes H.toHost lane ⟨row, tick, solvers, offer⟩ c ∧ c.spec = offer.closer) ∧
    (∃ championPar2 closerPar2, offer.price = laneIPrice championPar2 closerPar2
      (posed row tick).timeoutMs tick.currentRound tick.base) ∧
    offer.price.le (.finite 0) = false ∧
    ∀ r ∈ offer.rows, r.minerHotkey = row.ownerHotkey ∧ r.weightedScore = offer.price := by
  unfold settleInstance at h
  split_ifs at h with hpaid hbody
  · cases h
  · cases h
  · obtain ⟨champion, hchampion, h⟩ := Option.bind_eq_some_iff.mp h
    obtain ⟨r, rfl⟩ := runBatch_singleton hchampion
    split_ifs at h with htimeout
    · cases h
    · have houtcome : r.outcome = .timeout := by simpa using htimeout
      obtain ⟨best, hbest, h⟩ := Option.bind_eq_some_iff.mp h
      split at h
      · next _ _ championPar2 closer closerPar2 _ =>
          dsimp only at h
          split_ifs at h with hzero
          · cases h
          · obtain ⟨closerId, -, h⟩ := Option.bind_eq_some_iff.mp h
            cases h
            refine ⟨hpaid, ⟨r, hchampion, houtcome⟩, ?_, ⟨championPar2, closerPar2, rfl⟩,
              eq_false_of_ne_true hzero, ?_⟩
            · exact @closes_of_best H lane ⟨row, tick, solvers, _⟩ _ hbest
            · intro r hr
              rcases List.mem_pair.mp hr with rfl | rfl
              · exact ⟨rfl, rfl⟩
              · exact ⟨rfl, rfl⟩
      · cases h

end Settle

/-! ## Steps -/

section Steps

variable {H : PayoutHost} {lane : SolverArenaLane} {s t : State} {ls : List Event}

/-- What an instance keeps for good. -/
def SameTerms (row row' : ArenaInstance) : Prop :=
  row'.ownerHotkey = row.ownerHotkey ∧ row'.submittedRound = row.submittedRound

/-- Rows are filed under their ids, and a tick holds rows that the table still has. -/
structure Filed (s : State) : Prop where
  ids : ∀ k row, s.store.instances.get? k = some row → row.instanceId = k
  read : ∀ p o, s.ticks p = some o → ∀ row ∈ o.remaining,
    ∃ current, s.store.instances.get? row.instanceId = some current ∧ SameTerms row current

/-- An instance stays, on its terms. -/
def InstancesKept (s t : State) : Prop :=
  ∀ k row, s.store.instances.get? k = some row →
    ∃ row', t.store.instances.get? k = some row' ∧ SameTerms row row'

/-- A payment as the transaction that made it. -/
structure PaidBy (H : PayoutHost) (lane : SolverArenaLane) (s t : State) (action : Action)
    (pay : Payment) : Prop where
  opened : ∃ p rowUuid ranAt rest, action = .settle p pay.solvers rowUuid ranAt ∧
    s.ticks p = some ⟨pay.tick, pay.row :: rest⟩
  offered : ∃ rowUuid ranAt,
    settleInstance H lane pay.tick pay.solvers pay.row rowUuid ranAt = some (.offered pay.offer)
  paid : ∃ ranAt, s.store.pay pay.row.instanceId pay.tick.currentRound ranAt pay.offer.rows =
    some t.store

variable {action : Action} {payment : Option Payment}

/-- What an action does: it opens or advances a tick, stores a new instance, or pays. -/
theorem act_cases (h : act H lane s action = some (t, payment)) :
    (payment = none ∧ t.store = s.store ∧ ∀ p o, t.ticks p = some o →
      (∃ o', s.ticks p = some o' ∧ o.tick = o'.tick ∧ o.remaining <:+ o'.remaining) ∨
        o.remaining = s.store.pending) ∨
    (payment = none ∧ t.ticks = s.ticks ∧ t.store.evalRuns = s.store.evalRuns ∧ ∃ row,
      s.store.instances.get? row.instanceId = none ∧ row.lastPaidRound = none ∧
        t.store.instances = s.store.instances.set row.instanceId row) ∨
    ∃ pay, payment = some pay ∧ PaidBy H lane s t action pay ∧ ∀ p o, t.ticks p = some o →
      ∃ o', s.ticks p = some o' ∧ o.tick = o'.tick ∧ o.remaining <:+ o'.remaining := by
  -- setting one tick leaves the others
  have hadvance : ∀ q (o : Option OpenTick), (∀ o₁ ∈ o, ∃ o', s.ticks q = some o' ∧
      o₁.tick = o'.tick ∧ o₁.remaining <:+ o'.remaining) →
      ∀ p o₁, (s.setTick q o).ticks p = some o₁ →
        ∃ o', s.ticks p = some o' ∧ o₁.tick = o'.tick ∧ o₁.remaining <:+ o'.remaining := by
    intro q o ho p o₁ h₁
    by_cases hp : p = q
    · subst hp
      simp only [State.setTick, Function.update_self] at h₁
      exact ho o₁ h₁
    · simp only [State.setTick, Function.update_of_ne hp] at h₁
      exact ⟨o₁, h₁, rfl, List.suffix_refl _⟩
  cases action with
  | submit row =>
    rw [act] at h
    split_ifs at h with hfresh
    cases h
    exact Or.inr (Or.inl ⟨rfl, rfl, rfl, row, hfresh.1, hfresh.2.2, rfl⟩)
  | start q tick =>
    cases h
    refine Or.inl ⟨rfl, rfl, fun p o ho => ?_⟩
    by_cases hp : p = q
    · subst hp
      simp only [State.setTick, Function.update_self] at ho
      cases ho
      exact Or.inr rfl
    · simp only [State.setTick, Function.update_of_ne hp] at ho
      exact Or.inl ⟨o, ho, rfl, List.suffix_refl _⟩
  | stop q =>
    cases h
    exact Or.inl ⟨rfl, rfl, fun p o ho => Or.inl (hadvance q none (by simp) p o ho)⟩
  | settle q solvers rowUuid ranAt =>
    rw [act] at h
    split at h
    · next tick row rest htick =>
        have hrest := hadvance q (some ⟨tick, rest⟩) fun o₁ ho₁ => by
          cases ho₁
          exact ⟨_, htick, rfl, List.suffix_cons ..⟩
        split at h
        · cases h
          exact Or.inl ⟨rfl, rfl, fun p o ho => Or.inl (hadvance q none (by simp) p o ho)⟩
        · next offer hoffer =>
            dsimp only at h
            split at h
            · cases h
              exact Or.inl ⟨rfl, rfl, fun p o ho => Or.inl (hrest p o ho)⟩
            · next store hstore =>
                cases h
                exact Or.inr (Or.inr ⟨_, rfl, ⟨⟨q, rowUuid, ranAt, rest, rfl, htick⟩,
                  ⟨rowUuid, ranAt, hoffer⟩, ⟨ranAt, hstore⟩⟩, hrest⟩)
        · cases h
          exact Or.inl ⟨rfl, rfl, fun p o ho => Or.inl (hrest p o ho)⟩
    · cases h

/-- The transaction: the guard, and what it writes. -/
theorem pay_eq_some {st st' : Store} {instanceId ranAt : String} {currentRound : ℤ}
    {rows : List EvalRun} (h : st.pay instanceId currentRound ranAt rows = some st') :
    ∃ row, st.instances.get? instanceId = some row ∧ row.lastPaidRound ≠ some currentRound ∧
      st'.instances = st.instances.set instanceId
        { row with
          status := "paid"
          lastPaidRound := some currentRound
          paidAtIso := some ranAt } ∧
      st'.evalRuns = rows.foldl (fun runs r => (runs.insertIgnore r.id r).1) st.evalRuns := by
  unfold Store.pay at h
  split at h
  · cases h
  · next row hrow =>
      split_ifs at h with hpaid
      cases h
      exact ⟨row, hrow, hpaid, rfl, rfl⟩

/-- A row of a table after `INSERT OR IGNORE` was there before, or is one of those inserted. -/
theorem get?_foldl_insertIgnore {rows : List EvalRun} : ∀ {runs : Dict String EvalRun}
    {k : String} {r : EvalRun},
    (rows.foldl (fun runs r => (runs.insertIgnore r.id r).1) runs).get? k = some r →
      runs.get? k = some r ∨ r ∈ rows := by
  induction rows with
  | nil => exact fun h => Or.inl h
  | cons new rows ih =>
    intro runs k r h
    rcases ih h with hfirst | hlater
    · dsimp only at hfirst
      rcases runs.insertIgnore_cases new.id new with ⟨old, -, hskip⟩ | ⟨-, hinsert⟩
      · rw [hskip] at hfirst
        exact Or.inl hfirst
      · rw [hinsert, Dict.get?_set] at hfirst
        split_ifs at hfirst with hk
        · cases hfirst
          exact Or.inr List.mem_cons_self
        · exact Or.inl hfirst
    · exact Or.inr (List.mem_cons_of_mem new hlater)

/-- No action takes an instance away or changes its terms. -/
theorem instancesKept_of_act (h : act H lane s action = some (t, payment)) : InstancesKept s t := by
  rcases act_cases h with ⟨-, hstore, -⟩ | ⟨-, -, -, row, hfresh, -, hset⟩ | ⟨pay, -, hpaid, -⟩
  · intro k row hrow
    exact ⟨row, by rw [hstore]; exact hrow, rfl, rfl⟩
  · intro k old hold
    refine ⟨old, ?_, rfl, rfl⟩
    rw [hset]
    exact Dict.get?_set_of_none hfresh hold
  · obtain ⟨ranAt, hstore⟩ := hpaid.paid
    obtain ⟨row, hrow, -, hset, -⟩ := pay_eq_some hstore
    intro k old hold
    rw [hset]
    by_cases hk : pay.row.instanceId = k
    · subst hk
      rw [hrow] at hold
      cases hold
      exact ⟨_, Dict.get?_set_self .., rfl, rfl⟩
    · exact ⟨old, by rw [Dict.get?_set_ne _ _ hk]; exact hold, rfl, rfl⟩

/-- The rows that a tick reads are rows of the table. -/
theorem get?_of_pending (hids : ∀ k row, s.store.instances.get? k = some row → row.instanceId = k)
    {row : ArenaInstance} (h : row ∈ s.store.pending) :
    s.store.instances.get? row.instanceId = some row := by
  rw [Store.pending, List.mem_insertionSort, List.mem_filter] at h
  obtain ⟨⟨k, row'⟩, hitem, hrow⟩ := List.mem_map.mp h.1
  simp only at hrow
  subst hrow
  have hget := Dict.mem_items.mp hitem
  rw [hids k row' hget]
  exact hget

/-- Every action keeps the rows filed, and every tick reading from them. -/
theorem Filed.act (hfiled : Filed s) (h : ArenaPayout.act H lane s action = some (t, payment)) :
    Filed t := by
  have hkept := instancesKept_of_act h
  -- what a tick has read outlives the action
  have hread : ∀ row, (∃ current, s.store.instances.get? row.instanceId = some current ∧
      SameTerms row current) → ∃ current, t.store.instances.get? row.instanceId = some current ∧
        SameTerms row current := by
    rintro row ⟨current, hcurrent, howner, hround⟩
    obtain ⟨row', hrow', howner', hround'⟩ := hkept _ current hcurrent
    exact ⟨row', hrow', howner'.trans howner, hround'.trans hround⟩
  have holder : ∀ p (o o' : OpenTick), s.ticks p = some o' → o.remaining <:+ o'.remaining →
      ∀ row ∈ o.remaining, ∃ current, t.store.instances.get? row.instanceId = some current ∧
        SameTerms row current := fun p o o' ho' hsuffix row hrow =>
    hread row (hfiled.read p o' ho' row (hsuffix.subset hrow))
  rcases act_cases h with ⟨-, hstore, hticks⟩ | ⟨-, hticks, -, new, hfresh, -, hset⟩ |
    ⟨pay, -, hpaid, hticks⟩
  · refine ⟨by rw [hstore]; exact hfiled.ids, fun p o ho => ?_⟩
    rcases hticks p o ho with ⟨o', ho', -, hsuffix⟩ | hpending
    · exact holder p o o' ho' hsuffix
    · intro row hrow
      rw [hpending] at hrow
      exact hread row ⟨row, get?_of_pending hfiled.ids hrow, rfl, rfl⟩
  · refine ⟨fun k row hrow => ?_, fun p o ho => holder p o o (hticks ▸ ho) (List.suffix_refl _)⟩
    rw [hset, Dict.get?_set] at hrow
    split_ifs at hrow with hk
    · cases hrow
      exact hk
    · exact hfiled.ids k row hrow
  · obtain ⟨ranAt, hstore⟩ := hpaid.paid
    obtain ⟨row, hrow, -, hset, -⟩ := pay_eq_some hstore
    refine ⟨fun k row' hrow' => ?_, fun p o ho => ?_⟩
    · rw [hset, Dict.get?_set] at hrow'
      split_ifs at hrow' with hk
      · cases hrow'
        exact (hfiled.ids _ row hrow).trans hk
      · exact hfiled.ids k row' hrow'
    · obtain ⟨o', ho', -, hsuffix⟩ := hticks p o ho
      exact holder p o o' ho' hsuffix

/-- A payment of a tick whose base rounds down is justified. -/
theorem PaidBy.justified {pay : Payment} (hfiled : Filed s) (h : PaidBy H lane s t action pay)
    (hbase : RoundsDown pay.tick.base) (hkept : InstancesKept s t) :
    Justified H.toHost lane t.store pay := by
  obtain ⟨p, -, -, rest, -, hopened⟩ := h.opened
  obtain ⟨rowUuid, ranAt, hoffered⟩ := h.offered
  obtain ⟨-, htimedOut, ⟨c, hcloses, -⟩, ⟨championPar2, closerPar2, hprice⟩, hpositive, hrows⟩ :=
    settleInstance_offered hoffered
  obtain ⟨current, hcurrent, howner, hround⟩ :=
    hfiled.read p _ hopened pay.row List.mem_cons_self
  obtain ⟨row, hrow, howner', hround'⟩ := hkept _ current hcurrent
  obtain ⟨b, hb, hdown⟩ := hbase
  rw [hprice, hb] at hpositive
  obtain ⟨q, hq, hpos, hle⟩ := laneIPrice_le hdown hpositive
  refine ⟨⟨row, hrow, hround'.trans hround, fun r hr => ?_⟩, ⟨q, b, hb, hpos, hle, fun r hr => ?_⟩,
    htimedOut, c, hcloses⟩
  · rw [(hrows r hr).1, howner', howner]
  · rw [(hrows r hr).2, hprice, hb, hq]

end Steps

/-! ## Runs -/

section Runs

variable {H : PayoutHost} {lane : SolverArenaLane} {s t : State} {ls : List Event}

/-- What is true of the payments of a run, and of the last paid rounds that it leaves. -/
structure Settled (H : PayoutHost) (lane : SolverArenaLane) (s : State) (ls : List Event)
    (t : State) : Prop where
  filed : Filed t
  once : ((payments ls).map Payment.key).Nodup
  marked : ∀ pay ∈ payments ls, ∃ row, t.store.instances.get? pay.row.instanceId = some row ∧
    ∃ last ∈ row.lastPaidRound, pay.tick.currentRound ≤ last
  justified : ∀ pay ∈ payments ls, Justified H.toHost lane t.store pay
  emitted : ∀ k r, t.store.evalRuns.get? k = some r →
    s.store.evalRuns.get? k = some r ∨ ∃ pay ∈ payments ls, r ∈ pay.offer.rows

theorem payments_snoc (ls : List Event) (l : Event) :
    payments (ls ++ [l]) = payments ls ++ l.payment.toList := by
  cases h : l.payment with
  | none => simp [payments, h]
  | some pay => simp [payments, h]

theorem Justified.mono {pay : Payment} (h : Justified H.toHost lane s.store pay)
    (hkept : InstancesKept s t) : Justified H.toHost lane t.store pay := by
  obtain ⟨row, hrow, hround, hrows⟩ := h.owner
  obtain ⟨row', hrow', howner', hround'⟩ := hkept _ row hrow
  refine { h with owner := ⟨row', hrow', hround'.trans hround, fun r hr => ?_⟩ }
  rw [hrows r hr, howner']

/-- One orderly action keeps the account of the payments. -/
theorem Settled.step {u : State} {l : Event} (h : Settled H lane s ls t)
    (hl : ArenaPayout.step H lane t l u) (horderly : Orderly t l.action) :
    Settled H lane s (ls ++ [l]) u := by
  have hkept := instancesKept_of_act hl
  have hfiled := h.filed.act hl
  have hjustified : ∀ pay ∈ payments ls, Justified H.toHost lane u.store pay :=
    fun pay hpay => (h.justified pay hpay).mono hkept
  rcases act_cases hl with ⟨hnone, hstore, -⟩ | ⟨hnone, -, hruns, new, hfresh, -, hset⟩ |
    ⟨pay, hsome, hpaid, -⟩
  · have hsame : payments (ls ++ [l]) = payments ls := by simp [payments_snoc, hnone]
    refine ⟨hfiled, ?_, ?_, ?_, ?_⟩
    all_goals rw [hsame]
    · exact h.once
    · rw [hstore]
      exact h.marked
    · exact hjustified
    · rw [hstore]
      exact h.emitted
  · have hsame : payments (ls ++ [l]) = payments ls := by simp [payments_snoc, hnone]
    refine ⟨hfiled, ?_, ?_, ?_, ?_⟩
    all_goals rw [hsame]
    · exact h.once
    · intro pay hpay
      obtain ⟨row, hrow, hlast⟩ := h.marked pay hpay
      rw [hset]
      exact ⟨row, Dict.get?_set_of_none hfresh hrow, hlast⟩
    · exact hjustified
    · rw [hruns]
      exact h.emitted
  · obtain ⟨ranAt, hstore⟩ := hpaid.paid
    obtain ⟨row, hrow, hnew, hset, hruns⟩ := pay_eq_some hstore
    obtain ⟨p, rowUuid, ranAt', rest, haction, hopened⟩ := hpaid.opened
    have hpayments : payments (ls ++ [l]) = payments ls ++ [pay] := by
      simp [payments_snoc, hsome]
    -- the tick that pays is one that `Orderly` speaks of
    obtain ⟨hbase, hforward⟩ :
        RoundsDown pay.tick.base ∧ ∀ last ∈ row.lastPaidRound, last ≤ pay.tick.currentRound := by
      rw [haction] at horderly
      obtain ⟨hbase, hforward⟩ := horderly pay.tick pay.row rest hopened
      exact ⟨hbase, hforward row hrow⟩
    refine ⟨hfiled, ?_, ?_, ?_, ?_⟩
    all_goals rw [hpayments]
    · rw [List.map_append, List.map_singleton, List.nodup_append_comm, List.singleton_append,
        List.nodup_cons]
      refine ⟨fun hmem => ?_, h.once⟩
      obtain ⟨earlier, hearlier, hkey⟩ := List.mem_map.mp hmem
      obtain ⟨hid, hround⟩ := Prod.mk.inj hkey
      obtain ⟨row', hrow', last, hlast, hle⟩ := h.marked earlier hearlier
      rw [hid, hrow] at hrow'
      cases hrow'
      have hlastLe := hforward last hlast
      rw [hround] at hle
      -- then the last paid round is the one to be paid, which the transaction refuses
      have heq : last = pay.tick.currentRound := by omega
      exact hnew (heq ▸ hlast)
    · intro earlier hearlier
      rw [hset]
      rcases List.mem_append.mp hearlier with hold | hlast
      · obtain ⟨row', hrow', last, hlast, hle⟩ := h.marked earlier hold
        by_cases hid : pay.row.instanceId = earlier.row.instanceId
        · rw [← hid, hrow] at hrow'
          cases hrow'
          refine ⟨_, by rw [hid]; exact Dict.get?_set_self .., _, rfl, ?_⟩
          exact hle.trans (hforward last hlast)
        · exact ⟨row', by rw [Dict.get?_set_ne _ _ hid]; exact hrow', last, hlast, hle⟩
      · rw [List.mem_singleton] at hlast
        subst hlast
        exact ⟨_, Dict.get?_set_self .., _, rfl, le_refl _⟩
    · intro earlier hearlier
      rcases List.mem_append.mp hearlier with hold | hlast
      · exact hjustified earlier hold
      · rw [List.mem_singleton] at hlast
        subst hlast
        exact hpaid.justified h.filed hbase hkept
    · intro k r hr
      rw [hruns] at hr
      rcases get?_foldl_insertIgnore hr with hold | hrows
      · rcases h.emitted k r hold with hstart | ⟨earlier, hearlier, hrow⟩
        · exact Or.inl hstart
        · exact Or.inr ⟨earlier, List.mem_append_left _ hearlier, hrow⟩
      · exact Or.inr ⟨pay, List.mem_append_right _ List.mem_cons_self, hrows⟩

/-- The promise for a run: no instance is paid twice for one round, every payment is
justified, and no other row is emitted. -/
structure PayoutsHold (H : PayoutHost) (lane : SolverArenaLane) (s : State) (ls : List Event)
    (t : State) : Prop where
  once : ((payments ls).map Payment.key).Nodup
  justified : ∀ pay ∈ payments ls, Justified H.toHost lane t.store pay
  emitted : ∀ k r, t.store.evalRuns.get? k = some r →
    s.store.evalRuns.get? k = some r ∨ ∃ pay ∈ payments ls, r ∈ pay.offer.rows

/-- As long as no tick falls behind the last paid round of an instance that it settles, and
no base is raised by rounding, every payment is made once and for hardness that was proven. -/
theorem payouts_hold (hfiled : Filed s)
    (h : Run (fun s l t => step H lane s l t ∧ Orderly s l.action) s ls t) :
    PayoutsHold H lane s ls t := by
  have hsettled : Settled H lane s ls t := by
    refine Run.history (P := fun ls t => Settled H lane s ls t) ?_ ?_ h
    · exact ⟨hfiled, List.nodup_nil, by simp [payments], by simp [payments], fun _ _ => Or.inl⟩
    · exact fun ls t l u hsettled hl => hsettled.step hl.1 hl.2
  exact ⟨hsettled.once, hsettled.justified, hsettled.emitted⟩

/-- The actions of a list one after the other. -/
def actAll (H : PayoutHost) (lane : SolverArenaLane) (s : State) :
    List Action → Option (List Event × State)
  | [] => some ([], s)
  | action :: rest => do
    let (t, payment) ← act H lane s action
    let (ls, u) ← actAll H lane t rest
    some (⟨action, payment⟩ :: ls, u)

theorem run_actAll {actions : List Action} : ∀ {s t : State} {ls : List Event},
    actAll H lane s actions = some (ls, t) → Run (step H lane) s ls t := by
  induction actions with
  | nil =>
    intro s t ls h
    cases h
    exact Run.nil
  | cons action rest ih =>
    intro s t ls h
    obtain ⟨⟨m, payment⟩, hact, h⟩ := Option.bind_eq_some_iff.mp h
    obtain ⟨⟨ls', u⟩, hrest, h⟩ := Option.bind_eq_some_iff.mp h
    cases h
    have hfirst : step H lane s ⟨action, payment⟩ m := hact
    exact (Run.single_iff.mpr hfirst).append (ih hrest)

end Runs

/-! ## A process that is a round behind -/

/-- A host that accepts every proof. -/
def trustingHost : PayoutHost where
  tables := ⟨fun _ => none, fun p => [p]⟩
  haveDratTrim := true
  verifyDrat := fun _ _ => some (true, "")
  genPlanted3sat := fun _ _ _ => ""
  sha256Hex := fun _ => ""
  floatRepr := fun _ => ""

def slowAdapter : SolverAdapter := fun _ timeoutMs => some ⟨.timeout, [], [], ⟨timeoutMs, true⟩⟩

def fastAdapter : SolverAdapter :=
  fun _ _ => some ⟨.unsat, [], PyStr.ofString "0", ⟨1, false⟩⟩

def hardField : Field :=
  ⟨⟨[], [], PyStr.ofString "c", []⟩, slowAdapter,
    [⟨⟨[], [], PyStr.ofString "d", []⟩, fastAdapter, 1⟩]⟩

def hardInstance : ArenaInstance := ⟨"i", "owner", "p cnf", 4, "pending", "", none, none⟩

def sampleStart : State := ⟨⟨Dict.empty, Dict.empty⟩, fun _ => none⟩

theorem filed_sampleStart : Filed sampleStart where
  ids := fun k row h => by cases h
  read := fun p o h => by cases h

def settleAt (p : ℕ) (round : ℤ) (base : ℚ) (uuid : String) : List Action :=
  [.start p ⟨round, .finite base, 1, 1⟩, .settle p hardField uuid ""]

/-- Two processes settle round five, and between them a third settles round four. -/
def backwardActions : List Action :=
  .submit hardInstance :: settleAt 0 5 1 "u" ++ settleAt 1 4 1 "v" ++ settleAt 2 5 1 "w"

/-- One payment, with a base of less than a millionth. -/
def tinyBaseActions : List Action :=
  .submit hardInstance :: settleAt 0 0 (6 / 10 ^ 7) "u"

/-- A payment that was made twice for a round, and one above the base. -/
theorem backward_round_pays_twice :
    (∃ ls t, Run (step trustingHost (.fresh 1)) sampleStart ls t ∧
      (payments ls).map Payment.key = [("i", 5), ("i", 4), ("i", 5)] ∧
        ¬ PayoutsHold trustingHost (.fresh 1) sampleStart ls t) ∧
    ∃ ls t, Run (step trustingHost (.fresh 1)) sampleStart ls t ∧
      (payments ls).map (fun pay => (pay.tick.base, pay.offer.rows.map (·.weightedScore))) =
        [(.finite (6 / 10 ^ 7), [.finite (1 / 10 ^ 6), .finite (1 / 10 ^ 6)])] ∧
        ¬ PayoutsHold trustingHost (.fresh 1) sampleStart ls t := by
  constructor
  · have hkeys : (actAll trustingHost (.fresh 1) sampleStart backwardActions).map
        (fun r => (payments r.1).map Payment.key) = some [("i", 5), ("i", 4), ("i", 5)] := by
      decide +kernel
    obtain ⟨⟨ls, t⟩, hall, hpaid⟩ := Option.map_eq_some_iff.mp hkeys
    refine ⟨ls, t, run_actAll hall, hpaid, fun h => ?_⟩
    have honce := h.once
    dsimp only at hpaid
    rw [hpaid] at honce
    exact absurd honce (by decide)
  · have hprices : (actAll trustingHost (.fresh 1) sampleStart tinyBaseActions).map
        (fun r => (payments r.1).map fun pay =>
          (pay.tick.base, pay.offer.rows.map (·.weightedScore))) =
          some [(.finite (6 / 10 ^ 7), [.finite (1 / 10 ^ 6), .finite (1 / 10 ^ 6)])] := by
      decide +kernel
    obtain ⟨⟨ls, t⟩, hall, hpaid⟩ := Option.map_eq_some_iff.mp hprices
    refine ⟨ls, t, run_actAll hall, hpaid, fun h => ?_⟩
    obtain ⟨pay, hpay, heq⟩ := List.map_eq_singleton_iff.mp hpaid
    obtain ⟨hbase, hrows⟩ := Prod.mk.inj heq
    obtain ⟨q, b, hb, -, hle, hprice⟩ := (h.justified pay (by rw [hpay]; simp)).price
    obtain ⟨r, hr, hscore⟩ : ∃ r ∈ pay.offer.rows, r.weightedScore = .finite (1 / 10 ^ 6) :=
      List.mem_map.mp (hrows ▸ List.mem_cons_self)
    have hq : PyFloat.finite q = .finite (1 / 10 ^ 6) := (hprice r hr).symm.trans hscore
    have hb' : PyFloat.finite b = .finite (6 / 10 ^ 7) := hb.symm.trans hbase
    rw [PyFloat.finite.inj hq, PyFloat.finite.inj hb'] at hle
    norm_num at hle

def submittedState : State :=
  { sampleStart with store :=
    { sampleStart.store with instances := Dict.empty.set "i" hardInstance } }

def startedState : State :=
  submittedState.setTick 0 (some ⟨⟨5, .finite 1, 1, 1⟩, submittedState.store.pending⟩)

/-- A round settled once, at a base of one. -/
theorem payouts_hold_once :
    ∃ ls t, (payments ls).map Payment.key = [("i", 5)] ∧
      PayoutsHold trustingHost (.fresh 1) sampleStart ls t := by
  have hpaid : (act trustingHost (.fresh 1) startedState (.settle 0 hardField "u" "")).map
      (fun r => r.2.map Payment.key) = some (some ("i", 5)) := by decide +kernel
  obtain ⟨⟨t, payment⟩, hsettle, hpayment⟩ := Option.map_eq_some_iff.mp hpaid
  obtain ⟨pay, rfl, hkey⟩ := Option.map_eq_some_iff.mp hpayment
  have horderly : Orderly startedState (.settle 0 hardField "u" "") := by
    intro tick row rest hopen
    simp only [startedState, State.setTick, Function.update_self, Option.some.injEq,
      OpenTick.mk.injEq] at hopen
    obtain ⟨rfl, -⟩ := hopen
    refine ⟨⟨1, rfl, by decide +kernel⟩, fun current hcurrent last hlast => ?_⟩
    -- the only instance was never paid
    have hnew : (Dict.empty.set "i" hardInstance).get? row.instanceId = some current := hcurrent
    rw [Dict.get?_set] at hnew
    split_ifs at hnew
    · cases hnew
      cases hlast
    · cases hnew
  refine ⟨[⟨.submit hardInstance, none⟩, ⟨.start 0 ⟨5, .finite 1, 1, 1⟩, none⟩,
    ⟨.settle 0 hardField "u" "", some pay⟩], t, by simpa [payments] using hkey,
    payouts_hold filed_sampleStart ?_⟩
  exact ((Run.nil.snoc ⟨rfl, trivial⟩).snoc (t := submittedState) (u := startedState)
    ⟨rfl, trivial⟩).snoc ⟨hsettle, horderly⟩

end Cathedral.Publisher.ArenaPayout
