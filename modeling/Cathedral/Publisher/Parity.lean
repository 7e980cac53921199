import Cathedral.Publisher.SubmitPaths

/-!
# Cathedral.Publisher.Parity — the two submit paths compared

One request, handled alone, by the synchronous path and by durable admission
followed by one worker tick. `ledger` is what the two runs are compared on: every
table but the receipts, without generated ids and timestamps.

A request with a new idempotency key gets the same verdict on both paths, and a
solution that passes the checks leaves the same ledger. A known key is answered
with the receipt it has, and backpressure sheds a request before it is admitted.
-/

namespace Cathedral.Publisher

/-! ## What is compared -/

/-- The tables without generated ids, timestamps and receipts. -/
structure Ledger where
  burned : List String
  challenges : List (String × LaneChallenge)
  solves : List (String × String)
  perMinerSolves : List ((String × String) × PerMinerSolve)
  submissions : List AgentSubmission
  witnesses : List ((String × String) × PerMinerWitness)
  feed : List EvalRun

def LaneChallenge.timeless (chal : LaneChallenge) : LaneChallenge := { chal with updatedAt := none }

def PerMinerSolve.timeless (solve : PerMinerSolve) : PerMinerSolve := { solve with solvedAt := 0 }

def PerMinerWitness.timeless (witness : PerMinerWitness) : PerMinerWitness :=
  { witness with recordedAt := 0 }

def EvalRun.timeless (run : EvalRun) : EvalRun := { run with ranAt := 0, agentId := "" }

/-- The comparable part of a store. -/
def ledger (s : Store) : Ledger where
  burned := s.submitSignatures.keys
  challenges := s.laneChallenges.items.map fun row => (row.1, row.2.timeless)
  solves := s.laneChallengeSolves.keys
  perMinerSolves := s.perMinerSolves.items.map fun row => (row.1, row.2.timeless)
  submissions := s.agentSubmissions.values
  witnesses := s.perMinerWitnesses.items.map fun row => (row.1, row.2.timeless)
  feed := s.evalRuns.values.map EvalRun.timeless

/-- Receipts are not compared. -/
@[simp] theorem ledger_attempts (s : Store) (t : Attempts) :
    ledger { s with attempts := t } = ledger s := rfl

/-- Same verdict and reason, same ledger. -/
def Agree (sync async : Store × Outcome) : Prop :=
  sync.2 = async.2 ∧ ledger sync.1 = ledger async.1

/-! ## Handled alone -/

/-- The ids a request generates on either path are new. -/
structure FreshIds (s : Store) (ids : RowIds) (subId : String) : Prop where
  attempt : s.attempts.get? subId = none
  submission : s.agentSubmissions.get? subId = none
  run : s.evalRuns.get? ids.rowUuid = none
  compat : s.evalRuns.get? (compatId ids.rowUuid) = none

/-- Nothing else is claimable while the request is handled, and no shadow row
sits on its key. -/
structure Alone (s : Store) (tick : Tick) (key : String) : Prop where
  quiet : ∀ other a, s.attempts.get? other = some a → a.claimable tick.now = false
  noShadow : ∀ other a, s.attempts.get? other = some a → a.idempotencyKey = some key →
    a.live = true
  batch : 0 < tick.batchSize

/-- An admission of `adm` is shed in `s`. -/
def Shed (limits : Option QueueBackpressure) (s : Store) (adm : Admission) : Prop :=
  (limits.bind fun l => queueBackpressureDecision l adm.receivedAt s.attempts) ≠ none

/-- The row an admission leaves. -/
def admittedRow (settings : Settings) (adm : Admission) : Attempt :=
  { pendingRow adm (challengeKind adm.challengeId) none adm.receivedAt with
    idempotencyKey := some (adm.key settings) }

/-- The row as the tick's claim returns it. -/
def tickRow (settings : Settings) (adm : Admission) (tick : Tick) : Attempt :=
  claimedRow settings tick.workerId tick.now tick.lockDeadline (admittedRow settings adm)

section Alone

variable {settings : Settings} {checks : Checks} {limits : Option QueueBackpressure}
variable {receiptId : String} {adm : Admission} {tick : Tick} {s : Store}

theorem modifyAll_nil (t : Attempts) (f : Attempt → Attempt) : t.modifyAll [] f = t := rfl

/-- Without claimable rows a claim does nothing. -/
theorem claimPending_quiet (settings : Settings) (h : ∀ other a, s.attempts.get? other = some a →
    a.claimable tick.now = false) :
    claimPending settings s.attempts tick.workerId tick.now tick.lockDeadline tick.batchSize =
      (s.attempts, []) := by
  have hnone : (s.attempts.items.filter fun row => row.2.claimable tick.now) = [] := by
    rw [List.filter_eq_nil_iff]
    intro row hrow
    simp [h row.1 row.2 (Dict.mem_items.mp hrow)]
  simp [claimPending, claimSelection, hnone, modifyAll_nil]

/-- A known key answers with its receipt, and the tick finds nothing to do. -/
theorem submitAsync_known (halone : Alone s tick (adm.key settings)) {row : String × Attempt}
    (h : fetchByIdem s.attempts (adm.key settings) = some row) :
    submitAsync settings checks limits receiptId adm tick s = (s, receiptOutcome s row.1) := by
  have hadm : admitPending limits s.attempts receiptId (adm.key settings) adm =
      (s.attempts, .replayed row) := by rw [admitPending, h]
  have hclaim := claimPending_quiet settings halone.quiet
  simp [submitAsync, hadm, asyncVerifyTick, hclaim, finalizeAll, AdmitOutcome.receiptId]

theorem submitAsync_shed (h : fetchByIdem s.attempts (adm.key settings) = none)
    (hshed : Shed limits s adm) :
    submitAsync settings checks limits receiptId adm tick s = (s, .shed) := by
  obtain ⟨pressure, hpressure⟩ := Option.ne_none_iff_exists'.mp hshed
  have hadm : admitPending limits s.attempts receiptId (adm.key settings) adm =
      (s.attempts, .backpressure pressure) := by
    rw [admitPending, h]
    simp only [hpressure]
  simp [submitAsync, hadm]

/-- The table after the admission and the claim. -/
def claimedTable (settings : Settings) (receiptId : String) (adm : Admission) (tick : Tick)
    (t : Attempts) : Attempts :=
  (t.set receiptId (admittedRow settings adm)).modify receiptId
    (claimedRow settings tick.workerId tick.now tick.lockDeadline)

/-- The tick's claim takes the admitted row and nothing else. -/
theorem claimPending_admitted (halone : Alone s tick (adm.key settings))
    (hfresh : s.attempts.get? receiptId = none) :
    claimPending settings (s.attempts.set receiptId (admittedRow settings adm)) tick.workerId
        tick.now tick.lockDeadline tick.batchSize =
      (claimedTable settings receiptId adm tick s.attempts,
        [(receiptId, tickRow settings adm tick)]) := by
  have hothers : (s.attempts.items.filter fun row => row.2.claimable tick.now) = [] := by
    rw [List.filter_eq_nil_iff]
    intro row hrow
    simp [halone.quiet row.1 row.2 (Dict.mem_items.mp hrow)]
  have hrow : (admittedRow settings adm).claimable tick.now = true := rfl
  have hselection : claimSelection (s.attempts.set receiptId (admittedRow settings adm)) tick.now
      tick.batchSize = [(receiptId, admittedRow settings adm)] := by
    rw [claimSelection, Dict.items_set_of_none _ hfresh, List.filter_append, hothers]
    simp only [hrow, List.filter_cons_of_pos, List.filter_nil, List.nil_append,
      List.insertionSort_cons, List.insertionSort_nil, List.orderedInsert_nil]
    have hlength : [(receiptId, admittedRow settings adm)].length ≤ tick.batchSize := halone.batch
    exact List.take_of_length_le hlength
  rw [claimPending, hselection]
  rfl

theorem submitAsync_new (halone : Alone s tick (adm.key settings))
    (hfresh : s.attempts.get? receiptId = none)
    (hkey : fetchByIdem s.attempts (adm.key settings) = none) (hshed : ¬ Shed limits s adm) :
    submitAsync settings checks limits receiptId adm tick s =
      match finalizeClaimed settings checks (tick.ids receiptId) tick.now receiptId
          (tickRow settings adm tick)
          { s with attempts := claimedTable settings receiptId adm tick s.attempts } with
      | none =>
        ({ s with attempts := claimedTable settings receiptId adm tick s.attempts }, .raised)
      | some s' => (s', receiptOutcome s' receiptId) := by
  have hinsert : insertAttemptIgnore s.attempts receiptId (adm.key settings)
      (pendingRow adm (challengeKind adm.challengeId) none adm.receivedAt) =
        (s.attempts.set receiptId (admittedRow settings adm), true) := by
    rcases insertAttemptIgnore_cases s.attempts receiptId (adm.key settings)
      (pendingRow adm (challengeKind adm.challengeId) none adm.receivedAt) with
      ⟨htaken, -⟩ | ⟨-, -, heq⟩
    · rcases htaken with htaken | ⟨other, a, hget, hrow⟩
      · exact absurd hfresh htaken
      · exact absurd ⟨hrow, halone.noShadow other a hget hrow⟩ (fetchByIdem_eq_none hkey hget)
    · exact heq
  have hadm : admitPending limits s.attempts receiptId (adm.key settings) adm =
      (s.attempts.set receiptId (admittedRow settings adm),
        .created (some (receiptId, admittedRow settings adm))) := by
    rw [admitPending, hkey]
    simp only [not_not.mp hshed, admitRow, hinsert, fetchById, Dict.get?_set_self, Option.map_some]
  rw [submitAsync, hadm]
  simp only [asyncVerifyTick, claimPending_admitted halone hfresh, finalizeAll,
    AdmitOutcome.receiptId, Option.map_some, Option.getD_some]
  cases finalizeClaimed settings checks (tick.ids receiptId) tick.now receiptId
    (tickRow settings adm tick)
    { s with attempts := claimedTable settings receiptId adm tick s.attempts } <;> rfl

theorem get?_claimedTable (settings : Settings) (receiptId : String) (adm : Admission)
    (tick : Tick) (t : Attempts) :
    (claimedTable settings receiptId adm tick t).get? receiptId =
      some (tickRow settings adm tick) := by
  rw [claimedTable, Dict.get?_modify_self, Dict.get?_set_self, Option.map_some]
  rfl

end Alone

/-! ## Accept transactions by their conditions -/

section Accepts

variable {settings : Settings} {ids : RowIds} {subId : String} {now solvedAt : Millis}
variable {solve : SignedSolve} {chal : LaneChallenge} {inst : PmInstance} {assignment : List ℤ}
variable {s : Store}

/-- The store after a ranked public solve, up to the receipts. -/
def publicRanked (settings : Settings) (ids : RowIds) (subId : String) (now solvedAt : Millis)
    (solve : SignedSolve) (chal : LaneChallenge) (assignment : List ℤ) (s : Store) : Store :=
  { s with
    submitSignatures := s.submitSignatures.set solve.signature now
    laneChallenges := s.laneChallenges.modify solve.challengeId (slotChallenge settings now)
    laneChallengeSolves := (s.laneChallengeSolves.insertIgnore solve.pair solvedAt).1
    agentSubmissions := s.agentSubmissions.set subId
      (rankedSubmission solve (publicScore settings chal) (slotRank s solve.pair))
    evalRuns := insertRows s.evalRuns (publicRows settings ids solve chal assignment
      (publicScore settings chal) solvedAt (slotRank s solve.pair)) }

/-- The store after a ranked per-miner solve, up to the receipts. -/
def pmRanked (settings : Settings) (ids : RowIds) (subId : String) (now solvedAt : Millis)
    (solve : SignedSolve) (inst : PmInstance) (assignment : List ℤ) (s : Store) : Store :=
  { s with
    submitSignatures := s.submitSignatures.set solve.signature now
    perMinerSolves := s.perMinerSolves.set solve.pair (pmSolve settings inst solvedAt)
    agentSubmissions := s.agentSubmissions.set subId
      (rankedSubmission solve (settings.weightFor inst.tier) 1)
    perMinerWitnesses := s.perMinerWitnesses.set solve.pair
      (pmWitness settings solve inst assignment now)
    evalRuns := insertRows s.evalRuns (pmRows settings ids solve inst assignment solvedAt) }

/-- A burned signature is refused and nothing is written. -/
theorem acceptPublic_burned (solve : SignedSolve) (finish : ℕ → ℚ → Attempts → Attempts)
    (hburned : s.submitSignatures.get? solve.signature ≠ none) :
    acceptPublic settings ids subId now solvedAt solve chal assignment finish s =
      some (s, .error .replayedSignature) := by
  have hcase : PublicAccept settings ids subId now solvedAt solve chal assignment finish s _ :=
    acceptPublic_cases finish
  generalize acceptPublic settings ids subId now solvedAt solve chal assignment finish s = r
    at hcase ⊢
  cases hcase with
  | replayed => rfl
  | closed hfree | solved hfree | raised hfree | ranked hfree => exact absurd hfree hburned

/-- On an active challenge a new signature is either too late for its pair or
ranked. -/
theorem acceptPublic_new (finish : ℕ → ℚ → Attempts → Attempts)
    (hfree : s.submitSignatures.get? solve.signature = none)
    (hactive : ActiveChallenge s solve.challengeId)
    (hsub : s.agentSubmissions.get? subId = none) :
    acceptPublic settings ids subId now solvedAt solve chal assignment finish s =
      if settings.lockWins = true ∨ s.laneChallengeSolves.get? solve.pair = none then
        some ({ publicRanked settings ids subId now solvedAt solve chal assignment s with
            attempts := finish (slotRank s solve.pair) (publicScore settings chal) s.attempts },
          .ok (slotRank s solve.pair, publicScore settings chal))
      else
        some ({ s with
            submitSignatures := s.submitSignatures.set solve.signature now
            laneChallenges := s.laneChallenges.modify solve.challengeId
              (slotChallenge settings now) },
          .error .alreadySolved) := by
  have hcase : PublicAccept settings ids subId now solvedAt solve chal assignment finish s _ :=
    acceptPublic_cases finish
  generalize acceptPublic settings ids subId now solvedAt solve chal assignment finish s = r
    at hcase ⊢
  cases hcase with
  | replayed hburned => exact absurd hfree hburned
  | closed _ hclosed => exact absurd hactive hclosed
  | solved _ _ hmode htaken =>
    have hlate : ¬ (settings.lockWins = true ∨ s.laneChallengeSolves.get? solve.pair = none) :=
      not_or.mpr ⟨by simp [hmode], htaken⟩
    rw [if_neg hlate]
  | raised _ htaken => exact absurd hsub htaken
  | ranked _ _ hopen _ => rw [if_pos hopen]; rfl

theorem acceptPm_burned (solve : SignedSolve) (receipt : ℚ → Attempts → Option Attempts)
    (hburned : s.submitSignatures.get? solve.signature ≠ none) :
    acceptPm settings ids subId now solvedAt solve inst assignment receipt s =
      some (s, .error .replayedSignature) := by
  have hcase : PmAccept settings ids subId now solvedAt solve inst assignment receipt s _ :=
    acceptPm_cases receipt
  generalize acceptPm settings ids subId now solvedAt solve inst assignment receipt s = r
    at hcase ⊢
  cases hcase with
  | replayed => rfl
  | solved hfree | raised hfree | ranked hfree => exact absurd hfree hburned

theorem acceptPm_solved (receipt : ℚ → Attempts → Option Attempts)
    (hfree : s.submitSignatures.get? solve.signature = none)
    (htaken : s.perMinerSolves.get? solve.pair ≠ none) :
    acceptPm settings ids subId now solvedAt solve inst assignment receipt s =
      some ({ s with submitSignatures := s.submitSignatures.set solve.signature now },
        .error .alreadySolved) := by
  have hcase : PmAccept settings ids subId now solvedAt solve inst assignment receipt s _ :=
    acceptPm_cases receipt
  generalize acceptPm settings ids subId now solvedAt solve inst assignment receipt s = r
    at hcase ⊢
  cases hcase with
  | replayed hburned => exact absurd hfree hburned
  | solved => rfl
  | raised _ hnew | ranked _ hnew => exact absurd hnew htaken

/-- A new solve of an instance is ranked unless the pair has a witness row, which
makes the insert raise. -/
theorem acceptPm_new {receipt : ℚ → Attempts → Option Attempts} {attempts : Attempts}
    (hfree : s.submitSignatures.get? solve.signature = none)
    (hnew : s.perMinerSolves.get? solve.pair = none)
    (hsub : s.agentSubmissions.get? subId = none)
    (hreceipt : receipt (settings.weightFor inst.tier) s.attempts = some attempts) :
    acceptPm settings ids subId now solvedAt solve inst assignment receipt s =
      if s.perMinerWitnesses.get? solve.pair = none then
        some ({ pmRanked settings ids subId now solvedAt solve inst assignment s with
            attempts := attempts },
          .ok (settings.weightFor inst.tier))
      else none := by
  have hcase : PmAccept settings ids subId now solvedAt solve inst assignment receipt s _ :=
    acceptPm_cases receipt
  generalize acceptPm settings ids subId now solvedAt solve inst assignment receipt s = r
    at hcase ⊢
  cases hcase with
  | replayed hburned => exact absurd hfree hburned
  | solved _ htaken => exact absurd hnew htaken
  | raised _ _ htaken =>
    rcases htaken with hsubtaken | hrefused | hwitness
    · exact absurd hsub hsubtaken
    · simp [hreceipt] at hrefused
    · rw [if_neg hwitness]
  | ranked _ _ _ hreceipt' hwitness =>
    rw [hreceipt, Option.some.injEq] at hreceipt'
    subst hreceipt'
    rw [if_pos hwitness]
    rfl

end Accepts

/-! ## The ledger after a ranked solve -/

section Ranked

variable {settings : Settings} {solve : SignedSolve} {chal : LaneChallenge} {inst : PmInstance}
variable {assignment : List ℤ} {s : Store}

theorem compatId_ne (rowUuid : String) : compatId rowUuid ≠ rowUuid := by
  intro h
  have hlength := congrArg String.length h
  rw [compatId, String.length_append] at hlength
  have : "-v5compat".length = 9 := rfl
  omega

/-- With fresh ids the feed gains the two rows. -/
theorem values_insertRows {runs : Dict String EvalRun} {rowUuid : String} {v6 v5 : EvalRun}
    (hrun : runs.get? rowUuid = none) (hcompat : runs.get? (compatId rowUuid) = none) :
    (insertRows runs [(rowUuid, v6), (compatId rowUuid, v5)]).values = runs.values ++ [v6, v5] := by
  have hcompat' : (runs.set rowUuid v6).get? (compatId rowUuid) = none := by
    rw [Dict.get?_set_ne _ _ (compatId_ne rowUuid).symm, hcompat]
  simp [insertRows, Dict.insertIgnore_of_none hrun, Dict.insertIgnore_of_none hcompat',
    Dict.values_set_of_none _ hcompat', Dict.values_set_of_none _ hrun]

/-- The keys of a table after an ignored or a real insert. -/
theorem keys_insertIgnore {K V : Type} [DecidableEq K] (d : Dict K V) (k : K) (v w : V) :
    (d.insertIgnore k v).1.keys = (d.insertIgnore k w).1.keys := by
  rcases Dict.insertIgnore_cases d k v with ⟨old, hold, heq⟩ | ⟨hnone, heq⟩
  · rw [heq, Dict.insertIgnore_of_some hold]
  · rw [heq, Dict.insertIgnore_of_none hnone, Dict.keys_set_of_none _ hnone,
      Dict.keys_set_of_none _ hnone]

/-- The challenge rows after a slot is taken, up to its time. -/
theorem timeless_slotChallenge (d : Dict String LaneChallenge) (cid : String)
    (now now' : Millis) :
    ((d.modify cid (slotChallenge settings now)).items.map fun row => (row.1, row.2.timeless)) =
      (d.modify cid (slotChallenge settings now')).items.map
        fun row => (row.1, row.2.timeless) := by
  rw [Dict.items_modify, Dict.items_modify, List.map_map, List.map_map]
  refine List.map_congr_left fun row _ => ?_
  by_cases hrow : row.1 = cid
  · simp only [Function.comp_apply, if_pos hrow, slotChallenge, LaneChallenge.timeless]
    split <;> rfl
  · simp only [Function.comp_apply, if_neg hrow]

/-- Ids and times do not show in the ledger of a ranked public solve. -/
theorem ledger_publicRanked {ids ids' : RowIds} {subId subId' : String} (now now' at1 at2 : Millis)
    (hfree : s.submitSignatures.get? solve.signature = none)
    (h : FreshIds s ids subId) (h' : FreshIds s ids' subId') :
    ledger (publicRanked settings ids subId now at1 solve chal assignment s) =
      ledger (publicRanked settings ids' subId' now' at2 solve chal assignment s) := by
  simp only [ledger, publicRanked, publicRows, buildSolveRows, Ledger.mk.injEq]
  refine ⟨?_, timeless_slotChallenge _ _ _ _, keys_insertIgnore _ _ _ _, trivial, ?_, trivial, ?_⟩
  · rw [Dict.keys_set_of_none _ hfree, Dict.keys_set_of_none _ hfree]
  · rw [Dict.values_set_of_none _ h.submission, Dict.values_set_of_none _ h'.submission]
  · rw [values_insertRows h.run h.compat, values_insertRows h'.run h'.compat, List.map_append,
      List.map_append]
    rfl

/-- Ids and times do not show in the ledger of a ranked per-miner solve. -/
theorem ledger_pmRanked {ids ids' : RowIds} {subId subId' : String} (now now' at1 at2 : Millis)
    (hfree : s.submitSignatures.get? solve.signature = none)
    (hnew : s.perMinerSolves.get? solve.pair = none)
    (hwitness : s.perMinerWitnesses.get? solve.pair = none)
    (h : FreshIds s ids subId) (h' : FreshIds s ids' subId') :
    ledger (pmRanked settings ids subId now at1 solve inst assignment s) =
      ledger (pmRanked settings ids' subId' now' at2 solve inst assignment s) := by
  simp only [ledger, pmRanked, pmRows, buildSolveRows, Ledger.mk.injEq]
  refine ⟨?_, trivial, trivial, ?_, ?_, ?_, ?_⟩
  · rw [Dict.keys_set_of_none _ hfree, Dict.keys_set_of_none _ hfree]
  · rw [Dict.items_set_of_none _ hnew, Dict.items_set_of_none _ hnew, List.map_append,
      List.map_append]
    rfl
  · rw [Dict.values_set_of_none _ h.submission, Dict.values_set_of_none _ h'.submission]
  · rw [Dict.items_set_of_none _ hwitness, Dict.items_set_of_none _ hwitness, List.map_append,
      List.map_append]
    rfl
  · rw [values_insertRows h.run h.compat, values_insertRows h'.run h'.compat, List.map_append,
      List.map_append]
    rfl

end Ranked

/-! ## The two paths on a lane -/

/-- The lane of a request; on the per-miner lane with the miner's assignment
identity and the challenge's epoch. -/
inductive Lane where
  | publicLane
  | perMinerLane (identity : String) (epoch : ℤ)

namespace Lane

/-- The synchronous path. -/
def submitSync (settings : Settings) (checks : Checks) (ids : RowIds) (subId : String)
    (now : Millis) (req : Request) (s : Store) : Lane → Store × Outcome
  | .publicLane => submitPublicSync settings checks ids subId now req s
  | .perMinerLane identity epoch => submitPmSync settings checks ids subId now req identity epoch s

/-- What the asynchronous path admits. -/
def admission (settings : Settings) (req : Request) : Lane → Admission
  | .publicLane => publicAdmission settings req
  | .perMinerLane identity epoch => pmAdmission settings req identity epoch

/-- The challenge is an active public one, or one of the miner's own. -/
def Open (checks : Checks) (req : Request) (s : Store) : Lane → Prop
  | .publicLane =>
    challengeKind req.challengeId = .kindPublic ∧ ActiveChallenge s req.challengeId
  | .perMinerLane identity epoch =>
    challengeKind req.challengeId = .kindPerMiner ∧ identity ≠ "" ∧
      checks.resolveTierSeqFor identity epoch req.challengeId ≠ none

/-- Why the checks refuse the solution, if they do. -/
def refusal (checks : Checks) (req : Request) (s : Store) : Lane → Option String
  | .publicLane =>
    match s.laneChallenges.get? req.challengeId with
    | none => none
    | some chal =>
      match checks.verifyDimacsSolution chal.cnfText req.dimacsSolution with
      | some (.error fault) => some fault.reason
      | _ => none
  | .perMinerLane identity epoch =>
    match pmResolveAndVerify checks identity epoch req.challengeId req.dimacsSolution with
    | some (.error reason) => some reason
    | _ => none

end Lane

/-- The ledger without burned signatures and submission rows. -/
def Ledger.credit (l : Ledger) : Ledger := { l with burned := [], submissions := [] }

/-- The outcome ranks nothing. -/
def Outcome.Unranked (o : Outcome) : Prop := ∀ rank score, o ≠ .decided (.ranked rank score)

/-- What the two paths make of an admitted request. -/
structure Admitted (refused burned : Prop) (s : Store) (sync async : Store × Outcome) : Prop where
  passing : ¬ refused → Agree sync async
  unburned : ¬ burned → sync.2 = async.2 ∧ (ledger sync.1).credit = (ledger async.1).credit
  burned : burned → ledger async.1 = ledger s ∧ async.2.Unranked

section Lanes

variable {settings : Settings} {checks : Checks} {limits : Option QueueBackpressure}
variable {ids : RowIds} {subId receiptId : String} {now : Millis} {req : Request} {tick : Tick}
variable {s : Store}

theorem unranked_refused (reason : String) : (Outcome.decided (.refused reason)).Unranked := by
  intro rank score h
  cases h

theorem unranked_raised : Outcome.raised.Unranked := by
  intro rank score h
  cases h

/-- The receipt after a refusal. -/
theorem receiptOutcome_rejectAttempt {a : Attempt} (h : s.attempts.get? receiptId = some a)
    (reason : String) :
    receiptOutcome (rejectAttempt receiptId reason now s) receiptId =
      .decided (.refused reason) := by
  simp [receiptOutcome, rejectAttempt, markRejected, h, rejectedRow]

/-- The receipt after a ranked solve. -/
theorem receiptOutcome_markRanked {a : Attempt} {t : Attempts} {rank : ℕ} {score : ℚ}
    (h : t.get? receiptId = some a)
    (hs : s.attempts = markRanked t receiptId ids.rowUuid now rank score) :
    receiptOutcome s receiptId = .decided (.ranked rank score) := by
  simp [receiptOutcome, hs, markRanked, h, rankedRow]

/-! ### A burned signature on the synchronous path -/

theorem rejectSync_burned (solve : SignedSolve) (subId reason : String) (now : Millis)
    (receipt : Attempts → Option Attempts)
    (hburned : s.submitSignatures.get? solve.signature ≠ none) :
    rejectSync subId reason now solve receipt s =
      (s, .decided (.refused AcceptError.replayedSignature.reason)) := by
  obtain ⟨seen, hseen⟩ := Option.ne_none_iff_exists'.mp hburned
  simp [rejectSync, burnSignature, Dict.insertIgnore_of_some hseen]

theorem submitPublicSync_burned (hburned : s.submitSignatures.get? req.signature ≠ none) :
    (submitPublicSync settings checks ids subId now req s).1 = s ∧
      (submitPublicSync settings checks ids subId now req s).2.Unranked := by
  unfold submitPublicSync
  cases s.laneChallenges.get? req.challengeId with
  | none => exact ⟨rfl, unranked_refused _⟩
  | some chal =>
    by_cases hactive : chal.status ≠ .active
    · simp only [if_pos hactive]
      exact ⟨trivial, unranked_refused _⟩
    · simp only [if_neg hactive]
      rcases checks.verifyDimacsSolution chal.cnfText req.dimacsSolution with
        _ | fault | assignment
      · exact ⟨rfl, unranked_raised⟩
      · simp only [rejectSync_burned (req.solve settings) _ _ _ _ hburned]
        exact ⟨trivial, unranked_refused _⟩
      · simp only [acceptPublicSync,
          acceptPublic_burned (req.solve settings) _ hburned]
        exact ⟨rfl, unranked_refused _⟩

theorem submitPmSync_burned {identity : String} {epoch : ℤ}
    (hburned : s.submitSignatures.get? req.signature ≠ none) :
    (submitPmSync settings checks ids subId now req identity epoch s).1 = s ∧
      (submitPmSync settings checks ids subId now req identity epoch s).2.Unranked := by
  unfold submitPmSync
  rcases pmResolveAndVerify checks identity epoch req.challengeId req.dimacsSolution with
    _ | reason | ⟨inst, assignment⟩
  · exact ⟨rfl, unranked_raised⟩
  · simp only [rejectSync_burned (req.solve settings) _ _ _ _ hburned]
    exact ⟨trivial, unranked_refused _⟩
  · simp only [acceptPmSync, acceptPm_burned (req.solve settings) _ hburned]
    exact ⟨rfl, unranked_refused _⟩

/-! ### An admitted request on the public lane -/

/-- The tick's finaliser on an admitted public request. -/
theorem finalizeClaimed_public {ids : RowIds} {chal : LaneChallenge}
    (hkind : challengeKind req.challengeId = .kindPublic)
    (hget : s.laneChallenges.get? req.challengeId = some chal) (hactive : chal.status = .active) :
    finalizeClaimed settings checks ids now receiptId
        (tickRow settings (publicAdmission settings req) tick) s =
      match checks.verifyDimacsSolution chal.cnfText req.dimacsSolution with
      | none => none
      | some (.error fault) => some (rejectAttempt receiptId fault.reason now s)
      | some (.ok assignment) =>
        finishAttempt receiptId now
          (acceptPublic settings ids receiptId now req.receivedAt (req.solve settings) chal
            assignment (fun rank score t => markRanked t receiptId ids.rowUuid now rank score)
            s) := by
  have hrow : (tickRow settings (publicAdmission settings req) tick).challengeKind =
      some .kindPublic := by
    rw [← hkind]
    rfl
  have hchallenge : (tickRow settings (publicAdmission settings req) tick).challengeId =
      req.challengeId := rfl
  have hbody : (tickRow settings (publicAdmission settings req) tick).solutionBody =
      some req.dimacsSolution := rfl
  have hretired : chal.status ≠ .retired := by simp [hactive]
  simp only [finalizeClaimed, hrow, finalizeAttempt, hbody, hchallenge, hget, if_neg hretired]
  rfl

/-- The answer after the finaliser of an admitted request. -/
def finalized (receiptId : String) (s : Store) : Option Store → Store × Outcome
  | none => (s, .raised)
  | some s' => (s', receiptOutcome s' receiptId)

/-- The store after the admission and the claim. -/
def claimedStore (settings : Settings) (receiptId : String) (adm : Admission) (tick : Tick)
    (s : Store) : Store :=
  { s with attempts := claimedTable settings receiptId adm tick s.attempts }

theorem get?_claimedStore (adm : Admission) :
    (claimedStore settings receiptId adm tick s).attempts.get? receiptId =
      some (tickRow settings adm tick) :=
  get?_claimedTable settings receiptId adm tick s.attempts

@[simp] theorem ledger_claimedStore (adm : Admission) :
    ledger (claimedStore settings receiptId adm tick s) = ledger s := rfl

@[simp] theorem ledger_rejectAttempt (reason : String) :
    ledger (rejectAttempt receiptId reason now s) = ledger s := rfl

/-- A refusal closes the receipt with its reason. -/
theorem finalized_rejectAttempt (settings : Settings) (adm : Admission) (reason : String)
    (s' : Store)
    (hattempts : s'.attempts = (claimedStore settings receiptId adm tick s).attempts) :
    finalized receiptId (claimedStore settings receiptId adm tick s)
        (some (rejectAttempt receiptId reason now s')) =
      (rejectAttempt receiptId reason now s', .decided (.refused reason)) := by
  have hget : s'.attempts.get? receiptId = some (tickRow settings adm tick) := by
    rw [hattempts, get?_claimedStore]
  rw [finalized, receiptOutcome_rejectAttempt hget]

theorem submitAsync_admitted {adm : Admission} (halone : Alone s tick (adm.key settings))
    (hfresh : s.attempts.get? receiptId = none)
    (hkey : fetchByIdem s.attempts (adm.key settings) = none) (hshed : ¬ Shed limits s adm) :
    submitAsync settings checks limits receiptId adm tick s =
      finalized receiptId (claimedStore settings receiptId adm tick s)
        (finalizeClaimed settings checks (tick.ids receiptId) tick.now receiptId
          (tickRow settings adm tick) (claimedStore settings receiptId adm tick s)) :=
  submitAsync_new halone hfresh hkey hshed

/-- A new signature on an active challenge: ranked on both paths, or on both too
late for its pair. -/
theorem public_accept_agree (settings : Settings) (solve : SignedSolve) (chal : LaneChallenge)
    (assignment : List ℤ) (now now' solvedAt : Millis) {ids' : RowIds} {t : Attempts} {a : Attempt}
    (hfree : s.submitSignatures.get? solve.signature = none)
    (hactive : ActiveChallenge s solve.challengeId)
    (hsync : FreshIds s ids subId) (hasync : FreshIds s ids' receiptId)
    (hrow : t.get? receiptId = some a) :
    Agree
      (acceptOutcome s Prod.fst Prod.snd (acceptPublic settings ids subId now now solve chal
        assignment (fun _ _ t => t) s))
      (finalized receiptId { s with attempts := t } (finishAttempt receiptId now'
        (acceptPublic settings ids' receiptId now' solvedAt solve chal assignment
          (fun rank score t => markRanked t receiptId ids'.rowUuid now' rank score)
          { s with attempts := t }))) := by
  rw [acceptPublic_new _ hfree hactive hsync.submission,
    acceptPublic_new (s := { s with attempts := t }) _ hfree hactive hasync.submission]
  by_cases hnew : settings.lockWins = true ∨ s.laneChallengeSolves.get? solve.pair = none
  · rw [if_pos hnew, if_pos hnew]
    simp only [acceptOutcome, finishAttempt, finalized]
    rw [receiptOutcome_markRanked hrow rfl]
    exact ⟨rfl, ledger_publicRanked now now' now solvedAt hfree hsync hasync⟩
  · rw [if_neg hnew, if_neg hnew]
    simp only [acceptOutcome, finishAttempt, finalized]
    rw [receiptOutcome_rejectAttempt hrow]
    refine ⟨rfl, ?_⟩
    simp only [ledger, rejectAttempt, Ledger.mk.injEq]
    refine ⟨?_, timeless_slotChallenge _ _ _ _, trivial, trivial, trivial, trivial, trivial⟩
    rw [Dict.keys_set_of_none _ hfree, Dict.keys_set_of_none _ hfree]

theorem public_admitted (halone : Alone s tick ((publicAdmission settings req).key settings))
    (hkey : fetchByIdem s.attempts ((publicAdmission settings req).key settings) = none)
    (hshed : ¬ Shed limits s (publicAdmission settings req))
    (hsync : FreshIds s ids subId) (hasync : FreshIds s (tick.ids receiptId) receiptId)
    (hopen : Lane.publicLane.Open checks req s) :
    Admitted (Lane.publicLane.refusal checks req s ≠ none)
      (s.submitSignatures.get? req.signature ≠ none) s
      (submitPublicSync settings checks ids subId now req s)
      (submitAsync settings checks limits receiptId (publicAdmission settings req) tick s) := by
  obtain ⟨hkind, chal, hget, hactive⟩ := hopen
  have hget' : (claimedStore settings receiptId (publicAdmission settings req) tick
      s).laneChallenges.get? req.challengeId = some chal := hget
  rw [submitAsync_admitted halone hasync.attempt hkey hshed,
    finalizeClaimed_public hkind hget' hactive]
  have hlive : ¬ chal.status ≠ .active := not_not.mpr hactive
  simp only [Lane.refusal, submitPublicSync, hget, if_neg hlive]
  rcases checks.verifyDimacsSolution chal.cnfText req.dimacsSolution with
    _ | fault | assignment
  · -- the verifier raised
    exact ⟨fun _ => ⟨rfl, rfl⟩, fun _ => ⟨rfl, rfl⟩, fun _ => ⟨rfl, unranked_raised⟩⟩
  · -- the solution is refused
    simp only [finalized_rejectAttempt settings (publicAdmission settings req) fault.reason _ rfl]
    refine ⟨fun h => absurd (by simp) h, fun hfree => ?_, fun _ => ⟨rfl, unranked_refused _⟩⟩
    rw [not_not] at hfree
    have hreject : rejectSync subId fault.reason now (req.solve settings) some s =
        ({ s with
            submitSignatures := s.submitSignatures.set req.signature now
            agentSubmissions := s.agentSubmissions.set subId
              (rejectedSubmission (req.solve settings) fault.reason) },
          .decided (.refused fault.reason)) := by
      simp [rejectSync, burnSignature, Request.solve, Dict.insertIgnore_of_none hfree,
        insertSubmission, Dict.insertNew_of_none hsync.submission]
    rw [hreject]
    exact ⟨rfl, rfl⟩
  · -- the solution passes the checks
    by_cases hfree : s.submitSignatures.get? req.signature = none
    swap
    · -- both refuse the replay
      have hfree' : (claimedStore settings receiptId (publicAdmission settings req) tick
          s).submitSignatures.get? (req.solve settings).signature ≠ none := hfree
      simp only [acceptPublicSync, acceptPublic_burned (req.solve settings) _ hfree,
        acceptPublic_burned (req.solve settings) _ hfree', finishAttempt,
        finalized_rejectAttempt settings (publicAdmission settings req)
          AcceptError.replayedSignature.reason _ rfl]
      exact ⟨fun _ => ⟨rfl, rfl⟩, fun h => absurd hfree h, fun _ => ⟨rfl, unranked_refused _⟩⟩
    · have hagree := public_accept_agree settings (req.solve settings) chal assignment now tick.now
        req.receivedAt hfree ⟨chal, hget, hactive⟩ hsync hasync
        (get?_claimedTable settings receiptId (publicAdmission settings req) tick s.attempts)
      exact ⟨fun _ => hagree, fun _ => ⟨hagree.1, congrArg Ledger.credit hagree.2⟩,
        fun h => absurd hfree h⟩

/-! ### An admitted request on the per-miner lane -/

/-- The tick's finaliser on an admitted per-miner request. -/
theorem finalizeClaimed_pm {ids : RowIds} {identity : String} {epoch : ℤ}
    (hkind : challengeKind req.challengeId = .kindPerMiner) (hidentity : identity ≠ "") :
    finalizeClaimed settings checks ids now receiptId
        (tickRow settings (pmAdmission settings req identity epoch) tick) s =
      match pmResolveAndVerify checks identity epoch req.challengeId req.dimacsSolution with
      | none => none
      | some (.error reason) => some (rejectAttempt receiptId reason now s)
      | some (.ok (inst, assignment)) =>
        finishAttempt receiptId now
          (acceptPm settings ids receiptId now req.receivedAt (req.solve settings) inst assignment
            (fun weight t => some (markRanked t receiptId ids.rowUuid now 1 weight)) s) := by
  have hrow : (tickRow settings (pmAdmission settings req identity epoch) tick).challengeKind =
      some .kindPerMiner := by
    rw [← hkind]
    rfl
  have hbody : (tickRow settings (pmAdmission settings req identity epoch) tick).solutionBody =
      some req.dimacsSolution := rfl
  have hid : (tickRow settings (pmAdmission settings req identity epoch) tick).identity =
      identity := by
    have hcolumn : (tickRow settings (pmAdmission settings req identity epoch)
        tick).assignmentIdentity = some identity := rfl
    rw [Attempt.identity, hcolumn]
    exact if_neg hidentity
  simp only [finalizeClaimed, hrow, finalizePmAttempt, hbody, hid]
  rfl

/-- A new signature on one of the miner's instances: ranked on both paths, solved
before on both, or an exception on both. -/
theorem pm_accept_agree (settings : Settings) (checks : Checks) (req : Request) (identity : String)
    (epoch : ℤ) (inst : PmInstance) (assignment : List ℤ) (now now' solvedAt : Millis)
    {ids' : RowIds} {t : Attempts} {a : Attempt}
    (hchecks : pmResolveAndVerify checks identity epoch req.challengeId req.dimacsSolution =
      some (.ok (inst, assignment)))
    (hfree : s.submitSignatures.get? req.signature = none)
    (hsync : FreshIds s ids subId) (hasync : FreshIds s ids' receiptId)
    (hrow : t.get? receiptId = some a) :
    Agree (submitPmSync settings checks ids subId now req identity epoch s)
      (finalized receiptId { s with attempts := t } (finishAttempt receiptId now'
        (acceptPm settings ids' receiptId now' solvedAt (req.solve settings) inst assignment
          (fun weight t => some (markRanked t receiptId ids'.rowUuid now' 1 weight))
          { s with attempts := t }))) := by
  have hfree' : s.submitSignatures.get? (req.solve settings).signature = none := hfree
  simp only [submitPmSync, hchecks, acceptPmSync]
  by_cases hnew : s.perMinerSolves.get? (req.solve settings).pair = none
  swap
  · -- solved before
    rw [acceptPm_solved _ hfree' hnew,
      acceptPm_solved (s := { s with attempts := t }) _ hfree' hnew]
    simp only [recordPmAttempt, Dict.insertNew_of_none hsync.attempt, Option.map_some,
      finishAttempt, finalized]
    rw [receiptOutcome_rejectAttempt hrow]
    refine ⟨rfl, ?_⟩
    simp only [ledger, rejectAttempt, Ledger.mk.injEq]
    refine ⟨?_, trivial, trivial, trivial, trivial, trivial, trivial⟩
    rw [Dict.keys_set_of_none _ hfree', Dict.keys_set_of_none _ hfree']
  · have hinsert := Dict.insertNew_of_none
      (v := inlineAttempt (req.solve settings) inst.epoch .ranked none now) hsync.attempt
    rw [acceptPm_new hfree' hnew hsync.submission hinsert,
      acceptPm_new (s := { s with attempts := t }) hfree' hnew hasync.submission rfl]
    by_cases hwitness : s.perMinerWitnesses.get? (req.solve settings).pair = none
    · rw [if_pos hwitness, if_pos hwitness]
      simp only [acceptOutcome, finishAttempt, finalized]
      rw [receiptOutcome_markRanked hrow rfl]
      exact ⟨rfl, ledger_pmRanked now now' now solvedAt hfree' hnew hwitness hsync hasync⟩
    · -- a witness row without its solve row
      rw [if_neg hwitness, if_neg hwitness]
      exact ⟨rfl, rfl⟩

theorem pm_admitted {identity : String} {epoch : ℤ}
    (halone : Alone s tick ((pmAdmission settings req identity epoch).key settings))
    (hkey : fetchByIdem s.attempts ((pmAdmission settings req identity epoch).key settings) = none)
    (hshed : ¬ Shed limits s (pmAdmission settings req identity epoch))
    (hsync : FreshIds s ids subId) (hasync : FreshIds s (tick.ids receiptId) receiptId)
    (hopen : (Lane.perMinerLane identity epoch).Open checks req s) :
    Admitted ((Lane.perMinerLane identity epoch).refusal checks req s ≠ none)
      (s.submitSignatures.get? req.signature ≠ none) s
      (submitPmSync settings checks ids subId now req identity epoch s)
      (submitAsync settings checks limits receiptId (pmAdmission settings req identity epoch) tick
        s) := by
  obtain ⟨hkind, hidentity, -⟩ := hopen
  rw [submitAsync_admitted halone hasync.attempt hkey hshed, finalizeClaimed_pm hkind hidentity]
  simp only [Lane.refusal]
  rcases hchecks : pmResolveAndVerify checks identity epoch req.challengeId req.dimacsSolution with
    _ | reason | ⟨inst, assignment⟩
  · -- the verifier raised
    simp only [submitPmSync, hchecks]
    exact ⟨fun _ => ⟨rfl, rfl⟩, fun _ => ⟨rfl, rfl⟩, fun _ => ⟨rfl, unranked_raised⟩⟩
  · -- the solution is refused
    simp only [submitPmSync, hchecks, finalized_rejectAttempt settings
      (pmAdmission settings req identity epoch) reason _ rfl]
    refine ⟨fun h => absurd (by simp) h, fun hfree => ?_, fun _ => ⟨rfl, unranked_refused _⟩⟩
    rw [not_not] at hfree
    simp [rejectSync, burnSignature, Request.solve, Dict.insertIgnore_of_none hfree,
      insertSubmission, Dict.insertNew_of_none hsync.submission,
      Dict.insertNew_of_none hsync.attempt, Ledger.credit, ledger, claimedStore, rejectAttempt]
  · -- the solution passes the checks
    by_cases hfree : s.submitSignatures.get? req.signature = none
    swap
    · have hfree' : (claimedStore settings receiptId (pmAdmission settings req identity epoch) tick
          s).submitSignatures.get? (req.solve settings).signature ≠ none := hfree
      simp only [submitPmSync, hchecks, acceptPmSync, acceptPm_burned (req.solve settings) _ hfree,
        acceptPm_burned (req.solve settings) _ hfree', finishAttempt,
        finalized_rejectAttempt settings (pmAdmission settings req identity epoch)
          AcceptError.replayedSignature.reason _ rfl]
      exact ⟨fun _ => ⟨rfl, rfl⟩, fun h => absurd hfree h, fun _ => ⟨rfl, unranked_refused _⟩⟩
    · have hagree := pm_accept_agree settings checks req identity epoch inst assignment now tick.now
        req.receivedAt hchecks hfree hsync hasync
        (get?_claimedTable settings receiptId (pmAdmission settings req identity epoch) tick
          s.attempts)
      exact ⟨fun _ => hagree, fun _ => ⟨hagree.1, congrArg Ledger.credit hagree.2⟩,
        fun h => absurd hfree h⟩

end Lanes

/-! ## The comparison -/

/-- How the two paths compare. -/
structure PathsAgree (limits : Option QueueBackpressure) (key : String) (adm : Admission)
    (refused burned : Prop) (s : Store) (sync async : Store × Outcome) : Prop where
  /-- A known key is answered with its receipt. -/
  known : ∀ row, fetchByIdem s.attempts key = some row → async = (s, receiptOutcome s row.1)
  shed : fetchByIdem s.attempts key = none → Shed limits s adm → async = (s, .shed)
  /-- A solution the checks do not refuse. -/
  passing : fetchByIdem s.attempts key = none → ¬ Shed limits s adm → ¬ refused → Agree sync async
  /-- Same verdict and reason, and the same credit, for a new signature. -/
  verdict : fetchByIdem s.attempts key = none → ¬ Shed limits s adm → ¬ burned →
    sync.2 = async.2 ∧ (ledger sync.1).credit = (ledger async.1).credit
  /-- A burned signature is not processed again. -/
  replayed : burned → ledger sync.1 = ledger s ∧ ledger async.1 = ledger s ∧ sync.2.Unranked ∧
    (fetchByIdem s.attempts key = none → async.2.Unranked)

/-- An admitted request on either lane. -/
theorem lane_admitted {settings : Settings} {checks : Checks} {limits : Option QueueBackpressure}
    {ids : RowIds} {subId receiptId : String} (now : Millis) {req : Request} {tick : Tick}
    {s : Store} (lane : Lane) (hopen : lane.Open checks req s)
    (halone : Alone s tick ((lane.admission settings req).key settings))
    (hkey : fetchByIdem s.attempts ((lane.admission settings req).key settings) = none)
    (hshed : ¬ Shed limits s (lane.admission settings req))
    (hsync : FreshIds s ids subId) (hasync : FreshIds s (tick.ids receiptId) receiptId) :
    Admitted (lane.refusal checks req s ≠ none) (s.submitSignatures.get? req.signature ≠ none) s
      (lane.submitSync settings checks ids subId now req s)
      (submitAsync settings checks limits receiptId (lane.admission settings req) tick s) := by
  cases lane with
  | publicLane => exact public_admitted halone hkey hshed hsync hasync hopen
  | perMinerLane identity epoch => exact pm_admitted halone hkey hshed hsync hasync hopen

/-- The synchronous path on a burned signature. -/
theorem lane_burned (settings : Settings) (checks : Checks) (ids : RowIds) (subId : String)
    (now : Millis) {req : Request} {s : Store} (lane : Lane)
    (hburned : s.submitSignatures.get? req.signature ≠ none) :
    (lane.submitSync settings checks ids subId now req s).1 = s ∧
      (lane.submitSync settings checks ids subId now req s).2.Unranked := by
  cases lane with
  | publicLane => exact submitPublicSync_burned hburned
  | perMinerLane identity epoch => exact submitPmSync_burned hburned

/-- One request handled alone by the synchronous path and by admission with one
worker tick. A new key gets the same verdict on both paths, and the same ledger
unless the checks refuse its solution. -/
theorem submit_paths_agree (settings : Settings) (checks : Checks)
    (limits : Option QueueBackpressure) (ids : RowIds) (subId receiptId : String) (now : Millis)
    (req : Request) (tick : Tick) (s : Store) (lane : Lane) (hopen : lane.Open checks req s)
    (halone : Alone s tick ((lane.admission settings req).key settings))
    (hsync : FreshIds s ids subId) (hasync : FreshIds s (tick.ids receiptId) receiptId) :
    PathsAgree limits ((lane.admission settings req).key settings) (lane.admission settings req)
      (lane.refusal checks req s ≠ none) (s.submitSignatures.get? req.signature ≠ none) s
      (lane.submitSync settings checks ids subId now req s)
      (submitAsync settings checks limits receiptId (lane.admission settings req) tick s) where
  known _ hrow := submitAsync_known halone hrow
  shed hkey hshed := submitAsync_shed hkey hshed
  passing hkey hshed := (lane_admitted now lane hopen halone hkey hshed hsync hasync).passing
  verdict hkey hshed := (lane_admitted now lane hopen halone hkey hshed hsync hasync).unburned
  replayed hburned := by
    obtain ⟨hsame, hunranked⟩ := lane_burned settings checks ids subId now lane hburned
    refine ⟨congrArg ledger hsame, ?_, hunranked, fun hkey => ?_⟩
    · cases hkey : fetchByIdem s.attempts ((lane.admission settings req).key settings) with
      | some row => rw [submitAsync_known halone hkey]
      | none =>
        by_cases hshed : Shed limits s (lane.admission settings req)
        · rw [submitAsync_shed hkey hshed]
        · exact ((lane_admitted now lane hopen halone hkey hshed hsync hasync).burned hburned).1
    · by_cases hshed : Shed limits s (lane.admission settings req)
      · rw [submitAsync_shed hkey hshed]
        intro rank score h
        cases h
      · exact ((lane_admitted now lane hopen halone hkey hshed hsync hasync).burned hburned).2

/-! ## A first submission and a retry -/

def paritySettings : Settings where
  sha256Hex := id
  lockWins := false
  publicRowScoreMultiplier := 1
  epochSalt := ""
  weightFor := fun _ => 1
  postgres := false

/-- A verifier that accepts the one solution of the challenge. -/
def parityChecks : Checks where
  verifyDimacsSolution := fun _ solution =>
    if solution = "s SATISFIABLE\nv 1 0\n" then some (.ok [1]) else some (.error .unsatisfied)
  resolveTierSeqFor := fun _ _ _ => none
  getMinerCnf := fun _ _ _ _ => none
  witnessCheck := fun _ _ _ _ _ => true
  instanceId := fun _ _ _ _ => ""

def parityRequest : Request where
  minerHotkey := "5F"
  challengeId := "c1"
  dimacsSolution := "s SATISFIABLE\nv 1 0\n"
  submittedAt := "2026-01-01T00:00:00.000Z"
  signature := "sig1"
  receivedAt := 10

/-- The same solution, signed again a minute later. -/
def parityRetry : Request :=
  { parityRequest with
    submittedAt := "2026-01-01T00:01:00.000Z"
    signature := "sig2"
    receivedAt := 60010 }

def parityStore : Store :=
  { Store.empty with
    laneChallenges := Dict.empty.set "c1" ⟨2, .active, 1, "p cnf 1 1\n1 0\n", none⟩ }

def parityTick (receivedAt : Millis) : Tick where
  workerId := "w1"
  now := receivedAt + 5
  lockDeadline := receivedAt + 120005
  batchSize := 8
  ids := fun receiptId => ⟨receiptId ++ "-row", receiptId ++ "-agent"⟩

/-- The store after the first submission was admitted and ranked. -/
def paritySolved : Store :=
  (submitAsync paritySettings parityChecks none "sub_1"
    (publicAdmission paritySettings parityRequest) (parityTick 10) parityStore).1

/-- Nothing is claimable when no row of the table is. -/
theorem alone_of_rows {s : Store} {tick : Tick} (key : String)
    (h : ∀ row ∈ s.attempts.items, row.2.claimable tick.now = false ∧ row.2.live = true)
    (hbatch : 0 < tick.batchSize) : Alone s tick key where
  quiet other a hget := (h (other, a) (Dict.mem_items.mpr hget)).1
  noShadow other a hget _ := (h (other, a) (Dict.mem_items.mpr hget)).2
  batch := hbatch

theorem active_of_status (s : Store) {challengeId : String}
    (h : (s.laneChallenges.get? challengeId).map (·.status) = some .active) :
    ActiveChallenge s challengeId := by
  obtain ⟨chal, hget, hstatus⟩ := Option.map_eq_some_iff.mp h
  exact ⟨chal, hget, hstatus⟩

/-- The first submission is ranked on both paths. -/
theorem submit_paths_agree_first :
    Agree
      (submitPublicSync paritySettings parityChecks ⟨"row", "agent"⟩ "sub" 12 parityRequest
        parityStore)
      (submitAsync paritySettings parityChecks none "sub_1"
        (publicAdmission paritySettings parityRequest) (parityTick 10) parityStore) ∧
      (submitAsync paritySettings parityChecks none "sub_1"
        (publicAdmission paritySettings parityRequest) (parityTick 10) parityStore).2 =
          .decided (.ranked 1 1) := by
  refine ⟨(submit_paths_agree paritySettings parityChecks none ⟨"row", "agent"⟩ "sub" "sub_1" 12
    parityRequest (parityTick 10) parityStore .publicLane ?_ ?_ ?_ ?_).passing ?_ ?_ ?_, ?_⟩
  · exact ⟨by decide, active_of_status parityStore rfl⟩
  · exact alone_of_rows _ (by decide +kernel) (by decide)
  · exact ⟨rfl, rfl, rfl, rfl⟩
  · exact ⟨rfl, rfl, rfl, rfl⟩
  · decide +kernel
  · simp [Shed]
  · simp only [not_not]
    decide +kernel
  · decide +kernel

/-- The same solution signed again: durable admission answers with the ranked
receipt, the synchronous path refuses it as already solved. -/
theorem retry_gets_its_receipt :
    Lane.publicLane.Open parityChecks parityRetry paritySolved ∧
      Alone paritySolved (parityTick 60010)
        ((publicAdmission paritySettings parityRetry).key paritySettings) ∧
      FreshIds paritySolved ⟨"row", "agent"⟩ "sub" ∧
      FreshIds paritySolved ((parityTick 60010).ids "sub_2") "sub_2" ∧
      (submitPublicSync paritySettings parityChecks ⟨"row", "agent"⟩ "sub" 60012 parityRetry
        paritySolved).2 = .decided (.refused "already_solved") ∧
      (submitAsync paritySettings parityChecks none "sub_2"
        (publicAdmission paritySettings parityRetry) (parityTick 60010) paritySolved).2 =
          .decided (.ranked 1 1) := by
  refine ⟨⟨by decide, active_of_status paritySolved ?_⟩, alone_of_rows _ ?_ ?_, ?_, ?_, ?_, ?_⟩
  · decide +kernel
  · decide +kernel
  · decide
  · constructor <;> decide +kernel
  · constructor <;> decide +kernel
  · decide +kernel
  · decide +kernel

end Cathedral.Publisher
