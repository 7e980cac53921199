import Cathedral.Publisher.Credits
import Cathedral.Publisher.Leases
import Cathedral.Publisher.Parity

/-!
# Cathedral.Publisher.Payouts — receipts against the payout ledger

What each transaction of the processes does to the tables, and from it the
agreement between receipts and the payout ledger.
-/

namespace Cathedral.Publisher.Processes

variable {settings : Settings} {w w' : World} {s s' : Store}

/-! ## Effects on the attempts table -/

section Attempts

variable {free : String → Prop} {t' : Attempts}

theorem uncredited_refl (free : String → Prop) (s : Store) : Uncredited free s s where
  kept _ a h := ⟨a, h, .refl a⟩
  origin _ a' h := Or.inl ⟨a', h, .refl a'⟩
  signatures _ h := h
  board := .refl _
  laneSolves := rfl
  pmSolves := rfl
  submissionsKept _ _ h := h
  submissions _ _ h := Or.inl h
  feed := rfl

/-- A new open row under a new id. -/
theorem uncredited_insert {r : String} {a : Attempt} (hfresh : s.attempts.get? r = none)
    (hsub : s.agentSubmissions.get? r = none) (hopen : a.status ≠ .ranked) (hkind : KindOk a)
    (hfree : free r ∨ a.challengeKind = none) :
    Uncredited free s { s with attempts := s.attempts.set r a } :=
  { uncredited_refl free s with
    kept := fun r' a' hget => ⟨a', Dict.get?_set_of_none hfresh hget, .refl a'⟩
    origin := by
      intro r' a' hget
      rw [Dict.get?_set] at hget
      split at hget
      · next heq =>
          rw [Option.some.injEq] at hget
          subst heq hget
          exact Or.inr ⟨hsub, hopen, hkind, hfree⟩
      · exact Or.inl ⟨a', hget, .refl a'⟩ }

/-- An update of the rows that are there. -/
theorem uncredited_rows (f : String → Attempt → Attempt)
    (hrows : ∀ r, t'.get? r = (s.attempts.get? r).map (f r))
    (hkept : ∀ r a, s.attempts.get? r = some a → Kept a (f r a)) :
    Uncredited free s { s with attempts := t' } :=
  { uncredited_refl free s with
    kept := fun r a hget => ⟨f r a, by rw [hrows, hget, Option.map_some], hkept r a hget⟩
    origin := by
      intro r a' hget
      rw [hrows, Option.map_eq_some_iff] at hget
      obtain ⟨a, ha, rfl⟩ := hget
      exact Or.inl ⟨a, ha, hkept r a ha⟩ }

/-- An update of one row by its id. -/
theorem uncredited_modify {receiptId : String} {f : Attempt → Attempt}
    (hkept : ∀ a, s.attempts.get? receiptId = some a → Kept a (f a)) :
    Uncredited free s { s with attempts := s.attempts.modify receiptId f } := by
  refine uncredited_rows (fun r a => if receiptId = r then f a else a) (fun r => ?_) ?_
  · rw [Dict.get?_modify]
    split <;> simp
  · intro r a hget
    split
    · next heq => exact hkept a (heq ▸ hget)
    · exact .refl a

theorem kindOk_pending (adm : Admission) (reason : Option String) (recordedAt : Millis)
    (key : Option String) :
    KindOk { pendingRow adm (challengeKind adm.challengeId) reason recordedAt with
      idempotencyKey := key } := fun _ => Or.inl rfl

/-- An admission inserts at most its pending row. -/
theorem uncredited_receive {limits : Option QueueBackpressure} {receiptId key : String}
    {adm : Admission} (hnew : w.NewId receiptId) :
    Uncredited w.Free w.store { w.store with
      attempts := (admitPending limits w.store.attempts receiptId key adm).1 } := by
  unfold admitPending
  split
  · exact uncredited_refl _ _
  · split
    · exact uncredited_refl _ _
    · rw [Leases.admitRow_fst]
      rcases insertAttemptIgnore_cases w.store.attempts receiptId key
          (pendingRow adm (challengeKind adm.challengeId) none adm.receivedAt) with
        ⟨-, heq⟩ | ⟨-, -, heq⟩
      · rw [heq]
        exact uncredited_refl _ _
      · rw [heq]
        exact uncredited_insert hnew.attempt hnew.submission nofun
          (kindOk_pending adm none adm.receivedAt (some key)) (Or.inl hnew.work)

theorem uncredited_receiveShadow {receiptId key inlineMarker : String} {adm : Admission}
    {now : Millis} (hnew : w.NewId receiptId) :
    Uncredited w.Free w.store { w.store with
      attempts := admitPmShadow w.store.attempts receiptId key adm inlineMarker now } := by
  unfold admitPmShadow
  rcases insertAttemptIgnore_cases w.store.attempts receiptId key
      (pendingRow adm .kindPerMinerShadow (some inlineMarker) now) with ⟨-, heq⟩ | ⟨-, -, heq⟩
  · rw [heq]
    exact uncredited_refl _ _
  · rw [heq]
    refine uncredited_insert hnew.attempt hnew.submission nofun (fun hlive => ?_)
      (Or.inl hnew.work)
    simp [Attempt.live, pendingRow] at hlive

/-- A claim locks open rows. -/
theorem kept_claimedRow {workerId : String} {now lockDeadline : Millis} {a : Attempt}
    (hclaimable : a.claimable now = true) :
    Kept a (claimedRow settings workerId now lockDeadline a) := by
  refine ⟨⟨rfl, rfl, rfl, rfl⟩, fun _ hterminal => ?_, fun _ _ => nofun⟩
  simp [Attempt.claimable, hterminal] at hclaimable

theorem uncredited_claim {workerId : String} {now lockDeadline : Millis} {batchSize : ℕ} :
    Uncredited free s { s with
      attempts := (claimPending settings s.attempts workerId now lockDeadline batchSize).1 } := by
  refine uncredited_rows (fun r a =>
    if r ∈ (claimSelection s.attempts now batchSize).map Prod.fst then
      claimedRow settings workerId now lockDeadline a else a) (fun r => ?_) ?_
  · simp only [claimPending]
    split
    · next hmem => exact Dict.get?_modifyAll_of_mem _ _ Leases.claimSelection_nodup hmem
    · next hmem =>
        rw [Dict.get?_modifyAll_of_notMem _ _ hmem]
        simp
  · intro r a hget
    split
    · next hmem =>
        obtain ⟨row, hrow, heq⟩ := List.mem_map.mp hmem
        obtain ⟨hrowGet, hclaimable⟩ := Leases.mem_claimSelection hrow
        rw [heq, hget, Option.some.injEq] at hrowGet
        exact kept_claimedRow (hrowGet ▸ hclaimable)
    · exact .refl a

/-- The claimed rows are rows of the table after the claim. -/
theorem workOk_claim (hinv : Inv settings w) {workerId : String} {now lockDeadline : Millis}
    {batchSize : ℕ} {row : String × Attempt}
    (hrow : row ∈ (claimPending settings w.store.attempts workerId now lockDeadline batchSize).2) :
    WorkOk { w.store with attempts :=
      (claimPending settings w.store.attempts workerId now lockDeadline batchSize).1 }
      (.attempt row.1 row.2) := by
  simp only [claimPending, List.mem_map] at hrow
  obtain ⟨old, hold, rfl⟩ := hrow
  obtain ⟨hget, hclaimable⟩ := Leases.mem_claimSelection hold
  refine ⟨claimedRow settings workerId now lockDeadline old.2, ?_, .refl _, fun hlive hnone => ?_⟩
  · simp only [claimPending]
    rw [Dict.get?_modifyAll_of_mem _ _ Leases.claimSelection_nodup (List.mem_map_of_mem hold), hget,
      Option.map_some]
  · -- a row without a kind is closed
    have hkind : old.2.challengeKind = none := hnone
    have hlive' : old.2.live = true := hlive
    rcases hinv.kinds _ _ hget hlive' with hsome | ⟨-, -, hterminal⟩
    · simp [hkind] at hsome
    · simp [Attempt.claimable, hterminal] at hclaimable

/-- A refusal marked in time. -/
theorem uncredited_mark {receiptId reason : String} {now : Millis}
    (htimely : ∀ a, s.attempts.get? receiptId = some a → a.status.terminal = true →
      a.status = .rejected ∧ a.rejectionReason = some reason) :
    Uncredited free s (rejectAttempt receiptId reason now s) := by
  refine uncredited_modify fun a hget => ⟨⟨rfl, rfl, rfl, rfl⟩, fun _ hterminal => ?_, nofun⟩
  obtain ⟨hstatus, hreason⟩ := htimely a hget hterminal
  simp [verdict, rejectedRow, hstatus, hreason]

/-- A shadow verdict goes to a shadow row. -/
theorem uncredited_shadow {receiptId : String} {err : Option String} {now : Millis}
    (hshadow : ∀ a, s.attempts.get? receiptId = some a → a.live = false) :
    Uncredited free s { s with attempts := markShadow s.attempts receiptId err now } := by
  refine uncredited_modify fun a hget => ⟨⟨rfl, rfl, rfl, rfl⟩, fun hlive => ?_, fun hlive => ?_⟩
  · simp [hshadow a hget] at hlive
  · simp [hshadow a hget] at hlive

theorem uncredited_record {subId : String} {now : Millis} {solve : SignedSolve} {epoch : ℤ}
    {reason : String} (hcid : challengeKind solve.challengeId = .kindPerMiner)
    (hsub : s.agentSubmissions.get? subId = none)
    (h : recordPmAttempt subId now solve epoch reason s = some s') : Uncredited free s s' := by
  rw [recordPmAttempt, Option.map_eq_some_iff] at h
  obtain ⟨t, ht, rfl⟩ := h
  obtain ⟨hfresh, rfl⟩ := Dict.insertNew_eq_some.mp ht
  refine uncredited_insert hfresh hsub ?_ (fun _ => Or.inr ⟨rfl, hcid, rfl⟩) (Or.inr rfl)
  intro hranked
  cases hranked

end Attempts

/-! ## Effects on the other tables -/

section Burns

variable {free : String → Prop}

theorem BoardKept.modify (d : Dict String LaneChallenge) (cid : String)
    {f : LaneChallenge → LaneChallenge}
    (hf : ∀ chal, (f chal).status = .active → chal.status = .active) :
    BoardKept d (d.modify cid f) where
  old other chal hget := by
    rw [Dict.get?_modify]
    split
    · exact ⟨f chal, by rw [hget, Option.map_some], hf chal⟩
    · exact ⟨chal, hget, id⟩
  new other chal' hget := by
    rw [Dict.get?_modify] at hget
    left
    intro hnone
    split at hget <;> simp [hnone] at hget

theorem slotChallenge_active (now : Millis) (chal : LaneChallenge)
    (h : (slotChallenge settings now chal).status = .active) : chal.status = .active := by
  unfold slotChallenge at h
  split at h
  · cases h
  · exact h

/-- Burned signatures stay burned. -/
theorem burned_set {d : Dict String Millis} {g : String} (signature : String) (now : Millis)
    (h : d.get? g ≠ none) : (d.set signature now).get? g ≠ none := by
  rw [Dict.get?_set]
  split
  · simp
  · exact h

variable {d : Dict String LaneChallenge}

/-- A burned signature and a touched challenge credit nothing. -/
theorem uncredited_burn (signature : String) (now : Millis)
    (hboard : BoardKept s.laneChallenges d) :
    Uncredited free s { s with
      submitSignatures := s.submitSignatures.set signature now, laneChallenges := d } :=
  { uncredited_refl free s with
    signatures := fun _ => burned_set signature now
    board := hboard }

/-- A rejection recorded with its signature. -/
theorem uncredited_rejectSync {subId reason : String} {now : Millis} {solve : SignedSolve}
    {receipt : Attempts → Option Attempts} (hnew : w.NewId subId)
    (hreceipt : ∀ t, receipt w.store.attempts = some t →
      Uncredited w.Free w.store { w.store with attempts := t }) :
    Uncredited w.Free w.store (rejectSync subId reason now solve receipt w.store).1 := by
  unfold rejectSync burnSignature
  rcases Dict.insertIgnore_cases w.store.submitSignatures solve.signature now with
    ⟨-, -, heq⟩ | ⟨-, heq⟩
  · simp only [heq]
    exact uncredited_refl _ _
  · simp only [heq, insertSubmission, Dict.insertNew_of_none hnew.submission, Option.map_some]
    cases hrow : receipt w.store.attempts with
    | none => exact uncredited_refl _ _
    | some t =>
      have heffect := hreceipt t hrow
      exact
        { heffect with
          signatures := fun _ => burned_set solve.signature now
          submissionsKept := fun r sub hget => Dict.get?_set_of_none hnew.submission hget
          submissions := by
            intro r sub hget
            rw [Dict.get?_set] at hget
            split at hget
            · next hid =>
                rw [Option.some.injEq] at hget
                subst hget
                exact Or.inr ⟨rfl, hid ▸ hnew.work⟩
            · exact Or.inl hget }

/-- The receipt row of an inline rejection. -/
theorem uncredited_inlineReject {subId reason : String} {now : Millis} {solve : SignedSolve}
    {epoch : ℤ} {t : Attempts} (hcid : challengeKind solve.challengeId = .kindPerMiner)
    (hnew : w.NewId subId)
    (h : w.store.attempts.insertNew subId
      (inlineAttempt solve epoch .rejected (some reason) now) = some t) :
    Uncredited w.Free w.store { w.store with attempts := t } := by
  obtain ⟨-, rfl⟩ := Dict.insertNew_eq_some.mp h
  exact uncredited_insert hnew.attempt hnew.submission nofun (fun _ => Or.inr ⟨rfl, hcid, rfl⟩)
    (Or.inr rfl)

theorem uncredited_board (hboard : BoardKept s.laneChallenges d) :
    Uncredited free s { s with laneChallenges := d } :=
  { uncredited_refl free s with board := hboard }

/-- A published challenge has a new public id. -/
theorem BoardKept.set {cid : String} (chal : LaneChallenge) (hfresh : d.get? cid = none)
    (hcid : challengeKind cid ≠ .kindPerMiner) : BoardKept d (d.set cid chal) where
  old other row hget := ⟨row, Dict.get?_set_of_none hfresh hget, id⟩
  new other row hget := by
    rw [Dict.get?_set] at hget
    split at hget
    · next heq => exact Or.inr (heq ▸ hcid)
    · exact Or.inl (by simp [hget])

end Burns

/-! ## Effects of the accept transactions -/

section Accepts

variable {free : String → Prop} {ids : RowIds} {r : String} {now solvedAt : Millis}
variable {solve : SignedSolve} {chal : LaneChallenge} {inst : PmInstance} {assignment : List ℤ}

variable {rowUuid : String}

/-- Both feed rows are there, and no row is replaced. -/
theorem get?_insertRows {runs : Dict String EvalRun} {v6 v5 : EvalRun}
    (hrun : runs.get? rowUuid = none) (hcompat : runs.get? (compatId rowUuid) = none) :
    (insertRows runs [(rowUuid, v6), (compatId rowUuid, v5)]).get? rowUuid = some v6 ∧
      (insertRows runs [(rowUuid, v6), (compatId rowUuid, v5)]).get? (compatId rowUuid) = some v5 ∧
      ∀ u run, runs.get? u = some run →
        (insertRows runs [(rowUuid, v6), (compatId rowUuid, v5)]).get? u = some run := by
  have hcompat' : (runs.set rowUuid v6).get? (compatId rowUuid) = none := by
    rw [Dict.get?_set_ne _ _ (compatId_ne rowUuid).symm, hcompat]
  have heq : insertRows runs [(rowUuid, v6), (compatId rowUuid, v5)] =
      (runs.set rowUuid v6).set (compatId rowUuid) v5 := by
    simp [insertRows, Dict.insertIgnore_of_none hrun, Dict.insertIgnore_of_none hcompat']
  rw [heq]
  refine ⟨?_, Dict.get?_set_self _ _ _, fun u run hget => ?_⟩
  · rw [Dict.get?_set_ne _ _ (compatId_ne rowUuid), Dict.get?_set_self]
  · exact Dict.get?_set_of_none hcompat' (Dict.get?_set_of_none hrun hget)

/-- The rows of a solve are the feed rows of its submission. -/
theorem feedRows_buildSolveRows (s' : Store) {tier : ℤ} {score : ℚ} {answer details : String}
    {rank : ℕ}
    (hrun : NewRun s ids)
    (hfeed : s'.evalRuns = insertRows s.evalRuns (buildSolveRows settings ids solve.minerHotkey
      solve.challengeId tier score answer details solvedAt rank)) :
    FeedRows settings s' ids.rowUuid (rankedSubmission solve score rank) ∧
      ∀ u run, s.evalRuns.get? u = some run → s'.evalRuns.get? u = some run := by
  rw [FeedRows, hfeed, buildSolveRows]
  obtain ⟨h6, h5, hkept⟩ := get?_insertRows hrun.run hrun.compat
  exact ⟨⟨_, _, h6, h5, ⟨rfl, rfl, ⟨tier, rfl⟩, rfl, rfl⟩, ⟨rfl, rfl, ⟨tier, rfl⟩, rfl, rfl⟩⟩,
    hkept⟩

/-- The receipts before and after a credit: only the credited one changes, and it
is ranked if it is there. -/
structure ReceiptCredited (free : String → Prop) (t t' : Attempts) (r : String)
    (sub : AgentSubmission) (rowUuid : String) : Prop where
  others : ∀ r', r' ≠ r → t'.get? r' = t.get? r'
  receipt : ∀ a', t'.get? r = some a' →
    a'.status = .ranked ∧ About a' sub ∧ Names a' sub rowUuid ∧ KindOk a'
  kept : ∀ a, t.get? r = some a → a.live = true ∧ a.status.terminal = false ∧
    a.challengeKind ≠ none ∧ ∃ a', t'.get? r = some a' ∧ SameSubmission a a'
  free : free r ∨ t.get? r ≠ none

theorem solveRow_public (pair : String × String) (hkind : challengeKind pair.1 ≠ .kindPerMiner) :
    SolveRow s pair ↔ s.laneChallengeSolves.get? pair ≠ none := by
  rw [SolveRow, if_neg hkind]

theorem solveRow_pm (pair : String × String) (hkind : challengeKind pair.1 = .kindPerMiner) :
    SolveRow s pair ↔ s.perMinerSolves.get? pair ≠ none := by
  rw [SolveRow, if_pos hkind]

/-- A ranked public solve is credited. -/
theorem credits_public (hinv : Inv settings w) {t' : Attempts}
    (hfree : w.store.submitSignatures.get? solve.signature = none)
    (hactive : ActiveChallenge w.store solve.challengeId)
    (hslot : settings.lockWins = true ∨ w.store.laneChallengeSolves.get? solve.pair = none)
    (hsub : w.store.agentSubmissions.get? r = none) (hrun : NewRun w.store ids)
    (hreceipt : ReceiptCredited free w.store.attempts t' r
      (rankedSubmission solve (publicScore settings chal) (slotRank w.store solve.pair))
      ids.rowUuid) :
    Credits settings free w.store
      { publicRanked settings ids r now solvedAt solve chal assignment w.store with attempts := t' }
      r (rankedSubmission solve (publicScore settings chal) (slotRank w.store solve.pair))
      ids.rowUuid := by
  obtain ⟨row, hrow, hstatus⟩ := hactive
  have hpresent : w.store.laneChallenges.get? solve.challengeId ≠ none := by simp [hrow]
  have hkind : challengeKind solve.challengeId ≠ .kindPerMiner := hinv.board _ hpresent
  have hunsolved : w.store.laneChallengeSolves.get? solve.pair = none := by
    -- in `lock_wins` mode an active challenge has no solve row
    by_contra htaken
    rcases hslot with hmode | hnone
    · exact (hinv.slots solve.pair htaken).2 hmode ⟨row, hrow, hstatus⟩
    · exact htaken hnone
  obtain ⟨hfeed, hfeedKept⟩ := feedRows_buildSolveRows
    { publicRanked settings ids r now solvedAt solve chal assignment w.store with attempts := t' }
    hrun rfl
  exact
    { ranked := rfl
      fresh := hsub
      submissions := rfl
      unburned := hfree
      burned := by simp [publicRanked, rankedSubmission]
      signatures := fun _ => burned_set solve.signature now
      unsolved := fun hsolve => (solveRow_public solve.pair hkind).mp hsolve hunsolved
      solved := (solveRow_public solve.pair hkind).mpr
        ((Dict.insertIgnore_taken _ _ _ _).mpr (Or.inr rfl))
      solves := by
        intro pair hsolve
        unfold SolveRow at hsolve ⊢
        split at hsolve
        · next hpm => rwa [if_pos hpm]
        · next hpublic =>
            rw [if_neg hpublic]
            exact (Dict.insertIgnore_taken _ _ _ _).mpr (Or.inl hsolve)
      board := .modify _ _ (slotChallenge_active now)
      laneSolves := by
        intro pair htaken
        rcases (Dict.insertIgnore_taken _ _ _ _).mp htaken with hold | rfl
        · exact Or.inl hold
        · refine Or.inr ⟨hpresent, ?_⟩
          rintro hmode ⟨row', hrow', hstatus'⟩
          have hlocked : ((w.store.laneChallenges.modify solve.challengeId
              (slotChallenge settings now)).get? solve.challengeId) = some row' := hrow'
          rw [Dict.get?_modify_self, hrow, Option.map_some, Option.some.injEq] at hlocked
          subst hlocked
          simp [slotChallenge, hmode] at hstatus'
      feedKept := hfeedKept
      feed := hfeed
      others := hreceipt.others
      receipt := hreceipt.receipt
      kept := hreceipt.kept
      free := hreceipt.free }

/-- A ranked per-miner solve is credited. -/
theorem credits_pm {t' : Attempts} (hkind : challengeKind solve.challengeId = .kindPerMiner)
    (hfree : s.submitSignatures.get? solve.signature = none)
    (hnew : s.perMinerSolves.get? solve.pair = none)
    (hsub : s.agentSubmissions.get? r = none) (hrun : NewRun s ids)
    (hreceipt : ReceiptCredited free s.attempts t' r
      (rankedSubmission solve (settings.weightFor inst.tier) 1) ids.rowUuid) :
    Credits settings free s
      { pmRanked settings ids r now solvedAt solve inst assignment s with attempts := t' }
      r (rankedSubmission solve (settings.weightFor inst.tier) 1) ids.rowUuid := by
  obtain ⟨hfeed, hfeedKept⟩ := feedRows_buildSolveRows
    { pmRanked settings ids r now solvedAt solve inst assignment s with attempts := t' } hrun rfl
  exact
    { ranked := rfl
      fresh := hsub
      submissions := rfl
      unburned := hfree
      burned := by simp [pmRanked, rankedSubmission]
      signatures := fun _ => burned_set solve.signature now
      unsolved := fun hsolve => (solveRow_pm solve.pair hkind).mp hsolve hnew
      solved := (solveRow_pm solve.pair hkind).mpr (by simp [pmRanked])
      solves := by
        intro pair hsolve
        unfold SolveRow at hsolve ⊢
        split at hsolve
        · next hpm =>
            rw [if_pos hpm]
            simp only [pmRanked]
            rw [Dict.get?_set]
            split
            · simp
            · exact hsolve
        · next hpublic => rwa [if_neg hpublic]
      board := .refl _
      laneSolves := fun pair htaken => Or.inl htaken
      feedKept := hfeedKept
      feed := hfeed
      others := hreceipt.others
      receipt := hreceipt.receipt
      kept := hreceipt.kept
      free := hreceipt.free }

/-! ### The receipt of a credited solve -/

/-- The synchronous public path has no attempt row. -/
theorem receipt_none {t : Attempts} {sub : AgentSubmission} (hnone : t.get? r = none)
    (hfree : free r) : ReceiptCredited free t t r sub rowUuid where
  others _ _ := rfl
  receipt a' hget := by simp [hnone] at hget
  kept a hget := by simp [hnone] at hget
  free := Or.inl hfree

/-- The synchronous per-miner path inserts a ranked row. -/
theorem receipt_inline {t : Attempts} {score : ℚ} {rank : ℕ} {epoch : ℤ}
    (hkind : challengeKind solve.challengeId = .kindPerMiner) (hnone : t.get? r = none)
    (hfree : free r) :
    ReceiptCredited free t (t.set r (inlineAttempt solve epoch .ranked none now)) r
      (rankedSubmission solve score rank) rowUuid where
  others r' hne := Dict.get?_set_ne _ _ (Ne.symm hne)
  receipt a' hget := by
    rw [Dict.get?_set_self, Option.some.injEq] at hget
    subst hget
    exact ⟨rfl, ⟨rfl, rfl, rfl⟩, ⟨Or.inl rfl, Or.inl rfl⟩, fun _ => Or.inr ⟨rfl, hkind, rfl⟩⟩
  kept a hget := by simp [hnone] at hget
  free := Or.inl hfree

/-- A worker's accept ranks the open row it claimed. -/
theorem receipt_worker {t : Attempts} {a row : Attempt} {rank : ℕ} {score : ℚ}
    (hget : t.get? r = some a) (hsame : SameSubmission a row) (hlive : a.live = true)
    (hopen : a.status.terminal = false) (hkind : KindOk a) (hsome : a.challengeKind ≠ none) :
    ReceiptCredited free t (markRanked t r rowUuid now rank score) r
      (rankedSubmission row.solve score rank) rowUuid where
  others r' hne := Dict.get?_modify_ne _ _ (Ne.symm hne)
  receipt a' hget' := by
    rw [markRanked, Dict.get?_modify_self, hget, Option.map_some, Option.some.injEq] at hget'
    subst hget'
    refine ⟨rfl, ⟨hsame.hotkey, hsame.challenge, hsame.signature⟩, ⟨Or.inr rfl, Or.inr rfl⟩, ?_⟩
    intro _
    rcases hkind hlive with hpublic | ⟨hnone, -⟩
    · exact Or.inl hpublic
    · exact absurd hnone hsome
  kept a' hget' := by
    rw [hget, Option.some.injEq] at hget'
    subst hget'
    refine ⟨hlive, hopen, hsome, rankedRow rowUuid now rank score a, ?_, ⟨rfl, rfl, rfl, rfl⟩⟩
    rw [markRanked, Dict.get?_modify_self, hget, Option.map_some]
  free := Or.inr (by simp [hget])

end Accepts

/-! ## Every timely step is one of the two -/

/-- The tables after a step: nothing credited, or one solve. -/
def Effect (settings : Settings) (w : World) (s' : Store) : Prop :=
  Uncredited w.Free w.store s' ∨
    ∃ r sub rowUuid, Credits settings w.Free w.store s' r sub rowUuid

section Steps

variable {ids : RowIds} {subId receiptId : String} {now : Millis} {solve : SignedSolve}
variable {chal : LaneChallenge} {inst : PmInstance} {assignment : List ℤ} {row : Attempt}

theorem effect_submitPublic {result : Except AcceptError (ℕ × ℚ)} (hinv : Inv settings w)
    (hnew : w.NewId subId) (hrun : NewRun w.store ids)
    (h : acceptPublicSync settings ids subId now solve chal assignment w.store =
      some (s', result)) : Effect settings w s' := by
  have hcase : PublicAccept settings ids subId now now solve chal assignment (fun _ _ t => t)
      w.store _ := acceptPublic_cases _
  rw [acceptPublicSync] at h
  rw [h] at hcase
  cases hcase with
  | replayed => exact Or.inl (uncredited_refl _ _)
  | closed => exact Or.inl (uncredited_burn solve.signature now (.refl _))
  | solved =>
    exact Or.inl (uncredited_burn solve.signature now (.modify _ _ (slotChallenge_active now)))
  | ranked hfree hactive hslot hsub =>
    exact Or.inr ⟨subId, _, _, credits_public hinv hfree hactive hslot hsub hrun
      (receipt_none hnew.attempt hnew.work)⟩

theorem effect_submitPm {result : Except AcceptError ℚ}
    (hkind : challengeKind solve.challengeId = .kindPerMiner) (hnew : w.NewId subId)
    (hrun : NewRun w.store ids)
    (h : acceptPmSync settings ids subId now solve inst assignment w.store = some (s', result)) :
    Effect settings w s' ∧ (result = .error .alreadySolved →
      s'.agentSubmissions.get? subId = none ∧ s'.attempts.get? subId = none) := by
  have hcase : PmAccept settings ids subId now now solve inst assignment
      (fun _ t => t.insertNew subId (inlineAttempt solve inst.epoch .ranked none now)) w.store _ :=
    acceptPm_cases _
  rw [acceptPmSync] at h
  rw [h] at hcase
  cases hcase with
  | replayed =>
    refine ⟨Or.inl (uncredited_refl _ _), ?_⟩
    intro hsolved
    cases hsolved
  | solved =>
    exact ⟨Or.inl (uncredited_burn solve.signature now (.refl _)),
      fun _ => ⟨hnew.submission, hnew.attempt⟩⟩
  | ranked hfree hunsolved hsub hattempts hwitness =>
    obtain ⟨hnone, rfl⟩ := Dict.insertNew_eq_some.mp hattempts
    refine ⟨Or.inr ⟨subId, _, _, credits_pm hkind hfree hunsolved hsub hrun
      (receipt_inline hkind hnone hnew.work)⟩, ?_⟩
    intro hsolved
    cases hsolved

/-- A per-miner row is live. -/
theorem live_of_kind {a : Attempt} (h : a.challengeKind = some .kindPerMiner) : a.live = true := by
  rw [Attempt.live, h]
  rfl

/-- The open row of a worker's item. -/
theorem open_of_timely (hinv : Inv settings w) {a : Attempt}
    (hget : w.store.attempts.get? receiptId = some a) (hlive : a.live = true)
    (hsub : w.store.agentSubmissions.get? receiptId = none) (htimely : a.status ≠ .rejected) :
    a.status.terminal = false := by
  cases hstatus : a.status with
  | pending | verifying | failedRetryable => rfl
  | rejected => exact absurd hstatus htimely
  | ranked =>
    -- a ranked receipt has its submission
    obtain ⟨sub, u, hrow, -⟩ := hinv.receipts receiptId a hget hlive hstatus
    simp [hsub] at hrow

theorem effect_accept {result : Except AcceptError (ℕ × ℚ)} (hinv : Inv settings w)
    (hmem : .attempt receiptId row ∈ w.work) (hlive : row.live = true)
    (hkind : row.challengeKind ≠ some .kindPerMiner) (hrun : NewRun w.store ids)
    (htimely : Timely settings w (.accept receiptId row ids now chal assignment))
    (h : acceptPublicAsync settings ids receiptId row chal assignment now w.store =
      some (s', result)) : Effect settings w s' := by
  obtain ⟨a, hget, hsame, hsome⟩ := hinv.work _ hmem
  have hcase : PublicAccept settings ids receiptId now (row.receivedAt.getD now) row.solve chal
      assignment (fun rank score t => markRanked t receiptId ids.rowUuid now rank score)
      w.store _ :=
    acceptPublic_cases _
  rw [acceptPublicAsync] at h
  rw [h] at hcase
  cases hcase with
  | replayed => exact Or.inl (uncredited_refl _ _)
  | closed => exact Or.inl (uncredited_burn row.solve.signature now (.refl _))
  | solved =>
    exact Or.inl (uncredited_burn row.solve.signature now
      (.modify _ _ (slotChallenge_active now)))
  | ranked hfree hactive hslot hsub =>
    have hcreditable : Creditable settings w.store row := by
      refine ⟨hfree, ?_⟩
      rw [if_neg hkind]
      exact ⟨hactive, hslot⟩
    have hlive' : a.live = true := hsame.live.symm.trans hlive
    have hopen := open_of_timely hinv hget hlive' hsub (htimely hcreditable a hget)
    have hsome' : a.challengeKind ≠ none := hsame.kind ▸ hsome hlive
    exact Or.inr ⟨receiptId, _, _, credits_public hinv hfree hactive hslot hsub hrun
      (receipt_worker hget hsame hlive' hopen (hinv.kinds _ _ hget) hsome')⟩

theorem effect_acceptPm {result : Except AcceptError ℚ} (hinv : Inv settings w)
    (hmem : .attempt receiptId row ∈ w.work) (hkind : row.challengeKind = some .kindPerMiner)
    (hrun : NewRun w.store ids)
    (htimely : Timely settings w (.acceptPm receiptId row ids now inst assignment))
    (h : acceptPmAsync settings ids receiptId row inst assignment now w.store =
      some (s', result)) : Effect settings w s' := by
  obtain ⟨a, hget, hsame, -⟩ := hinv.work _ hmem
  have hlive : a.live = true := live_of_kind (hsame.kind.symm.trans hkind)
  have hcase : PmAccept settings ids receiptId now (row.receivedAt.getD now) row.solve inst
      assignment (fun weight t => some (markRanked t receiptId ids.rowUuid now 1 weight))
      w.store _ :=
    acceptPm_cases _
  rw [acceptPmAsync] at h
  rw [h] at hcase
  cases hcase with
  | replayed => exact Or.inl (uncredited_refl _ _)
  | solved => exact Or.inl (uncredited_burn row.solve.signature now (.refl _))
  | ranked hfree hunsolved hsub hattempts hwitness =>
    rw [Option.some.injEq] at hattempts
    subst hattempts
    have hcreditable : Creditable settings w.store row := by
      refine ⟨hfree, ?_⟩
      rw [if_pos hkind]
      exact hunsolved
    have hopen := open_of_timely hinv hget hlive hsub (htimely hcreditable a hget)
    have hsome : a.challengeKind ≠ none := by
      rw [← hsame.kind, hkind]
      exact nofun
    have hcid : challengeKind row.challengeId = .kindPerMiner := by
      rcases hinv.kinds _ _ hget hlive with hpublic | ⟨hnone, -⟩
      · rw [← hsame.kind, hkind, Option.some.injEq, ← hsame.challenge] at hpublic
        exact hpublic.symm
      · exact absurd hnone hsome
    exact Or.inr ⟨receiptId, _, _, credits_pm hcid hfree hunsolved hsub hrun
      (receipt_worker hget hsame hlive hopen (hinv.kinds _ _ hget) hsome)⟩

/-- Either effect keeps the invariant. -/
theorem inv_effect (hinv : Inv settings w) (h : Effect settings w s') {work : List Work}
    (hwork : ∀ item ∈ work, item ∈ w.work ∨ WorkOk s' item) :
    Inv settings { store := s', work := work } := by
  rcases h with hnone | ⟨r, sub, u, hcredits⟩
  · exact inv_uncredited hinv hnone (fun _ h => h) hwork
  · exact inv_credits hinv hcredits (fun _ h => h) hwork

/-- A live receipt is still there. -/
theorem Effect.live (h : Effect settings w s') {a : Attempt}
    (hget : w.store.attempts.get? receiptId = some a) (hlive : a.live = true) :
    ∃ a', s'.attempts.get? receiptId = some a' ∧ a'.live = true := by
  rcases h with hnone | ⟨r, sub, u, hcredits⟩
  · obtain ⟨a', hget', hkept⟩ := hnone.kept receiptId a hget
    exact ⟨a', hget', hkept.live.trans hlive⟩
  · obtain ⟨a', hget', hsame⟩ := hcredits.sameSubmission hget
    exact ⟨a', hget', hsame.live.trans hlive⟩

/-- A refusal follows from a live item. -/
theorem workOk_refusal (hinv : Inv settings w) (heffect : Effect settings w s')
    (hmem : .attempt receiptId row ∈ w.work) (hlive : row.live = true) (reason : String) :
    WorkOk s' (.refusal receiptId reason) := by
  obtain ⟨a, hget, hsame, -⟩ := hinv.work _ hmem
  exact heffect.live hget (hsame.live.symm.trans hlive)

/-- What is left of the work after an item. -/
theorem mem_drop {item other : Work} (h : other ∈ (w.drop item).work) : other ∈ w.work :=
  List.mem_of_mem_erase h

theorem inv_afterAccept {α : Type} {result : Except AcceptError α} (hinv : Inv settings w)
    (heffect : Effect settings w s') (hmem : .attempt receiptId row ∈ w.work)
    (hlive : row.live = true) :
    Inv settings (afterAccept w (.attempt receiptId row) s' result) := by
  cases result with
  | error err =>
    refine inv_effect hinv heffect fun item hitem => ?_
    rcases List.mem_cons.mp hitem with rfl | hrest
    · exact Or.inr (workOk_refusal hinv heffect hmem hlive _)
    · exact Or.inl (List.mem_of_mem_erase hrest)
  | ok a => exact inv_effect hinv heffect fun item hitem => Or.inl (mem_drop hitem)

/-- The tables after a timely step. -/
theorem step_effect {action : Action} (hinv : Inv settings w)
    (h : TimelyStep settings w action w') : Effect settings w w'.store := by
  obtain ⟨hstep, htimely⟩ := h
  cases hstep with
  | submitPublic hnew hrun haccept => exact effect_submitPublic hinv hnew hrun haccept
  | refusePublic hnew =>
    refine Or.inl (uncredited_rejectSync hnew fun t ht => ?_)
    rw [Option.some.injEq] at ht
    exact ht ▸ uncredited_refl _ _
  | @submitPm _ _ _ _ _ _ _ result hkind hnew hrun haccept =>
    have heffect := (effect_submitPm hkind hnew hrun haccept).1
    unfold afterSubmitPm
    split <;> exact heffect
  | refusePm hkind hnew =>
    exact Or.inl (uncredited_rejectSync hnew fun t ht => uncredited_inlineReject hkind hnew ht)
  | recordPm hmem hrecord =>
    obtain ⟨hcid, hsub, -⟩ := hinv.work _ hmem
    exact Or.inl (uncredited_record hcid hsub hrecord)
  | receive hnew => exact Or.inl (uncredited_receive hnew)
  | receiveShadow hnew => exact Or.inl (uncredited_receiveShadow hnew)
  | claim hclaim =>
    have hrows := congrArg Prod.fst hclaim
    dsimp only at hrows
    rw [← hrows]
    exact Or.inl uncredited_claim
  | refuse => exact Or.inl (uncredited_refl _ _)
  | @accept _ _ _ _ _ _ _ result hmem hlive hkind hrun haccept =>
    have heffect := effect_accept hinv hmem hlive hkind hrun htimely haccept
    cases result <;> exact heffect
  | @acceptPm _ _ _ _ _ _ _ result hmem hkind hrun haccept =>
    have heffect := effect_acceptPm hinv hmem hkind hrun htimely haccept
    cases result <;> exact heffect
  | mark hmem => exact Or.inl (uncredited_mark htimely)
  | shadow hmem hshadow =>
    obtain ⟨a, hget, hsame, -⟩ := hinv.work _ hmem
    refine Or.inl (uncredited_shadow fun a' hget' => ?_)
    rw [hget, Option.some.injEq] at hget'
    rw [← hget', ← hsame.live, hshadow]
  | lose => exact Or.inl (uncredited_refl _ _)
  | retire => exact Or.inl (uncredited_board (.modify _ _ nofun))
  | publish hfresh hcid => exact Or.inl (uncredited_board (.set _ hfresh hcid))

/-- The invariant along a timely step. -/
theorem step_inv {action : Action} (hinv : Inv settings w)
    (h : TimelyStep settings w action w') : Inv settings w' := by
  have heffect := step_effect hinv h
  obtain ⟨hstep, htimely⟩ := h
  cases hstep with
  | submitPublic | refusePublic | refusePm | receive | receiveShadow | retire | publish =>
    exact inv_effect hinv heffect fun item hitem => Or.inl hitem
  | @submitPm subId _ _ solve inst _ s result hkind hnew hrun haccept =>
    by_cases hsolved : result = .error .alreadySolved
    · subst hsolved
      obtain ⟨hsub, hattempt⟩ := (effect_submitPm hkind hnew hrun haccept).2 rfl
      refine inv_effect hinv heffect fun item hitem => ?_
      rcases List.mem_cons.mp hitem with rfl | hrest
      · refine Or.inr ⟨hkind, hsub, fun a hget => ?_⟩
        have hnone : some a = none := hget.symm.trans hattempt
        cases hnone
      · exact Or.inl hrest
    · have hwork : (afterSubmitPm w subId solve inst.epoch s result).work = w.work := by
        unfold afterSubmitPm
        split
        · exact absurd rfl hsolved
        · rfl
      refine inv_effect hinv heffect fun item hitem => Or.inl ?_
      have hitem' : item ∈ (afterSubmitPm w subId solve inst.epoch s result).work := hitem
      rwa [hwork] at hitem'
  | recordPm | mark | shadow | lose =>
    exact inv_effect hinv heffect fun item hitem => Or.inl (mem_drop hitem)
  | claim hclaim =>
    obtain ⟨rfl, rfl⟩ := Prod.mk.inj hclaim
    refine inv_effect hinv heffect fun item hitem => ?_
    rcases List.mem_append.mp hitem with hnew | hold
    · obtain ⟨row, hrow, rfl⟩ := List.mem_map.mp hnew
      exact Or.inr (workOk_claim hinv hrow)
    · exact Or.inl hold
  | refuse hmem hlive =>
    refine inv_effect hinv heffect fun item hitem => ?_
    rcases List.mem_cons.mp hitem with rfl | hrest
    · exact Or.inr (workOk_refusal hinv heffect hmem hlive _)
    · exact Or.inl (List.mem_of_mem_erase hrest)
  | accept hmem hlive hkind hrun haccept =>
    exact inv_afterAccept hinv (effect_accept hinv hmem hlive hkind hrun htimely haccept) hmem
      hlive
  | acceptPm hmem hkind hrun haccept =>
    have hlive := live_of_kind hkind
    exact inv_afterAccept hinv (effect_acceptPm hinv hmem hkind hrun htimely haccept) hmem hlive

end Steps

/-! ## The agreement -/

/-- What holds between receipts and the payout ledger in a state. -/
structure LedgerAgrees (settings : Settings) (s : Store) : Prop where
  ranked_iff : ∀ r a, s.attempts.get? r = some a → a.live = true →
    (a.status = .ranked ↔ Credited settings s r a)
  pair_once : ∀ r r' sub sub', s.agentSubmissions.get? r = some sub →
    s.agentSubmissions.get? r' = some sub' → sub.status = .ranked → sub'.status = .ranked →
    sub.satChallengeId = sub'.satChallengeId → sub.minerHotkey = sub'.minerHotkey → r = r'
  signature_once : ∀ r r' sub sub', s.agentSubmissions.get? r = some sub →
    s.agentSubmissions.get? r' = some sub' → sub.status = .ranked → sub'.status = .ranked →
    sub.signature = sub'.signature → r = r'

/-- A live receipt that has a verdict keeps it. -/
def VerdictsKept (s s' : Store) : Prop :=
  ∀ r a, s.attempts.get? r = some a → a.live = true → a.status.terminal = true →
    ∃ a', s'.attempts.get? r = some a' ∧ a'.live = true ∧ verdict a' = verdict a

theorem Inv.ledgerAgrees (hinv : Inv settings w) : LedgerAgrees settings w.store where
  ranked_iff r a hget hlive := by
    refine ⟨hinv.receipts r a hget hlive, ?_⟩
    rintro ⟨sub, u, hsub, hranked, -⟩
    exact (hinv.submissions r sub hsub hranked).2.2 a hget hlive
  pair_once r r' sub sub' hget hget' hranked hranked' hcid hhotkey :=
    hinv.once r r' sub sub' hget hget' hranked hranked' (Or.inl (Prod.ext hcid hhotkey))
  signature_once r r' sub sub' hget hget' hranked hranked' hsignature :=
    hinv.once r r' sub sub' hget hget' hranked hranked' (Or.inr hsignature)

theorem Effect.verdictsKept (h : Effect settings w s') : VerdictsKept w.store s' := by
  intro r a hget hlive hterminal
  rcases h with hnone | ⟨r', sub, u, hcredits⟩
  · obtain ⟨a', hget', hkept⟩ := hnone.kept r a hget
    exact ⟨a', hget', hkept.live.trans hlive, hkept.closed hlive hterminal⟩
  · -- the credited receipt had no verdict
    have hne : r ≠ r' := by
      rintro rfl
      simp [(hcredits.kept a hget).2.1] at hterminal
    exact ⟨a, (hcredits.others r hne).trans hget, hlive, rfl⟩

theorem VerdictsKept.trans {s s' s'' : Store} (h : VerdictsKept s s') (h' : VerdictsKept s' s'') :
    VerdictsKept s s'' := by
  intro r a hget hlive hterminal
  obtain ⟨a', hget', hlive', hverdict⟩ := h r a hget hlive hterminal
  have hstatus : a'.status = a.status := congrArg Prod.fst hverdict
  obtain ⟨a'', hget'', hlive'', hverdict'⟩ := h' r a' hget' hlive' (by rw [hstatus, hterminal])
  exact ⟨a'', hget'', hlive'', hverdict'.trans hverdict⟩

theorem run_inv {w₀ : World} {ls : List Action} (hstart : Start w₀)
    (h : Run (TimelyStep settings) w₀ ls w) : Inv settings w :=
  Run.invariant (start_inv hstart) (fun _ _ _ hinv hstep => step_inv hinv hstep) h

theorem run_verdictsKept {ls : List Action} (hinv : Inv settings w)
    (h : Run (TimelyStep settings) w ls w') : VerdictsKept w.store w'.store := by
  have hboth : Inv settings w' ∧ VerdictsKept w.store w'.store := by
    refine Run.invariant (I := fun u => Inv settings u ∧ VerdictsKept w.store u.store)
      ⟨hinv, fun r a hget hlive _ => ⟨a, hget, hlive, rfl⟩⟩ ?_ h
    rintro t l u ⟨ht, hkept⟩ hstep
    exact ⟨step_inv ht hstep, hkept.trans (step_effect ht hstep).verdictsKept⟩
  exact hboth.2

/-- In every run in which each verdict is in time, receipts and the payout ledger
agree in every state reached, and a verdict once given stays. -/
theorem receipts_agree {w₀ : World} {before after : List Action} (hstart : Start w₀)
    (hbefore : Run (TimelyStep settings) w₀ before w)
    (hafter : Run (TimelyStep settings) w after w') :
    LedgerAgrees settings w.store ∧ VerdictsKept w.store w'.store :=
  have hinv := run_inv hstart hbefore
  ⟨hinv.ledgerAgrees, run_verdictsKept hinv hafter⟩

/-! ## Two workers on one attempt -/

def startWorld : World := ⟨parityStore, []⟩

theorem start_startWorld : Start startWorld where
  attempts := rfl
  submissions := rfl
  laneSolves := rfl
  pmSolves := rfl
  board cid hcid := by
    have hkeys : cid ∈ startWorld.store.laneChallenges.keys := by
      rw [Dict.mem_keys]
      exact Option.ne_none_iff_exists'.mp hcid
    have hlist : startWorld.store.laneChallenges.keys = ["c1"] := by decide +kernel
    rw [hlist, List.mem_singleton] at hkeys
    subst hkeys
    decide
  work := rfl

/-- The attempt as the first worker claimed it, and as the second did when the
first one's lock had expired. -/
def firstClaim : Attempt :=
  claimedRow paritySettings "w1" 10 120010
    (admittedRow paritySettings (publicAdmission paritySettings parityRequest))

def secondClaim : Attempt := claimedRow paritySettings "w2" 120010 240010 firstClaim

def sampleChallenge : LaneChallenge := ⟨2, .active, 1, "p cnf 1 1\n1 0\n", none⟩

theorem not_rejected_of_status {t : Attempts} {receiptId : String}
    (h : (t.get? receiptId).map (·.status) = some .verifying) {a : Attempt}
    (hget : t.get? receiptId = some a) : a.status ≠ .rejected := by
  rw [hget, Option.map_some, Option.some.injEq] at h
  rw [h]
  exact nofun

/-- A ranked live receipt that is rejected afterwards was not kept. -/
theorem overwritten {r : String}
    (h : (s.attempts.get? r).map (fun a => (a.status, a.live)) = some (.ranked, true))
    (h' : (s'.attempts.get? r).map (·.status) = some .rejected) : ¬ VerdictsKept s s' := by
  intro hkept
  obtain ⟨a, hget, hstatus⟩ := Option.map_eq_some_iff.mp h
  rw [Prod.mk.injEq] at hstatus
  obtain ⟨a', hget', -, hverdict⟩ := hkept r a hget hstatus.2 (by rw [hstatus.1]; rfl)
  have hsame : a'.status = a.status := congrArg Prod.fst hverdict
  rw [hget', Option.map_some, Option.some.injEq, hsame, hstatus.1] at h'
  cases h'

/-- One worker claims the attempt and ranks it in time. -/
theorem receipts_agree_ranked : ∃ w w' : World,
    (w.store.attempts.get? "sub_1").map (·.status) = some .ranked ∧
      LedgerAgrees paritySettings w.store ∧ VerdictsKept w.store w'.store := by
  have hstart : Run (TimelyStep paritySettings) startWorld [] startWorld := .nil
  have hreceive := hstart.snoc
    (l := .receive none "sub_1" (publicAdmission paritySettings parityRequest))
    ⟨.receive ⟨rfl, rfl, fun _ hitem => absurd hitem List.not_mem_nil⟩, by trivial⟩
  have hclaim := hreceive.snoc (l := .claim "w1" 10 120010 8) ⟨.claim rfl, by trivial⟩
  have hranked := hclaim.snoc
    (l := .accept "sub_1" firstClaim ⟨"row1", "agent1"⟩ 15 sampleChallenge [1])
    ⟨.accept (List.Mem.head _) rfl (by decide) ⟨rfl, rfl⟩ rfl,
      by exact fun _ a hget => not_rejected_of_status (by decide +kernel) hget⟩
  have hafter := hranked.here.snoc (l := .claim "w2" 120010 240010 8) ⟨.claim rfl, by trivial⟩
  exact ⟨_, _, by decide +kernel, receipts_agree start_startWorld hranked hafter⟩

/-- The second worker ranks the receipt; then the first one's accept finds the
signature burned and its refusal overwrites the verdict, while the solve stays
credited. -/
theorem late_refusal_overwrites : Start startWorld ∧ ∃ w w' before after,
    Run (Step paritySettings) startWorld before w ∧ Run (Step paritySettings) w after w' ∧
      ¬ VerdictsKept w.store w'.store ∧
      (w.store.attempts.get? "sub_1").map (·.status) = some .ranked ∧
      (w'.store.attempts.get? "sub_1").map (fun a => (a.status, a.rejectionReason)) =
        some (.rejected, some "replayed_signature") ∧
      (w'.store.agentSubmissions.get? "sub_1").map (·.status) = some .ranked := by
  refine ⟨start_startWorld, ?_⟩
  have hstart : Run (Step paritySettings) startWorld [] startWorld := .nil
  have hreceive := hstart.snoc
    (l := .receive none "sub_1" (publicAdmission paritySettings parityRequest))
    (.receive ⟨rfl, rfl, fun _ hitem => absurd hitem List.not_mem_nil⟩)
  have hfirst := hreceive.snoc (l := .claim "w1" 10 120010 8) (.claim rfl)
  have hsecond := hfirst.snoc (l := .claim "w2" 120010 240010 8) (.claim rfl)
  have hranked := hsecond.snoc
    (l := .accept "sub_1" secondClaim ⟨"row2", "agent2"⟩ 120015 sampleChallenge [1])
    (.accept (List.Mem.head _) rfl (by decide) ⟨rfl, rfl⟩ rfl)
  have hlate := hranked.here.snoc
    (l := .accept "sub_1" firstClaim ⟨"row1", "agent1"⟩ 120020 sampleChallenge [1])
    (.accept (by decide +kernel) rfl (by decide) ⟨rfl, rfl⟩ rfl)
  have hmarked := hlate.snoc (l := .mark "sub_1" "replayed_signature" 120021)
    (.mark (List.Mem.head _))
  refine ⟨_, _, _, _, hranked, hmarked, ?_, by decide +kernel, by decide +kernel, by decide +kernel⟩
  exact overwritten (r := "sub_1") (by decide +kernel) (by decide +kernel)

end Cathedral.Publisher.Processes
