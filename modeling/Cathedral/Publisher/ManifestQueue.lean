import Cathedral.Lib.Guarded
import Cathedral.Publisher.Manifests

/-!
# Cathedral.Publisher.ManifestQueue — no manifest is left behind

A row that is not final is meant to be in somebody's hands: under an unexpired
lock, waiting for a claim, or waiting for the sweep. The claim and the sweep state
their conditions separately, and one combination is covered by neither: a row in
`verifying` on its last allowed attempt whose lock has run out.
-/

namespace Cathedral.Publisher.Manifests

variable {s : QueueSettings} {w w' : World} {rid : String} {e : Manifest}

/-! ## What it means to be looked after -/

def Manifest.Locked (now : Millis) (e : Manifest) : Prop :=
  ∃ until_, e.lockedUntil = some until_ ∧ now < until_

/-- `claim_batch` may take the row as soon as its next attempt is due. -/
def BecomesClaimable (s : QueueSettings) (now : Millis) (e : Manifest) : Prop :=
  ∀ t, now ≤ t → e.nextAttemptAt.all (· ≤ t) → e.claimable s.maxAttempts t = true

/-- The next sweep makes the row final, whichever rows its query returns. -/
def SweptNext (s : QueueSettings) (w : World) (rid : String) : Prop :=
  ∀ now picked, w.now ≤ now → SweepPicks s.maxAttempts s.sweepLimit w.rows now picked →
    ∃ e, (sweepExhausted s.maxAttempts w.rows picked).get? rid = some e ∧ e.status.terminal = true

/-- Every row that is not final is locked, becomes claimable, or is swept next. -/
def NoneStranded (s : QueueSettings) (w : World) : Prop :=
  ∀ rid e, w.rows.get? rid = some e → e.status.terminal = false →
    e.Locked w.now ∨ BecomesClaimable s w.now e ∨ SweptNext s w rid

/-! ## The rows that a good state may not hold -/

/-- The attempts are used up. -/
def Spent (s : QueueSettings) (e : Manifest) : Prop :=
  s.maxAttempts ≠ 0 ∧ s.maxAttempts ≤ e.attemptCount

/-- A row whose worker is gone and that no claim may take again. -/
def Abandoned (s : QueueSettings) (now : Millis) (e : Manifest) : Prop :=
  e.status = .verifying ∧ Spent s e ∧ ¬ e.Locked now

/-- A row that waits for the sweep. -/
def Manifest.spentWaiting (maxAttempts : ℕ) (e : Manifest) : Bool :=
  (e.status = .received || e.status = .retry) && maxAttempts ≤ e.attemptCount

/-- The number of rows that wait for the sweep. -/
def waitingCount (s : QueueSettings) (w : World) : ℕ :=
  w.rows.count fun _ e => e.spentWaiting s.maxAttempts

/-- No row is abandoned, and one sweep takes all the rows that wait for it. -/
structure Safe (s : QueueSettings) (w : World) : Prop where
  held : ∀ rid e, w.rows.get? rid = some e → ¬ Abandoned s w.now e
  room : s.maxAttempts ≠ 0 → waitingCount s w ≤ s.sweepLimit

/-- Only rows in `verifying` are locked, and all of them have been. -/
def LockInv (w : World) : Prop :=
  ∀ rid e, w.rows.get? rid = some e → (e.status = .verifying ↔ e.lockedUntil ≠ none)

theorem lock_none (hinv : LockInv w) (hget : w.rows.get? rid = some e)
    (h : e.status ≠ .verifying) : e.lockedUntil = none := by
  by_contra hlock
  exact h ((hinv rid e hget).mpr hlock)

theorem exhausted_eq (hinv : LockInv w) (hget : w.rows.get? rid = some e) (now : Millis) :
    e.exhausted s.maxAttempts now = e.spentWaiting s.maxAttempts := by
  cases hstatus : e.status with
  | received | retry =>
    have hlock : e.lockedUntil = none := lock_none hinv hget (by simp [hstatus])
    simp [Manifest.exhausted, Manifest.spentWaiting, hstatus, hlock]
  | verifying | verified | rejected => simp [Manifest.exhausted, Manifest.spentWaiting, hstatus]

/-- The sweep selects from the rows that wait for it. -/
theorem sweepPicks_iff (hinv : LockInv w) (now : Millis) (picked : List String) :
    SweepPicks s.maxAttempts s.sweepLimit w.rows now picked ↔
      w.rows.Selects (fun _ e => e.spentWaiting s.maxAttempts) s.sweepLimit picked :=
  Dict.selects_congr fun _ _ hget => exhausted_eq hinv hget now

/-! ## The good states -/

theorem claimable_of_not_spent {t : Millis} (hstatus : e.status.terminal = false)
    (hnext : e.nextAttemptAt.all (· ≤ t) = true) (hlock : e.lockedUntil.all (· ≤ t) = true)
    (hspent : ¬ Spent s e) : e.claimable s.maxAttempts t = true := by
  have hcap : s.maxAttempts = 0 ∨ e.attemptCount < s.maxAttempts := by
    rw [Spent] at hspent
    omega
  have hopen : e.status = .received ∨ e.status = .retry ∨ e.status = .verifying := by
    cases h : e.status <;> simp_all [ManifestStatus.terminal]
  simp [Manifest.claimable, hnext, hlock, hcap, or_assoc, hopen]

theorem not_claimable_of_spent {t : Millis} (hspent : Spent s e) :
    e.claimable s.maxAttempts t = false := by
  obtain ⟨hcap, hle⟩ := hspent
  have hlt : ¬ e.attemptCount < s.maxAttempts := by omega
  simp [Manifest.claimable, hcap, hlt]

/-- A spent row never becomes claimable: its next attempt falls due, and still nothing. -/
theorem not_becomesClaimable {now : Millis} (hspent : Spent s e) :
    ¬ BecomesClaimable s now e := by
  intro h
  -- a time by which the next attempt is due
  have hdue : e.nextAttemptAt.all (· ≤ max now (e.nextAttemptAt.getD now)) = true := by
    cases e.nextAttemptAt <;> simp
  have hclaim := h _ (le_max_left now (e.nextAttemptAt.getD now)) hdue
  rw [not_claimable_of_spent hspent] at hclaim
  cases hclaim

theorem get?_sweepExhausted (hcap : s.maxAttempts ≠ 0) {picked : List String}
    (hnodup : picked.Nodup) :
    (sweepExhausted s.maxAttempts w.rows picked).get? rid =
      (w.rows.get? rid).map fun e => if rid ∈ picked then sweptRow e else e := by
  rw [sweepExhausted, if_neg hcap, Dict.get?_modifyAll _ hnodup]

/-- A row that the sweep may pass over is not swept next. -/
theorem not_sweptNext_of_notMem {picked : List String} (hget : w.rows.get? rid = some e)
    (hopen : e.status.terminal = false) (hcap : s.maxAttempts ≠ 0)
    (hpicks : SweepPicks s.maxAttempts s.sweepLimit w.rows w.now picked) (hmem : rid ∉ picked) :
    ¬ SweptNext s w rid := by
  intro h
  obtain ⟨e', hget', hterminal⟩ := h w.now picked le_rfl hpicks
  rw [get?_sweepExhausted hcap hpicks.nodup, hget, Option.map_some, if_neg hmem,
    Option.some.injEq] at hget'
  rw [← hget', hopen] at hterminal
  cases hterminal

theorem spentWaiting_iff :
    e.spentWaiting s.maxAttempts = true ↔
      (e.status = .received ∨ e.status = .retry) ∧ s.maxAttempts ≤ e.attemptCount := by
  simp [Manifest.spentWaiting]

theorem not_abandoned_of_noneStranded (hinv : LockInv w) (h : NoneStranded s w)
    (hget : w.rows.get? rid = some e) : ¬ Abandoned s w.now e := by
  rintro ⟨hstatus, hspent, hlock⟩
  have hopen : e.status.terminal = false := by rw [hstatus]; rfl
  rcases h rid e hget hopen with hlocked | hclaim | hswept
  · exact hlock hlocked
  · exact not_becomesClaimable hspent hclaim
  · obtain ⟨picked, hpicks⟩ := Dict.exists_selects w.rows
      (fun _ e => e.spentWaiting s.maxAttempts) s.sweepLimit
    refine not_sweptNext_of_notMem hget hopen hspent.1
      ((sweepPicks_iff hinv w.now picked).mpr hpicks) ?_ hswept
    -- the sweep looks at received and retry rows only
    intro hmem
    obtain ⟨e', hget', hwaiting⟩ := hpicks.sound rid hmem
    rw [hget, Option.some.injEq] at hget'
    subst hget'
    rw [spentWaiting_iff, hstatus] at hwaiting
    simp at hwaiting

theorem room_of_noneStranded (hinv : LockInv w) (h : NoneStranded s w)
    (hcap : s.maxAttempts ≠ 0) : waitingCount s w ≤ s.sweepLimit := by
  by_contra hover
  rw [not_le] at hover
  have hpos : 0 < w.rows.count fun _ e => e.spentWaiting s.maxAttempts := by
    rw [waitingCount] at hover
    omega
  -- some row waits, and the query may leave out just that one
  obtain ⟨rid, e, hget, hwaiting⟩ := Dict.exists_of_count_pos hpos
  obtain ⟨picked, hpicks, hmem⟩ := Dict.exists_selects_notMem hover hget hwaiting
  obtain ⟨hstatus, hle⟩ := spentWaiting_iff.mp hwaiting
  have hopen : e.status.terminal = false := by
    rcases hstatus with hs | hs <;> rw [hs] <;> rfl
  have hlock : e.lockedUntil = none :=
    lock_none hinv hget (by rcases hstatus with hs | hs <;> simp [hs])
  rcases h rid e hget hopen with ⟨until_, hsome, -⟩ | hclaim | hswept
  · rw [hlock] at hsome
    cases hsome
  · exact not_becomesClaimable ⟨hcap, hle⟩ hclaim
  · exact not_sweptNext_of_notMem hget hopen hcap
      ((sweepPicks_iff hinv w.now picked).mpr hpicks) hmem hswept

theorem sweptNext_of_waiting (hinv : LockInv w) (hcap : s.maxAttempts ≠ 0)
    (hroom : waitingCount s w ≤ s.sweepLimit) (hget : w.rows.get? rid = some e)
    (hwaiting : e.spentWaiting s.maxAttempts = true) : SweptNext s w rid := by
  intro now picked _ hpicks
  have hselects := (sweepPicks_iff hinv now picked).mp hpicks
  have hmem : rid ∈ picked := hselects.complete hroom hget hwaiting
  refine ⟨sweptRow e, ?_, rfl⟩
  rw [get?_sweepExhausted hcap hpicks.nodup, hget, Option.map_some, if_pos hmem]

theorem unlocked_all {now t : Millis} (hlock : ¬ e.Locked now) (ht : now ≤ t) :
    e.lockedUntil.all (· ≤ t) = true := by
  cases h : e.lockedUntil with
  | none => rfl
  | some until_ =>
    have hle : ¬ now < until_ := fun hlt => hlock ⟨until_, h, hlt⟩
    simpa using (not_lt.mp hle).trans ht

/-- The states in which no row is stranded, by the rows they may not hold. -/
theorem noneStranded_iff (hinv : LockInv w) : NoneStranded s w ↔ Safe s w := by
  constructor
  · intro h
    exact ⟨fun rid e hget => not_abandoned_of_noneStranded hinv h hget,
      room_of_noneStranded hinv h⟩
  · rintro ⟨hheld, hroom⟩ rid e hget hopen
    by_cases hlock : e.Locked w.now
    · exact Or.inl hlock
    right
    by_cases hspent : Spent s e
    · right
      -- spent and unlocked: not in `verifying`, so it waits for the sweep
      have hstatus : e.status = .received ∨ e.status = .retry := by
        have hnot : e.status ≠ .verifying := fun hv => hheld rid e hget ⟨hv, hspent, hlock⟩
        cases h : e.status <;> simp_all [ManifestStatus.terminal]
      exact sweptNext_of_waiting hinv hspent.1 (hroom hspent.1) hget
        (spentWaiting_iff.mpr ⟨hstatus, hspent.2⟩)
    · left
      intro t ht hnext
      exact claimable_of_not_spent hopen hnext (unlocked_all hlock ht) hspent

/-! ## What each write does -/

/-- Where `verify_one` sends a row to `retry`: the solution cannot be fetched for now. -/
def FetchFails (env : VerifyEnv) (row : Manifest) : Prop :=
  env.manifestParses row.manifestJson = true ∧ ∃ reason, fetchBlob env row = .error (.retry reason)

variable {env : VerifyEnv} {row : Manifest}

theorem resolveChallenge_not_retry {reason : String} :
    resolveChallenge env row ≠ some (.error (.retry reason)) := by
  intro h
  unfold resolveChallenge at h
  cases hparse : env.parseChallengeId row.challengeId with
  | none => simp [hparse] at h
  | some epoch =>
    rw [hparse] at h
    simp only [Option.bind_eq_bind, Option.bind_eq_some_iff] at h
    obtain ⟨identity, -, tierSeq, -, h⟩ := h
    rcases tierSeq with _ | ⟨tier, seq⟩
    · simp at h
    · simp only at h
      split at h
      · simp at h
      · simp only [Option.bind_eq_some_iff] at h
        obtain ⟨cnf, -, h⟩ := h
        rcases cnf with _ | ⟨cid, cnfText⟩ <;> simp at h

theorem checkAssignment_not_retry {cnfText reason : String} {blob : List ℕ} :
    checkAssignment env row cnfText blob ≠ some (.error (.retry reason)) := by
  intro h
  unfold checkAssignment at h
  split at h
  · cases hutf8 : env.decodeUtf8 blob with
    | none => simp [hutf8] at h
    | some text =>
      rw [hutf8] at h
      simp only [Option.bind_eq_bind, Option.bind_eq_some_iff] at h
      obtain ⟨check, -, h⟩ := h
      cases check <;> simp at h
  · split at h
    · simp only [Option.bind_eq_bind, Option.bind_eq_some_iff] at h
      obtain ⟨cnf, -, h⟩ := h
      split at h
      · simp at h
      · split at h <;> simp at h
    · simp at h

theorem judgeBlob_not_retry {blob : List ℕ} {reason : String} :
    judgeBlob env row blob ≠ some (.retry reason) := by
  intro h
  unfold judgeBlob at h
  split at h
  · simp at h
  · simp only [Option.bind_eq_bind, Option.bind_eq_some_iff] at h
    obtain ⟨resolved, hresolved, h⟩ := h
    cases resolved with
    | error verdict =>
      simp only [Option.some.injEq] at h
      exact resolveChallenge_not_retry (h ▸ hresolved)
    | ok c =>
      simp only [Option.bind_eq_some_iff] at h
      obtain ⟨checked, hchecked, h⟩ := h
      cases checked with
      | error verdict =>
        simp only [Option.some.injEq] at h
        exact checkAssignment_not_retry (h ▸ hchecked)
      | ok assignment =>
        simp only [Option.bind_eq_some_iff] at h
        obtain ⟨verified, -, h⟩ := h
        cases verified <;> simp at h

theorem verifyOne_retry_iff {verdict : Verdict} (h : verifyOne env row = some verdict) :
    FetchFails env row ↔ ∃ reason, verdict = .retry reason := by
  unfold verifyOne at h
  split at h
  · next hparse =>
      rw [Option.some.injEq] at h
      simp [FetchFails, hparse, ← h]
  · next hparse =>
      rw [Bool.not_eq_false] at hparse
      cases hfetch : fetchBlob env row with
      | error v =>
        rw [hfetch] at h
        simp only [Option.some.injEq] at h
        subst h
        simp [FetchFails, hparse, hfetch]
      | ok blob =>
        rw [hfetch] at h
        constructor
        · rintro ⟨-, reason, hretry⟩
          rw [hfetch] at hretry
          cases hretry
        · rintro ⟨reason, rfl⟩
          exact absurd h judgeBlob_not_retry

def afterClaim (s : QueueSettings) (skipLocked : List String) (rows : Dict String Manifest)
    (workerId : String) (now lockUntil : Millis) (batchSize : ℕ) (rid : String) (e : Manifest) :
    Manifest :=
  if rid ∈ (claimSelection s.maxAttempts skipLocked rows now batchSize).map Prod.fst then
    claimedRow workerId lockUntil e
  else e

theorem get?_claimBatch (s : QueueSettings) (skipLocked : List String)
    (rows : Dict String Manifest) (workerId : String) (now lockUntil : Millis) (batchSize : ℕ)
    (rid : String) :
    (claimBatch s.postgres s.maxAttempts skipLocked rows workerId now lockUntil batchSize).1.get?
        rid =
      (rows.get? rid).map (afterClaim s skipLocked rows workerId now lockUntil batchSize rid) := by
  have hnodup : ((claimSelection s.maxAttempts skipLocked rows now batchSize).map
      Prod.fst).Nodup := Dict.nodup_keys_oldest
  exact Dict.get?_modifyAll rows hnodup (claimedRow workerId lockUntil) rid

/-- A submission leaves the table, or appends a received row under a new id. -/
theorem admitManifest_cases (rid : String) (row : Manifest) (rows : Dict String Manifest) :
    (admitManifest rid row rows).1 = rows ∨
      (rows.get? rid = none ∧ (admitManifest rid row rows).1 = rows.set rid row) := by
  unfold admitManifest
  by_cases htaken : rows.items.any fun r => r.2.idempotencyKey = row.idempotencyKey
  · left
    simp only [htaken, if_true]
  · simp only [htaken, if_false, Bool.false_eq_true]
    rcases Dict.insertIgnore_cases rows rid row with ⟨-, -, heq⟩ | ⟨hnone, heq⟩
    · left
      rw [heq]
    · right
      exact ⟨hnone, by rw [heq]⟩

theorem finishedRow_lockedUntil (now : Millis) (verdict : Verdict) (e : Manifest) :
    (finishedRow now verdict e).lockedUntil = none := by cases verdict <;> rfl

theorem finishedRow_status (now : Millis) (verdict : Verdict) (e : Manifest) :
    (finishedRow now verdict e).status ≠ .verifying := by cases verdict <;> simp [finishedRow]

/-- A written verdict leaves a row waiting for the sweep only if it was `retry`. -/
theorem finishedRow_spentWaiting (s : QueueSettings) (now : Millis) (verdict : Verdict)
    (e : Manifest) :
    (finishedRow now verdict e).spentWaiting s.maxAttempts = true ↔
      (∃ reason, verdict = .retry reason) ∧ s.maxAttempts ≤ e.attemptCount := by
  rw [spentWaiting_iff]
  cases verdict <;> simp [finishedRow]

/-! ## Locks -/

theorem lockInv_start (h : Start w) : LockInv w := by
  intro rid e hget
  rw [h.rows] at hget
  cases hget

theorem lockInv_submit {idempotencyKey : String} {receivedAt : Millis} {body : ManifestBody}
    {signature manifestJson : String} {inlineSolution : Option (List ℕ)} (hinv : LockInv w)
    (hrow : row = receivedRow idempotencyKey receivedAt body signature manifestJson inlineSolution) :
    LockInv { w with rows := (admitManifest rid row w.rows).1 } := by
  intro j e hget
  rcases admitManifest_cases rid row w.rows with heq | ⟨-, heq⟩
  · exact hinv j e (heq ▸ hget)
  · change (admitManifest rid row w.rows).1.get? j = some e at hget
    rw [heq, Dict.get?_set] at hget
    split at hget
    · rw [Option.some.injEq] at hget
      subst hget hrow
      simp [receivedRow]
    · exact hinv j e hget

/-- Only a claim sets a lock, and it sets the status with it. -/
theorem lockInv_step {action : Action} (hinv : LockInv w) (h : Step s w action w') :
    LockInv w' := by
  cases h with
  | submit hrow => exact lockInv_submit hinv hrow
  | @claim workerId now lockUntil batchSize skipLocked rows claimed _ hclaim =>
    intro rid e hget
    have hrows := get?_claimBatch s skipLocked w.rows workerId now lockUntil batchSize rid
    rw [hclaim] at hrows
    change rows.get? rid = some e at hget
    rw [hrows, Option.map_eq_some_iff] at hget
    obtain ⟨old, hold, rfl⟩ := hget
    unfold afterClaim
    split
    · simp [claimedRow]
    · exact hinv rid old hold
  | @verify env rid row verdict _ _ =>
    intro j e hget
    change (w.rows.modify rid (finishedRow env.now verdict)).get? j = some e at hget
    rw [Dict.get?_modify] at hget
    split at hget
    · rw [Option.map_eq_some_iff] at hget
      obtain ⟨old, -, rfl⟩ := hget
      simp [finishedRow_lockedUntil, finishedRow_status]
    · exact hinv j e hget
  | crash => exact hinv
  | @sweep now picked hpicks =>
    intro rid e hget
    change (sweepExhausted s.maxAttempts w.rows picked).get? rid = some e at hget
    by_cases hcap : s.maxAttempts = 0
    · rw [sweepExhausted, if_pos hcap] at hget
      exact hinv rid e hget
    · rw [get?_sweepExhausted hcap hpicks.nodup, Option.map_eq_some_iff] at hget
      obtain ⟨old, hold, rfl⟩ := hget
      split
      · simp [sweptRow]
      · exact hinv rid old hold
  | tick => exact hinv

/-! ## Prompt steps -/

/-- The rows other than `rid` that wait for the sweep. -/
def othersWaiting (s : QueueSettings) (w : World) (rid : String) : ℕ :=
  w.rows.count fun j e => j ≠ rid && e.spentWaiting s.maxAttempts

/-- The condition on a step. -/
def Prompt (s : QueueSettings) (w : World) : Action → Prop
  -- a claim for the last attempt takes a lock that is not over yet
  | .claim _ now lockUntil batchSize skipLocked =>
    ∀ row ∈ claimSelection s.maxAttempts skipLocked w.rows now batchSize,
      s.maxAttempts ≠ 0 → s.maxAttempts ≤ row.2.attemptCount + 1 → w.now < lockUntil
  -- a failed fetch of a last attempt finds room for one more row in the next sweep
  | .verify env rid row =>
    FetchFails env row → ∀ e, w.rows.get? rid = some e → Spent s e →
      othersWaiting s w rid < s.sweepLimit
  -- a last attempt is reported before its lock runs out
  | .tick now =>
    ∀ rid e, w.rows.get? rid = some e → e.status = .verifying → Spent s e → e.Locked now
  | .submit _ _ | .crash _ _ | .sweep _ _ => True

theorem safe_submit (hsafe : Safe s w) (hstatus : row.status = .received)
    (hattempts : row.attemptCount = 0) :
    Safe s { w with rows := (admitManifest rid row w.rows).1 } := by
  rcases admitManifest_cases rid row w.rows with heq | ⟨hnone, heq⟩
  · rw [heq]
    exact hsafe
  rw [heq]
  constructor
  · intro j e hget
    change (w.rows.set rid row).get? j = some e at hget
    rw [Dict.get?_set] at hget
    split at hget
    · rw [Option.some.injEq] at hget
      subst hget
      rintro ⟨hverifying, -, -⟩
      rw [hstatus] at hverifying
      cases hverifying
    · exact hsafe.held j e hget
  · intro hcap
    have hnew : row.spentWaiting s.maxAttempts = false := by
      rw [Bool.eq_false_iff, ne_eq, spentWaiting_iff, hattempts]
      omega
    have hcount := Dict.count_set_of_none (p := fun _ e => e.spentWaiting s.maxAttempts) row hnone
    rw [hnew] at hcount
    have hroom := hsafe.room hcap
    change (w.rows.set rid row).count _ ≤ _
    rw [waitingCount] at hroom
    simp only [Bool.false_eq_true, if_false] at hcount
    omega

theorem prompt_claim_iff {workerId : String} {now lockUntil : Millis} {batchSize : ℕ}
    {skipLocked : List String} {rows : Dict String Manifest} {claimed : List (String × Manifest)}
    (hsafe : Safe s w)
    (hclaim : claimBatch s.postgres s.maxAttempts skipLocked w.rows workerId now lockUntil
      batchSize = (rows, claimed)) :
    Prompt s w (.claim workerId now lockUntil batchSize skipLocked) ↔
      Safe s { w with rows := rows, work := claimed ++ w.work } := by
  have hrows : ∀ rid, rows.get? rid =
      (w.rows.get? rid).map (afterClaim s skipLocked w.rows workerId now lockUntil batchSize rid) := by
    intro rid
    have h := get?_claimBatch s skipLocked w.rows workerId now lockUntil batchSize rid
    rwa [hclaim] at h
  constructor
  · intro hprompt
    constructor
    · intro rid e hget
      change rows.get? rid = some e at hget
      rw [hrows, Option.map_eq_some_iff] at hget
      obtain ⟨old, hold, rfl⟩ := hget
      unfold afterClaim
      split
      · next hmem =>
          rintro ⟨-, ⟨hcap, hle⟩, hlock⟩
          rw [List.mem_map] at hmem
          obtain ⟨row, hrow, rfl⟩ := hmem
          have hrowget := (Dict.mem_oldest hrow).1
          rw [hold, Option.some.injEq] at hrowget
          subst hrowget
          exact hlock ⟨lockUntil, rfl, hprompt row hrow hcap hle⟩
      · exact hsafe.held rid old hold
    · intro hcap
      -- a claimed row is in `verifying`, which the sweep does not look at
      have hle := Dict.count_modifyAll_le (p := fun _ e => e.spentWaiting s.maxAttempts)
        (f := claimedRow workerId lockUntil) (fun _ e => by simp [Manifest.spentWaiting, claimedRow])
        ((claimSelection s.maxAttempts skipLocked w.rows now batchSize).map Prod.fst) w.rows
      have hfst : rows = w.rows.modifyAll
          ((claimSelection s.maxAttempts skipLocked w.rows now batchSize).map Prod.fst)
          (claimedRow workerId lockUntil) := (congrArg Prod.fst hclaim).symm
      rw [← hfst] at hle
      exact hle.trans (hsafe.room hcap)
  · intro hsafe' row hrow hcap hle
    have hget := (Dict.mem_oldest hrow).1
    have hmem : row.1 ∈ (claimSelection s.maxAttempts skipLocked w.rows now batchSize).map Prod.fst :=
      List.mem_map_of_mem hrow
    have hget' : rows.get? row.1 = some (claimedRow workerId lockUntil row.2) := by
      rw [hrows, hget, Option.map_some, afterClaim, if_pos hmem]
    by_contra hover
    refine hsafe'.held row.1 _ hget' ⟨rfl, ⟨hcap, hle⟩, ?_⟩
    rintro ⟨until_, hsome, hlt⟩
    rw [claimedRow, Option.some.injEq] at hsome
    exact hover (hsome ▸ hlt)

theorem prompt_verify_iff {verdict : Verdict} (hsafe : Safe s w)
    (hverdict : verifyOne env row = some verdict) :
    Prompt s w (.verify env rid row) ↔
      Safe s { w with
        rows := w.rows.modify rid (finishedRow env.now verdict)
        work := w.work.erase (rid, row) } := by
  have hretry := verifyOne_retry_iff hverdict
  have hcount := Dict.count_modify (p := fun _ e => e.spentWaiting s.maxAttempts) w.rows rid
    (finishedRow env.now verdict)
  have hothers : othersWaiting s w rid ≤ waitingCount s w := by
    rw [waitingCount, Dict.count_eq_add _ _ rid]
    exact Nat.le_add_right _ _
  constructor
  · intro hprompt
    constructor
    · intro j e hget
      change (w.rows.modify rid (finishedRow env.now verdict)).get? j = some e at hget
      rw [Dict.get?_modify] at hget
      split at hget
      · rw [Option.map_eq_some_iff] at hget
        obtain ⟨old, -, rfl⟩ := hget
        exact fun habandoned => finishedRow_status _ _ _ habandoned.1
      · exact hsafe.held j e hget
    · intro hcap
      have hroom := hsafe.room hcap
      change (w.rows.modify rid (finishedRow env.now verdict)).count _ ≤ _
      rw [hcount]
      change othersWaiting s w rid + _ ≤ _
      split
      · next hany =>
          -- the written row waits: it was sent to `retry` with its attempts used up
          rw [Option.any_eq_true_iff_get] at hany
          obtain ⟨hsome, hwaiting⟩ := hany
          obtain ⟨hfails, hle⟩ := (finishedRow_spentWaiting s _ _ _).mp hwaiting
          have hlt := hprompt (hretry.mpr hfails) _ (Option.some_get hsome).symm ⟨hcap, hle⟩
          omega
      · omega
  · intro hsafe' hfails e hget hspent
    have hroom := hsafe'.room hspent.1
    change (w.rows.modify rid (finishedRow env.now verdict)).count _ ≤ _ at hroom
    have hwaiting := (finishedRow_spentWaiting s env.now verdict e).mpr
      ⟨hretry.mp hfails, hspent.2⟩
    rw [hcount, hget, Option.any_some, if_pos hwaiting] at hroom
    exact hroom

theorem safe_sweep {now : Millis} {picked : List String} (hsafe : Safe s w)
    (hpicks : SweepPicks s.maxAttempts s.sweepLimit w.rows now picked) :
    Safe s { w with rows := sweepExhausted s.maxAttempts w.rows picked } := by
  by_cases hcap : s.maxAttempts = 0
  · rw [sweepExhausted, if_pos hcap]
    exact hsafe
  constructor
  · intro rid e hget
    change (sweepExhausted s.maxAttempts w.rows picked).get? rid = some e at hget
    rw [get?_sweepExhausted hcap hpicks.nodup, Option.map_eq_some_iff] at hget
    obtain ⟨old, hold, rfl⟩ := hget
    split
    · rintro ⟨hstatus, -, -⟩
      cases hstatus
    · exact hsafe.held rid old hold
  · intro _
    change (sweepExhausted s.maxAttempts w.rows picked).count _ ≤ _
    rw [sweepExhausted, if_neg hcap]
    have hle := Dict.count_modifyAll_le (p := fun _ e => e.spentWaiting s.maxAttempts)
      (f := sweptRow) (fun _ e => by simp [Manifest.spentWaiting, sweptRow]) picked w.rows
    exact hle.trans (hsafe.room hcap)

theorem prompt_tick_iff {now : Millis} (hsafe : Safe s w) :
    Prompt s w (.tick now) ↔ Safe s { w with now := now } := by
  constructor
  · intro hprompt
    refine ⟨?_, hsafe.room⟩
    rintro rid e hget ⟨hstatus, hspent, hlock⟩
    exact hlock (hprompt rid e hget hstatus hspent)
  · intro hsafe' rid e hget hstatus hspent
    by_contra hlock
    exact hsafe'.held rid e hget ⟨hstatus, hspent, hlock⟩

/-- From a good state, the prompt steps are those that end in a good state. -/
theorem step_safe_iff {action : Action} (hsafe : Safe s w) (h : Step s w action w') :
    Prompt s w action ↔ Safe s w' := by
  cases h with
  | submit hrow => exact iff_of_true trivial (safe_submit hsafe (hrow ▸ rfl) (hrow ▸ rfl))
  | claim _ hclaim => exact prompt_claim_iff hsafe hclaim
  | verify _ hverdict => exact prompt_verify_iff hsafe hverdict
  | crash => exact iff_of_true trivial ⟨hsafe.held, hsafe.room⟩
  | sweep hpicks => exact iff_of_true trivial (safe_sweep hsafe hpicks)
  | tick _ => exact prompt_tick_iff hsafe

theorem safe_start (h : Start w) : Safe s w := by
  constructor
  · intro rid e hget
    rw [h.rows] at hget
    cases hget
  · intro _
    rw [waitingCount, h.rows, Dict.count_empty]
    exact Nat.zero_le _

/-- The runs in which no manifest is ever stranded are the runs of prompt steps. -/
theorem unstranded_iff_prompt {actions : List Action} (hstart : Start w) :
    Run (Run.Guarded (Step s) (Prompt s)) w actions w' ↔
      Run (Run.Within (Step s) (NoneStranded s)) w actions w' := by
  have hinv : LockInv w := lockInv_start hstart
  refine Run.guarded_iff hinv ((noneStranded_iff hinv).mpr (safe_start hstart))
    (fun t l u => lockInv_step) ?_
  intro t l u hlock hgood hs
  rw [noneStranded_iff (lockInv_step hlock hs)]
  exact step_safe_iff ((noneStranded_iff hlock).mp hgood) hs

/-! ## Workers that die with the same row -/

/-- The defaults of `process_batch` and `sweep_exhausted`, on SQLite. -/
def deployed : QueueSettings := ⟨false, 20, 500⟩

/-- One second after the lock of the claim at round `k`. -/
def roundStart (k : ℕ) : Millis := 121000 * k

theorem roundStart_succ (k : ℕ) : roundStart k + 120000 ≤ roundStart (k + 1) := by
  have h : 121000 * (k : ℤ) + 120000 ≤ 121000 * ((k + 1 : ℕ) : ℤ) := by
    push_cast
    omega
  exact h

/-- A manifest whose worker has died `k` times. -/
def doomedRow : ℕ → Manifest
  | 0 => receivedRow "key" 0
      ⟨"cathedral.solution_manifest.v1", "card", "miner", "t0", "pm-1", "bitset/v1", "https://blob",
        "00", 0, ""⟩ "sig" "\x7b\x7d" none
  | k + 1 => claimedRow "worker" (roundStart k + 120000) (doomedRow k)

/-- The deployment at the start of round `k`. -/
def doomedWorld (k : ℕ) : World := ⟨Dict.empty.set "r" (doomedRow k), [], roundStart k⟩

/-- A deployment at time zero. -/
def freshWorld : World := ⟨Dict.empty, [], 0⟩

theorem freshWorld_start : Start freshWorld := ⟨rfl, rfl⟩

theorem doomedRow_attemptCount (k : ℕ) : (doomedRow k).attemptCount = k := by
  induction k with
  | zero => rfl
  | succ k ih => rw [doomedRow, claimedRow, ih]

theorem doomedRow_nextAttemptAt (k : ℕ) : (doomedRow k).nextAttemptAt = none := by
  induction k with
  | zero => rfl
  | succ k ih => rw [doomedRow, claimedRow, ih]

/-- The lock of the round before has ended. -/
theorem doomedRow_unlocked (k : ℕ) : (doomedRow k).lockedUntil.all (· ≤ roundStart k) = true := by
  cases k with
  | zero => rfl
  | succ k =>
    rw [doomedRow, claimedRow, Option.all_some, decide_eq_true_eq]
    exact roundStart_succ k

theorem doomedRow_claimable {k : ℕ} (hk : k < 20) :
    (doomedRow k).claimable 20 (roundStart k) = true := by
  have hopen : (doomedRow k).status.terminal = false := by cases k <;> rfl
  have hnext : (doomedRow k).nextAttemptAt.all (· ≤ roundStart k) = true := by
    rw [doomedRow_nextAttemptAt, Option.all_none]
  have hspent : ¬ Spent deployed (doomedRow k) := by
    rintro ⟨-, hle⟩
    rw [doomedRow_attemptCount] at hle
    change 20 ≤ k at hle
    omega
  exact claimable_of_not_spent (s := deployed) hopen hnext (doomedRow_unlocked k) hspent

theorem doomed_claimSelection {k : ℕ} (hk : k < 20) :
    claimSelection 20 [] (Dict.empty.set "r" (doomedRow k)) (roundStart k) 8 =
      [("r", doomedRow k)] := by
  have hitems : (Dict.empty.set "r" (doomedRow k)).items = [("r", doomedRow k)] := rfl
  simp [claimSelection, Dict.oldest, hitems, doomedRow_claimable hk]

theorem doomed_claimBatch {k : ℕ} (hk : k < 20) :
    claimBatch false 20 [] (Dict.empty.set "r" (doomedRow k)) "worker" (roundStart k)
        (roundStart k + 120000) 8 =
      (Dict.empty.set "r" (doomedRow (k + 1)), [("r", doomedRow k)]) := by
  rw [claimBatch, doomed_claimSelection hk]
  rfl

/-- A claim, the death of its worker, and the end of the lock. -/
def deadRound (k : ℕ) : List Action :=
  [.claim "worker" (roundStart k) (roundStart k + 120000) 8 [], .crash "r" (doomedRow k),
    .tick (roundStart (k + 1))]

/-- The deployment while the worker of round `k` is at work. -/
def busyWorld (k : ℕ) (work : List (String × Manifest)) : World :=
  ⟨Dict.empty.set "r" (doomedRow (k + 1)), work, roundStart k⟩

theorem doomed_claim {k : ℕ} (hk : k < 20) :
    Step deployed (doomedWorld k) (.claim "worker" (roundStart k) (roundStart k + 120000) 8 [])
      (busyWorld k [("r", doomedRow k)]) := by
  have h := Step.claim (s := deployed) (w := doomedWorld k) (fun _ => rfl) (doomed_claimBatch hk)
  exact h

theorem doomed_crash (k : ℕ) :
    Step deployed (busyWorld k [("r", doomedRow k)]) (.crash "r" (doomedRow k))
      (busyWorld k []) := by
  have h := @Step.crash deployed (busyWorld k [("r", doomedRow k)]) "r" (doomedRow k)
  rwa [busyWorld, List.erase_cons_head] at h

theorem doomed_tick (k : ℕ) :
    Step deployed (busyWorld k []) (.tick (roundStart (k + 1))) (doomedWorld (k + 1)) := by
  have hle : roundStart k ≤ roundStart (k + 1) :=
    (Int.le_add_of_nonneg_right (by decide)).trans (roundStart_succ k)
  exact .tick hle

theorem deadRound_run {k : ℕ} (hk : k < 20) :
    Run (Step deployed) (doomedWorld k) (deadRound k) (doomedWorld (k + 1)) :=
  ((Run.nil.snoc (doomed_claim hk)).snoc (doomed_crash k)).snoc (doomed_tick k)

theorem doomed_submit : Step deployed freshWorld (.submit "r" (doomedRow 0)) (doomedWorld 0) :=
  .submit rfl

theorem doomed_run {k : ℕ} (hk : k ≤ 20) :
    ∃ actions, Run (Step deployed) freshWorld actions (doomedWorld k) := by
  induction k with
  | zero => exact ⟨_, Run.nil.snoc doomed_submit⟩
  | succ k ih =>
    obtain ⟨actions, hrun⟩ := ih (by omega)
    exact ⟨_, hrun.append (deadRound_run hk)⟩

/-- With the defaults a run leaves a manifest behind for good: in `verifying`, on its
twentieth attempt, with an expired lock. -/
theorem last_attempt_stranded :
    ¬ ∀ actions w, Run (Step deployed) freshWorld actions w → NoneStranded deployed w := by
  intro h
  obtain ⟨actions, hrun⟩ := doomed_run le_rfl
  have hinv : LockInv (doomedWorld 20) :=
    Run.invariant (lockInv_start freshWorld_start) (fun _ _ _ => lockInv_step) hrun
  have hsafe := (noneStranded_iff hinv).mp (h actions _ hrun)
  refine hsafe.held "r" (doomedRow 20) rfl ⟨rfl, ⟨by decide, ?_⟩, ?_⟩
  · rw [doomedRow_attemptCount]
    exact le_rfl
  · rintro ⟨until_, hsome, hlt⟩
    have huntil : until_ = roundStart 19 + 120000 := (Option.some.inj hsome).symm
    rw [huntil] at hlt
    revert hlt
    decide

theorem unstranded_first_death :
    Run (Run.Within (Step deployed) (NoneStranded deployed)) freshWorld
      (.submit "r" (doomedRow 0) :: deadRound 0) (doomedWorld 1) := by
  refine (unstranded_iff_prompt freshWorld_start).mp ?_
  have hclaim : Prompt deployed (doomedWorld 0)
      (.claim "worker" (roundStart 0) (roundStart 0 + 120000) 8 []) := by
    intro _ _ _ _
    decide
  have htick : Prompt deployed (busyWorld 0 []) (.tick (roundStart 1)) := by
    rintro rid e hget - ⟨-, hspent⟩
    change (Dict.empty.set "r" (doomedRow 1)).get? rid = some e at hget
    rw [Dict.get?_set] at hget
    split at hget
    · rw [Option.some.injEq] at hget
      subst hget
      have hone : (20 : ℕ) ≤ 1 := hspent
      omega
    · cases hget
  exact (((Run.nil.snoc ⟨doomed_submit, trivial⟩).snoc ⟨doomed_claim (by decide), hclaim⟩).snoc
    ⟨doomed_crash 0, trivial⟩).snoc ⟨doomed_tick 0, htick⟩

end Cathedral.Publisher.Manifests
