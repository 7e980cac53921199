import Mathlib.Algebra.Order.Group.Unbundled.Abs
import Cathedral.Lib.Run
import Cathedral.Publisher.Tables

/-!
# Cathedral.Publisher.Bitset — graded bitset events and their payout rows

Thin submissions are admitted as `received` events; workers claim them under
leases, grade them, and write the verdict in a second transaction, together with
the payout row when the bridge is on. `Step` lists the transactions; a claimed
copy stays with its worker after the lease has ended.
-/

namespace Cathedral.Publisher.Bitset

/-! ## Events -/

/-- `v2_submit_events.status`. -/
inductive EventStatus where
  | received
  | verified
  | rejected
deriving DecidableEq, Repr

/-- A row of `v2_submit_events`; its key is the receipt id. -/
structure BitsetEvent where
  minerHotkey : String
  challengeId : String
  epoch : ℤ
  tier : ℤ
  seq : ℤ
  cnfSha256 : String
  assignmentB64 : String
  status : EventStatus
  eligibilityStatus : String
  receivedAt : Millis
  verifiedAt : Option Millis
  weightedScore : ℚ
  answerHash : String
  verifierDetailsHash : String
  lockedBy : Option String
  lockedUntil : Option Millis
  lastError : Option String
deriving DecidableEq, Repr

def BitsetEvent.pair (e : BitsetEvent) : String × String := (e.challengeId, e.minerHotkey)

/-- What a client may rely on: status, reason and score. -/
def BitsetEvent.verdict (e : BitsetEvent) : EventStatus × String × Option String × ℚ :=
  (e.status, e.eligibilityStatus, e.lastError, e.weightedScore)

structure Tables where
  events : Dict String BitsetEvent
  solves : Dict (String × String) PerMinerSolve

/-! ## Claims -/

/-- The events a worker may claim at `now`. -/
def BitsetEvent.claimable (now : Millis) (e : BitsetEvent) : Bool :=
  e.status = .received && e.lockedUntil.all (· ≤ now)

/-- `ORDER BY received_at_iso ASC LIMIT ?`. -/
def claimSelection (events : Dict String BitsetEvent) (now : Millis) (batchSize : ℕ) :
    List (String × BitsetEvent) :=
  ((events.items.filter fun row => row.2.claimable now).insertionSort
    fun a b => a.2.receivedAt ≤ b.2.receivedAt).take batchSize

/-- The lease of a claim. -/
def lockedRow (workerId : String) (lockUntil : Millis) (e : BitsetEvent) : BitsetEvent :=
  { e with lockedBy := some workerId, lockedUntil := some lockUntil }

/-- `claim_bitset_batch`: lock the selected events and return them, on Postgres as
they are after the update. -/
def claimBitsetBatch (postgres : Bool) (events : Dict String BitsetEvent) (workerId : String)
    (now lockUntil : Millis) (batchSize : ℕ) :
    Dict String BitsetEvent × List (String × BitsetEvent) :=
  let selection := claimSelection events now batchSize
  (events.modifyAll (selection.map Prod.fst) (lockedRow workerId lockUntil),
    if postgres then selection.map fun row => (row.1, lockedRow workerId lockUntil row.2)
    else selection)

/-! ## Grading -/

/-- The functions grading calls; `none` is a raised exception. -/
structure GradeEnv where
  now : Millis
  currentEpoch : ℤ
  scoringIdentity : String → String
  instanceId : (identity : String) → (epoch tier seq : ℤ) → String
  /-- `v2_cnf_store.get`. -/
  storedCnf : (challengeId expectedSha256 : String) → Option String
  generateInstance : (identity : String) → (epoch tier seq : ℤ) → Option (String × String)
  cnfSha256 : String → String
  lower : String → String
  parseCnf : String → Option (ℤ × List (List ℤ))
  b64decode : String → Option (List ℕ)
  bytesSha256 : List ℕ → String
  /-- The hash over the verifier details. -/
  detailsSha256 : BitsetEvent → (cnfSha answerHash : String) → Millis → String
  weightFor : ℤ → ℚ

/-- What grading decides. -/
inductive Grade where
  | verified (score : ℚ) (answerHash detailsHash : String)
  | rejected (reason : String)
deriving DecidableEq, Repr

/-- `decode_bitset_assignment`: variable `i` is bit `i - 1`. -/
def decodeBitsetAssignment (data : List ℕ) (nvars : ℤ) : List ℤ :=
  (List.range nvars.toNat).map fun i =>
    if (data.getD (i / 8) 0).testBit (i % 8) then (i + 1 : ℤ) else -(i + 1 : ℤ)

/-- `decode_assignment_b64`; `none` when it raises. -/
def decodeAssignmentB64 (env : GradeEnv) (assignmentB64 : String) (nvars : ℤ) :
    Option (List ℕ × List ℤ) := do
  let raw ← env.b64decode assignmentB64
  let expected := (nvars + 7) / 8
  if (raw.length : ℤ) ≠ expected then none
  else
    let extraBits := (expected * 8 - nvars).toNat
    -- the bits above the last variable are zero
    if raw.getLast?.any fun last => last / 2 ^ (8 - extraBits) ≠ 0 then none
    else some (raw, decodeBitsetAssignment raw nvars)

/-- The loop of `verify_assignment_literals` over the literals. -/
def readLiterals (nVars : ℤ) : List ℤ → Dict ℤ Bool → Except String (Dict ℤ Bool)
  | [], vals => .ok vals
  | lit :: rest, vals =>
    if |lit| < 1 ∨ nVars < |lit| then .error "solution_variable_out_of_range"
    else if (vals.get? |lit|).any (· ≠ decide (0 < lit)) then
      .error "solution_contradictory_assignment"
    else readLiterals nVars rest (vals.set |lit| (decide (0 < lit)))

/-- `verify_assignment_literals`: the reason, or `none` when the assignment
satisfies the formula. -/
def verifyAssignmentLiterals (cnf : ℤ × List (List ℤ)) (assignment : List ℤ) : Option String :=
  if (assignment.length : ℤ) ≠ cnf.1 then some "solution_incomplete_assignment"
  else
    match readLiterals cnf.1 assignment Dict.empty with
    | .error reason => some reason
    | .ok vals =>
      if (vals.items.length : ℤ) ≠ cnf.1 then some "solution_incomplete_assignment"
      else if cnf.2.all fun clause =>
          clause.any fun lit => vals.get? |lit| = some (decide (0 < lit)) then none
      else some "solution_unsatisfied"

/-- The formula of an event and its hash, from the store or generated again. -/
def loadCnf (env : GradeEnv) (e : BitsetEvent) (identity cid : String) :
    Option (Except String (String × String)) :=
  let expected := env.lower e.cnfSha256
  match env.storedCnf cid expected with
  | some cnfText => some (.ok (cnfText, expected))
  | none =>
    match env.generateInstance identity e.epoch e.tier e.seq with
    | none => none
    | some (generatedCid, cnfText) =>
      if generatedCid ≠ cid then some (.error "challenge_id_mismatch")
      else if env.cnfSha256 cnfText ≠ expected then some (.error "cnf_sha_drift")
      else some (.ok (cnfText, env.cnfSha256 cnfText))

/-- The witness check and the score. -/
def gradeAssignment (env : GradeEnv) (e : BitsetEvent) (cnfText cnfSha : String) :
    Option Grade := do
  let cnf ← env.parseCnf cnfText
  let (raw, assignment) ← decodeAssignmentB64 env e.assignmentB64 cnf.1
  match verifyAssignmentLiterals cnf assignment with
  | some reason => some (.rejected reason)
  | none =>
    let answerHash := env.bytesSha256 raw
    some (.verified (env.weightFor e.tier) answerHash
      (env.detailsSha256 e cnfSha answerHash env.now))

/-- `verify_bitset_one` up to its write; `none` when it raises. -/
def gradeBitset (env : GradeEnv) (e : BitsetEvent) : Option Grade :=
  if e.epoch ≠ env.currentEpoch ∧ e.epoch ≠ env.currentEpoch - 1 then
    some (.rejected "per_miner_challenge_expired")
  else
    let identity := env.scoringIdentity e.minerHotkey
    let cid := env.instanceId identity e.epoch e.tier e.seq
    if cid ≠ e.challengeId then some (.rejected "challenge_id_mismatch")
    else
      match loadCnf env e identity cid with
      | none => none
      | some (.error reason) => some (.rejected reason)
      | some (.ok (cnfText, cnfSha)) => gradeAssignment env e cnfText cnfSha

/-! ## The writes of a verdict -/

/-- The row `_finish` leaves. -/
def finishedRow (grade : Grade) (now : Millis) (e : BitsetEvent) : BitsetEvent :=
  match grade with
  | .verified score answerHash detailsHash =>
    { e with
      status := .verified
      weightedScore := score
      answerHash := answerHash
      verifierDetailsHash := detailsHash
      verifiedAt := some now
      eligibilityStatus := "eligible_beta"
      lastError := none
      lockedBy := none
      lockedUntil := none }
  | .rejected reason =>
    { e with
      status := .rejected
      weightedScore := 0
      answerHash := ""
      verifierDetailsHash := ""
      verifiedAt := none
      eligibilityStatus := reason
      lastError := some reason
      lockedBy := none
      lockedUntil := none }

/-- `record_perminer_solve_tx` for a claimed copy. -/
def payoutRow (row : BitsetEvent) (score : ℚ) (now : Millis) : PerMinerSolve :=
  ⟨row.epoch, row.tier, row.seq, score, true, now⟩

/-- `_finish`: the payout row and the verdict in one transaction. -/
def finish (bridge : Bool) (receiptId : String) (row : BitsetEvent) (grade : Grade) (now : Millis)
    (t : Tables) : Tables where
  events := t.events.modify receiptId (finishedRow grade now)
  solves :=
    match grade with
    | .verified score _ _ =>
      if bridge then (t.solves.insertIgnore row.pair (payoutRow row score now)).1 else t.solves
    | .rejected _ => t.solves

/-- The row `_unlock` leaves after an exception. -/
def unlockedRow (error : String) (e : BitsetEvent) : BitsetEvent :=
  { e with lockedBy := none, lockedUntil := none, lastError := some error }

def unlock (receiptId errorName : String) (t : Tables) : Tables :=
  { t with events :=
      t.events.modify receiptId (unlockedRow ("bitset_verify_error:" ++ errorName)) }

/-! ## The system -/

/-- The tables and the claimed copies that workers hold. -/
structure World where
  tables : Tables
  work : List (String × BitsetEvent)

inductive Action where
  | receive (receiptId : String) (event : BitsetEvent)
  | claim (workerId : String) (now lockUntil : Millis) (batchSize : ℕ)
  | verify (env : GradeEnv) (receiptId : String) (row : BitsetEvent)
  | raise (receiptId : String) (row : BitsetEvent) (errorName : String)
  | lose (receiptId : String) (row : BitsetEvent)

structure BitsetSettings where
  postgres : Bool
  bridge : Bool

/-- One transaction, or a worker losing its copy. What grading reads is in the
label, as of any time before the write; an exception anywhere unlocks the event. -/
inductive Step (settings : BitsetSettings) : World → Action → World → Prop where
  /-- A thin submission; the idempotency key of its pair is unused. -/
  | receive {w : World} {receiptId : String} {event : BitsetEvent} :
      w.tables.events.get? receiptId = none →
      (∀ other e, w.tables.events.get? other = some e → e.pair ≠ event.pair) →
      event.status = .received →
      Step settings w (.receive receiptId event)
        { w with tables := { w.tables with events := w.tables.events.set receiptId event } }
  | claim {w : World} {workerId : String} {now lockUntil : Millis} {batchSize : ℕ}
      {events : Dict String BitsetEvent} {claimed : List (String × BitsetEvent)} :
      claimBitsetBatch settings.postgres w.tables.events workerId now lockUntil batchSize =
        (events, claimed) →
      Step settings w (.claim workerId now lockUntil batchSize)
        { tables := { w.tables with events := events }, work := claimed ++ w.work }
  | verify {w : World} {env : GradeEnv} {receiptId : String} {row : BitsetEvent} {grade : Grade} :
      (receiptId, row) ∈ w.work → gradeBitset env row = some grade →
      Step settings w (.verify env receiptId row)
        { tables := finish settings.bridge receiptId row grade env.now w.tables
          work := w.work.erase (receiptId, row) }
  | raise {w : World} {receiptId errorName : String} {row : BitsetEvent} :
      (receiptId, row) ∈ w.work →
      Step settings w (.raise receiptId row errorName)
        { tables := unlock receiptId errorName w.tables, work := w.work.erase (receiptId, row) }
  | lose {w : World} {receiptId : String} {row : BitsetEvent} :
      Step settings w (.lose receiptId row) { w with work := w.work.erase (receiptId, row) }

/-- A worker's write meets an event that is still received. -/
def Timely (w : World) : Action → Prop
  | .verify _ receiptId _ | .raise receiptId _ _ =>
    ∀ e, w.tables.events.get? receiptId = some e → e.status = .received
  | _ => True

/-- A step in which every write is in time. -/
def TimelyStep (settings : BitsetSettings) (w : World) (action : Action) (w' : World) : Prop :=
  Step settings w action w' ∧ Timely w action

/-- A deployment before its first event, with any payout rows. -/
structure Start (w : World) : Prop where
  events : w.tables.events = Dict.empty
  work : w.work = []

/-! ## What a timely step does to the events -/

variable {settings : BitsetSettings} {w w' : World}

/-- An event keeps its pair, and its verdict once it has one. -/
structure Kept (e e' : BitsetEvent) : Prop where
  pair : e'.pair = e.pair
  closed : e.status ≠ .received → e'.verdict = e.verdict

theorem Kept.refl (e : BitsetEvent) : Kept e e := ⟨rfl, fun _ => rfl⟩

theorem finishedRow_pair (grade : Grade) (now : Millis) (e : BitsetEvent) :
    (finishedRow grade now e).pair = e.pair := by
  cases grade <;> rfl

/-- The events after a step: updated rows, and at most one new received row. -/
structure EventsKept (d d' : Dict String BitsetEvent) : Prop where
  kept : ∀ id e, d.get? id = some e → ∃ e', d'.get? id = some e' ∧ Kept e e'
  origin : ∀ id e', d'.get? id = some e' → (∃ e, d.get? id = some e ∧ Kept e e') ∨
    (d.get? id = none ∧ e'.status = .received ∧
      ∀ other e, d.get? other = some e → e.pair ≠ e'.pair)
  one : ∀ id id' e e', d'.get? id = some e → d'.get? id' = some e' → d.get? id = none →
    d.get? id' = none → id = id'

variable {d d' : Dict String BitsetEvent}

theorem eventsKept_update (f : String → BitsetEvent → BitsetEvent)
    (hrows : ∀ id, d'.get? id = (d.get? id).map (f id))
    (hkept : ∀ id e, d.get? id = some e → Kept e (f id e)) : EventsKept d d' where
  kept id e hget := ⟨f id e, by rw [hrows, hget, Option.map_some], hkept id e hget⟩
  origin id e' hget := by
    rw [hrows, Option.map_eq_some_iff] at hget
    obtain ⟨e, he, rfl⟩ := hget
    exact Or.inl ⟨e, he, hkept id e he⟩
  one id id' e e' hget _ hnone _ := by
    rw [hrows, hnone] at hget
    cases hget

theorem eventsKept_refl (d : Dict String BitsetEvent) : EventsKept d d :=
  eventsKept_update (fun _ e => e) (fun id => by simp) fun _ e _ => .refl e

variable {f : BitsetEvent → BitsetEvent}

/-- A write to one event by its id. -/
theorem eventsKept_modify (d : Dict String BitsetEvent) (receiptId : String)
    (hkept : ∀ e, d.get? receiptId = some e → Kept e (f e)) :
    EventsKept d (d.modify receiptId f) := by
  refine eventsKept_update (fun id e => if receiptId = id then f e else e) (fun id => ?_) ?_
  · rw [Dict.get?_modify]
    split <;> simp
  · intro id e hget
    split
    · next heq => exact hkept e (heq ▸ hget)
    · exact .refl e

variable {receiptId : String}

theorem eventsKept_receive {d : Dict String BitsetEvent} {event : BitsetEvent}
    (hfresh : d.get? receiptId = none)
    (hpair : ∀ other e, d.get? other = some e → e.pair ≠ event.pair)
    (hstatus : event.status = .received) : EventsKept d (d.set receiptId event) where
  kept id e hget := ⟨e, Dict.get?_set_of_none hfresh hget, .refl e⟩
  origin id e' hget := by
    rw [Dict.get?_set] at hget
    split at hget
    · next heq =>
        rw [Option.some.injEq] at hget
        subst hget
        exact Or.inr ⟨heq ▸ hfresh, hstatus, hpair⟩
    · exact Or.inl ⟨e', hget, .refl e'⟩
  one id id' e e' hget hget' hnone hnone' := by
    rw [Dict.get?_set] at hget hget'
    split at hget
    · next heq =>
        split at hget'
        · next heq' => exact heq.symm.trans heq'
        · rw [hnone'] at hget'
          cases hget'
    · rw [hnone] at hget
      cases hget

variable {events : Dict String BitsetEvent}

theorem mem_claimSelection {now : Millis} {batchSize : ℕ} {row : String × BitsetEvent}
    (h : row ∈ claimSelection events now batchSize) : events.get? row.1 = some row.2 := by
  have hmem := List.mem_insertionSort _ |>.mp (List.mem_of_mem_take h)
  rw [List.mem_filter] at hmem
  exact Dict.mem_items.mp hmem.1

theorem claimSelection_nodup {now : Millis} {batchSize : ℕ} :
    ((claimSelection events now batchSize).map Prod.fst).Nodup := by
  have hsub : ((events.items.filter fun row => row.2.claimable now).map Prod.fst).Nodup :=
    events.nodup.sublist (List.filter_sublist.map _)
  have hperm := (List.perm_insertionSort
    (fun a b : String × BitsetEvent => a.2.receivedAt ≤ b.2.receivedAt)
    (events.items.filter fun row => row.2.claimable now)).map Prod.fst
  exact (hperm.nodup_iff.mpr hsub).sublist ((List.take_sublist _ _).map _)

def afterClaim (events : Dict String BitsetEvent) (workerId : String) (now lockUntil : Millis)
    (batchSize : ℕ) (id : String) (e : BitsetEvent) : BitsetEvent :=
  if id ∈ (claimSelection events now batchSize).map Prod.fst then lockedRow workerId lockUntil e
  else e

theorem get?_claimBitsetBatch (postgres : Bool) (events : Dict String BitsetEvent)
    (workerId : String) (now lockUntil : Millis) (batchSize : ℕ) (id : String) :
    (claimBitsetBatch postgres events workerId now lockUntil batchSize).1.get? id =
      (events.get? id).map (afterClaim events workerId now lockUntil batchSize id) := by
  by_cases hmem : id ∈ (claimSelection events now batchSize).map Prod.fst
  · rw [claimBitsetBatch, Dict.get?_modifyAll_of_mem _ _ claimSelection_nodup hmem]
    refine Option.map_congr fun e _ => ?_
    rw [afterClaim, if_pos hmem]
  · rw [claimBitsetBatch, Dict.get?_modifyAll_of_notMem _ _ hmem]
    cases events.get? id with
    | none => rfl
    | some e => rw [Option.map_some, afterClaim, if_neg hmem]

theorem kept_afterClaim (events : Dict String BitsetEvent) (workerId : String)
    (now lockUntil : Millis) (batchSize : ℕ) (id : String) (e : BitsetEvent) :
    Kept e (afterClaim events workerId now lockUntil batchSize id e) ∧
      (afterClaim events workerId now lockUntil batchSize id e).status = e.status := by
  unfold afterClaim
  split
  · exact ⟨⟨rfl, fun _ => rfl⟩, rfl⟩
  · exact ⟨.refl e, rfl⟩

theorem eventsKept_claim (postgres : Bool) (events : Dict String BitsetEvent) (workerId : String)
    (now lockUntil : Millis) (batchSize : ℕ) :
    EventsKept events (claimBitsetBatch postgres events workerId now lockUntil batchSize).1 :=
  eventsKept_update _ (get?_claimBitsetBatch postgres events workerId now lockUntil batchSize)
    fun id e _ => (kept_afterClaim events workerId now lockUntil batchSize id e).1

/-- A claimed copy is about an event of the table. -/
theorem claimed_pair {postgres : Bool} {workerId : String} {now lockUntil : Millis} {batchSize : ℕ}
    {row : String × BitsetEvent}
    (h : row ∈ (claimBitsetBatch postgres events workerId now lockUntil batchSize).2) :
    ∃ e, events.get? row.1 = some e ∧ e.pair = row.2.pair := by
  simp only [claimBitsetBatch] at h
  split at h
  · obtain ⟨old, hold, rfl⟩ := List.mem_map.mp h
    exact ⟨old.2, mem_claimSelection hold, rfl⟩
  · exact ⟨row.2, mem_claimSelection h, rfl⟩

/-- The events after a timely step. -/
theorem step_events {action : Action} (h : TimelyStep settings w action w') :
    EventsKept w.tables.events w'.tables.events := by
  obtain ⟨hstep, htimely⟩ := h
  cases hstep with
  | receive hfresh hpair hstatus => exact eventsKept_receive hfresh hpair hstatus
  | @claim workerId now lockUntil batchSize events claimed hclaim =>
    have hkept := eventsKept_claim settings.postgres w.tables.events workerId now lockUntil
      batchSize
    rw [hclaim] at hkept
    exact hkept
  | @verify env receiptId row grade hmem hgrade =>
    refine eventsKept_modify _ _ fun e hget => ⟨finishedRow_pair grade env.now e, fun hne => ?_⟩
    exact absurd (htimely e hget) hne
  | raise hmem =>
    exact eventsKept_modify _ _ fun e hget => ⟨rfl, fun hne => absurd (htimely e hget) hne⟩
  | lose => exact eventsKept_refl _

/-! ## The invariant -/

def VerifiedPair (events : Dict String BitsetEvent) (pair : String × String) : Prop :=
  ∃ id e, events.get? id = some e ∧ e.status = .verified ∧ e.pair = pair

/-- What holds with the payout rows `paid` that were there at the start. -/
structure Inv (settings : BitsetSettings) (paid : Dict (String × String) PerMinerSolve)
    (w : World) : Prop where
  pairs : ∀ id id' e e', w.tables.events.get? id = some e → w.tables.events.get? id' = some e' →
    e.pair = e'.pair → id = id'
  work : ∀ item ∈ w.work, ∃ e, w.tables.events.get? item.1 = some e ∧ e.pair = item.2.pair
  earlier : ∀ pair row, paid.get? pair = some row → w.tables.solves.get? pair = some row
  bridged : settings.bridge = true → ∀ pair, w.tables.solves.get? pair ≠ none ↔
    paid.get? pair ≠ none ∨ VerifiedPair w.tables.events pair
  scored : settings.bridge = true → ∀ id e, w.tables.events.get? id = some e →
    e.status = .verified → paid.get? e.pair = none → ∃ row,
      w.tables.solves.get? e.pair = some row ∧ row.verified = true ∧
        row.difficultyWeight = e.weightedScore

theorem start_inv (h : Start w) : Inv settings w.tables.solves w where
  pairs id id' e e' hget := by simp [h.events] at hget
  work item hitem := by simp [h.work] at hitem
  earlier pair row hget := hget
  bridged _ pair := by simp [VerifiedPair, h.events]
  scored _ id e hget := by simp [h.events] at hget

variable {paid : Dict (String × String) PerMinerSolve}

theorem pairs_kept (h : EventsKept d d')
    (hpairs : ∀ id id' e e', d.get? id = some e → d.get? id' = some e' → e.pair = e'.pair →
      id = id') {id id' : String} {e e' : BitsetEvent} (hget : d'.get? id = some e)
    (hget' : d'.get? id' = some e') (hsame : e.pair = e'.pair) : id = id' := by
  rcases h.origin id e hget with ⟨old, hold, hkept⟩ | ⟨hnone, -, hnew⟩
  · rcases h.origin id' e' hget' with ⟨old', hold', hkept'⟩ | ⟨-, -, hnew'⟩
    · exact hpairs id id' old old' hold hold' (hkept.pair.symm.trans (hsame.trans hkept'.pair))
    · exact absurd (hkept.pair.symm.trans hsame) (hnew' id old hold)
  · rcases h.origin id' e' hget' with ⟨old', hold', hkept'⟩ | ⟨hnone', -, -⟩
    · exact absurd (hkept'.pair.symm.trans hsame.symm) (hnew id' old' hold')
    · exact h.one id id' e e' hget hget' hnone hnone'

/-- A copy in hand stays about an event of the table. -/
theorem work_kept (h : EventsKept d d') {item : String × BitsetEvent}
    (hitem : ∃ e, d.get? item.1 = some e ∧ e.pair = item.2.pair) :
    ∃ e, d'.get? item.1 = some e ∧ e.pair = item.2.pair := by
  obtain ⟨e, hget, hpair⟩ := hitem
  obtain ⟨e', hget', hkept⟩ := h.kept item.1 e hget
  exact ⟨e', hget', hkept.pair.trans hpair⟩

theorem Kept.status {e e' : BitsetEvent} (h : Kept e e') (hne : e.status ≠ .received) :
    e'.status = e.status := congrArg Prod.fst (h.closed hne)

theorem Kept.weightedScore {e e' : BitsetEvent} (h : Kept e e') (hne : e.status ≠ .received) :
    e'.weightedScore = e.weightedScore := congrArg (fun v => v.2.2.2) (h.closed hne)

/-- A step that verifies nothing and pays nothing. -/
theorem inv_unpaid (hinv : Inv settings paid w) {t' : Tables} {work : List (String × BitsetEvent)}
    (hevents : EventsKept w.tables.events t'.events) (hsolves : t'.solves = w.tables.solves)
    (hverified : ∀ id e', t'.events.get? id = some e' → e'.status = .verified →
      ∃ e, w.tables.events.get? id = some e ∧ e.status = .verified)
    (hwork : ∀ item ∈ work, item ∈ w.work ∨
      ∃ e, w.tables.events.get? item.1 = some e ∧ e.pair = item.2.pair) :
    Inv settings paid { tables := t', work := work } where
  pairs id id' e e' hget hget' := pairs_kept hevents hinv.pairs hget hget'
  work item hitem := work_kept hevents ((hwork item hitem).elim (hinv.work item) id)
  earlier pair row hget := by rw [hsolves, hinv.earlier pair row hget]
  bridged hbridge pair := by
    rw [hsolves, hinv.bridged hbridge pair]
    refine or_congr_right ⟨?_, ?_⟩
    · rintro ⟨id, e, hget, hstatus, hpair⟩
      obtain ⟨e', hget', hkept⟩ := hevents.kept id e hget
      have hne : e.status ≠ .received := by simp [hstatus]
      exact ⟨id, e', hget', (hkept.status hne).trans hstatus, hkept.pair.trans hpair⟩
    · rintro ⟨id, e', hget', hstatus', hpair'⟩
      obtain ⟨e, hget, hstatus⟩ := hverified id e' hget' hstatus'
      obtain ⟨e'', hget'', hkept⟩ := hevents.kept id e hget
      rw [hget', Option.some.injEq] at hget''
      subst hget''
      exact ⟨id, e, hget, hstatus, hkept.pair.symm.trans hpair'⟩
  scored hbridge id e' hget' hstatus' hnone := by
    obtain ⟨e, hget, hstatus⟩ := hverified id e' hget' hstatus'
    obtain ⟨e'', hget'', hkept⟩ := hevents.kept id e hget
    rw [hget', Option.some.injEq] at hget''
    subst hget''
    have hne : e.status ≠ .received := by simp [hstatus]
    rw [hkept.pair] at hnone
    obtain ⟨row, hrow, hverifiedRow, hweight⟩ := hinv.scored hbridge id e hget hstatus hnone
    refine ⟨row, ?_, hverifiedRow, hweight.trans (hkept.weightedScore hne).symm⟩
    rw [hsolves, hkept.pair, hrow]

/-- The verified pairs after a received event is verified. -/
theorem verifiedPair_modify {e : BitsetEvent} (hget : events.get? receiptId = some e)
    (hreceived : e.status = .received) (hverified : (f e).status = .verified)
    (hpair : (f e).pair = e.pair) (pair : String × String) :
    VerifiedPair (events.modify receiptId f) pair ↔ VerifiedPair events pair ∨ pair = e.pair := by
  constructor
  · rintro ⟨id, e', hget', hstatus, rfl⟩
    rw [Dict.get?_modify] at hget'
    split at hget'
    · next heq =>
        subst heq
        rw [hget, Option.map_some, Option.some.injEq] at hget'
        subst hget'
        exact Or.inr hpair
    · exact Or.inl ⟨id, e', hget', hstatus, rfl⟩
  · rintro (⟨id, e', hget', hstatus, rfl⟩ | rfl)
    · have hne : receiptId ≠ id := by
        rintro rfl
        rw [hget, Option.some.injEq] at hget'
        subst hget'
        simp [hreceived] at hstatus
      exact ⟨id, e', by rw [Dict.get?_modify_ne _ _ hne, hget'], hstatus, rfl⟩
    · exact ⟨receiptId, f e, by rw [Dict.get?_modify_self, hget, Option.map_some], hverified, hpair⟩

/-- The pair of a received event is paid only if it was paid at the start. -/
theorem Inv.unpaid (hinv : Inv settings paid w) (hbridge : settings.bridge = true) {id : String}
    {e : BitsetEvent} (hget : w.tables.events.get? id = some e) (hreceived : e.status = .received)
    (hnone : paid.get? e.pair = none) : w.tables.solves.get? e.pair = none := by
  by_contra hpaid
  rcases (hinv.bridged hbridge e.pair).mp hpaid with hold | ⟨id', e', hget', hstatus, hpair⟩
  · exact hold hnone
  · -- the pair has one event
    have hid := hinv.pairs id' id e' e hget' hget hpair
    subst hid
    rw [hget, Option.some.injEq] at hget'
    subst hget'
    simp [hreceived] at hstatus

/-- The bridge pays the pair of an event that becomes verified. -/
theorem inv_paid (hinv : Inv settings paid w) {row e : BitsetEvent} {score : ℚ}
    {answerHash detailsHash : String} {now : Millis}
    (hget : w.tables.events.get? receiptId = some e) (hpair : e.pair = row.pair)
    (hreceived : e.status = .received)
    (hevents : EventsKept w.tables.events (w.tables.events.modify receiptId
      (finishedRow (.verified score answerHash detailsHash) now))) :
    Inv settings paid
      { tables := finish settings.bridge receiptId row (.verified score answerHash detailsHash) now
          w.tables
        work := w.work.erase (receiptId, row) } where
  pairs id id' e e' hget hget' := pairs_kept hevents hinv.pairs hget hget'
  work item hitem := work_kept hevents (hinv.work item (List.mem_of_mem_erase hitem))
  earlier pair old hold := by
    simp only [finish]
    split
    · exact Dict.get?_insertIgnore_of_some _ (hinv.earlier pair old hold)
    · exact hinv.earlier pair old hold
  bridged hbridge pair := by
    simp only [finish, if_pos hbridge]
    rw [Dict.insertIgnore_taken, hinv.bridged hbridge, or_assoc,
      verifiedPair_modify hget hreceived rfl (finishedRow_pair _ _ _), hpair]
  scored hbridge id e' hget' hstatus hnone := by
    simp only [finish, if_pos hbridge] at hget' ⊢
    rw [Dict.get?_modify] at hget'
    split at hget'
    · next heq =>
        subst heq
        rw [hget, Option.map_some, Option.some.injEq] at hget'
        subst hget'
        rw [finishedRow_pair] at hnone ⊢
        have hunpaid := hinv.unpaid hbridge hget hreceived hnone
        rw [hpair] at hunpaid ⊢
        refine ⟨payoutRow row score now, ?_, rfl, rfl⟩
        rw [Dict.insertIgnore_of_none hunpaid, Dict.get?_set_self]
    · obtain ⟨old, hold, hrest⟩ := hinv.scored hbridge id e' hget' hstatus hnone
      exact ⟨old, Dict.get?_insertIgnore_of_some _ hold, hrest⟩

/-- An update that verifies nothing. -/
theorem verified_modify {receiptId id : String} {e' : BitsetEvent}
    (hf : ∀ e, (f e).status = .verified → e.status = .verified)
    (hget' : (events.modify receiptId f).get? id = some e') (hverified : e'.status = .verified) :
    ∃ e, events.get? id = some e ∧ e.status = .verified := by
  rw [Dict.get?_modify] at hget'
  split at hget'
  · rw [Option.map_eq_some_iff] at hget'
    obtain ⟨e, hget, rfl⟩ := hget'
    exact ⟨e, hget, hf e hverified⟩
  · exact ⟨e', hget', hverified⟩

/-- The invariant along a timely step. -/
theorem step_inv {action : Action} (hinv : Inv settings paid w)
    (h : TimelyStep settings w action w') : Inv settings paid w' := by
  have hevents := step_events h
  obtain ⟨hstep, htimely⟩ := h
  cases hstep with
  | @receive receiptId event hfresh hpair hstatus =>
    refine inv_unpaid hinv hevents rfl (fun id e' hget' hverified => ?_) fun _ h => Or.inl h
    rcases hevents.origin id e' hget' with ⟨e, hget, hkept⟩ | ⟨-, hreceived, -⟩
    · have hsame : w.tables.events.get? id = some e' := by
        rw [← hget', Dict.get?_set_ne]
        rintro rfl
        simp [hfresh] at hget
      exact ⟨e', hsame, hverified⟩
    · simp [hreceived] at hverified
  | @claim workerId now lockUntil batchSize events claimed hclaim =>
    obtain ⟨rfl, rfl⟩ := Prod.mk.inj hclaim
    refine inv_unpaid hinv hevents rfl (fun id e' hget' hverified => ?_) fun item hitem => ?_
    · have hrows := get?_claimBitsetBatch settings.postgres w.tables.events workerId now lockUntil
        batchSize id
      obtain ⟨e, hget, rfl⟩ := Option.map_eq_some_iff.mp (hrows.symm.trans hget')
      exact ⟨e, hget, (kept_afterClaim _ _ _ _ _ _ _).2.symm.trans hverified⟩
    · rcases List.mem_append.mp hitem with hnew | hold
      · exact Or.inr (claimed_pair hnew)
      · exact Or.inl hold
  | @verify env receiptId row grade hmem hgrade =>
    obtain ⟨e, hget, hpair⟩ := hinv.work _ hmem
    cases grade with
    | verified score answerHash detailsHash =>
      exact inv_paid hinv hget hpair (htimely e hget) hevents
    | rejected reason =>
      refine inv_unpaid hinv hevents rfl (fun id e' hget' hverified => ?_)
        fun item hitem => Or.inl (List.mem_of_mem_erase hitem)
      have hrow : ∀ e, (finishedRow (.rejected reason) env.now e).status = .verified →
          e.status = .verified := by
        intro e h
        cases h
      exact verified_modify hrow hget' hverified
  | @raise receiptId errorName row hmem =>
    refine inv_unpaid hinv hevents rfl (fun id e' hget' hverified => ?_)
      fun item hitem => Or.inl (List.mem_of_mem_erase hitem)
    have hrow : ∀ e, (unlockedRow ("bitset_verify_error:" ++ errorName) e).status = .verified →
        e.status = .verified := fun e h => h
    exact verified_modify hrow hget' hverified
  | lose =>
    exact inv_unpaid hinv hevents rfl (fun id e' hget' hverified => ⟨e', hget', hverified⟩)
      fun item hitem => Or.inl (List.mem_of_mem_erase hitem)

/-! ## The laws -/

/-- Events keep their verdict. -/
def VerdictsKept (w w' : World) : Prop :=
  ∀ id e, w.tables.events.get? id = some e → e.status ≠ .received →
    ∃ e', w'.tables.events.get? id = some e' ∧ e'.verdict = e.verdict

/-- The bridged payout rows are those of the verified events. -/
structure Bridged (paid : Dict (String × String) PerMinerSolve) (t : Tables) : Prop where
  iff_verified : ∀ id e, t.events.get? id = some e → paid.get? e.pair = none →
    (t.solves.get? e.pair ≠ none ↔ e.status = .verified)
  scored : ∀ id e, t.events.get? id = some e → e.status = .verified → paid.get? e.pair = none →
    ∃ row, t.solves.get? e.pair = some row ∧ row.verified = true ∧
      row.difficultyWeight = e.weightedScore
  earlier : ∀ pair row, paid.get? pair = some row → t.solves.get? pair = some row
  once : t.solves.keys.Nodup

theorem Inv.laws (hinv : Inv settings paid w) (hbridge : settings.bridge = true) :
    Bridged paid w.tables where
  iff_verified id e hget hnone := by
    rw [hinv.bridged hbridge]
    constructor
    · rintro (hold | ⟨id', e', hget', hstatus, hpair⟩)
      · exact absurd hnone hold
      · have hid := hinv.pairs id' id e' e hget' hget hpair
        subst hid
        rw [hget, Option.some.injEq] at hget'
        subst hget'
        exact hstatus
    · exact fun hstatus => Or.inr ⟨id, e, hget, hstatus, rfl⟩
  scored := hinv.scored hbridge
  earlier := hinv.earlier
  once := w.tables.solves.nodup

theorem VerdictsKept.trans {w w' w'' : World} (h : VerdictsKept w w') (h' : VerdictsKept w' w'') :
    VerdictsKept w w'' := by
  intro id e hget hne
  obtain ⟨e', hget', hverdict⟩ := h id e hget hne
  have hstatus : e'.status = e.status := congrArg Prod.fst hverdict
  obtain ⟨e'', hget'', hverdict'⟩ := h' id e' hget' (hstatus ▸ hne)
  exact ⟨e'', hget'', hverdict'.trans hverdict⟩

theorem step_verdictsKept {action : Action} (h : TimelyStep settings w action w') :
    VerdictsKept w w' := by
  intro id e hget hne
  obtain ⟨e', hget', hkept⟩ := (step_events h).kept id e hget
  exact ⟨e', hget', hkept.closed hne⟩

theorem run_verdictsKept {ls : List Action} (h : Run (TimelyStep settings) w ls w') :
    VerdictsKept w w' :=
  Run.invariant (I := VerdictsKept w) (fun _ e hget _ => ⟨e, hget, rfl⟩)
    (fun _ _ _ hkept hstep => hkept.trans (step_verdictsKept hstep)) h

/-- Over every run in which workers write in time: a verdict once written stays, and
with the bridge on a payout row that was not there before belongs to exactly the
verified event of its pair. -/
theorem bitset_verdicts {w₀ : World} {before after : List Action} (hstart : Start w₀)
    (hbefore : Run (TimelyStep settings) w₀ before w)
    (hafter : Run (TimelyStep settings) w after w') :
    VerdictsKept w w' ∧ (settings.bridge = true → Bridged w₀.tables.solves w.tables) := by
  refine ⟨run_verdictsKept hafter, fun hbridge => ?_⟩
  have hinv : Inv settings w₀.tables.solves w :=
    Run.invariant (start_inv hstart) (fun _ _ _ hinv hstep => step_inv hinv hstep) hbefore
  exact hinv.laws hbridge

/-! ## A claim that outlives its lease and its epoch -/

def sampleSettings : BitsetSettings := ⟨false, true⟩

def sampleEvent : BitsetEvent where
  minerHotkey := "5F"
  challengeId := "pm-1"
  epoch := 7
  tier := 2
  seq := 0
  cnfSha256 := "aa"
  assignmentB64 := "AQ=="
  status := .received
  eligibilityStatus := "unknown_beta"
  receivedAt := 0
  verifiedAt := none
  weightedScore := 0
  answerHash := ""
  verifierDetailsHash := ""
  lockedBy := none
  lockedUntil := none
  lastError := none

/-- The environment in an epoch: one instance with the formula `x₁`, solved by the
bit set `[1]`. -/
def sampleEnv (now : Millis) (epoch : ℤ) : GradeEnv where
  now := now
  currentEpoch := epoch
  scoringIdentity := id
  instanceId := fun _ _ _ _ => "pm-1"
  storedCnf := fun _ _ => some "p cnf 1 1\n1 0\n"
  generateInstance := fun _ _ _ _ => none
  cnfSha256 := fun _ => "aa"
  lower := id
  parseCnf := fun _ => some (1, [[1]])
  b64decode := fun _ => some [1]
  bytesSha256 := fun _ => "ab"
  detailsSha256 := fun _ _ _ _ => "ac"
  weightFor := fun _ => 2

def sampleWorld : World := ⟨⟨Dict.empty, Dict.empty⟩, []⟩

theorem grade_verified (now : Millis) :
    gradeBitset (sampleEnv now 7) sampleEvent = some (.verified 2 "ab" "ac") := rfl

theorem grade_expired (now : Millis) :
    gradeBitset (sampleEnv now 9) sampleEvent = some (.rejected "per_miner_challenge_expired") :=
  rfl

theorem received_of_status (h : (events.get? receiptId).map (·.status) = some .received)
    {e : BitsetEvent} (hget : events.get? receiptId = some e) : e.status = .received := by
  rwa [hget, Option.map_some, Option.some.injEq] at h

/-- A verified event that is rejected afterwards lost its verdict. -/
theorem overwritten (id : String)
    (h : (w.tables.events.get? id).map (·.status) = some .verified)
    (h' : (w'.tables.events.get? id).map (·.status) = some .rejected) : ¬ VerdictsKept w w' := by
  intro hkept
  obtain ⟨e, hget, hstatus⟩ := Option.map_eq_some_iff.mp h
  obtain ⟨e', hget', hsame⟩ := hkept id e hget (by simp [hstatus])
  have hsameStatus : e'.status = e.status := congrArg Prod.fst hsame
  rw [hget', Option.map_some, Option.some.injEq, hsameStatus, hstatus] at h'
  cases h'

/-- A paid pair whose event is rejected. -/
theorem not_bridged {t : Tables} (id : String) (pair : String × String)
    (h : (t.events.get? id).map (fun e => (e.status, e.pair)) = some (.rejected, pair))
    (hpaid : t.solves.get? pair ≠ none) : ¬ Bridged Dict.empty t := by
  intro hbridged
  obtain ⟨e, hget, heq⟩ := Option.map_eq_some_iff.mp h
  obtain ⟨hstatus, rfl⟩ := Prod.mk.inj heq
  have hverified := (hbridged.iff_verified id e hget (Dict.get?_empty _)).mp hpaid
  rw [hstatus] at hverified
  cases hverified

/-- One worker claims the event and verifies it in time. -/
theorem bitset_verdicts_verified : ∃ w w' : World,
    (w.tables.events.get? "r1").map BitsetEvent.verdict =
        some (.verified, "eligible_beta", none, 2) ∧
      VerdictsKept w w' ∧ Bridged Dict.empty w.tables := by
  have hstart : Run (TimelyStep sampleSettings) sampleWorld [] sampleWorld := .nil
  have hreceive := hstart.snoc (l := .receive "r1" sampleEvent)
    ⟨.receive rfl (by intro other e h; cases h) rfl, by trivial⟩
  have hclaim := hreceive.snoc (l := .claim "w1" 10 120010 8) ⟨.claim rfl, by trivial⟩
  have hverify := hclaim.snoc (l := .verify (sampleEnv 15 7) "r1" sampleEvent)
    ⟨.verify (List.Mem.head _) (grade_verified 15),
      by exact fun e hget => received_of_status (by decide +kernel) hget⟩
  have hafter := hverify.here.snoc (l := .claim "w2" 120010 240010 8) ⟨.claim rfl, by trivial⟩
  obtain ⟨hkept, hbridged⟩ := bitset_verdicts ⟨rfl, rfl⟩ hverify hafter
  exact ⟨_, _, by decide +kernel, hkept, hbridged rfl⟩

/-- A second worker verifies the event after the first one's lease; two epochs later
the first one rejects its copy as expired and overwrites the verdict, while the
payout row stays. -/
theorem expired_overwrites_verified : Start sampleWorld ∧ ∃ w w' before after,
    Run (Step sampleSettings) sampleWorld before w ∧ Run (Step sampleSettings) w after w' ∧
      ¬ VerdictsKept w w' ∧
      (w'.tables.events.get? "r1").map BitsetEvent.verdict = some (.rejected,
        "per_miner_challenge_expired", some "per_miner_challenge_expired", 0) ∧
      ¬ Bridged Dict.empty w'.tables := by
  refine ⟨⟨rfl, rfl⟩, ?_⟩
  have hstart : Run (Step sampleSettings) sampleWorld [] sampleWorld := .nil
  have hreceive := hstart.snoc (l := .receive "r1" sampleEvent)
    (.receive rfl (by intro other e h; cases h) rfl)
  have hfirst := hreceive.snoc (l := .claim "w1" 10 120010 8) (.claim rfl)
  have hsecond := hfirst.snoc (l := .claim "w2" 120010 240010 8) (.claim rfl)
  have hverify := hsecond.snoc
    (l := .verify (sampleEnv 120015 7) "r1" (lockedRow "w1" 120010 sampleEvent))
    (.verify (List.Mem.head _) (show gradeBitset (sampleEnv 120015 7)
      (lockedRow "w1" 120010 sampleEvent) = some (.verified 2 "ab" "ac") from rfl))
  have hlate := hverify.here.snoc (l := .verify (sampleEnv 240020 9) "r1" sampleEvent)
    (.verify (by decide +kernel) (grade_expired 240020))
  refine ⟨_, _, _, _, hverify, hlate, ?_, by decide +kernel, ?_⟩
  · exact overwritten "r1" (by decide +kernel) (by decide +kernel)
  · exact not_bridged "r1" sampleEvent.pair (by decide +kernel) (by decide +kernel)

end Cathedral.Publisher.Bitset
