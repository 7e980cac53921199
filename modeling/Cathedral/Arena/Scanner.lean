import Cathedral.Arena.Replay

/-!
# Cathedral.Arena.Scanner — submissions, the ledger and the leaderboard

`game/arena/scanner.py`. A submission is accepted when it is for its task and its witness
reproduces; what was already credited to the miner is not credited again. The ledger is a file
of one JSON document a line, which the next submission and the leaderboard read.

Which tasks there are depends on the corpus beside the repository, so the catalog is a parameter.
Scores are exact rationals; how the sums of the leaderboard are rounded is a parameter too.
-/

namespace Cathedral.Arena.Scanner

open PyJson (Value)

/-! ## Tasks and submissions -/

structure ScannerTask where
  taskId : PyStr
  targetNetuid : ℤ
  targetName : PyStr
  repo : PyStr
  objective : PyStr
  replayTargetId : PyStr
  expectedFamily : PyStr
  requiredFields : List PyStr
  nonce : PyStr
  bountyWeight : ℚ

structure ScannerSubmission where
  taskId : PyStr
  minerHotkey : PyStr
  nonce : PyStr
  proofFamily : PyStr
  witness : Value
  trace : Value
  claim : Value
  report : PyStr

def sha (C : Crypto) (v : Value) : PyStr :=
  C.sha256Hex (asciiBytes (Json.render C.numeral v.sorted))

/-- `type(value).__name__` of a value that was read from JSON. -/
def typeName : Value → String
  | .null => "NoneType"
  | .bool _ => "bool"
  | .num (.int _) => "int"
  | .num (.float _) => "float"
  | .str _ => "str"
  | .arr _ => "list"
  | .obj _ => "dict"

def normalizeClaim (C : Crypto) (claim : Value) : Members × Bool :=
  if PyJson.truthy claim = false then ([], true)
  else
    match claim with
    | .obj members => (members, true)
    | _ => (record [("schema", text "cathedral.scanner.claim.v1"), ("_invalid", .bool true),
        ("raw_type", text (typeName claim)), ("raw_sha256", .str (sha C claim))], false)

def ScannerSubmission.asArtifact (C : Crypto) (sub : ScannerSubmission) : Members :=
  let claim := (normalizeClaim C sub.claim).1
  record [("schema", text "cathedral.scanner.submission.v1"), ("task_id", .str sub.taskId),
    ("miner_hotkey", .str sub.minerHotkey), ("nonce", .str sub.nonce),
    ("proof_family", .str sub.proofFamily), ("witness", sub.witness), ("trace", sub.trace),
    ("claim_schema", (get claim "schema").getD (text "cathedral.scanner.claim.v1")),
    ("claim", .obj claim), ("claim_valid", .bool (normalizeClaim C sub.claim).2),
    ("claim_sha256", .str (sha C (.obj claim))),
    ("report_sha256", .str (sha C (.str sub.report)))]

/-! ## Verification -/

structure ScannerGates where
  taskMatches : Bool
  nonceMatches : Bool
  familyAligned : Bool
  decodeMapPresent : Bool
  replaySucceeds : Bool

/-- `all(gates.values())`. -/
def ScannerGates.all (g : ScannerGates) : Bool :=
  g.taskMatches && g.nonceMatches && g.familyAligned && g.decodeMapPresent && g.replaySucceeds

inductive Reason where
  | taskMismatch
  | nonceMismatch
  | proofFamilyMismatch
  | missingDecodeMap
  | replay (reason : ReplayReason)
  | duplicateTaskCredit

structure ScannerVerdict where
  accepted : Bool
  score : ℚ
  gates : ScannerGates
  reasons : List Reason
  replayTargetId : PyStr
  observed : Members
  artifactSha256 : PyStr

/-- `bool(sub.witness and all(k in sub.witness for k in task.required_fields))`; `none` where it
raises. -/
def decodeMapPresent (task : ScannerTask) (witness : Value) : Option Bool :=
  if PyJson.truthy witness then containsAll witness task.requiredFields else some false

/-- The reasons of the gates, in their order. -/
def gateReasons (g : ScannerGates) : List Reason :=
  (if g.taskMatches then [] else [.taskMismatch]) ++
  (if g.nonceMatches then [] else [.nonceMismatch]) ++
  (if g.familyAligned then [] else [.proofFamilyMismatch]) ++
  (if g.decodeMapPresent then [] else [.missingDecodeMap])

/-- The reason of a replay that did not reproduce. -/
def replayReasons (out : ReplayOutcome) : List Reason :=
  if out.reproduced then [] else [.replay (out.reason.getD .proofDidNotReproduce)]

/-- The gates for what the replay came to. -/
def gatesOf (task : ScannerTask) (sub : ScannerSubmission) (present reproduced : Bool) :
    ScannerGates where
  taskMatches := decide (sub.taskId = task.taskId)
  nonceMatches := decide (sub.nonce = task.nonce)
  familyAligned := decide (sub.proofFamily = task.expectedFamily)
  decodeMapPresent := present
  replaySucceeds := reproduced

/-- `verify_submission`; `none` where it raises. -/
def verifySubmission (C : Crypto) (targets : Registry) (task : ScannerTask)
    (sub : ScannerSubmission) : Option ScannerVerdict := do
  let present ← decodeMapPresent task sub.witness
  let outcome ← runReplay targets task.replayTargetId sub.witness
  let gates := gatesOf task sub present outcome.reproduced
  some {
    accepted := gates.all
    score := if gates.all then task.bountyWeight else 0
    gates := gates
    reasons := gateReasons gates ++ replayReasons outcome
    replayTargetId := task.replayTargetId
    observed := outcome.observed
    artifactSha256 := sha C (.obj (sub.asArtifact C)) }

variable {sub : ScannerSubmission}

/-- A verdict accepts exactly the submissions for the task whose witness violates the target's
invariant. -/
theorem accepted_iff {C : Crypto} {targets : Registry} {task : ScannerTask} {v : ScannerVerdict}
    (h : verifySubmission C targets task sub = some v) :
    v.accepted = true ↔ sub.taskId = task.taskId ∧ sub.nonce = task.nonce ∧
      sub.proofFamily = task.expectedFamily ∧ decodeMapPresent task sub.witness = some true ∧
        ∃ target, targets task.replayTargetId = some target ∧
          PyJson.truthy sub.witness = true ∧
            containsAll sub.witness target.decode = some true ∧ Violates target sub.witness := by
  simp only [verifySubmission, Option.bind_eq_bind, Option.bind_eq_some_iff] at h
  obtain ⟨present, hpresent, out, hout, h⟩ := h
  cases h
  rw [← reproduced_iff hout, hpresent, Option.some.injEq]
  simp [ScannerGates.all, gatesOf, and_assoc]

/-- An accepted submission scores the weight of its task. -/
theorem score_of_accepted {C : Crypto} {targets : Registry} {task : ScannerTask}
    {v : ScannerVerdict} (h : verifySubmission C targets task sub = some v)
    (hv : v.accepted = true) : v.score = task.bountyWeight := by
  simp only [verifySubmission, Option.bind_eq_bind, Option.bind_eq_some_iff] at h
  obtain ⟨present, -, out, -, h⟩ := h
  cases h
  exact if_pos hv

/-! ## The ledger -/

/-- What the functions below read of a line. -/
structure Row where
  minerHotkey : PyStr
  taskId : PyStr
  accepted : Bool
  score : ℚ
  artifactSha256 : PyStr

/-- A verdict after `ledger_gate`. -/
structure GatedVerdict extends ScannerVerdict where
  notDuplicateCredit : Bool

def alreadyAccepted (sub : ScannerSubmission) (rows : List Row) : Bool :=
  rows.any fun e =>
    decide (e.minerHotkey = sub.minerHotkey) && decide (e.taskId = sub.taskId) && e.accepted

def ledgerGate (verdict : ScannerVerdict) (sub : ScannerSubmission) (rows : List Row) :
    GatedVerdict :=
  if alreadyAccepted sub rows && verdict.accepted then
    { verdict with
      accepted := false
      score := 0
      reasons := verdict.reasons ++ [.duplicateTaskCredit]
      notDuplicateCredit := false }
  else { verdict with notDuplicateCredit := !alreadyAccepted sub rows }

/-- A line of the ledger. The members of the task that it repeats beside the manifest, and its
copy of the verdict, are not written twice here. -/
structure LedgerEntry where
  createdAt : ℚ
  task : ScannerTask
  minerHotkey : PyStr
  accepted : Bool
  score : ℚ
  reasons : List Reason
  gates : ScannerGates
  notDuplicateCredit : Bool
  artifactSha256 : PyStr
  claimSha256 : PyStr
  claimPresent : Bool
  claimValid : Bool

/-- The entry that `append_ledger` writes. -/
def ledgerEntry (C : Crypto) (now : ℚ) (task : ScannerTask) (sub : ScannerSubmission)
    (verdict : GatedVerdict) : LedgerEntry where
  createdAt := now
  task := task
  minerHotkey := sub.minerHotkey
  accepted := verdict.accepted
  score := verdict.score
  reasons := verdict.reasons
  gates := verdict.gates
  notDuplicateCredit := verdict.notDuplicateCredit
  artifactSha256 := verdict.artifactSha256
  claimSha256 := sha C (.obj (normalizeClaim C sub.claim).1)
  claimPresent := !(normalizeClaim C sub.claim).1.isEmpty
  claimValid := (normalizeClaim C sub.claim).2

/-- `json.loads(json.dumps(s))` of a text: halves of a surrogate pair that stand side by side
are one character afterwards. -/
def reread (s : PyStr) : PyStr := Json.joinPairs (Json.splitPairs s)

/-- What is read of a line. -/
def LedgerEntry.row (e : LedgerEntry) : Row where
  minerHotkey := reread e.minerHotkey
  taskId := reread e.task.taskId
  accepted := e.accepted
  score := e.score
  artifactSha256 := e.artifactSha256

def readLedger (ledger : List LedgerEntry) : List Row := ledger.map LedgerEntry.row

/-- A text that JSON can carry is read as it was written. -/
theorem reread_of_joined {s : PyStr} (h : Json.Joined s) : reread s = s :=
  Json.joinPairs_splitPairs h

@[simp] theorem reread_reread (s : PyStr) : reread (reread s) = reread s :=
  reread_of_joined (Json.joined_joinPairs _)

/-- What `record_submission` appends after it has read some rows; `none` where it raises, and
appends nothing. -/
def recorded (C : Crypto) (targets : Registry) (now : ℚ) (task : ScannerTask)
    (sub : ScannerSubmission) (rows : List Row) : Option LedgerEntry :=
  (verifySubmission C targets task sub).map fun verdict =>
    ledgerEntry C now task sub (ledgerGate verdict sub rows)

theorem alreadyAccepted_iff {rows : List Row} :
    alreadyAccepted sub rows = true ↔ ∃ e ∈ rows, e.minerHotkey = sub.minerHotkey ∧
      e.taskId = sub.taskId ∧ e.accepted = true := by
  simp [alreadyAccepted, and_assoc]

/-- The gate takes credit away from what was credited before. -/
theorem ledgerGate_accepted (v : ScannerVerdict) (sub : ScannerSubmission) (rows : List Row) :
    (ledgerGate v sub rows).accepted = (v.accepted && !alreadyAccepted sub rows) := by
  unfold ledgerGate
  split
  · rename_i hdup
    rw [Bool.and_eq_true] at hdup
    simp [hdup]
  · rename_i hfresh
    cases hv : v.accepted with
    | false => simp
    | true =>
      rw [hv, Bool.and_true, Bool.not_eq_true] at hfresh
      simp [hfresh]

theorem ledgerGate_score {v : ScannerVerdict} {rows : List Row}
    (h : (ledgerGate v sub rows).accepted = true) : (ledgerGate v sub rows).score = v.score := by
  unfold ledgerGate at h ⊢
  split at h
  · cases h
  · rename_i hfresh
    rw [if_neg hfresh]

/-- The entry of a call: whose it is, and when it gives credit. -/
structure Entered (C : Crypto) (targets : Registry) (task : ScannerTask) (sub : ScannerSubmission)
    (rows : List Row) (e : LedgerEntry) : Prop where
  accepted : e.accepted = true ↔ (∃ v, verifySubmission C targets task sub = some v ∧
    v.accepted = true) ∧ alreadyAccepted sub rows = false
  score : e.accepted = true → e.score = task.bountyWeight
  minerHotkey : e.minerHotkey = sub.minerHotkey
  task : e.task = task

theorem entered_of_recorded {C : Crypto} {targets : Registry} {now : ℚ} {task : ScannerTask}
    {rows : List Row} {e : LedgerEntry} (h : recorded C targets now task sub rows = some e) :
    Entered C targets task sub rows e := by
  obtain ⟨v, hv, rfl⟩ := Option.map_eq_some_iff.mp h
  refine ⟨?_, fun haccepted => ?_, rfl, rfl⟩
  · show (ledgerGate v sub rows).accepted = true ↔ _
    rw [ledgerGate_accepted, hv]
    simp
  · have hboth := ledgerGate_accepted v sub rows
    change (ledgerGate v sub rows).accepted = true at haccepted
    rw [haccepted, eq_comm, Bool.and_eq_true] at hboth
    exact (ledgerGate_score haccepted).trans (score_of_accepted hv hboth.1)

/-! ## The leaderboard -/

/-- How sums and quotients of floats are rounded. -/
structure Rounding where
  add : ℚ → ℚ → ℚ
  div : ℚ → ℚ → ℚ
  /-- `sum(...)`, which need not round after every addition. -/
  sum : List ℚ → ℚ
  round6 : ℚ → ℚ

structure MinerRow where
  score : ℚ
  accepted : ℕ
  rejected : ℕ
  benchmarkScore : ℚ
  tasks : List PyStr
  lastArtifactSha256 : PyStr

def MinerRow.fresh : MinerRow := ⟨0, 0, 0, 0, [], []⟩

/-- `row["tasks"].add(...)`. -/
def addTask (tasks : List PyStr) (taskId : PyStr) : List PyStr :=
  if taskId ∈ tasks then tasks else tasks ++ [taskId]

/-- The row of a miner after one more entry. -/
def MinerRow.count (R : Rounding) (catalogIds : List PyStr) (row : MinerRow) (e : Row) :
    MinerRow :=
  if e.accepted then
    { row with
      score := R.add row.score e.score
      benchmarkScore :=
        if e.taskId ∈ catalogIds then R.add row.benchmarkScore e.score else row.benchmarkScore
      accepted := row.accepted + 1
      tasks := addTask row.tasks e.taskId
      lastArtifactSha256 := e.artifactSha256 }
  else { row with rejected := row.rejected + 1, lastArtifactSha256 := e.artifactSha256 }

/-- The loop over the ledger. -/
def minerRows (R : Rounding) (catalogIds : List PyStr) (entries : List Row) :
    Dict PyStr MinerRow :=
  entries.foldl (fun rows e => rows.set e.minerHotkey
    ((rows.getD e.minerHotkey .fresh).count R catalogIds e)) Dict.empty

structure FamilyCoverage where
  family : PyStr
  kills : ℕ
  tasks : ℕ
  killRate : ℚ
  score : ℚ
  possibleScore : ℚ
  weightedKillRate : ℚ

/-- The families of the catalog, sorted. -/
def families (catalog : List ScannerTask) : List PyStr :=
  (catalog.map ScannerTask.expectedFamily).dedup.mergeSort (· ≤ ·)

/-- What a miner has solved of a family; each task of the catalog counts once. -/
def familyCoverage (R : Rounding) (catalog : List ScannerTask) (taskIds : List PyStr)
    (family : PyStr) : FamilyCoverage :=
  let familyTasks := catalog.filter (·.expectedFamily = family)
  let killed := familyTasks.filter (·.taskId ∈ taskIds)
  let score := R.sum (killed.map ScannerTask.bountyWeight)
  -- the loop over the catalog adds one after the other
  let possible := (familyTasks.map ScannerTask.bountyWeight).foldl R.add 0
  { family := family
    kills := killed.length
    tasks := familyTasks.length
    killRate := if familyTasks.length = 0 then 0
      else R.round6 (R.div killed.length familyTasks.length)
    score := R.round6 score
    possibleScore := R.round6 possible
    weightedKillRate := if possible = 0 then 0 else R.round6 (R.div score possible) }

structure RankedRow where
  minerHotkey : PyStr
  rank : ℕ
  score : ℚ
  accepted : ℕ
  rejected : ℕ
  benchmarkScore : ℚ
  lastArtifactSha256 : PyStr
  uniqueTasks : ℕ
  benchmarkTasks : ℕ
  kills : ℕ
  familyCoverage : List FamilyCoverage
  killRate : ℚ
  weightedKillRate : ℚ

/-- The order of `sorted(rows.values(), key=...)`. -/
def rankedBefore (a b : PyStr × MinerRow) : Bool :=
  decide (b.2.score < a.2.score) || decide (a.2.score = b.2.score) &&
    (decide (b.2.accepted < a.2.accepted) || decide (a.2.accepted = b.2.accepted) &&
      decide (a.1 ≤ b.1))

/-- One row of the answer. -/
def rankedRow (R : Rounding) (catalog : List ScannerTask) (i : ℕ) (row : PyStr × MinerRow) :
    RankedRow :=
  let catalogIds := (catalog.map ScannerTask.taskId).dedup
  let kills := (row.2.tasks.filter (· ∈ catalogIds)).length
  let possible := R.sum (catalog.map ScannerTask.bountyWeight)
  { minerHotkey := row.1
    rank := i + 1
    score := R.round6 row.2.score
    accepted := row.2.accepted
    rejected := row.2.rejected
    benchmarkScore := R.round6 row.2.benchmarkScore
    lastArtifactSha256 := row.2.lastArtifactSha256
    uniqueTasks := row.2.tasks.length
    benchmarkTasks := catalogIds.length
    kills := kills
    familyCoverage := (families catalog).map (familyCoverage R catalog row.2.tasks)
    killRate := if catalogIds.length = 0 then 0 else R.round6 (R.div kills catalogIds.length)
    weightedKillRate :=
      if possible = 0 then 0 else R.round6 (R.div row.2.benchmarkScore possible) }

/-- The miners of `leaderboard`. -/
def leaderboard (R : Rounding) (catalog : List ScannerTask) (entries : List Row) :
    List RankedRow :=
  ((minerRows R (catalog.map ScannerTask.taskId) entries).items.mergeSort rankedBefore).mapIdx
    (rankedRow R catalog)

/-! ### What is summed -/

/-- The accepted entries of a miner. -/
def credits (entries : List Row) (minerHotkey : PyStr) : List Row :=
  entries.filter fun e => decide (e.minerHotkey = minerHotkey) && e.accepted

/-- The credits of a miner, as entries. -/
theorem credits_readLedger (ledger : List LedgerEntry) (minerHotkey : PyStr) :
    credits (readLedger ledger) minerHotkey = (ledger.filter fun e =>
      decide (e.row.minerHotkey = minerHotkey) && e.row.accepted).map LedgerEntry.row :=
  List.filter_map

section Sums

variable {R : Rounding} {catalogIds : List PyStr}

/-- The sums of a row over the entries of its miner. -/
theorem foldl_count (R : Rounding) (catalogIds : List PyStr) (entries : List Row) :
    ∀ row : MinerRow,
    (entries.foldl (MinerRow.count R catalogIds) row).score =
        (((entries.filter (·.accepted)).map Row.score).foldl R.add row.score) ∧
      (entries.foldl (MinerRow.count R catalogIds) row).benchmarkScore =
        ((((entries.filter (·.accepted)).filter (·.taskId ∈ catalogIds)).map Row.score).foldl R.add
          row.benchmarkScore) := by
  induction entries with
  | nil => exact fun row => ⟨rfl, rfl⟩
  | cons e entries ih =>
    intro row
    rw [List.foldl_cons]
    obtain ⟨hscore, hbenchmark⟩ := ih (row.count R catalogIds e)
    rw [hscore, hbenchmark]
    cases haccepted : e.accepted with
    | false =>
      rw [List.filter_cons_of_neg (by simp [haccepted]), MinerRow.count, haccepted]
      exact ⟨rfl, rfl⟩
    | true =>
      rw [List.filter_cons_of_pos haccepted, MinerRow.count, haccepted, if_pos rfl,
        List.filter_cons]
      refine ⟨rfl, ?_⟩
      by_cases hmem : e.taskId ∈ catalogIds
      · rw [if_pos hmem, if_pos (decide_eq_true hmem)]
        rfl
      · rw [if_neg hmem, if_neg (by simpa using hmem)]

/-- The row of a miner counts the entries of that miner, in their order. -/
theorem get?_minerRows (entries : List Row) (minerHotkey : PyStr) :
    (minerRows R catalogIds entries).getD minerHotkey .fresh =
      (entries.filter (·.minerHotkey = minerHotkey)).foldl (MinerRow.count R catalogIds)
        .fresh := by
  have hfold : ∀ (entries : List Row) (d : Dict PyStr MinerRow),
      (entries.foldl (fun rows e => rows.set e.minerHotkey
        ((rows.getD e.minerHotkey .fresh).count R catalogIds e)) d).getD minerHotkey .fresh =
      (entries.filter (·.minerHotkey = minerHotkey)).foldl (MinerRow.count R catalogIds)
        (d.getD minerHotkey .fresh) := by
    intro entries
    induction entries with
    | nil => exact fun d => rfl
    | cons e entries ih =>
      intro d
      rw [List.foldl_cons, ih, Dict.getD, Dict.get?_set]
      by_cases hsame : e.minerHotkey = minerHotkey
      · rw [if_pos hsame, List.filter_cons_of_pos (by simpa using hsame), List.foldl_cons, hsame]
        rfl
      · rw [if_neg hsame, List.filter_cons_of_neg (by simpa using hsame)]
        rfl
  exact hfold entries Dict.empty

/-- A row of the leaderboard has the sums over the accepted entries of its miner. -/
theorem sums_of_mem_leaderboard {catalog : List ScannerTask} {entries : List Row} {r : RankedRow}
    (h : r ∈ leaderboard R catalog entries) :
    r.score = R.round6 (((credits entries r.minerHotkey).map Row.score).foldl R.add 0) ∧
      r.benchmarkScore = R.round6 ((((credits entries r.minerHotkey).filter
        (·.taskId ∈ catalog.map ScannerTask.taskId)).map Row.score).foldl R.add 0) := by
  obtain ⟨i, hi, rfl⟩ := List.mem_mapIdx.mp h
  have hmem : (((minerRows R (catalog.map ScannerTask.taskId) entries).items.mergeSort
      rankedBefore)[i]) ∈ (minerRows R (catalog.map ScannerTask.taskId) entries).items :=
    List.mem_mergeSort.mp (List.getElem_mem _)
  set row := ((minerRows R (catalog.map ScannerTask.taskId) entries).items.mergeSort
    rankedBefore)[i]
  have hrow : row.2 = (entries.filter (·.minerHotkey = row.1)).foldl
      (MinerRow.count R (catalog.map ScannerTask.taskId)) .fresh := by
    have hget : (minerRows R (catalog.map ScannerTask.taskId) entries).get? row.1 = some row.2 :=
      Dict.mem_items.mp hmem
    rw [← get?_minerRows, Dict.getD, hget]
    rfl
  have hcredits : (entries.filter (·.minerHotkey = row.1)).filter (·.accepted) =
      credits entries row.1 := by
    rw [List.filter_filter, credits]
    congr 1
    funext e
    exact Bool.and_comm _ _
  obtain ⟨hscore, hbenchmark⟩ := foldl_count R (catalog.map ScannerTask.taskId)
    (entries.filter (·.minerHotkey = row.1)) .fresh
  rw [← hrow, hcredits] at hscore hbenchmark
  exact ⟨congrArg R.round6 hscore, congrArg R.round6 hbenchmark⟩

end Sums

end Cathedral.Arena.Scanner
