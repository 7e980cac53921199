import Cathedral.Lib.FloatOps
import Cathedral.Lib.PyJson
import Cathedral.Publisher.Graders
import Cathedral.Thin.Core

/-!
# Cathedral.Lanes.SolverArena — the solver arena

`scaffold/lanes/solver_arena.py`: published solvers are registered by the hash of their
source, run over a batch under the eyes of the host, every certificate is checked again,
and a challenger takes the crown when its PAR-2 beats the champion's by a margin.

The adapters that run a solver are functions of the formula and the limit; `none` is an
exception. The proof checker for unsatisfiable formulas, the generator of the formulas
and SHA-256 are parameters. Times are exact rationals.
-/

namespace Cathedral.Lanes.SolverArena

/-! ## Solvers -/

inductive Outcome where
  | sat
  | unsat
  | timeout
  | invalid
deriving DecidableEq

/-- A published solver; its identity is the hash of its source. -/
structure SolverSpec where
  sourceUrl : PyStr
  containerDigest : PyStr
  sourceSha256 : PyStr
  ownerHotkey : PyStr

def SolverSpec.commitmentId (spec : SolverSpec) : PyStr := spec.sourceSha256

structure SolverRegistry where
  byCommitment : Dict PyStr SolverSpec
  evaluated : List PyStr

def SolverRegistry.empty : SolverRegistry := ⟨Dict.empty, []⟩

/-- `register`, with its reason. -/
def SolverRegistry.register (r : SolverRegistry) (spec : SolverSpec) :
    (Bool × String) × SolverRegistry :=
  match r.byCommitment.get? spec.commitmentId with
  | some _ => ((false, "duplicate_source_hash"), r)
  | none =>
    ((true, "registered"),
      { r with byCommitment := r.byCommitment.set spec.commitmentId spec })

def SolverRegistry.get (r : SolverRegistry) (cid : PyStr) : Option SolverSpec :=
  r.byCommitment.get? cid

def SolverRegistry.needsEval (r : SolverRegistry) (cid : PyStr) : Bool :=
  (r.get cid).isSome && cid ∉ r.evaluated

def SolverRegistry.markEvaluated (r : SolverRegistry) (cid : PyStr) : SolverRegistry :=
  { r with evaluated := cid :: r.evaluated }

/-! ## The referee -/

/-- What the arena takes from the interpreter and the eval host. -/
structure Host where
  tables : UnicodeTables
  haveDratTrim : Bool
  /-- `verify_drat`: the verdict with its detail, `none` where it raises. -/
  verifyDrat : String → PyStr → Option (Bool × String)
  genPlanted3sat : ℤ → ℕ → ℕ → String
  sha256Hex : Bytes → String

structure Instance where
  taskId : String
  cnf : String
  timeoutMs : ℚ

structure InstanceResult where
  taskId : String
  outcome : Outcome
  wallMs : ℚ
  certOk : Bool
  certKind : String
  reason : String
deriving DecidableEq

/-- A certified close. -/
def InstanceResult.solved (r : InstanceResult) : Bool :=
  r.certOk && (r.outcome = .sat || r.outcome = .unsat)

/-- What the host has observed of one run. -/
structure RunResult where
  wallMs : ℚ
  timedOut : Bool

structure AdapterOutput where
  claimed : Outcome
  witness : List ℤ
  drat : PyStr
  run : RunResult

abbrev SolverAdapter : Type := String → ℚ → Option AdapterOutput

structure UnsatCheck where
  ok : Bool
  stub : Bool
  reason : String

def verifyUnsatCert (H : Host) (cnf : String) (drat : PyStr) : Option UnsatCheck :=
  if PyStr.strip drat = [] then some ⟨false, false, "empty_cert"⟩
  else if !H.haveDratTrim then some ⟨false, true, "drat-trim_not_installed"⟩
  else (H.verifyDrat cnf drat).map fun verdict =>
    ⟨verdict.1, false, "drat-trim:" ++ verdict.2⟩

/-- One turn of `run_batch`: the host's own observation first, then the certificate. -/
def certify (H : Host) (adapter : SolverAdapter) (inst : Instance) : Option InstanceResult := do
  let output ← adapter inst.cnf inst.timeoutMs
  let wall := output.run.wallMs
  if output.run.timedOut then
    some ⟨inst.taskId, .timeout, wall, false, "", "host_observed_timeout"⟩
  else
    match output.claimed with
    | .sat => do
      let ok ← Publisher.Graders.verifyWitness H.tables (PyStr.ofString inst.cnf) output.witness
      some ⟨inst.taskId, if ok then .sat else .invalid, wall, ok, "witness",
        if ok then "" else "witness_does_not_satisfy"⟩
    | .unsat => do
      let check ← verifyUnsatCert H inst.cnf output.drat
      let ok := check.ok && !check.stub
      some ⟨inst.taskId, if ok then .unsat else .invalid, wall, ok, "drat",
        if ok then "" else if !check.stub then check.reason else "drat_unverified_stub"⟩
    | _ => some ⟨inst.taskId, .timeout, wall, false, "", "solver_abstained"⟩

/-- `run_batch`; `none` where the adapter or a check raises. -/
def runBatch (H : Host) (adapter : SolverAdapter) (instances : List Instance) :
    Option (List InstanceResult) :=
  instances.mapM (certify H adapter)

/-! ## Metrics -/

def round3 (x : ℚ) : ℚ := Thin.roundHalfEven (x * 10 ^ 3) / 10 ^ 3

def round6 (x : ℚ) : ℚ := Thin.roundHalfEven (x * 10 ^ 6) / 10 ^ 6

def parK : ℚ := 2

/-- What an instance adds to the total of `par2_ms`. -/
def penalized (timeoutMsByTask : Dict String ℚ) (r : InstanceResult) : ℚ :=
  if r.solved then r.wallMs else parK * (timeoutMsByTask.get? r.taskId).getD r.wallMs

def par2Ms (results : List InstanceResult) (timeoutMsByTask : Dict String ℚ) : PyFloat :=
  if results.isEmpty then .posInf
  else .finite (round3 ((results.map (penalized timeoutMsByTask)).sum / results.length))

def solvedTasks (results : List InstanceResult) : List String :=
  (results.filter (·.solved)).map (·.taskId)

def marginalVbsCount (challenger champion : List InstanceResult) : ℕ :=
  challenger.countP fun r => r.solved && r.taskId ∉ solvedTasks champion

/-- `{b.task_id: b.timeout_ms for b in instances}`. -/
def timeoutsOf (instances : List Instance) : Dict String ℚ :=
  Dict.ofList (instances.map fun inst => (inst.taskId, inst.timeoutMs))

/-! ## The champion -/

structure RecordFall where
  newChampion : PyStr
  oldChampion : Option PyStr
  oldPar2Ms : PyFloat
  newPar2Ms : PyFloat
  marginMs : PyFloat
  batchSize : ℕ

structure ChampionState where
  commitmentId : Option PyStr
  par2Ms : PyFloat
  results : List InstanceResult
  spec : Option SolverSpec

def ChampionState.vacant : ChampionState := ⟨none, .posInf, [], none⟩

structure ChampionMachine where
  champion : ChampionState
  dethroneMarginMs : ℚ

def dethroneMarginMs : ℚ := 1000

/-- The state of a champion that was just evaluated. -/
def ChampionState.crowned (spec : SolverSpec) (par2 : PyFloat) (results : List InstanceResult) :
    ChampionState := ⟨some spec.commitmentId, par2, results, some spec⟩

def ChampionMachine.consider (m : ChampionMachine) (spec : SolverSpec)
    (results : List InstanceResult) (timeoutMsByTask : Dict String ℚ) :
    Option RecordFall × ChampionMachine :=
  let challenger := par2Ms results timeoutMsByTask
  let old := m.champion
  let crowned : ChampionMachine :=
    { m with champion := ChampionState.crowned spec challenger results }
  match old.commitmentId with
  | none =>
    (some ⟨spec.commitmentId, none, .posInf, challenger, .posInf, results.length⟩, crowned)
  | some oldId =>
    if spec.commitmentId = oldId then (none, m)
    else
      let margin := old.par2Ms.sub challenger
      if PyFloat.le (.finite m.dethroneMarginMs) margin then
        (some ⟨spec.commitmentId, some oldId, old.par2Ms, challenger, margin.mapFinite round3,
          results.length⟩, crowned)
      else (none, m)

/-! ## The lane -/

structure SolverArenaLane where
  registry : SolverRegistry
  champion : ChampionMachine
  adapters : Dict PyStr SolverAdapter
  batchSize : ℕ
  lastFall : Option RecordFall

/-- A lane as `SolverArenaLane()` makes it. -/
def SolverArenaLane.fresh (batchSize : ℕ) : SolverArenaLane :=
  ⟨.empty, ⟨.vacant, SolverArena.dethroneMarginMs⟩, Dict.empty, batchSize, none⟩

/-- `_TIERS.get(tier, _TIERS[1])`: variables, clauses, limit in milliseconds. -/
def tierOf (tier : ℤ) : ℕ × ℕ × ℕ :=
  if tier = 0 then (20, 80, 5000) else if tier = 2 then (120, 510, 60000) else (60, 255, 20000)

def familyId : String := "solver_arena_v1"

def instanceOf (H : Host) (seed tier : ℤ) (i : ℕ) : Instance :=
  let s := seed * 1000003 + i
  let shape := tierOf tier
  let digest := H.sha256Hex (encodeUtf8 (familyId ++ ":" ++ toString s ++ ":" ++ toString tier).toList)
  ⟨String.ofList (digest.toList.take 32), H.genPlanted3sat s shape.1 shape.2.1, shape.2.2⟩

/-- `build_batch`; a size of zero stands for the size of the lane. -/
def SolverArenaLane.buildBatch (H : Host) (lane : SolverArenaLane) (seed tier : ℤ) (n : ℕ) :
    List Instance :=
  (List.range (if n = 0 then lane.batchSize else n)).map (instanceOf H seed tier)

structure Submission where
  minerHotkey : PyStr
  answer : List (PyStr × PyJson.Value)

structure Evaluation where
  commitmentId : PyStr
  ownerHotkey : PyStr
  par2Ms : PyFloat
  championPar2Ms : PyFloat
  batchSize : ℕ
  solved : ℕ
  marginalVbs : ℕ
  recordFell : Bool
  isChampion : Bool
  allCertified : Bool
  recordFall : Option RecordFall

inductive Details where
  | none
  | commitment (cid : PyStr)
  | evaluated (ev : Evaluation)

structure VerifierResult where
  parsedOk : Bool
  outcome : Outcome
  rawMetric : ℚ
  rejectionReason : Option String
  details : Details

/-- A text of the answer that is not empty. -/
def answerText (answer : List (PyStr × PyJson.Value)) (key : String) : Option PyStr :=
  match Dict.find (PyStr.ofString key) answer with
  | some (.str s) => if s = [] then none else some s
  | _ => none

/-- The commitment that a submission makes. -/
def Submission.spec (sub : Submission) : Option SolverSpec := do
  let src ← answerText sub.answer "source_url"
  let digest ← answerText sub.answer "container_digest"
  let shash ← answerText sub.answer "source_sha256"
  some ⟨src, digest, shash, sub.minerHotkey⟩

def refused (parsedOk : Bool) (reason : String) (details : Details) : VerifierResult :=
  ⟨parsedOk, .invalid, 0, some reason, details⟩

/-- The lane after a solver is registered, unless its source already is. -/
def SolverArenaLane.withSpec (lane : SolverArenaLane) (spec : SolverSpec) : SolverArenaLane :=
  if (lane.registry.get spec.commitmentId).isNone then
    { lane with registry := (lane.registry.register spec).2 }
  else lane

/-- The end of `validate_submission`: the results of the batch, past the champion. -/
def SolverArenaLane.judge (lane : SolverArenaLane) (instances : List Instance) (sub : Submission)
    (spec : SolverSpec) (results : List InstanceResult) : VerifierResult × SolverArenaLane :=
  let cid := spec.commitmentId
  let timeouts := timeoutsOf instances
  let old := lane.champion.champion
  let considered := lane.champion.consider spec results timeouts
  let lane' : SolverArenaLane :=
    { lane with
      registry := lane.registry.markEvaluated cid
      champion := considered.2
      lastFall := considered.1 }
  let solved := results.countP (·.solved)
  let details : Evaluation :=
    { commitmentId := cid
      ownerHotkey := sub.minerHotkey
      par2Ms := par2Ms results timeouts
      championPar2Ms := old.par2Ms
      batchSize := results.length
      solved := solved
      marginalVbs := marginalVbsCount results old.results
      recordFell := considered.1.isSome
      isChampion := considered.2.champion.commitmentId = some cid
      allCertified := results.all fun r => !(r.outcome = .sat || r.outcome = .unsat) || r.certOk
      recordFall := considered.1 }
  (⟨true, if 0 < solved then .sat else .timeout,
    if results.isEmpty then 0 else solved / results.length,
    if 0 < solved then none else some "no_certified_solve", .evaluated details⟩, lane')

/-- `validate_submission` on a hidden batch; no result where an adapter or a check raises. -/
def SolverArenaLane.validateSubmission (H : Host) (lane : SolverArenaLane)
    (instances : List Instance) (sub : Submission) : Option VerifierResult × SolverArenaLane :=
  match sub.spec with
  | none => (some (refused false "malformed_solver_commitment" .none), lane)
  | some spec =>
    let lane := lane.withSpec spec
    let cid := spec.commitmentId
    if !lane.registry.needsEval cid then
      (some (refused true "already_evaluated_or_duplicate" (.commitment cid)), lane)
    else
      match lane.adapters.get? cid with
      | none => (some (refused true "no_eval_adapter" (.commitment cid)), lane)
      | some adapter =>
        match runBatch H adapter instances with
        | none => (none, lane)
        | some results =>
          let judged := lane.judge instances sub spec results
          (some judged.1, judged.2)

end Cathedral.Lanes.SolverArena
