import Cathedral.Lanes.ArenaCredit
import Cathedral.Publisher.ArenaIntake
import Cathedral.Publisher.Payouts

/-!
# Cathedral.Publisher.ArenaEval — the arena's memory and its table

`arena_eval_tick` of `scaffold/publisher/arena_eval.py`: a tick reads the pending solvers,
runs each of them through the lane and writes what came of it, the signed pair and the crown
of a solver that dethroned the champion or the mark that the solver was evaluated. The crown
moves in memory first and in the table by the write; between the two a tick may be ended by
an exception, and the lane lives on.

`memory_and_table_agree` is what holds after every tick that returns, as long as no exception
comes between a fall of the record and its write; `lost_promotion_disagrees` is a run with one
such exception. Solvers are registered between any two steps of a tick.

The signatures of the emitted rows are left out.
-/

namespace Cathedral.Publisher.ArenaEval

open Lanes.SolverArena
open ArenaIntake (SolverRow SolverForm IntakeHost arenaRegisterSolver)

/-! ## Signed rows -/

/-- What a tick takes from the evaluation host and the settings of the process. -/
structure EvalHost where
  arena : Host
  settings : Settings
  /-- `repr` of a finite float. -/
  floatRepr : ℚ → String

def floatText (H : EvalHost) : PyFloat → String
  | .finite q => H.floatRepr q
  | .posInf => "inf"
  | .negInf => "-inf"
  | .nan => "nan"

/-- `(rows._hash16(text) * 4)[:64]`. -/
def wideHash (settings : Settings) (text : String) : String :=
  let digest := (hash16 settings text).toList
  String.ofList ((digest ++ digest ++ digest ++ digest).take 64)

/-- `build_arena_rows`; `none` where a text has no encoding. -/
def buildArenaRows (H : EvalHost) (spec : SolverSpec) (tier : ℤ) (weightedScore : ℚ)
    (par2 championPar2 : PyFloat) (ranAt : Millis) (ids : RowIds) :
    Option (List (String × EvalRun)) := do
  let owner ← PyStr.encode? spec.ownerHotkey
  let commitment ← PyStr.encode? spec.commitmentId
  let challengeId := "arena:" ++ commitment
  -- the champion is rank one by definition
  some (buildSolveRows H.settings ids owner challengeId tier weightedScore
    (wideHash H.settings challengeId)
    (wideHash H.settings
      ("par2:" ++ floatText H par2 ++ ":champ:" ++ floatText H championPar2)) ranAt 1)

/-! ## A tick -/

/-- The commitment of a row of `arena_solvers`. -/
def specOf (sourceSha256 : PyStr) (row : SolverRow) : SolverSpec :=
  ⟨row.sourceUrl, row.containerDigest, sourceSha256, row.ownerHotkey⟩

def pendingSolvers (solvers : Dict PyStr SolverRow) : List SolverSpec :=
  ((solvers.items.filter fun kv => kv.2.status = "pending").insertionSort
    fun a b => a.2.createdAtIso ≤ b.2.createdAtIso).map fun kv => specOf kv.1 kv.2

/-- The submission that a tick makes for a solver. -/
def submissionOf (spec : SolverSpec) : Submission where
  minerHotkey := spec.ownerHotkey
  answer :=
    [(PyStr.ofString "source_url", .str spec.sourceUrl),
      (PyStr.ofString "container_digest", .str spec.containerDigest),
      (PyStr.ofString "source_sha256", .str spec.sourceSha256)]

/-- `det.get("record_fall") if det.get("record_fell") else None`. -/
def fallOf (vr : VerifierResult) : Option RecordFall :=
  vr.evaluation?.bind fun ev => if ev.recordFell then ev.recordFall else none

/-- The write that a tick makes for a solver that it has evaluated. -/
inductive Write where
  | promote (spec : SolverSpec) (weightedScore : ℚ) (par2 championPar2 : PyFloat)
  | evald (spec : SolverSpec)

/-- The solver that a write crowns. -/
def Write.promoted? : Write → Option SolverSpec
  | .promote spec _ _ _ => some spec
  | .evald _ => none

def Write.spec : Write → SolverSpec
  | .promote spec _ _ _ => spec
  | .evald spec => spec

structure Summary where
  evaluated : ℕ
  recordFalls : ℕ
  rowsEmitted : ℕ
  pendingSeen : ℕ
  champion : Option PyStr

/-- A tick in progress: its batch, the solvers that it has read and not yet come to, the write
that is due and its counts. -/
structure OpenTick where
  tier : ℤ
  instances : List Instance
  timeLimitSeconds : ℕ
  remaining : List SolverSpec
  write : Option Write
  evaluated : ℕ
  falls : ℕ
  emittedRows : ℕ
  pendingSeen : ℕ

structure State where
  lane : SolverArenaLane
  solvers : Dict PyStr SolverRow
  evalRuns : Dict String EvalRun
  tick : Option OpenTick

/-- `mint_challenge` and `_pending_solvers`. -/
def openTick (H : Host) (s : State) (seed tier : ℤ) : OpenTick :=
  let instances := s.lane.buildBatch H seed tier 0
  let pending := pendingSolvers s.solvers
  { tier := tier
    instances := instances
    timeLimitSeconds := (tierOf tier).2.2 / 1000 * instances.length
    remaining := pending
    write := none
    evaluated := 0
    falls := 0
    emittedRows := 0
    pendingSeen := pending.length }

/-- The lane with the adapter of a solver. -/
def withAdapter (lane : SolverArenaLane) (cid : PyStr) (adapter : SolverAdapter) :
    SolverArenaLane :=
  { lane with adapters := lane.adapters.set cid adapter }

/-- The write that is due after a verdict. -/
def writeFor (spec : SolverSpec) (timeLimitSeconds : ℕ) (vr : VerifierResult) : Write :=
  if (fallOf vr).isSome then
    .promote spec (score timeLimitSeconds vr).weightedScore
      ((vr.evaluation?.map (·.par2Ms)).getD (.finite 0))
      ((vr.evaluation?.map (·.championPar2Ms)).getD .posInf)
  else .evald spec

/-- The transaction `_promote` on `arena_solvers`. -/
def promoteIn (solvers : Dict PyStr SolverRow) (cid : PyStr) : Dict PyStr SolverRow :=
  (solvers.mapItems fun _ row =>
    if row.status = "champion" then { row with status := "retired" } else row).modify cid
      fun row => { row with status := "champion" }

/-- The transaction `_evald`. -/
def markIn (solvers : Dict PyStr SolverRow) (cid : PyStr) : Dict PyStr SolverRow :=
  solvers.modify cid fun row =>
    if row.status = "pending" then { row with status := "evaluated" } else row

/-! ## Runs -/

inductive Action where
  /-- A solver is registered; the row is written unless the store fails. -/
  | register (form : SolverForm) (now : String) (stored : Bool)
  | start (seed tier : ℤ)
  /-- There is no adapter for the next solver. -/
  | skip
  /-- The next solver is run by its adapter. -/
  | evaluate (adapter : SolverAdapter)
  /-- The write that is due goes through. -/
  | commit (ids : RowIds) (ranAt : Millis)
  /-- The write fails, or another exception ends the tick. -/
  | raise
  /-- The tick returns. -/
  | finish

/-- What a run shows of an action. -/
inductive Output where
  /-- The record fell to a solver. -/
  | fell (cid : PyStr)
  /-- The pair of a solver was committed. -/
  | committed (cid : PyStr) (rows : List (String × EvalRun))
  | returned (summary : Summary)

structure Hosts where
  intake : IntakeHost
  eval : EvalHost

/-- A write goes through. The uuid of a new pair is one that no row has. -/
def commit (H : EvalHost) (s : State) (tick : OpenTick) (ids : RowIds) (ranAt : Millis) :
    Write → Option (State × Option Output)
  | .promote spec weightedScore par2 championPar2 =>
    (buildArenaRows H spec tick.tier weightedScore par2 championPar2 ranAt ids).bind
      fun rows =>
        if s.evalRuns.get? ids.rowUuid = none ∧
            s.evalRuns.get? (compatId ids.rowUuid) = none then
          some ({ s with
            solvers := promoteIn s.solvers spec.commitmentId
            evalRuns := insertRows s.evalRuns rows
            tick := some { tick with
              write := none, emittedRows := tick.emittedRows + rows.length } },
            some (.committed spec.commitmentId rows))
        else none
  | .evald spec =>
    some ({ s with
      solvers := markIn s.solvers spec.commitmentId
      tick := some { tick with write := none } }, none)

/-- The next solver is evaluated; an exception of its adapter or of a check ends the tick. -/
def evaluate (H : Host) (s : State) (tick : OpenTick) (spec : SolverSpec)
    (rest : List SolverSpec) (adapter : SolverAdapter) : State × Option Output :=
  match (withAdapter s.lane spec.commitmentId adapter).validateSubmission H tick.instances
      (submissionOf spec) with
  | (none, lane) => ({ s with lane := lane, tick := none }, none)
  | (some vr, lane) =>
    let fell := (fallOf vr).isSome
    ({ s with
      lane := lane
      tick := some { tick with
        remaining := rest
        write := some (writeFor spec tick.timeLimitSeconds vr)
        evaluated := tick.evaluated + 1
        falls := tick.falls + if fell then 1 else 0 } },
      if fell then some (.fell spec.commitmentId) else none)

/-- One action: the state after it, and what it shows. -/
def act (H : Hosts) (s : State) : Action → Option (State × Option Output)
  | .register form now stored =>
    (arenaRegisterSolver H.intake s.lane.registry s.solvers form now).map fun r =>
      ({ s with
        lane := { s.lane with registry := r.2.1 }
        solvers := if stored then r.2.2 else s.solvers }, none)
  | .start seed tier =>
    match s.tick with
    | none => some ({ s with tick := some (openTick H.eval.arena s seed tier) }, none)
    | some _ => none
  | .skip =>
    match s.tick with
    | some tick =>
      match tick.write, tick.remaining with
      | none, _ :: rest => some ({ s with tick := some { tick with remaining := rest } }, none)
      | _, _ => none
    | none => none
  | .evaluate adapter =>
    match s.tick with
    | some tick =>
      match tick.write, tick.remaining with
      | none, spec :: rest => some (evaluate H.eval.arena s tick spec rest adapter)
      | _, _ => none
    | none => none
  | .commit ids ranAt =>
    match s.tick with
    | some tick => tick.write.bind (commit H.eval s tick ids ranAt)
    | none => none
  | .raise =>
    match s.tick with
    | some _ => some ({ s with tick := none }, none)
    | none => none
  | .finish =>
    match s.tick with
    | some tick =>
      match tick.write, tick.remaining with
      | none, [] =>
        some ({ s with tick := none }, some (.returned
          ⟨tick.evaluated, tick.falls, tick.emittedRows, tick.pendingSeen,
            s.lane.champion.champion.commitmentId⟩))
      | _, _ => none
    | none => none

/-- An action with what it shows. -/
abbrev Event : Type := Action × Option Output

def step (H : Hosts) : State → Event → State → Prop := Acts (act H)

def Output.fell? : Output → Option PyStr
  | .fell cid => some cid
  | _ => none

def Output.committed? : Output → Option (PyStr × List (String × EvalRun))
  | .committed cid rows => some (cid, rows)
  | _ => none

/-- The solvers that have dethroned the champion, one after the other. -/
def fallsOf (ls : List Event) : List PyStr := (answers ls).filterMap Output.fell?

/-- The pairs that were committed. -/
def pairsOf (ls : List Event) : List (PyStr × List (String × EvalRun)) :=
  (answers ls).filterMap Output.committed?

/-! ## The promise -/

/-- A solver wears the crown that it took in a tick. -/
def Crowned (falls : List PyStr) (s : State) (cid : PyStr) : Prop :=
  s.lane.champion.champion.commitmentId = some cid ∧ cid ∈ falls

/-- The pair of a solver was committed once, and its rows are there. -/
def PaidOnce (pairs : List (PyStr × List (String × EvalRun))) (s : State) (cid : PyStr) : Prop :=
  ∃ rows, pairs.filter (fun pair => pair.1 = cid) = [(cid, rows)] ∧
    rows.map (fun row => row.2.schemaVersion) = [6, 5] ∧
      ∀ row ∈ rows, s.evalRuns.get? row.1 = some row.2

/-- The rows with status champion are the one of the champion, if that came from the table. -/
structure CrownAgrees (falls : List PyStr) (s : State) : Prop where
  status : ∀ cid row, s.solvers.get? cid = some row →
    (row.status = "champion" ↔ Crowned falls s cid)
  present : ∀ cid, Crowned falls s cid → s.solvers.get? cid ≠ none

/-- The memory and the table agree. -/
structure Agreement (ls : List Event) (s : State) : Prop where
  crown : CrownAgrees (fallsOf ls) s
  paid : ∀ cid ∈ fallsOf ls, PaidOnce (pairsOf ls) s cid
  pending : ∀ cid row, s.solvers.get? cid = some row → row.status = "pending" →
    cid ∉ s.lane.registry.evaluated

/-- A table without a champion and a lane that has evaluated none of its pending solvers. -/
structure Start (s : State) : Prop where
  uncrowned : ∀ cid row, s.solvers.get? cid = some row → row.status ≠ "champion"
  pending : ∀ cid row, s.solvers.get? cid = some row → row.status = "pending" →
    cid ∉ s.lane.registry.evaluated
  idle : s.tick = none

/-- The solver whose crown is in memory and not yet in the table. -/
def State.promoting (s : State) : Option SolverSpec :=
  (s.tick.bind OpenTick.write).bind Write.promoted?

/-- No exception comes between a fall and its write, no solver that the lane has evaluated is
skipped, and none that the table does not have is registered during a tick. -/
def Orderly (s : State) : Action → Prop
  | .raise => s.promoting = none
  | .skip => ∀ tick ∈ s.tick, ∀ spec ∈ tick.remaining.head?,
      spec.commitmentId ∉ s.lane.registry.evaluated
  | .register form _ stored => stored = true → s.tick.isSome = true →
      form.sourceSha256 ∈ s.lane.registry.evaluated → s.solvers.get? form.sourceSha256 ≠ none
  | _ => True

/-! ## The lane -/

section Lane

variable {H : Host} {lane lane' : SolverArenaLane} {instances : List Instance}
  {spec : SolverSpec} {result : Option VerifierResult}

/-- What a tick submits is the commitment of the row, unless a text of it is empty. -/
theorem submissionOf_spec :
    (submissionOf spec).spec = none ∨ (submissionOf spec).spec = some spec := by
  have hdigest : PyStr.ofString "source_url" ≠ PyStr.ofString "container_digest" := by decide
  have hsource : PyStr.ofString "source_url" ≠ PyStr.ofString "source_sha256" := by decide
  have hsha : PyStr.ofString "container_digest" ≠ PyStr.ofString "source_sha256" := by decide
  obtain ⟨url, digest, sha, owner⟩ := spec
  by_cases hurl : url = []
  · exact Or.inl (by simp [submissionOf, Submission.spec, answerText, Dict.find, hurl])
  by_cases hdig : digest = []
  · exact Or.inl (by simp [submissionOf, Submission.spec, answerText, Dict.find, hdigest, hdig])
  by_cases hsh : sha = []
  · exact Or.inl (by
      simp [submissionOf, Submission.spec, answerText, Dict.find, hsource, hsha, hsh])
  · exact Or.inr (by
      simp [submissionOf, Submission.spec, answerText, Dict.find, hdigest, hsource, hsha, hurl,
        hdig, hsh])

/-- What a solver that was run leaves of the lane. -/
structure Ran (lane lane' : SolverArenaLane) (spec : SolverSpec) (vr : VerifierResult) : Prop where
  fresh : spec.commitmentId ∉ lane.registry.evaluated
  evaluated : lane'.registry.evaluated = spec.commitmentId :: lane.registry.evaluated
  champion : (fallOf vr = none ∧ lane'.champion = lane.champion) ∨
    ((fallOf vr).isSome = true ∧
      lane'.champion.champion.commitmentId = some spec.commitmentId)

/-- The solver of a tick is run, or the lane keeps its champion and what it has evaluated. -/
theorem validate_cases
    (h : lane.validateSubmission H instances (submissionOf spec) = (result, lane')) :
    (lane'.champion = lane.champion ∧
        lane'.registry.evaluated = lane.registry.evaluated ∧ ∀ vr ∈ result, fallOf vr = none) ∨
      ∃ vr, result = some vr ∧ Ran lane lane' spec vr := by
  rcases validateSubmission_cases h with ⟨hlane, hrefused⟩ | ⟨spec', adapter, results, hran⟩
  · have hfall : ∀ vr ∈ result, fallOf vr = none := by
      intro vr hvr
      rw [fallOf, (hrefused vr hvr).1]
      rfl
    rcases hlane with ⟨-, rfl⟩ | ⟨spec', -, rfl⟩
    · exact Or.inl ⟨rfl, rfl, hfall⟩
    · exact Or.inl ⟨withSpec_champion, withSpec_evaluated, hfall⟩
  · have hspec : spec' = spec := by
      rcases @submissionOf_spec spec with hnone | hsome
      · rw [hran.spec_eq] at hnone
        cases hnone
      · rw [hran.spec_eq] at hsome
        exact Option.some.inj hsome
    subst hspec
    have hfresh : spec'.commitmentId ∉ lane.registry.evaluated := by
      have hneeds := hran.needsEval
      simp only [SolverRegistry.needsEval, withSpec_evaluated, Bool.and_eq_true,
        decide_eq_true_eq] at hneeds
      exact hneeds.2
    refine Or.inr ⟨_, hran.result_eq, hfresh, ?_, ?_⟩
    · rw [hran.lane_eq]
      exact congrArg _ withSpec_evaluated
    · rw [hran.lane_eq]
      rcases hconsider : lane.champion.consider spec' results (timeoutsOf instances) with ⟨fall, m⟩
      rcases consider_cases hconsider with ⟨rfl, rfl⟩ | ⟨hfell, rfl, -⟩
      · refine Or.inl ⟨?_, ?_⟩
        · simp [fallOf, SolverArenaLane.judge, VerifierResult.evaluation?, hconsider]
        · simp [SolverArenaLane.judge, hconsider]
      · refine Or.inr ⟨?_, ?_⟩
        · simp [fallOf, SolverArenaLane.judge, VerifierResult.evaluation?, hconsider, hfell]
        · simp [SolverArenaLane.judge, hconsider, ChampionState.crowned]

end Lane

/-! ## The tables -/

section Tables

variable {solvers : Dict PyStr SolverRow} {cid k : PyStr} {row : SolverRow}

theorem mem_pendingSolvers {spec : SolverSpec} :
    spec ∈ pendingSolvers solvers ↔ ∃ k row, solvers.get? k = some row ∧ row.status = "pending" ∧
      specOf k row = spec := by
  simp only [pendingSolvers, List.mem_map, List.mem_insertionSort, List.mem_filter,
    decide_eq_true_eq, Prod.exists, Dict.mem_items, and_assoc]

/-- After a promotion the rows with status champion are the one promoted. -/
theorem get?_promoteIn (h : (promoteIn solvers cid).get? k = some row) :
    ∃ old, solvers.get? k = some old ∧ (row.status = "champion" ↔ cid = k) ∧
      (row.status = "pending" → old.status = "pending" ∧ cid ≠ k) := by
  rw [promoteIn, Dict.get?_modify, Dict.get?_mapItems] at h
  split_ifs at h with hk
  · rw [Option.map_map] at h
    obtain ⟨old, hold, rfl⟩ := Option.map_eq_some_iff.mp h
    exact ⟨old, hold, by simp [hk], by simp⟩
  · obtain ⟨old, hold, rfl⟩ := Option.map_eq_some_iff.mp h
    by_cases hchampion : old.status = "champion"
    · exact ⟨old, hold, by simp [hchampion, hk], by simp [hchampion]⟩
    · exact ⟨old, hold, by simp [hchampion, hk], by simp [hchampion, hk]⟩

theorem promoteIn_present (h : solvers.get? k ≠ none) : (promoteIn solvers cid).get? k ≠ none := by
  obtain ⟨old, hold⟩ := Option.ne_none_iff_exists'.mp h
  rw [promoteIn, Dict.get?_modify, Dict.get?_mapItems, hold]
  split_ifs <;> simp

/-- After a mark no other row has changed, and the row marked is not pending. -/
theorem get?_markIn (h : (markIn solvers cid).get? k = some row) :
    ∃ old, solvers.get? k = some old ∧ (row.status = "champion" ↔ old.status = "champion") ∧
      (row.status = "pending" → old.status = "pending" ∧ cid ≠ k) := by
  rw [markIn, Dict.get?_modify] at h
  split_ifs at h with hk
  · obtain ⟨old, hold, rfl⟩ := Option.map_eq_some_iff.mp h
    by_cases hpending : old.status = "pending"
    · exact ⟨old, hold, by simp [hpending], by simp [hpending]⟩
    · exact ⟨old, hold, by simp [hpending], by simp [hpending]⟩
  · exact ⟨row, h, Iff.rfl, fun hpending => ⟨hpending, hk⟩⟩

theorem markIn_present (h : solvers.get? k ≠ none) : (markIn solvers cid).get? k ≠ none := by
  obtain ⟨old, hold⟩ := Option.ne_none_iff_exists'.mp h
  rw [markIn, Dict.get?_modify, hold]
  split_ifs <;> simp

end Tables

/-! ## The invariant -/

/-- What holds between any two actions, of the solvers that fell and the pairs committed. -/
structure Inv (falls : List PyStr) (pairs : List (PyStr × List (String × EvalRun))) (s : State) :
    Prop where
  fallen : ∀ cid ∈ falls, cid ∈ s.lane.registry.evaluated
  paired : ∀ pair ∈ pairs, pair.1 ∈ falls
  /-- A tick has its solvers from the table. -/
  known : ∀ tick ∈ s.tick,
    (∀ spec ∈ tick.remaining, s.solvers.get? spec.commitmentId ≠ none) ∧
      ∀ w ∈ tick.write, s.solvers.get? w.spec.commitmentId ≠ none
  /-- A tick has yet to come to the pending solvers that were evaluated. -/
  ahead : ∀ tick ∈ s.tick, ∀ cid row, s.solvers.get? cid = some row → row.status = "pending" →
    cid ∈ s.lane.registry.evaluated →
      (∃ spec ∈ tick.remaining, spec.commitmentId = cid) ∨
        ∃ w ∈ tick.write, w.spec.commitmentId = cid
  crown : s.promoting = none → CrownAgrees falls s
  promoting : ∀ spec, s.promoting = some spec →
    Crowned falls s spec.commitmentId ∧ ∀ pair ∈ pairs, pair.1 ≠ spec.commitmentId
  paid : ∀ cid ∈ falls, (∀ spec, s.promoting = some spec → spec.commitmentId ≠ cid) →
    PaidOnce pairs s cid

section Steps

variable {H : Hosts} {s t : State} {falls : List PyStr}
  {pairs : List (PyStr × List (String × EvalRun))} {tick : OpenTick} {spec : SolverSpec}
  {rest : List SolverSpec}

theorem Crowned.unique {cid cid' : PyStr} (h : Crowned falls s cid) (h' : Crowned falls s cid') :
    cid = cid' := by
  have heq := h.1
  rw [h'.1] at heq
  exact (Option.some.inj heq).symm

/-- The crown agrees in another state with the same champion, whose rows with status champion
are the same ones. -/
theorem CrownAgrees.mono (h : CrownAgrees falls s)
    (hchampion : t.lane.champion.champion.commitmentId = s.lane.champion.champion.commitmentId)
    (hold : ∀ cid row, t.solvers.get? cid = some row →
      (row.status ≠ "champion" ∧ s.solvers.get? cid = none) ∨
        ∃ old, s.solvers.get? cid = some old ∧ (row.status = "champion" ↔ old.status = "champion"))
    (hkept : ∀ cid, s.solvers.get? cid ≠ none → t.solvers.get? cid ≠ none) :
    CrownAgrees falls t := by
  have hcrowned : ∀ cid, Crowned falls t cid ↔ Crowned falls s cid := by
    intro cid
    rw [Crowned, Crowned, hchampion]
  refine ⟨fun cid row hrow => ?_, fun cid hcid => ?_⟩
  swap
  · exact hkept cid (h.present cid ((hcrowned cid).mp hcid))
  rw [hcrowned]
  rcases hold cid row hrow with ⟨hstatus, hnone⟩ | ⟨old, hrow', hstatus⟩
  · exact ⟨fun hc => absurd hc hstatus, fun hc => absurd hnone (h.present cid hc)⟩
  · rw [hstatus]
    exact h.status cid old hrow'

theorem CrownAgrees.of_eq (h : CrownAgrees falls s)
    (hchampion : t.lane.champion.champion.commitmentId = s.lane.champion.champion.commitmentId)
    (hsolvers : t.solvers = s.solvers) : CrownAgrees falls t := by
  refine h.mono hchampion (fun cid row hrow => ?_) (fun cid hcid => ?_)
  · rw [hsolvers] at hrow
    exact Or.inr ⟨row, hrow, Iff.rfl⟩
  · rw [hsolvers]
    exact hcid

/-- The end of a tick, whatever the lane has registered meanwhile. -/
theorem Inv.close {lane : SolverArenaLane} (h : Inv falls pairs s) (hpromoting : s.promoting = none)
    (hchampion : lane.champion = s.lane.champion)
    (hevaluated : lane.registry.evaluated = s.lane.registry.evaluated) :
    Inv falls pairs { s with lane := lane, tick := none } where
  fallen := fun cid hcid => by
    show cid ∈ lane.registry.evaluated
    rw [hevaluated]
    exact h.fallen cid hcid
  paired := h.paired
  known := by simp
  ahead := by simp
  crown := fun _ => (h.crown hpromoting).of_eq
    (congrArg (fun m => m.champion.commitmentId) hchampion) rfl
  promoting := by simp [State.promoting]
  paid := fun cid hcid _ => h.paid cid hcid (by simp [hpromoting])

/-- A registration: the table keeps its rows, and a new row is pending. -/
theorem Inv.register {form : SolverForm} {now : String} {registry : SolverRegistry}
    (h : Inv falls pairs s)
    (hevaluated : registry.evaluated = s.lane.registry.evaluated)
    (hknown : s.tick.isSome = true → form.sourceSha256 ∈ s.lane.registry.evaluated →
      s.solvers.get? form.sourceSha256 ≠ none) :
    Inv falls pairs { s with
      lane := { s.lane with registry := registry }
      solvers := (s.solvers.insertIgnore form.sourceSha256 (form.row now)).1 } := by
  have hkept : ∀ cid, s.solvers.get? cid ≠ none →
      (s.solvers.insertIgnore form.sourceSha256 (form.row now)).1.get? cid ≠ none := by
    intro cid hcid
    exact (Dict.insertIgnore_taken _ _ _ _).mpr (Or.inl hcid)
  -- a row is an old one, or the new one under a source that was not there
  have hrows : ∀ cid row,
      (s.solvers.insertIgnore form.sourceSha256 (form.row now)).1.get? cid = some row →
        s.solvers.get? cid = some row ∨
          (s.solvers.get? cid = none ∧ cid = form.sourceSha256 ∧ row.status = "pending") := by
    intro cid row hrow
    rcases s.solvers.insertIgnore_cases form.sourceSha256 (form.row now) with
      ⟨old, -, hskip⟩ | ⟨hnone, hinsert⟩
    · rw [hskip] at hrow
      exact Or.inl hrow
    · rw [hinsert, Dict.get?_set] at hrow
      split_ifs at hrow with hcid
      · cases hrow
        exact Or.inr ⟨hcid ▸ hnone, hcid.symm, rfl⟩
      · exact Or.inl hrow
  exact {
    fallen := fun cid hcid => by
      show cid ∈ registry.evaluated
      rw [hevaluated]
      exact h.fallen cid hcid
    paired := h.paired
    known := fun tick htick =>
      ⟨fun spec hspec => hkept _ ((h.known tick htick).1 spec hspec),
        fun w hw => hkept _ ((h.known tick htick).2 w hw)⟩
    ahead := fun tick htick cid row hrow hpending hmem => by
      have hmem' : cid ∈ s.lane.registry.evaluated := hevaluated ▸ hmem
      rcases hrows cid row hrow with hold | ⟨hnone, rfl, -⟩
      · exact h.ahead tick htick cid row hold hpending hmem'
      · have hsome : s.tick.isSome = true := Option.isSome_iff_exists.mpr ⟨tick, htick⟩
        exact absurd hnone (hknown hsome hmem')
    crown := fun hpromoting => by
      refine (h.crown hpromoting).mono rfl (fun cid row hrow => ?_) hkept
      rcases hrows cid row hrow with hold | ⟨hnone, -, hstatus⟩
      · exact Or.inr ⟨row, hold, Iff.rfl⟩
      · exact Or.inl ⟨by simp [hstatus], hnone⟩
    promoting := h.promoting
    paid := h.paid }

theorem Inv.start {H : Host} {seed tier : ℤ} (h : Inv falls pairs s) (hidle : s.tick = none) :
    Inv falls pairs { s with tick := some (openTick H s seed tier) } where
  fallen := h.fallen
  paired := h.paired
  known := fun tick htick => by
    cases htick
    refine ⟨fun spec hspec => ?_, by simp [openTick]⟩
    obtain ⟨k, row, hrow, -, rfl⟩ := mem_pendingSolvers.mp hspec
    show s.solvers.get? k ≠ none
    simp [hrow]
  ahead := fun tick htick cid row hrow hpending _ => by
    cases htick
    exact Or.inl ⟨specOf cid row, mem_pendingSolvers.mpr ⟨cid, row, hrow, hpending, rfl⟩, rfl⟩
  crown := fun _ => (h.crown (by simp [State.promoting, hidle])).of_eq rfl rfl
  promoting := by simp [State.promoting, openTick]
  paid := fun cid hcid _ => h.paid cid hcid (by simp [State.promoting, hidle])

theorem Inv.skip (h : Inv falls pairs s) (htick : s.tick = some tick) (hwrite : tick.write = none)
    (hremaining : tick.remaining = spec :: rest)
    (hfresh : spec.commitmentId ∉ s.lane.registry.evaluated) :
    Inv falls pairs { s with tick := some { tick with remaining := rest } } := by
  have hpromoting : s.promoting = none := by simp [State.promoting, htick, hwrite]
  exact {
    fallen := h.fallen
    paired := h.paired
    known := fun _ hopen => by
      cases hopen
      refine ⟨fun spec' hspec' => (h.known tick htick).1 spec' ?_, (h.known tick htick).2⟩
      rw [hremaining]
      exact List.mem_cons_of_mem _ hspec'
    ahead := fun _ hopen cid row hrow hpending hmem => by
      cases hopen
      rcases h.ahead tick htick cid row hrow hpending hmem with ⟨spec', hspec', rfl⟩ | hdue
      · rw [hremaining] at hspec'
        rcases List.mem_cons.mp hspec' with rfl | hrest
        · exact absurd hmem hfresh
        · exact Or.inl ⟨spec', hrest, rfl⟩
      · exact Or.inr hdue
    crown := fun _ => (h.crown hpromoting).of_eq rfl rfl
    promoting := by simp [State.promoting, hwrite]
    paid := fun cid hcid _ => h.paid cid hcid (by simp [hpromoting]) }

/-- The state of a tick whose next solver was evaluated, with its write due. -/
theorem Inv.due {lane : SolverArenaLane} {w : Write} {falls' : List PyStr}
    (h : Inv falls pairs s) (htick : s.tick = some tick) (hwrite : tick.write = none)
    (hremaining : tick.remaining = w.spec :: rest) {open' : OpenTick}
    (hrest : open'.remaining = rest) (hdue : open'.write = some w)
    (hevaluated : ∀ cid, cid ∈ lane.registry.evaluated →
      cid = w.spec.commitmentId ∨ cid ∈ s.lane.registry.evaluated)
    (hfallen : ∀ cid ∈ falls', cid ∈ lane.registry.evaluated) (hsub : falls ⊆ falls')
    (hcrown : (w.promoted? = none ∧ falls' = falls ∧ lane.champion = s.lane.champion) ∨
      (w.promoted? = some w.spec ∧ falls' = falls ++ [w.spec.commitmentId] ∧
        w.spec.commitmentId ∉ falls ∧
          lane.champion.champion.commitmentId = some w.spec.commitmentId)) :
    Inv falls' pairs { s with lane := lane, tick := some open' } := by
  have hpromoting : s.promoting = none := by simp [State.promoting, htick, hwrite]
  have hpromoting' : ({ s with lane := lane, tick := some open' } : State).promoting =
      w.promoted? := by simp [State.promoting, hdue]
  have hpaid : ∀ cid ∈ falls, PaidOnce pairs s cid :=
    fun cid hcid => h.paid cid hcid (by simp [hpromoting])
  exact {
    fallen := hfallen
    paired := fun pair hpair => hsub (h.paired pair hpair)
    known := fun _ hopen => by
      cases hopen
      rw [hrest, hdue]
      obtain ⟨hread, -⟩ := h.known tick htick
      rw [hremaining] at hread
      refine ⟨fun spec hspec => hread spec (List.mem_cons_of_mem _ hspec), fun w' hw' => ?_⟩
      cases hw'
      exact hread _ List.mem_cons_self
    ahead := fun _ hopen cid row hrow hpending hmem => by
      cases hopen
      rw [hrest, hdue]
      rcases hevaluated cid hmem with rfl | hold
      · exact Or.inr ⟨w, rfl, rfl⟩
      · rcases h.ahead tick htick cid row hrow hpending hold with ⟨spec, hspec, rfl⟩ | ⟨w', hw', -⟩
        · rw [hremaining] at hspec
          rcases List.mem_cons.mp hspec with rfl | hlater
          · exact Or.inr ⟨w, rfl, rfl⟩
          · exact Or.inl ⟨spec, hlater, rfl⟩
        · rw [hwrite] at hw'
          cases hw'
    crown := fun hnone => by
      rw [hpromoting'] at hnone
      rcases hcrown with ⟨-, rfl, hchampion⟩ | ⟨hsome, -⟩
      · exact (h.crown hpromoting).of_eq
          (congrArg (fun m => m.champion.commitmentId) hchampion) rfl
      · rw [hnone] at hsome
        cases hsome
    promoting := fun spec hspec => by
      rw [hpromoting'] at hspec
      rcases hcrown with ⟨hnone, -⟩ | ⟨hsome, rfl, hfresh, hchampion⟩
      · rw [hnone] at hspec
        cases hspec
      · rw [hsome] at hspec
        cases hspec
        refine ⟨⟨hchampion, List.mem_append_right _ (List.mem_singleton_self _)⟩, ?_⟩
        intro pair hpair heq
        exact hfresh (heq ▸ h.paired pair hpair)
    paid := fun cid hcid hother => by
      rw [hpromoting'] at hother
      rcases hcrown with ⟨-, rfl, -⟩ | ⟨hsome, rfl, -⟩
      · exact hpaid cid hcid
      · rcases List.mem_append.mp hcid with hold | hnew
        · exact hpaid cid hold
        · -- the pair of the solver that has just fallen is due
          exact absurd (List.mem_singleton.mp hnew).symm (hother _ hsome) }

theorem Inv.evaluate {H : Host} {adapter : SolverAdapter} {out : Option Output}
    (h : Inv falls pairs s) (htick : s.tick = some tick) (hwrite : tick.write = none)
    (hremaining : tick.remaining = spec :: rest)
    (hact : evaluate H s tick spec rest adapter = (t, out)) :
    Inv (falls ++ (out.bind Output.fell?).toList) (pairs ++ (out.bind Output.committed?).toList)
      t := by
  have hpromoting : s.promoting = none := by simp [State.promoting, htick, hwrite]
  unfold ArenaEval.evaluate at hact
  split at hact
  · next lane hvalidate =>
      cases hact
      rcases validate_cases hvalidate with ⟨hchampion, hevaluated, -⟩ | ⟨vr, hvr, -⟩
      · simpa using h.close hpromoting hchampion hevaluated
      · cases hvr
  · next vr lane hvalidate =>
      cases hact
      have hspec : (writeFor spec tick.timeLimitSeconds vr).spec = spec := by
        unfold writeFor
        split_ifs <;> rfl
      rcases validate_cases hvalidate with ⟨hchampion, hevaluated, hrefused⟩ | ⟨vr', hvr', hran⟩
      · have hfall := hrefused vr rfl
        have hnone : (writeFor spec tick.timeLimitSeconds vr).promoted? = none := by
          simp [writeFor, hfall, Write.promoted?]
        have hfallen : ∀ cid ∈ falls, cid ∈ lane.registry.evaluated := by
          intro cid hcid
          rw [hevaluated]
          exact h.fallen cid hcid
        simp only [hfall, Option.isSome_none, Bool.false_eq_true, if_false, Option.bind_none,
          Option.toList_none, List.append_nil]
        refine h.due htick hwrite (by rw [hspec]; exact hremaining) rfl rfl ?_
          hfallen (List.Subset.refl _) (Or.inl ⟨hnone, rfl, hchampion⟩)
        intro cid hcid
        rw [hevaluated] at hcid
        exact Or.inr hcid
      · cases hvr'
        have hevaluated : ∀ cid, cid ∈ lane.registry.evaluated →
            cid = (writeFor spec tick.timeLimitSeconds vr).spec.commitmentId ∨
              cid ∈ s.lane.registry.evaluated := by
          intro cid hcid
          rw [hran.evaluated] at hcid
          rw [hspec]
          exact List.mem_cons.mp hcid
        have hfallen : ∀ cid ∈ falls, cid ∈ lane.registry.evaluated := by
          intro cid hcid
          rw [hran.evaluated]
          exact List.mem_cons_of_mem _ (h.fallen cid hcid)
        rcases hran.champion with ⟨hfall, hchampion⟩ | ⟨hfall, hchampion⟩
        · have hnone : (writeFor spec tick.timeLimitSeconds vr).promoted? = none := by
            simp [writeFor, hfall, Write.promoted?]
          simp only [hfall, Option.isSome_none, Bool.false_eq_true, if_false, Option.bind_none,
            Option.toList_none, List.append_nil]
          exact h.due htick hwrite (by rw [hspec]; exact hremaining) rfl rfl hevaluated hfallen
            (List.Subset.refl _) (Or.inl ⟨hnone, rfl, hchampion⟩)
        · have hsome : (writeFor spec tick.timeLimitSeconds vr).promoted? =
              some (writeFor spec tick.timeLimitSeconds vr).spec := by
            simp [writeFor, hfall, Write.promoted?, Write.spec]
          simp only [hfall, if_true, Option.bind_some, Output.fell?, Output.committed?,
            Option.toList_some, Option.toList_none, List.append_nil]
          refine h.due htick hwrite (by rw [hspec]; exact hremaining) rfl rfl hevaluated ?_
            (List.subset_append_left _ _) (Or.inr ⟨hsome, by rw [hspec], ?_, ?_⟩)
          · intro cid hcid
            rcases List.mem_append.mp hcid with hold | hnew
            · exact hfallen cid hold
            · rw [List.mem_singleton.mp hnew, hran.evaluated]
              exact List.mem_cons_self
          · rw [hspec]
            exact fun hmem => hran.fresh (h.fallen _ hmem)
          · rw [hspec]
            exact hchampion

/-- The pair that a promotion inserts. -/
theorem buildArenaRows_eq_some {H : EvalHost} {tier : ℤ} {weightedScore : ℚ}
    {par2 championPar2 : PyFloat} {ranAt : Millis} {ids : RowIds} {rows : List (String × EvalRun)}
    (h : buildArenaRows H spec tier weightedScore par2 championPar2 ranAt ids = some rows) :
    ∃ v6 v5, rows = [(ids.rowUuid, v6), (compatId ids.rowUuid, v5)] ∧ v6.schemaVersion = 6 ∧
      v5.schemaVersion = 5 := by
  obtain ⟨owner, -, h⟩ := Option.bind_eq_some_iff.mp h
  obtain ⟨commitment, -, h⟩ := Option.bind_eq_some_iff.mp h
  cases h
  exact ⟨_, _, rfl, rfl, rfl⟩

/-- The promotion of the solver that fell: its row is the one with status champion, and its
pair is the one committed for it. -/
theorem Inv.promote {ids : RowIds} {v6 v5 : EvalRun} {rows : List (String × EvalRun)} {w : Write}
    (h : Inv falls pairs s) (open' : OpenTick) (htick : s.tick = some tick)
    (hwrite : tick.write = some w)
    (hpromoted : w.promoted? = some spec) (hspec : w.spec = spec)
    (hrows : rows = [(ids.rowUuid, v6), (compatId ids.rowUuid, v5)])
    (hv6 : v6.schemaVersion = 6) (hv5 : v5.schemaVersion = 5)
    (hrun : s.evalRuns.get? ids.rowUuid = none)
    (hcompat : s.evalRuns.get? (compatId ids.rowUuid) = none)
    (hremaining : open'.remaining = tick.remaining) (hdone : open'.write = none) :
    Inv falls (pairs ++ [(spec.commitmentId, rows)])
      { s with
        solvers := promoteIn s.solvers spec.commitmentId
        evalRuns := insertRows s.evalRuns rows
        tick := some open' } := by
  have hpromoting : s.promoting = some spec := by
    simp [State.promoting, htick, hwrite, hpromoted]
  obtain ⟨hcrowned, hunpaid⟩ := h.promoting spec hpromoting
  obtain ⟨hget6, hget5, hkept⟩ :=
    @Processes.get?_insertRows ids.rowUuid s.evalRuns v6 v5 hrun hcompat
  rw [← hrows] at hget6 hget5 hkept
  exact {
    fallen := h.fallen
    paired := fun pair hpair => by
      rcases List.mem_append.mp hpair with hold | hnew
      · exact h.paired pair hold
      · rw [List.mem_singleton.mp hnew]
        exact hcrowned.2
    known := fun _ hopen => by
      cases hopen
      rw [hremaining, hdone]
      exact ⟨fun spec' hspec' => promoteIn_present ((h.known tick htick).1 spec' hspec'), by simp⟩
    ahead := fun _ hopen cid row hrow hpending hmem => by
      cases hopen
      rw [hremaining]
      obtain ⟨old, hold, -, hstill⟩ := get?_promoteIn hrow
      obtain ⟨hpending', hne⟩ := hstill hpending
      rcases h.ahead tick htick cid old hold hpending' hmem with hread | ⟨w', hw', heq⟩
      · exact Or.inl hread
      · rw [hwrite] at hw'
        cases hw'
        rw [hspec] at heq
        exact absurd heq hne
    crown := fun _ => by
      refine ⟨fun cid row hrow => ?_, fun cid hcid => ?_⟩
      · obtain ⟨old, -, hchampion, -⟩ := get?_promoteIn hrow
        rw [hchampion]
        exact ⟨fun heq => heq ▸ hcrowned, fun hcid => hcrowned.unique hcid⟩
      · have heq := hcrowned.unique (s := s) hcid
        have hpresent := (h.known tick htick).2 w hwrite
        rw [hspec, heq] at hpresent
        exact promoteIn_present hpresent
    promoting := by simp [State.promoting, hdone]
    paid := fun cid hcid _ => by
      by_cases heq : spec.commitmentId = cid
      · subst heq
        have hold : pairs.filter (fun pair => pair.1 = spec.commitmentId) = [] := by
          simpa [List.filter_eq_nil_iff] using hunpaid
        refine ⟨rows, by rw [List.filter_append, hold]; simp, by simp [hrows, hv6, hv5], ?_⟩
        intro row hrow
        rw [hrows] at hrow
        rcases List.mem_pair.mp hrow with rfl | rfl
        · exact hget6
        · exact hget5
      · obtain ⟨old, hfilter, hversions, hstored⟩ :=
          h.paid cid hcid (by simpa [hpromoting] using heq)
        refine ⟨old, ?_, hversions, fun row hrow => hkept _ _ (hstored row hrow)⟩
        rw [List.filter_append, hfilter]
        simp [heq] }

/-- The mark of a solver that did not dethrone the champion. -/
theorem Inv.mark (h : Inv falls pairs s) (htick : s.tick = some tick)
    (hwrite : tick.write = some (.evald spec)) :
    Inv falls pairs { s with
      solvers := markIn s.solvers spec.commitmentId
      tick := some { tick with write := none } } := by
  have hpromoting : s.promoting = none := by
    simp [State.promoting, htick, hwrite, Write.promoted?]
  exact {
    fallen := h.fallen
    paired := h.paired
    known := fun _ hopen => by
      cases hopen
      exact ⟨fun spec' hspec' => markIn_present ((h.known tick htick).1 spec' hspec'), by simp⟩
    ahead := fun _ hopen cid row hrow hpending hmem => by
      cases hopen
      obtain ⟨old, hold, -, hstill⟩ := get?_markIn hrow
      obtain ⟨hpending', hne⟩ := hstill hpending
      rcases h.ahead tick htick cid old hold hpending' hmem with hread | ⟨w, hw, heq⟩
      · exact Or.inl hread
      · rw [hwrite] at hw
        cases hw
        exact absurd heq hne
    crown := fun _ => by
      refine (h.crown hpromoting).mono rfl (fun cid row hrow => ?_) (fun cid => markIn_present)
      obtain ⟨old, hold, hchampion, -⟩ := get?_markIn hrow
      exact Or.inr ⟨old, hold, hchampion⟩
    promoting := by simp [State.promoting]
    paid := fun cid hcid _ => h.paid cid hcid (by simp [hpromoting]) }

/-- What an orderly action does to the solvers that fell and the pairs committed. -/
theorem Inv.act {action : Action} {out : Option Output} (h : Inv falls pairs s)
    (hact : act H s action = some (t, out)) (horderly : Orderly s action) :
    Inv (falls ++ (out.bind Output.fell?).toList) (pairs ++ (out.bind Output.committed?).toList)
      t := by
  cases action with
  | register form now stored =>
    obtain ⟨⟨answer, registry, solvers⟩, hroute, heq⟩ := Option.map_eq_some_iff.mp hact
    cases heq
    unfold arenaRegisterSolver at hroute
    split_ifs at hroute
    cases hroute
    have hevaluated := register_evaluated s.lane.registry form.spec
    simp only [Option.bind_none, Option.toList_none, List.append_nil]
    by_cases hstored : stored = true
    · rw [if_pos hstored]
      exact h.register hevaluated (horderly hstored)
    · rw [if_neg hstored]
      exact { h with
        fallen := fun cid hcid => by
          show cid ∈ (s.lane.registry.register form.spec).2.evaluated
          rw [hevaluated]
          exact h.fallen cid hcid
        ahead := fun tick htick cid row hrow hpending hmem =>
          h.ahead tick htick cid row hrow hpending (hevaluated ▸ hmem)
        crown := fun hpromoting => (h.crown hpromoting).of_eq rfl rfl }
  | start seed tier =>
    simp only [ArenaEval.act] at hact
    split at hact
    · next hidle =>
        cases hact
        simpa using h.start hidle
    · cases hact
  | skip =>
    simp only [ArenaEval.act] at hact
    split at hact
    · next tick htick =>
        split at hact
        · next spec rest hwrite hremaining =>
            cases hact
            have hfresh := horderly tick htick spec (by rw [hremaining]; rfl)
            simpa using h.skip htick hwrite hremaining hfresh
        · cases hact
    · cases hact
  | evaluate adapter =>
    simp only [ArenaEval.act] at hact
    split at hact
    · next tick htick =>
        split at hact
        · next spec rest hwrite hremaining =>
            exact h.evaluate htick hwrite hremaining (Option.some.inj hact)
        · cases hact
    · cases hact
  | commit ids ranAt =>
    simp only [ArenaEval.act] at hact
    split at hact
    · next tick htick =>
        obtain ⟨w, hwrite, hact⟩ := Option.bind_eq_some_iff.mp hact
        cases w with
        | promote spec weightedScore par2 championPar2 =>
          obtain ⟨rows, hrows, hact⟩ := Option.bind_eq_some_iff.mp hact
          split_ifs at hact with hfresh
          cases hact
          obtain ⟨v6, v5, hpair, hv6, hv5⟩ := buildArenaRows_eq_some hrows
          have hpromote := h.promote { tick with
            write := none, emittedRows := tick.emittedRows + rows.length } htick hwrite rfl
            rfl hpair hv6 hv5 hfresh.1 hfresh.2 rfl rfl
          simpa [Output.fell?, Output.committed?] using hpromote
        | evald spec =>
          cases hact
          simpa using h.mark htick hwrite
    · cases hact
  | raise =>
    simp only [ArenaEval.act] at hact
    split at hact
    · cases hact
      simpa using h.close horderly rfl rfl
    · cases hact
  | finish =>
    simp only [ArenaEval.act] at hact
    split at hact
    · next tick htick =>
        split at hact
        · next hwrite hremaining =>
            cases hact
            have hpromoting : s.promoting = none := by simp [State.promoting, htick, hwrite]
            simpa [Output.fell?, Output.committed?] using h.close hpromoting rfl rfl
        · cases hact
    · cases hact

end Steps

/-! ## Runs -/

section Runs

variable {H : Hosts} {s t : State} {ls : List Event}

theorem fallsOf_snoc (ls : List Event) (l : Event) :
    fallsOf (ls ++ [l]) = fallsOf ls ++ (l.2.bind Output.fell?).toList := by
  rw [fallsOf, fallsOf, answers_snoc, List.filterMap_append]
  cases l.2 with
  | none => rfl
  | some out => cases h : out.fell? <;> simp [h]

theorem pairsOf_snoc (ls : List Event) (l : Event) :
    pairsOf (ls ++ [l]) = pairsOf ls ++ (l.2.bind Output.committed?).toList := by
  rw [pairsOf, pairsOf, answers_snoc, List.filterMap_append]
  cases l.2 with
  | none => rfl
  | some out => cases h : out.committed? <;> simp [h]

theorem Start.inv (h : Start s) : Inv [] [] s where
  fallen := by simp
  paired := by simp
  known := by simp [h.idle]
  ahead := by simp [h.idle]
  crown := fun _ =>
    ⟨fun cid row hrow =>
        ⟨fun hc => absurd hc (h.uncrowned cid row hrow), fun hc => by simpa using hc.2⟩,
      fun cid hcid => by simpa using hcid.2⟩
  promoting := by simp [State.promoting, h.idle]
  paid := by simp

theorem inv_of_run (hstart : Start s)
    (h : Run (fun s l t => step H s l t ∧ Orderly s l.1) s ls t) :
    Inv (fallsOf ls) (pairsOf ls) t := by
  refine Run.history (P := fun ls t => Inv (fallsOf ls) (pairsOf ls) t) hstart.inv ?_ h
  rintro ls t l u hinv ⟨hact, horderly⟩
  rw [fallsOf_snoc, pairsOf_snoc]
  exact hinv.act hact horderly

/-- In every orderly run the memory and the table agree after each tick that returns. -/
theorem memory_and_table_agree {summary : Option Output} (hstart : Start s)
    (h : Run (fun s l t => step H s l t ∧ Orderly s l.1) s (ls ++ [(.finish, summary)]) t) :
    Agreement (ls ++ [(.finish, summary)]) t := by
  obtain ⟨m, hrun, hlast⟩ := h.split
  obtain ⟨hact, -⟩ := Run.single_iff.mp hlast
  have hinv := inv_of_run hstart h
  have hbefore := inv_of_run hstart hrun
  simp only [step, Acts, act] at hact
  split at hact
  · next tick htick =>
      split at hact
      · next hwrite hremaining =>
          cases hact
          refine ⟨hinv.crown rfl, fun cid hcid => ?_, ?_⟩
          · exact hinv.paid cid hcid (by simp [State.promoting])
          intro cid row hrow hpending hmem
          -- nothing is ahead of a tick that returns
          rcases hbefore.ahead tick htick cid row hrow hpending hmem with ⟨_, hspec, -⟩ | ⟨_, hw, -⟩
          · rw [hremaining] at hspec
            cases hspec
          · rw [hwrite] at hw
            cases hw
      · cases hact
  · cases hact

end Runs

/-! ## A promotion that fails -/

def evalHosts : Hosts where
  intake := ArenaIntake.openHost.intake
  eval := ⟨ArenaPayout.trustingHost.toHost, paritySettings, fun _ => ""⟩

/-- An empty table and a fresh lane. -/
def emptyArena : State := ⟨.fresh 1, Dict.empty, Dict.empty, none⟩

def solverForm : SolverForm :=
  ⟨PyStr.ofString "u", PyStr.ofString "i", PyStr.ofString "d", none, PyStr.ofString "o", ""⟩

/-- A solver is registered and run; its record falls. -/
def fallActions : List Action :=
  [.register solverForm "" true, .start 1 1, .evaluate ArenaPayout.fastAdapter]

/-- The write of its promotion fails, and the next tick finds it evaluated. -/
def lostActions : List Action :=
  fallActions ++ [.raise, .start 2 1, .evaluate ArenaPayout.fastAdapter, .commit ⟨"r", "a"⟩ 0]

theorem lost_run :
    (perform (act evalHosts) emptyArena (lostActions ++ [.finish])).map (fun r =>
      (fallsOf r.1, (r.2.solvers.get? (PyStr.ofString "d")).map SolverRow.status,
        r.2.lane.champion.champion.commitmentId, (pairsOf r.1).length)) =
      some ([PyStr.ofString "d"], some "evaluated", some (PyStr.ofString "d"), 0) := by
  decide +kernel

/-- The champion is in the table as one that was merely evaluated, and its pair is never
committed. -/
theorem lost_promotion_disagrees :
    ∃ ls summary t, Run (step evalHosts) emptyArena (ls ++ [(.finish, summary)]) t ∧
      ¬ CrownAgrees (fallsOf (ls ++ [(.finish, summary)])) t ∧
        ∃ cid ∈ fallsOf (ls ++ [(.finish, summary)]),
          ¬ PaidOnce (pairsOf (ls ++ [(.finish, summary)])) t cid := by
  obtain ⟨⟨all, t⟩, hall, heq⟩ := Option.map_eq_some_iff.mp lost_run
  obtain ⟨hfalls, hstatus, hchampion, hpairs⟩ : _ ∧ _ ∧ _ ∧ _ := by
    simpa only [Prod.mk.injEq] using heq
  obtain ⟨ls, last, rfl, -, hlast⟩ := List.map_eq_append_iff.mp (perform_actions hall)
  obtain ⟨⟨action, summary⟩, rfl, haction⟩ := List.map_eq_singleton_iff.mp hlast
  obtain rfl : action = .finish := haction
  have hfell : PyStr.ofString "d" ∈ fallsOf (ls ++ [(.finish, summary)]) := by
    rw [hfalls]
    exact List.mem_singleton_self _
  refine ⟨ls, summary, t, Acts.run hall, fun hagrees => ?_, _, hfell, fun hpaid => ?_⟩
  · obtain ⟨row, hrow, hevaluated⟩ := Option.map_eq_some_iff.mp hstatus
    have hcrowned := (hagrees.status _ row hrow).mpr ⟨hchampion, hfell⟩
    rw [hevaluated] at hcrowned
    exact absurd hcrowned (by decide)
  · obtain ⟨rows, hfilter, -⟩ := hpaid
    rw [List.length_eq_zero_iff.mp hpairs] at hfilter
    cases hfilter

/-- A table with a pending solver, and a fresh lane. -/
def pendingArena : State :=
  { emptyArena with solvers := Dict.empty.set (PyStr.ofString "d") (solverForm.row "") }

theorem start_pendingArena : Start pendingArena where
  uncrowned := fun cid row hrow => by
    simp only [pendingArena, Dict.get?_set, Dict.get?_empty] at hrow
    split_ifs at hrow
    cases hrow
    decide
  pending := fun cid row _ _ hmem => by cases hmem
  idle := rfl

/-- The tick that crowns it. -/
def crownActions : List Action :=
  [.start 1 1, .evaluate ArenaPayout.fastAdapter, .commit ⟨"r", "a"⟩ 0]

theorem crown_run :
    (perform (act evalHosts) pendingArena (crownActions ++ [.finish])).map (fun r =>
      (fallsOf r.1, (r.2.solvers.get? (PyStr.ofString "d")).map SolverRow.status)) =
      some ([PyStr.ofString "d"], some "champion") := by
  decide +kernel

/-- A tick that crowns a solver and returns. -/
theorem memory_and_table_agree_crowned :
    ∃ ls t, fallsOf ls = [PyStr.ofString "d"] ∧
      (t.solvers.get? (PyStr.ofString "d")).map SolverRow.status = some "champion" ∧
        Agreement ls t := by
  obtain ⟨⟨all, t⟩, hall, heq⟩ := Option.map_eq_some_iff.mp crown_run
  obtain ⟨hfalls, hstatus⟩ : _ ∧ _ := by
    simpa only [Prod.mk.injEq] using heq
  obtain ⟨ls, last, rfl, -, hlast⟩ := List.map_eq_append_iff.mp (perform_actions hall)
  obtain ⟨⟨action, summary⟩, rfl, haction⟩ := List.map_eq_singleton_iff.mp hlast
  obtain rfl : action = .finish := haction
  have horderly : ∀ a ∈ crownActions ++ [.finish], ∀ s, Orderly s a := by
    simp [crownActions, Orderly]
  exact ⟨_, t, hfalls, hstatus,
    memory_and_table_agree start_pendingArena (Acts.run_of_perform horderly hall)⟩

end Cathedral.Publisher.ArenaEval
