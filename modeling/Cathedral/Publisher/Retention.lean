import Cathedral.Lib.PyDatetime
import Cathedral.Lib.Retire

/-!
# Cathedral.Publisher.Retention — bounded retention of the ledgers

`scaffold/publisher/retention.py`: a tick deletes rows that have aged out of five tables
and blanks old solution bodies, at most one batch in each table; a dry tick only counts.

The rows that a `LIMIT` without an order picks are an argument of the tick. Columns that
no statement of the tick reads are left out, but for those of the witnesses, which it
must not touch.
-/

namespace Cathedral.Publisher.Retention

/-! ## Tables -/

structure EvalRun where
  ranAt : String

structure LaneChallengeSolve where
  solvedAtIso : String

structure PerMinerAttempt where
  recordedAtIso : String

structure PerMinerSolve where
  solvedAtIso : String

structure PerMinerWitness where
  epoch : ℤ
  tier : ℤ
  seq : ℤ
  dimacsSolutionSha256 : String
  answerHash : String
  dimacsSolution : String
  recordedAtIso : String

structure PerMinerAssignment where
  epoch : ℤ

/-- The tables, under their primary keys; a pair is a challenge with a hotkey. -/
structure Store where
  evalRuns : Dict String EvalRun
  laneChallengeSolves : Dict (String × String) LaneChallengeSolve
  perMinerAttempts : Dict String PerMinerAttempt
  perMinerSolves : Dict (String × String) PerMinerSolve
  perMinerWitnesses : Dict (String × String) PerMinerWitness
  perMinerAssignments : Dict String PerMinerAssignment

/-! ## Settings -/

/-- The integers that the environment gives, before their bounds. -/
structure Environment where
  batchSize : ℤ
  evalRunsHours : ℤ
  solveLedgerHours : ℤ
  pmAttemptHours : ℤ
  pmKeepEpochs : ℤ
  acceptedRawHours : ℤ
  /-- Whether `%Y` pads a year to four digits. -/
  padsYear : Bool

/-- The environment with nothing set. -/
def Environment.defaults : Environment := ⟨25000, 48, 48, 48, 2, 168, true⟩

def batchSize (env : Environment) : ℕ := (max 100 (min 100000 env.batchSize)).toNat

def evalRunsHours (env : Environment) : ℤ := max 25 env.evalRunsHours

def solveLedgerHours (env : Environment) : ℤ := max 25 env.solveLedgerHours

def pmAttemptHours (env : Environment) : ℤ := max 25 env.pmAttemptHours

def pmKeepEpochs (env : Environment) : ℤ := max 2 env.pmKeepEpochs

def acceptedRawHours (env : Environment) : ℤ := max 1 env.acceptedRawHours

/-- `_cutoff`; `none` where the date leaves the calendar. -/
def cutoff (env : Environment) (hours : ℤ) (now : UtcTime) : Option String :=
  (UtcTime.ofMicros (now.micros - hours * 3600000000)).map fun moment =>
    String.ofList (msIso env.padsYear moment)

structure Cutoffs where
  evalRuns : String
  solveLedgers : String
  pmAttempts : String
  acceptedRawBodies : String

def cutoffs (env : Environment) (now : UtcTime) : Option Cutoffs := do
  let solveCutoff ← cutoff env (solveLedgerHours env) now
  let acceptedRawCutoff ← cutoff env (acceptedRawHours env) now
  let evalRunsCutoff ← cutoff env (evalRunsHours env) now
  let pmAttemptsCutoff ← cutoff env (pmAttemptHours env) now
  some ⟨evalRunsCutoff, solveCutoff, pmAttemptsCutoff, acceptedRawCutoff⟩

/-! ## Statements -/

def EvalRun.before (cutoffIso : String) (_ : String) (row : EvalRun) : Bool :=
  row.ranAt < cutoffIso

def LaneChallengeSolve.before (cutoffIso : String) (_ : String × String)
    (row : LaneChallengeSolve) : Bool := row.solvedAtIso < cutoffIso

def PerMinerAttempt.before (cutoffIso : String) (_ : String) (row : PerMinerAttempt) : Bool :=
  row.recordedAtIso < cutoffIso

def PerMinerSolve.before (cutoffIso : String) (_ : String × String) (row : PerMinerSolve) : Bool :=
  row.solvedAtIso < cutoffIso

def PerMinerWitness.before (cutoffIso : String) (_ : String × String) (row : PerMinerWitness) :
    Bool := row.recordedAtIso < cutoffIso && row.dimacsSolution ≠ ""

def PerMinerAssignment.before (minEpoch : ℤ) (_ : String) (row : PerMinerAssignment) : Bool :=
  row.epoch < minEpoch

section Statements

variable {K V : Type} [DecidableEq K]

/-- `SELECT COUNT(*) FROM (SELECT … WHERE p LIMIT n)`. -/
def countBatch (limit : ℕ) (p : K → V → Bool) (table : Dict K V) : ℕ := min limit (table.count p)

/-- A deletion by the value `idOf` of the key, or its count in a dry run. -/
def deleteBatch {G : Type} [DecidableEq G] (idOf : K → G) (limit : ℕ) (p : K → V → Bool)
    (apply : Bool) (picked : List K) (table : Dict K V) : ℕ × Dict K V :=
  if !apply then (countBatch limit p table, table)
  else (table.countIn idOf picked, table.deleteIn idOf picked)

end Statements

def PerMinerWitness.blanked (row : PerMinerWitness) : PerMinerWitness :=
  { row with dimacsSolution := "" }

def compactWitnessBodiesBatch (cutoffIso : String) (limit : ℕ) (apply : Bool)
    (picked : List (String × String)) (table : Dict (String × String) PerMinerWitness) :
    ℕ × Dict (String × String) PerMinerWitness :=
  if !apply then (countBatch limit (PerMinerWitness.before cutoffIso) table, table)
  else (picked.length, table.modifyAll picked PerMinerWitness.blanked)

/-! ## The tick -/

/-- The keys that the selects of a tick return. -/
structure Picks where
  evalRuns : List String
  laneChallengeSolves : List (String × String)
  perMinerAttempts : List String
  perMinerSolves : List (String × String)
  perMinerWitnesses : List (String × String)
  perMinerAssignments : List String

/-- The counts that a tick reports as deleted and compacted. -/
structure Counts where
  evalRuns : ℕ
  laneChallengeSolves : ℕ
  perMinerAttempts : ℕ
  perMinerSolves : ℕ
  perMinerWitnessBodies : ℕ
  perMinerAssignments : ℕ

structure Report where
  dryRun : Bool
  batchSize : ℕ
  cutoffs : Cutoffs
  perMinerAssignmentsMinEpoch : Option ℤ
  perMinerAssignmentsError : Option String
  counts : Counts

/-- `keep_from_epoch`; the name of its type where `current_epoch` raises. -/
def keepFromEpoch (env : Environment) (currentEpoch : Except String ℤ) : Except String ℤ :=
  currentEpoch.map fun epoch => epoch - pmKeepEpochs env + 1

/-- What the tick does to the assignments: the count, and the table. -/
def retireAssignments (limit : ℕ) (minEpoch : Except String ℤ) (apply : Bool)
    (picked : List String) (table : Dict String PerMinerAssignment) :
    ℕ × Dict String PerMinerAssignment :=
  match minEpoch with
  | .error _ => (0, table)
  | .ok minEpoch => deleteBatch id limit (PerMinerAssignment.before minEpoch) apply picked table

def retentionTick (env : Environment) (now : UtcTime) (currentEpoch : Except String ℤ) (dry : Bool)
    (picks : Picks) (store : Store) : Option (Report × Store) := do
  let limit := batchSize env
  let c ← cutoffs env now
  let evalRuns := deleteBatch id limit (EvalRun.before c.evalRuns) (!dry) picks.evalRuns
    store.evalRuns
  let laneSolves := deleteBatch id limit (LaneChallengeSolve.before c.solveLedgers) (!dry)
    picks.laneChallengeSolves store.laneChallengeSolves
  let attempts := deleteBatch id limit (PerMinerAttempt.before c.pmAttempts) (!dry)
    picks.perMinerAttempts store.perMinerAttempts
  -- `challenge_id` is only a part of the key of this table
  let solves := deleteBatch Prod.fst limit (PerMinerSolve.before c.solveLedgers) (!dry)
    picks.perMinerSolves store.perMinerSolves
  let witnesses := compactWitnessBodiesBatch c.acceptedRawBodies limit (!dry)
    picks.perMinerWitnesses store.perMinerWitnesses
  let minEpoch := keepFromEpoch env currentEpoch
  let assignments := retireAssignments limit minEpoch (!dry) picks.perMinerAssignments
    store.perMinerAssignments
  some
    ({ dryRun := dry
       batchSize := limit
       cutoffs := c
       perMinerAssignmentsMinEpoch := minEpoch.toOption
       perMinerAssignmentsError := match minEpoch with
         | .error name => some name
         | .ok _ => none
       counts := ⟨evalRuns.1, laneSolves.1, attempts.1, solves.1, witnesses.1, assignments.1⟩ },
     ⟨evalRuns.2, laneSolves.2, attempts.2, solves.2, witnesses.2, assignments.2⟩)

/-! ## What is promised of a tick -/

/-- The lists are such as the selects of the tick may return. -/
structure Picks.Valid (picks : Picks) (limit : ℕ) (c : Cutoffs) (minEpoch : Except String ℤ)
    (store : Store) : Prop where
  evalRuns : store.evalRuns.Selects (EvalRun.before c.evalRuns) limit picks.evalRuns
  laneChallengeSolves : store.laneChallengeSolves.Selects
    (LaneChallengeSolve.before c.solveLedgers) limit picks.laneChallengeSolves
  perMinerAttempts : store.perMinerAttempts.Selects (PerMinerAttempt.before c.pmAttempts) limit
    picks.perMinerAttempts
  perMinerSolves : store.perMinerSolves.Selects (PerMinerSolve.before c.solveLedgers) limit
    picks.perMinerSolves
  perMinerWitnesses : store.perMinerWitnesses.Selects (PerMinerWitness.before c.acceptedRawBodies)
    limit picks.perMinerWitnesses
  perMinerAssignments : ∀ epoch, minEpoch = .ok epoch →
    store.perMinerAssignments.Selects (PerMinerAssignment.before epoch) limit
      picks.perMinerAssignments

/-- The table `d'` is `d` but for the bodies of at most `limit` old witnesses, and both
`compacted` and `counted` are their number. -/
structure Compacts (cutoffIso : String) (limit : ℕ)
    (d d' : Dict (String × String) PerMinerWitness) (compacted counted : ℕ) : Prop where
  rows : ∀ k row, d.get? k = some row → d'.get? k = some row ∨
    row.recordedAtIso < cutoffIso ∧ d'.get? k = some row.blanked
  none : ∀ k, d.get? k = none → d'.get? k = none
  blanked : compacted = d.count fun k row =>
    (d'.get? k).any fun row' => row'.dimacsSolution ≠ row.dimacsSolution
  bounded : compacted ≤ limit
  counted : counted = compacted

/-- The tables and counts of an applying tick, beside the counts of a dry one. -/
structure TickHolds (limit : ℕ) (c : Cutoffs) (minEpoch : Except String ℤ) (store store' : Store)
    (applied counted : Counts) : Prop where
  evalRuns : Dict.Retires (EvalRun.before c.evalRuns) limit store.evalRuns store'.evalRuns
    applied.evalRuns counted.evalRuns
  laneChallengeSolves : Dict.Retires (LaneChallengeSolve.before c.solveLedgers) limit
    store.laneChallengeSolves store'.laneChallengeSolves applied.laneChallengeSolves
    counted.laneChallengeSolves
  perMinerAttempts : Dict.Retires (PerMinerAttempt.before c.pmAttempts) limit
    store.perMinerAttempts store'.perMinerAttempts applied.perMinerAttempts
    counted.perMinerAttempts
  perMinerSolves : Dict.Retires (PerMinerSolve.before c.solveLedgers) limit store.perMinerSolves
    store'.perMinerSolves applied.perMinerSolves counted.perMinerSolves
  perMinerWitnesses : Compacts c.acceptedRawBodies limit store.perMinerWitnesses
    store'.perMinerWitnesses applied.perMinerWitnessBodies counted.perMinerWitnessBodies
  perMinerAssignments : Dict.Retires
    (fun k row => minEpoch.toOption.any fun epoch => PerMinerAssignment.before epoch k row) limit
    store.perMinerAssignments store'.perMinerAssignments applied.perMinerAssignments
    counted.perMinerAssignments

/-- An applying tick retires one batch of each table, and a dry tick on the same store
changes nothing and reports the same counts. -/
def TickPromise (env : Environment) (now : UtcTime) (currentEpoch : Except String ℤ)
    (store : Store) : Prop :=
  ∀ c, cutoffs env now = some c → ∀ picks : Picks,
    picks.Valid (batchSize env) c (keepFromEpoch env currentEpoch) store →
      ∀ report store', retentionTick env now currentEpoch false picks store =
        some (report, store') →
          ∀ dryPicks dryReport dryStore, retentionTick env now currentEpoch true dryPicks store =
            some (dryReport, dryStore) → dryStore = store ∧
              TickHolds (batchSize env) c (keepFromEpoch env currentEpoch) store store'
                report.counts dryReport.counts

/-! ## Single statements -/

theorem batchSize_pos (env : Environment) : 0 < batchSize env := by
  unfold batchSize
  omega

/-- The bodies that the update blanks are those of the rows picked. -/
theorem compacts_of_selects {cutoffIso : String} {limit : ℕ}
    {table : Dict (String × String) PerMinerWitness} {picked : List (String × String)}
    (h : table.Selects (PerMinerWitness.before cutoffIso) limit picked) :
    Compacts cutoffIso limit table (table.modifyAll picked PerMinerWitness.blanked) picked.length
      (min limit (table.count (PerMinerWitness.before cutoffIso))) := by
  have hget := Dict.get?_modifyAll table h.nodup PerMinerWitness.blanked
  -- a row that was picked has a body, and is old
  have hpicked : ∀ k row, table.get? k = some row → k ∈ picked →
      row.recordedAtIso < cutoffIso ∧ row.dimacsSolution ≠ "" := by
    intro k row hrow hk
    obtain ⟨row', hrow', hbefore⟩ := h.sound k hk
    rw [hrow] at hrow'
    cases hrow'
    simpa [PerMinerWitness.before] using hbefore
  refine ⟨fun k row hrow => ?_, fun k hnone => ?_, ?_, ?_, ?_⟩
  · rw [hget, hrow]
    by_cases hk : k ∈ picked
    · exact Or.inr ⟨(hpicked k row hrow hk).1, by simp [hk]⟩
    · exact Or.inl (by simp [hk])
  · rw [hget, hnone, Option.map_none]
  · rw [← Dict.length_keysWhere]
    refine ((List.perm_ext_iff_of_nodup h.nodup (Dict.nodup_keysWhere table _)).mpr
      fun k => ?_).length_eq
    rw [Dict.mem_keysWhere]
    constructor
    · intro hk
      obtain ⟨row, hrow, -⟩ := h.sound k hk
      refine ⟨row, hrow, ?_⟩
      rw [hget, hrow]
      have hbody := (hpicked k row hrow hk).2
      simpa [hk, PerMinerWitness.blanked] using fun hempty : "" = row.dimacsSolution =>
        hbody hempty.symm
    · rintro ⟨row, hrow, hchanged⟩
      by_contra hk
      rw [hget, hrow] at hchanged
      simp [hk] at hchanged
  · rw [h.length]
    exact min_le_left limit _
  · exact h.length.symm

/-- A table whose statement failed is as it was. -/
theorem retires_nothing {K V : Type} [DecidableEq K] (limit : ℕ) (table : Dict K V) :
    Dict.Retires (fun _ _ => false) limit table table 0 0 := by
  refine ⟨fun k v hget hgone => ?_, fun _ _ => id, ?_, Nat.zero_le limit, rfl⟩
  · rw [hget] at hgone
    cases hgone
  · refine (List.countP_eq_zero.mpr fun row hrow => ?_).symm
    simp [Dict.mem_items.mp hrow]

/-- The assignments: their key is the value they are deleted by. -/
theorem retires_assignments {limit : ℕ} {minEpoch : Except String ℤ} {picked : List String}
    {table : Dict String PerMinerAssignment}
    (h : ∀ epoch, minEpoch = .ok epoch →
      table.Selects (PerMinerAssignment.before epoch) limit picked) (dryPicked : List String) :
    Dict.Retires
      (fun k row => minEpoch.toOption.any fun epoch => PerMinerAssignment.before epoch k row) limit
      table (retireAssignments limit minEpoch true picked table).2
      (retireAssignments limit minEpoch true picked table).1
      (retireAssignments limit minEpoch false dryPicked table).1 := by
  cases minEpoch with
  | error name => exact retires_nothing limit table
  | ok epoch => exact Dict.retires_of_injective Function.injective_id (h epoch rfl)

/-! ## The tick -/

/-- A tick that keeps its promise, whatever its selects return, finds the solves before the
cutoff separated from the others. -/
theorem separated_of_tickPromise {env : Environment} {now : UtcTime}
    {currentEpoch : Except String ℤ} {store : Store} {c : Cutoffs}
    (h : TickPromise env now currentEpoch store) (hc : cutoffs env now = some c) :
    store.perMinerSolves.Separated Prod.fst (PerMinerSolve.before c.solveLedgers)
      (batchSize env) := by
  refine (Dict.forall_retires_iff (batchSize_pos env)).mp fun picked hpicked => ?_
  -- the other selects return something
  obtain ⟨evalRuns, hevalRuns⟩ := Dict.exists_selects store.evalRuns
    (EvalRun.before c.evalRuns) (batchSize env)
  obtain ⟨laneSolves, hlaneSolves⟩ := Dict.exists_selects store.laneChallengeSolves
    (LaneChallengeSolve.before c.solveLedgers) (batchSize env)
  obtain ⟨attempts, hattempts⟩ := Dict.exists_selects store.perMinerAttempts
    (PerMinerAttempt.before c.pmAttempts) (batchSize env)
  obtain ⟨witnesses, hwitnesses⟩ := Dict.exists_selects store.perMinerWitnesses
    (PerMinerWitness.before c.acceptedRawBodies) (batchSize env)
  obtain ⟨assignments, hassignments⟩ : ∃ picked, ∀ epoch,
      keepFromEpoch env currentEpoch = .ok epoch → store.perMinerAssignments.Selects
        (PerMinerAssignment.before epoch) (batchSize env) picked := by
    cases keepFromEpoch env currentEpoch with
    | error name => exact ⟨[], fun epoch hepoch => by cases hepoch⟩
    | ok epoch =>
      obtain ⟨picked, hpicked⟩ := Dict.exists_selects store.perMinerAssignments
        (PerMinerAssignment.before epoch) (batchSize env)
      exact ⟨picked, fun epoch' hepoch => by cases hepoch; exact hpicked⟩
  let picks : Picks := ⟨evalRuns, laneSolves, attempts, picked, witnesses, assignments⟩
  have hvalid : picks.Valid (batchSize env) c (keepFromEpoch env currentEpoch) store :=
    ⟨hevalRuns, hlaneSolves, hattempts, hpicked, hwitnesses, hassignments⟩
  have htick := h c hc picks hvalid _ _ (by rw [retentionTick, hc]; rfl) picks _ _
    (by rw [retentionTick, hc]; rfl)
  exact htick.2.perMinerSolves

/-- Only the deletion by `challenge_id` can fail its promise: it keeps it, whatever its
select returns, when the solves before the cutoff are separated from the others. -/
theorem tickPromise_iff (env : Environment) (now : UtcTime) (currentEpoch : Except String ℤ)
    (store : Store) :
    TickPromise env now currentEpoch store ↔ ∀ c, cutoffs env now = some c →
      store.perMinerSolves.Separated Prod.fst (PerMinerSolve.before c.solveLedgers)
        (batchSize env) := by
  constructor
  · intro h c hc
    exact separated_of_tickPromise h hc
  · intro h c hc picks hpicks report store' happly dryPicks dryReport dryStore hdry
    have hsolves := (Dict.forall_retires_iff (batchSize_pos env)).mpr (h c hc)
      picks.perMinerSolves hpicks.perMinerSolves
    rw [retentionTick, hc] at happly hdry
    cases happly
    cases hdry
    refine ⟨?_, ?_, ?_, ?_, ?_, ?_, ?_⟩
    · show Store.mk _ _ _ _ _ _ = _
      cases keepFromEpoch env currentEpoch <;> rfl
    · exact Dict.retires_of_injective Function.injective_id hpicks.evalRuns
    · exact Dict.retires_of_injective Function.injective_id hpicks.laneChallengeSolves
    · exact Dict.retires_of_injective Function.injective_id hpicks.perMinerAttempts
    · exact hsolves
    · exact compacts_of_selects hpicks.perMinerWitnesses
    · exact retires_assignments hpicks.perMinerAssignments _

/-! ## Tick after tick -/

/-- An applying tick with its cutoffs. -/
def Applies (env : Environment) (store : Store) (c : Cutoffs) (store' : Store) : Prop :=
  ∃ now currentEpoch picks report, cutoffs env now = some c ∧
    picks.Valid (batchSize env) c (keepFromEpoch env currentEpoch) store ∧
      retentionTick env now currentEpoch false picks store = some (report, store')

/-- No cutoff of `c` is before that of `base`. -/
structure Cutoffs.Reaches (base c : Cutoffs) : Prop where
  evalRuns : base.evalRuns ≤ c.evalRuns
  solveLedgers : base.solveLedgers ≤ c.solveLedgers
  pmAttempts : base.pmAttempts ≤ c.pmAttempts

/-- Of a table with at most as many rows as the ticks can delete, none is left before `base`. -/
def Drains {K V : Type} [DecidableEq K] (limit : ℕ) (before : K → V → Bool) (d d' : Dict K V) :
    Prop :=
  d.items.length ≤ limit → ∀ k v, d'.get? k = some v → before k v = false

theorem drains_of_batches {K V G : Type} [DecidableEq K] [DecidableEq G] {env : Environment}
    {store store' : Store} {cs : List Cutoffs} {base : Cutoffs} (h : Run (Applies env) store cs store')
    (table : Store → Dict K V) (f : K → G) (cutoffOf : Cutoffs → String) (time : V → String)
    (hbatch : ∀ s c s', Applies env s c s' →
      Dict.Batch f (batchSize env) (table s) (fun _ v => time v < cutoffOf c) (table s'))
    (hbase : ∀ c ∈ cs, cutoffOf base ≤ cutoffOf c) :
    Drains (batchSize env * cs.length) (fun _ v => time v < cutoffOf base) (table store)
      (table store') := by
  intro hlength
  refine Dict.drained (h.map table (fun c _ v => decide (time v < cutoffOf c)) hbatch) ?_
    (by rwa [List.length_map])
  rintro p hp k v hq
  obtain ⟨c, hc, rfl⟩ := List.mem_map.mp hp
  exact decide_eq_true (lt_of_lt_of_le (of_decide_eq_true hq) (hbase c hc))

/-- Of the ledgers with at most `limit` rows, no row from before `base` is left. -/
structure BacklogGone (limit : ℕ) (base : Cutoffs) (store store' : Store) : Prop where
  evalRuns : Drains limit (EvalRun.before base.evalRuns) store.evalRuns store'.evalRuns
  laneChallengeSolves : Drains limit (LaneChallengeSolve.before base.solveLedgers)
    store.laneChallengeSolves store'.laneChallengeSolves
  perMinerAttempts : Drains limit (PerMinerAttempt.before base.pmAttempts) store.perMinerAttempts
    store'.perMinerAttempts
  perMinerSolves : Drains limit (PerMinerSolve.before base.solveLedgers) store.perMinerSolves
    store'.perMinerSolves

/-- Applying ticks work off every backlog, with no new rows and no cutoff before `base`. -/
theorem backlog_drained {env : Environment} {store store' : Store} {cs : List Cutoffs}
    {base : Cutoffs} (h : Run (Applies env) store cs store') (hbase : ∀ c ∈ cs, base.Reaches c) :
    BacklogGone (batchSize env * cs.length) base store store' := by
  refine ⟨drains_of_batches h Store.evalRuns id Cutoffs.evalRuns EvalRun.ranAt ?_
      fun c hc => (hbase c hc).evalRuns,
    drains_of_batches h Store.laneChallengeSolves id Cutoffs.solveLedgers
      LaneChallengeSolve.solvedAtIso ?_ fun c hc => (hbase c hc).solveLedgers,
    drains_of_batches h Store.perMinerAttempts id Cutoffs.pmAttempts
      PerMinerAttempt.recordedAtIso ?_ fun c hc => (hbase c hc).pmAttempts,
    drains_of_batches h Store.perMinerSolves Prod.fst Cutoffs.solveLedgers
      PerMinerSolve.solvedAtIso ?_ fun c hc => (hbase c hc).solveLedgers⟩
  all_goals
    rintro s c s' ⟨now, currentEpoch, picks, report, hc, hvalid, htick⟩
    rw [retentionTick, hc] at htick
    cases htick
  · exact ⟨_, hvalid.evalRuns, rfl⟩
  · exact ⟨_, hvalid.laneChallengeSolves, rfl⟩
  · exact ⟨_, hvalid.perMinerAttempts, rfl⟩
  · exact ⟨_, hvalid.perMinerSolves, rfl⟩

/-! ## A challenge solved twice -/

def sampleNow : UtcTime := ⟨2026, 1, 10, 12, 0, 0, 0, by decide⟩

/-- One challenge solved by two hotkeys, two months and an hour ago. -/
def sharedSolves : Dict (String × String) PerMinerSolve :=
  Dict.ofList [(("c", "early"), ⟨"2025-11-10T12:00:00.000Z"⟩),
    (("c", "late"), ⟨"2026-01-10T11:00:00.000Z"⟩)]

def sharedStore : Store := ⟨Dict.empty, Dict.empty, Dict.empty, sharedSolves, Dict.empty, Dict.empty⟩

theorem backlog_drained_shared : ∃ c store',
    BacklogGone (batchSize Environment.defaults * 1) c sharedStore store' := by
  have hcutoff : (cutoffs Environment.defaults sampleNow).isSome = true := by decide +kernel
  obtain ⟨c, hc⟩ := Option.isSome_iff_exists.mp hcutoff
  have hnone : ∀ {K V : Type} [DecidableEq K] (p : K → V → Bool) (n : ℕ),
      (Dict.empty : Dict K V).Selects p n [] :=
    fun p n => ⟨List.nodup_nil, by simp, by simp⟩
  obtain ⟨picked, hpicked⟩ := Dict.exists_selects sharedSolves
    (PerMinerSolve.before c.solveLedgers) (batchSize Environment.defaults)
  have htick : Applies Environment.defaults sharedStore c _ :=
    ⟨sampleNow, .ok 100, ⟨[], [], [], picked, [], []⟩, _, hc,
      ⟨hnone _ _, hnone _ _, hnone _ _, hpicked, hnone _ _, fun _ _ => hnone _ _⟩,
      by rw [retentionTick, hc]; rfl⟩
  exact ⟨c, _, backlog_drained (Run.nil.snoc htick) fun c' hc' =>
    List.mem_singleton.mp hc' ▸ ⟨le_rfl, le_rfl, le_rfl⟩⟩

/-- The solve of the last hour is deleted with the other one. -/
theorem younger_solve_deleted :
    ¬ TickPromise Environment.defaults sampleNow (.ok 100) sharedStore := by
  have hcutoff : (cutoffs Environment.defaults sampleNow).map Cutoffs.solveLedgers =
      some "2026-01-08T12:00:00.000Z" := by decide +kernel
  obtain ⟨c, hc, hsolve⟩ := Option.map_eq_some_iff.mp hcutoff
  intro h
  have hsep := separated_of_tickPromise h hc
  have hyoung := hsep.old ("c", "early") ⟨"2025-11-10T12:00:00.000Z"⟩ ("c", "late")
    ⟨"2026-01-10T11:00:00.000Z"⟩ rfl rfl (by rw [hsolve]; decide) rfl
  rw [hsolve] at hyoung
  exact absurd hyoung (by decide)

end Cathedral.Publisher.Retention
