import Cathedral.Arena.Scanner
import Cathedral.Lib.Guarded

/-!
# Cathedral.Arena.ScannerLedger — calls on one ledger

Any number of calls of `record_submission` on one ledger, in any order of their steps: a call
reads the file, verifies, and appends one line, and nothing keeps two calls apart. A line is
written as a whole.

`once_iff` says under which steps no miner is credited twice for a task. Calls that do not
overlap keep the promise, if their texts are read as they were written (`kept_of_alone`).
-/

namespace Cathedral.Arena.Scanner

open PyJson (Value)

/-! ## Calls -/

structure Call where
  task : ScannerTask
  sub : ScannerSubmission

inductive Phase where
  | waiting
  /-- It has read the ledger, and goes on with these rows. -/
  | read (rows : List Row)
  | returned
  | raised

/-- The ledger, each line with the call that wrote it (which the file does not say), and how far
each call is. -/
structure Book (ι : Type) where
  ledger : List (ι × LedgerEntry)
  phase : ι → Phase

inductive Event (ι : Type) where
  | read (id : ι)
  | append (id : ι) (now : ℚ)
  | fail (id : ι)

variable {ι : Type}

def Book.empty : Book ι := ⟨[], fun _ => .waiting⟩

/-- What `read_ledger` returns now. -/
def Book.rows (b : Book ι) : List Row := readLedger (b.ledger.map Prod.snd)

/-- The ledger with one more line. -/
def Book.append (b : Book ι) (id : ι) (e : LedgerEntry) : Book ι :=
  { b with ledger := b.ledger ++ [(id, e)] }

theorem rows_append (b : Book ι) (id : ι) (e : LedgerEntry) :
    (b.append id e).rows = b.rows ++ [e.row] := by
  simp [Book.append, Book.rows, readLedger]

section Steps

variable [DecidableEq ι]

/-- One call goes on. -/
def Book.setPhase (b : Book ι) (id : ι) (phase : Phase) : Book ι :=
  { b with phase := Function.update b.phase id phase }

@[simp] theorem ledger_setPhase (b : Book ι) (id : ι) (phase : Phase) :
    (b.setPhase id phase).ledger = b.ledger := rfl

@[simp] theorem rows_setPhase (b : Book ι) (id : ι) (phase : Phase) :
    (b.setPhase id phase).rows = b.rows := rfl

theorem phase_setPhase (b : Book ι) (id id' : ι) (phase : Phase) :
    (b.setPhase id phase).phase id' = if id' = id then phase else b.phase id' :=
  Function.update_apply ..

variable (C : Crypto) (targets : Registry) (calls : ι → Call)

/-- One step of one call. -/
def next (b : Book ι) : Event ι → Option (Book ι)
  | .read id =>
    match b.phase id with
    | .waiting => some (b.setPhase id (.read b.rows))
    | _ => none
  | .append id now =>
    match b.phase id with
    | .read rows =>
      (recorded C targets now (calls id).task (calls id).sub rows).map fun e =>
        (b.append id e).setPhase id .returned
    | _ => none
  | .fail id =>
    match b.phase id with
    | .read _ =>
      match verifySubmission C targets (calls id).task (calls id).sub with
      | none => some (b.setPhase id .raised)
      | some _ => none
    | _ => none

abbrev Step (b : Book ι) (event : Event ι) (b' : Book ι) : Prop :=
  next C targets calls b event = some b'

variable {C targets calls}

/-- What a step can do: read, append one line, or raise and leave the ledger as it is. -/
theorem step_cases {b b' : Book ι} {event : Event ι} (h : Step C targets calls b event b') :
    (∃ id, event = .read id ∧ b.phase id = .waiting ∧
      b' = b.setPhase id (.read b.rows)) ∨
    (∃ id now rows e, event = .append id now ∧ b.phase id = .read rows ∧
      Entered C targets (calls id).task (calls id).sub rows e ∧
      b' = (b.append id e).setPhase id .returned) ∨
    (∃ id rows, event = .fail id ∧ b.phase id = .read rows ∧
      b' = b.setPhase id .raised) := by
  cases event with
  | read id =>
    cases hphase : b.phase id with
    | waiting =>
      simp only [Step, next, hphase, Option.some.injEq] at h
      exact Or.inl ⟨id, rfl, hphase, h.symm⟩
    | _ => simp [Step, next, hphase] at h
  | append id now =>
    cases hphase : b.phase id with
    | read rows =>
      simp only [Step, next, hphase] at h
      obtain ⟨e, he, rfl⟩ := Option.map_eq_some_iff.mp h
      exact Or.inr (Or.inl ⟨id, now, rows, e, rfl, hphase, entered_of_recorded he, rfl⟩)
    | _ => simp [Step, next, hphase] at h
  | fail id =>
    cases hphase : b.phase id with
    | read rows =>
      simp only [Step, next, hphase] at h
      split at h
      · cases h
        exact Or.inr (Or.inr ⟨id, rows, rfl, hphase, rfl⟩)
      · cases h
    | _ => simp [Step, next, hphase] at h

theorem step_read {b : Book ι} {id : ι} (h : b.phase id = .waiting) :
    Step C targets calls b (.read id) (b.setPhase id (.read b.rows)) := by
  simp only [Step, next, h]

theorem step_append {b : Book ι} {id : ι} {now : ℚ} {rows : List Row} {e : LedgerEntry}
    (h : b.phase id = .read rows)
    (he : recorded C targets now (calls id).task (calls id).sub rows = some e) :
    Step C targets calls b (.append id now) ((b.append id e).setPhase id .returned) := by
  simp only [Step, next, h, he, Option.map_some]

end Steps

/-! ## What is promised -/

/-- A submission that verification accepts. -/
def Verifies (C : Crypto) (targets : Registry) (c : Call) : Prop :=
  ∃ v, verifySubmission C targets c.task c.sub = some v ∧ v.accepted = true

/-- Whom an entry gives credit, and for what. -/
def Row.pair (e : Row) : PyStr × PyStr := (e.minerHotkey, e.taskId)

/-- The pair of a call, as the ledger shows it. -/
def Call.pair (c : Call) : PyStr × PyStr := (reread c.sub.minerHotkey, reread c.task.taskId)

/-- No two accepted rows are of one miner and one task. -/
def Once (rows : List Row) : Prop := ((rows.filter (·.accepted)).map Row.pair).Nodup

/-- A score of a row of the leaderboard is the sum of the weights of some tasks, no two of one
id, each of which the miner has solved. -/
structure CreditedOnce (C : Crypto) (targets : Registry) (calls : ι → Call) (R : Rounding)
    (catalog : List ScannerTask) (r : RankedRow) (tasks : List ScannerTask) : Prop where
  distinct : (tasks.map fun t => reread t.taskId).Nodup
  solved : ∀ t ∈ tasks, ∃ id, (calls id).task = t ∧
    reread (calls id).sub.minerHotkey = r.minerHotkey ∧ Verifies C targets (calls id)
  score : r.score = R.round6 ((tasks.map ScannerTask.bountyWeight).foldl R.add 0)
  benchmarkScore : r.benchmarkScore = R.round6 (((tasks.filter fun t =>
    reread t.taskId ∈ catalog.map ScannerTask.taskId).map ScannerTask.bountyWeight).foldl R.add 0)

/-- What the ledger is promised to keep. -/
structure Kept (C : Crypto) (targets : Registry) (calls : ι → Call) (b : Book ι) : Prop where
  once : Once b.rows
  lines : (b.ledger.map Prod.fst).Nodup ∧
    ∀ id, id ∈ b.ledger.map Prod.fst ↔ b.phase id = .returned
  credited : ∀ (R : Rounding) (catalog : List ScannerTask), ∀ r ∈ leaderboard R catalog b.rows,
    ∃ tasks, CreditedOnce C targets calls R catalog r tasks

/-! ## Every run -/

section Runs

variable {C : Crypto} {targets : Registry} {calls : ι → Call} {b b' : Book ι}

/-- What holds in whatever order the calls take their steps. -/
structure Inv (C : Crypto) (targets : Registry) (calls : ι → Call) (b : Book ι) : Prop where
  lines : (b.ledger.map Prod.fst).Nodup ∧
    ∀ id, id ∈ b.ledger.map Prod.fst ↔ b.phase id = .returned
  entered : ∀ p ∈ b.ledger, ∃ rows,
    Entered C targets (calls p.1).task (calls p.1).sub rows p.2
  seen : ∀ id rows, b.phase id = .read rows → rows <+: b.rows

theorem inv_empty : Inv C targets calls Book.empty := by
  refine ⟨⟨List.nodup_nil, fun id => ?_⟩, fun p hp => ?_, fun id rows h => ?_⟩
  · simp [Book.empty]
  · cases hp
  · cases h

/-! ### Credit -/

/-- Then a miner has no two credits for one task. -/
theorem Once.tasks {rows : List Row} (h : Once rows) (minerHotkey : PyStr) :
    ((credits rows minerHotkey).map Row.taskId).Nodup := by
  have hpairs : ((credits rows minerHotkey).map Row.pair).Nodup := by
    refine h.sublist (List.Sublist.map _ ?_)
    rw [credits, ← List.filter_filter]
    exact List.filter_sublist
  refine List.Nodup.of_map (fun t => (minerHotkey, t)) ?_
  rw [List.map_map]
  refine (List.map_congr_left fun e he => ?_) ▸ hpairs
  -- all are credits of this miner
  simp only [credits, List.mem_filter, Bool.and_eq_true, decide_eq_true_eq] at he
  rw [Row.pair, he.2.1]
  rfl

/-- The scores of the leaderboard are those of distinct tasks. -/
theorem creditedOnce (h : Inv C targets calls b) (honce : Once b.rows) {R : Rounding}
    {catalog : List ScannerTask} {r : RankedRow} (hr : r ∈ leaderboard R catalog b.rows) :
    ∃ tasks, CreditedOnce C targets calls R catalog r tasks := by
  let entries := (b.ledger.map Prod.snd).filter fun e =>
    decide (e.row.minerHotkey = r.minerHotkey) && e.row.accepted
  have hcredits : credits b.rows r.minerHotkey = entries.map LedgerEntry.row :=
    credits_readLedger _ _
  -- what the calls of these entries were
  have hcalls : ∀ e ∈ entries, ∃ id rows, Entered C targets (calls id).task (calls id).sub rows e ∧
      e.accepted = true ∧ reread e.minerHotkey = r.minerHotkey := by
    intro e he
    obtain ⟨hmem, hown⟩ := List.mem_filter.mp he
    obtain ⟨p, hp, rfl⟩ := List.mem_map.mp hmem
    obtain ⟨rows, hentered⟩ := h.entered p hp
    rw [Bool.and_eq_true, decide_eq_true_eq] at hown
    exact ⟨p.1, rows, hentered, hown.2, hown.1⟩
  have hscore : ∀ e ∈ entries, e.row.score = e.task.bountyWeight := by
    intro e he
    obtain ⟨id, rows, hentered, haccepted, -⟩ := hcalls e he
    rw [hentered.task]
    exact hentered.score haccepted
  obtain ⟨hsum, hbenchmark⟩ := sums_of_mem_leaderboard hr
  refine ⟨entries.map LedgerEntry.task, ?_, ?_, ?_, ?_⟩
  · have hnodup := honce.tasks r.minerHotkey
    rw [hcredits, List.map_map] at hnodup
    rw [List.map_map]
    exact hnodup
  · intro t ht
    obtain ⟨e, he, rfl⟩ := List.mem_map.mp ht
    obtain ⟨id, rows, hentered, haccepted, hhotkey⟩ := hcalls e he
    refine ⟨id, hentered.task.symm, ?_, (hentered.accepted.mp haccepted).1⟩
    rw [← hentered.minerHotkey, hhotkey]
  · rw [hsum, hcredits, List.map_map, List.map_map]
    exact congrArg (fun scores => R.round6 (scores.foldl R.add 0)) (List.map_congr_left hscore)
  · rw [hbenchmark, hcredits, List.filter_map, List.filter_map, List.map_map, List.map_map]
    refine congrArg (fun scores => R.round6 (scores.foldl R.add 0))
      (List.map_congr_left fun e he => hscore e (List.mem_of_mem_filter he))

/-! ### Entries that keep the promise -/

variable (C targets calls) in
/-- When a call whose submission verifies appends, each credit that the ledger shows for its miner
and its task is one that it has read, under the very texts of the submission. -/
def UpToDate (b : Book ι) : Event ι → Prop
  | .append id _ => Verifies C targets (calls id) → ∀ rows, b.phase id = .read rows →
      ∀ e ∈ b.rows, e.accepted = true → e.pair = (calls id).pair →
        e ∈ rows ∧ e.pair = ((calls id).sub.minerHotkey, (calls id).task.taskId)
  | _ => True

/-- A submission that verifies is for its task. -/
theorem Verifies.taskId {c : Call} (h : Verifies C targets c) : c.sub.taskId = c.task.taskId := by
  obtain ⟨v, hv, haccepted⟩ := h
  exact ((accepted_iff hv).mp haccepted).1

/-- One more entry is a second credit exactly when it gives credit to a pair that has it. -/
theorem once_append {id : ι} {e : LedgerEntry} :
    Once (b.append id e).rows ↔ Once b.rows ∧ (e.accepted = true →
      e.row.pair ∉ (b.rows.filter (·.accepted)).map Row.pair) := by
  rw [Once, rows_append, List.filter_append, List.map_append, List.nodup_append']
  cases haccepted : e.accepted with
  | false =>
    have hnone : [e.row].filter (·.accepted) = [] := by simp [LedgerEntry.row, haccepted]
    simp [hnone, Once]
  | true =>
    have hsome : [e.row].filter (·.accepted) = [e.row] := by simp [LedgerEntry.row, haccepted]
    simp [hsome, Once]

/-- An append keeps the promise exactly when the call is up to date, if it gives credit. -/
theorem once_append_iff {id : ι} {now : ℚ} {rows : List Row} {e : LedgerEntry}
    (h : Inv C targets calls b) (honce : Once b.rows) (hread : b.phase id = .read rows)
    (hentered : Entered C targets (calls id).task (calls id).sub rows e) :
    UpToDate C targets calls b (.append id now) ↔ Once (b.append id e).rows := by
  have hpair : e.row.pair = (calls id).pair := by
    rw [Row.pair, Call.pair, ← hentered.minerHotkey, ← hentered.task]
    rfl
  rw [once_append, hpair]
  constructor
  · rintro huptodate
    refine ⟨honce, fun haccepted hcredit => ?_⟩
    obtain ⟨hverifies, hnot⟩ := hentered.accepted.mp haccepted
    obtain ⟨x, hx, hxpair⟩ := List.mem_map.mp hcredit
    obtain ⟨hxmem, hxaccepted⟩ := List.mem_filter.mp hx
    -- the gate has seen the credit
    obtain ⟨hseen, hown⟩ := huptodate hverifies rows hread x hxmem hxaccepted hxpair
    have halready : alreadyAccepted (calls id).sub rows = true :=
      alreadyAccepted_iff.mpr ⟨x, hseen, congrArg Prod.fst hown,
        (congrArg Prod.snd hown).trans (Verifies.taskId hverifies).symm, hxaccepted⟩
    rw [hnot] at halready
    cases halready
  · rintro ⟨-, hfresh⟩ hverifies rows' hread' x hxmem hxaccepted hxpair
    rw [hread, Phase.read.injEq] at hread'
    subst hread'
    have hcredit : (calls id).pair ∈ (b.rows.filter (·.accepted)).map Row.pair :=
      List.mem_map.mpr ⟨x, List.mem_filter.mpr ⟨hxmem, hxaccepted⟩, hxpair⟩
    -- no credit is given, so the gate has seen one
    have halready : alreadyAccepted (calls id).sub rows = true := by
      by_contra hnot
      rw [Bool.not_eq_true] at hnot
      exact hfresh (hentered.accepted.mpr ⟨hverifies, hnot⟩) hcredit
    obtain ⟨y, hymem, hyhotkey, hytask, hyaccepted⟩ := alreadyAccepted_iff.mp halready
    have hyown : y.pair = ((calls id).sub.minerHotkey, (calls id).task.taskId) := by
      rw [Row.pair, hyhotkey, hytask, Verifies.taskId hverifies]
    have hybook : y ∈ b.rows := (h.seen id rows hread).subset hymem
    -- what is read is as it was written the second time
    have hypair : y.pair = (calls id).pair := by
      obtain ⟨entry, -, rfl⟩ := List.mem_map.mp hybook
      rw [Call.pair, ← hyhotkey, ← Verifies.taskId hverifies, ← hytask]
      simp [Row.pair, LedgerEntry.row]
    have hsame : x = y := List.inj_on_of_nodup_map honce
      (List.mem_filter.mpr ⟨hxmem, hxaccepted⟩) (List.mem_filter.mpr ⟨hybook, hyaccepted⟩)
      (hxpair.trans hypair.symm)
    rw [hsame]
    exact ⟨hymem, hyown⟩

theorem kept_iff (h : Inv C targets calls b) : Kept C targets calls b ↔ Once b.rows :=
  ⟨fun hkept => hkept.once, fun honce => ⟨honce, h.lines, fun _ _ _ hr => creditedOnce h honce hr⟩⟩

theorem kept_empty : Kept C targets calls (Book.empty : Book ι) :=
  (kept_iff inv_empty).mpr List.nodup_nil

/-! ### Steps -/

variable [DecidableEq ι] {event : Event ι} {events : List (Event ι)}

theorem inv_step (h : Inv C targets calls b) (hstep : Step C targets calls b event b') :
    Inv C targets calls b' := by
  obtain ⟨id, -, hphase, rfl⟩ | ⟨id, now, rows, e, -, hphase, hentered, rfl⟩ |
    ⟨id, rows, -, hphase, rfl⟩ := step_cases hstep
  · -- a call has read what is there now
    refine ⟨⟨h.lines.1, fun id' => ?_⟩, h.entered, fun id' rows hread => ?_⟩
    · rw [ledger_setPhase, h.lines.2 id', phase_setPhase]
      split_ifs with hid
      · simp [hid, hphase]
      · rfl
    · rw [phase_setPhase] at hread
      split_ifs at hread with hid
      · cases hread
        exact List.prefix_rfl
      · exact h.seen id' rows hread
  · -- a call that has not returned has no line yet
    have hnew : id ∉ b.ledger.map Prod.fst := by
      rw [h.lines.2 id, hphase]
      simp
    refine ⟨⟨?_, fun id' => ?_⟩, fun p hp => ?_, fun id' rows' hread => ?_⟩
    · show ((b.ledger ++ [(id, e)]).map Prod.fst).Nodup
      rw [List.map_append, List.map_singleton, ← List.concat_eq_append]
      exact h.lines.1.concat hnew
    · show id' ∈ (b.ledger ++ [(id, e)]).map Prod.fst ↔ _
      rw [List.map_append, List.mem_append, h.lines.2 id', phase_setPhase]
      split_ifs with hid
      · simp [hid]
      · simp [Book.append, hid]
    · rcases List.mem_append.mp hp with hold | hlast
      · exact h.entered p hold
      · rw [List.mem_singleton.mp hlast]
        exact ⟨rows, hentered⟩
    · rw [phase_setPhase] at hread
      split_ifs at hread with hid
      rw [rows_setPhase, rows_append]
      exact (h.seen id' rows' hread).trans (List.prefix_append _ _)
  · refine ⟨⟨h.lines.1, fun id' => ?_⟩, h.entered, fun id' rows' hread => ?_⟩
    · rw [ledger_setPhase, h.lines.2 id', phase_setPhase]
      split_ifs with hid
      · simp [hid, hphase]
      · rfl
    · rw [phase_setPhase] at hread
      split_ifs at hread with hid
      exact h.seen id' rows' hread

/-- A step keeps the promise exactly when it is up to date. -/
theorem upToDate_iff (h : Inv C targets calls b) (hkept : Kept C targets calls b)
    (hstep : Step C targets calls b event b') :
    UpToDate C targets calls b event ↔ Kept C targets calls b' := by
  rw [kept_iff (inv_step h hstep)]
  obtain ⟨id, rfl, -, rfl⟩ | ⟨id, now, rows, e, rfl, hread, hentered, rfl⟩ |
    ⟨id, rows, rfl, -, rfl⟩ := step_cases hstep
  · exact ⟨fun _ => hkept.once, fun _ => trivial⟩
  · exact once_append_iff h hkept.once hread hentered
  · exact ⟨fun _ => hkept.once, fun _ => trivial⟩

/-- The runs whose steps are up to date are the runs in which the promise holds all the time: no
miner has two credits for a task, every call has written its one line or none, and the leaderboard
counts each task of a miner once, with its weight. -/
theorem once_iff : Run (Run.Guarded (Step C targets calls) (UpToDate C targets calls)) Book.empty
      events b ↔
    Run (Run.Within (Step C targets calls) (Kept C targets calls)) Book.empty events b :=
  Run.guarded_iff inv_empty kept_empty (fun _ _ _ => inv_step) fun _ _ _ h hkept hstep =>
    upToDate_iff h hkept hstep

end Runs

/-! ## Two calls -/

section TwoCalls

def sampleTask : ScannerTask where
  taskId := PyStr.ofString "scan-0"
  targetNetuid := 1
  targetName := PyStr.ofString "subtensor"
  repo := PyStr.ofString "subtensor"
  objective := PyStr.ofString "Produce a witness"
  replayTargetId := multiTakeSplitId
  expectedFamily := PyStr.ofString "F_emission"
  requiredFields := ["pool", "rate1_bps", "rate2_bps"].map PyStr.ofString
  nonce := PyStr.ofString "nonce-0"
  bountyWeight := 8 / 5

/-- The same proof twice, by one miner. -/
def sampleCalls (minerHotkey : PyStr) : Bool → Call := fun _ =>
  ⟨sampleTask, {
    taskId := PyStr.ofString "scan-0"
    minerHotkey := minerHotkey
    nonce := PyStr.ofString "nonce-0"
    proofFamily := PyStr.ofString "F_emission"
    witness := .obj splitWitness
    trace := .arr []
    claim := .null
    report := [] }⟩

theorem sample_verifies (C : Crypto) (minerHotkey : PyStr) (id : Bool) :
    Verifies C splitTargets (sampleCalls minerHotkey id) := ⟨_, rfl, rfl⟩

section Pairs

variable {C : Crypto} {targets : Registry} {calls : Bool → Call} {e e' : LedgerEntry}

/-- Both calls read before either appends. -/
theorem run_overlapping
    (h : recorded C targets 0 (calls false).task (calls false).sub [] = some e)
    (h' : recorded C targets 0 (calls true).task (calls true).sub [] = some e') :
    ∃ b, Run (Step C targets calls) Book.empty
      [.read false, .read true, .append false 0, .append true 0] b ∧ b.rows = [e.row, e'.row] :=
  ⟨_, (((Run.nil.snoc (step_read rfl)).snoc (step_read rfl)).snoc (step_append rfl h)).snoc
    (step_append rfl h'), rfl⟩

/-- One call after the other. -/
theorem run_in_turn
    (h : recorded C targets 0 (calls false).task (calls false).sub [] = some e)
    (h' : recorded C targets 0 (calls true).task (calls true).sub [e.row] = some e') :
    ∃ b, Run (Step C targets calls) Book.empty
      [.read false, .append false 0, .read true, .append true 0] b ∧ b.rows = [e.row, e'.row] :=
  ⟨_, (((Run.nil.snoc (step_read rfl)).snoc (step_append rfl h)).snoc (step_read rfl)).snoc
    (step_append rfl h'), rfl⟩

/-- The row of the one miner of two entries. -/
theorem leaderboard_pair (R : Rounding) (catalog : List ScannerTask) {x y : Row}
    (h : y.minerHotkey = x.minerHotkey) (hx : x.accepted = true) (hy : y.accepted = true) :
    ∃ r ∈ leaderboard R catalog [x, y], r.score = R.round6 (R.add (R.add 0 x.score) y.score) := by
  have hrows : (minerRows R (catalog.map ScannerTask.taskId) [x, y]).items =
      [(x.minerHotkey, (MinerRow.fresh.count R (catalog.map ScannerTask.taskId) x).count R
        (catalog.map ScannerTask.taskId) y)] := by
    simp [minerRows, h, Dict.set, Dict.upsert, Dict.getD, Dict.get?, Dict.find, Dict.empty]
  refine ⟨rankedRow R catalog 0 (x.minerHotkey, (MinerRow.fresh.count R
    (catalog.map ScannerTask.taskId) x).count R (catalog.map ScannerTask.taskId) y), ?_, ?_⟩
  · rw [leaderboard, hrows, List.mergeSort_singleton]
    exact List.mem_singleton_self _
  · simp [rankedRow, MinerRow.count, hx, hy, MinerRow.fresh]

end Pairs

/-- Sums without rounding. -/
def exactRounding : Rounding := ⟨(· + ·), (· / ·), List.sum, id⟩

/-- A hotkey of the two halves of one character, which no JSON body has. -/
def halves : PyStr := [0xD83D, 0xDE00]

theorem sample_recorded (C : Crypto) (minerHotkey : PyStr) (id : Bool) {rows : List Row}
    (h : alreadyAccepted (sampleCalls minerHotkey id).sub rows = false) :
    ∃ e, recorded C splitTargets 0 (sampleCalls minerHotkey id).task
        (sampleCalls minerHotkey id).sub rows = some e ∧
      e.row.minerHotkey = reread minerHotkey ∧ e.row.taskId = reread sampleTask.taskId ∧
        e.row.accepted = true ∧ e.row.score = 8 / 5 := by
  obtain ⟨v, hv, haccepted⟩ := sample_verifies C minerHotkey id
  have he := congrArg (Option.map fun verdict => ledgerEntry C 0 (sampleCalls minerHotkey id).task
    (sampleCalls minerHotkey id).sub (ledgerGate verdict (sampleCalls minerHotkey id).sub rows)) hv
  have hentered := entered_of_recorded he
  have hcredit := hentered.accepted.mpr ⟨⟨v, hv, haccepted⟩, h⟩
  exact ⟨_, he, rfl, rfl, hcredit, hentered.score hcredit⟩

/-- Two entries of one miner for the task of the sample. -/
theorem sample_pair {e e' : LedgerEntry} {minerHotkey : PyStr}
    (h : e.row.minerHotkey = reread minerHotkey ∧ e.row.taskId = reread sampleTask.taskId ∧
      e.row.accepted = true ∧ e.row.score = 8 / 5)
    (h' : e'.row.minerHotkey = reread minerHotkey ∧ e'.row.taskId = reread sampleTask.taskId ∧
      e'.row.accepted = true ∧ e'.row.score = 8 / 5) :
    ¬ Once [e.row, e'.row] ∧
      ∃ r ∈ leaderboard exactRounding [sampleTask] [e.row, e'.row], r.score = 16 / 5 := by
  constructor
  · intro honce
    simp [Once, Row.pair, h, h'] at honce
  · obtain ⟨r, hr, hscore⟩ := leaderboard_pair exactRounding [sampleTask]
      (h'.1.trans h.1.symm) h.2.2.1 h'.2.2.1
    refine ⟨r, hr, hscore.trans ?_⟩
    rw [h.2.2.2, h'.2.2.2]
    show (0 + 8 / 5 + 8 / 5 : ℚ) = 16 / 5
    norm_num

/-- Two calls that both read before they append are both credited, and so are two calls one after
the other by a hotkey that is not read as it was written. -/
theorem credited_twice :
    (∀ C, ∃ b, Run (Step C splitTargets (sampleCalls (PyStr.ofString "hk_dup"))) Book.empty
      [.read false, .read true, .append false 0, .append true 0] b ∧ ¬ Once b.rows ∧
        ∃ r ∈ leaderboard exactRounding [sampleTask] b.rows, r.score = 16 / 5) ∧
    ∀ C, ∃ b, Run (Step C splitTargets (sampleCalls halves)) Book.empty
      [.read false, .append false 0, .read true, .append true 0] b ∧ ¬ Once b.rows ∧
        ∃ r ∈ leaderboard exactRounding [sampleTask] b.rows, r.score = 16 / 5 := by
  constructor
  · intro C
    have hnone : ∀ sub, alreadyAccepted sub [] = false := fun _ => rfl
    obtain ⟨e, he, hrow⟩ := sample_recorded C (PyStr.ofString "hk_dup") false (hnone _)
    obtain ⟨e', he', hrow'⟩ := sample_recorded C (PyStr.ofString "hk_dup") true (hnone _)
    obtain ⟨b, hrun, hrows⟩ := run_overlapping he he'
    exact ⟨b, hrun, hrows ▸ sample_pair hrow hrow'⟩
  · intro C
    have hnone : alreadyAccepted (sampleCalls halves false).sub [] = false := rfl
    obtain ⟨e, he, hrow⟩ := sample_recorded C halves false hnone
    have hunseen : alreadyAccepted (sampleCalls halves true).sub [e.row] = false := by
      rw [← Bool.not_eq_true, alreadyAccepted_iff]
      rintro ⟨x, hx, hhotkey, -⟩
      -- the line has one character for the two halves
      rw [List.mem_singleton.mp hx, hrow.1] at hhotkey
      exact absurd hhotkey (by decide)
    obtain ⟨e', he', hrow'⟩ := sample_recorded C halves true hunseen
    obtain ⟨b, hrun, hrows⟩ := run_in_turn he he'
    exact ⟨b, hrun, hrows ▸ sample_pair hrow hrow'⟩

end TwoCalls

end Cathedral.Arena.Scanner
