import Mathlib.Data.Prod.Lex
import Mathlib.Data.String.Basic
import Cathedral.Lib.Feed
import Cathedral.Lib.Guarded
import Cathedral.Lib.ReadCommitted
import Cathedral.Publisher.Accept

/-!
# Cathedral.Publisher.RecentFeed — the feed that validators page through

Accepting a solve writes two rows of `eval_runs`. Their time is taken before the
transaction: on the synchronous path just before it begins, on the worker's path when
the submission was received. A validator pages through the committed rows in the order
of `(ran_at, id)`, always from the last row it received.

Retention, which deletes old rows, is not modelled.
-/

namespace Cathedral.Publisher.RecentFeed

open ReadCommitted Feed

/-! ## The page query -/

/-- A row of `eval_runs` with its id. -/
abbrev FeedRow : Type := String × EvalRun

/-- The order of the feed: `(ran_at, id)`. -/
def position (row : FeedRow) : Millis ×ₗ String := toLex (row.2.ranAt, row.1)

def recentRows (runs : Dict String EvalRun) (sinceRanAt : Option Millis) (sinceId : Option String)
    (limit : ℕ) : List FeedRow :=
  match sinceRanAt with
  | none => (runs.items.insertionSort fun a b => position b ≤ position a).take limit
  | some since =>
    ((runs.items.filter fun row =>
        since < row.2.ranAt ∨ (row.2.ranAt = since ∧ sinceId.getD "" < row.1)).insertionSort
      fun a b => position a ≤ position b).take limit

/-- With a cursor the query is a page of the feed. -/
theorem recentRows_eq_page (runs : Dict String EvalRun) (cursor : Millis ×ₗ String) (limit : ℕ) :
    recentRows runs (some (ofLex cursor).1) (some (ofLex cursor).2) limit =
      page position runs.items cursor limit := by
  have hfilter : ∀ row : FeedRow, ((ofLex cursor).1 < row.2.ranAt ∨
      (row.2.ranAt = (ofLex cursor).1 ∧ (ofLex cursor).2 < row.1)) ↔ cursor < position row := by
    intro row
    rw [Prod.Lex.lt_iff]
    exact or_congr Iff.rfl (and_congr eq_comm Iff.rfl)
  simp only [recentRows, Option.getD_some, page, hfilter]

/-- The id tells rows of one table apart. -/
theorem position_injOn (runs : Dict String EvalRun) :
    ∀ row ∈ runs.items, ∀ row' ∈ runs.items, position row = position row' → row = row' := by
  intro row hrow row' hrow' heq
  have hid : row.1 = row'.1 := congrArg (fun p => (ofLex p).2) heq
  have hget := Dict.mem_items.mp hrow
  rw [hid, Dict.mem_items.mp hrow'] at hget
  exact Prod.ext hid (Option.some.inj hget).symm

/-! ## Accepts and polls -/

/-- What an accept transaction writes in its two rows, besides the time. -/
structure Scored where
  ids : RowIds
  minerHotkey : String
  challengeId : String
  tier : ℤ
  weightedScore : ℚ
  answerHash : String
  verifierDetailsHash : String
  solveRank : ℕ
deriving DecidableEq, Repr

def Scored.rows (settings : Settings) (solve : Scored) (ranAt : Millis) : List FeedRow :=
  buildSolveRows settings solve.ids solve.minerHotkey solve.challengeId solve.tier
    solve.weightedScore solve.answerHash solve.verifierDetailsHash ranAt solve.solveRank

/-- How far an accept is. -/
inductive Phase where
  /-- The time of the rows is taken; the transaction has not begun. -/
  | stamped
  | begun
  /-- The rows still to be inserted. -/
  | emitting (left : List FeedRow)
deriving DecidableEq

/-- Whether the transaction may end: it refused, or has inserted all rows. -/
def Phase.done : Phase → Prop
  | .begun => True
  | .emitting left => left = []
  | .stamped => False

instance : DecidablePred Phase.done
  | .begun => isTrue trivial
  | .emitting left => inferInstanceAs (Decidable (left = []))
  | .stamped => isFalse id

structure Accepting where
  ranAt : Millis
  phase : Phase
  /-- The transaction began after the validator started. -/
  afterStart : Bool

def Accepting.at (a : Accepting) (phase : Phase) : Accepting := { a with phase := phase }

/-- `eval_runs` under its primary key, with the open transactions. -/
abbrev FeedDb : Type := Db ℕ String EvalRun Unit

structure World where
  clock : Millis
  /-- `received_at_iso` of the queued submissions. -/
  receipts : Dict String Millis
  accepts : Dict ℕ Accepting
  db : FeedDb
  validator : Reader FeedRow (Millis ×ₗ String)
  /-- The rows committed by transactions that began after the validator started. -/
  sinceStart : List FeedRow

/-- The rows that a commit of a transaction adds to those. -/
def World.newRows (w : World) (tx : ℕ) : List FeedRow :=
  if (w.accepts.get? tx).any (·.afterStart) then (w.db.session tx).inserted else []

/-- The accepts without one. -/
def ended (accepts : Dict ℕ Accepting) (tx : ℕ) : Dict ℕ Accepting :=
  accepts.filterItems fun other _ => other ≠ tx

def World.answer (w : World) (limit : ℕ) : List FeedRow :=
  recentRows w.db.committed (some (ofLex w.validator.cursor).1)
    (some (ofLex w.validator.cursor).2) limit

/-- The validator after a poll: it goes on from the last row it received. -/
def World.poll (w : World) (limit : ℕ) : Reader FeedRow (Millis ×ₗ String) where
  cursor := resume position w.validator.cursor (w.answer limit)
  received := w.validator.received ++ w.answer limit

inductive Action where
  | receive (receiptId : String)
  | stampSync (tx : ℕ)
  | stampAsync (tx : ℕ) (receiptId : String)
  | begin (tx : ℕ)
  | emit (tx : ℕ) (solve : Scored)
  | insert (tx : ℕ)
  | commit (tx : ℕ)
  | rollback (tx : ℕ)
  | poll (limit : ℕ)
  | tick (now : Millis)

/-- One statement of one accept, one poll, or time passing. -/
inductive Step (settings : Settings) : World → Action → World → Prop where
  | receive {w : World} {receiptId : String} :
      w.receipts.get? receiptId = none →
      Step settings w (.receive receiptId)
        { w with receipts := w.receipts.set receiptId w.clock }
  /-- `agents_submit` takes `now_iso` before it writes. -/
  | stampSync {w : World} {tx : ℕ} :
      w.accepts.get? tx = none →
      Step settings w (.stampSync tx)
        { w with accepts := w.accepts.set tx ⟨w.clock, .stamped, false⟩ }
  /-- `_accept_public_async` dates the rows by the receipt. -/
  | stampAsync {w : World} {tx : ℕ} {receiptId : String} {receivedAt : Millis} :
      w.accepts.get? tx = none → w.receipts.get? receiptId = some receivedAt →
      Step settings w (.stampAsync tx receiptId)
        { w with accepts := w.accepts.set tx ⟨receivedAt, .stamped, false⟩ }
  | begin {w : World} {tx : ℕ} {a : Accepting} :
      w.accepts.get? tx = some a → a.phase = .stamped →
      Step settings w (.begin tx)
        { w with
          db := w.db.begin tx
          accepts := w.accepts.set tx ⟨a.ranAt, .begun, true⟩ }
  /-- The gates passed and the solve was claimed and scored. -/
  | emit {w : World} {tx : ℕ} {a : Accepting} {solve : Scored} :
      w.accepts.get? tx = some a → a.phase = .begun →
      Step settings w (.emit tx solve)
        { w with accepts := w.accepts.set tx (a.at (.emitting (solve.rows settings a.ranAt))) }
  /-- `INSERT OR IGNORE INTO eval_runs`. -/
  | insert {w : World} {tx : ℕ} {a : Accepting} {row : FeedRow} {left : List FeedRow}
      {db : FeedDb} {fresh : Bool} :
      w.accepts.get? tx = some a → a.phase = .emitting (row :: left) →
      w.db.insertIgnore tx row.1 row.2 = some (db, fresh) →
      Step settings w (.insert tx)
        { w with db := db, accepts := w.accepts.set tx (a.at (.emitting left)) }
  | commit {w : World} {tx : ℕ} {a : Accepting} :
      w.accepts.get? tx = some a → a.phase.done →
      Step settings w (.commit tx)
        { w with
          db := w.db.commit tx
          accepts := ended w.accepts tx
          sinceStart := w.sinceStart ++ w.newRows tx }
  | rollback {w : World} {tx : ℕ} :
      Step settings w (.rollback tx)
        { w with db := w.db.abort tx, accepts := ended w.accepts tx }
  | poll {w : World} {limit : ℕ} :
      Step settings w (.poll limit) { w with validator := w.poll limit }
  | tick {w : World} {now : Millis} :
      w.clock ≤ now → Step settings w (.tick now) { w with clock := now }

variable {settings : Settings} {w w₀ w' : World} {actions : List Action} {tx : ℕ} {limit : ℕ}

theorem answer_eq_page :
    w.answer limit = page position w.db.committed.items w.validator.cursor limit :=
  recentRows_eq_page _ _ _

theorem poll_eq : w.poll limit = w.validator.poll position w.db.committed.items limit := by
  rw [World.poll, answer_eq_page]
  rfl

/-! ## The invariant -/

/-- A validator that has received nothing yet, from any cursor and over any table and
open transactions. -/
structure Start (w : World) : Prop where
  valid : w.db.Valid
  opened : ∀ tx a, w.accepts.get? tx = some a → a.phase ≠ .stamped →
    ∃ σ, w.db.sessions.get? tx = some σ
  earlier : ∀ tx a, w.accepts.get? tx = some a → a.afterStart = false
  received : w.validator.received = []
  sinceStart : w.sinceStart = []

structure Inv (w : World) : Prop where
  valid : w.db.Valid
  opened : ∀ tx a, w.accepts.get? tx = some a → a.phase ≠ .stamped →
    ∃ σ, w.db.sessions.get? tx = some σ
  ordered : w.validator.Ordered position
  received : w.validator.received ⊆ w.db.committed.items
  sinceStart : w.sinceStart ⊆ w.db.committed.items

theorem Start.inv (h : Start w) : Inv w := by
  constructor
  · exact h.valid
  · exact h.opened
  · constructor <;> simp [h.received]
  · simp [h.received]
  · simp [h.sinceStart]

/-- What leaves the committed rows and the validator alone. -/
theorem inv_of_same {db : FeedDb} {accepts : Dict ℕ Accepting} (h : Inv w) (hvalid : db.Valid)
    (hcommitted : db.committed = w.db.committed)
    (hopened : ∀ tx a, accepts.get? tx = some a → a.phase ≠ .stamped →
      ∃ σ, db.sessions.get? tx = some σ) :
    Inv { w with db := db, accepts := accepts } := by
  constructor
  · exact hvalid
  · exact hopened
  · exact h.ordered
  · change _ ⊆ db.committed.items
    rw [hcommitted]
    exact h.received
  · change _ ⊆ db.committed.items
    rw [hcommitted]
    exact h.sinceStart

/-- One accept changes while its session is open. -/
theorem opened_set {db : FeedDb} {a : Accepting} (h : Inv w)
    (hself : a.phase ≠ .stamped → ∃ σ, db.sessions.get? tx = some σ)
    (hothers : ∀ u, u ≠ tx → db.sessions.get? u = w.db.sessions.get? u) :
    ∀ u b, (w.accepts.set tx a).get? u = some b → b.phase ≠ .stamped →
      ∃ σ, db.sessions.get? u = some σ := by
  intro u b hget hphase
  rw [Dict.get?_set] at hget
  split at hget
  · next heq =>
      cases hget
      cases heq
      exact hself hphase
  · next hne =>
      rw [hothers u (Ne.symm hne)]
      exact h.opened u b hget hphase

/-- An accept and its session end together. -/
theorem opened_ended {db : FeedDb} (h : Inv w)
    (hothers : ∀ u, u ≠ tx → db.sessions.get? u = w.db.sessions.get? u) :
    ∀ u b, (ended w.accepts tx).get? u = some b → b.phase ≠ .stamped →
      ∃ σ, db.sessions.get? u = some σ := by
  intro u b hget hphase
  rw [ended, Dict.get?_filterItems] at hget
  obtain ⟨hold, hne⟩ := Option.filter_eq_some_iff.mp hget
  rw [hothers u (by simpa using hne)]
  exact h.opened u b hold hphase

theorem get?_other_session (db : FeedDb) (σ : Session String EvalRun Unit) (u : ℕ) (hu : u ≠ tx) :
    (db.setSession tx σ).sessions.get? u = db.sessions.get? u :=
  Dict.get?_set_ne _ _ (Ne.symm hu)

theorem get?_other_ended (db : FeedDb) (u : ℕ) (hu : u ≠ tx) :
    (db.sessions.filterItems fun s _ => s ≠ tx).get? u = db.sessions.get? u := by
  rw [Db.get?_ended, if_neg hu]

/-! ## Steps -/

theorem inv_insert {a : Accepting} {row : FeedRow} {left : List FeedRow} {db : FeedDb}
    {fresh : Bool} (h : Inv w) (hget : w.accepts.get? tx = some a)
    (hphase : a.phase = .emitting (row :: left))
    (hinsert : w.db.insertIgnore tx row.1 row.2 = some (db, fresh)) :
    Inv { w with db := db, accepts := w.accepts.set tx (a.at (.emitting left)) } := by
  obtain ⟨σ, hσ⟩ := h.opened tx a hget (by rw [hphase]; simp)
  have hvalid := Db.valid_insertIgnore h.valid hσ hinsert
  rcases Db.insertIgnore_eq_some hinsert with ⟨-, rfl, -⟩ | ⟨-, -, -, -, rfl⟩
  · exact inv_of_same h hvalid rfl (opened_set h (fun _ => ⟨σ, hσ⟩) fun _ _ => rfl)
  · refine inv_of_same h hvalid rfl (opened_set h (fun _ => ?_) (get?_other_session _ _))
    exact ⟨_, Dict.get?_set_self _ _ _⟩

theorem newRows_subset {σ : Session String EvalRun Unit} (hσ : w.db.sessions.get? tx = some σ) :
    w.newRows tx ⊆ σ.inserted := by
  rw [World.newRows, Db.session_eq hσ]
  split
  · exact List.Subset.refl _
  · exact List.nil_subset _

theorem inv_commit {a : Accepting} (h : Inv w) (hget : w.accepts.get? tx = some a)
    (hdone : a.phase.done) :
    Inv { w with
      db := w.db.commit tx
      accepts := ended w.accepts tx
      sinceStart := w.sinceStart ++ w.newRows tx } := by
  obtain ⟨σ, hσ⟩ := h.opened tx a hget fun heq => by rw [heq] at hdone; exact hdone
  have hitems := Db.items_commit h.valid hσ
  constructor
  · exact Db.valid_commit h.valid hσ
  · exact opened_ended h fun u hu => get?_other_ended w.db u hu
  · exact h.ordered
  · change _ ⊆ (w.db.commit tx).committed.items
    rw [hitems]
    exact List.subset_append_of_subset_left _ h.received
  · change _ ⊆ (w.db.commit tx).committed.items
    rw [hitems]
    refine List.append_subset.mpr ⟨List.subset_append_of_subset_left _ h.sinceStart, ?_⟩
    exact List.subset_append_of_subset_right _ (newRows_subset hσ)

theorem inv_poll (h : Inv w) : Inv { w with validator := w.poll limit } := by
  have hnodup : w.db.committed.items.Nodup := List.Nodup.of_map _ w.db.committed.nodup
  rw [poll_eq]
  constructor
  · exact h.valid
  · exact h.opened
  · exact Reader.ordered_poll hnodup h.ordered
  · refine List.append_subset.mpr ⟨h.received, ?_⟩
    intro row hrow
    exact (mem_page hrow).1
  · exact h.sinceStart

theorem inv_step {action : Action} (h : Inv w) (hstep : Step settings w action w') : Inv w' := by
  cases hstep with
  | receive _ => exact ⟨h.valid, h.opened, h.ordered, h.received, h.sinceStart⟩
  | stampSync _ =>
    exact inv_of_same h h.valid rfl (opened_set h (fun hphase => absurd rfl hphase) fun _ _ => rfl)
  | stampAsync _ _ =>
    exact inv_of_same h h.valid rfl (opened_set h (fun hphase => absurd rfl hphase) fun _ _ => rfl)
  | begin _ _ =>
    refine inv_of_same h (Db.valid_begin h.valid) rfl (opened_set h (fun _ => ?_) ?_)
    · exact ⟨_, Dict.get?_set_self _ _ _⟩
    · exact get?_other_session _ _
  | emit hget hphase =>
    obtain ⟨σ, hσ⟩ := h.opened _ _ hget (by rw [hphase]; simp)
    exact inv_of_same h h.valid rfl (opened_set h (fun _ => ⟨σ, hσ⟩) fun _ _ => rfl)
  | insert hget hphase hinsert => exact inv_insert h hget hphase hinsert
  | commit hget hdone => exact inv_commit h hget hdone
  | rollback =>
    exact inv_of_same h (Db.valid_abort h.valid) rfl
      (opened_ended h fun u hu => get?_other_ended w.db u hu)
  | poll => exact inv_poll h
  | tick _ => exact ⟨h.valid, h.opened, h.ordered, h.received, h.sinceStart⟩

theorem inv_of_run (hstart : Start w₀) (h : Run (Step settings) w₀ actions w) : Inv w :=
  Run.invariant hstart.inv (fun _ _ _ => inv_step) h

/-! ## Nothing lost -/

/-- Whenever a poll returns fewer rows than its limit, the validator has received every
row of a transaction that began after it started. -/
def Lossless (w : World) : Prop :=
  ∀ limit, (w.answer limit).length < limit →
    ∀ row ∈ w.sinceStart, row ∈ (w.poll limit).received

/-- The rows a commit adds to the feed lie ahead of the validator's cursor. -/
def Ahead (w : World) : Action → Prop
  | .commit tx => ∀ row ∈ w.newRows tx, w.validator.cursor < position row
  | _ => True

theorem lossless_iff_keeps (h : Inv w) :
    Lossless w ↔ w.validator.Keeps position w.sinceStart := by
  rw [Reader.keeps_iff_short h.sinceStart]
  refine forall_congr' fun limit => ?_
  rw [poll_eq, answer_eq_page]

/-- The rows of an open transaction have not been received. -/
theorem newRows_unread {a : Accepting} {row : FeedRow} (h : Inv w)
    (hget : w.accepts.get? tx = some a) (hdone : a.phase.done) (hrow : row ∈ w.newRows tx) :
    row ∉ w.validator.received := by
  intro hread
  obtain ⟨σ, hσ⟩ := h.opened tx a hget fun heq => by rw [heq] at hdone; exact hdone
  have hfree := h.valid.free tx σ hσ row (newRows_subset hσ hrow)
  rw [Dict.mem_items.mp (h.received hread)] at hfree
  cases hfree

/-- A step keeps the promise exactly if it commits ahead of the cursor. -/
theorem ahead_iff_lossless {action : Action} (h : Inv w) (hlossless : Lossless w)
    (hstep : Step settings w action w') : Ahead w action ↔ Lossless w' := by
  have hkeeps := (lossless_iff_keeps h).mp hlossless
  rw [lossless_iff_keeps (inv_step h hstep)]
  cases hstep with
  | commit hget hdone =>
    constructor
    · intro hahead row hrow
      rcases List.mem_append.mp hrow with hold | hnew
      · exact hkeeps row hold
      · exact Or.inr (hahead row hnew)
    · intro hkeeps' row hrow
      have hunread := newRows_unread h hget hdone hrow
      exact (hkeeps' row (List.mem_append_right _ hrow)).resolve_left hunread
  | poll =>
    refine iff_of_true trivial ?_
    rw [poll_eq]
    exact Reader.keeps_poll (position_injOn _) h.sinceStart hkeeps
  | receive _ | stampSync _ | stampAsync _ _ | begin _ _ | emit _ _ | insert _ _ _ | rollback
  | tick _ => exact iff_of_true trivial hkeeps

/-- No row is received twice. -/
theorem received_nodup (h : Inv w) : (w.validator.received.map Prod.fst).Nodup := by
  refine List.Nodup.map_on ?_ h.ordered.nodup
  intro row hrow row' hrow' heq
  have hget := Dict.mem_items.mp (h.received hrow)
  rw [heq, Dict.mem_items.mp (h.received hrow')] at hget
  exact Prod.ext heq (Option.some.inj hget).symm

/-- A validator misses nothing exactly while every commit puts its rows ahead of the
cursor; it never receives a row twice. -/
theorem lossless_iff_ahead (hstart : Start w₀) :
    (Run (Run.Guarded (Step settings) Ahead) w₀ actions w ↔
      Run (Run.Within (Step settings) Lossless) w₀ actions w) ∧
    (Run (Step settings) w₀ actions w → (w.validator.received.map Prod.fst).Nodup) := by
  constructor
  · refine Run.guarded_iff hstart.inv ?_ (fun _ _ _ => inv_step) ?_
    · intro limit _ row hrow
      rw [hstart.sinceStart] at hrow
      cases hrow
    · intro t action u hinv hlossless hstep
      exact ahead_iff_lossless hinv hlossless hstep
  · intro hrun
    exact received_nodup (inv_of_run hstart hrun)

/-! ## An accept that is overtaken -/

/-- One step, computed. -/
def next (settings : Settings) (w : World) : Action → Option World
  | .receive receiptId =>
    if w.receipts.get? receiptId = none then
      some { w with receipts := w.receipts.set receiptId w.clock }
    else none
  | .stampSync tx =>
    if w.accepts.get? tx = none then
      some { w with accepts := w.accepts.set tx ⟨w.clock, .stamped, false⟩ }
    else none
  | .stampAsync tx receiptId => do
    let receivedAt ← w.receipts.get? receiptId
    if w.accepts.get? tx = none then
      some { w with accepts := w.accepts.set tx ⟨receivedAt, .stamped, false⟩ }
    else none
  | .begin tx => do
    let a ← w.accepts.get? tx
    if a.phase = .stamped then
      some { w with
        db := w.db.begin tx
        accepts := w.accepts.set tx ⟨a.ranAt, .begun, true⟩ }
    else none
  | .emit tx solve => do
    let a ← w.accepts.get? tx
    if a.phase = .begun then
      some { w with
        accepts := w.accepts.set tx (a.at (.emitting (solve.rows settings a.ranAt))) }
    else none
  | .insert tx => do
    let a ← w.accepts.get? tx
    match a.phase with
    | .emitting (row :: left) => do
      let (db, _) ← w.db.insertIgnore tx row.1 row.2
      some { w with db := db, accepts := w.accepts.set tx (a.at (.emitting left)) }
    | _ => none
  | .commit tx => do
    let a ← w.accepts.get? tx
    if a.phase.done then
      some { w with
        db := w.db.commit tx
        accepts := ended w.accepts tx
        sinceStart := w.sinceStart ++ w.newRows tx }
    else none
  | .rollback tx => some { w with db := w.db.abort tx, accepts := ended w.accepts tx }
  | .poll limit => some { w with validator := w.poll limit }
  | .tick now => if w.clock ≤ now then some { w with clock := now } else none

theorem next_sound (w : World) (action : Action) (w' : World)
    (h : next settings w action = some w') : Step settings w action w' := by
  cases action with
  | receive receiptId =>
    obtain ⟨hfree, ⟨⟩⟩ := Option.ite_none_right_eq_some.mp h
    exact .receive hfree
  | stampSync tx =>
    obtain ⟨hfree, ⟨⟩⟩ := Option.ite_none_right_eq_some.mp h
    exact .stampSync hfree
  | stampAsync tx receiptId =>
    obtain ⟨receivedAt, hget, h⟩ := Option.bind_eq_some_iff.mp h
    obtain ⟨hfree, ⟨⟩⟩ := Option.ite_none_right_eq_some.mp h
    exact .stampAsync hfree hget
  | begin tx =>
    obtain ⟨a, hget, h⟩ := Option.bind_eq_some_iff.mp h
    obtain ⟨hphase, ⟨⟩⟩ := Option.ite_none_right_eq_some.mp h
    exact .begin hget hphase
  | emit tx solve =>
    obtain ⟨a, hget, h⟩ := Option.bind_eq_some_iff.mp h
    obtain ⟨hphase, ⟨⟩⟩ := Option.ite_none_right_eq_some.mp h
    exact .emit hget hphase
  | insert tx =>
    obtain ⟨a, hget, h⟩ := Option.bind_eq_some_iff.mp h
    split at h
    · next row left hphase =>
        obtain ⟨⟨db, fresh⟩, hinsert, h⟩ := Option.bind_eq_some_iff.mp h
        cases h
        exact .insert hget hphase hinsert
    · cases h
  | commit tx =>
    obtain ⟨a, hget, h⟩ := Option.bind_eq_some_iff.mp h
    obtain ⟨hdone, ⟨⟩⟩ := Option.ite_none_right_eq_some.mp h
    exact .commit hget hdone
  | rollback tx =>
    cases h
    exact .rollback
  | poll limit =>
    cases h
    exact .poll
  | tick now =>
    obtain ⟨hle, ⟨⟩⟩ := Option.ite_none_right_eq_some.mp h
    exact .tick hle

/-- An empty table and a validator that starts from a time. -/
def freshFeed (since : Millis) : World where
  clock := since
  receipts := Dict.empty
  accepts := Dict.empty
  db := ⟨Dict.empty, Dict.empty⟩
  validator := ⟨toLex (since, ""), []⟩
  sinceStart := []

theorem freshFeed_start (since : Millis) : Start (freshFeed since) := by
  constructor
  · exact Db.valid_empty
  · intro tx a hget
    cases hget
  · intro tx a hget
    cases hget
  · rfl
  · rfl

def feedSettings : Settings where
  sha256Hex := id
  lockWins := false
  publicRowScoreMultiplier := 1
  epochSalt := ""
  weightFor := fun _ => 1
  postgres := false

def firstSolve (rowUuid minerHotkey : String) : Scored where
  ids := ⟨rowUuid, ""⟩
  minerHotkey := minerHotkey
  challengeId := "challenge"
  tier := 1
  weightedScore := 1
  answerHash := ""
  verifierDetailsHash := ""
  solveRank := 1

/-- One accept transaction, from its begin to its commit. -/
def writeAccept (tx : ℕ) (solve : Scored) : List Action :=
  [.begin tx, .emit tx solve, .insert tx, .insert tx, .commit tx]

/-- Two accepts that commit in the order of their times, a poll after each. -/
def orderedAccepts : List Action :=
  [.tick 1, .stampSync 0] ++ writeAccept 0 (firstSolve "a" "x") ++ [.poll 50, .tick 2, .stampSync 1]
    ++ writeAccept 1 (firstSolve "b" "y") ++ [.poll 50]

/-- The accept that takes its time first commits after the other and a poll. -/
def overtakenAccept : List Action :=
  [.tick 1, .stampSync 0, .tick 2, .stampSync 1] ++ writeAccept 1 (firstSolve "b" "y") ++
    [.poll 50] ++ writeAccept 0 (firstSolve "a" "x")

instance (w : World) : DecidablePred (Ahead w)
  | .commit tx => inferInstanceAs
      (Decidable (∀ row ∈ w.newRows tx, w.validator.cursor < position row))
  | .receive _ | .stampSync _ | .stampAsync _ _ | .begin _ | .emit _ _ | .insert _
  | .rollback _ | .poll _ | .tick _ => isTrue trivial

theorem orderedAccepts_lossless : ∃ w, (w.validator.received.map Prod.fst) =
    ["a", "a-v5compat", "b", "b-v5compat"] ∧
    Run (Run.Within (Step feedSettings) Lossless) (freshFeed 0) orderedAccepts w := by
  have hnext : ∀ w action w', (if Ahead w action then next feedSettings w action else none) =
      some w' → Run.Guarded (Step feedSettings) Ahead w action w' := by
    intro w action w' h
    obtain ⟨hahead, hstep⟩ := Option.ite_none_right_eq_some.mp h
    exact ⟨next_sound w action w' hstep, hahead⟩
  obtain ⟨w, hrun, hids⟩ := Run.exists_of_any hnext (s := freshFeed 0) (r := orderedAccepts)
    (p := fun w => w.validator.received.map Prod.fst = ["a", "a-v5compat", "b", "b-v5compat"])
    (by decide)
  exact ⟨w, by simpa using hids, (lossless_iff_ahead (freshFeed_start 0)).1.mp hrun⟩

/-- The rows of the overtaken accept are behind the cursor when they commit: no poll
returns them, also one that is not full. -/
theorem late_commit_lost : ¬ ∀ settings w₀ actions w, Start w₀ →
    Run (Step settings) w₀ actions w → Lossless w := by
  intro h
  obtain ⟨w, hrun, hlost⟩ := Run.exists_of_any (@next_sound feedSettings)
    (s := freshFeed 0) (r := overtakenAccept)
    (p := fun w => decide ((w.answer 50).length < 50) && w.sinceStart.any fun row =>
      decide (row ∉ (w.poll 50).received)) (by decide)
  rw [Bool.and_eq_true, decide_eq_true_eq, List.any_eq_true] at hlost
  obtain ⟨hshort, row, hrow, hunread⟩ := hlost
  rw [decide_eq_true_eq] at hunread
  exact hunread (h feedSettings _ _ w (freshFeed_start 0) hrun 50 hshort row hrow)

end Cathedral.Publisher.RecentFeed
