import Cathedral.Lib.ReadCommitted
import Cathedral.Lib.Run
import Cathedral.Publisher.Accept

/-!
# Cathedral.Publisher.ClaimSolve — first-seen ranks under both isolations

`claim_solve` inserts the solve row of a (challenge, hotkey) pair and then counts the
rows of the challenge; the count is the rank. On SQLite write transactions run one at
a time. On Postgres they overlap, and a count sees committed rows only; the accept
transactions therefore first update the row of the challenge in `lane_challenges`,
whose lock they hold until they end.

Retention, which deletes old solve rows, is not modelled.
-/

namespace Cathedral.Publisher.ClaimSolve

open ReadCommitted

/-! ## Transactions -/

/-- How transactions are kept apart. -/
structure Isolation where
  /-- SQLite: one write transaction at a time. -/
  serialised : Bool
  /-- The transaction updates the row of its challenge before it claims. -/
  rowLock : Bool
deriving DecidableEq, Repr

/-- How far a transaction is. -/
inductive Phase where
  | begun
  | locked
  /-- The `INSERT` ran, and whether its row count was one. -/
  | inserted (fresh : Bool)
  /-- `claim_solve` returned. -/
  | answered (rank : Option ℕ)
deriving DecidableEq, Repr

structure Claim where
  challengeId : String
  minerHotkey : String
  solvedAt : Millis
  phase : Phase
deriving DecidableEq, Repr

def Claim.pair (c : Claim) : String × String := (c.challengeId, c.minerHotkey)

/-- A rank that a committed transaction recorded. -/
structure Recorded where
  challengeId : String
  minerHotkey : String
  rank : ℕ
deriving DecidableEq, Repr

def Recorded.pair (r : Recorded) : String × String := (r.challengeId, r.minerHotkey)

/-- `lane_challenge_solves` under its primary key, with the open transactions; the
locks are those on rows of `lane_challenges`. -/
abbrev SolveDb : Type := Db ℕ (String × String) Millis String

structure World where
  db : SolveDb
  claims : Dict ℕ Claim
  /-- The recorded ranks, in the order of the commits. -/
  recorded : List Recorded

/-- `INSERT OR IGNORE INTO lane_challenge_solves`; `none` while it waits. -/
def insertSolve (db : SolveDb) (tx : ℕ) (c : Claim) : Option (SolveDb × Bool) :=
  db.insertIgnore tx c.pair c.solvedAt

/-- The rest of `claim_solve`: `None` unless a row was inserted, else the count. -/
def countSolves (db : SolveDb) (tx : ℕ) (c : Claim) (fresh : Bool) : Option ℕ :=
  if fresh then some (db.countWhere tx fun pair _ => pair.1 = c.challengeId) else none

def Claim.at (c : Claim) (phase : Phase) : Claim := { c with phase := phase }

/-- What a claim records when it commits. -/
def Claim.record (c : Claim) : List Recorded :=
  match c.phase with
  | .answered (some rank) => [⟨c.challengeId, c.minerHotkey, rank⟩]
  | _ => []

/-- The open transactions without one. -/
def ended (claims : Dict ℕ Claim) (tx : ℕ) : Dict ℕ Claim :=
  claims.filterItems fun other _ => other ≠ tx

inductive Action where
  | begin (tx : ℕ) (challengeId minerHotkey : String) (solvedAt : Millis)
  | lock (tx : ℕ)
  | insert (tx : ℕ)
  | answer (tx : ℕ) (rank : Option ℕ)
  | commit (tx : ℕ)
  | rollback (tx : ℕ)

/-- One statement of one transaction. -/
inductive Step (s : Isolation) : World → Action → World → Prop where
  | begin {w : World} {tx : ℕ} {challengeId minerHotkey : String} {solvedAt : Millis} :
      w.claims.get? tx = none → (s.serialised = true → w.claims = Dict.empty) →
      Step s w (.begin tx challengeId minerHotkey solvedAt)
        { w with
          db := w.db.begin tx
          claims := w.claims.set tx ⟨challengeId, minerHotkey, solvedAt, .begun⟩ }
  /-- `UPDATE lane_challenges … WHERE challenge_id = ? AND status = 'active'`. -/
  | lock {w : World} {tx : ℕ} {c : Claim} {db : SolveDb} :
      w.claims.get? tx = some c → c.phase = .begun → w.db.lock tx c.challengeId = some db →
      Step s w (.lock tx) { w with db := db, claims := w.claims.set tx (c.at .locked) }
  | insert {w : World} {tx : ℕ} {c : Claim} {db : SolveDb} {fresh : Bool} :
      w.claims.get? tx = some c → c.phase = (if s.rowLock then .locked else .begun) →
      insertSolve w.db tx c = some (db, fresh) →
      Step s w (.insert tx) { w with db := db, claims := w.claims.set tx (c.at (.inserted fresh)) }
  | answer {w : World} {tx : ℕ} {c : Claim} {fresh : Bool} {rank : Option ℕ} :
      w.claims.get? tx = some c → c.phase = .inserted fresh →
      countSolves w.db tx c fresh = rank →
      Step s w (.answer tx rank) { w with claims := w.claims.set tx (c.at (.answered rank)) }
  | commit {w : World} {tx : ℕ} {c : Claim} {rank : Option ℕ} :
      w.claims.get? tx = some c → c.phase = .answered rank →
      Step s w (.commit tx)
        { db := w.db.commit tx
          claims := ended w.claims tx
          recorded := w.recorded ++ c.record }
  /-- The challenge is not active, or an exception anywhere. -/
  | rollback {w : World} {tx : ℕ} :
      Step s w (.rollback tx) { w with db := w.db.abort tx, claims := ended w.claims tx }

/-- No solve and no open transaction. -/
def start : World := ⟨⟨Dict.empty, Dict.empty⟩, Dict.empty, []⟩

/-! ## The invariant -/

variable {s : Isolation} {w w' : World} {tx tx' : ℕ} {c c' : Claim}

/-- The row an open claim has inserted. -/
def Claim.rows (c : Claim) : List ((String × String) × Millis) :=
  match c.phase with
  | .inserted true | .answered (some _) => [(c.pair, c.solvedAt)]
  | _ => []

/-- The ranks recorded for a challenge, in the order of the commits. -/
def ranksOf (recorded : List Recorded) (challengeId : String) : List ℕ :=
  (recorded.filter (·.challengeId = challengeId)).map Recorded.rank

/-- What a session is to its claim. -/
structure Owned (s : Isolation) (c : Claim) (σ : Session (String × String) Millis String) :
    Prop where
  rows : σ.inserted = c.rows
  lock : s.rowLock = true → c.phase ≠ .begun → c.challengeId ∈ σ.locks

structure Inv (s : Isolation) (w : World) : Prop where
  valid : w.db.Valid
  opened : ∀ tx c, w.claims.get? tx = some c → ∃ σ, w.db.sessions.get? tx = some σ ∧ Owned s c σ
  single : s.serialised = true → ∀ tx tx' c c', w.claims.get? tx = some c →
    w.claims.get? tx' = some c' → tx = tx'
  table : w.db.committed.keys = w.recorded.map Recorded.pair
  repeated : ∀ tx c, w.claims.get? tx = some c → c.phase = .inserted false ∨ c.phase = .answered none →
    w.db.committed.get? c.pair ≠ none
  next : ∀ tx c rank, w.claims.get? tx = some c → c.phase = .answered (some rank) →
    rank = (ranksOf w.recorded c.challengeId).length + 1
  ranks : ∀ challengeId, ranksOf w.recorded challengeId =
    List.range' 1 (ranksOf w.recorded challengeId).length

theorem inv_start : Inv s start := by
  constructor
  · exact Db.valid_empty
  · intro tx c hget
    cases hget
  · intro _ tx tx' c c' hget
    cases hget
  · rfl
  · intro tx c hget
    cases hget
  · intro tx c rank hget
    cases hget
  · intro challengeId
    rfl

/-- No two open transactions are past the gate of one challenge. -/
theorem exclusive (hmode : s.serialised = true ∨ s.rowLock = true) (h : Inv s w)
    (hget : w.claims.get? tx = some c) (hget' : w.claims.get? tx' = some c') (hne : tx ≠ tx')
    (hphase : c.phase ≠ .begun) (hphase' : c'.phase ≠ .begun) :
    c.challengeId ≠ c'.challengeId := by
  intro heq
  rcases hmode with hserial | hlock
  · exact hne (h.single hserial tx tx' c c' hget hget')
  · obtain ⟨σ, hσ, howned⟩ := h.opened tx c hget
    obtain ⟨σ', hσ', howned'⟩ := h.opened tx' c' hget'
    have hheld := howned.lock hlock hphase
    have hheld' := howned'.lock hlock hphase'
    rw [heq] at hheld
    exact h.valid.holder tx tx' σ σ' hne hσ hσ' _ hheld hheld'

/-- A statement of one transaction that commits nothing: what its claim needs. -/
theorem inv_own {db : SolveDb} {σ : Session (String × String) Millis String} (h : Inv s w)
    (hvalid : db.Valid) (hcommitted : db.committed = w.db.committed)
    (hsession : db.sessions.get? tx = some σ)
    (hothers : ∀ u, u ≠ tx → db.sessions.get? u = w.db.sessions.get? u)
    (howned : Owned s c σ)
    (hsingle : s.serialised = true → ∀ u r, w.claims.get? u = some r → u = tx)
    (hrepeated : c.phase = .inserted false ∨ c.phase = .answered none →
      w.db.committed.get? c.pair ≠ none)
    (hnext : ∀ rank, c.phase = .answered (some rank) →
      rank = (ranksOf w.recorded c.challengeId).length + 1) :
    Inv s { w with db := db, claims := w.claims.set tx c } := by
  have hcase : ∀ {u : ℕ} {r : Claim}, (w.claims.set tx c).get? u = some r →
      (u = tx ∧ r = c) ∨ (u ≠ tx ∧ w.claims.get? u = some r) := by
    intro u r hu
    rw [Dict.get?_set] at hu
    split at hu
    · next heq => exact Or.inl ⟨heq.symm, (Option.some.inj hu).symm⟩
    · next hne => exact Or.inr ⟨Ne.symm hne, hu⟩
  constructor
  · exact hvalid
  · intro u r hu
    rcases hcase hu with ⟨rfl, rfl⟩ | ⟨hne, hold⟩
    · exact ⟨σ, hsession, howned⟩
    · obtain ⟨σ', hσ', howned'⟩ := h.opened u r hold
      exact ⟨σ', (hothers u hne).trans hσ', howned'⟩
  · intro hserial u u' r r' hu hu'
    have hall : ∀ {v : ℕ} {q : Claim}, (w.claims.set tx c).get? v = some q → v = tx := by
      intro v q hv
      rcases hcase hv with ⟨rfl, -⟩ | ⟨-, hold⟩
      · rfl
      · exact hsingle hserial v q hold
    rw [hall hu, hall hu']
  · change db.committed.keys = _
    rw [hcommitted]
    exact h.table
  · intro u r hu hphase
    change db.committed.get? r.pair ≠ none
    rw [hcommitted]
    rcases hcase hu with ⟨-, rfl⟩ | ⟨-, hold⟩
    · exact hrepeated hphase
    · exact h.repeated u r hold hphase
  · intro u r rank hu hphase
    rcases hcase hu with ⟨-, rfl⟩ | ⟨-, hold⟩
    · exact hnext rank hphase
    · exact h.next u r rank hold hphase
  · exact h.ranks

/-- A claim that is the only one on SQLite stays the only one. -/
theorem single_of_open (h : Inv s w) (hget : w.claims.get? tx = some c) :
    s.serialised = true → ∀ u r, w.claims.get? u = some r → u = tx :=
  fun hserial u r hu => h.single hserial u tx r c hu hget

theorem get?_setSession_self (db : SolveDb) (σ : Session (String × String) Millis String) :
    (db.setSession tx σ).sessions.get? tx = some σ := Dict.get?_set_self _ _ _

theorem get?_setSession_ne (db : SolveDb) (σ : Session (String × String) Millis String) (u : ℕ)
    (hu : u ≠ tx) : (db.setSession tx σ).sessions.get? u = db.sessions.get? u :=
  Dict.get?_set_ne _ _ (Ne.symm hu)

/-! ## Statements -/

theorem inv_begin {challengeId minerHotkey : String} {solvedAt : Millis} (h : Inv s w)
    (hserial : s.serialised = true → w.claims = Dict.empty) :
    Inv s { w with
      db := w.db.begin tx
      claims := w.claims.set tx ⟨challengeId, minerHotkey, solvedAt, .begun⟩ } := by
  refine inv_own h (Db.valid_begin h.valid) rfl (get?_setSession_self _ _)
    (get?_setSession_ne _ _) ⟨rfl, ?_⟩ ?_ ?_ ?_
  · intro _ hphase
    exact absurd rfl hphase
  · intro hs u r hu
    rw [hserial hs] at hu
    cases hu
  · rintro (hphase | hphase) <;> cases hphase
  · intro rank hphase
    cases hphase

theorem inv_lock {db : SolveDb} (h : Inv s w) (hget : w.claims.get? tx = some c)
    (hphase : c.phase = .begun) (hlock : w.db.lock tx c.challengeId = some db) :
    Inv s { w with db := db, claims := w.claims.set tx (c.at .locked) } := by
  obtain ⟨σ, hσ, howned⟩ := h.opened tx c hget
  have hvalid := Db.valid_lock h.valid hσ hlock
  obtain ⟨-, rfl⟩ := Db.lock_eq_some hlock
  rw [Db.session_eq hσ] at hvalid ⊢
  have hrows : c.rows = [] := by rw [Claim.rows, hphase]
  refine inv_own h hvalid rfl (get?_setSession_self _ _) (get?_setSession_ne _ _) ⟨?_, ?_⟩
    (single_of_open h hget) ?_ ?_
  · rw [Session.addLock_inserted, howned.rows, hrows]
    rfl
  · intro _ _
    exact List.mem_cons_self
  · rintro (hphase | hphase) <;> cases hphase
  · intro rank hphase
    cases hphase

theorem inv_insert {db : SolveDb} {fresh : Bool} (h : Inv s w) (hget : w.claims.get? tx = some c)
    (hphase : c.phase = if s.rowLock then .locked else .begun)
    (hinsert : insertSolve w.db tx c = some (db, fresh)) :
    Inv s { w with db := db, claims := w.claims.set tx (c.at (.inserted fresh)) } := by
  obtain ⟨σ, hσ, howned⟩ := h.opened tx c hget
  have hvalid := Db.valid_insertIgnore h.valid hσ hinsert
  have hempty : σ.inserted = [] := by
    rw [howned.rows, Claim.rows, hphase]
    cases s.rowLock <;> rfl
  have hlock : s.rowLock = true → c.challengeId ∈ σ.locks := by
    intro hrow
    refine howned.lock hrow ?_
    rw [hphase, if_pos hrow]
    simp
  have hnext : ∀ rank, (c.at (.inserted fresh)).phase = .answered (some rank) →
      rank = (ranksOf w.recorded c.challengeId).length + 1 := by
    intro rank hanswered
    cases hanswered
  rcases Db.insertIgnore_eq_some hinsert with ⟨rfl, rfl, htaken⟩ | ⟨rfl, -, -, -, rfl⟩
  · -- the pair was taken; not by this transaction, which has inserted nothing
    refine inv_own h hvalid rfl hσ (fun _ _ => rfl) ⟨hempty, fun hrow _ => hlock hrow⟩
      (single_of_open h hget) (fun _ => ?_) hnext
    rcases htaken with hcommitted | ⟨row, hrow, -⟩
    · exact hcommitted
    · rw [Db.session_eq hσ, hempty] at hrow
      cases hrow
  · rw [Db.session_eq hσ] at hvalid ⊢
    refine inv_own h hvalid rfl (get?_setSession_self _ _) (get?_setSession_ne _ _) ⟨?_, ?_⟩
      (single_of_open h hget) ?_ hnext
    · rw [Session.addRow_inserted, hempty]
      rfl
    · exact fun hrow _ => hlock hrow
    · rintro (hphase | hphase) <;> cases hphase

/-- The committed solves of a challenge are its recorded ranks. -/
theorem count_committed (h : Inv s w) (challengeId : String) :
    w.db.committed.count (fun pair _ => pair.1 = challengeId) =
      (ranksOf w.recorded challengeId).length := by
  have hkeys : w.db.committed.count (fun pair _ => pair.1 = challengeId) =
      w.db.committed.keys.countP fun pair => pair.1 = challengeId := by
    rw [Dict.count, Dict.keys, List.countP_map]
    rfl
  rw [hkeys, h.table, List.countP_map, ranksOf, List.length_map, List.countP_eq_length_filter]
  rfl

theorem inv_answer {fresh : Bool} (h : Inv s w) (hget : w.claims.get? tx = some c)
    (hphase : c.phase = .inserted fresh) :
    Inv s { w with
      claims := w.claims.set tx (c.at (.answered (countSolves w.db tx c fresh))) } := by
  obtain ⟨σ, hσ, howned⟩ := h.opened tx c hget
  have hrows := howned.rows
  have hlock : s.rowLock = true → c.challengeId ∈ σ.locks := fun hrow =>
    howned.lock hrow (by rw [hphase]; simp)
  rw [Claim.rows, hphase] at hrows
  cases fresh with
  | false =>
    refine inv_own h h.valid rfl hσ (fun _ _ => rfl) ⟨hrows, fun hrow _ => hlock hrow⟩
      (single_of_open h hget) (fun _ => h.repeated tx c hget (Or.inl hphase)) ?_
    intro rank hanswered
    cases hanswered
  | true =>
    refine inv_own h h.valid rfl hσ (fun _ _ => rfl) ⟨hrows, fun hrow _ => hlock hrow⟩
      (single_of_open h hget) ?_ ?_
    · rintro (hanswered | hanswered) <;> cases hanswered
    · -- the count is of the committed rows and the one just inserted
      intro rank hanswered
      have hcount : w.db.countWhere tx (fun pair _ => pair.1 = c.challengeId) = rank := by
        simpa [Claim.at, countSolves] using hanswered
      rw [← hcount, Db.countWhere, count_committed h, Db.session_eq hσ, hrows]
      simp [Claim.pair, Claim.at]

theorem get?_claims_ended {claims : Dict ℕ Claim} (hget : (ended claims tx).get? tx' = some c) :
    tx' ≠ tx ∧ claims.get? tx' = some c := by
  rw [ended, Dict.get?_filterItems, Option.filter_eq_some_iff] at hget
  exact ⟨by simpa using hget.2, hget.1⟩

theorem get?_sessions_abort (hne : tx' ≠ tx) :
    (w.db.abort tx).sessions.get? tx' = w.db.sessions.get? tx' := by
  rw [Db.abort, Db.get?_ended, if_neg hne]

theorem inv_rollback (h : Inv s w) :
    Inv s { w with db := w.db.abort tx, claims := ended w.claims tx } := by
  constructor
  · exact Db.valid_abort h.valid
  · intro u r hu
    obtain ⟨hne, hold⟩ := get?_claims_ended hu
    obtain ⟨σ, hσ, howned⟩ := h.opened u r hold
    exact ⟨σ, (get?_sessions_abort hne).trans hσ, howned⟩
  · intro hserial u u' r r' hu hu'
    exact h.single hserial u u' r r' (get?_claims_ended hu).2 (get?_claims_ended hu').2
  · exact h.table
  · exact fun u r hu => h.repeated u r (get?_claims_ended hu).2
  · exact fun u r rank hu => h.next u r rank (get?_claims_ended hu).2
  · exact h.ranks

/-- What an answered claim writes and what it records have the same pairs. -/
theorem rows_record {rank : Option ℕ} (hphase : c.phase = .answered rank) :
    c.rows.map Prod.fst = c.record.map Recorded.pair := by
  cases rank <;> simp [Claim.rows, Claim.record, hphase, Claim.pair, Recorded.pair]

theorem ranksOf_append (recorded more : List Recorded) (challengeId : String) :
    ranksOf (recorded ++ more) challengeId = ranksOf recorded challengeId ++ ranksOf more challengeId := by
  rw [ranksOf, List.filter_append, List.map_append]
  rfl

theorem ranksOf_record_ne {challengeId : String} (hne : c.challengeId ≠ challengeId) :
    ranksOf c.record challengeId = [] := by
  unfold Claim.record
  split <;> simp [ranksOf, hne]

theorem inv_commit {rank : Option ℕ} (hmode : s.serialised = true ∨ s.rowLock = true)
    (h : Inv s w) (hget : w.claims.get? tx = some c) (hphase : c.phase = .answered rank) :
    Inv s { db := w.db.commit tx, claims := ended w.claims tx, recorded := w.recorded ++ c.record } := by
  obtain ⟨σ, hσ, howned⟩ := h.opened tx c hget
  have hpast : c.phase ≠ .begun := by
    rw [hphase]
    simp
  constructor
  · exact Db.valid_commit h.valid hσ
  · intro u r hu
    obtain ⟨hne, hold⟩ := get?_claims_ended hu
    obtain ⟨σ', hσ', howned'⟩ := h.opened u r hold
    exact ⟨σ', (get?_sessions_abort hne).trans hσ', howned'⟩
  · intro hserial u u' r r' hu hu'
    exact h.single hserial u u' r r' (get?_claims_ended hu).2 (get?_claims_ended hu').2
  · change (w.db.commit tx).committed.keys = _
    rw [Dict.keys, Db.items_commit h.valid hσ, List.map_append, howned.rows, rows_record hphase,
      List.map_append, ← h.table]
    rfl
  · intro u r hu hrepeated
    have hbefore := h.repeated u r (get?_claims_ended hu).2 hrepeated
    exact fun hnone => hbefore ((Db.get?_commit_eq_none h.valid hσ).mp hnone).1
  · -- another answered claim is on another challenge, where nothing was recorded
    intro u r n hu hanswered
    obtain ⟨hne, hold⟩ := get?_claims_ended hu
    have hpast' : r.phase ≠ .begun := by
      rw [hanswered]
      simp
    have hother := exclusive hmode h hget hold (Ne.symm hne) hpast hpast'
    rw [ranksOf_append, ranksOf_record_ne hother, List.append_nil]
    exact h.next u r n hold hanswered
  · intro challengeId
    rw [ranksOf_append]
    by_cases hch : c.challengeId = challengeId
    · subst hch
      cases rank with
      | none => simpa [Claim.record, hphase, ranksOf] using h.ranks c.challengeId
      | some n =>
        have hn := h.next tx c n hget hphase
        have hrecord : ranksOf c.record c.challengeId = [n] := by
          simp [Claim.record, hphase, ranksOf]
        rw [hrecord, List.length_append, List.length_singleton, List.range'_concat,
          ← h.ranks c.challengeId, hn]
        simp [Nat.add_comm]
    · rw [ranksOf_record_ne hch, List.append_nil]
      exact h.ranks challengeId

theorem inv_step {action : Action} (hmode : s.serialised = true ∨ s.rowLock = true) (h : Inv s w)
    (hs : Step s w action w') : Inv s w' := by
  cases hs with
  | begin _ hserial => exact inv_begin h hserial
  | lock hget hphase hlock => exact inv_lock h hget hphase hlock
  | insert hget hphase hinsert => exact inv_insert h hget hphase hinsert
  | answer hget hphase hanswer => exact hanswer ▸ inv_answer h hget hphase
  | commit hget hphase => exact inv_commit hmode h hget hphase
  | rollback => exact inv_rollback h

theorem inv_run {actions : List Action} (hmode : s.serialised = true ∨ s.rowLock = true)
    (h : Run (Step s) start actions w) : Inv s w :=
  Run.invariant inv_start (fun _ _ _ hinv hs => inv_step hmode hinv hs) h

/-! ## Ranks -/

/-- The recorded ranks of each challenge are `1, …, k` in the order of the commits, and
no hotkey has two. -/
structure RanksInOrder (w : World) : Prop where
  ranks : ∀ challengeId, ranksOf w.recorded challengeId =
    List.range' 1 (ranksOf w.recorded challengeId).length
  once : ∀ challengeId,
    ((w.recorded.filter (·.challengeId = challengeId)).map Recorded.minerHotkey).Nodup

/-- A claim of a recorded pair gets no rank, and what has no rank records nothing. -/
structure RepeatsUnranked (s : Isolation) (w : World) : Prop where
  unranked : ∀ tx c rank w', w.claims.get? tx = some c → c.pair ∈ w.recorded.map Recorded.pair →
    Step s w (.answer tx rank) w' → rank = none
  unrecorded : ∀ tx c w', w.claims.get? tx = some c → c.phase = .answered none →
    Step s w (.commit tx) w' → w'.recorded = w.recorded ∧ w'.db.committed = w.db.committed

theorem ranksInOrder_of_inv (h : Inv s w) : RanksInOrder w := by
  refine ⟨h.ranks, ?_⟩
  intro challengeId
  have hpairs : (w.recorded.map Recorded.pair).Nodup := h.table ▸ w.db.committed.nodup
  -- among the pairs of one challenge the hotkeys differ
  have hfilter : ((w.recorded.filter (·.challengeId = challengeId)).map Recorded.pair).Nodup :=
    hpairs.sublist (List.filter_sublist.map _)
  rw [List.Nodup, List.pairwise_map] at hfilter ⊢
  refine hfilter.imp_of_mem ?_
  intro a b ha hb hne heq
  have hcha : a.challengeId = challengeId := by simpa using (List.mem_filter.mp ha).2
  have hchb : b.challengeId = challengeId := by simpa using (List.mem_filter.mp hb).2
  exact hne (Prod.ext (hcha.trans hchb.symm) heq)

/-- An inserted row is not there yet for the others. -/
theorem free_of_rows (h : Inv s w) (hget : w.claims.get? tx = some c)
    (hrows : c.rows = [(c.pair, c.solvedAt)]) : w.db.committed.get? c.pair = none := by
  obtain ⟨σ, hσ, howned⟩ := h.opened tx c hget
  exact h.valid.free tx σ hσ _ (by rw [howned.rows, hrows]; exact List.mem_singleton_self _)

theorem committed_of_no_rows (h : Inv s w) (hget : w.claims.get? tx = some c)
    (hrows : c.rows = []) : (w.db.commit tx).committed = w.db.committed := by
  obtain ⟨σ, hσ, howned⟩ := h.opened tx c hget
  ext1
  rw [Db.items_commit h.valid hσ, howned.rows, hrows, List.append_nil]

theorem repeatsUnranked_of_inv (h : Inv s w) : RepeatsUnranked s w := by
  constructor
  · intro tx c rank w' hget hmem hs
    cases hs with
    | @answer _ c' fresh _ hget' hphase hanswer =>
      rw [hget, Option.some.injEq] at hget'
      subst hget'
      cases fresh with
      | false => exact hanswer.symm
      | true =>
        have hfree := free_of_rows h hget (by rw [Claim.rows, hphase])
        rw [Dict.get?_eq_none, h.table] at hfree
        exact absurd hmem hfree
  · intro tx c w' hget hphase hs
    cases hs with
    | @commit _ c' rank hget' _ =>
      rw [hget, Option.some.injEq] at hget'
      subst hget'
      constructor
      · simp [Claim.record, hphase]
      · exact committed_of_no_rows h hget (by rw [Claim.rows, hphase])

/-- Ranks are given in the order of the commits, on SQLite and under the row lock. -/
theorem ranks_in_commit_order {actions : List Action}
    (hmode : s.serialised = true ∨ s.rowLock = true) (h : Run (Step s) start actions w) :
    RanksInOrder w ∧ RepeatsUnranked s w :=
  ⟨ranksInOrder_of_inv (inv_run hmode h), repeatsUnranked_of_inv (inv_run hmode h)⟩

/-! ## Short histories -/

/-- A statement that runs, as a function. -/
def next (s : Isolation) (w : World) : Action → Option World
  | .begin tx challengeId minerHotkey solvedAt =>
    if w.claims.get? tx = none ∧ (s.serialised = true → w.claims.items = []) then
      some { w with
        db := w.db.begin tx
        claims := w.claims.set tx ⟨challengeId, minerHotkey, solvedAt, .begun⟩ }
    else none
  | .lock tx => do
    let c ← w.claims.get? tx
    let db ← w.db.lock tx c.challengeId
    if c.phase = .begun then some { w with db := db, claims := w.claims.set tx (c.at .locked) }
    else none
  | .insert tx => do
    let c ← w.claims.get? tx
    let (db, fresh) ← insertSolve w.db tx c
    if c.phase = (if s.rowLock then .locked else .begun) then
      some { w with db := db, claims := w.claims.set tx (c.at (.inserted fresh)) }
    else none
  | .answer tx rank => do
    let c ← w.claims.get? tx
    match c.phase with
    | .inserted fresh =>
      if countSolves w.db tx c fresh = rank then
        some { w with claims := w.claims.set tx (c.at (.answered rank)) }
      else none
    | _ => none
  | .commit tx => do
    let c ← w.claims.get? tx
    match c.phase with
    | .answered _ =>
      some {
        db := w.db.commit tx
        claims := ended w.claims tx
        recorded := w.recorded ++ c.record }
    | _ => none
  | .rollback tx => some { w with db := w.db.abort tx, claims := ended w.claims tx }

theorem next_sound (w : World) (action : Action) (w' : World) (h : next s w action = some w') :
    Step s w action w' := by
  cases action with
  | begin tx challengeId minerHotkey solvedAt =>
    simp only [next] at h
    split at h
    · next hopen =>
        rw [Option.some.injEq] at h
        subst h
        exact .begin hopen.1 fun hserial => Dict.ext (hopen.2 hserial)
    · cases h
  | lock tx =>
    simp only [next, Option.bind_eq_bind, Option.bind_eq_some_iff] at h
    obtain ⟨c, hget, db, hlock, h⟩ := h
    split at h
    · next hphase =>
        rw [Option.some.injEq] at h
        subst h
        exact .lock hget hphase hlock
    · cases h
  | insert tx =>
    simp only [next, Option.bind_eq_bind, Option.bind_eq_some_iff] at h
    obtain ⟨c, hget, ⟨db, fresh⟩, hinsert, h⟩ := h
    by_cases hphase : c.phase = if s.rowLock then .locked else .begun
    · rw [if_pos hphase, Option.some.injEq] at h
      subst h
      exact .insert hget hphase hinsert
    · rw [if_neg hphase] at h
      cases h
  | answer tx rank =>
    simp only [next, Option.bind_eq_bind, Option.bind_eq_some_iff] at h
    obtain ⟨c, hget, h⟩ := h
    split at h
    · next fresh hphase =>
        split at h
        · next hanswer =>
            rw [Option.some.injEq] at h
            subst h
            exact .answer hget hphase hanswer
        · cases h
    · cases h
  | commit tx =>
    simp only [next, Option.bind_eq_bind, Option.bind_eq_some_iff] at h
    obtain ⟨c, hget, h⟩ := h
    split at h
    · next rank hphase =>
        rw [Option.some.injEq] at h
        subst h
        exact .commit hget hphase
    · cases h
  | rollback tx =>
    simp only [next, Option.some.injEq] at h
    subst h
    exact .rollback

/-- Two claims under the row lock: the second waits, and gets the second rank. -/
def lockedClaims : List Action :=
  [.begin 0 "challenge" "a" 0, .begin 1 "challenge" "b" 0, .lock 0, .insert 0, .answer 0 (some 1),
    .commit 0, .lock 1, .insert 1, .answer 1 (some 2), .commit 1]

theorem lockedClaims_ranked : ∃ w, ranksOf w.recorded "challenge" = [1, 2] ∧
    RanksInOrder w ∧ RepeatsUnranked ⟨false, true⟩ w := by
  obtain ⟨w, hrun, hranks⟩ := Run.exists_of_any (s := start) (r := lockedClaims)
    (next_sound (s := ⟨false, true⟩))
    (p := fun w => ranksOf w.recorded "challenge" = [1, 2]) (by decide)
  exact ⟨w, by simpa using hranks, ranks_in_commit_order (Or.inr rfl) hrun⟩

/-- A hotkey that claims a solved challenge again. -/
def repeatedClaim : List Action :=
  [.begin 0 "challenge" "a" 0, .insert 0, .answer 0 (some 1), .commit 0,
    .begin 1 "challenge" "a" 0, .insert 1]

/-- Two claims that overlap, without the row lock. -/
def overlappingClaims : List Action :=
  [.begin 0 "challenge" "a" 0, .begin 1 "challenge" "b" 0, .insert 0, .insert 1,
    .answer 0 (some 1), .answer 1 (some 1), .commit 0, .commit 1]

/-- A repeated claim does not return the rank first given, also on SQLite; and bare
claims that overlap on Postgres both get the first rank. -/
theorem unlocked_claims_collide :
    (¬ ∀ actions w tx c rank w' r, Run (Step ⟨true, false⟩) start actions w →
      w.claims.get? tx = some c → r ∈ w.recorded → r.pair = c.pair →
      Step ⟨true, false⟩ w (.answer tx rank) w' → rank = some r.rank) ∧
    ¬ ∀ actions w, Run (Step ⟨false, false⟩) start actions w → RanksInOrder w := by
  constructor
  · intro h
    obtain ⟨w, hrun, hw⟩ := Run.exists_of_any (s := start) (r := repeatedClaim)
      (next_sound (s := ⟨true, false⟩))
      (p := fun w => w.claims.get? 1 = some ⟨"challenge", "a", 0, .inserted false⟩ &&
        decide (w.recorded = [⟨"challenge", "a", 1⟩])) (by decide)
    rw [Bool.and_eq_true, decide_eq_true_eq, decide_eq_true_eq] at hw
    obtain ⟨hget, hrecorded⟩ := hw
    have hrank := h repeatedClaim w 1 _ none _ ⟨"challenge", "a", 1⟩ hrun hget
      (by rw [hrecorded]; exact List.mem_singleton_self _) rfl (.answer hget rfl rfl)
    cases hrank
  · intro h
    obtain ⟨w, hrun, hw⟩ := Run.exists_of_any (s := start) (r := overlappingClaims)
      (next_sound (s := ⟨false, false⟩))
      (p := fun w => ranksOf w.recorded "challenge" = [1, 1]) (by decide)
    have hranks := (h overlappingClaims w hrun).ranks "challenge"
    rw [decide_eq_true_eq] at hw
    rw [hw] at hranks
    cases hranks

end Cathedral.Publisher.ClaimSolve
