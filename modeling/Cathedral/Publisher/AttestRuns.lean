import Cathedral.Lib.Once
import Cathedral.Publisher.Attest

/-!
# Cathedral.Publisher.AttestRuns — attestations that overlap

`verify_attestation` reads the nonce, the eval row and the solvers one after another, and only
its write is a transaction. Whatever happens in between, no eval row is upgraded twice
(`upgraded_once`), and a nonce that an upgrade has spent opens no further call
(`spent_before_read`). Retention, which deletes old eval rows, is left out.
-/

namespace Cathedral.Publisher.Attest

open Arena (Members)
open ArenaIntake (SolverRow)

/-! ## Steps -/

inductive Call where
  | checked (v : Checked)
  | matched (m : Matched)
  | rescored (m : Matched) (row : Members)

def Call.nonce : Call → PyStr
  | .checked v => v.claimed.nonce
  | .matched m | .rescored m _ => m.claimed.nonce

/-- The tables, and the calls as far as they have got. A call that goes on also stays where it
was, and may be repeated from there. -/
structure State where
  tables : Tables
  calls : List Call

inductive Action where
  | issueNonce (nonce : PyStr) (row : NonceRow)
  | insertRun (id rowJson : PyStr)
  | registerSolvers (solvers : Dict PyStr SolverRow)
  | readNonce (request : Request) (now : UtcTime) (v : Checked)
  | readRun (v : Checked) (m : Matched)
  | readOwner (m : Matched) (row : Members)
  | upgrade (m : Matched) (row : Members) (attId : PyStr) (now : UtcTime)

/-- The steps of the publisher; a call that is refused changes nothing. -/
inductive Step (H : Host) (s : State) : Action → State → Prop where
  | issueNonce {nonce : PyStr} {row : NonceRow} (h : row.usedAtIso = none) :
      Step H s (.issueNonce nonce row)
        { s with tables.nonces := (s.tables.nonces.insertIgnore nonce row).1 }
  | insertRun {id rowJson : PyStr} : Step H s (.insertRun id rowJson)
      { s with tables.evalRuns := (s.tables.evalRuns.insertIgnore id ⟨rowJson, 0⟩).1 }
  | registerSolvers {solvers : Dict PyStr SolverRow} : Step H s (.registerSolvers solvers)
      { s with tables.solvers := solvers }
  | readNonce {request : Request} {now : UtcTime} {v : Checked}
      (h : readNonce H s.tables request now = .ok v) :
      Step H s (.readNonce request now v) { s with calls := .checked v :: s.calls }
  | readRun {v : Checked} {m : Matched} (hcall : .checked v ∈ s.calls)
      (h : readRun H s.tables v = .ok m) :
      Step H s (.readRun v m) { s with calls := .matched m :: s.calls }
  | readOwner {m : Matched} {row : Members} (hcall : .matched m ∈ s.calls)
      (h : readOwner H s.tables m = .ok row) :
      Step H s (.readOwner m row) { s with calls := .rescored m row :: s.calls }
  | upgrade {m : Matched} {row : Members} {attId : PyStr} {now : UtcTime} {T : Tables}
      (hcall : .rescored m row ∈ s.calls) (h : upgrade H s.tables m row attId now = some T) :
      Step H s (.upgrade m row attId now) { s with tables := T }

def Action.upgraded : Action → Option PyStr
  | .upgrade m _ _ _ => some m.runId
  | _ => none

def Action.spent : Action → Option PyStr
  | .upgrade m _ _ _ => some m.claimed.nonce
  | _ => none

/-- The nonce that a step finds unused. -/
def Action.read : Action → Option PyStr
  | .readNonce _ _ v => some v.claimed.nonce
  | _ => none

/-- The first step does not spend the nonce that the second one finds unused. -/
def Apart (a b : Action) : Prop := ∀ nonce ∈ a.spent, b.read ≠ some nonce

section Runs

variable {H : Host} {T T' : Tables} {s t u : State} {a : Action} {ls : List Action}

/-! ## Eval rows -/

def Attested (s : State) (id : PyStr) : Prop :=
  ∃ run, s.tables.evalRuns.get? id = some run ∧ run.attested ≠ 0

theorem upgrade_eq_some {m : Matched} {row : Members} {attId : PyStr} {now : UtcTime}
    (h : upgrade H T m row attId now = some T') :
    (∃ run, T.evalRuns.get? m.runId = some run ∧ run.attested = 0) ∧
      T'.evalRuns = T.evalRuns.set m.runId ⟨dumps H row, 1⟩ ∧
      T'.nonces = T.nonces.modify m.claimed.nonce fun nrow =>
        { nrow with usedAtIso := some (H.iso now) } := by
  unfold upgrade at h
  split at h
  · cases h
  · rename_i run hrun
    by_cases hzero : run.attested = 0
    · rw [if_pos hzero] at h
      cases h
      exact ⟨⟨run, hrun, hzero⟩, rfl, rfl⟩
    · rw [if_neg hzero] at h
      cases h

/-- A step upgrades a row that was not upgraded, and none goes back. -/
theorem Step.uses (h : Step H s a u) :
    Once.StepUses Action.upgraded Attested s a u := by
  cases h with
  | insertRun =>
    refine ⟨nofun, ?_⟩
    rintro k ⟨run, hrun, hattested⟩
    exact ⟨run, Dict.get?_insertIgnore_of_some _ hrun, hattested⟩
  | @upgrade m row attId now T' _ hupgrade =>
    -- the write tests `attested = 0` again, whatever the call has read
    obtain ⟨⟨run, hrun, hzero⟩, hruns, -⟩ := upgrade_eq_some hupgrade
    have hafter : Attested { s with tables := T' } m.runId :=
      ⟨⟨dumps H row, 1⟩, by rw [hruns, Dict.get?_set_self], one_ne_zero⟩
    refine ⟨?_, ?_⟩
    · rintro k hk
      cases hk
      refine ⟨?_, hafter⟩
      rintro ⟨run', hrun', hattested⟩
      cases hrun.symm.trans hrun'
      exact hattested hzero
    · rintro k ⟨run', hrun', hattested⟩
      by_cases hk : m.runId = k
      · exact hk ▸ hafter
      · exact ⟨run', by rw [hruns, Dict.get?_set_ne _ _ hk, hrun'], hattested⟩
  | _ => exact ⟨nofun, fun k hk => hk⟩

/-- In every interleaving, each eval row is upgraded at most once, and none that was upgraded
before. -/
theorem upgraded_once (h : Run (Step H) s ls t) :
    (ls.filterMap Action.upgraded).Nodup ∧ ∀ id ∈ ls.filterMap Action.upgraded, ¬ Attested s id :=
  Once.nodup_uses (fun _ _ _ => Step.uses) h

/-! ## Nonces -/

def Spent (s : State) (nonce : PyStr) : Prop :=
  ∃ nrow, s.tables.nonces.get? nonce = some nrow ∧ nrow.usedAtIso ≠ none

def Known (s : State) : Prop := ∀ c ∈ s.calls, s.tables.nonces.get? c.nonce ≠ none

theorem readNonce_unused {request : Request} {now : UtcTime} {v : Checked}
    (h : readNonce H T request now = .ok v) :
    ∃ nrow, T.nonces.get? v.claimed.nonce = some nrow ∧ nrow.usedAtIso = none := by
  unfold readNonce at h
  obtain ⟨⟨quote, c⟩, -, h⟩ := bind_eq_ok.mp h
  obtain ⟨nrow, hnonce, h⟩ := bind_eq_ok.mp h
  obtain ⟨_, -, h⟩ := bind_eq_ok.mp h
  cases h
  unfold checkNonce at hnonce
  obtain ⟨nrow', hrow, hnonce⟩ := bind_eq_ok.mp hnonce
  obtain ⟨_, hunused, -⟩ := bind_eq_ok.mp hnonce
  exact ⟨nrow', orRefuse_eq_ok.mp hrow, of_decide_eq_true (require_eq_ok.mp hunused)⟩

theorem readRun_checked {v : Checked} {m : Matched} (h : readRun H T v = .ok m) :
    m.toChecked = v := by
  unfold readRun at h
  obtain ⟨_, -, h⟩ := bind_eq_ok.mp h
  obtain ⟨_, -, h⟩ := bind_eq_ok.mp h
  obtain ⟨_, -, h⟩ := bind_eq_ok.mp h
  obtain ⟨_, -, h⟩ := bind_eq_ok.mp h
  cases h
  rfl

/-- No step forgets a nonce, or that it is used. -/
theorem Step.nonces (h : Step H s a u) {nonce : PyStr} {nrow : NonceRow}
    (hnonce : s.tables.nonces.get? nonce = some nrow) :
    ∃ nrow', u.tables.nonces.get? nonce = some nrow' ∧
      (nrow.usedAtIso ≠ none → nrow'.usedAtIso ≠ none) := by
  cases h with
  | issueNonce => exact ⟨nrow, Dict.get?_insertIgnore_of_some _ hnonce, id⟩
  | upgrade _ hupgrade =>
    obtain ⟨-, -, hnonces⟩ := upgrade_eq_some hupgrade
    rw [hnonces, Dict.get?_modify, hnonce]
    split_ifs
    · exact ⟨_, rfl, nofun⟩
    · exact ⟨nrow, rfl, id⟩
  | _ => exact ⟨nrow, hnonce, id⟩

theorem Step.spent (h : Step H s a u) {nonce : PyStr} (hspent : Spent s nonce) :
    Spent u nonce := by
  obtain ⟨nrow, hnonce, hused⟩ := hspent
  obtain ⟨nrow', hnonce', hkept⟩ := h.nonces hnonce
  exact ⟨nrow', hnonce', hkept hused⟩

theorem Step.known (hs : Known s) (h : Step H s a u) : Known u := by
  have hold : ∀ c ∈ s.calls, u.tables.nonces.get? c.nonce ≠ none := by
    intro c hc
    obtain ⟨nrow, hnonce⟩ := Option.ne_none_iff_exists'.mp (hs c hc)
    obtain ⟨nrow', hnonce', -⟩ := h.nonces hnonce
    rw [hnonce']
    exact nofun
  cases h with
  | readNonce hread =>
    obtain ⟨nrow, hnonce, -⟩ := readNonce_unused hread
    exact List.forall_mem_cons.mpr ⟨by rw [Call.nonce, hnonce]; exact nofun, hold⟩
  | readRun hcall hread =>
    have hnonce := hold _ hcall
    rw [Call.nonce, ← readRun_checked hread] at hnonce
    exact List.forall_mem_cons.mpr ⟨hnonce, hold⟩
  | readOwner hcall => exact List.forall_mem_cons.mpr ⟨hold (.matched _) hcall, hold⟩
  | _ => exact hold

theorem Step.spends (hs : Known s) (h : Step H s a u) : ∀ nonce ∈ a.spent, Spent u nonce := by
  rintro nonce ha
  cases h with
  | upgrade hcall hupgrade =>
    cases ha
    obtain ⟨-, -, hnonces⟩ := upgrade_eq_some hupgrade
    obtain ⟨nrow, hnonce⟩ := Option.ne_none_iff_exists'.mp (hs _ hcall)
    rw [Call.nonce] at hnonce
    rw [Spent, hnonces, Dict.get?_modify, hnonce, if_pos rfl]
    exact ⟨_, rfl, nofun⟩
  | _ => cases ha

/-- In every interleaving, the nonce of an upgrade opens no call after it: two upgrades under
one nonce are of calls that overlap. -/
theorem spent_before_read (hs : Known s) (h : Run (Step H) s ls t) : ls.Pairwise Apart := by
  -- along the run, what has been spent stays spent
  have hall : Known t ∧ (∀ a ∈ ls, ∀ nonce ∈ a.spent, Spent t nonce) ∧ ls.Pairwise Apart := by
    refine Run.history (P := fun ls t => Known t ∧
      (∀ a ∈ ls, ∀ nonce ∈ a.spent, Spent t nonce) ∧ ls.Pairwise Apart)
      ⟨hs, by simp, List.Pairwise.nil⟩ ?_ h
    rintro ls t a u ⟨hknown, hspent, hpairs⟩ hstep
    refine ⟨hstep.known hknown, ?_, List.pairwise_append.mpr ⟨hpairs, by simp, ?_⟩⟩
    · intro b hb nonce hnonce
      rcases List.mem_append.mp hb with hb | hb
      · exact hstep.spent (hspent b hb nonce hnonce)
      · cases List.mem_singleton.mp hb
        exact hstep.spends hknown nonce hnonce
    · intro b hb a' ha' nonce hnonce hread
      cases List.mem_singleton.mp ha'
      obtain ⟨nrow, hrow, hused⟩ := hspent b hb nonce hnonce
      cases hstep with
      | readNonce hstep =>
        cases hread
        obtain ⟨nrow', hrow', hunused⟩ := readNonce_unused hstep
        cases hrow.symm.trans hrow'
        exact hused hunused
      | _ => cases hread
  exact hall.2.2

end Runs

/-! ## A call before its write -/

def rescoredCall : Matched where
  request := sampleRequest
  quote := []
  claimed := ⟨[], [], [], [], .null, .null, .null, .null, .null⟩
  nrow := ⟨[], [], [], [], [], none⟩
  runId := []
  erow := ⟨[], 0⟩
  row := []

def beforeWrite : State where
  tables := { emptyTables with
    nonces := Dict.empty.set [] rescoredCall.nrow
    evalRuns := Dict.empty.set [] rescoredCall.erow }
  calls := [.rescored rescoredCall []]

def write : Action := .upgrade rescoredCall [] [] sampleNow

theorem known_beforeWrite : Known beforeWrite := by
  simp [Known, beforeWrite, Call.nonce, rescoredCall]

theorem write_step : ∃ t, Run (Step sampleHost) beforeWrite [write] t :=
  ⟨_, Run.nil.snoc (.upgrade List.mem_cons_self rfl)⟩

theorem upgraded_once_write : ([write].filterMap Action.upgraded).Nodup ∧
    ∀ id ∈ [write].filterMap Action.upgraded, ¬ Attested beforeWrite id :=
  write_step.elim fun _ h => upgraded_once h

theorem spent_before_read_write : [write].Pairwise Apart :=
  write_step.elim fun _ h => spent_before_read known_beforeWrite h

end Cathedral.Publisher.Attest
