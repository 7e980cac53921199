import Cathedral.Lib.Machine
import Cathedral.Publisher.ArenaPayout

/-!
# Cathedral.Publisher.ArenaIntake — how solvers and instances reach the arena

The routes `POST /v1/arena/solvers` and `POST /v1/arena/instances` of
`scaffold/publisher/app.py` and the payout ticks that read what they store. The quarantine
of the payout compares two stored rounds: `registered_round`, which the first route sets to
zero, and `submitted_round`, which is a field of the second route's form. Beside the tables
a state holds what no table has: the true rounds in which a solver was first registered and
an instance was submitted.

`quarantine_kept` is what the payout promises about true rounds as long as no late closer
can count for an instance whose form says three or more; `chosen_round_farms` is a payment
on a closer that was registered in the round of the submission.

The check of a hotkey's signature is a parameter.
-/

namespace Cathedral.Publisher.ArenaIntake

open Lanes.SolverArena ArenaPayout

/-! ## The routes -/

/-- A row of `arena_solvers`, under its source hash. -/
structure SolverRow where
  sourceUrl : PyStr
  containerDigest : PyStr
  ownerHotkey : PyStr
  registeredRound : ℤ
  status : String
  createdAtIso : String

/-- The form and the headers of `arena_register_solver`. -/
structure SolverForm where
  sourceUrl : PyStr
  containerDigest : PyStr
  sourceSha256 : PyStr
  submittedAt : Option String
  hotkey : PyStr
  signature : String

def SolverForm.spec (form : SolverForm) : SolverSpec :=
  ⟨form.sourceUrl, form.containerDigest, form.sourceSha256, form.hotkey⟩

/-- The form and the headers of `arena_submit_instance`. -/
structure InstanceForm where
  cnfText : String
  roundNo : ℤ
  submittedAt : Option String
  hotkey : String
  signature : String

/-- What the routes take from the request handling. -/
structure IntakeHost where
  sha256Hex : String → String
  /-- `_verify_hotkey_claim` on a hotkey, a signature, a time, a challenge id and a hash. -/
  verifyHotkeyClaim : PyStr → String → String → String → PyStr → Bool

/-- `submitted_at or _now_iso_ms()`. -/
def claimTime (submittedAt : Option String) (now : String) : String :=
  match submittedAt with
  | some text => if text = "" then now else text
  | none => now

/-- The row that `arena_register_solver` inserts. -/
def SolverForm.row (form : SolverForm) (now : String) : SolverRow where
  sourceUrl := form.sourceUrl
  containerDigest := form.containerDigest
  ownerHotkey := form.hotkey
  registeredRound := 0
  status := "pending"
  createdAtIso := now

/-- `arena_register_solver`; `none` where the claim is refused. -/
def arenaRegisterSolver (H : IntakeHost) (registry : SolverRegistry)
    (solvers : Dict PyStr SolverRow) (form : SolverForm) (now : String) :
    Option ((Bool × String) × SolverRegistry × Dict PyStr SolverRow) :=
  if H.verifyHotkeyClaim form.hotkey form.signature (claimTime form.submittedAt now) "arena"
      form.sourceSha256 then
    let registered := registry.register form.spec
    some (registered.1, registered.2, (solvers.insertIgnore form.sourceSha256 (form.row now)).1)
  else none

/-- The row that `arena_submit_instance` inserts, of the columns that the payout reads. -/
def InstanceForm.row (form : InstanceForm) (instanceId now : String) : ArenaInstance where
  instanceId := instanceId
  ownerHotkey := form.hotkey
  cnfText := form.cnfText
  submittedRound := form.roundNo
  status := "pending"
  createdAtIso := now
  lastPaidRound := none
  paidAtIso := none

/-- A value of an integer column. -/
def FitsColumn (n : ℤ) : Prop := -2 ^ 63 ≤ n ∧ n < 2 ^ 63

instance (n : ℤ) : Decidable (FitsColumn n) := inferInstanceAs (Decidable (_ ∧ _))

/-- `arena_submit_instance` up to its insertion; `none` where the claim is refused or a round
does not fit into its column. -/
def arenaSubmitInstance (H : IntakeHost) (form : InstanceForm) (instanceId now : String) :
    Option ArenaInstance :=
  if H.verifyHotkeyClaim (PyStr.ofString form.hotkey) form.signature
      (claimTime form.submittedAt now) "arena-instance"
      (PyStr.ofString (H.sha256Hex form.cnfText)) then
    if FitsColumn form.roundNo ∧ FitsColumn (form.roundNo + quarantineRounds) then
      some (form.row instanceId now)
    else none
  else none

/-! ## Histories -/

structure State where
  /-- The true round. -/
  round : ℤ
  registry : SolverRegistry
  solvers : Dict PyStr SolverRow
  payout : ArenaPayout.State
  /-- The true round in which a source hash was first registered. -/
  registeredIn : Dict PyStr ℤ
  /-- The true round in which an instance was submitted. -/
  submittedIn : Dict String ℤ

inductive Action where
  /-- The next round begins. -/
  | advance
  | register (form : SolverForm) (now : String)
  | submit (form : InstanceForm) (instanceId now : String)
  | start (p : ℕ) (tick : ArenaPayout.Tick)
  | settle (p : ℕ) (solvers : Field) (rowUuid ranAt : String)
  | stop (p : ℕ)

/-- The closers carry the registered rounds that the intake has stored. -/
def CarryStored (s : State) (solvers : Field) : Prop :=
  ∀ c ∈ solvers.closers,
    (s.solvers.get? c.spec.commitmentId).map SolverRow.registeredRound = some c.registeredRound

instance (s : State) (solvers : Field) : Decidable (CarryStored s solvers) :=
  inferInstanceAs (Decidable (∀ _ ∈ _, _))

structure Host where
  intake : IntakeHost
  payout : PayoutHost
  lane : SolverArenaLane

/-- An action of the payout, on its part of the state. -/
def onPayout (H : Host) (s : State) (action : ArenaPayout.Action) :
    Option (State × Option Payment) :=
  (ArenaPayout.act H.payout H.lane s.payout action).map fun r => ({ s with payout := r.1 }, r.2)

/-- One action: the state after it, and what it has paid. A request that is refused is none. -/
def act (H : Host) (s : State) : Action → Option (State × Option Payment)
  | .advance => some ({ s with round := s.round + 1 }, none)
  | .register form now =>
    (arenaRegisterSolver H.intake s.registry s.solvers form now).map fun r =>
      ({ s with
          registry := r.2.1
          solvers := r.2.2
          registeredIn := (s.registeredIn.insertIgnore form.sourceSha256 s.round).1 }, none)
  | .submit form instanceId now =>
    (arenaSubmitInstance H.intake form instanceId now).bind fun row =>
      (onPayout H s (.submit row)).map fun r =>
        ({ r.1 with submittedIn := (s.submittedIn.insertIgnore instanceId s.round).1 }, none)
  | .start p tick =>
    -- the round of a tick is the true one
    if tick.currentRound = s.round then onPayout H s (.start p tick) else none
  | .settle p solvers rowUuid ranAt =>
    -- and its closers come from the table
    if CarryStored s solvers then onPayout H s (.settle p solvers rowUuid ranAt) else none
  | .stop p => onPayout H s (.stop p)

/-- An action with the payment that it makes. -/
abbrev Event : Type := Action × Option Payment

def step (H : Host) : State → Event → State → Prop := Acts (act H)

/-! ## The promise -/

/-- The solver was registered at least three true rounds before the instance was submitted. -/
def Aged (s : State) (cid : PyStr) (instanceId : String) : Prop :=
  ∃ registered submitted, s.registeredIn.get? cid = some registered ∧
    s.submittedIn.get? instanceId = some submitted ∧ registered + quarantineRounds ≤ submitted

/-- Every instance is paid on the evidence of a closer that is old enough. -/
def QuarantineKept (ls : List Event) (t : State) : Prop :=
  ∀ pay ∈ answers ls, Aged t pay.offer.closer.commitmentId pay.row.instanceId

/-- A closer that may count for an instance, the quarantine aside. -/
structure Competes (H : Host) (tick : ArenaPayout.Tick) (solvers : Field) (row : ArenaInstance)
    (c : Closer) : Prop where
  mem : c ∈ solvers.closers
  other : c.spec.commitmentId ≠ solvers.championSpec.commitmentId
  broad : ∃ results, runBatch H.payout.toHost c.adapter
    (H.lane.buildBatch H.payout.toHost tick.currentRound tick.tier tick.batchSize) = some results ∧
      0 < results.length ∧ results.length ≤ 2 * results.countP (·.solved)
  closes : ∃ r, runBatch H.payout.toHost c.adapter [posed row tick] = some [r] ∧ r.solved = true

/-- An instance whose form says three or more is only settled where every closer that competes
is old enough. -/
def LateHeldBack (H : Host) (s : State) : Action → Prop
  | .settle p solvers _ _ => ∀ tick row rest, s.payout.ticks p = some ⟨tick, row :: rest⟩ →
      quarantineRounds ≤ row.submittedRound → ∀ c, Competes H tick solvers row c →
        Aged s c.spec.commitmentId row.instanceId
  | _ => True

/-! ## Steps -/

section Steps

variable {H : Host} {s t : State}

/-- Every stored round of registration is zero. -/
def Unrounded (s : State) : Prop :=
  ∀ cid row, s.solvers.get? cid = some row → row.registeredRound = 0

/-- What was registered or submitted in some true round stays so. -/
structure TimesKept (s t : State) : Prop where
  registered : ∀ cid r, s.registeredIn.get? cid = some r → t.registeredIn.get? cid = some r
  submitted : ∀ id r, s.submittedIn.get? id = some r → t.submittedIn.get? id = some r

theorem Aged.mono {cid : PyStr} {instanceId : String} (h : Aged s cid instanceId)
    (hkept : TimesKept s t) : Aged t cid instanceId := by
  obtain ⟨registered, submitted, hregistered, hsubmitted, hle⟩ := h
  exact ⟨registered, submitted, hkept.registered _ _ hregistered,
    hkept.submitted _ _ hsubmitted, hle⟩

theorem onPayout_eq_some {action : ArenaPayout.Action} {payment : Option Payment}
    (h : onPayout H s action = some (t, payment)) :
    ∃ payout, ArenaPayout.act H.payout H.lane s.payout action = some (payout, payment) ∧
      t = { s with payout := payout } := by
  obtain ⟨⟨payout, paid⟩, hact, heq⟩ := Option.map_eq_some_iff.mp h
  cases heq
  exact ⟨payout, hact, rfl⟩

/-- What the first route does to the tables. -/
theorem arenaRegisterSolver_eq_some {I : IntakeHost} {registry registry' : SolverRegistry}
    {solvers solvers' : Dict PyStr SolverRow} {form : SolverForm} {now : String}
    {answer : Bool × String}
    (h : arenaRegisterSolver I registry solvers form now = some (answer, registry', solvers')) :
    solvers' = (solvers.insertIgnore form.sourceSha256 (form.row now)).1 := by
  unfold arenaRegisterSolver at h
  split_ifs at h
  cases h
  rfl

/-- A payment is one of the settlement of an open tick; every other action pays nothing and
keeps the times, and no action stores a round of registration. -/
theorem act_cases {action : Action} {payment : Option Payment}
    (h : act H s action = some (t, payment)) :
    TimesKept s t ∧ (Unrounded s → Unrounded t) ∧
      ∀ pay ∈ payment, CarryStored s pay.solvers ∧
        ∃ p rowUuid ranAt payout, action = .settle p pay.solvers rowUuid ranAt ∧ PaidBy
          H.payout H.lane s.payout payout (.settle p pay.solvers rowUuid ranAt) pay := by
  have hsame : ∀ {u : State}, u.registeredIn = s.registeredIn → u.submittedIn = s.submittedIn →
      TimesKept s u := fun hregistered hsubmitted =>
    ⟨fun cid r hr => by rw [hregistered]; exact hr, fun id r hr => by rw [hsubmitted]; exact hr⟩
  cases action with
  | advance =>
    cases h
    exact ⟨hsame rfl rfl, fun hzero => hzero, by simp⟩
  | register form now =>
    obtain ⟨⟨answer, registry, solvers⟩, hroute, heq⟩ := Option.map_eq_some_iff.mp h
    cases heq
    have hsolvers := arenaRegisterSolver_eq_some hroute
    refine ⟨⟨fun cid r hr => Dict.get?_insertIgnore_of_some _ hr, fun id r hr => hr⟩, ?_, by simp⟩
    intro hzero cid row hrow
    dsimp only at hrow
    rw [hsolvers] at hrow
    rcases s.solvers.insertIgnore_cases form.sourceSha256 (form.row now) with
      ⟨old, -, hskip⟩ | ⟨-, hinsert⟩
    · rw [hskip] at hrow
      exact hzero cid row hrow
    · rw [hinsert, Dict.get?_set] at hrow
      split_ifs at hrow
      · cases hrow
        rfl
      · exact hzero cid row hrow
  | submit form instanceId now =>
    obtain ⟨row, -, h⟩ := Option.bind_eq_some_iff.mp h
    obtain ⟨⟨u, paid⟩, hpayout, heq⟩ := Option.map_eq_some_iff.mp h
    cases heq
    obtain ⟨payout, -, rfl⟩ := onPayout_eq_some hpayout
    exact ⟨⟨fun cid r hr => hr, fun id r hr => Dict.get?_insertIgnore_of_some _ hr⟩,
      fun hzero => hzero, by simp⟩
  | start p tick =>
    simp only [act] at h
    split_ifs at h
    obtain ⟨payout, hpayout, rfl⟩ := onPayout_eq_some h
    cases hpayout
    exact ⟨hsame rfl rfl, fun hzero => hzero, by simp⟩
  | stop p =>
    obtain ⟨payout, hpayout, rfl⟩ := onPayout_eq_some h
    cases hpayout
    exact ⟨hsame rfl rfl, fun hzero => hzero, by simp⟩
  | settle p solvers rowUuid ranAt =>
    simp only [act] at h
    split_ifs at h with hcarry
    obtain ⟨payout, hpayout, rfl⟩ := onPayout_eq_some h
    refine ⟨hsame rfl rfl, fun hzero => hzero, fun pay hpay => ?_⟩
    rcases ArenaPayout.act_cases hpayout with ⟨hnone, -⟩ | ⟨hnone, -⟩ | ⟨pay', hsome, hpaid, -⟩
    · rw [hnone] at hpay
      cases hpay
    · rw [hnone] at hpay
      cases hpay
    · rw [hsome] at hpay
      cases hpay
      obtain ⟨q, uuid, ran, rest, haction, -⟩ := hpaid.opened
      cases haction
      exact ⟨hcarry, p, rowUuid, ranAt, payout, rfl, hpaid⟩

/-- A payment rests on a closer that competes, for an instance whose form says three or more:
the stored round of registration, zero, clears no other. -/
theorem competes_of_paidBy {payout : ArenaPayout.State} {action : ArenaPayout.Action}
    {pay : Payment} (hzero : Unrounded s) (hcarry : CarryStored s pay.solvers)
    (h : PaidBy H.payout H.lane s.payout payout action pay) :
    quarantineRounds ≤ pay.row.submittedRound ∧
      ∃ c, Competes H pay.tick pay.solvers pay.row c ∧ c.spec = pay.offer.closer := by
  obtain ⟨rowUuid, ranAt, hoffered⟩ := h.offered
  obtain ⟨-, -, ⟨c, hcloses, hspec⟩, -⟩ := settleInstance_offered hoffered
  obtain ⟨row, hrow, hstored⟩ := Option.map_eq_some_iff.mp (hcarry c hcloses.mem)
  have hregistered := hcloses.registered
  rw [← hstored, hzero _ row hrow, zero_add] at hregistered
  exact ⟨hregistered, c,
    ⟨hcloses.mem, hcloses.other, hcloses.broad, hcloses.closes⟩, hspec⟩

end Steps

/-! ## Runs -/

section Runs

variable {H : Host} {s t : State} {ls : List Event}

/-- In every history in which late closers are held back from the instances whose form says
three or more, no instance is paid on the evidence of a late closer. -/
theorem quarantine_kept (hzero : Unrounded s)
    (h : Run (fun s l t => step H s l t ∧ LateHeldBack H s l.1) s ls t) :
    QuarantineKept ls t := by
  have hrun : Unrounded t ∧ QuarantineKept ls t := by
    refine Run.history (P := fun ls t => Unrounded t ∧ QuarantineKept ls t) ?_ ?_ h
    · exact ⟨hzero, by simp [QuarantineKept]⟩
    · intro ls t l u ⟨hzero, hkept⟩ ⟨hact, hheld⟩
      obtain ⟨htimes, hunrounded, hpaid⟩ := act_cases hact
      refine ⟨hunrounded hzero, fun pay hpay => ?_⟩
      rcases mem_answers_snoc.mp hpay with hold | hnew
      · exact (hkept pay hold).mono htimes
      · obtain ⟨hcarry, p, rowUuid, ranAt, payout, haction, hpaidBy⟩ :=
          hpaid pay hnew
        rw [haction] at hheld
        obtain ⟨hform, c, hcompetes, hspec⟩ := competes_of_paidBy hzero hcarry hpaidBy
        obtain ⟨q, uuid, ran, rest, hsettle, hopened⟩ := hpaidBy.opened
        cases hsettle
        have haged := hheld pay.tick pay.row rest hopened hform c hcompetes
        rw [hspec] at haged
        exact haged.mono htimes
  exact hrun.2

end Runs

/-! ## A round that the miner has chosen -/

def openHost : Host where
  intake := ⟨fun _ => "", fun _ _ _ _ _ => true⟩
  payout := trustingHost
  lane := .fresh 1

/-- Empty tables, in round ten. -/
def emptyTables : State := ⟨10, .empty, Dict.empty, sampleStart, Dict.empty, Dict.empty⟩

def farmForm : SolverForm := ⟨[], [], PyStr.ofString "d", none, [], ""⟩

def hardForm (roundNo : ℤ) : InstanceForm := ⟨"p cnf", roundNo, none, "owner", ""⟩

/-- The champion times out, and the closer that was just registered closes everything. -/
def farmField : Field :=
  ⟨⟨[], [], PyStr.ofString "c", []⟩, slowAdapter, [⟨farmForm.spec, fastAdapter, 0⟩]⟩

/-- A closer and an instance of one round, settled in that round. -/
def farmActions : List Action :=
  [.register farmForm "", .submit (hardForm 3) "i" "", .start 0 ⟨10, .finite 1, 1, 1⟩,
    .settle 0 farmField "u" ""]

theorem farm_paid :
    (perform (act openHost) emptyTables farmActions).map (fun r =>
      ((answers r.1).map fun pay => (pay.offer.closer.commitmentId, pay.row.instanceId),
        r.2.registeredIn.get? (PyStr.ofString "d"), r.2.submittedIn.get? "i")) =
      some ([(PyStr.ofString "d", "i")], some 10, some 10) := by
  decide +kernel

/-- The closer was registered in the very round of the submission. -/
theorem chosen_round_farms :
    ∃ ls t, Run (step openHost) emptyTables ls t ∧ ¬ QuarantineKept ls t := by
  obtain ⟨⟨ls, t⟩, hall, heq⟩ := Option.map_eq_some_iff.mp farm_paid
  obtain ⟨hpaid, hregistered, hsubmitted⟩ : _ ∧ _ ∧ _ := by
    simpa only [Prod.mk.injEq] using heq
  refine ⟨ls, t, Acts.run hall, fun hkept => ?_⟩
  obtain ⟨pay, hpay, hids⟩ := List.map_eq_singleton_iff.mp hpaid
  obtain ⟨hcloser, hinstance⟩ := Prod.mk.inj hids
  have haged := hkept pay (by rw [hpay]; exact List.mem_cons_self)
  rw [hcloser, hinstance] at haged
  obtain ⟨registered, submitted, hregistered', hsubmitted', hle⟩ := haged
  rw [hregistered] at hregistered'
  rw [hsubmitted] at hsubmitted'
  cases hregistered'
  cases hsubmitted'
  exact absurd hle (by decide)

/-- A closer of round ten and an instance of round thirteen, about to be settled. -/
def agedActions : List Action :=
  [.register farmForm "", .advance, .advance, .advance, .submit (hardForm 13) "i" "",
    .start 0 ⟨13, .finite 1, 1, 1⟩]

/-- What is open and stored before the settlement, and what it pays. -/
theorem aged_paid :
    ((perform (act openHost) emptyTables agedActions).bind fun r =>
      (act openHost r.2 (.settle 0 farmField "u" "")).map fun u =>
        ((r.2.payout.ticks 0).map fun o => o.remaining.map ArenaInstance.instanceId,
          r.2.registeredIn.get? (PyStr.ofString "d"), r.2.submittedIn.get? "i",
          u.2.map Payment.key)) = some (some ["i"], some 10, some 13, some ("i", 13)) := by
  decide +kernel

/-- A payment three rounds later. -/
theorem quarantine_kept_aged :
    ∃ ls t, (answers ls).map Payment.key = [("i", 13)] ∧ QuarantineKept ls t := by
  obtain ⟨⟨ls, t⟩, hall, h⟩ := Option.bind_eq_some_iff.mp aged_paid
  obtain ⟨⟨u, payment⟩, hact, heq⟩ := Option.map_eq_some_iff.mp h
  obtain ⟨hopen, hregistered, hsubmitted, hpaid⟩ : _ ∧ _ ∧ _ ∧ _ := by
    simpa only [Prod.mk.injEq] using heq
  have hrest : ∀ action ∈ agedActions, ∀ u, LateHeldBack openHost u action := by
    simp [agedActions, LateHeldBack]
  have hheld : LateHeldBack openHost t (.settle 0 farmField "u" "") := by
    intro tick row rest hopened _ c hcompetes
    rw [hopened] at hopen
    have hrow : row.instanceId = "i" := by
      have hids := Option.some.inj hopen
      simp only [List.map_cons, List.cons.injEq] at hids
      exact hids.1
    have hcloser : c.spec.commitmentId = PyStr.ofString "d" := by
      rw [List.mem_singleton.mp hcompetes.mem]
      rfl
    rw [hrow, hcloser]
    exact ⟨10, 13, hregistered, hsubmitted, by decide⟩
  have hsettle : step openHost t (.settle 0 farmField "u" "", payment) u := hact
  have hrun := (Acts.run_of_perform hrest hall).snoc ⟨hsettle, hheld⟩
  refine ⟨_, u, ?_, quarantine_kept (fun cid row hrow => ?_) hrun⟩
  · -- nothing was paid before
    have hnone : (perform (act openHost) emptyTables agedActions).map (fun r => (answers r.1).length) =
        some 0 := by decide +kernel
    rw [hall] at hnone
    have hempty : answers ls = [] := List.length_eq_zero_iff.mp (Option.some.inj hnone)
    obtain ⟨pay, rfl, hkey⟩ := Option.map_eq_some_iff.mp hpaid
    rw [answers_snoc, hempty]
    simpa using hkey
  · cases hrow

end Cathedral.Publisher.ArenaIntake
