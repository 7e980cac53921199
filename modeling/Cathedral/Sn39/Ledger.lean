import Mathlib.Data.Int.ConditionallyCompleteOrder
import Cathedral.Sn39.Protocol

/-!
# Cathedral.Sn39.Ledger — what the runs of the journal keep

Attempts, rollback fences, budgets, the launch and the active lane change only when a
signed intent is committed (`ledger_of_move`); `Charged` says what that commit does to
them. From it, over all sessions of any number of processes and with crashes at any point:

* the fences of the signed attempts of a lane strictly increase (`fences_of_run`);
* at most one launch is signed (`launch_of_run`), and no budget changes its limit or
  exceeds it (`budgets_of_run`, `budgetsRespected_of_run`);
* the active lane moves at most once, to FULL authority, after a finalized launch was
  enabled for continuous operation (`lane_of_move`, `transition_of_run`).
-/

namespace Cathedral.Sn39

open Durable

/-! ## What a commit charges -/

/-- A recorded version as a high-water mark; an absent one is below every version. -/
def highWater : Option ℤ → WithBot ℤ
  | none => ⊥
  | some version => version

/-- The rollback fence of a lane. -/
def Journal.fence (journal : Journal) : Lane → WithBot ℤ
  | .thin => highWater journal.highestPolicyVersion
  | .authority => highWater journal.highestSourceEpoch

/-- Budget entries only grow, under the limit they started with. -/
def BudgetsGrow (current next : Journal) : Prop :=
  ∀ scope budget, current.budgets.get? scope = some budget →
    ∃ grown, next.budgets.get? scope = some grown ∧ grown.limit = budget.limit ∧
      budget.ids <+: grown.ids

/-- No budget holds more ids than its limit. -/
def BudgetsRespected (journal : Journal) : Prop :=
  ∀ scope budget, journal.budgets.get? scope = some budget → (budget.ids.length : ℤ) ≤ budget.limit

/-- What the commit of a signed intent does to the ledger. -/
structure Charged (current : Journal) (attempt : SignedAttempt) (next : Journal) : Prop where
  fenceAbove : current.fence attempt.lane < attempt.fence
  fenceRaised : next.fence attempt.lane = attempt.fence
  otherFence : ∀ lane, lane ≠ attempt.lane → next.fence lane = current.fence lane
  lane : next.activeLane = some attempt.lane
  transition : ∀ active, current.activeLane = some active → active ≠ attempt.lane →
    active = .thin ∧ attempt.lane = .authority ∧
      ∃ identity ∈ current.pending.identity, AuthorityLaneTransitionAuthorized current identity
  launch : if attempt.launch = true then
      current.launch.attemptIds = [] ∧ next.launch.attemptIds = [attempt.id]
    else next.launch.attemptIds = current.launch.attemptIds
  budgetsGrow : BudgetsGrow current next
  budgetsRespected : BudgetsRespected current → BudgetsRespected next

theorem BudgetsGrow.refl (journal : Journal) : BudgetsGrow journal journal :=
  fun _ budget hbudget => ⟨budget, hbudget, rfl, List.prefix_rfl⟩

theorem BudgetsGrow.trans {a b c : Journal} (hab : BudgetsGrow a b) (hbc : BudgetsGrow b c) :
    BudgetsGrow a c := by
  intro scope budget hbudget
  rcases hab scope budget hbudget with ⟨mid, hmid, hlimit, hsegment⟩
  rcases hbc scope mid hmid with ⟨grown, hgrown, hlimit', hsegment'⟩
  exact ⟨grown, hgrown, hlimit'.trans hlimit, hsegment.trans hsegment'⟩

theorem budgetsGrow_of_eq {current next : Journal} (h : next.budgets = current.budgets) :
    BudgetsGrow current next := by
  intro scope budget hbudget
  exact ⟨budget, h ▸ hbudget, rfl, List.prefix_rfl⟩

variable {current : Journal}

/-- The budget that a scope opens is the one it has, or a fresh one; another id fits in. -/
theorem openBudget_ok {scope : String} {limit : Option ℤ} {malformed : String} {budget : Budget}
    (h : current.openBudget scope limit malformed = .ok budget) :
    (∀ old, current.budgets.get? scope = some old → old = budget) ∧
      (budget.ids.length : ℤ) < budget.limit := by
  unfold Journal.openBudget at h
  rcases bind_eq_ok.mp h with ⟨limit', _, h⟩
  rcases bind_eq_ok.mp h with ⟨_, _, h⟩
  rcases bind_eq_ok.mp h with ⟨_, hlimit, h⟩
  rcases bind_eq_ok.mp h with ⟨_, hroom, h⟩
  cases h
  rw [reject_eq_ok, not_or, not_not] at hlimit
  rw [reject_eq_ok, not_le] at hroom
  refine ⟨?_, by omega⟩
  intro old hold
  rw [hold, Option.getD_some]

variable {attemptId : String}

/-- A charged budget is appended to under its old limit. -/
theorem chargeBudget_ok {budgets : Dict String Budget}
    (h : current.chargeBudget attemptId = .ok budgets) :
    (∀ next : Journal, next.budgets = budgets → BudgetsGrow current next) ∧
      (BudgetsRespected current → ∀ next : Journal, next.budgets = budgets →
        BudgetsRespected next) := by
  unfold Journal.chargeBudget at h
  cases hscope : current.pending.budgetScope with
  | none =>
    rw [hscope] at h
    rcases bind_eq_ok.mp h with ⟨_, _, h⟩
    cases h
    refine ⟨fun next hnext => budgetsGrow_of_eq hnext, ?_⟩
    intro hrespected next hnext scope budget hbudget
    exact hrespected scope budget (hnext ▸ hbudget)
  | some scope =>
    rw [hscope] at h
    rcases bind_eq_ok.mp h with ⟨budget, hopen, h⟩
    cases h
    rcases openBudget_ok hopen with ⟨hold, hroom⟩
    constructor
    · intro next hnext scope' old hold'
      rw [hnext, Dict.get?_set]
      split_ifs with heq
      · subst heq
        have hbudget := hold old hold'
        subst hbudget
        exact ⟨_, rfl, rfl, List.prefix_append _ _⟩
      · exact ⟨old, hold', rfl, List.prefix_rfl⟩
    · intro hrespected next hnext scope' charged hcharged
      rw [hnext, Dict.get?_set] at hcharged
      split_ifs at hcharged with heq
      · cases hcharged
        simp only [List.length_append, List.length_singleton]
        omega
      · exact hrespected scope' charged hcharged

theorem checkFence_ok {version prior : Option ℤ} {malformed rollback : String} {fence : ℤ}
    (h : checkFence version prior malformed rollback = .ok fence) :
    version = some fence ∧ highWater prior < fence := by
  unfold checkFence at h
  rcases bind_eq_ok.mp h with ⟨version', hversion, h⟩
  rcases bind_eq_ok.mp h with ⟨_, _, h⟩
  rcases bind_eq_ok.mp h with ⟨_, hprior, h⟩
  cases h
  rw [present_eq_ok] at hversion
  simp only [reject_eq_ok, not_exists, not_and, not_le] at hprior
  refine ⟨hversion, ?_⟩
  cases prior with
  | none => exact WithBot.bot_lt_coe _
  | some old => exact WithBot.coe_lt_coe.mpr (hprior old rfl)

theorem checkLane_ok {lane : Lane} {identity : Identity}
    (h : current.checkLane lane identity = .ok ()) (active : Lane)
    (hactive : current.activeLane = some active) (hne : active ≠ lane) :
    active = .thin ∧ lane = .authority ∧ AuthorityLaneTransitionAuthorized current identity := by
  unfold Journal.checkLane at h
  rw [if_pos ⟨active, hactive, hne⟩, reject_eq_ok, not_not] at h
  rcases h with ⟨hthin, hlane, _, hauthorized⟩
  rw [hactive, Option.some.injEq] at hthin
  exact ⟨hthin, hlane, hauthorized⟩

theorem chargeLaunch_ok {launchAttempt : Bool} {launch : Launch}
    (h : current.chargeLaunch attemptId launchAttempt = .ok launch) :
    (if launchAttempt = true then current.launch.attemptIds = [] ∧ launch.attemptIds = [attemptId]
      else launch = current.launch) ∧ launch.attemptId = current.launch.attemptId ∧
      (launch.status = some .finalized → launch = current.launch) := by
  unfold Journal.chargeLaunch at h
  split_ifs at h with hlaunch
  · rcases bind_eq_ok.mp h with ⟨_, hcheck, h⟩
    cases h
    rw [reject_eq_ok, not_or, not_not, not_not] at hcheck
    rw [if_pos hlaunch]
    refine ⟨⟨hcheck.2, rfl⟩, rfl, ?_⟩
    intro hstatus
    cases hstatus
  · rcases bind_eq_ok.mp h with ⟨_, _, h⟩
    cases h
    rw [if_neg hlaunch]
    exact ⟨rfl, rfl, fun _ => rfl⟩

/-- The fence of the lane rises to the version of the attempt, and the other one stays. -/
theorem raiseFences_ok {lane : Lane} {fences : Option ℤ × Option ℤ}
    (h : current.raiseFences lane = .ok fences) :
    ∃ version, current.pending.fence lane = some version ∧ current.fence lane < version ∧
      ∀ next : Journal, next.highestPolicyVersion = fences.1 → next.highestSourceEpoch = fences.2 →
        next.fence lane = version ∧ ∀ other, other ≠ lane → next.fence other = current.fence other := by
  cases lane with
  | thin =>
    rcases bind_eq_ok.mp h with ⟨version, hversion, h⟩
    cases h
    rcases checkFence_ok hversion with ⟨hpending, hlt⟩
    refine ⟨version, hpending, hlt, ?_⟩
    intro next hpolicy hepoch
    refine ⟨by simp [Journal.fence, hpolicy, highWater], ?_⟩
    intro other hother
    cases other with
    | thin => exact absurd rfl hother
    | authority => simp [Journal.fence, hepoch]
  | authority =>
    rcases bind_eq_ok.mp h with ⟨epoch, hversion, h⟩
    cases h
    rcases checkFence_ok hversion with ⟨hpending, hlt⟩
    refine ⟨epoch, hpending, hlt, ?_⟩
    intro next hpolicy hepoch
    refine ⟨by simp [Journal.fence, hepoch, highWater], ?_⟩
    intro other hother
    cases other with
    | thin => simp [Journal.fence, hpolicy]
    | authority => exact absurd rfl hother

/-- The commit of a signed intent charges the ledger for its attempt. -/
theorem charged_of_commit {current next : Journal} {intent signedIntent : BroadcastIntent}
    (h : current.commitPendingSignedAttempt attemptId signedIntent = .ok next) :
    Charged current (current.signedAttempt intent) next := by
  rcases commit_case h with @⟨lane, identity, budgets, launchAttempt, launch, fences, hreserved,
    hlane, hidentity, _, hcheck, hbudgets, hattempt, hlaunch, hfences⟩
  have hattemptLane : (current.signedAttempt intent).lane = lane := by
    simp [Journal.signedAttempt, hlane]
  have hattemptLaunch : (current.signedAttempt intent).launch = launchAttempt := by
    simp [Journal.signedAttempt, hattempt]
  have hattemptId : (current.signedAttempt intent).id = attemptId := by
    simp [Journal.signedAttempt, hreserved.1]
  rcases raiseFences_ok hfences with ⟨version, hversion, habove, hraised⟩
  have hattemptFence : (current.signedAttempt intent).fence = version := by
    simp [Journal.signedAttempt, hlane, hversion]
  rcases chargeBudget_ok hbudgets with ⟨hgrow, hrespected⟩
  refine ⟨?_, ?_, ?_, ?_, ?_, ?_, hgrow _ rfl, fun h => hrespected h _ rfl⟩
  · rw [hattemptLane, hattemptFence]
    exact habove
  · rw [hattemptLane, hattemptFence]
    exact (hraised _ rfl rfl).1
  · rw [hattemptLane]
    exact (hraised _ rfl rfl).2
  · rw [hattemptLane]
  · intro active hactive hne
    rw [hattemptLane] at hne ⊢
    rcases checkLane_ok hcheck active hactive hne with ⟨hthin, hauthority, hauthorized⟩
    exact ⟨hthin, hauthority, identity, hidentity, hauthorized⟩
  · rw [hattemptLaunch, hattemptId]
    have hcharged := (chargeLaunch_ok hlaunch).1
    split_ifs at hcharged ⊢ with hcase
    · exact hcharged
    · rw [hcharged]

/-- What no other effect touches. -/
structure SameLedger (current next : Journal) : Prop where
  attemptIds : next.attemptIds = current.attemptIds
  budgets : next.budgets = current.budgets
  activeLane : next.activeLane = current.activeLane
  highestPolicyVersion : next.highestPolicyVersion = current.highestPolicyVersion
  highestSourceEpoch : next.highestSourceEpoch = current.highestSourceEpoch
  launchIds : next.launch.attemptIds = current.launch.attemptIds

theorem SameLedger.fence {current next : Journal} (h : SameLedger current next) (lane : Lane) :
    next.fence lane = current.fence lane := by
  cases lane with
  | thin => rw [Journal.fence, Journal.fence, h.highestPolicyVersion]
  | authority => rw [Journal.fence, Journal.fence, h.highestSourceEpoch]

theorem finalizeLaunch_ok {pending : Journal} {call : FinalizedCall} {launch : Launch}
    {continuous : Continuous}
    (h : pending.finalizeLaunch attemptId call = .ok (launch, continuous)) :
    launch.attemptIds = pending.launch.attemptIds ∧
      (launch.attemptId = some attemptId ∧ continuous.enabled = false ∨
        launch = pending.launch ∧ continuous = pending.continuous) := by
  unfold Journal.finalizeLaunch at h
  rcases bind_eq_ok.mp h with ⟨launchAttempt, _, h⟩
  split_ifs at h
  · rcases bind_eq_ok.mp h with ⟨uidSafety, _, h⟩
    cases h
    exact ⟨rfl, .inl ⟨rfl, rfl⟩⟩
  · cases h
    exact ⟨rfl, .inr ⟨rfl, rfl⟩⟩

/-- Only the commit of a signed intent touches the ledger. -/
theorem ledger_of_move {sdk : Sdk} {world next : World} {effect : Effect}
    (h : Move sdk world effect next) :
    (∃ attempt, effect = .signed attempt ∧ Charged world.journal attempt next.journal) ∨
      (∀ attempt, effect ≠ .signed attempt) ∧ SameLedger world.journal next.journal := by
  cases h with
  | signed hcommit => exact .inl ⟨_, rfl, charged_of_commit hcommit⟩
  | reserved hreserve =>
    rcases reserve_case hreserve
    exact .inr ⟨by simp, rfl, rfl, rfl, rfl, rfl, rfl⟩
  | submitted _ _ => exact .inr ⟨by simp, rfl, rfl, rfl, rfl, rfl, rfl⟩
  | receiptRecorded _ => exact .inr ⟨by simp, rfl, rfl, rfl, rfl, rfl, rfl⟩
  | proofRecorded _ => exact .inr ⟨by simp, rfl, rfl, rfl, rfl, rfl, rfl⟩
  | finalized hfinalize =>
    rcases finalize_case hfinalize with ⟨_, _, _, hlaunch⟩
    exact .inr ⟨by simp, rfl, rfl, rfl, rfl, rfl, (finalizeLaunch_ok hlaunch).1⟩
  | released _ => exact .inr ⟨by simp, rfl, rfl, rfl, rfl, rfl, rfl⟩
  | expired hexpire =>
    rcases expire_case hexpire with ⟨_, _, _, _, _, _, _, _, hlaunchIds, _, _⟩
    exact .inr ⟨by simp, rfl, rfl, rfl, rfl, rfl, hlaunchIds⟩
  | enabled _ _ => exact .inr ⟨by simp, rfl, rfl, rfl, rfl, rfl, rfl⟩
  | mirrored => exact .inr ⟨by simp, rfl, rfl, rfl, rfl, rfl, rfl⟩

/-! ## Runs -/

def Effect.signedId : Effect → Option String
  | .signed attempt => some attempt.id
  | _ => none

def Effect.submittedId : Effect → Option String
  | .submitted attemptId _ => some attemptId
  | _ => none

/-- The fence version that an effect signs in a lane. -/
def Effect.signedFence (lane : Lane) : Effect → Option ℤ
  | .signed attempt => if attempt.lane = lane then some attempt.fence else none
  | _ => none

def Effect.signedLaunch : Effect → Option String
  | .signed attempt => if attempt.launch = true then some attempt.id else none
  | _ => none

section Runs

variable {sdk : Sdk} {world next : World} {effect : Effect} {effects : List Effect}

theorem fenceMarks_of_move (lane : Lane) (h : Move sdk world effect next) :
    Run.StepMarks (fun effect => ((Effect.signedFence lane effect).toList.map (↑·) : List (WithBot ℤ)))
      (fun world => world.journal.fence lane) world effect next := by
  rcases ledger_of_move h with ⟨attempt, rfl, hcharged⟩ | ⟨hother, hsame⟩
  · by_cases hlane : attempt.lane = lane
    · subst hlane
      have habove := hcharged.fenceAbove
      have hraised := hcharged.fenceRaised
      refine ⟨?_, ?_, ?_, ?_⟩
      · rw [hraised]
        exact habove.le
      · simp [Effect.signedFence]
      · simpa [Effect.signedFence] using habove
      · simpa [Effect.signedFence] using hraised.ge
    · have hkept := hcharged.otherFence lane (Ne.symm hlane)
      refine ⟨hkept.ge, ?_, ?_, ?_⟩ <;> simp [Effect.signedFence, hlane]
  · have hnone : Effect.signedFence lane effect = none := by
      cases effect with
      | signed attempt => exact absurd rfl (hother attempt)
      | _ => rfl
    refine ⟨(hsame.fence lane).ge, ?_, ?_, ?_⟩ <;> simp [hnone]

/-- The fences of the signed attempts of a lane strictly increase. -/
theorem fences_of_run (lane : Lane) (h : Run (Move sdk) world effects next) :
    (effects.filterMap (Effect.signedFence lane)).Pairwise (· < ·) := by
  have hmarks := (Run.marks_increasing (fun _ _ _ => fenceMarks_of_move lane) h).1
  have hmap : effects.flatMap (fun effect =>
        ((Effect.signedFence lane effect).toList.map (↑·) : List (WithBot ℤ))) =
      (effects.filterMap (Effect.signedFence lane)).map (↑·) := by
    clear h hmarks
    induction effects with
    | nil => rfl
    | cons effect rest ih =>
      rw [List.flatMap_cons, ih, List.filterMap_cons]
      cases Effect.signedFence lane effect <;> rfl
  rw [hmap, List.pairwise_map] at hmarks
  exact hmarks.imp fun hlt => WithBot.coe_lt_coe.mp hlt

/-- The launch journal lists the signed launches, of which there is at most one. -/
theorem launch_of_run (h : Run (Move sdk) world effects next)
    (hstart : world.journal.launch.attemptIds = []) :
    next.journal.launch.attemptIds = effects.filterMap Effect.signedLaunch ∧
      (effects.filterMap Effect.signedLaunch).length ≤ 1 := by
  refine Run.history (P := fun effects next =>
    next.journal.launch.attemptIds = effects.filterMap Effect.signedLaunch ∧
      (effects.filterMap Effect.signedLaunch).length ≤ 1) ⟨hstart, by simp⟩ ?_ h
  intro effects mid effect next hprior hmove
  rcases hprior with ⟨hids, hlength⟩
  rw [List.filterMap_append]
  rcases ledger_of_move hmove with ⟨attempt, rfl, hcharged⟩ | ⟨hother, hsame⟩
  · have hlaunch := hcharged.launch
    split_ifs at hlaunch with hcase
    · -- the first launch: nothing was journaled before
      rw [hids] at hlaunch
      simp [hlaunch.1, hlaunch.2, Effect.signedLaunch, hcase]
    · simp [hlaunch, hids, Effect.signedLaunch, hcase, hlength]
  · have hnone : Effect.signedLaunch effect = none := by
      cases effect with
      | signed attempt => exact absurd rfl (hother attempt)
      | _ => rfl
    simp [hsame.launchIds, hids, hnone, hlength]

theorem budgets_of_run (h : Run (Move sdk) world effects next) :
    BudgetsGrow world.journal next.journal := by
  refine Run.invariant (I := fun mid => BudgetsGrow world.journal mid.journal)
    (BudgetsGrow.refl _) ?_ h
  intro mid effect next hgrow hmove
  rcases ledger_of_move hmove with ⟨_, _, hcharged⟩ | ⟨_, hsame⟩
  · exact hgrow.trans hcharged.budgetsGrow
  · exact hgrow.trans (budgetsGrow_of_eq hsame.budgets)

theorem budgetsRespected_of_run (h : Run (Move sdk) world effects next)
    (hstart : BudgetsRespected world.journal) : BudgetsRespected next.journal := by
  refine Run.invariant (I := fun mid => BudgetsRespected mid.journal) hstart ?_ h
  intro mid effect next hrespected hmove
  rcases ledger_of_move hmove with ⟨_, _, hcharged⟩ | ⟨_, hsame⟩
  · exact hcharged.budgetsRespected hrespected
  · intro scope budget hbudget
    exact hrespected scope budget (hsame.budgets ▸ hbudget)

/-- The active lane moves only by a commit, only to FULL authority, and only with its
authorization by the journal. -/
theorem lane_of_move (h : Move sdk world effect next) {active : Lane}
    (hactive : world.journal.activeLane = some active)
    (hmoved : next.journal.activeLane ≠ some active) :
    active = .thin ∧ next.journal.activeLane = some .authority ∧
      ∃ attempt, effect = .signed attempt ∧ ∃ identity ∈ world.journal.pending.identity,
        AuthorityLaneTransitionAuthorized world.journal identity := by
  rcases ledger_of_move h with ⟨attempt, heffect, hcharged⟩ | ⟨_, hsame⟩
  · rw [hcharged.lane] at hmoved ⊢
    have hne : active ≠ attempt.lane := fun heq => hmoved (by rw [heq])
    rcases hcharged.transition active hactive hne with ⟨hthin, hauthority, hauthorized⟩
    exact ⟨hthin, by rw [hauthority], attempt, heffect, hauthorized⟩
  · rw [hsame.activeLane] at hmoved
    exact absurd hactive hmoved

theorem authority_of_run (h : Run (Move sdk) world effects next)
    (hstart : world.journal.activeLane = some .authority) :
    next.journal.activeLane = some .authority := by
  refine Run.invariant (I := fun mid => mid.journal.activeLane = some .authority) hstart ?_ h
  intro mid effect next hactive hmove
  by_contra hmoved
  have hthin := (lane_of_move hmove hactive hmoved).1
  cases hthin

/-- What the history says about the launch that the journal records. -/
structure LaunchHistory (effects : List Effect) (journal : Journal) : Prop where
  finalized : journal.launch.status = some .finalized →
    ∃ attemptId, journal.launch.attemptId = some attemptId ∧ .finalized attemptId ∈ effects
  enabled : journal.continuous.enabled = true →
    ∃ attemptId, journal.continuous.launchAttemptId = some attemptId ∧
      [.finalized attemptId, .enabled (some attemptId)].Sublist effects

/-- An effect that records no launch and enables nothing. -/
theorem LaunchHistory.extend {current next : Journal} (h : LaunchHistory effects current)
    (hlaunch : next.launch.status = some .finalized → next.launch = current.launch)
    (hcontinuous : next.continuous.enabled = true → next.continuous = current.continuous) :
    LaunchHistory (effects ++ [effect]) next := by
  constructor
  · intro hstatus
    have hsame := hlaunch hstatus
    rw [hsame] at hstatus ⊢
    rcases h.finalized hstatus with ⟨attemptId, hid, hmem⟩
    exact ⟨attemptId, hid, List.mem_append_left _ hmem⟩
  · intro henabled
    have hsame := hcontinuous henabled
    rw [hsame] at henabled ⊢
    rcases h.enabled henabled with ⟨attemptId, hid, hsub⟩
    exact ⟨attemptId, hid, hsub.trans (List.sublist_append_left _ _)⟩

theorem launchHistory_step (h : LaunchHistory effects world.journal)
    (hmove : Move sdk world effect next) :
    LaunchHistory (effects ++ [effect]) next.journal := by
  cases hmove with
  | reserved hreserve =>
    rcases reserve_case hreserve
    exact h.extend (fun _ => rfl) fun _ => rfl
  | signed hcommit =>
    rcases commit_case hcommit with ⟨_, _, _, _, _, _, _, hlaunch, _⟩
    exact h.extend (chargeLaunch_ok hlaunch).2.2 fun _ => rfl
  | submitted _ _ => exact h.extend (fun _ => rfl) fun _ => rfl
  | receiptRecorded _ => exact h.extend (fun _ => rfl) fun _ => rfl
  | proofRecorded _ => exact h.extend (fun _ => rfl) fun _ => rfl
  | @finalized attemptId submission versionKey journal hfinalize =>
    rcases finalize_case hfinalize with ⟨_, _, _, hlaunch⟩
    rcases (finalizeLaunch_ok hlaunch).2 with ⟨hid, hdisabled⟩ | ⟨hsame, hcontinuous⟩
    · refine ⟨fun _ => ⟨attemptId, hid, by simp⟩, ?_⟩
      intro henabled
      rw [hdisabled] at henabled
      cases henabled
    · exact h.extend (fun _ => hsame) fun _ => hcontinuous
  | released _ => exact h.extend (fun _ => rfl) fun _ => rfl
  | expired hexpire =>
    rcases expire_case hexpire with ⟨_, _, _, _, _, _, _, _, _, hlaunch, hcontinuous⟩
    exact h.extend hlaunch hcontinuous
  | @enabled attemptId publicSeal hstatus hlaunch =>
    rcases h.finalized hstatus with ⟨id, hid, hmem⟩
    rw [hlaunch, Option.some.injEq] at hid
    subst hid
    constructor
    · exact fun _ => ⟨attemptId, hlaunch, List.mem_append_left _ hmem⟩
    · intro _
      exact ⟨attemptId, hlaunch, (List.singleton_sublist.mpr hmem).append (List.Sublist.refl _)⟩
  | mirrored => exact h.extend (fun _ => rfl) fun _ => rfl

theorem launchHistory_of_run {lane : LaneState}
    (h : Run (Move sdk) { lane := lane } effects next) : LaunchHistory effects next.journal := by
  refine Run.history (P := fun effects next => LaunchHistory effects next.journal) ?_
    (fun _ _ _ _ hprior hmove => launchHistory_step hprior hmove) h
  constructor
  · intro hstatus
    cases hstatus
  · intro henabled
    cases henabled

/-- A journal that authorizes the transition has finalized a launch and enabled it. -/
theorem transition_of_run {lane : LaneState} {identity : Identity}
    (h : Run (Move sdk) { lane := lane } effects next)
    (hauthorized : AuthorityLaneTransitionAuthorized next.journal identity) :
    ∃ attemptId, next.journal.launch.attemptId = some attemptId ∧
      [.finalized attemptId, .enabled (some attemptId)].Sublist effects := by
  rcases hauthorized with ⟨_, _, launchAttemptId, hlaunch, _, _, _, _, _, _, henabled, _, _, hsame,
    _⟩
  rcases (launchHistory_of_run h).enabled henabled with ⟨attemptId, hid, hsub⟩
  rw [hsame, Option.some.injEq] at hid
  subst hid
  exact ⟨launchAttemptId, hlaunch, hsub⟩

theorem intents_of_run (h : Run (Move sdk) world effects next) :
    Run Intents.Step world.intents (effects.map Effect.intent) next.intents :=
  h.map World.intents Effect.intent fun _ _ _ => intents_step

theorem signedId_intent (effects : List Effect) :
    (effects.map Effect.intent).filterMap Intents.Move.signedId =
      effects.filterMap Effect.signedId := by
  rw [List.filterMap_map]
  apply List.filterMap_congr
  intro effect _
  cases effect <;> rfl

theorem submittedId_intent (effects : List Effect) :
    (effects.map Effect.intent).filterMap Intents.Move.submittedId =
      effects.filterMap Effect.submittedId := by
  rw [List.filterMap_map]
  apply List.filterMap_congr
  intro effect _
  cases effect <;> rfl

/-- Retirement is finalization or expiry. -/
theorem retired_intent {attemptId : String}
    (h : .retired attemptId ∈ effects.map Effect.intent) :
    .finalized attemptId ∈ effects ∨ .expired attemptId ∈ effects := by
  rcases List.mem_map.mp h with ⟨effect, hmem, hintent⟩
  cases effect with
  | finalized id =>
    cases hintent
    exact .inl hmem
  | expired id =>
    cases hintent
    exact .inr hmem
  | _ => cases hintent

end Runs

/-! ## Any number of processes -/

def effectsOf (trace : List (Effect × World)) : List Effect := trace.map Prod.fst

/-- What the journal and the chain calls of a trace respect, at every point of it. -/
structure ProtocolKept (start : World) (trace : List (Effect × World)) : Prop where
  /-- The attempt journal lists the signed attempts, in order, so no id ever leaves it. -/
  attempts : ∀ before after, trace = before ++ after →
    (last start before).journal.attemptIds = (effectsOf before).filterMap Effect.signedId
  signedOnce : ((effectsOf trace).filterMap Effect.signedId).Nodup
  submittedOnce : ((effectsOf trace).filterMap Effect.submittedId).Nodup
  /-- Only the outstanding signed hash is submitted, and by then every other attempt signed
  before has been finalized or retired as expired. -/
  submittedSigned : ∀ before attemptId extrinsicHash world after,
    trace = before ++ (.submitted attemptId extrinsicHash, world) :: after →
      (last start before).journal.outstanding = some (attemptId, extrinsicHash) ∧
        ∀ attempt, .signed attempt ∈ effectsOf before → attempt.id ≠ attemptId →
          .finalized attempt.id ∈ effectsOf before ∨ .expired attempt.id ∈ effectsOf before
  fences : ∀ lane, ((effectsOf trace).filterMap (Effect.signedFence lane)).Pairwise (· < ·)
  launchOnce : ((effectsOf trace).filterMap Effect.signedLaunch).length ≤ 1
  budgets : ∀ before after, trace = before ++ after → BudgetsRespected (last start before).journal
  budgetsGrow : ∀ before middle after, trace = before ++ middle ++ after →
    BudgetsGrow (last start before).journal (last start (before ++ middle)).journal
  /-- The active lane moves only from thin to FULL authority, authorized by a journal in
  which a launch was finalized and then enabled for continuous operation. -/
  laneMoves : ∀ before effect world after active, trace = before ++ (effect, world) :: after →
    (last start before).journal.activeLane = some active → world.journal.activeLane ≠ some active →
      active = .thin ∧ world.journal.activeLane = some .authority ∧
        (∃ identity ∈ (last start before).journal.pending.identity,
          AuthorityLaneTransitionAuthorized (last start before).journal identity) ∧
        ∃ launchAttemptId,
          [.finalized launchAttemptId, .enabled (some launchAttemptId)].Sublist (effectsOf before)
  laneOnce : ∀ before after, trace = before ++ after →
    (last start before).journal.activeLane = some .authority →
      (last start trace).journal.activeLane = some .authority

/-- Whatever the ticks, recoveries and reconciliations of any number of processes do, and
wherever they crash, the shared journal keeps the submission protocol. -/
theorem submission_protocol {sdk : Sdk} {lane : LaneState} {trace : List (Effect × World)}
    (h : Sessions (runSession sdk) { lane := lane } trace) :
    ProtocolKept { lane := lane } trace := by
  have hsound : World.Sound { lane := lane } := ⟨by simp [World.intents, Journal.outstanding], by
    simp [World.intents]⟩
  have htraced : Durable.Traced (Move sdk) { lane := lane } trace :=
    h.traced (I := World.Sound) (fun _ _ _ hsound hmove => sound_of_move hsound hmove)
      keeps_session hsound
  have hsegment : ∀ before after, trace = before ++ after →
      Run (Move sdk) { lane := lane } (effectsOf before) (last { lane := lane } before) ∧
        Run (Move sdk) (last { lane := lane } before) (effectsOf after)
          (last { lane := lane } trace) := by
    rintro before after rfl
    rcases traced_append.mp htraced with ⟨hbefore, hafter⟩
    exact ⟨run_of_traced hbefore, last_append _ before after ▸ run_of_traced hafter⟩
  have hmove : ∀ before effect world after, trace = before ++ (effect, world) :: after →
      Move sdk (last { lane := lane } before) effect world := by
    rintro before effect world after rfl
    exact (traced_append.mp htraced).2.1
  have hwhole := (hsegment trace [] (by simp)).1
  exact
    { attempts := by
        intro before after heq
        have hsigned := (Intents.signed_of_run (intents_of_run (hsegment before after heq).1)).1
        rw [signedId_intent] at hsigned
        exact hsigned
      signedOnce := by
        have hsigned := Intents.signed_of_run (intents_of_run hwhole)
        rw [signedId_intent] at hsigned
        exact hsigned.1 ▸ hsigned.2
      submittedOnce := by
        have hsubmitted := Intents.submitted_of_run (intents_of_run hwhole)
        rw [submittedId_intent] at hsubmitted
        exact hsubmitted
      submittedSigned := by
        intro before attemptId extrinsicHash world after heq
        have hopen : (last { lane := lane } before).journal.outstanding =
            some (attemptId, extrinsicHash) := by
          cases hmove before _ world after heq
          assumption
        refine ⟨hopen, ?_⟩
        intro attempt hattempt hne
        have hrun := intents_of_run hwhole
        rw [heq, effectsOf, List.map_append, List.map_append] at hrun
        have hsettled := (Intents.submitted_settled hrun).2 attempt.id attempt.extrinsicHash
          (List.mem_map_of_mem (f := Effect.intent) hattempt) hne
        exact retired_intent hsettled
      fences := fun lane => fences_of_run lane hwhole
      launchOnce := (launch_of_run hwhole rfl).2
      budgets := by
        intro before after heq
        refine budgetsRespected_of_run (hsegment before after heq).1 ?_
        intro scope budget hbudget
        cases hbudget
      budgetsGrow := by
        intro before middle after heq
        have hbefore := hsegment before (middle ++ after) (by rw [heq, List.append_assoc])
        have hmiddle : Durable.Traced (Move sdk) (last { lane := lane } before) middle := by
          rw [heq, traced_append, traced_append] at htraced
          exact htraced.1.2
        rw [last_append]
        exact budgets_of_run (run_of_traced hmiddle)
      laneMoves := by
        intro before effect world after active heq hactive hmoved
        rcases lane_of_move (hmove before effect world after heq) hactive hmoved with
          ⟨hthin, hauthority, attempt, _, identity, hidentity, hauthorized⟩
        rcases transition_of_run (hsegment before _ heq).1 hauthorized with ⟨id, _, hsub⟩
        exact ⟨hthin, hauthority, ⟨identity, hidentity, hauthorized⟩, id, hsub⟩
      laneOnce := fun before after heq => authority_of_run (hsegment before after heq).2 }

/-! A relay of a signed vector on a healthy chain. -/

/-- A signed vector that gives the miner `a` everything but the burn. -/
def relayPayload : Payload where
  weights :=
    [{ minerHotkey := "a"
       weight := .finite 1
       baseComponent := .number (.finite 0)
       externalComponent := .number (.finite 1) }]
  burnSnapshot := some
    { burnUid := none
      burnHotkey := some sn39BurnHotkey
      forcedBurnPercentage := .number (.finite 10) }
  policyMetadata :=
    { confidentialPrimary := .fields
        { contractVersion := some "v1"
          source := some "cathedral_confidential_tdx"
          baseMass := .number (.finite 0)
          confidentialMass := .number (.finite 1)
          complete := some true
          mode := some "confidential_primary"
          fresh := some true
          confirmed := some true }
      validatedSupply := .fields
        { keys := supplyKeys
          contractVersion := some "v2"
          intelTdxAllocation := .number (.finite (9 / 10))
          fixedBurnAllocation := .number (.finite (1 / 10))
          burnHotkey := some sn39BurnHotkey } }
  network := some "finney"
  netuid := some 39
  generatedAt := some "generated"
  expiresAt := some "expires"

def relayVector (policyVersion : ℤ) : VectorEvidence where
  vectorId := "v"
  policyVersion := policyVersion
  signedVectorSha256 := "sha256:" ++ String.ofList (List.replicate 64 'e')
  signedVector := relayPayload

/-- Times of the relay, in microseconds. -/
def relayTime : String → Option ℤ
  | "generated" => some 0
  | "now" => some 1000000
  | "expires" => some 600000000
  | _ => none

def relayPreflight : ChainPreflight where
  hotkeyToUid := Dict.ofList [(sn39BurnHotkey, 0), ("a", 1), ("validator", 2)]
  validatorHotkey := "validator"
  validatorUid := 2
  block := some 1000
  minAllowedWeights := 1
  maxWeightLimit := .finite 1
  commitRevealEnabled := false
  genesisHash := finneyGenesisHash
  subnetOwnerHotkey := sn39BurnHotkey
  blocksUntilNextEpoch := some 100
  nextEpochStartBlock := some 1100
  weightsRateLimit := some 10
  validatorBlocksSinceLastUpdate := some 20
  finalizedHash := "0x" ++ String.ofList (List.replicate 64 'b')

def relayArgs : Args where
  broadcast := true
  offline := false
  network := "finney"
  requirePolicy := some .validatedSupplyV1
  authority := false
  launch := false
  requireCompletedLaunch := some false
  maxSubmissions := 0
  burnHotkey := some sn39BurnHotkey
  canonicalRuntimeRoot := true
  launchMaterial := false

/-- An SDK that rounds weights down and digests the policy version. -/
def relaySdk : Sdk where
  wireWeights uids weights := .ok (uids, weights.map fun weight => ⌊weight * 65535⌋)
  identityDigest identity :=
    String.ofList (List.replicate (identity.policyVersion.getD 0).toNat 'a' ++
      List.replicate (64 - (identity.policyVersion.getD 0).toNat) '0')

def relayHash : String := "0x" ++ String.ofList (List.replicate 64 'c')

def relayBlockHash : String := "0x" ++ String.ofList (List.replicate 64 'd')

def unused {α : Type} : Except Exc α := .error (.other "AssertionError" "not asked for")

/-- A node that includes the transaction of the relay in block 1001. -/
def relayProof : ProofAnswers where
  finalisedHead := .ok relayBlockHash
  finalizedNumber := .ok (some 1002)
  canonicalFinalizedHash := .ok relayBlockHash
  canonicalHash := .ok relayBlockHash
  block := .ok (some
    [.decoded
      { extrinsicHash := relayHash
        address := some "validator"
        call := some
          { callModule := some "SubtensorModule"
            callFunction := some "set_mechanism_weights"
            callArgs :=
              [("netuid", .int 39), ("mecid", .int 0), ("version_key", .int 7),
                ("dests", .ints [0, 1]), ("weights", .ints [6553, 58981])] } }])
  metagraph := .ok (some
    { uids := [0, 1, 2]
      hotkeys := [sn39BurnHotkey, "a", "validator"]
      validatorPermit := [false, false, true]
      block := some 1001 })
  commitReveal := .ok (some false)
  timestampMs := .ok (some 2000)
  nextEpoch := .ok (some 1100)
  owner := .ok sn39BurnHotkey
  execution := .ok (some { isSuccess := some true, errorMessage := false, extrinsicIdx := some 0 })

def relayVectorAnswers : VectorAnswers where
  signature := .ok ()
  parseUtc := relayTime
  nowIso := "now"

def relayBoundary (uidSafety : Except Exc UidSafety) : BoundaryAnswers where
  authorize :=
    { runtimeContract := .ok ()
      moment := 1000000
      uidSafety := uidSafety
      documentDigest := fun _ => (relayVector 0).signedVectorSha256
      vector := relayVectorAnswers
      recurring := unused
      stillReady := unused
      launchGate := unused }
  deadline := .ok ()
  versionKey := 7
  signing :=
    { finalizedChainHead := .ok (1000, lower relayPreflight.finalizedHash)
      nonce := .ok (some 5)
      nonceReady := unused
      unlocked := .ok true
      composed := .ok ()
      signedHash := .ok (some relayHash)
      alarm := .ok ()
      receipt := .ok
        { extrinsicHash := some relayHash
          blockHash := some relayBlockHash
          blockNumber := some 1001
          isSuccess := some true
          errorMessage := false } }
  canonicalBlockNumber := fun _ => unused
  proof := relayProof

/-- A thin tick that relays a signed vector, on a healthy chain but for what the second query
of the uid bindings answers. -/
def relayAnswers (policyVersion : ℤ) (uidSafety : Except Exc UidSafety) : ThinAnswers where
  dryRun := unused
  chainPreflight := .ok relayPreflight
  lock := .ok ()
  transition := { publicSeal := unused, authorization := unused }
  refreshed := unused
  fetched := .ok (relayVector policyVersion)
  vector := relayVectorAnswers
  launchGate := unused
  shadow := .ok ()
  vectorTimes := .ok (0, 600000000)
  moment := 1000000
  uidSafety := .ok ⟨"stable"⟩
  boundary := relayBoundary uidSafety

def relayAttemptId : String :=
  "sha256:" ++ String.ofList (List.replicate 3 'a' ++ List.replicate 61 '0')

/-- The process dies between the submission and the answer of the node. -/
theorem submission_protocol_crash :
    ∃ trace, effectsOf trace =
        [.reserved relayAttemptId,
          .signed
            { id := relayAttemptId
              lane := .thin
              fence := 3
              launch := false
              extrinsicHash := relayHash },
          .submitted relayAttemptId relayHash] ∧
      ProtocolKept {} trace := by
  have hsessions : Sessions (runSession relaySdk) {} _ :=
    .session (.thin (relayAnswers 3 (.ok ⟨"stable"⟩)) relayArgs none) 3 .start
  exact ⟨_, by decide +kernel, submission_protocol hsessions⟩

end Cathedral.Sn39
