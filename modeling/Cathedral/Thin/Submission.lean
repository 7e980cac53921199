import Cathedral.Lib.Outbox
import Cathedral.Thin.Tick

/-!
# Cathedral.Thin.Submission — what the validator submits

The state machine behind the ticks. A tick is analysed once, by
`submitPending_cases` and `commitRound_cases`; from these follow

The run theorem `run_submissions` puts both together.
-/

namespace Cathedral.Thin

open Outbox (Box Move Verdict)

/-! ## Case analysis of a submission -/

/-- The vector may be submitted: what `_submit_pending` has checked when it calls
`submit_weights`. -/
structure Ready (setup : Setup) (env : TickEnv) (state : ValidatorState)
    (metagraph : Option Metagraph) (current : Option (Dict String String))
    (pending : PendingVector) : Prop where
  broadcast : setup.broadcast = true
  allowed : pending.ambiguous = true → setup.retryAmbiguous = true
  due : pending.nextRetryAtMs ≤ env.nowMs
  refreshed : ∃ peers, (metagraph.elim env.metagraph .ok) >>= snapshotPeers = .ok peers ∧
    isStale pending peers = false ∧
    checkRegistrations setup env state peers pending current = .proceed

/-- The state after a call of `submit_weights`. -/
def afterSubmission (state : ValidatorState) (pending : PendingVector) (nowMs : ℤ) :
    SubmissionOutcome → ValidatorState
  | .succeeded =>
    { state with
      confirmedVectorDigest := some pending.digest
      confirmedDecisionDigest := pending.provenanceDigest
      pendingVector := none }
  | outcome =>
    { state with pendingVector := some (pending.failed nowMs outcome.isAmbiguous) }

/-- The cases of a submission attempt. -/
inductive SubmitCase (setup : Setup) (env : TickEnv) (state : ValidatorState)
    (metagraph : Option Metagraph) (current : Option (Dict String String))
    (pending : PendingVector) : Outcome ValidatorState → Prop where
  | kept {result : Except Exc Bool} :
      SubmitCase setup env state metagraph current pending ⟨state, result, []⟩
  | held {result : Except Exc Bool} :
      SubmitCase setup env state metagraph current pending
        ⟨{ state with pendingVector := some (pending.failed env.nowMs pending.ambiguous) },
          result, []⟩
  | cancelled {result : Except Exc Bool} :
      SubmitCase setup env state metagraph current pending
        ⟨{ state with pendingVector := none }, result, [.cancelled]⟩
  | submitted {result : Except Exc Bool} (outcome : SubmissionOutcome) :
      Ready setup env state metagraph current pending →
      SubmitCase setup env state metagraph current pending
        ⟨afterSubmission state pending env.nowMs outcome, result,
          [.submitted pending outcome]⟩

variable {env : TickEnv} {state : ValidatorState} {pending : PendingVector}

theorem recordFailure_eq (hp : state.pendingVector = some pending) (ambiguous : Bool)
    (events : List Event) :
    recordFailure env state ambiguous events =
      saveAndReturn env.saveOutcome
        { state with pendingVector := some (pending.failed env.nowMs ambiguous) } false events := by
  simp [recordFailure, noteSubmissionFailure, hp, pure, Except.pure]

variable {setup : Setup} {metagraph : Option Metagraph} {current : Option (Dict String String)}

theorem submitVector_case (hp : state.pendingVector = some pending)
    (hready : Ready setup env state metagraph current pending) :
    SubmitCase setup env state metagraph current pending (submitVector env state pending) := by
  unfold submitVector
  cases env.submitWeights pending with
  | error e =>
    rw [recordFailure_eq hp]
    exact .submitted .raised hready
  | ok response =>
    simp only
    split_ifs with hok
    · simp only [noteSubmissionSuccess, hp, pure, Except.pure]
      exact .submitted .succeeded hready
    · rw [recordFailure_eq hp]
      exact .submitted (.failed _) hready

theorem submitPending_case (setup : Setup) (env : TickEnv) (metagraph : Option Metagraph)
    (current : Option (Dict String String)) (hp : state.pendingVector = some pending) :
    SubmitCase setup env state metagraph current pending
      (submitPending setup env state metagraph current) := by
  simp only [submitPending, hp, Bool.not_eq_true]
  split_ifs with hambiguous hdue hbroadcast
  · exact .kept
  · exact .kept
  · exact .kept
  · have hallowed : pending.ambiguous = true → setup.retryAmbiguous = true := by
      intro h
      by_contra hretry
      exact hambiguous ⟨h, by simpa using hretry⟩
    cases hpeers : (metagraph.elim env.metagraph .ok) >>= snapshotPeers with
    | error e =>
      rw [recordFailure_eq hp]
      exact .held
    | ok peers =>
      by_cases hstale : isStale pending peers = true
      · simp only [if_pos hstale]
        exact .cancelled
      · simp only [if_neg hstale]
        have hready : checkRegistrations setup env state peers pending current = .proceed →
            Ready setup env state metagraph current pending := fun hcheck =>
          ⟨by simpa using hbroadcast, hallowed, not_lt.mp hdue,
            ⟨peers, hpeers, by simpa using hstale, hcheck⟩⟩
        cases hcheck : checkRegistrations setup env state peers pending current with
        | proceed => exact submitVector_case hp (hready hcheck)
        | cancel => exact .cancelled
        | hold =>
          rw [recordFailure_eq hp]
          exact .held
        | raise e => exact .kept

/-! ## Case analysis of a scored round -/

variable {runner : Runner} {round : OpenRound}

theorem openRound_some (h : openRound setup env runner = .ok (some round)) :
    env.metagraph = .ok round.metagraph ∧ snapshotPeers round.metagraph = .ok round.peers ∧
      env.block = .ok round.block ∧ runner.state.lastCompletedRound < round.roundId := by
  obtain ⟨metagraph, hmetagraph, h⟩ := bind_eq_ok.mp h
  obtain ⟨peers, hpeers, h⟩ := bind_eq_ok.mp h
  obtain ⟨block, hblock, h⟩ := bind_eq_ok.mp h
  obtain ⟨roundId, -, h⟩ := bind_eq_ok.mp h
  split_ifs at h with hpreviewed hround
  · cases h
  · cases h
  · cases h
    exact ⟨hmetagraph, hpeers, hblock, not_le.mp hround⟩

variable {composed : ComposedRound} {prepared : PreparedRound}

theorem prepareRound_ok (h : prepareRound setup env round composed = .ok prepared) :
    decisionDocument setup round.roundId round.block composed.decisions round.peers
      prepared.uids prepared.weights = .ok (prepared.decision, prepared.decisionDigest) := by
  obtain ⟨vector, -, h⟩ := bind_eq_ok.mp h
  obtain ⟨constrained, -, h⟩ := bind_eq_ok.mp h
  obtain ⟨document, hdoc, h⟩ := bind_eq_ok.mp h
  obtain ⟨_, -, h⟩ := bind_eq_ok.mp h
  cases h
  exact hdoc

/-- What a decision document says of its vector. -/
theorem decisionDocument_ok {roundId block : ℤ} {decisions : List ClassDecision} {peers : List Peer}
    {uids : List ℤ} {weights : List PyFloat} {document : DecisionDocument} {digest : String}
    (h : decisionDocument setup roundId block decisions peers uids weights =
      .ok (document, digest)) :
    document.round = roundId ∧ digest = (setup.decisionHash document).tagged ∧
      uids.length = weights.length ∧ uids.Nodup ∧
      ∀ pair ∈ uids.zip weights, 0 ≤ pair.1 ∧ pair.2.FiniteNonneg := by
  unfold decisionDocument at h
  split_ifs at h with halign hvalues
  · cases h
  · cases h
  · rw [not_or, not_not, not_not] at halign
    simp only [pure, Except.pure, Except.ok.injEq, Prod.mk.injEq] at h
    obtain ⟨hdocument, hdigest⟩ := h
    rw [hdocument] at hdigest
    refine ⟨by rw [← hdocument], hdigest.symm, halign.1, halign.2, fun pair hpair => ?_⟩
    have hgood : ¬ (pair.1 < 0 ∨ ¬ pair.2.FiniteNonneg) := fun hbad =>
      hvalues (List.any_eq_true.mpr ⟨pair, hpair, by simpa using hbad⟩)
    rw [not_or, not_not, not_lt] at hgood
    exact hgood

theorem markPending_ok {hash : VectorBody → Sha256} {state state' : ValidatorState}
    {uids : List ℤ} {weights : List PyFloat} {hotkeys : List String}
    {provenance : Option String} {ids : Dict String String}
    (h : markPending hash state uids weights hotkeys provenance ids = .ok state') :
    ∃ digest, vectorDigest hash uids weights hotkeys provenance ids = .ok digest ∧
      state' = { state with
        pendingVector := some
          { digest, uids, weights, hotkeys, provenanceDigest := provenance
            registrationIds := ids.sorted } } := by
  obtain ⟨digest, hdigest, h⟩ := bind_eq_ok.mp h
  cases h
  exact ⟨digest, hdigest, rfl⟩

/-- The vector that a scored round marks pending. -/
structure MarkedVector (setup : Setup) (round : OpenRound) (composed : ComposedRound)
    (prepared : PreparedRound) (pending : PendingVector) : Prop where
  hotkeys : pendingHotkeys round.peers prepared.uids = .ok pending.hotkeys
  uids : pending.uids = prepared.uids
  provenance : pending.provenanceDigest = some prepared.decisionDigest
  registrationIds : pending.registrationIds = (registrationIds composed.registrations).sorted
  digest : vectorDigest setup.vectorHash pending.uids pending.weights pending.hotkeys
    pending.provenanceDigest (Thin.registrationIds composed.registrations) = .ok pending.digest
  fresh : pending.attempts = 0 ∧ pending.nextRetryAtMs = 0 ∧ pending.ambiguous = false

theorem markRound_ok {state state' : ValidatorState}
    (h : markRound setup round composed prepared state = .ok state') :
    ∃ pending, MarkedVector setup round composed prepared pending ∧
      state' = { state with pendingVector := some pending } := by
  obtain ⟨hotkeys, hhotkeys, h⟩ := bind_eq_ok.mp h
  obtain ⟨digest, hdigest, rfl⟩ := markPending_ok h
  exact ⟨_, ⟨hhotkeys, rfl, rfl, rfl, hdigest, rfl, rfl, rfl⟩, rfl⟩

/-- The cases of the end of a broadcast tick; `state` is the state before it. -/
inductive CommitCase (setup : Setup) (env : TickEnv) (state : ValidatorState)
    (round : OpenRound) (composed : ComposedRound) (prepared : PreparedRound) :
    Outcome ValidatorState → Prop where
  | empty : prepared.uids = [] →
      CommitCase setup env state round composed prepared
        (saveAndReturn env.saveRound (state.completeRound round.roundId composed) true
          [.completed round.roundId])
  | unmarked {e : Exc} : prepared.uids ≠ [] →
      markRound setup round composed prepared (state.completeRound round.roundId composed) =
        .error e →
      CommitCase setup env state round composed prepared
        ⟨state.completeRound round.roundId composed, .error e, [.completed round.roundId]⟩
  | unsaved {e : Exc} {pending : PendingVector} : prepared.uids ≠ [] →
      MarkedVector setup round composed prepared pending →
      env.saveRound = .error e →
      CommitCase setup env state round composed prepared
        ⟨{ state.completeRound round.roundId composed with pendingVector := some pending },
          .error e, [.marked prepared.decision pending]⟩
  | marked {pending : PendingVector} {outcome : Outcome ValidatorState} : prepared.uids ≠ [] →
      MarkedVector setup round composed prepared pending →
      env.saveRound = .ok () →
      outcome = submitPending setup env
        { state.completeRound round.roundId composed with pendingVector := some pending }
        (some round.metagraph) (some (registrationIds composed.registrations)) →
      CommitCase setup env state round composed prepared
        ⟨outcome.state, outcome.result, .marked prepared.decision pending :: outcome.events⟩

theorem commitRound_case (setup : Setup) (env : TickEnv) (state : ValidatorState)
    (round : OpenRound) (composed : ComposedRound) (prepared : PreparedRound) :
    CommitCase setup env state round composed prepared
      (commitRound setup env state round composed prepared) := by
  by_cases hempty : prepared.uids = []
  · simp only [commitRound, if_pos hempty]
    exact .empty hempty
  · simp only [commitRound, if_neg hempty]
    cases hmark : markRound setup round composed prepared
      (state.completeRound round.roundId composed) with
    | error e => exact .unmarked hempty hmark
    | ok state' =>
      obtain ⟨pending, hpending, rfl⟩ := markRound_ok hmark
      simp only [Option.toList_some, List.map_cons, List.map_nil]
      cases hsave : env.saveRound with
      | error e => exact .unsaved hempty hpending hsave
      | ok u => exact .marked hempty hpending hsave rfl

/-! ## The outbox behind the ticks -/

/-- The vector without its retry metadata. -/
def PendingVector.identity (pending : PendingVector) : PendingVector :=
  { pending with attempts := 0, nextRetryAtMs := 0, ambiguous := false }

def SubmissionOutcome.verdict : SubmissionOutcome → Verdict
  | .raised => .failed true
  | .succeeded => .confirmed
  | .failed ambiguous => .failed ambiguous

/-- The moves of the outbox that an event stands for. -/
def Event.moves : Event → List (Move ℤ PendingVector)
  | .composed _ => []
  | .completed roundId => [.completed roundId]
  | .marked decision pending => [.marked decision.round pending.identity]
  | .submitted pending outcome => [.submitted pending.identity outcome.verdict]
  | .cancelled => [.cancelled]

/-- The outbox of a validator state. -/
def outboxOf (state : ValidatorState) : Box ℤ PendingVector where
  last := state.lastCompletedRound
  pending := state.pendingVector.map fun pending => (pending.identity, pending.ambiguous)

theorem outboxOf_eq_some (hp : state.pendingVector = some pending) :
    outboxOf state = ⟨state.lastCompletedRound, some (pending.identity, pending.ambiguous)⟩ := by
  simp [outboxOf, hp]

theorem outboxOf_eq_none (hp : state.pendingVector = none) :
    outboxOf state = ⟨state.lastCompletedRound, none⟩ := by
  simp [outboxOf, hp]

/-- The outbox moves of a list of events. -/
def movesOf (events : List Event) : List (Move ℤ PendingVector) := events.flatMap Event.moves

variable {o : Outcome ValidatorState}

theorem submitCase_refines (hp : state.pendingVector = some pending)
    (h : SubmitCase setup env state metagraph current pending o) :
    Run (Outbox.Step setup.retryAmbiguous) (outboxOf state) (movesOf o.events)
      (outboxOf o.state) := by
  rw [outboxOf_eq_some hp]
  cases h with
  | kept =>
    rw [outboxOf_eq_some hp]
    exact .nil
  | held => exact .nil
  | cancelled => exact Run.single_iff.mpr .cancelled
  | submitted outcome hready =>
    have hstep : Outbox.Step setup.retryAmbiguous
        ⟨state.lastCompletedRound, some (pending.identity, pending.ambiguous)⟩
        (.submitted pending.identity outcome.verdict)
        ⟨state.lastCompletedRound, Outbox.afterVerdict pending.identity outcome.verdict⟩ :=
      .submitted hready.allowed
    cases outcome <;> exact Run.single_iff.mpr hstep

theorem commitCase_refines (hp : state.pendingVector = none)
    (hlast : state.lastCompletedRound < round.roundId)
    (hround : prepared.decision.round = round.roundId)
    (h : CommitCase setup env state round composed prepared o) :
    Run (Outbox.Step setup.retryAmbiguous) (outboxOf state) (movesOf o.events)
      (outboxOf o.state) := by
  rw [outboxOf_eq_none hp]
  have hcompleted : (state.completeRound round.roundId composed).pendingVector = none := hp
  have hmarked : ∀ pending : PendingVector, pending.ambiguous = false →
      Outbox.Step setup.retryAmbiguous ⟨state.lastCompletedRound, none⟩
        (.marked prepared.decision.round pending.identity)
        (outboxOf { state.completeRound round.roundId composed with
          pendingVector := some pending }) := by
    intro pending hfresh
    rw [outboxOf_eq_some rfl, hfresh, hround]
    exact .marked hlast
  cases h with
  | empty _ =>
    rw [saveAndReturn, outboxOf_eq_none hcompleted]
    exact Run.single_iff.mpr (.completed hlast)
  | unmarked _ _ =>
    rw [outboxOf_eq_none hcompleted]
    exact Run.single_iff.mpr (.completed hlast)
  | unsaved _ hpending _ => exact Run.single_iff.mpr (hmarked _ hpending.fresh.2.2)
  | @marked pending outcome _ hpending _ houtcome =>
    have hcase := submitPending_case setup env (some round.metagraph)
      (some (registrationIds composed.registrations))
      (show { state.completeRound round.roundId composed with
        pendingVector := some pending }.pendingVector = some pending from rfl)
    rw [← houtcome] at hcase
    have hsubmit := submitCase_refines rfl hcase
    exact (Run.single_iff.mpr (hmarked pending hpending.fresh.2.2)).append hsubmit

/-! ## The tick -/

/-- The cases of a tick: it leaves the state alone, takes up the pending vector
of an earlier tick, or commits a round. -/
inductive TickCase (setup : Setup) (env : TickEnv) (runner : Runner) :
    Outcome Runner → Prop where
  | idle {dry : Option ℤ} {result : Except Exc Bool} {events : List Event} :
      (∀ e ∈ events, ∃ weights, e = .composed weights) →
      TickCase setup env runner ⟨{ runner with lastDryRunRound := dry }, result, events⟩
  | resumed {pending : PendingVector} {o : Outcome ValidatorState} :
      runner.state.pendingVector = some pending →
      SubmitCase setup env runner.state none none pending o →
      TickCase setup env runner ⟨{ runner with state := o.state }, o.result, o.events⟩
  | committed {round : OpenRound} {composed : ComposedRound} {prepared : PreparedRound}
      {o : Outcome ValidatorState} :
      runner.state.pendingVector = none → setup.broadcast = true →
      openRound setup env runner = .ok (some round) →
      composeRound setup env runner.state round = .ok composed →
      prepareRound setup env round composed = .ok prepared →
      CommitCase setup env runner.state round composed prepared o →
      TickCase setup env runner ⟨{ runner with state := o.state }, o.result,
        .composed composed.hotkeyWeights :: o.events⟩

theorem scoreRound_case (hp : runner.state.pendingVector = none)
    (hopen : openRound setup env runner = .ok (some round)) :
    TickCase setup env runner (scoreRound setup env runner round) := by
  unfold scoreRound
  cases hcomposed : composeRound setup env runner.state round with
  | error e => exact .idle (by simp)
  | ok composed =>
    simp only
    cases hprepared : prepareRound setup env round composed with
    | error e => exact .idle (by simp)
    | ok prepared =>
      simp only
      by_cases hbroadcast : setup.broadcast = true
      · rw [if_neg (not_not.mpr hbroadcast)]
        exact .committed hp hbroadcast hopen hcomposed hprepared
          (commitRound_case setup env runner.state round composed prepared)
      · rw [if_pos hbroadcast]
        exact .idle (by simp)

theorem tick_case (setup : Setup) (env : TickEnv) (runner : Runner) :
    TickCase setup env runner (tick setup env runner) := by
  unfold tick
  cases hp : runner.state.pendingVector with
  | some pending => exact .resumed hp (submitPending_case setup env none none hp)
  | none =>
    cases hopen : openRound setup env runner with
    | error e => exact .idle (by simp)
    | ok opened =>
      cases opened with
      | none => exact .idle (by simp)
      | some round => exact scoreRound_case hp hopen

/-- Every tick is a run of the outbox. -/
theorem tick_refines (setup : Setup) (env : TickEnv) (runner : Runner) :
    Run (Outbox.Step setup.retryAmbiguous) (outboxOf runner.state)
      (movesOf (tick setup env runner).events) (outboxOf (tick setup env runner).state.state) := by
  have hcase := tick_case setup env runner
  generalize tick setup env runner = o at hcase ⊢
  cases hcase with
  | @idle dry result events hevents =>
    have hmoves : movesOf events = [] := by
      refine List.flatMap_eq_nil_iff.mpr fun e he => ?_
      obtain ⟨weights, rfl⟩ := hevents e he
      rfl
    rw [hmoves]
    exact .nil
  | resumed hp hcase => exact submitCase_refines hp hcase
  | committed hp _ hopen _ hprepared hcase =>
    have hround := (decisionDocument_ok (prepareRound_ok hprepared)).1
    exact commitCase_refines hp (openRound_some hopen).2.2.2 hround hcase

/-! ## What holds of a submitted vector -/

/-- Peers are the uid-hotkey pairs of the metagraph. -/
theorem snapshotPeers_mem {metagraph : Metagraph} {peers : List Peer}
    (h : snapshotPeers metagraph = .ok peers) {peer : Peer} (hpeer : peer ∈ peers) :
    (peer.uid, peer.hotkey) ∈ metagraph.uids.zip metagraph.hotkeys := by
  unfold snapshotPeers at h
  split at h
  · cases h
  · rename_i coldkeys _
    split_ifs at h with hlengths hdup
    · cases h
    · cases h
      obtain ⟨⟨uid, hotkey, coldkey, axon⟩, hmem, rfl⟩ := List.mem_map.mp hpeer
      have hfst : (metagraph.hotkeys.zip (coldkeys.zip metagraph.axons)).map Prod.fst =
          metagraph.hotkeys := List.map_fst_zip (by simp [hlengths.2.1, hlengths.2.2])
      rw [← hfst, List.zip_map_right]
      exact List.mem_map.mpr ⟨_, hmem, rfl⟩
    · cases h

/-- What was true of the outside in the tick that submits `pending`; `state` is
the state before that tick. -/
structure SubmittedWell (setup : Setup) (env : TickEnv) (state : ValidatorState)
    (pending : PendingVector) : Prop where
  broadcast : setup.broadcast = true
  allowed : pending.ambiguous = true → setup.retryAmbiguous = true
  due : pending.nextRetryAtMs ≤ env.nowMs
  aligned : pending.uids.length = pending.hotkeys.length
  registered : ∃ metagraph, env.metagraph = .ok metagraph ∧
    ∀ pair ∈ pending.uids.zip pending.hotkeys, pair ∈ metagraph.uids.zip metagraph.hotkeys
  authorized : pending.registrationIds.isEmpty = false →
    ∃ peers block requireSameAuthority registrations, env.block = .ok block ∧
      loadOwnerRegistrations setup env state peers block requireSameAuthority =
        .ok registrations ∧
      ∀ classId, (registrationIds registrations).get? classId =
        pending.registrationIds.get? classId

theorem DigestOk.aligned {hash : VectorBody → Sha256} (h : pending.DigestOk hash) :
    pending.uids.length = pending.hotkeys.length :=
  ((vectorDigest_isOk _ _ _ _ _ _).mp ⟨_, h⟩).1.2.1

theorem registered_of_ready (hready : Ready setup env state metagraph current pending)
    (hmetagraph : ∀ m ∈ metagraph, env.metagraph = .ok m) :
    ∃ m, env.metagraph = .ok m ∧
      ∀ pair ∈ pending.uids.zip pending.hotkeys, pair ∈ m.uids.zip m.hotkeys := by
  obtain ⟨peers, hpeers, hfresh, -⟩ := hready.refreshed
  obtain ⟨m, hm, hsnapshot⟩ := bind_eq_ok.mp hpeers
  refine ⟨m, ?_, fun pair hpair => ?_⟩
  · cases metagraph with
    | none => exact hm
    | some m' =>
      cases hm
      exact hmetagraph m rfl
  · have hget : (hotkeyByUid peers).get? pair.1 = some pair.2 := by
      by_contra hne
      have hstale : isStale pending peers = true :=
        List.any_eq_true.mpr ⟨pair, hpair, by simpa using hne⟩
      rw [hfresh] at hstale
      cases hstale
    obtain ⟨peer, hpeer, heq⟩ := List.mem_map.mp (Dict.mem_of_get?_ofList hget)
    have hpair' : pair = (peer.uid, peer.hotkey) := heq.symm
    rw [hpair']
    exact snapshotPeers_mem hsnapshot hpeer

theorem compareRegistrations_proceed {current : Dict String String}
    (h : compareRegistrations pending current = .proceed) (classId : String) :
    current.get? classId = pending.registrationIds.get? classId := by
  unfold compareRegistrations at h
  split_ifs at h with hsame
  exact Dict.sameItems_iff.mp hsame classId

/-- A pending vector of an earlier tick is submitted under registrations loaded now. -/
theorem submittedWell_of_resumed (hdigest : pending.DigestOk setup.vectorHash)
    (hready : Ready setup env state none none pending) : SubmittedWell setup env state pending := by
  refine ⟨hready.broadcast, hready.allowed, hready.due, DigestOk.aligned hdigest,
    registered_of_ready hready (by simp), fun hids => ?_⟩
  obtain ⟨peers, -, -, hcheck⟩ := hready.refreshed
  rw [checkRegistrations, if_neg (by simp [hids])] at hcheck
  cases hrefresh : refreshRegistrationIds setup env state peers with
  | error e =>
    cases e with
    | thinSubnetError message =>
      simp only [hrefresh] at hcheck
      split_ifs at hcheck
    | other type message => simp [hrefresh] at hcheck
  | ok ids =>
    simp only [hrefresh] at hcheck
    obtain ⟨block, hblock, hload⟩ := bind_eq_ok.mp hrefresh
    obtain ⟨registrations, hregistrations, hids'⟩ := bind_eq_ok.mp hload
    cases hids'
    exact ⟨peers, block, true, registrations, hblock, hregistrations,
      compareRegistrations_proceed hcheck⟩

/-- The registrations of a composed round were loaded in its tick, unless there are none. -/
theorem composeRound_registrations (h : composeRound setup env state round = .ok composed) :
    loadOwnerRegistrations setup env state round.peers round.block false =
        .ok composed.registrations ∨ composed.registrations = ∅ := by
  obtain ⟨scored, -, h⟩ := bind_eq_ok.mp h
  obtain ⟨registrations, hregistrations, h⟩ := bind_eq_ok.mp h
  obtain ⟨classes, -, h⟩ := bind_eq_ok.mp h
  obtain ⟨decisions, -, h⟩ := bind_eq_ok.mp h
  obtain ⟨weights, -, h⟩ := bind_eq_ok.mp h
  cases h
  unfold roundRegistrations at hregistrations
  split at hregistrations
  · rename_i loaded hload
    cases hregistrations
    exact Or.inl hload
  · split_ifs at hregistrations with hburn
    · cases hregistrations
      exact Or.inr rfl
  · cases hregistrations

/-- A vector marked in this tick is submitted under the registrations it was scored with. -/
theorem submittedWell_of_marked (hopen : openRound setup env runner = .ok (some round))
    (hcomposed : composeRound setup env runner.state round = .ok composed)
    (hmarked : MarkedVector setup round composed prepared pending)
    (hready : Ready setup env state (some round.metagraph)
      (some (registrationIds composed.registrations)) pending) :
    SubmittedWell setup env runner.state pending := by
  obtain ⟨hmetagraph, -, hblock, -⟩ := openRound_some hopen
  refine ⟨hready.broadcast, hready.allowed, hready.due, ?_,
    registered_of_ready hready (by simpa using hmetagraph), fun hids => ?_⟩
  · exact ((vectorDigest_isOk _ _ _ _ _ _).mp ⟨_, hmarked.digest⟩).1.2.1
  · rcases composeRound_registrations hcomposed with hload | hnone
    · refine ⟨round.peers, round.block, false, composed.registrations, hblock, hload, ?_⟩
      intro classId
      rw [hmarked.registrationIds, Dict.get?_sorted]
    · rw [hmarked.registrationIds, hnone] at hids
      cases hids

/-- Everything a tick submits is submitted well. -/
theorem tick_submitted
    (hdigest : ∀ pending ∈ runner.state.pendingVector, pending.DigestOk setup.vectorHash)
    {outcome : SubmissionOutcome}
    (h : .submitted pending outcome ∈ (tick setup env runner).events) :
    SubmittedWell setup env runner.state pending := by
  have hcase := tick_case setup env runner
  generalize tick setup env runner = o at hcase h
  cases hcase with
  | idle hevents =>
    obtain ⟨weights, heq⟩ := hevents _ h
    cases heq
  | resumed hp hcase =>
    cases hcase with
    | submitted outcome' hready =>
      simp only [List.mem_singleton, Event.submitted.injEq] at h
      obtain ⟨rfl, -⟩ := h
      exact submittedWell_of_resumed (hdigest _ hp) hready
    | _ => simp at h
  | @committed round composed prepared o _ _ hopen hcomposed _ hcase =>
    cases hcase with
    | @marked pending' o' _ hmarked _ ho' =>
      have hsubmit := submitPending_case setup env (some round.metagraph)
        (some (registrationIds composed.registrations))
        (show { runner.state.completeRound round.roundId composed with
          pendingVector := some pending' }.pendingVector = some pending' from rfl)
      rw [← ho'] at hsubmit
      simp only [List.mem_cons, reduceCtorEq, false_or] at h
      cases hsubmit with
      | submitted outcome' hready =>
        simp only [List.mem_singleton, Event.submitted.injEq] at h
        obtain ⟨rfl, -⟩ := h
        exact submittedWell_of_marked hopen hcomposed hmarked hready
      | _ => simp at h
    | _ => simp [saveAndReturn] at h

/-! ## Runs -/

/-- The pending vector of a state carries its own digest. -/
def DigestInv (hash : VectorBody → Sha256) (state : ValidatorState) : Prop :=
  ∀ pending ∈ state.pendingVector, pending.DigestOk hash

theorem submitCase_digest (hp : state.pendingVector = some pending)
    (hdigest : pending.DigestOk setup.vectorHash)
    (h : SubmitCase setup env state metagraph current pending o) :
    DigestInv setup.vectorHash o.state := by
  intro pending' hp'
  rw [Option.mem_def] at hp'
  cases h with
  | kept =>
    rw [hp] at hp'
    cases hp'
    exact hdigest
  | held =>
    cases hp'
    exact hdigest
  | cancelled => cases hp'
  | submitted outcome _ =>
    cases outcome with
    | succeeded => cases hp'
    | _ =>
      cases hp'
      exact hdigest

theorem MarkedVector.digestOk (h : MarkedVector setup round composed prepared pending) :
    pending.DigestOk setup.vectorHash := by
  rw [PendingVector.DigestOk, h.registrationIds, vectorDigest_sorted]
  exact h.digest

theorem tick_digest (env : TickEnv) (hdigest : DigestInv setup.vectorHash runner.state) :
    DigestInv setup.vectorHash (tick setup env runner).state.state := by
  have hcase := tick_case setup env runner
  generalize tick setup env runner = o at hcase ⊢
  cases hcase with
  | idle _ => exact hdigest
  | resumed hp hcase => exact submitCase_digest hp (hdigest _ hp) hcase
  | @committed round composed prepared o hp _ _ _ _ hcase =>
    have hnone : (runner.state.completeRound round.roundId composed).pendingVector = none := hp
    cases hcase with
    | empty _ => simp [DigestInv, saveAndReturn, hnone]
    | unmarked _ _ => simp [DigestInv, hnone]
    | unsaved _ hmarked _ =>
      intro pending' hp'
      cases hp'
      exact hmarked.digestOk
    | marked _ hmarked _ ho' =>
      rw [ho']
      exact submitCase_digest rfl hmarked.digestOk (submitPending_case _ _ _ _ rfl)

/-- One tick of a run: what it was told, what it returned or raised, what it did. -/
structure TickLabel where
  env : TickEnv
  result : Except Exc Bool
  events : List Event

/-- The ticks as a step relation on the runner. -/
def TickStep (setup : Setup) (runner : Runner) (label : TickLabel) (runner' : Runner) : Prop :=
  tick setup label.env runner = ⟨runner', label.result, label.events⟩

def eventsOf (labels : List TickLabel) : List Event := labels.flatMap TickLabel.events

theorem run_refines {runner runner' : Runner} {labels : List TickLabel}
    (h : Run (TickStep setup) runner labels runner') :
    Run (Outbox.Step setup.retryAmbiguous) (outboxOf runner.state) (movesOf (eventsOf labels))
      (outboxOf runner'.state) := by
  refine Run.history (P := fun ls r => Run (Outbox.Step setup.retryAmbiguous)
    (outboxOf runner.state) (movesOf (eventsOf ls)) (outboxOf r.state)) .nil ?_ h
  intro ls t l u ih hstep
  have hmoves : movesOf (eventsOf (ls ++ [l])) = movesOf (eventsOf ls) ++ movesOf l.events := by
    simp [eventsOf, movesOf]
  have htick := tick_refines setup l.env t
  rw [show tick setup l.env t = _ from hstep] at htick
  rw [hmoves]
  exact ih.append htick

theorem run_digest {runner runner' : Runner} {labels : List TickLabel}
    (h0 : DigestInv setup.vectorHash runner.state)
    (h : Run (TickStep setup) runner labels runner') :
    DigestInv setup.vectorHash runner'.state := by
  refine Run.invariant (I := fun r => DigestInv setup.vectorHash r.state) h0 ?_ h
  intro t l u hinv hstep
  have hnext := tick_digest l.env hinv
  rwa [show tick setup l.env t = _ from hstep] at hnext

/-- The rounds of the vectors marked pending, in order. -/
def markedRounds (events : List Event) : List ℤ :=
  events.flatMap fun e => match e with
    | .marked decision _ => [decision.round]
    | _ => []

theorem markedRounds_eq (events : List Event) :
    markedRounds events = (movesOf events).flatMap Outbox.markRound := by
  simp only [markedRounds, movesOf, List.flatMap_assoc]
  refine congrArg (List.flatMap · events) (funext fun e => ?_)
  cases e <;> rfl

def trackOutcome : Option SubmissionOutcome → Event → Option SubmissionOutcome
  | _, .submitted _ outcome => some outcome
  | _, .marked _ _ => none
  | outcome, _ => outcome

/-- The outcome of the last submission since a vector was last marked. -/
def lastOutcome (events : List Event) : Option SubmissionOutcome := events.foldl trackOutcome none

theorem lastVerdict_movesOf (events : List Event) :
    Outbox.lastVerdict (movesOf events) = (lastOutcome events).map SubmissionOutcome.verdict := by
  suffices h : ∀ (o : Option SubmissionOutcome), (movesOf events).foldl Outbox.trackVerdict
      (o.map SubmissionOutcome.verdict) =
        (events.foldl trackOutcome o).map SubmissionOutcome.verdict from h none
  induction events with
  | nil => exact fun _ => rfl
  | cons e rest ih =>
    intro o
    rw [List.foldl_cons, ← ih]
    cases e <;> rfl

theorem verdict_of_isAmbiguous {outcome : SubmissionOutcome} (h : outcome.isAmbiguous = true) :
    outcome.verdict = .failed true := by
  cases outcome with
  | raised => rfl
  | succeeded => cases h
  | failed ambiguous =>
    simp only [SubmissionOutcome.isAmbiguous] at h
    rw [h]
    rfl

theorem movesOf_split (before after : List Event) (e : Event) :
    movesOf (before ++ e :: after) = movesOf before ++ (e.moves ++ movesOf after) := by
  simp [movesOf]

/-- Submissions over any run of ticks from a state that the loader accepted.

* Every submitted vector satisfies `SubmittedWell` in its own tick: the runner
  broadcasts, the retry is due and not held back by ambiguity, each pair of the
  vector is a pair of the metagraph read in that tick, and its registration ids
  are those loaded in that tick.
* A vector whose last submission left the outcome open is submitted again only
  under `retry_ambiguous`.
* The rounds of the marked vectors strictly increase, beyond the round that was
  completed at the start.
* What is submitted after a confirmation is a vector marked after it, in a
  later round than every vector marked before. -/
theorem run_submissions (setup : Setup) (fingerprint freshSecret : String)
    (allowConfigChange : Bool) (save : ValidatorState → Except Exc Unit) (file : StateFile)
    (state : ValidatorState) (labels : List TickLabel) (runner : Runner)
    (hload : loadOrCreate setup.vectorHash fingerprint freshSecret allowConfigChange save file =
      .ok state)
    (hrun : Run (TickStep setup) { state } labels runner) :
    (∀ before label after, labels = before ++ label :: after →
      ∃ runner₁, Run (TickStep setup) { state } before runner₁ ∧
        ∀ pending outcome, .submitted pending outcome ∈ label.events →
          SubmittedWell setup label.env runner₁.state pending) ∧
    (∀ before pending outcome after last,
      eventsOf labels = before ++ .submitted pending outcome :: after →
      lastOutcome before = some last → last.isAmbiguous = true →
      setup.retryAmbiguous = true) ∧
    (markedRounds (eventsOf labels)).Pairwise (· < ·) ∧
    (∀ round ∈ markedRounds (eventsOf labels), state.lastCompletedRound < round) ∧
    (∀ before confirmed mid pending outcome after,
      eventsOf labels = before ++ .submitted confirmed .succeeded :: mid ++
        .submitted pending outcome :: after →
      ∃ decision marked, .marked decision marked ∈ mid ∧
        pending.identity = marked.identity ∧
        ∀ round ∈ markedRounds before, round < decision.round) := by
  have hdigest : DigestInv setup.vectorHash state := loadOrCreate_digest hload
  have houtbox := run_refines hrun
  refine ⟨?_, ?_, ?_, ?_, ?_⟩
  · rintro before label after rfl
    obtain ⟨runner₁, runner₂, hbefore, hstep, -⟩ := hrun.step_at
    refine ⟨runner₁, hbefore, fun pending outcome hmem => ?_⟩
    have hevents : label.events = (tick setup label.env runner₁).events :=
      (congrArg Outcome.events hstep).symm
    rw [hevents] at hmem
    exact tick_submitted (run_digest hdigest hbefore) hmem
  · intro before pending outcome after last hevents hlast hambiguous
    rw [hevents, movesOf_split] at houtbox
    refine Outbox.retry_of_ambiguous houtbox ?_
    rw [lastVerdict_movesOf, hlast, Option.map_some, verdict_of_isAmbiguous hambiguous]
  · rw [markedRounds_eq]
    exact (Outbox.marks_increasing houtbox).1
  · rw [markedRounds_eq]
    exact (Outbox.marks_increasing houtbox).2
  · intro before confirmed mid pending outcome after hevents
    rw [hevents, movesOf_split, movesOf_split] at houtbox
    have hmoves : Run (Outbox.Step setup.retryAmbiguous) (outboxOf state)
        (movesOf before ++ .submitted confirmed.identity .confirmed :: movesOf mid ++
          .submitted pending.identity outcome.verdict :: movesOf after)
        (outboxOf runner.state) := houtbox
    obtain ⟨round, hmem, hlater⟩ := Outbox.marked_after_confirmation hmoves
    obtain ⟨e, he, hmove⟩ := List.mem_flatMap.mp hmem
    cases e with
    | marked decision marked =>
      simp only [Event.moves, List.mem_singleton, Move.marked.injEq] at hmove
      obtain ⟨rfl, hidentity⟩ := hmove
      exact ⟨decision, marked, he, hidentity, fun r hr => hlater r (markedRounds_eq before ▸ hr)⟩
    | _ => simp [Event.moves] at hmove

/-! A validator with one miner: its first tick scores round 10, marks the vector
and submits it. -/

def localPolicy : ScorePolicy where
  network := "test"
  netuid := 1
  classes := [.localSat { classId := "local_sat", allocation := 1 }]
  digest := "digest"
  nodup_ids := by decide
  allocation_pos := by decide +kernel
  sum_allocation := by decide +kernel
  localClass_unique := by decide

def soloSetup : Setup where
  network := "test"
  netuid := 1
  validatorHotkey := "validator"
  emaAlpha := 1
  roundBlocks := 10
  policy := localPolicy
  broadcast := true
  retryAmbiguous := false
  vectorHash := fun _ => zeroDigest
  decisionHash := fun _ => zeroDigest

def soloMetagraph : Metagraph where
  uids := [7]
  hotkeys := ["miner"]
  coldkeys := some ["owner"]
  axons := [{ port := some 8091, isServing := none }]

def soloEnv : TickEnv where
  metagraph := .ok soloMetagraph
  block := .ok 105
  nowMs := 1000
  peerResult := fun _ => .ok (1, "verified")
  gatherPick := 0
  subnetOwner := none
  registrationLoader := fun _ => fail "no registration"
  reportLoader := fun _ => fail "no report"
  prepareWeights := none
  decisionStore := none
  saveRound := .ok ()
  saveOutcome := .ok ()
  submitWeights := fun _ => .ok (.bool true)

def soloRunner : Runner := { state := freshState "fingerprint" "secret" }

def soloLabel : TickLabel where
  env := soloEnv
  result := (tick soloSetup soloEnv soloRunner).result
  events := (tick soloSetup soloEnv soloRunner).events

theorem run_submissions_solo :
    markedRounds (eventsOf [soloLabel]) = [10] ∧
      (∀ round ∈ markedRounds (eventsOf [soloLabel]), -1 < round) ∧
      ∃ runner, ∀ pending outcome, .submitted pending outcome ∈ soloLabel.events →
        SubmittedWell soloSetup soloEnv runner pending := by
  obtain ⟨hwell, -, -, habove, -⟩ := run_submissions soloSetup "fingerprint" "secret" false
    (fun _ => .ok ()) .missing soloRunner.state [soloLabel]
    (tick soloSetup soloEnv soloRunner).state rfl (Run.single_iff.mpr rfl)
  refine ⟨by decide +kernel, habove, ?_⟩
  obtain ⟨runner, -, hsubmitted⟩ := hwell [] soloLabel [] rfl
  exact ⟨runner.state, hsubmitted⟩

end Cathedral.Thin
