import Cathedral.Thin.Submission

/-!
# Cathedral.Thin.Commit — what a failed tick leaves behind

`run_validator_loop` catches every exception of a tick and calls it again, so
that a tick which fails before it submits anything should be repeatable: the
round must not count as completed.

The tick keeps to this as long as it raises before `commitRound`. There the
five fields of the state are assigned first, and three things can still raise:
the lookup of the uids that the weight processor returned, the digest of the
vector, and the write of the state. `tick_retains_iff` says that these are the
only ways to lose a round, and that each of them does lose it.
-/

namespace Cathedral.Thin

/-- The fields that a failed tick must leave alone. -/
structure RetainsRound (before after : ValidatorState) : Prop where
  emaScores : after.emaScores = before.emaScores
  classCheckpoints : after.classCheckpoints = before.classCheckpoints
  registrationCheckpoints : after.registrationCheckpoints = before.registrationCheckpoints
  lastCompletedRound : after.lastCompletedRound = before.lastCompletedRound
  pendingVector : after.pendingVector = before.pendingVector

theorem RetainsRound.refl (state : ValidatorState) : RetainsRound state state :=
  ⟨rfl, rfl, rfl, rfl, rfl⟩

/-- A tick that raises before a submission is attempted leaves the round to be
scored again. -/
def FailureRetainsRound (setup : Setup) (env : TickEnv) (runner : Runner) : Prop :=
  (∃ e, (tick setup env runner).result = .error e) →
    (∀ pending outcome, .submitted pending outcome ∉ (tick setup env runner).events) →
    RetainsRound runner.state (tick setup env runner).state.state

/-! ## Marking a prepared vector -/

/-- Every uid of the vector belongs to a hotkey of the metagraph. -/
def UidsKnown (peers : List Peer) (uids : List ℤ) : Prop :=
  ∀ uid ∈ uids, ∃ hotkey, (hotkeyByUid peers).get? uid = some hotkey ∧ hotkey ≠ ""

theorem pendingHotkeys_eq_ok {peers : List Peer} {uids : List ℤ} {hotkeys : List String} :
    pendingHotkeys peers uids = .ok hotkeys ↔
      List.Forall₂ (fun uid hotkey => (hotkeyByUid peers).get? uid = some hotkey) uids hotkeys := by
  rw [pendingHotkeys, mapM_eq_ok]
  constructor
  all_goals
    intro h
    refine h.imp fun uid hotkey hitem => ?_
  · cases hget : (hotkeyByUid peers).get? uid with
    | none => simp [hget, fail] at hitem
    | some found =>
      rw [hget] at hitem
      cases hitem
      rfl
  · rw [hitem]
    rfl

theorem pendingHotkeys_of_known {peers : List Peer} : ∀ {uids : List ℤ}, UidsKnown peers uids →
    ∃ hotkeys, pendingHotkeys peers uids = .ok hotkeys ∧ ∀ hotkey ∈ hotkeys, hotkey ≠ ""
  | [], _ => ⟨[], pendingHotkeys_eq_ok.mpr .nil, by simp⟩
  | uid :: rest, hknown => by
    rcases hknown uid (List.mem_cons_self ..) with ⟨hotkey, hget, hne⟩
    rcases pendingHotkeys_of_known fun u hu => hknown u (List.mem_cons_of_mem _ hu)
      with ⟨hotkeys, hrest, hall⟩
    refine ⟨hotkey :: hotkeys,
      pendingHotkeys_eq_ok.mpr (.cons hget (pendingHotkeys_eq_ok.mp hrest)), ?_⟩
    exact List.forall_mem_cons.mpr ⟨hne, hall⟩

variable {setup : Setup} {round : OpenRound} {composed : ComposedRound} {prepared : PreparedRound}

/-- The uids of a marked vector are known and its registration ids are bound. -/
theorem known_of_marked {pending : PendingVector}
    (hmarked : MarkedVector setup round composed prepared pending) :
    UidsKnown round.peers prepared.uids ∧
      BindingsValid (registrationIds composed.registrations) := by
  rcases (vectorDigest_isOk _ _ _ _ _ _).mp ⟨_, hmarked.digest⟩ with
    ⟨⟨hlen, -, -⟩, ⟨htriples, -⟩, -, hbindings⟩
  have hpairs := pendingHotkeys_eq_ok.mp hmarked.hotkeys
  rw [hmarked.uids] at hlen htriples
  refine ⟨fun uid huid => ?_, hbindings⟩
  rcases List.mem_iff_getElem.mp huid with ⟨i, hi, rfl⟩
  have hi' : i < pending.hotkeys.length := hpairs.length_eq ▸ hi
  have hbound : i < (prepared.uids.zip (pending.weights.zip pending.hotkeys)).length := by
    simp only [List.length_zip]
    omega
  -- the digest has checked the triple at this index
  have hmem : (prepared.uids[i], pending.weights[i], pending.hotkeys[i]) ∈
      prepared.uids.zip (pending.weights.zip pending.hotkeys) :=
    List.mem_iff_getElem.mpr ⟨i, hbound, by simp⟩
  exact ⟨pending.hotkeys[i], (List.forall₂_iff_get.mp hpairs).2 i hi hi', (htriples _ hmem).2.2.2⟩

variable {env : TickEnv}

/-- A prepared vector whose uids are known can be marked: the decision document
has already checked its uids and weights. -/
theorem markRound_of_known (state : ValidatorState)
    (hprepared : prepareRound setup env round composed = .ok prepared) (hsome : prepared.uids ≠ [])
    (hknown : UidsKnown round.peers prepared.uids)
    (hbindings : BindingsValid (registrationIds composed.registrations)) :
    ∃ state', markRound setup round composed prepared state = .ok state' := by
  rcases decisionDocument_ok (prepareRound_ok hprepared) with
    ⟨-, hdigest, haligned, hunique, hvalues⟩
  rcases pendingHotkeys_of_known hknown with ⟨hotkeys, hhotkeys, hne⟩
  have hlen : prepared.uids.length = hotkeys.length :=
    (pendingHotkeys_eq_ok.mp hhotkeys).length_eq
  have htriples : PairsValid (prepared.uids.zip (prepared.weights.zip hotkeys)) [] := by
    constructor
    · rintro ⟨uid, weight, hotkey⟩ hmem
      have hhotkey : hotkey ∈ hotkeys := (List.of_mem_zip (List.of_mem_zip hmem).2).2
      have hpair : (uid, weight) ∈ prepared.uids.zip prepared.weights := by
        rcases List.mem_iff_getElem.mp hmem with ⟨i, hi, heq⟩
        simp only [List.length_zip] at hi
        simp only [List.getElem_zip, Prod.mk.injEq] at heq
        refine List.mem_iff_getElem.mpr ⟨i, by simp only [List.length_zip]; omega, ?_⟩
        rw [List.getElem_zip, heq.1, heq.2.1]
      exact ⟨(hvalues _ hpair).1, by simp, (hvalues _ hpair).2, hne _ hhotkey⟩
    · have hmap : (prepared.uids.zip (prepared.weights.zip hotkeys)).map Prod.fst =
          prepared.uids := by
        refine List.map_fst_zip ?_
        rw [List.length_zip]
        omega
      rw [hmap]
      exact hunique
  have hprovenance : ∀ digest ∈ some prepared.decisionDigest, isSha256Ref digest = true := by
    intro digest hmem
    cases hmem
    rw [hdigest]
    exact Sha256.isSha256Ref_tagged _
  rcases (vectorDigest_isOk setup.vectorHash prepared.uids prepared.weights hotkeys
    (some prepared.decisionDigest) (registrationIds composed.registrations)).mpr
      ⟨⟨haligned, hlen, hsome⟩, htriples, hprovenance, hbindings⟩ with ⟨digest, hvector⟩
  exact ⟨_, bind_eq_ok.mpr ⟨hotkeys, hhotkeys, bind_eq_ok.mpr ⟨digest, hvector, rfl⟩⟩⟩

/-! ## Submitting a vector in the tick that marked it -/

variable {state : ValidatorState}

theorem submitVector_submitted (env : TickEnv) {pending : PendingVector}
    (hp : state.pendingVector = some pending) :
    ∃ outcome, .submitted pending outcome ∈ (submitVector env state pending).events := by
  unfold submitVector
  cases env.submitWeights pending with
  | error e =>
    rw [recordFailure_eq hp]
    exact ⟨.raised, List.mem_singleton_self _⟩
  | ok response =>
    simp only
    split_ifs with hok
    · simp only [noteSubmissionSuccess, hp, pure, Except.pure]
      exact ⟨.succeeded, List.mem_singleton_self _⟩
    · rw [recordFailure_eq hp]
      exact ⟨.failed _, List.mem_singleton_self _⟩

/-- A vector marked in this tick is neither stale nor bound to other
registrations, so that its submission is deferred or attempted. -/
theorem submitPending_fresh {pending : PendingVector} (hbroadcast : setup.broadcast = true)
    (hpeers : snapshotPeers round.metagraph = .ok round.peers)
    (hmarked : MarkedVector setup round composed prepared pending)
    (hp : state.pendingVector = some pending) :
    (∃ value, (submitPending setup env state (some round.metagraph)
        (some (registrationIds composed.registrations))).result = .ok value) ∨
      ∃ outcome, .submitted pending outcome ∈ (submitPending setup env state
        (some round.metagraph) (some (registrationIds composed.registrations))).events := by
  have hstale : isStale pending round.peers = false := by
    refine List.any_eq_false.mpr fun pair hpair => ?_
    have hpairs := pendingHotkeys_eq_ok.mp hmarked.hotkeys
    rw [hmarked.uids] at hpair
    simpa using (List.forall₂_iff_zip.mp hpairs).2 hpair
  have hcheck : checkRegistrations setup env state round.peers pending
      (some (registrationIds composed.registrations)) = .proceed := by
    have hsame : (registrationIds composed.registrations).sameItems
        pending.registrationIds = true := by
      rw [hmarked.registrationIds]
      exact Dict.sameItems_iff.mpr fun k => (Dict.get?_sorted _ k).symm
    simp only [checkRegistrations, compareRegistrations, hsame, if_true, ite_self]
  have hread : (some round.metagraph).elim env.metagraph Except.ok >>= snapshotPeers =
      .ok round.peers := hpeers
  simp only [submitPending, hp, hmarked.fresh, hread, hbroadcast, hstale, hcheck]
  by_cases hdue : env.nowMs < 0
  · exact .inl ⟨false, by simp [hdue]⟩
  · simp only [hdue, if_false, not_true, Bool.false_eq_true, false_and]
    exact .inr (submitVector_submitted env hp)

/-! ## Which ticks are repeatable -/

/-- Nothing fails once the state has been assigned: it is saved, the uids of
the prepared vector belong to the metagraph and the registration ids of the
round can be bound to it. -/
def CommitReturns (env : TickEnv) (round : OpenRound) (composed : ComposedRound)
    (prepared : PreparedRound) : Prop :=
  env.saveRound = .ok () ∧
    (prepared.uids ≠ [] → UidsKnown round.peers prepared.uids ∧
      BindingsValid (registrationIds composed.registrations))

/-- What a failed tick must not be for its round to be scored again. -/
def CommitSafe (setup : Setup) (env : TickEnv) (runner : Runner) : Prop :=
  setup.broadcast = true → ∀ round composed prepared,
    openRound setup env runner = .ok (some round) →
    composeRound setup env runner.state round = .ok composed →
    prepareRound setup env round composed = .ok prepared →
    CommitReturns env round composed prepared

theorem commitCase_returns {o : Outcome ValidatorState} (hbroadcast : setup.broadcast = true)
    (hpeers : snapshotPeers round.metagraph = .ok round.peers)
    (hprepared : prepareRound setup env round composed = .ok prepared)
    (hsafe : CommitReturns env round composed prepared)
    (h : CommitCase setup env state round composed prepared o) :
    (∃ value, o.result = .ok value) ∨
      ∃ pending outcome, .submitted pending outcome ∈ o.events := by
  rcases hsafe with ⟨hsave, hknown⟩
  cases h with
  | empty _ =>
    left
    exact ⟨true, by rw [saveAndReturn, hsave]; rfl⟩
  | unmarked hsome herror =>
    rcases markRound_of_known (state.completeRound round.roundId composed) hprepared hsome
      (hknown hsome).1 (hknown hsome).2 with ⟨state', hok⟩
    rw [herror] at hok
    cases hok
  | unsaved _ _ herror =>
    rw [hsave] at herror
    cases herror
  | @marked pending _ _ hmarked _ houtcome =>
    rw [houtcome]
    have hpending : ({ state.completeRound round.roundId composed with
        pendingVector := some pending }).pendingVector = some pending := rfl
    rcases submitPending_fresh hbroadcast hpeers hmarked hpending with
      hreturn | ⟨outcome, hmem⟩
    · exact .inl hreturn
    · exact .inr ⟨_, outcome, List.mem_cons_of_mem _ hmem⟩

theorem commitCase_loses {o : Outcome ValidatorState}
    (hlossy : ¬ CommitReturns env round composed prepared)
    (h : CommitCase setup env state round composed prepared o) :
    (∃ e, o.result = .error e) ∧ (∀ pending outcome, .submitted pending outcome ∉ o.events) ∧
      o.state.lastCompletedRound = round.roundId := by
  cases h with
  | empty hempty =>
    cases hsave : env.saveRound with
    | ok u => exact absurd ⟨hsave, fun hsome => absurd hempty hsome⟩ hlossy
    | error e => exact ⟨⟨e, rfl⟩, by simp [saveAndReturn], rfl⟩
  | unmarked _ _ => exact ⟨⟨_, rfl⟩, by simp, rfl⟩
  | unsaved _ _ _ => exact ⟨⟨_, rfl⟩, by simp, rfl⟩
  | marked _ hmarked hsave _ => exact absurd ⟨hsave, fun _ => known_of_marked hmarked⟩ hlossy

theorem tick_commit {runner : Runner} (hp : runner.state.pendingVector = none)
    (hbroadcast : setup.broadcast = true) (hopen : openRound setup env runner = .ok (some round))
    (hcomposed : composeRound setup env runner.state round = .ok composed)
    (hprepared : prepareRound setup env round composed = .ok prepared) :
    tick setup env runner =
      ⟨{ runner with
          state := (commitRound setup env runner.state round composed prepared).state },
        (commitRound setup env runner.state round composed prepared).result,
        .composed composed.hotkeyWeights ::
          (commitRound setup env runner.state round composed prepared).events⟩ := by
  simp [tick, hp, hopen, scoreRound, hcomposed, hprepared, hbroadcast]

/-- A failed tick leaves its round to be scored again exactly when it did not
fail in the commit. -/
theorem tick_retains_iff (setup : Setup) (env : TickEnv) (runner : Runner)
    (hp : runner.state.pendingVector = none) :
    FailureRetainsRound setup env runner ↔ CommitSafe setup env runner := by
  constructor
  · intro hretains hbroadcast round composed prepared hopen hcomposed hprepared
    by_contra hlossy
    have hcase := commitRound_case setup env runner.state round composed prepared
    rcases commitCase_loses hlossy hcase with ⟨hraise, hnone, hlast⟩
    have htick := tick_commit hp hbroadcast hopen hcomposed hprepared
    have hkept : RetainsRound runner.state (tick setup env runner).state.state := by
      refine hretains ?_ ?_
      · rw [htick]
        exact hraise
      · rw [htick]
        intro pending outcome hmem
        exact hnone pending outcome (by simpa using hmem)
    -- the commit has moved the round forward
    have hround : round.roundId = runner.state.lastCompletedRound := by
      rw [← hkept.lastCompletedRound, htick]
      exact hlast.symm
    have hlater := (openRound_some hopen).2.2.2
    omega
  · rintro hsafe ⟨e, hraise⟩ hnone
    have hcase := tick_case setup env runner
    generalize tick setup env runner = o at hcase hraise hnone ⊢
    cases hcase with
    | idle _ => exact RetainsRound.refl _
    | resumed hsome _ =>
      rw [hp] at hsome
      cases hsome
    | committed _ hbroadcast hopen hcomposed hprepared hcase =>
      have hreturns := hsafe hbroadcast _ _ _ hopen hcomposed hprepared
      rcases commitCase_returns hbroadcast (openRound_some hopen).2.1 hprepared hreturns hcase
        with ⟨value, hvalue⟩ | ⟨pending, outcome, hmem⟩
      · rw [hvalue] at hraise
        cases hraise
      · exact absurd (List.mem_cons_of_mem _ hmem) (hnone pending outcome)

theorem tick_retains_iff_solo : CommitSafe soloSetup soloEnv soloRunner := by
  refine (tick_retains_iff soloSetup soloEnv soloRunner rfl).mp ?_
  rintro ⟨e, he⟩ -
  have hok : (tick soloSetup soloEnv soloRunner).result = .ok true := by decide +kernel
  rw [hok] at he
  cases he

/-- A weight processor that answers with a uid outside the metagraph. -/
def unknownUidEnv : TickEnv :=
  { soloEnv with prepareWeights := some fun _ _ _ => .ok ([8], [.finite 1]) }

/-- The unknown uid is found only after round 10 has been counted as completed:
the tick raises without submitting, and the next tick has nothing to score. -/
theorem unknown_uid_loses_round :
    soloRunner.state.pendingVector = none ∧
      ¬ FailureRetainsRound soloSetup unknownUidEnv soloRunner ∧
      (tick soloSetup unknownUidEnv soloRunner).result =
        fail "weight processor returned unknown UID 8" ∧
      (tick soloSetup soloEnv (tick soloSetup unknownUidEnv soloRunner).state).events = [] := by
  have hraise : (tick soloSetup unknownUidEnv soloRunner).result =
      fail "weight processor returned unknown UID 8" := by decide +kernel
  have hlost : (tick soloSetup unknownUidEnv soloRunner).state.state.lastCompletedRound = 10 := by
    decide +kernel
  have hevents : (tick soloSetup unknownUidEnv soloRunner).events.all
      (fun e => match e with
        | .submitted _ _ => false
        | _ => true) = true := by decide +kernel
  refine ⟨rfl, fun hretains => ?_, hraise, List.eq_nil_of_length_eq_zero (by decide +kernel)⟩
  have hkept := hretains ⟨_, hraise⟩ fun pending outcome hmem => by
    simpa using List.all_eq_true.mp hevents _ hmem
  have hlast := hkept.lastCompletedRound
  rw [hlost] at hlast
  exact absurd hlast (by decide)

end Cathedral.Thin
