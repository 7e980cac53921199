import Cathedral.Sn39.Ledger

/-!
# Cathedral.Sn39.Release — ticks that fail before signing

A broadcast tick reserves its attempt before it authorizes the chain call. The handler of
`set_weights_on_chain` releases the reservation when a later step raises, but only once it
has read the pending attempt, which it does after the wire weights, the authorization and
the chain constraints. `leavesNoTrace_iff` is the exact statement: a tick that raises
without a signed intent leaves no trace in the journal if and only if the chain call of its
reservation, where it made one, was prepared.
-/

namespace Cathedral.Sn39

open Durable

/-! ## What a tick submits -/

/-- A broadcast tick of either lane. -/
inductive BroadcastTick where
  | thin (answers : ThinAnswers) (args : Args) (bound : Option Signer)
  | authority (answers : AuthorityAnswers) (args : Args) (bound : Option Signer)

def BroadcastTick.run (sdk : Sdk) : BroadcastTick → Tick Bool
  | .thin answers args bound => thinTick sdk answers args bound
  | .authority answers args bound => authorityTick sdk answers args bound

/-- What the tick asks at the write boundary. -/
def BroadcastTick.boundary : BroadcastTick → BoundaryAnswers
  | .thin answers _ _ => answers.boundary
  | .authority answers _ _ => answers.boundary

/-- What a thin tick derives before it reserves; nothing for a vector recovered before, and
nothing for a runtime that does not broadcast. -/
def thinSubmission (sdk : Sdk) (answers : ThinAnswers) (args : Args) (bound : Option Signer)
    (world : World) : Except Exc (Option Submission) :=
  if args.Broadcasts then do
    let (preflight, signer) ← prepareTickPreflight args bound answers.chainPreflight
    answers.lock
    let locked ← enterTick answers.transition answers.refreshed args preflight signer
      (continuousTransitionRequired args world.journal && !args.launch) world.journal
    let vector ← answers.fetched
    if recoveredVectorIdle world.lane vector then do
      answers.vector.signature
      pure none
    else do
      let fence ← world.lane.policyFence
      acceptVector answers.vector args.network vector fence
      let submission ← deriveThinSubmission sdk answers args locked vector
      pure (some submission)
  else do
    let _ ← answers.dryRun
    pure none

/-- What an authority tick derives before it reserves. -/
def authoritySubmission (answers : AuthorityAnswers) (args : Args) (bound : Option Signer)
    (world : World) : Except Exc (Option Submission) :=
  if args.Broadcasts then do
    let (preflight, signer) ← prepareTickPreflight args bound answers.chainPreflight
    answers.lock
    let locked ← enterTick answers.transition answers.refreshed args preflight signer
      (continuousTransitionRequired args world.journal) world.journal
    let submission ← deriveAuthoritySubmission answers args locked world.journal
    pure (some submission)
  else do
    let _ ← answers.dryRun
    pure none

def BroadcastTick.submission (sdk : Sdk) : BroadcastTick → World → Except Exc (Option Submission)
  | .thin answers args bound => thinSubmission sdk answers args bound
  | .authority answers args bound => authoritySubmission answers args bound

/-- How a tick goes on from what it has derived. -/
inductive Continues (sdk : Sdk) (answers : BoundaryAnswers) (world : World) :
    Except Exc (Option Submission) → Outcome World Effect Exc Bool → Prop where
  | raised {e : Exc} : Continues sdk answers world (.error e) ⟨[], .error e⟩
  | idle {done : Bool} : Continues sdk answers world (.ok none) ⟨[], .ok done⟩
  | submits {s : Submission} :
      Continues sdk answers world (.ok (some s)) (broadcastSubmission sdk answers s world)

section Derivation

variable {sdk : Sdk} {answers : BoundaryAnswers} {world : World} {α : Type}

/-- A query of the derivation. -/
theorem Continues.query {x : Except Exc α} {f : α → Tick Bool}
    {g : α → Except Exc (Option Submission)}
    (h : ∀ a, x = .ok a → Continues sdk answers world (g a) (f a world)) :
    Continues sdk answers world (x >>= g) ((lift x >>= f) world) := by
  cases x with
  | error e => exact .raised
  | ok a => exact h a rfl

theorem Continues.readJournal {f : Journal → Tick Bool} {x : Except Exc (Option Submission)}
    (h : Continues sdk answers world x (f world.journal world)) :
    Continues sdk answers world x ((Tick.readJournal >>= f) world) := h

theorem Continues.readLane {f : LaneState → Tick Bool} {x : Except Exc (Option Submission)}
    (h : Continues sdk answers world x (f world.lane world)) :
    Continues sdk answers world x ((Tick.readLane >>= f) world) := h

theorem Continues.dryRun {dryRun : Except Exc Bool} :
    Continues sdk answers world (do let _ ← dryRun; pure none) (lift dryRun world) := by
  cases dryRun with
  | error e => exact .raised
  | ok done => exact .idle

theorem continues_thin (answers : ThinAnswers) (args : Args) (bound : Option Signer) :
    Continues sdk answers.boundary world (thinSubmission sdk answers args bound world)
      (thinTick sdk answers args bound world) := by
  unfold thinTick thinSubmission
  split_ifs with hbroadcasts
  · refine .query fun prepared _ => ?_
    refine .query fun _ _ => ?_
    refine .readJournal (.query fun locked _ => ?_)
    refine .query fun vector _ => .readLane ?_
    split_ifs with hidle
    · exact .query fun _ _ => .idle
    · refine .query fun fence _ => ?_
      refine .query fun _ _ => ?_
      exact .query fun submission _ => .submits
  · exact .dryRun

theorem continues_authority (answers : AuthorityAnswers) (args : Args) (bound : Option Signer) :
    Continues sdk answers.boundary world (authoritySubmission answers args bound world)
      (authorityTick sdk answers args bound world) := by
  unfold authorityTick authoritySubmission
  split_ifs with hbroadcasts
  · refine .query fun prepared _ => ?_
    refine .query fun _ _ => ?_
    refine .readJournal (.query fun locked _ => ?_)
    exact .query fun submission _ => .submits
  · exact .dryRun

theorem continues_run (tick : BroadcastTick) :
    Continues sdk tick.boundary world (tick.submission sdk world) (tick.run sdk world) := by
  cases tick with
  | thin answers args bound => exact continues_thin answers args bound
  | authority answers args bound => exact continues_authority answers args bound

end Derivation

/-! ## A tick without a signed intent -/

/-- No signed intent was journaled. -/
def Unsigned (trace : List (Effect × World)) : Prop :=
  ∀ attempt, .signed attempt ∉ effectsOf trace

/-- No attempt is pending, and attempts, budgets, fences and lane are as before. -/
structure NoTrace (before after : Journal) : Prop where
  idle : after.pending.id = none
  ledger : SameLedger before after

/-- The chain call of the reservation that the submission makes can be prepared. -/
def Submission.Prepared (sdk : Sdk) (answers : BoundaryAnswers) (s : Submission) (world : World) :
    Prop :=
  ∀ journal, world.journal.reserveCommonSubmission s.contract s.lane (sdk.attemptId s.identity)
      s.identity = .ok journal →
    ∃ wire, prepareChainCall sdk answers s.contract { world with journal := journal } s.uidWeights
      (targetHotkeys s.preflight.hotkeyToUid s.uidWeights) s.preflight s.policy = .ok wire

theorem SameLedger.refl (journal : Journal) : SameLedger journal journal :=
  ⟨rfl, rfl, rfl, rfl, rfl, rfl⟩

theorem Unsigned.of_append {xs ys : List (Effect × World)} (h : Unsigned (xs ++ ys)) :
    Unsigned xs := by
  intro attempt hmem
  apply h attempt
  unfold effectsOf at hmem ⊢
  rw [List.map_append]
  exact List.mem_append_left _ hmem

/-- What a reservation leaves: a pending attempt that could be released. -/
structure Reserved (current next : Journal) (attemptId : String) : Prop where
  wellFormed : isSha256Id attemptId = true
  releasable : next.Releasable attemptId
  ledger : SameLedger current next

theorem reserved_of_reserve {current next : Journal} {contract : Contract} {lane : Lane}
    {attemptId : String} {identity : Identity}
    (h : current.reserveCommonSubmission contract lane attemptId identity = .ok next) :
    Reserved current next attemptId := by
  unfold Journal.reserveCommonSubmission at h
  rcases bind_eq_ok.mp h with ⟨reservation, hreservation, hreserve⟩
  have hid := commonReservation_attemptId hreservation
  subst hid
  rcases reserve_case hreserve with ⟨hwell, _⟩
  exact ⟨hwell, ⟨rfl, rfl, rfl, rfl⟩, rfl, rfl, rfl, rfl, rfl, rfl⟩

section Boundary

variable {sdk : Sdk} {world : World} {α β : Type}

/-- The first effect of the computation is a signed intent; without one it has only raised. -/
def SignsFirst (p : Tick α) (world : World) : Prop :=
  Unsigned (p world).trace → ∃ e, p world = ⟨[], .error e⟩

theorem SignsFirst.query {x : Except Exc α} {f : α → Tick β}
    (h : ∀ a, x = .ok a → SignsFirst (f a) world) : SignsFirst (lift x >>= f) world := by
  cases x with
  | error e => exact fun _ => ⟨e, rfl⟩
  | ok a => exact h a rfl

theorem SignsFirst.readJournal {f : Journal → Tick β} (h : SignsFirst (f world.journal) world) :
    SignsFirst (Tick.readJournal >>= f) world := h

theorem SignsFirst.bind {p : Tick α} {f : α → Tick β} (h : SignsFirst p world) :
    SignsFirst (p >>= f) world := by
  intro hunsigned
  cases hresult : (p world).result with
  | error e =>
    rw [bind_of_error hresult] at hunsigned ⊢
    rcases h hunsigned with ⟨e', heq⟩
    rw [heq] at hresult ⊢
    cases hresult
    exact ⟨e, rfl⟩
  | ok a =>
    -- the first part would have returned without its signed intent
    rw [bind_of_ok hresult] at hunsigned
    rcases h hunsigned.of_append with ⟨e, heq⟩
    rw [heq] at hresult
    cases hresult

theorem signsFirst_signed {attempt : Journal → SignedAttempt} {op : Journal → Except Exc Journal} :
    SignsFirst (Tick.write (fun current => .signed (attempt current)) op) world := by
  intro hunsigned
  cases hop : op world.journal with
  | error e => exact ⟨e, Tick.write_of_error hop⟩
  | ok journal =>
    rw [Tick.write_of_ok hop] at hunsigned
    exact absurd (List.mem_singleton_self _) (hunsigned (attempt world.journal))

variable {preflight : ChainPreflight} {uidHotkeys : Dict ℤ String} {policy : InclusionPolicy}
  {attemptId : String}

theorem signsFirst_submitAndProve {answers : BoundaryAnswers} {contract : Contract}
    {wireUids wireWeights : List ℤ} :
    SignsFirst (submitAndProve answers contract preflight uidHotkeys policy attemptId wireUids
      wireWeights) world := by
  apply SignsFirst.bind
  apply SignsFirst.readJournal
  refine .query fun intent _ => ?_
  exact signsFirst_signed.bind

/-- A handler sees the exception that a computation without a signed intent has raised. -/
theorem SignsFirst.handle {p : Tick α} (h : SignsFirst p world) {handler : Exc → Tick α}
    (hunsigned : Unsigned (Durable.handle p handler world).trace) :
    ∃ e, Durable.handle p handler world = handler e world := by
  cases hresult : (p world).result with
  | ok a =>
    rw [handle_of_ok hresult] at hunsigned
    rcases h hunsigned with ⟨e, heq⟩
    rw [heq] at hresult
    cases hresult
  | error e =>
    rw [handle_of_error hresult] at hunsigned ⊢
    rcases h hunsigned.of_append with ⟨e', heq⟩
    rw [heq] at hresult ⊢
    cases hresult
    exact ⟨e, rfl⟩

/-- The handler of the write boundary releases the reservation. -/
theorem abortUnsigned_of_releasable (h : world.journal.Releasable attemptId) :
    abortUnsignedCommonSubmission attemptId world =
      ⟨[(.released attemptId, { world with journal := world.journal.abortUnsigned })],
        .ok true⟩ := by
  show (if world.journal.Releasable attemptId then _ else _ : Tick Bool) world = _
  rw [if_pos h]
  rfl

/-- Once its chain call is prepared, a reservation that is not signed is released. -/
theorem setWeightsOnChain_released {answers : BoundaryAnswers} {contract : Contract}
    {uidWeights : Dict ℤ ℚ} {wire : List ℤ × List ℤ} (hwell : isSha256Id attemptId = true)
    (hreleasable : world.journal.Releasable attemptId)
    (hprepared : prepareChainCall sdk answers contract world uidWeights uidHotkeys preflight
      policy = .ok wire)
    (hunsigned : Unsigned (setWeightsOnChain sdk answers contract uidWeights uidHotkeys preflight
      policy world).trace) :
    ∃ e, setWeightsOnChain sdk answers contract uidWeights uidHotkeys preflight policy world =
      ⟨[(.released attemptId, { world with journal := world.journal.abortUnsigned })],
        .error e⟩ := by
  have hid : required world.journal.pending.id
      "SN39 authorized call has no durable pending attempt" = .ok attemptId := by
    rw [required_eq_ok]
    exact hreleasable.1
  have hrefuse : refuse (isSha256Id attemptId = false)
      "SN39 authorized call has no durable pending attempt" = .ok () := by
    rw [refuse_eq_ok, hwell]
    simp
  have hcall : setWeightsOnChain sdk answers contract uidWeights uidHotkeys preflight policy world =
      Durable.handle (submitAndProve answers contract preflight uidHotkeys policy attemptId wire.1
        wire.2) (fun exc => do
          let unsignedAborted ← abortUnsignedCommonSubmission attemptId
          Tick.raise (boundaryException exc unsignedAborted)) world := by
    refine (lift_bind_of_ok hprepared).trans ?_
    exact (lift_bind_of_ok hid).trans (lift_bind_of_ok hrefuse)
  rw [hcall] at hunsigned ⊢
  rcases signsFirst_submitAndProve.handle hunsigned with ⟨e, heq⟩
  rw [heq, bind_of_ok (a := true) (by rw [abortUnsigned_of_releasable hreleasable]),
    abortUnsigned_of_releasable hreleasable]
  exact ⟨boundaryException e true, rfl⟩

/-- An exception before the pending attempt is known leaves the reservation alone. -/
theorem setWeightsOnChain_unprepared {answers : BoundaryAnswers} {contract : Contract}
    {uidWeights : Dict ℤ ℚ} {e : Exc}
    (h : prepareChainCall sdk answers contract world uidWeights uidHotkeys preflight policy =
      .error e) :
    setWeightsOnChain sdk answers contract uidWeights uidHotkeys preflight policy world =
      ⟨[], .error e⟩ := lift_bind_of_error h

variable {s : Submission}

theorem reserveAttempt_of_ok {journal : Journal}
    (h : world.journal.reserveCommonSubmission s.contract s.lane (sdk.attemptId s.identity)
      s.identity = .ok journal) :
    reserveAttempt sdk s world =
      ⟨[(.reserved (sdk.attemptId s.identity), { world with journal := journal })], .ok ()⟩ :=
  Tick.write_of_ok (orRefused_eq_ok.mpr h)

theorem reserveAttempt_of_error {e : Exc}
    (h : world.journal.reserveCommonSubmission s.contract s.lane (sdk.attemptId s.identity)
      s.identity = .error e) : ∃ e', reserveAttempt sdk s world = ⟨[], .error e'⟩ := by
  cases hrefused : orRefused (world.journal.reserveCommonSubmission s.contract s.lane
      (sdk.attemptId s.identity) s.identity)
      "submission attempt fence refused before chain write" with
  | ok journal =>
    rw [orRefused_eq_ok, h] at hrefused
    cases hrefused
  | error e' => exact ⟨e', Tick.write_of_error hrefused⟩

/-- After a reservation whose chain call is not prepared the tick only raises. -/
theorem writeAndMirror_unprepared {answers : BoundaryAnswers} {e : Exc}
    (h : prepareChainCall sdk answers s.contract world s.uidWeights
      (targetHotkeys s.preflight.hotkeyToUid s.uidWeights) s.preflight s.policy = .error e) :
    writeAndMirror sdk answers s world = ⟨[], .error e⟩ := by
  have hraised := setWeightsOnChain_unprepared h
  refine (bind_of_error (e := e) ?_).trans ?_
  · rw [hraised]
  · rw [hraised]

/-- After a prepared reservation that is not signed the tick releases it. -/
theorem writeAndMirror_released {answers : BoundaryAnswers} {wire : List ℤ × List ℤ}
    (hwell : isSha256Id attemptId = true) (hreleasable : world.journal.Releasable attemptId)
    (hprepared : prepareChainCall sdk answers s.contract world s.uidWeights
      (targetHotkeys s.preflight.hotkeyToUid s.uidWeights) s.preflight s.policy = .ok wire)
    (hunsigned : Unsigned (writeAndMirror sdk answers s world).trace) :
    ∃ e, writeAndMirror sdk answers s world =
      ⟨[(.released attemptId, { world with journal := world.journal.abortUnsigned })],
        .error e⟩ := by
  have hcall : Unsigned (setWeightsOnChain sdk answers s.contract s.uidWeights
      (targetHotkeys s.preflight.hotkeyToUid s.uidWeights) s.preflight s.policy world).trace := by
    rcases exists_bind_trace (setWeightsOnChain sdk answers s.contract s.uidWeights
      (targetHotkeys s.preflight.hotkeyToUid s.uidWeights) s.preflight s.policy) _ world with
      ⟨rest, hrest⟩
    unfold writeAndMirror at hunsigned
    rw [hrest] at hunsigned
    exact hunsigned.of_append
  rcases setWeightsOnChain_released hwell hreleasable hprepared hcall with ⟨e, hraised⟩
  refine ⟨e, (bind_of_error (e := e) ?_).trans ?_⟩
  · rw [hraised]
  · rw [hraised]

/-- The end of a tick: without a signed intent it leaves no trace exactly when the chain call
of its reservation was prepared. -/
theorem broadcast_noTrace_iff {answers : BoundaryAnswers} (hidle : world.journal.pending.id = none)
    (hunsigned : Unsigned (broadcastSubmission sdk answers s world).trace) :
    NoTrace world.journal (last world (broadcastSubmission sdk answers s world).trace).journal ↔
      s.Prepared sdk answers world := by
  unfold broadcastSubmission at hunsigned ⊢
  cases hreserve : world.journal.reserveCommonSubmission s.contract s.lane
    (sdk.attemptId s.identity) s.identity with
  | error e =>
    -- nothing was reserved
    rcases reserveAttempt_of_error hreserve with ⟨e', hraised⟩
    rw [bind_of_error (e := e') (by rw [hraised]), hraised]
    constructor
    · intro _ journal hjournal
      rw [hreserve] at hjournal
      cases hjournal
    · exact fun _ => ⟨hidle, .refl _⟩
  | ok journal =>
    have hreserved := reserved_of_reserve hreserve
    have hwrite := reserveAttempt_of_ok hreserve
    have hok : (reserveAttempt sdk s world).result = .ok () := by rw [hwrite]
    rw [bind_of_ok hok, hwrite] at hunsigned ⊢
    simp only [last_append, last_cons, last_nil] at hunsigned ⊢
    cases hprepare : prepareChainCall sdk answers s.contract { world with journal := journal }
      s.uidWeights (targetHotkeys s.preflight.hotkeyToUid s.uidWeights) s.preflight s.policy with
    | error e =>
      rw [writeAndMirror_unprepared hprepare, last_nil]
      constructor
      · -- the reservation is still pending
        intro hnoTrace
        have hpending := hreserved.releasable.1
        rw [hnoTrace.idle] at hpending
        cases hpending
      · intro hprepared
        rcases hprepared journal hreserve with ⟨wire, hwire⟩
        rw [hprepare] at hwire
        cases hwire
    | ok wire =>
      have hrest : Unsigned (writeAndMirror sdk answers s { world with journal := journal }).trace :=
        fun attempt hmem => hunsigned attempt (List.mem_cons_of_mem _ hmem)
      rcases writeAndMirror_released hreserved.wellFormed hreserved.releasable hprepare hrest with
        ⟨e, hreleased⟩
      rw [hreleased]
      constructor
      · intro _ journal' hjournal'
        rw [hreserve] at hjournal'
        cases hjournal'
        exact ⟨wire, hprepare⟩
      · intro _
        exact ⟨rfl, hreserved.ledger.attemptIds, hreserved.ledger.budgets,
          hreserved.ledger.activeLane, hreserved.ledger.highestPolicyVersion,
          hreserved.ledger.highestSourceEpoch, hreserved.ledger.launchIds⟩

end Boundary

/-! ## Ticks -/

/-- The chain call of the reservation that a tick makes can be prepared. -/
def BroadcastTick.Prepared (sdk : Sdk) (tick : BroadcastTick) (world : World) : Prop :=
  ∀ s, tick.submission sdk world = .ok (some s) → s.Prepared sdk tick.boundary world

/-- A tick without a signed intent, from a journal without a pending attempt, leaves no trace
exactly when the chain call of the reservation it made was prepared. -/
theorem leavesNoTrace_iff {sdk : Sdk} {tick : BroadcastTick} {world : World}
    (hidle : world.journal.pending.id = none)
    (hunsigned : Unsigned (tick.run sdk world).trace) :
    NoTrace world.journal (last world (tick.run sdk world).trace).journal ↔
      tick.Prepared sdk world := by
  have hcontinues : Continues sdk tick.boundary world (tick.submission sdk world)
      (tick.run sdk world) := continues_run tick
  unfold BroadcastTick.Prepared
  generalize tick.submission sdk world = submission at hcontinues ⊢
  generalize tick.run sdk world = outcome at hcontinues hunsigned ⊢
  cases hcontinues with
  | raised =>
    constructor
    · intro _ s hs
      cases hs
    · exact fun _ => ⟨hidle, .refl _⟩
  | idle =>
    constructor
    · intro _ s hs
      cases hs
    · exact fun _ => ⟨hidle, .refl _⟩
  | submits =>
    rw [broadcast_noTrace_iff hidle hunsigned]
    constructor
    · intro hprepared s hs
      cases hs
      exact hprepared
    · exact fun hprepared => hprepared _ rfl

/-! A relay whose second query of the uid bindings fails, inside the authorization. -/

def strandedTick : BroadcastTick :=
  .thin (relayAnswers 3 (.error (.other "ConnectionError" "connection lost"))) relayArgs none

def strandedWorld : World := last {} (strandedTick.run relaySdk {}).trace

theorem strandedTick_effects :
    effectsOf (strandedTick.run relaySdk {}).trace = [.reserved relayAttemptId] := by
  decide +kernel

theorem strandedTick_unsigned : Unsigned (strandedTick.run relaySdk {}).trace := by
  intro attempt hmem
  rw [strandedTick_effects, List.mem_singleton] at hmem
  cases hmem

theorem leavesNoTrace_iff_stranded :
    NoTrace {} strandedWorld.journal ↔ strandedTick.Prepared relaySdk {} :=
  leavesNoTrace_iff rfl strandedTick_unsigned

/-- The failed query leaves its reservation pending, and the next tick of the process, on a
healthy chain and with a newer vector, is refused for it. -/
theorem failed_query_strands_reservation :
    ({} : Journal).pending.id = none ∧ Unsigned (strandedTick.run relaySdk {}).trace ∧
      (strandedTick.run relaySdk {}).result =
        .error (.other "ConnectionError" "connection lost") ∧
      ¬ NoTrace {} strandedWorld.journal ∧
      ((thinTick relaySdk (relayAnswers 4 (.ok ⟨"stable"⟩)) relayArgs none).discard
          strandedWorld).result =
        fail "submission attempt fence refused before chain write" := by
  refine ⟨rfl, strandedTick_unsigned, by decide +kernel, ?_, by decide +kernel⟩
  intro hnoTrace
  have hpending : strandedWorld.journal.pending.id = some relayAttemptId := by decide +kernel
  rw [hnoTrace.idle] at hpending
  cases hpending

end Cathedral.Sn39
