import Cathedral.Lib.Intents
import Cathedral.Sn39.Recovery

/-!
# Cathedral.Sn39.Protocol — the journal as a state machine

Any number of processes share one journal. A process enters it by a thin tick, an
authority tick, a restart recovery or a launch reconciliation, each of which holds the
submission lock; a crash keeps the effects up to any point. `Move` lists what one
effect can do, and `keeps_session` shows that no session does anything else, whatever
the chain answers or raises.
-/

namespace Cathedral.Sn39

open Durable

/-! ## Moves -/

/-- The signed intent that is neither finalized nor retired: attempt id and hash. -/
def Journal.outstanding (journal : Journal) : Option (String × String) :=
  match journal.pending.id, journal.pending.phase, journal.pending.broadcastIntent with
  | some id, some .signedIntent, some intent => some (id, intent.extrinsicHash)
  | _, _, _ => none

theorem outstanding_eq_some {journal : Journal} {id hash : String} :
    journal.outstanding = some (id, hash) ↔
      journal.pending.id = some id ∧ journal.pending.phase = some .signedIntent ∧
        ∃ intent ∈ journal.pending.broadcastIntent, intent.extrinsicHash = hash := by
  unfold Journal.outstanding
  cases journal.pending.id with
  | none => simp
  | some id' =>
    cases journal.pending.phase with
    | none => simp
    | some phase =>
      cases phase <;> cases journal.pending.broadcastIntent <;> simp

theorem outstanding_eq_none {journal : Journal}
    (h : journal.pending.id = none ∨ journal.pending.phase ≠ some .signedIntent) :
    journal.outstanding = none := by
  apply Option.eq_none_iff_forall_not_mem.mpr
  intro intent hintent
  rcases outstanding_eq_some.mp hintent with ⟨hid, hphase, _⟩
  rcases h with hnone | hne
  · rw [hnone] at hid
    cases hid
  · exact hne hphase

/-- What the effects of a session can do. -/
inductive Move (sdk : Sdk) (world : World) : Effect → World → Prop where
  | reserved {r : Reservation} {journal : Journal} (hreserve : world.journal.reserve r = .ok journal) :
      Move sdk world (.reserved r.attemptId) { world with journal := journal }
  | signed {attemptId : String} {intent : BroadcastIntent} {journal : Journal}
      (hcommit : world.journal.commitPendingSignedAttempt attemptId
        { intent with extrinsicHash := lower intent.extrinsicHash } = .ok journal) :
      Move sdk world (.signed (world.journal.signedAttempt intent)) { world with journal := journal }
  | submitted {attemptId extrinsicHash : String}
      (hopen : world.journal.outstanding = some (attemptId, extrinsicHash))
      (hfresh : ∀ call ∈ world.submitted, call.1 ≠ attemptId) :
      Move sdk world (.submitted attemptId extrinsicHash)
        { world with submitted := world.submitted ++ [(attemptId, extrinsicHash)] }
  | receiptRecorded {attemptId : String} {receipt : Receipt}
      (hid : world.journal.pending.id = some attemptId) :
      Move sdk world (.receiptRecorded attemptId)
        { world with journal := { world.journal with pending := { world.journal.pending with
            receiptCandidate := some receipt, proofStatus := some .pending } } }
  | proofRecorded {attemptId : String} {status : ProofStatus}
      (hid : world.journal.pending.id = some attemptId) :
      Move sdk world (.proofRecorded attemptId status)
        { world with journal := { world.journal with pending := { world.journal.pending with
            proofStatus := some status } } }
  | finalized {attemptId : String} {submission : ChainSubmission} {versionKey : ℤ}
      {journal : Journal} (hfinalize : world.journal.finalizeCommonSubmission sdk attemptId
        submission versionKey = .ok journal) :
      Move sdk world (.finalized attemptId) { world with journal := journal }
  | released {attemptId : String} (hreleasable : world.journal.Releasable attemptId) :
      Move sdk world (.released attemptId) { world with journal := world.journal.abortUnsigned }
  | expired {attemptId : String} {journal : Journal}
      (hexpire : world.journal.expirePendingCommonSubmission attemptId = .ok journal) :
      Move sdk world (.expired attemptId) { world with journal := journal }
  | enabled {attemptId : String} {publicSeal : PublicSeal}
      (hstatus : world.journal.launch.status = some .finalized)
      (hlaunch : world.journal.launch.attemptId = some attemptId) :
      Move sdk world (.enabled (some attemptId))
        { world with journal := world.journal.enableContinuous publicSeal }
  | mirrored {attemptId : String} {lane : LaneState} :
      Move sdk world (.mirrored attemptId) { world with lane := lane }

/-! ## Refinement of the log of signed intents -/

/-- The log that a world keeps. -/
def World.intents (world : World) : Intents.Log String String :=
  ⟨world.journal.attemptIds, world.journal.outstanding, world.submitted.map Prod.fst⟩

/-- What an effect means for the log. -/
def Effect.intent : Effect → Intents.Move String String
  | .signed attempt => .signed attempt.id attempt.extrinsicHash
  | .submitted attemptId extrinsicHash => .submitted attemptId extrinsicHash
  | .finalized attemptId => .retired attemptId
  | .expired attemptId => .retired attemptId
  | _ => .idle

section Refinement

variable {sdk : Sdk} {world next : World}

/-- A signed intent is outstanding under its attempt id. -/
theorem exists_outstanding {journal : Journal} {attemptId : String} {intent : BroadcastIntent}
    (hid : journal.pending.id = some attemptId) (hphase : journal.pending.phase = some .signedIntent)
    (hintent : journal.pending.broadcastIntent = some intent) :
    journal.outstanding = some (attemptId, intent.extrinsicHash) :=
  outstanding_eq_some.mpr ⟨hid, hphase, intent, hintent, rfl⟩

/-- An effect that leaves the attempts and the outstanding intent alone is idle. -/
theorem idle_step (hids : next.journal.attemptIds = world.journal.attemptIds)
    (hopen : next.journal.outstanding = world.journal.outstanding)
    (hsubmitted : next.submitted = world.submitted) :
    Intents.Step world.intents .idle next.intents := by
  have hsame : next.intents = world.intents := by
    unfold World.intents
    rw [hids, hopen, hsubmitted]
  rw [hsame]
  exact .idle

/-- An effect that signs a fresh attempt while nothing is outstanding. -/
theorem signed_step {attemptId hash : String} (hclosed : world.journal.outstanding = none)
    (hfresh : attemptId ∉ world.journal.attemptIds)
    (hids : next.journal.attemptIds = world.journal.attemptIds ++ [attemptId])
    (hopen : next.journal.outstanding = some (attemptId, hash))
    (hsubmitted : next.submitted = world.submitted) :
    Intents.Step world.intents (.signed attemptId hash) next.intents := by
  unfold World.intents
  rw [hclosed, hids, hopen, hsubmitted]
  exact .signed hfresh

/-- An effect that retires the outstanding intent. -/
theorem retired_step {attemptId hash : String}
    (hopen : world.journal.outstanding = some (attemptId, hash))
    (hids : next.journal.attemptIds = world.journal.attemptIds)
    (hclosed : next.journal.outstanding = none) (hsubmitted : next.submitted = world.submitted) :
    Intents.Step world.intents (.retired attemptId) next.intents := by
  unfold World.intents
  rw [hids, hclosed, hsubmitted, hopen]
  exact .retired

/-- Every effect of a session is a step of the log of signed intents. -/
theorem intents_step {effect : Effect} (h : Move sdk world effect next) :
    Intents.Step world.intents effect.intent next.intents := by
  cases h with
  | reserved hreserve =>
    rcases reserve_case hreserve with ⟨_, hidle, _⟩
    refine idle_step rfl ?_ rfl
    rw [outstanding_eq_none (.inl hidle)]
    exact outstanding_eq_none (.inr (by simp [Reservation.pending]))
  | @signed attemptId intent journal hcommit =>
    rcases commit_case hcommit with ⟨hreserved, hlane, _, hfresh⟩
    rcases hreserved with ⟨hid, hphase, _⟩
    have hclosed : world.journal.outstanding = none := by
      refine outstanding_eq_none (.inr ?_)
      rw [hphase]
      simp
    have hmove : (Effect.signed (world.journal.signedAttempt intent)).intent =
        .signed attemptId (lower intent.extrinsicHash) := by
      simp [Effect.intent, Journal.signedAttempt, hid]
    rw [hmove]
    exact signed_step hclosed hfresh rfl (outstanding_eq_some.mpr ⟨hid, rfl, _, rfl, rfl⟩) rfl
  | @submitted attemptId extrinsicHash hopen hfresh =>
    unfold World.intents
    simp only [hopen, List.map_append, List.map_cons, List.map_nil]
    refine .submitted ?_
    rw [List.mem_map]
    rintro ⟨call, hcall, hid⟩
    exact hfresh call hcall hid
  | receiptRecorded _ => exact idle_step rfl rfl rfl
  | proofRecorded _ => exact idle_step rfl rfl rfl
  | finalized hfinalize =>
    rcases finalize_case hfinalize with ⟨hid, hphase, hcall, _⟩
    have hintent := (checkFinalization_ok hcall).2.2.intent
    exact retired_step (exists_outstanding hid hphase hintent) rfl
      (outstanding_eq_none (.inl rfl)) rfl
  | released hreleasable =>
    refine idle_step rfl ?_ rfl
    rw [outstanding_eq_none (.inl rfl), outstanding_eq_none (.inr _)]
    rw [hreleasable.2.1]
    simp
  | expired hexpire =>
    rcases expire_case hexpire with ⟨hid, hphase, _, hintent⟩
    exact retired_step (exists_outstanding hid hphase hintent) rfl
      (outstanding_eq_none (.inl rfl)) rfl
  | enabled _ _ => exact idle_step rfl rfl rfl
  | mirrored => exact idle_step rfl rfl rfl

end Refinement

/-! ## Sessions -/

/-- Only journaled attempts are outstanding or submitted. -/
def World.Sound (world : World) : Prop := world.intents.Sound

theorem sound_of_move {sdk : Sdk} {world next : World} {effect : Effect} (hsound : world.Sound)
    (h : Move sdk world effect next) : next.Sound := Intents.sound_step hsound (intents_step h)

/-- One entry of a process into the journal. -/
inductive Session where
  | thin (answers : ThinAnswers) (args : Args) (bound : Option Signer)
  | authority (answers : AuthorityAnswers) (args : Args) (bound : Option Signer)
  | recovery (answers : RecoveryAnswers) (args : Args) (bound : Option Signer)
  | reconcile (answers : ReconcileAnswers) (args : Args) (bound : Option Signer)

/-- A computation whose result is forgotten. -/
def Tick.discard {α : Type} (tick : Tick α) : Tick Unit := do
  let _ ← tick
  pure ()

def runSession (sdk : Sdk) : Session → Tick Unit
  | .thin answers args bound => (thinTick sdk answers args bound).discard
  | .authority answers args bound => (authorityTick sdk answers args bound).discard
  | .recovery answers args bound => (recoverPendingLaunchReceipt sdk answers args bound).discard
  | .reconcile answers args bound => reconcileLaunchTransition sdk answers args bound

section Keeps

variable {sdk : Sdk}

theorem keeps_write {label : Journal → Effect} {op : Journal → Except Exc Journal}
    (h : ∀ (world : World) journal, op world.journal = .ok journal →
      Move sdk world (label world.journal) { world with journal := journal }) :
    Keeps (Move sdk) World.Sound (Tick.write label op) := by
  intro world hsound
  refine Tick.wp_write.mpr ⟨?_, fun _ _ => hsound⟩
  intro journal hjournal
  exact ⟨h world journal hjournal, sound_of_move hsound (h world journal hjournal)⟩

variable {attemptId : String}

theorem keeps_mirror {op : LaneState → Except Exc LaneState} :
    Keeps (Move sdk) World.Sound (Tick.writeLane (.mirrored attemptId) op) := by
  intro world hsound
  refine Tick.wp_writeLane.mpr ⟨?_, fun _ _ => hsound⟩
  intro lane _
  have hmove : Move sdk world (.mirrored attemptId) { world with lane := lane } := .mirrored
  exact ⟨hmove, sound_of_move hsound hmove⟩

theorem keeps_readJournal : Keeps (Move sdk) World.Sound Tick.readJournal :=
  fun _ hsound => Tick.wp_readJournal.mpr hsound

theorem keeps_readLane : Keeps (Move sdk) World.Sound Tick.readLane :=
  fun _ hsound => Tick.wp_readLane.mpr hsound

theorem keeps_ite {α : Type} {condition : Prop} [Decidable condition] {p q : Tick α}
    (hp : Keeps (Move sdk) World.Sound p) (hq : Keeps (Move sdk) World.Sound q) :
    Keeps (Move sdk) World.Sound (if condition then p else q) := by
  split_ifs
  · exact hp
  · exact hq

theorem keeps_discard {α : Type} {p : Tick α} (hp : Keeps (Move sdk) World.Sound p) :
    Keeps (Move sdk) World.Sound p.discard := hp.bind fun _ => .pure ()

theorem keeps_proofRecorded {status : ProofStatus} :
    Keeps (Move sdk) World.Sound (Tick.write (fun _ => .proofRecorded attemptId status)
      fun current => current.recordPendingProofStatus attemptId status) := by
  refine keeps_write fun world journal hjournal => ?_
  unfold Journal.recordPendingProofStatus at hjournal
  rcases bind_eq_ok.mp hjournal with ⟨_, _, hrecord⟩
  rcases recordFor_ok hrecord with ⟨hid, rfl⟩
  exact .proofRecorded hid

variable {wireUids wireWeights : List ℤ}

theorem keeps_receiptRecorded {submission : ChainSubmission} {versionKey : ℤ} :
    Keeps (Move sdk) World.Sound (Tick.write (fun _ => .receiptRecorded attemptId) fun current =>
      current.recordPendingSubmissionReceipt attemptId submission versionKey wireUids
        wireWeights) := by
  refine keeps_write fun world journal hjournal => ?_
  unfold Journal.recordPendingSubmissionReceipt at hjournal
  split at hjournal
  · rcases bind_eq_ok.mp hjournal with ⟨_, _, hrecord⟩
    rcases recordFor_ok hrecord with ⟨hid, rfl⟩
    exact .receiptRecorded hid
  · cases hjournal

theorem keeps_finalized {submission : ChainSubmission} {versionKey : ℤ} :
    Keeps (Move sdk) World.Sound (Tick.write (fun _ => .finalized attemptId) fun current =>
      current.finalizeCommonSubmission sdk attemptId submission versionKey) :=
  keeps_write fun _ _ hjournal => .finalized hjournal

/-- The commit of a signed intent makes it outstanding, under an id never signed before. -/
theorem outstanding_of_commit {current next : Journal} {intent : BroadcastIntent}
    (h : current.commitPendingSignedAttempt attemptId intent = .ok next) :
    next.outstanding = some (attemptId, intent.extrinsicHash) ∧ attemptId ∉ current.attemptIds := by
  rcases commit_case h with ⟨hreserved, _, _, hfresh⟩
  exact ⟨outstanding_eq_some.mpr ⟨hreserved.1, rfl, intent, rfl, rfl⟩, hfresh⟩

variable {contract : Contract} {preflight : ChainPreflight}

/-- The signed intent is journaled before the transaction is submitted, and nothing was
submitted under its id before. -/
theorem keeps_submitExact {answers : SigningAnswers} {versionKey : ℤ} {period : ℤ} :
    Keeps (Move sdk) World.Sound (submitExactSn39Extrinsic answers contract preflight attemptId
      versionKey wireUids wireWeights period) := by
  intro world hsound
  refine wp_bind.mpr (Tick.wp_readJournal.mpr ?_)
  refine wp_bind.mpr (wp_lift.mpr ⟨fun intent hintent => ?_, fun _ _ => hsound⟩)
  refine wp_bind.mpr (Tick.wp_write.mpr ⟨fun journal hjournal => ?_, fun _ _ => hsound⟩)
  have hlower := (signExact_ok hintent).lowerHash
  unfold Journal.recordPendingBroadcastIntent at hjournal
  rcases bind_eq_ok.mp hjournal with ⟨_, _, hcommit⟩
  have hsigned : Move sdk world (.signed (world.journal.signedAttempt intent))
      { world with journal := journal } := .signed hcommit
  have hafter := sound_of_move hsound hsigned
  refine ⟨hsigned, wp_bind.mpr (wp_lift.mpr ⟨fun _ _ => ?_, fun _ _ => hafter⟩)⟩
  have hopen := outstanding_of_commit hcommit
  have hsubmitted : Move sdk { world with journal := journal }
      (.submitted attemptId intent.extrinsicHash)
      { world with journal := journal
                   submitted := world.submitted ++ [(attemptId, intent.extrinsicHash)] } := by
    refine .submitted (hlower ▸ hopen.1) fun call hcall hid => hopen.2 ?_
    have hmem : call.1 ∈ world.intents.signed :=
      hsound.submitted call.1 (List.mem_map_of_mem (f := Prod.fst) hcall)
    exact hid ▸ hmem
  have hdone := sound_of_move hafter hsubmitted
  refine wp_bind.mpr (wp_effect.mpr ⟨fun next hnext => ?_, fun _ h => by cases h⟩)
  cases hnext
  exact ⟨hsubmitted, wp_bind.mpr (wp_lift.mpr ⟨fun receipt _ => wp_lift.mpr
    ⟨fun _ _ => hdone, fun _ _ => hdone⟩, fun _ _ => hdone⟩)⟩

theorem keeps_submitAndProve {answers : BoundaryAnswers} {uidHotkeys : Dict ℤ String}
    {policy : InclusionPolicy} :
    Keeps (Move sdk) World.Sound (submitAndProve answers contract preflight uidHotkeys policy
      attemptId wireUids wireWeights) := by
  refine keeps_submitExact.bind fun receipt => ?_
  refine (Keeps.lift _).bind fun candidate => ?_
  refine keeps_receiptRecorded.bind fun _ => ?_
  exact keeps_proofRecorded.bind fun _ => .lift _

theorem keeps_abortUnsigned :
    Keeps (Move sdk) World.Sound (abortUnsignedCommonSubmission attemptId) := by
  intro world hsound
  refine wp_bind.mpr (Tick.wp_readJournal.mpr ?_)
  split_ifs with hreleasable
  · refine wp_bind.mpr (Tick.wp_write.mpr ⟨fun journal hjournal => ?_, fun _ h => by cases h⟩)
    cases hjournal
    have hmove : Move sdk world (.released attemptId)
        { world with journal := world.journal.abortUnsigned } := .released hreleasable
    exact ⟨hmove, wp_pure.mpr (sound_of_move hsound hmove)⟩
  · exact wp_pure.mpr hsound

theorem keeps_setWeightsOnChain {answers : BoundaryAnswers} {uidWeights : Dict ℤ ℚ}
    {uidHotkeys : Dict ℤ String} {policy : InclusionPolicy} :
    Keeps (Move sdk) World.Sound (setWeightsOnChain sdk answers contract uidWeights uidHotkeys
      preflight policy) := by
  refine Keeps.read.bind fun world => ?_
  refine (Keeps.lift _).bind fun wire => ?_
  refine (Keeps.lift _).bind fun attemptId => ?_
  refine (Keeps.lift _).bind fun _ => ?_
  refine keeps_submitAndProve.handle fun exc => ?_
  exact keeps_abortUnsigned.bind fun _ => .lift _

theorem keeps_reserve {lane : Lane} {identity : Identity} {message : String} :
    Keeps (Move sdk) World.Sound (Tick.write (fun _ => .reserved attemptId) fun current =>
      orRefused (current.reserveCommonSubmission contract lane attemptId identity) message) := by
  refine keeps_write fun world journal hjournal => ?_
  rw [orRefused_eq_ok] at hjournal
  unfold Journal.reserveCommonSubmission at hjournal
  rcases bind_eq_ok.mp hjournal with ⟨reservation, hreservation, hreserve⟩
  have hid := commonReservation_attemptId hreservation
  exact hid ▸ Move.reserved hreserve

theorem keeps_broadcast {answers : BoundaryAnswers} {s : Submission} :
    Keeps (Move sdk) World.Sound (broadcastSubmission sdk answers s) := by
  refine keeps_reserve.bind fun _ => ?_
  refine keeps_setWeightsOnChain.bind fun response => ?_
  refine (Keeps.lift _).bind fun submission => ?_
  refine keeps_finalized.bind fun _ => ?_
  exact keeps_mirror.bind fun _ => .pure true

variable {bound : Option Signer}

theorem keeps_thinTick {answers : ThinAnswers} {args : Args} :
    Keeps (Move sdk) World.Sound (thinTick sdk answers args bound) := by
  refine keeps_ite ?_ (.lift _)
  refine (Keeps.lift _).bind fun prepared => ?_
  refine (Keeps.lift _).bind fun _ => ?_
  refine keeps_readJournal.bind fun state => ?_
  refine (Keeps.lift _).bind fun locked => ?_
  refine (Keeps.lift _).bind fun vector => ?_
  refine keeps_readLane.bind fun lane => ?_
  refine keeps_ite ((Keeps.lift _).bind fun _ => .pure true) ?_
  refine (Keeps.lift _).bind fun fence => ?_
  refine (Keeps.lift _).bind fun _ => ?_
  exact (Keeps.lift _).bind fun submission => keeps_broadcast

theorem keeps_authorityTick {answers : AuthorityAnswers} {args : Args} :
    Keeps (Move sdk) World.Sound (authorityTick sdk answers args bound) := by
  refine keeps_ite ?_ (.lift _)
  refine (Keeps.lift _).bind fun prepared => ?_
  refine (Keeps.lift _).bind fun _ => ?_
  refine keeps_readJournal.bind fun state => ?_
  refine (Keeps.lift _).bind fun locked => ?_
  exact (Keeps.lift _).bind fun submission => keeps_broadcast

theorem keeps_recoverFinalized {state : Journal} :
    Keeps (Move sdk) World.Sound (recoverCommonFinalizedSubmission sdk state) := by
  unfold recoverCommonFinalizedSubmission
  split
  · exact .pure none
  · refine keeps_ite (.pure none) ?_
    refine (Keeps.lift _).bind fun last => ?_
    refine (Keeps.lift _).bind fun burn => ?_
    refine keeps_readLane.bind fun lane => ?_
    refine (Keeps.lift _).bind fun _ => ?_
    refine keeps_ite (.pure none) ?_
    refine (Keeps.lift _).bind fun _ => ?_
    exact keeps_mirror.bind fun _ => .pure _

theorem keeps_recordLocated {intent : BroadcastIntent} {located : Located} :
    Keeps (Move sdk) World.Sound (recordLocated attemptId intent located) := by
  refine keeps_proofRecorded.bind fun _ => ?_
  refine (Keeps.lift _).bind fun submission => ?_
  exact keeps_receiptRecorded.bind fun _ => .pure _

variable {answers : RecoveryAnswers}

theorem keeps_receiptCandidate {validatorHotkey attemptId : String} {signed : SignedRecord} :
    Keeps (Move sdk) World.Sound (receiptCandidate answers validatorHotkey attemptId signed) := by
  unfold receiptCandidate
  split
  · exact .pure _
  · split
    · refine Keeps.bind ?_ fun _ => .pure none
      exact keeps_write fun _ _ hjournal => .expired hjournal
    · exact keeps_recordLocated.bind fun _ => .pure _

theorem keeps_proveCandidate {state : Journal} {lane : Lane} {signed : SignedRecord}
    {candidate : Receipt} :
    Keeps (Move sdk) World.Sound (proveCandidate sdk answers preflight state attemptId lane signed
      candidate) := by
  refine (Keeps.lift _).bind fun _ => ?_
  refine (Keeps.lift _).bind fun _ => ?_
  refine keeps_proofRecorded.bind fun _ => ?_
  refine (Keeps.lift _).bind fun _ => ?_
  refine keeps_finalized.bind fun _ => ?_
  refine (Keeps.lift _).bind fun burn => ?_
  refine (Keeps.lift _).bind fun _ => ?_
  refine (Keeps.lift _).bind fun _ => ?_
  exact keeps_mirror.bind fun _ => .pure _

theorem keeps_recoverPending {state : Journal} :
    Keeps (Move sdk) World.Sound (recoverPendingAttempt sdk answers preflight state attemptId) := by
  refine (Keeps.lift _).bind fun lane => ?_
  refine (Keeps.lift _).bind fun _ => ?_
  split
  · refine keeps_abortUnsigned.bind fun released => ?_
    exact (Keeps.lift _).bind fun _ => .pure none
  · refine (Keeps.lift _).bind fun signed => ?_
    refine keeps_receiptCandidate.bind fun candidate => ?_
    split
    · exact .pure none
    · exact keeps_proveCandidate.bind fun _ => .pure _
  · exact .lift _

theorem keeps_recovery {args : Args} :
    Keeps (Move sdk) World.Sound (recoverPendingLaunchReceipt sdk answers args bound) := by
  refine keeps_ite ?_ (.pure none)
  refine (Keeps.lift _).bind fun prepared => ?_
  refine (Keeps.lift _).bind fun _ => ?_
  refine Keeps.handle ?_ fun exc => .lift _
  refine keeps_readJournal.bind fun state => ?_
  split
  · exact keeps_recoverFinalized
  · exact keeps_recoverPending

/-- The transition is enabled only for the finalized launch that the journal records. -/
theorem keeps_reconcile {answers : ReconcileAnswers} {args : Args} :
    Keeps (Move sdk) World.Sound (reconcileLaunchTransition sdk answers args bound) := by
  refine (Keeps.lift _).bind fun preflight => ?_
  refine (Keeps.lift _).bind fun _ => ?_
  refine (Keeps.lift _).bind fun _ => ?_
  refine (Keeps.lift _).bind fun _ => ?_
  intro world hsound
  refine wp_bind.mpr (Tick.wp_readJournal.mpr ?_)
  refine wp_bind.mpr (wp_lift.mpr ⟨fun _ hcheck => ?_, fun _ _ => hsound⟩)
  rcases checkLaunchJournal_ok hcheck with ⟨attemptId, hstatus, hlaunch⟩
  refine wp_bind.mpr (wp_lift.mpr ⟨fun publicSeal _ => ?_, fun _ _ => hsound⟩)
  refine wp_bind.mpr (wp_lift.mpr ⟨fun _ _ => ?_, fun _ _ => hsound⟩)
  refine wp_bind.mpr (wp_lift.mpr ⟨fun _ _ => ?_, fun _ _ => hsound⟩)
  refine Tick.wp_write.mpr ⟨fun journal hjournal => ?_, fun _ h => by cases h⟩
  cases hjournal
  have hmove : Move sdk world (.enabled world.journal.launch.attemptId)
      { world with journal := world.journal.enableContinuous publicSeal } :=
    hlaunch ▸ Move.enabled hstatus hlaunch
  exact ⟨hmove, sound_of_move hsound hmove⟩

/-- Whatever the chain answers or raises, a session makes only moves. -/
theorem keeps_session (session : Session) :
    Keeps (Move sdk) World.Sound (runSession sdk session) := by
  cases session with
  | thin answers args bound => exact keeps_discard keeps_thinTick
  | authority answers args bound => exact keeps_discard keeps_authorityTick
  | recovery answers args bound => exact keeps_discard keeps_recovery
  | reconcile answers args bound => exact keeps_reconcile

end Keeps

end Cathedral.Sn39
