import Cathedral.Lib.Fence
import Cathedral.Thin.Attestation
import Cathedral.Thin.Bundles

/-!
# Cathedral.Thin.BundleChain — bundles verified one after another

A consumer verifies bundles against the checkpoint that the last accepted one returned;
a rejected bundle leaves the checkpoint as it is. Policies, clocks, evidence and
verifiers may differ from one verification to the next.
-/

namespace Cathedral.Thin

/-! ## Verifications in order -/

/-- A verification, but for the checkpoint. -/
structure BundleAttempt where
  policy : ReceiptPolicy
  now : UtcTime
  evidence : PyStr → Option Bytes
  verifier : Option AttestationVerifier
  raw : Bytes

def BundleAttempt.context (attempt : BundleAttempt) (checkpoint : Option BundleCheckpoint) :
    BundleContext where
  policy := attempt.policy
  now := attempt.now
  checkpoint := checkpoint
  evidence := attempt.evidence
  verifier := attempt.verifier

/-- An attempt with what `verify_bundle` answered. -/
structure BundleVisit where
  attempt : BundleAttempt
  result : Except Exc (VerifiedBundle × BundleCheckpoint)

/-- The checkpoint that a consumer keeps after an answer. -/
def nextCheckpoint (checkpoint : Option BundleCheckpoint)
    (result : Except Exc (VerifiedBundle × BundleCheckpoint)) : Option BundleCheckpoint :=
  match result with
  | .ok (_, next) => some next
  | .error _ => checkpoint

/-- One verification. -/
def VisitStep (platform : ReceiptPlatform) (checkpoint : Option BundleCheckpoint)
    (visit : BundleVisit) (next : Option BundleCheckpoint) : Prop :=
  visit.result = verifyBundle platform (visit.attempt.context checkpoint) visit.attempt.raw ∧
    next = nextCheckpoint checkpoint visit.result

/-- The answers to a sequence of attempts, each against the checkpoint that the ones before
it left. -/
def visitsFrom (platform : ReceiptPlatform) (checkpoint : Option BundleCheckpoint) :
    List BundleAttempt → List BundleVisit
  | [] => []
  | attempt :: attempts =>
    let result := verifyBundle platform (attempt.context checkpoint) attempt.raw
    { attempt := attempt, result := result } ::
      visitsFrom platform (nextCheckpoint checkpoint result) attempts

theorem run_visitsFrom (platform : ReceiptPlatform) (attempts : List BundleAttempt) :
    ∀ checkpoint, ∃ final,
      Run (VisitStep platform) checkpoint (visitsFrom platform checkpoint attempts) final := by
  induction attempts with
  | nil => exact fun checkpoint => ⟨checkpoint, .nil⟩
  | cons attempt attempts ih =>
    intro checkpoint
    rcases ih (nextCheckpoint checkpoint
      (verifyBundle platform (attempt.context checkpoint) attempt.raw)) with ⟨final, hrun⟩
    exact ⟨final, Run.append (Run.single_iff.mpr ⟨rfl, rfl⟩) hrun⟩

/-- A bundle with the checkpoint that was returned with it. -/
abbrev AcceptedBundle : Type := VerifiedBundle × BundleCheckpoint

def acceptedBundles (visits : List BundleVisit) : List AcceptedBundle :=
  visits.filterMap fun visit => visit.result.toOption

/-! ## One accepted bundle -/

section Step

variable {platform : ReceiptPlatform} {context : BundleContext} {raw : Bytes}

/-- A bundle of the epoch of a checkpoint, or of the next one. -/
def Extends (checkpoint : BundleCheckpoint) (accepted : AcceptedBundle) : Prop :=
  (accepted.1.sourceEpoch = checkpoint.sourceEpoch ∧ accepted.2 = checkpoint) ∨
    accepted.1.sourceEpoch = checkpoint.sourceEpoch + 1 ∧
      accepted.1.previousBundleId = some checkpoint.bundleId ∧
      checkpoint.generatedAt.micros < accepted.2.generatedAt.micros

/-- `bundle["generated_at"]`, read. -/
def GeneratedAt (bundle : VerifiedBundle) (moment : UtcTime) : Prop :=
  parseTime (bundle.document.get "generated_at") "bundle generated_at" = .ok moment

/-- What the id of a bundle is the hash of. -/
def bundleMessage (fields : Fields) : Bytes :=
  bundleIdDomain ++ dumps (.obj (fields.without ["bundle_id"]))

/-- What the loop and the envelope leave of an accepted bundle. -/
structure AcceptedUnder (platform : ReceiptPlatform) (context : BundleContext)
    (accepted : AcceptedBundle) : Prop where
  epoch : accepted.2.sourceEpoch = accepted.1.sourceEpoch
  bundleId : accepted.2.bundleId = accepted.1.bundleId
  extend : ∀ checkpoint ∈ context.checkpoint, Extends checkpoint accepted
  generatedAt : (∃ checkpoint ∈ context.checkpoint, accepted.2 = checkpoint) ∨
    GeneratedAt accepted.1 accepted.2.generatedAt
  strict : ∃ depth, Strict depth (.obj accepted.1.document)
  idField : accepted.1.document.get "bundle_id" = strConst accepted.1.bundleId
  message : accepted.1.bundleId = (platform.sha256 (bundleMessage accepted.1.document)).tagged
  nodup : (accepted.1.receipts.map VerifiedReceipt.requestId).Nodup
  receiptIds : (accepted.1.receipts.map VerifiedReceipt.receiptId).Nodup
  length_le : accepted.1.receipts.length ≤ maxBundleReceipts
  verified : ∀ receipt ∈ accepted.1.receipts, receipt.sourceEpoch = accepted.1.sourceEpoch ∧
    ∃ context raw, verifyReceipt platform context raw = .ok receipt

theorem openBundle_strict {policy : ReceiptPolicy} {fields : Fields}
    (h : openBundle platform.toPlatform policy raw = .ok fields) :
    ∃ depth, Strict depth (.obj fields) := by
  unfold openBundle at h
  rcases bind_eq_ok.mp h with ⟨fields', hparsed, h⟩
  rcases bind_eq_ok.mp h with ⟨canonical, hcanonical, h⟩
  rcases bind_eq_ok.mp h with ⟨_, hsame, h⟩
  rcases bind_eq_ok.mp h with ⟨_, _, h⟩
  rcases bind_eq_ok.mp h with ⟨_, _, h⟩
  rcases bind_eq_ok.mp h with ⟨_, _, h⟩
  cases h
  rw [refuse_eq_ok, not_not] at hsame
  rw [← hsame] at hcanonical
  exact ⟨_, (strict_of_canonical hparsed hcanonical).1⟩

theorem bundleTimes_ok {policy : ReceiptPolicy} {now generatedAt : UtcTime} {fields : Fields}
    (h : bundleTimes policy now fields = .ok generatedAt) :
    parseTime (fields.get "generated_at") "bundle generated_at" = .ok generatedAt := by
  unfold bundleTimes at h
  rcases bind_eq_ok.mp h with ⟨generatedAt', hgenerated, h⟩
  rcases bind_eq_ok.mp h with ⟨validUntil, _, h⟩
  rcases bind_eq_ok.mp h with ⟨_, _, h⟩
  rcases bind_eq_ok.mp h with ⟨_, _, h⟩
  cases h
  exact hgenerated

theorem bundleIds_ok {fields : Fields} {previous : Option String} {bundleId : String}
    (h : bundleIds platform.toPlatform fields = .ok (previous, bundleId)) :
    fields.get "bundle_id" = strConst bundleId ∧
      bundleId = (platform.sha256 (bundleMessage fields)).tagged := by
  unfold bundleIds at h
  rcases bind_eq_ok.mp h with ⟨previous', _, h⟩
  rcases bind_eq_ok.mp h with ⟨bundleId', hid, h⟩
  rcases bind_eq_ok.mp h with ⟨expected, hexpected, h⟩
  rcases bind_eq_ok.mp h with ⟨_, hsame, h⟩
  cases h
  rcases bind_eq_ok.mp hexpected with ⟨d, hd, hexpected⟩
  cases hexpected
  refine ⟨(matching_eq_ok.mp hid).1, ?_⟩
  rw [not_not.mp (refuse_eq_ok.mp hsame), digestOf_eq_ok hd]
  rfl

theorem enforceBundleCheckpoint_ok {policy : ReceiptPolicy} {head : BundleHead}
    {checkpoint : Option BundleCheckpoint} {next : BundleCheckpoint} {cutoff : Option UtcTime}
    (h : enforceBundleCheckpoint policy head checkpoint = .ok (next, cutoff)) :
    next.sourceEpoch = head.sourceEpoch ∧ next.bundleId = head.bundleId ∧
      ((∃ c ∈ checkpoint, next = c ∧ head.sourceEpoch = c.sourceEpoch) ∨
        next.generatedAt = head.generatedAt ∧
          ∀ c ∈ checkpoint, head.sourceEpoch = c.sourceEpoch + 1 ∧
            head.previousBundleId = some c.bundleId ∧
            c.generatedAt.micros < head.generatedAt.micros) := by
  unfold enforceBundleCheckpoint at h
  cases checkpoint with
  | none =>
    cases h
    exact ⟨rfl, rfl, .inr ⟨rfl, fun c hc => absurd hc (by simp)⟩⟩
  | some checkpoint =>
    rcases bind_eq_ok.mp h with ⟨_, _, h⟩
    rcases bind_eq_ok.mp h with ⟨_, hback, h⟩
    rw [refuse_eq_ok, not_lt] at hback
    split_ifs at h with hepoch
    · rcases bind_eq_ok.mp h with ⟨_, hid, h⟩
      cases h
      exact ⟨hepoch.symm, (not_not.mp (refuse_eq_ok.mp hid)).symm,
        .inl ⟨_, rfl, rfl, hepoch⟩⟩
    · rcases bind_eq_ok.mp h with ⟨_, hskip, h⟩
      rcases bind_eq_ok.mp h with ⟨_, hprevious, h⟩
      rcases bind_eq_ok.mp h with ⟨_, htime, h⟩
      cases h
      refine ⟨rfl, rfl, .inr ⟨rfl, ?_⟩⟩
      rintro c ⟨⟩
      rw [refuse_eq_ok, not_lt] at hskip
      refine ⟨by omega, not_not.mp (refuse_eq_ok.mp hprevious), ?_⟩
      exact not_le.mp (refuse_eq_ok.mp htime)

variable {envelope : BundleEnvelope} {receipt : VerifiedReceipt}

/-- An admitted receipt is eligible on its own. -/
theorem eligible_of_admitted {entries : List Fields}
    (h : receipt ∈ FirstUse.admitted VerifiedReceipt.requestId
      (candidates platform context envelope entries)) :
    ∃ entry ∈ entries, eligibleReceipt platform context envelope entry = .ok receipt := by
  have hcandidate := FirstUse.mem_of_admitted h
  rcases List.mem_map.mp hcandidate with ⟨entry, hentry, heligible⟩
  exact ⟨entry, hentry, toOption_eq_some.mp heligible⟩

theorem eligibleReceipt_ok {entry : Fields}
    (h : eligibleReceipt platform context envelope entry = .ok receipt) :
    receipt.sourceEpoch = envelope.head.sourceEpoch ∧
      ∃ raw, canonicalJson platform.toPlatform (.obj entry) = .ok raw ∧
        verifyReceipt platform (entryContext platform context entry) raw = .ok receipt := by
  unfold eligibleReceipt at h
  rcases bind_eq_ok.mp h with ⟨raw, hraw, h⟩
  rcases bind_eq_ok.mp h with ⟨receipt', hverified, h⟩
  rcases bind_eq_ok.mp h with ⟨_, hepoch, h⟩
  rcases bind_eq_ok.mp h with ⟨_, _, h⟩
  rcases bind_eq_ok.mp h with ⟨_, _, h⟩
  cases h
  exact ⟨not_not.mp (refuse_eq_ok.mp hepoch), raw, hraw, hverified⟩

theorem bundleEntries_ok {value : Document} {entries : List Fields}
    (h : bundleEntries platform value = .ok entries) :
    (∀ entry ∈ entries, ∃ items, value = .arr items ∧ .obj entry ∈ items) ∧
      entries.length ≤ maxBundleReceipts ∧
      (entries.map (receiptIdText platform)).Pairwise (· < ·) := by
  unfold bundleEntries at h
  split at h
  · rename_i items
    rcases bind_eq_ok.mp h with ⟨_, hlength, h⟩
    rcases bind_eq_ok.mp h with ⟨entries', hobjects, h⟩
    rcases bind_eq_ok.mp h with ⟨_, hsorted, h⟩
    cases h
    have hforall := mapM_eq_ok.mp hobjects
    refine ⟨?_, ?_, not_not.mp (refuse_eq_ok.mp hsorted)⟩
    · intro entry hentry
      rcases exists_of_forall₂ hforall.flip hentry with ⟨item, hitem, hobject⟩
      exact ⟨items, rfl, object_eq_ok.mp hobject ▸ hitem⟩
    · rw [← hforall.length_eq]
      exact (not_not.mp (refuse_eq_ok.mp hlength)).2
  · cases h

theorem strict_of_member {depth : ℕ} {fields entry : Fields} {items : List Document}
    {name : String} (hstrict : Strict depth (.obj fields)) (harr : fields.get name = .arr items)
    (hitem : .obj entry ∈ items) : ∃ depth, Strict depth (.obj entry) := by
  rcases hstrict.depth_pos with ⟨d, rfl⟩
  have hvalue := hstrict.get name
  rw [harr] at hvalue
  cases hvalue with
  | arr h => exact ⟨_, h _ hitem⟩

/-- A receipt of the bundle carries the id by which its entry is placed. -/
theorem receiptIdText_of_eligible {depth : ℕ} {entry : Fields} (hstrict : Strict depth (.obj entry))
    (h : eligibleReceipt platform context envelope entry = .ok receipt) :
    receiptIdText platform entry = PyStr.ofString receipt.receiptId := by
  rcases (eligibleReceipt_ok h).2 with ⟨raw, hraw, hverified⟩
  rcases verifyReceipt_ok hverified with ⟨checks⟩
  rcases openReceipt_strict checks.opened with ⟨hdocument, hbytes, _⟩
  rw [canonicalJson_ok hraw, stripNewline_dumps] at hbytes
  cases dumps_injective hstrict hdocument hbytes
  have hid : receipt.document.get "receipt_id" = strConst receipt.receiptId := by
    rw [checks.receiptId_eq]
    exact (receiptCore_ok checks.core_ok).receiptId
  unfold receiptIdText
  unfold Fields.get at hid
  cases hlookup : receipt.document.lookup (PyStr.ofString "receipt_id") with
  | none =>
    rw [hlookup] at hid
    cases hid
  | some value =>
    rw [hlookup] at hid
    rw [show value = strConst receipt.receiptId from hid]
    rfl

/-- The receipts of a bundle have distinct ids. -/
theorem nodup_receiptIds {entries : List Fields}
    (hstrict : ∀ entry ∈ entries, ∃ depth, Strict depth (.obj entry))
    (hsorted : (entries.map (receiptIdText platform)).Pairwise (· < ·)) :
    ((FirstUse.admitted VerifiedReceipt.requestId
      (candidates platform context envelope entries)).map VerifiedReceipt.receiptId).Nodup := by
  have hall : ((candidates platform context envelope entries).reduceOption.map
      VerifiedReceipt.receiptId).Nodup := by
    unfold candidates
    rw [List.reduceOption, List.filterMap_map, List.Nodup, List.pairwise_map]
    refine List.pairwise_filterMap.mpr ?_
    refine (List.pairwise_map.mp hsorted).imp_of_mem ?_
    intro entry entry' hentry hentry' hlt receipt hreceipt receipt' hreceipt' hsame
    rcases hstrict entry hentry with ⟨_, hone⟩
    rcases hstrict entry' hentry' with ⟨_, hother⟩
    have hid := receiptIdText_of_eligible hone (toOption_eq_some.mp hreceipt)
    have hid' := receiptIdText_of_eligible hother (toOption_eq_some.mp hreceipt')
    rw [hid, hid', hsame] at hlt
    exact lt_irrefl _ hlt
  exact hall.sublist (FirstUse.admitted_sublist.map _)

/-- What an accepted bundle is. -/
theorem accepted_of_ok {accepted : AcceptedBundle}
    (h : verifyBundle platform context raw = .ok accepted) :
    AcceptedUnder platform context accepted := by
  rcases accepted with ⟨bundle, next⟩
  rcases verifyBundle_ok h with
    ⟨envelope, henvelope, _, hloop, hepoch, hid, hprevious, hdocument, hnext⟩
  unfold acceptEnvelope at henvelope
  rcases bind_eq_ok.mp henvelope with ⟨head, hhead, henvelope⟩
  rcases bind_eq_ok.mp henvelope with ⟨⟨acc, cutoff⟩, hcheckpoint, henvelope⟩
  rcases bind_eq_ok.mp henvelope with ⟨entries, hentries, henvelope⟩
  cases henvelope
  unfold bundleHead at hhead
  rcases bind_eq_ok.mp hhead with ⟨fields, hopened, hhead⟩
  rcases bind_eq_ok.mp hhead with ⟨sourceEpoch, _, hhead⟩
  rcases bind_eq_ok.mp hhead with ⟨generatedAt, htimes, hhead⟩
  rcases bind_eq_ok.mp hhead with ⟨⟨previous, bundleId⟩, hids, hhead⟩
  cases hhead
  rcases enforceBundleCheckpoint_ok hcheckpoint with ⟨hnextEpoch, hnextId, hcase⟩
  rcases bundleIds_ok hids with ⟨hfield, hmessage⟩
  rcases openBundle_strict hopened with ⟨depth, hstrict⟩
  dsimp only at hepoch hid hprevious hdocument hnext hnextEpoch hnextId hcase
  subst hnext hdocument
  rcases bundleEntries_ok hentries with ⟨hitems, hlength, hsorted⟩
  have hreceipts : bundle.receipts = _ := hloop.verified
  refine ⟨hnextEpoch.trans hepoch.symm, hnextId.trans hid.symm, ?_, ?_, ⟨depth, hstrict⟩,
    hid ▸ hfield, hid ▸ hmessage, ?_, ?_, ?_, ?_⟩
  · intro checkpoint hprior
    rcases hcase with ⟨c, hc, heq, hsame⟩ | ⟨htime, hnew⟩
    · cases Option.mem_unique hprior hc
      exact .inl ⟨hepoch.trans hsame, heq⟩
    · rcases hnew checkpoint hprior with ⟨hadvance, hextends, hlater⟩
      exact .inr ⟨hepoch.trans hadvance, hprevious.trans hextends, htime ▸ hlater⟩
  · rcases hcase with ⟨c, hc, heq, _⟩ | ⟨htime, _⟩
    · exact .inl ⟨c, hc, heq⟩
    · exact .inr (htime ▸ bundleTimes_ok htimes)
  · rw [hreceipts]
    exact FirstUse.nodup_admitted _
  · rw [hreceipts]
    refine nodup_receiptIds (fun entry hentry => ?_) hsorted
    rcases hitems entry hentry with ⟨items, harr, hitem⟩
    exact strict_of_member hstrict harr hitem
  · rw [hreceipts]
    refine le_trans FirstUse.admitted_sublist.length_le (le_trans ?_ hlength)
    exact (List.reduceOption_length_le _).trans (length_candidates entries).le
  · intro receipt hreceipt
    rw [hreceipts] at hreceipt
    rcases eligible_of_admitted hreceipt with ⟨entry, _, heligible⟩
    rcases eligibleReceipt_ok heligible with ⟨hsource, raw', _, hverified⟩
    exact ⟨hsource.trans hepoch.symm, _, raw', hverified⟩

end Step

/-! ## Requests and their ids -/

section Requests

variable {platform : ReceiptPlatform} {context : ReceiptContext} {raw : Bytes}

/-- What the id of a request is the hash of. -/
def Request.message (request : Request) : Bytes := requestDomain ++ dumps (.obj request.body)

/-- The request that a document is a receipt for. -/
structure NamesRequest (fields : Fields) (request : Request) : Prop where
  network : fields.get "network" = strConst request.network
  netuid : fields.get "netuid" = .num request.netuid
  sourceEpoch : fields.get "source_epoch" = .num request.sourceEpoch
  validatorHotkey : fields.get "validator_hotkey" = strConst request.validatorHotkey
  minerHotkey : fields.get "miner_hotkey" = strConst request.minerHotkey
  nonce : fields.get "nonce_base64" = strConst (String.ofList (Base64.encode request.nonce))
  commitments : ∃ part : Fields, fields.get "request" = .obj part ∧
    part.get "input_commitment" = strConst request.inputCommitment ∧
    part.get "parameters_commitment" = strConst request.parametersCommitment

/-- The numbers of a request fit into JSON. -/
def Request.InRange (request : Request) : Prop :=
  Thin.InRange request.netuid ∧ Thin.InRange request.sourceEpoch

/-- The request of a receipt, whose id was recomputed. -/
structure ReceiptRequest (platform : Platform) (receipt : VerifiedReceipt) (request : Request) :
    Prop where
  names : NamesRequest receipt.document request
  sourceEpoch : request.sourceEpoch = receipt.sourceEpoch
  inRange : request.InRange
  requestId : receipt.requestId = (platform.sha256 request.message).tagged

theorem receiptScope_ok {policy : ReceiptPolicy} {fields : Fields} {network : String}
    {scope : ReceiptScope} (h : receiptScope policy fields network = .ok scope) :
    fields.get "netuid" = .num scope.netuid ∧
      fields.get "source_epoch" = .num scope.sourceEpoch := by
  unfold receiptScope at h
  rcases bind_eq_ok.mp h with ⟨netuid, hnetuid, h⟩
  rcases bind_eq_ok.mp h with ⟨sourceEpoch, hepoch, h⟩
  rcases bind_eq_ok.mp h with ⟨_, _, h⟩
  rcases bind_eq_ok.mp h with ⟨requestId, _, h⟩
  cases h
  exact ⟨(nonnegativeInt_eq_ok.mp hnetuid).1, (nonnegativeInt_eq_ok.mp hepoch).1⟩

/-- An accepted receipt names a request, and carries its id. -/
theorem verifyReceipt_request {receipt : VerifiedReceipt}
    (h : verifyReceipt platform context raw = .ok receipt) :
    ∃ request, ReceiptRequest platform.toPlatform receipt request := by
  rcases verifyReceipt_ok h with ⟨checks⟩
  have hhead := receiptHead_ok checks.head_ok
  have hcore := receiptCore_ok checks.core_ok
  have hwork := receiptWork_ok hcore.work
  rcases receiptScope_ok checks.scope_ok with ⟨hnetuid, hepoch⟩
  have hstrict := (openReceipt_strict checks.opened).1
  rcases hstrict.depth_pos with ⟨depth, hdepth⟩
  rw [hdepth] at hstrict
  rcases bind_eq_ok.mp hcore.requestId with ⟨d, hd, hid⟩
  refine ⟨requestOf checks.network checks.scope receipt.validatorHotkey receipt.minerHotkey
    checks.head checks.core.work, ?_, checks.sourceEpoch_eq.symm, ⟨?_, ?_⟩, ?_⟩
  · exact ⟨(boundedString_eq_ok.mp checks.network_ok).1, hnetuid, hepoch,
      (boundedString_eq_ok.mp checks.validator_ok).1,
      (boundedString_eq_ok.mp checks.miner_ok).1, hhead.nonce,
      _, hhead.request, hwork.input, hwork.parameters⟩
  · exact strict_num.mp (hnetuid ▸ hstrict.get "netuid")
  · exact strict_num.mp (hepoch ▸ hstrict.get "source_epoch")
  · rw [checks.requestId_eq, ← Except.ok.inj hid, digestOf_eq_ok hd]
    rfl

theorem writable_body {request : Request} (h : request.InRange) :
    Writable 1 (.obj request.body) := by
  have hstr : ∀ s, Writable 0 (strConst s) := fun s => (strict_strConst s).writable
  have hnum : ∀ n, Thin.InRange n → Writable 0 (.num n) := fun n hn => (strict_num.mpr hn).writable
  refine writable_ofList (by simp) ?_
  simp [hstr, hnum _ h.1, hnum _ h.2]

/-- Requests with one message have one epoch. -/
theorem sourceEpoch_of_message {a b : Request} (ha : a.InRange) (hb : b.InRange)
    (h : a.message = b.message) : a.sourceEpoch = b.sourceEpoch := by
  have hbody := get_of_dumps_eq (writable_body ha) (writable_body hb)
    (List.append_cancel_left h) "source_epoch"
  have hget : ∀ request : Request,
      request.body.get "source_epoch" = .num request.sourceEpoch := by
    intro request
    rw [Request.body, get_ofList]
    rfl
  rw [hget, hget] at hbody
  exact Json.num.inj hbody

theorem tagged_injective : Function.Injective Sha256.tagged := by
  intro a b h
  have hhex : a.hex = b.hex := by
    have hlist := congrArg String.toList h
    rw [Sha256.tagged, Sha256.tagged, String.toList_append, String.toList_append] at hlist
    exact String.toList_injective (List.append_cancel_left hlist)
  cases a
  cases b
  cases hhex
  rfl

end Requests

/-! ## The chain of accepted bundles -/

section Chain

variable {platform : ReceiptPlatform} {start final : Option BundleCheckpoint}
variable {visits : List BundleVisit} {accepted : List AcceptedBundle}

/-- The ids of these bundles were hashed without a collision. -/
def BundlesCollisionFree (platform : Platform) (accepted : List AcceptedBundle) : Prop :=
  Set.InjOn platform.sha256 {m | ∃ a ∈ accepted, m = bundleMessage a.1.document}

/-- The ids of the admitted requests were hashed without a collision. -/
def RequestsCollisionFree (platform : Platform) (accepted : List AcceptedBundle) : Prop :=
  Set.InjOn platform.sha256 {m | ∃ a ∈ accepted, ∃ receipt ∈ a.1.receipts, ∃ request,
    NamesRequest receipt.document request ∧ m = request.message}

theorem BundlesCollisionFree.mono {more : List AcceptedBundle} (hsub : accepted ⊆ more)
    (h : BundlesCollisionFree platform.toPlatform more) :
    BundlesCollisionFree platform.toPlatform accepted := by
  refine Set.InjOn.mono ?_ h
  rintro m ⟨a, ha, hm⟩
  exact ⟨a, hsub ha, hm⟩

/-- Each accepted bundle extends the checkpoint before it. -/
structure Linked (start : Option BundleCheckpoint) (accepted : List AcceptedBundle) : Prop where
  first : ∀ checkpoint ∈ start, ∀ a ∈ accepted.head?, Extends checkpoint a
  chain : accepted.IsChain fun a b => Extends a.2 b

variable {a b : AcceptedBundle}

/-- Bundles with one id are one document, unless their messages collide. -/
theorem sameDocument (hfree : BundlesCollisionFree platform.toPlatform accepted)
    {context context' : BundleContext} (ha : a ∈ accepted) (hb : b ∈ accepted)
    (haccepted : AcceptedUnder platform context a) (haccepted' : AcceptedUnder platform context' b)
    (hid : a.1.bundleId = b.1.bundleId) (name : String) :
    a.1.document.get name = b.1.document.get name := by
  by_cases hname : name = "bundle_id"
  · rw [hname, haccepted.idField, haccepted'.idField, hid]
  · have hhash : platform.sha256 (bundleMessage a.1.document) =
        platform.sha256 (bundleMessage b.1.document) := by
      apply tagged_injective
      rw [← haccepted.message, ← haccepted'.message, hid]
    have hmessage := hfree ⟨a, ha, rfl⟩ ⟨b, hb, rfl⟩ hhash
    rcases haccepted.strict with ⟨depth, hstrict⟩
    rcases haccepted'.strict with ⟨depth', hstrict'⟩
    exact get_of_dumps_without hstrict hstrict' (List.append_cancel_left hmessage)
      (by simpa using hname)

/-- What a run has done so far. -/
structure ChainState (platform : ReceiptPlatform) (start : Option BundleCheckpoint)
    (visits : List BundleVisit) (now : Option BundleCheckpoint) : Prop where
  last : now = (acceptedBundles visits).getLast?.elim start fun a => some a.2
  accepted : ∀ a ∈ acceptedBundles visits, ∃ context, AcceptedUnder platform context a
  linked : Linked start (acceptedBundles visits)
  generatedAt : start = none →
    BundlesCollisionFree platform.toPlatform (acceptedBundles visits) →
      ∀ a ∈ acceptedBundles visits, GeneratedAt a.1 a.2.generatedAt

theorem acceptedBundles_snoc (visits : List BundleVisit) (visit : BundleVisit) :
    acceptedBundles (visits ++ [visit]) =
      acceptedBundles visits ++ visit.result.toOption.toList := by
  rw [acceptedBundles, List.filterMap_append, List.filterMap_cons, List.filterMap_nil]
  cases visit.result.toOption with
  | none => rfl
  | some a => rfl

/-- One more verification. -/
theorem chainState_step {now next : Option BundleCheckpoint} {visit : BundleVisit}
    (h : ChainState platform start visits now) (hstep : VisitStep platform now visit next) :
    ChainState platform start (visits ++ [visit]) next := by
  rcases hstep with ⟨hresult, rfl⟩
  cases hverified : visit.result with
  | error e =>
    have hsame : acceptedBundles (visits ++ [visit]) = acceptedBundles visits := by
      rw [acceptedBundles_snoc, hverified]
      exact List.append_nil _
    refine ⟨?_, ?_, ?_, ?_⟩
    all_goals rw [hsame]
    · exact h.last
    · exact h.accepted
    · exact h.linked
    · exact h.generatedAt
  | ok a =>
    have hsnoc : acceptedBundles (visits ++ [visit]) = acceptedBundles visits ++ [a] := by
      rw [acceptedBundles_snoc, hverified]
      rfl
    rw [hverified] at hresult
    have haccepted := accepted_of_ok hresult.symm
    have hprior : ∀ b ∈ (acceptedBundles visits).getLast?, now = some b.2 := by
      intro b hb
      rw [h.last, Option.mem_def.mp hb]
      rfl
    refine ⟨?_, ?_, ⟨?_, ?_⟩, ?_⟩
    all_goals rw [hsnoc]
    · rw [List.getLast?_concat]
      rfl
    · intro b hb
      rcases List.mem_append.mp hb with hb | hb
      · exact h.accepted b hb
      · exact List.mem_singleton.mp hb ▸ ⟨_, haccepted⟩
    · intro checkpoint hstart b hb
      cases hlist : acceptedBundles visits with
      | nil =>
        rw [hlist] at hb
        cases hb
        apply haccepted.extend
        rw [h.last, hlist]
        exact hstart
      | cons c rest =>
        rw [hlist] at hb
        apply h.linked.first checkpoint hstart
        rw [hlist]
        exact hb
    · refine List.isChain_append.mpr ⟨h.linked.chain, List.isChain_singleton _, ?_⟩
      rintro b hb _ ⟨⟩
      apply haccepted.extend
      exact hprior b hb
    · intro hstart hfree b hb
      have hold := h.generatedAt hstart (hfree.mono (List.subset_append_left _ _))
      rcases List.mem_append.mp hb with hmem | hmem
      · exact hold b hmem
      · rw [List.mem_singleton] at hmem
        subst hmem
        rcases haccepted.generatedAt with ⟨c, hc, heq⟩ | hown
        · -- a repeated bundle carries the time of the first one
          cases hlast : (acceptedBundles visits).getLast? with
          | none =>
            have hnow := h.last
            rw [hlast, hstart] at hnow
            cases hnow
            cases hc
          | some a =>
            have hmem := List.mem_of_getLast? hlast
            have hnow := hprior a hlast
            cases Option.mem_unique hc (show a.2 ∈ _ from hnow)
            rcases h.accepted a hmem with ⟨context', ha⟩
            have hid : a.1.bundleId = b.1.bundleId := by
              rw [← ha.bundleId, ← haccepted.bundleId, heq]
            unfold GeneratedAt
            rw [← sameDocument hfree (List.mem_append_left _ hmem) hb ha haccepted hid, heq]
            exact hold a hmem
        · exact hown

theorem chainState_of_run (h : Run (VisitStep platform) start visits final) :
    ChainState platform start visits final := by
  refine Run.history (P := fun visits now => ChainState platform start visits now) ?_ ?_ h
  · exact ⟨rfl, by simp [acceptedBundles], ⟨by simp [acceptedBundles], List.isChain_nil⟩,
      by simp [acceptedBundles]⟩
  · intro visits now visit next hstate hstep
    exact chainState_step hstate hstep

/-- The place of a bundle in the line of epochs. -/
def bundleMark (a : AcceptedBundle) : Mark ℤ String := ⟨a.1.sourceEpoch, a.1.bundleId⟩

theorem extends_cases {context : BundleContext} (ha : AcceptedUnder platform context a)
    {context' : BundleContext} (hb : AcceptedUnder platform context' b) (h : Extends a.2 b) :
    (b.1.sourceEpoch = a.1.sourceEpoch ∧ b.1.bundleId = a.1.bundleId) ∨
      b.1.sourceEpoch = a.1.sourceEpoch + 1 ∧
        b.1.previousBundleId = some a.1.bundleId ∧
        a.2.generatedAt.micros < b.2.generatedAt.micros := by
  rcases h with ⟨hepoch, hsame⟩ | ⟨hepoch, hprevious, htime⟩
  · refine .inl ⟨hepoch.trans ha.epoch, ?_⟩
    rw [← hb.bundleId, hsame, ha.bundleId]
  · exact .inr ⟨ha.epoch ▸ hepoch, ha.bundleId ▸ hprevious, htime⟩

/-- Of two accepted bundles the later one is of a later epoch, or it is the same one. -/
theorem marks_sorted (h : ChainState platform start visits final) :
    (acceptedBundles visits).Pairwise fun a b => bundleMark a ≤ bundleMark b := by
  have hchain : ((acceptedBundles visits).map bundleMark).IsChain (· ≤ ·) := by
    rw [List.isChain_map]
    refine List.IsChain.imp_of_mem_imp ?_ h.linked.chain
    intro a b ha hb hextends
    rcases h.accepted a ha with ⟨_, ha⟩
    rcases h.accepted b hb with ⟨_, hb⟩
    rcases extends_cases ha hb hextends with ⟨hepoch, hid⟩ | ⟨hepoch, _⟩
    · refine Mark.le_iff.mpr (.inr ?_)
      rw [bundleMark, bundleMark, hepoch, hid]
    · refine Mark.le_iff.mpr (.inl ?_)
      show a.1.sourceEpoch < b.1.sourceEpoch
      omega
  exact List.pairwise_map.mp (List.isChain_iff_pairwise.mp hchain)

/-- Each epoch has one bundle. -/
theorem bundleId_of_epoch (h : ChainState platform start visits final)
    (ha : a ∈ acceptedBundles visits) (hb : b ∈ acceptedBundles visits)
    (hepoch : a.1.sourceEpoch = b.1.sourceEpoch) : a.1.bundleId = b.1.bundleId := by
  have hmarks := marks_sorted h
  have hsame : bundleMark a = bundleMark b := by
    rcases List.mem_iff_getElem.mp ha with ⟨i, hi, rfl⟩
    rcases List.mem_iff_getElem.mp hb with ⟨j, hj, rfl⟩
    rcases lt_trichotomy i j with hlt | heq | hlt
    · exact Mark.eq_of_number_eq (List.pairwise_iff_getElem.mp hmarks i j hi hj hlt) hepoch
    · subst heq
      rfl
    · exact (Mark.eq_of_number_eq
        (List.pairwise_iff_getElem.mp hmarks j i hj hi hlt) hepoch.symm).symm
  exact congrArg Mark.id hsame

/-- No request is admitted in two epochs. -/
theorem requestIds_disjoint (h : ChainState platform start visits final)
    (hfree : RequestsCollisionFree platform.toPlatform (acceptedBundles visits))
    (ha : a ∈ acceptedBundles visits) (hb : b ∈ acceptedBundles visits)
    (hepoch : a.1.sourceEpoch ≠ b.1.sourceEpoch) :
    (a.1.receipts.map VerifiedReceipt.requestId).Disjoint
      (b.1.receipts.map VerifiedReceipt.requestId) := by
  rcases h.accepted a ha with ⟨_, haccepted⟩
  rcases h.accepted b hb with ⟨_, haccepted'⟩
  intro id hid hid'
  rcases List.mem_map.mp hid with ⟨receipt, hreceipt, rfl⟩
  rcases List.mem_map.mp hid' with ⟨receipt', hreceipt', hsame⟩
  rcases haccepted.verified receipt hreceipt with ⟨hsource, _, _, hok⟩
  rcases haccepted'.verified receipt' hreceipt' with ⟨hsource', _, _, hok'⟩
  rcases verifyReceipt_request hok with ⟨request, hrequest⟩
  rcases verifyReceipt_request hok' with ⟨request', hrequest'⟩
  have hhash : platform.sha256 request.message = platform.sha256 request'.message := by
    apply tagged_injective
    rw [← hrequest.requestId, ← hrequest'.requestId, hsame]
  have hmessage := hfree ⟨a, ha, receipt, hreceipt, request, hrequest.names, rfl⟩
    ⟨b, hb, receipt', hreceipt', request', hrequest'.names, rfl⟩ hhash
  have hone := sourceEpoch_of_message hrequest.inRange hrequest'.inRange hmessage
  rw [hrequest.sourceEpoch, hrequest'.sourceEpoch, hsource, hsource'] at hone
  exact hepoch hone

end Chain

end Cathedral.Thin
