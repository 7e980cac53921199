import Cathedral.Lib.FirstUse
import Cathedral.Thin.Receipts

/-!
# Cathedral.Thin.Bundles — bundles of inference receipts

`verify_bundle` of `cathedral_thin/ml_receipts.py`: the receipts of one source epoch,
chained to the bundle of the epoch before by a checkpoint. The entries of a bundle are
verified one by one; an entry that raises `ThinSubnetError` is rejected, and the loop
goes on.

`verifyBundle_admits_iff` says when the rejections are all that bad entries cause: when
none of them raises anything else, or when no entry is admissible anyway.
-/

namespace Cathedral.Thin

/-! ## The envelope -/

def bundleSchema : String := "cathedral_ml_inference_bundle_v1"

def bundleIdDomain : Bytes := domainBytes "cathedral-ml-inference-bundle-id-v1"

def maxBundleBytes : ℕ := 16777216

def maxBundleReceipts : ℕ := 4096

def bundleKeys : List String :=
  ["bundle_id", "generated_at", "netuid", "network", "previous_bundle_id", "receipts", "schema",
    "source_epoch", "valid_from_block", "valid_until", "valid_until_block"]

structure BundleCheckpoint where
  network : String
  netuid : ℤ
  sourceEpoch : ℤ
  bundleId : String
  generatedAt : UtcTime
deriving DecidableEq

structure RejectedReceipt where
  receiptId : PyStr
  reason : String

structure VerifiedBundle where
  sourceEpoch : ℤ
  bundleId : String
  previousBundleId : Option String
  receipts : List VerifiedReceipt
  rejections : List RejectedReceipt
  document : Fields

/-- What `verify_bundle` is told besides the bytes. -/
structure BundleContext where
  policy : ReceiptPolicy
  now : UtcTime
  checkpoint : Option BundleCheckpoint := none
  /-- `evidence_by_digest.get`. -/
  evidence : PyStr → Option Bytes := fun _ => none
  verifier : Option AttestationVerifier := none

/-- `value == n`, where a `bool` is a number. -/
def equalsInt (value : Document) (n : ℤ) : Bool :=
  match value with
  | .num m => m = n
  | .bool b => (if b then 1 else 0) = n
  | _ => false

def bundleIdFor (platform : Platform) (fields : Fields) : Except Exc String := do
  let digest ← digestOf platform bundleIdDomain (fields.without ["bundle_id"])
  pure digest.tagged

structure BundleHead where
  fields : Fields
  sourceEpoch : ℤ
  generatedAt : UtcTime
  previousBundleId : Option String
  bundleId : String

/-- The document of a bundle, for the chain of the policy. -/
def openBundle (platform : Platform) (policy : ReceiptPolicy) (raw : Bytes) :
    Except Exc Fields := do
  let fields ← parseStrictJson platform (stripNewline raw) maxBundleBytes
  let canonical ← canonicalJson platform (.obj fields)
  refuse (stripNewline raw ≠ canonical) "ML inference bundle JSON must be canonical"
  requireExactKeys fields bundleKeys "ML inference bundle"
  refuse (fields.get "schema" ≠ strConst bundleSchema) "unsupported ML inference bundle schema"
  refuse (fields.get "network" ≠ strConst policy.network ∨
      equalsInt (fields.get "netuid") policy.netuid = false)
    "ML inference bundle network or netuid mismatch"
  pure fields

/-- The epoch of a bundle whose block window is open. -/
def bundleEpoch (policy : ReceiptPolicy) (fields : Fields) : Except Exc ℤ := do
  let sourceEpoch ← nonnegative (fields.get "source_epoch") "bundle source_epoch"
  let firstBlock ← nonnegative (fields.get "valid_from_block") "bundle valid_from_block"
  let lastBlock ← nonnegative (fields.get "valid_until_block") "bundle valid_until_block"
  refuse (policy.currentBlock < firstBlock ∨ lastBlock ≤ policy.currentBlock)
    "ML inference bundle is outside its block window"
  refuse (lastBlock ≤ firstBlock ∨ policy.maxBlockSpan < lastBlock - firstBlock)
    "ML inference bundle block window is invalid or too wide"
  pure sourceEpoch

/-- When a bundle that has not expired was generated. -/
def bundleTimes (policy : ReceiptPolicy) (now : UtcTime) (fields : Fields) :
    Except Exc UtcTime := do
  let generatedAt ← parseTime (fields.get "generated_at") "bundle generated_at"
  let validUntil ← parseTime (fields.get "valid_until") "bundle valid_until"
  let age := now.micros - generatedAt.micros
  refuse (age < -policy.maxFutureSeconds * 1000000 ∨ policy.maxAgeSeconds * 1000000 < age)
    "ML inference bundle is stale or future-dated"
  refuse (¬ generatedAt.micros < validUntil.micros ∨ validUntil.micros ≤ now.micros)
    "ML inference bundle has expired"
  pure generatedAt

/-- The bundle before, and the id of this one. -/
def bundleIds (platform : Platform) (fields : Fields) : Except Exc (Option String × String) := do
  let previous ←
    (match fields.get "previous_bundle_id" with
      | .null => pure none
      | value => some <$> digest value "previous bundle id" : Except Exc (Option String))
  let bundleId ← digest (fields.get "bundle_id") "bundle id"
  let expected ← bundleIdFor platform fields
  refuse (bundleId ≠ expected) "bundle id does not match its canonical body"
  pure (previous, bundleId)

/-- Everything of a bundle before its checkpoint. -/
def bundleHead (platform : Platform) (context : BundleContext) (raw : Bytes) :
    Except Exc BundleHead := do
  let fields ← openBundle platform context.policy raw
  let sourceEpoch ← bundleEpoch context.policy fields
  let generatedAt ← bundleTimes context.policy context.now fields
  let (previous, bundleId) ← bundleIds platform fields
  pure
    { fields := fields
      sourceEpoch := sourceEpoch
      generatedAt := generatedAt
      previousBundleId := previous
      bundleId := bundleId }

/-- The checkpoint that a bundle leaves, and, for a new epoch, the time before which its
receipts counted already. -/
def enforceBundleCheckpoint (policy : ReceiptPolicy) (head : BundleHead)
    (checkpoint : Option BundleCheckpoint) : Except Exc (BundleCheckpoint × Option UtcTime) :=
  let accepted : BundleCheckpoint :=
    { network := policy.network
      netuid := policy.netuid
      sourceEpoch := head.sourceEpoch
      bundleId := head.bundleId
      generatedAt := head.generatedAt }
  match checkpoint with
  | none => pure (accepted, none)
  | some checkpoint => do
    refuse (checkpoint.network ≠ policy.network ∨ checkpoint.netuid ≠ policy.netuid)
      "ML inference bundle checkpoint network mismatch"
    refuse (head.sourceEpoch < checkpoint.sourceEpoch) "ML inference bundle epoch rolled back"
    if head.sourceEpoch = checkpoint.sourceEpoch then do
      refuse (head.bundleId ≠ checkpoint.bundleId)
        "ML inference bundle equivocated at accepted epoch"
      pure (checkpoint, none)
    else do
      refuse (checkpoint.sourceEpoch + 1 < head.sourceEpoch)
        "ML inference bundle skipped an accepted epoch"
      refuse (head.previousBundleId ≠ some checkpoint.bundleId)
        "ML inference bundle does not extend accepted chain"
      refuse (head.generatedAt.micros ≤ checkpoint.generatedAt.micros)
        "ML inference bundle time did not advance beyond its checkpoint"
      pure (accepted, some checkpoint.generatedAt)

/-- `str(item.get("receipt_id", ""))`. -/
def receiptIdText (platform : ReceiptPlatform) (entry : Fields) : PyStr :=
  (entry.lookup (PyStr.ofString "receipt_id")).elim [] (PyRepr.text platform.printable)

/-- The entries of a bundle, which are objects in the order of their ids. -/
def bundleEntries (platform : ReceiptPlatform) (value : Document) : Except Exc (List Fields) :=
  match value with
  | .arr items => do
    refuse (¬ (1 ≤ items.length ∧ items.length ≤ maxBundleReceipts))
      "bundle receipts must contain 1..4096 entries"
    let entries ← items.mapM fun item =>
      object item "bundle receipts must have sorted unique receipt ids"
    refuse (¬ (entries.map (receiptIdText platform)).Pairwise (· < ·))
      "bundle receipts must have sorted unique receipt ids"
    pure entries
  | _ => fail "bundle receipts must contain 1..4096 entries"

/-- A bundle before its receipts are verified. -/
structure BundleEnvelope where
  head : BundleHead
  accepted : BundleCheckpoint
  cutoff : Option UtcTime
  entries : List Fields

def acceptEnvelope (platform : ReceiptPlatform) (context : BundleContext) (raw : Bytes) :
    Except Exc BundleEnvelope := do
  let head ← bundleHead platform.toPlatform context raw
  let (accepted, cutoff) ← enforceBundleCheckpoint context.policy head context.checkpoint
  let entries ← bundleEntries platform (head.fields.get "receipts")
  pure { head := head, accepted := accepted, cutoff := cutoff, entries := entries }

/-! ## Entries -/

/-- The label of an entry among the rejections. -/
def receiptLabel (entry : Fields) (index : ℕ) : PyStr :=
  match entry.get "receipt_id" with
  | .str t => if t.length ≤ 80 then t else PyStr.ofString ("entry:" ++ toString index)
  | _ => PyStr.ofString ("entry:" ++ toString index)

/-- The evidence that is looked up for an entry. -/
def entryEvidence (platform : ReceiptPlatform) (context : BundleContext) (entry : Fields) :
    Option Bytes :=
  match entry.get "attestation" with
  | .obj attestation =>
    let evidenceDigest := Fields.get attestation "evidence_digest"
    if PyRepr.truthy evidenceDigest = true then
      context.evidence (PyRepr.text platform.printable evidenceDigest)
    else none
  | _ => none

/-- What `verify_receipt` is told about an entry. -/
def entryContext (platform : ReceiptPlatform) (context : BundleContext) (entry : Fields) :
    ReceiptContext where
  policy := context.policy
  now := context.now
  evidence := entryEvidence platform context entry
  verifier := context.verifier

/-- A receipt that `verify_receipt` accepts, of the bundle's epoch and in its time. -/
def eligibleReceipt (platform : ReceiptPlatform) (context : BundleContext)
    (envelope : BundleEnvelope) (entry : Fields) : Except Exc VerifiedReceipt := do
  let raw ← canonicalJson platform.toPlatform (.obj entry)
  let receipt ← verifyReceipt platform (entryContext platform context entry) raw
  refuse (receipt.sourceEpoch ≠ envelope.head.sourceEpoch)
    "receipt authorization is bound to a different source epoch"
  refuse (envelope.head.generatedAt.micros < receipt.completedAt.micros)
    "receipt completed after the containing bundle was generated"
  refuse (∃ cutoff ∈ envelope.cutoff, receipt.completedAt.micros ≤ cutoff.micros)
    "receipt was already eligible for a prior accepted epoch"
  pure receipt

structure BundleState where
  verified : List VerifiedReceipt := []
  rejected : List RejectedReceipt := []

/-- `seen_requests`: only admitted receipts enter it. -/
def BundleState.seenRequests (state : BundleState) : List String :=
  state.verified.map VerifiedReceipt.requestId

def admitReceipt (platform : ReceiptPlatform) (context : BundleContext)
    (envelope : BundleEnvelope) (state : BundleState) (entry : Fields) :
    Except Exc VerifiedReceipt := do
  let receipt ← eligibleReceipt platform context envelope entry
  refuse (receipt.requestId ∈ state.seenRequests) "bundle reuses an inference request id"
  pure receipt

/-- `str(exc)[:240]`. -/
def reasonText (message : String) : String := String.ofList (message.toList.take 240)

/-- One pass of the loop over the entries. -/
def bundleStep (platform : ReceiptPlatform) (context : BundleContext) (envelope : BundleEnvelope)
    (state : BundleState) (entry : Fields × ℕ) : Except Exc BundleState :=
  match admitReceipt platform context envelope state entry.1 with
  | .ok receipt => pure { state with verified := state.verified ++ [receipt] }
  | .error (.thinSubnetError message) =>
    pure { state with
      rejected := state.rejected ++
        [{ receiptId := receiptLabel entry.1 entry.2, reason := reasonText message }] }
  | .error e => .error e

def verifyBundle (platform : ReceiptPlatform) (context : BundleContext) (raw : Bytes) :
    Except Exc (VerifiedBundle × BundleCheckpoint) := do
  let envelope ← acceptEnvelope platform context raw
  let state ← envelope.entries.zipIdx.foldlM (bundleStep platform context envelope) {}
  refuse (state.verified = []) ("bundle has no admitted receipts: " ++
    (state.rejected.head?.elim "no receipts supplied" RejectedReceipt.reason))
  pure
    ({ sourceEpoch := envelope.head.sourceEpoch
       bundleId := envelope.head.bundleId
       previousBundleId := envelope.head.previousBundleId
       receipts := state.verified
       rejections := state.rejected
       document := envelope.head.fields }, envelope.accepted)

/-! ## The loop over the entries -/

section Loop

variable {platform : ReceiptPlatform} {context : BundleContext} {envelope : BundleEnvelope}

/-- The receipts of entries that are eligible on their own. -/
def candidates (platform : ReceiptPlatform) (context : BundleContext)
    (envelope : BundleEnvelope) (entries : List Fields) : List (Option VerifiedReceipt) :=
  entries.map fun entry => (eligibleReceipt platform context envelope entry).toOption

variable (entries : List Fields)

@[simp] theorem length_candidates :
    (candidates platform context envelope entries).length = entries.length := List.length_map _

theorem candidates_snoc (entry : Fields) :
    candidates platform context envelope (entries ++ [entry]) =
      candidates platform context envelope entries ++
        [(eligibleReceipt platform context envelope entry).toOption] := List.map_append

/-- The label of the entry at a place. -/
def labelAt (entries : List Fields) (index : ℕ) : PyStr :=
  entries[index]?.elim [] fun entry => receiptLabel entry index

theorem labelAt_append {entries : List Fields} {index : ℕ} (h : index < entries.length)
    (more : List Fields) : labelAt (entries ++ more) index = labelAt entries index := by
  unfold labelAt
  rw [List.getElem?_append_left h]

theorem labelAt_last (entry : Fields) :
    labelAt (entries ++ [entry]) entries.length = receiptLabel entry entries.length := by
  unfold labelAt
  rw [List.getElem?_append_right le_rfl, Nat.sub_self]
  rfl

/-- The entry has bytes on which `verify_receipt` raises something other than
`ThinSubnetError`. -/
def EntryRaises (platform : ReceiptPlatform) (context : BundleContext) (entry : Fields) : Prop :=
  ∃ raw, canonicalJson platform.toPlatform (.obj entry) = .ok raw ∧
    ReceiptEscapes platform (entryContext platform context entry) raw

theorem escapes_eligibleReceipt {entry : Fields} :
    Escapes (eligibleReceipt platform context envelope entry) ↔
      EntryRaises platform context entry := by
  unfold eligibleReceipt EntryRaises
  rw [(isolated_canonicalJson _ _).escapes_bind_iff]
  refine exists_congr fun raw => and_congr_right fun _ => ?_
  rw [escapes_bind_iff_left fun receipt _ => isolated_refuse.bind fun _ _ =>
    isolated_refuse.bind fun _ _ => isolated_refuse.bind fun _ _ => isolated_pure _]
  exact escapes_verifyReceipt

variable {state : BundleState}

theorem escapes_bundleStep {entry : Fields × ℕ} :
    Escapes (bundleStep platform context envelope state entry) ↔
      EntryRaises platform context entry.1 := by
  have hadmit : Escapes (admitReceipt platform context envelope state entry.1) ↔
      EntryRaises platform context entry.1 := by
    unfold admitReceipt
    rw [escapes_bind_iff_left fun receipt _ => isolated_refuse.bind fun _ _ => isolated_pure _]
    exact escapes_eligibleReceipt
  rw [← hadmit]
  unfold bundleStep
  split
  · rename_i receipt hok
    rw [hok]
    exact iff_of_false (isolated_pure _).not_escapes (isolated_ok _).not_escapes
  · rename_i message herror
    rw [herror]
    exact iff_of_false (isolated_pure _).not_escapes (isolated_fail message).not_escapes
  · rename_i e hother herror
    rw [herror]
    exact ⟨fun ⟨e, he, hthin⟩ => ⟨e, congrArg _ (Except.error.inj he), hthin⟩,
      fun ⟨e, he, hthin⟩ => ⟨e, congrArg _ (Except.error.inj he), hthin⟩⟩

/-- One pass over an eligible entry of a request that is not admitted yet. -/
theorem bundleStep_admits (entry : Fields × ℕ) {receipt : VerifiedReceipt}
    (heligible : eligibleReceipt platform context envelope entry.1 = .ok receipt)
    (hnew : receipt.requestId ∉ state.seenRequests) :
    bundleStep platform context envelope state entry =
      .ok { state with verified := state.verified ++ [receipt] } := by
  have hadmit : admitReceipt platform context envelope state entry.1 = .ok receipt :=
    bind_eq_ok.mpr ⟨receipt, heligible, bind_eq_ok.mpr ⟨(), refuse_eq_ok.mpr hnew, rfl⟩⟩
  simp only [bundleStep, hadmit]
  rfl

/-- One pass over an entry that is refused with a message. -/
theorem bundleStep_refuses (entry : Fields × ℕ) {message : String}
    (hrefused : admitReceipt platform context envelope state entry.1 = fail message) :
    bundleStep platform context envelope state entry =
      .ok { state with
        rejected := state.rejected ++
          [{ receiptId := receiptLabel entry.1 entry.2, reason := reasonText message }] } := by
  simp only [bundleStep, hrefused, fail]
  rfl

theorem admitReceipt_used {entry : Fields} {receipt : VerifiedReceipt}
    (heligible : eligibleReceipt platform context envelope entry = .ok receipt)
    (hseen : receipt.requestId ∈ state.seenRequests) :
    admitReceipt platform context envelope state entry =
      fail "bundle reuses an inference request id" :=
  bind_eq_error.mpr (.inr ⟨receipt, heligible, bind_eq_error.mpr (.inl (if_pos hseen))⟩)

theorem admitReceipt_error {entry : Fields} {e : Exc}
    (heligible : eligibleReceipt platform context envelope entry = .error e) :
    admitReceipt platform context envelope state entry = .error e :=
  bind_eq_error.mpr (.inl heligible)

/-- One pass over an entry that does not raise. -/
theorem bundleStep_candidate (envelope : BundleEnvelope) (state : BundleState) {entry : Fields}
    (index : ℕ) (hisolated : ¬ EntryRaises platform context entry) :
    (∃ receipt, (eligibleReceipt platform context envelope entry).toOption = some receipt ∧
        receipt.requestId ∉ state.seenRequests ∧
        bundleStep platform context envelope state (entry, index) =
          .ok { state with verified := state.verified ++ [receipt] }) ∨
      (∀ receipt, (eligibleReceipt platform context envelope entry).toOption = some receipt →
        receipt.requestId ∈ state.seenRequests) ∧
      ∃ reason, bundleStep platform context envelope state (entry, index) =
        .ok { state with
          rejected := state.rejected ++
            [{ receiptId := receiptLabel entry index, reason := reason }] } := by
  cases heligible : eligibleReceipt platform context envelope entry with
  | ok receipt =>
    by_cases hseen : receipt.requestId ∈ state.seenRequests
    · right
      exact ⟨fun other hother => Option.some.inj hother ▸ hseen, _,
        bundleStep_refuses _ (admitReceipt_used heligible hseen)⟩
    · left
      exact ⟨receipt, rfl, hseen, bundleStep_admits _ heligible hseen⟩
  | error e =>
    right
    have hthin : e.IsThin := by
      by_contra hthin
      exact hisolated (escapes_eligibleReceipt.mp ⟨e, heligible, hthin⟩)
    rcases hthin with ⟨message, rfl⟩
    exact ⟨fun receipt h => absurd h (Option.some_ne_none receipt).symm, _,
      bundleStep_refuses _ (admitReceipt_error heligible)⟩

/-- What the loop has done after some entries. -/
structure LoopState (platform : ReceiptPlatform) (context : BundleContext)
    (envelope : BundleEnvelope) (entries : List Fields) (state : BundleState) : Prop where
  verified : state.verified = FirstUse.admitted VerifiedReceipt.requestId
    (candidates platform context envelope entries)
  rejected : state.rejected.map RejectedReceipt.receiptId =
    (FirstUse.refused VerifiedReceipt.requestId
      (candidates platform context envelope entries)).map (labelAt entries)

theorem map_labelAt_snoc (entry : Fields) :
    (FirstUse.refused VerifiedReceipt.requestId
      (candidates platform context envelope entries)).map (labelAt (entries ++ [entry])) =
    (FirstUse.refused VerifiedReceipt.requestId
      (candidates platform context envelope entries)).map (labelAt entries) := by
  apply List.map_congr_left
  intro index hindex
  have hlt := FirstUse.lt_of_mem_refused hindex
  rw [length_candidates] at hlt
  exact labelAt_append hlt [entry]

/-- The loop over entries of which none raises. -/
theorem loop_entries (envelope : BundleEnvelope) {entries : List Fields}
    (h : ∀ entry ∈ entries, ¬ EntryRaises platform context entry) :
    ∃ state, entries.zipIdx.foldlM (bundleStep platform context envelope) {} = .ok state ∧
      LoopState platform context envelope entries state := by
  induction entries using List.reverseRecOn with
  | nil => exact ⟨{}, rfl, rfl, rfl⟩
  | append_singleton entries entry ih =>
    rcases ih fun e he => h e (List.mem_append_left _ he) with ⟨state, hfold, hstate⟩
    have hrun : ∀ next, bundleStep platform context envelope state (entry, entries.length) =
        .ok next → (entries ++ [entry]).zipIdx.foldlM (bundleStep platform context envelope) {} =
          .ok next := by
      intro next hnext
      rw [List.zipIdx_append, List.foldlM_append, hfold]
      refine bind_eq_ok.mpr ⟨state, rfl, ?_⟩
      rw [Nat.zero_add]
      exact bind_eq_ok.mpr ⟨next, hnext, rfl⟩
    have hseen : state.seenRequests = (FirstUse.admitted VerifiedReceipt.requestId
        (candidates platform context envelope entries)).map VerifiedReceipt.requestId :=
      congrArg _ hstate.verified
    have hstep := bundleStep_candidate envelope state entries.length (h entry (by simp))
    rw [hseen] at hstep
    rcases hstep with ⟨receipt, hreceipt, hnew, hnext⟩ | ⟨hused, reason, hnext⟩
    · rcases FirstUse.snoc_admitted hnew with ⟨hadmitted, hrefused⟩
      refine ⟨_, hrun _ hnext, ?_, ?_⟩
      · rw [candidates_snoc, hreceipt, hadmitted, ← hstate.verified]
      · rw [candidates_snoc, hreceipt, hrefused, map_labelAt_snoc]
        exact hstate.rejected
    · rcases FirstUse.snoc_refused hused with ⟨hadmitted, hrefused⟩
      refine ⟨_, hrun _ hnext, ?_, ?_⟩
      · rw [candidates_snoc, hadmitted, ← hstate.verified]
      · rw [candidates_snoc, hrefused, List.map_append, List.map_append, map_labelAt_snoc,
          ← hstate.rejected, length_candidates, List.map_singleton, List.map_singleton,
          labelAt_last]

/-- The loop over entries raises exactly if one of them does. -/
theorem escapes_loop {entries : List Fields} :
    Escapes (entries.zipIdx.foldlM (bundleStep platform context envelope) {}) ↔
      ∃ entry ∈ entries, EntryRaises platform context entry := by
  rw [escapes_foldlM_of_total (P := fun entry => EntryRaises platform context entry.1)
    (fun state entry => escapes_bundleStep.mpr)]
  · constructor
    · rintro ⟨entry, hentry, hraises⟩
      exact ⟨entry.1, List.fst_mem_of_mem_zipIdx hentry, hraises⟩
    · rintro ⟨entry, hentry, hraises⟩
      rcases List.mem_iff_getElem?.mp hentry with ⟨index, hindex⟩
      exact ⟨(entry, index), List.mem_zipIdx_iff_getElem?.mpr hindex, hraises⟩
  · rintro state entry hisolated
    rcases bundleStep_candidate envelope state entry.2 hisolated with
      ⟨_, _, _, hnext⟩ | ⟨_, _, hnext⟩
    · exact ⟨_, hnext⟩
    · exact ⟨_, hnext⟩

/-! ## Isolation of the entries -/

/-- The admitted receipts of a bundle are, in order, those that are eligible on their own and
use their request id first; every other entry is rejected once, in order. An admissible entry
makes the bundle verified. -/
structure AdmitsExactly (platform : ReceiptPlatform) (context : BundleContext)
    (envelope : BundleEnvelope) (raw : Bytes) : Prop where
  receipts : ∀ bundle checkpoint, verifyBundle platform context raw = .ok (bundle, checkpoint) →
    bundle.receipts = FirstUse.admitted VerifiedReceipt.requestId
      (candidates platform context envelope envelope.entries)
  rejections : ∀ bundle checkpoint, verifyBundle platform context raw = .ok (bundle, checkpoint) →
    bundle.rejections.map RejectedReceipt.receiptId =
      (FirstUse.refused VerifiedReceipt.requestId
        (candidates platform context envelope envelope.entries)).map (labelAt envelope.entries)
  returns : (∃ receipt, some receipt ∈ candidates platform context envelope envelope.entries) →
    ∃ result, verifyBundle platform context raw = .ok result

theorem verifyBundle_ok {raw : Bytes} {bundle : VerifiedBundle} {checkpoint : BundleCheckpoint}
    (h : verifyBundle platform context raw = .ok (bundle, checkpoint)) :
    ∃ envelope, acceptEnvelope platform context raw = .ok envelope ∧
      (∀ entry ∈ envelope.entries, ¬ EntryRaises platform context entry) ∧
      LoopState platform context envelope envelope.entries
        { verified := bundle.receipts, rejected := bundle.rejections } ∧
      bundle.sourceEpoch = envelope.head.sourceEpoch ∧
      bundle.bundleId = envelope.head.bundleId ∧
      bundle.previousBundleId = envelope.head.previousBundleId ∧
      bundle.document = envelope.head.fields ∧ checkpoint = envelope.accepted := by
  unfold verifyBundle at h
  rcases bind_eq_ok.mp h with ⟨envelope, henvelope, h⟩
  rcases bind_eq_ok.mp h with ⟨state, hloop, h⟩
  rcases bind_eq_ok.mp h with ⟨_, _, h⟩
  cases h
  have hentries : ∀ entry ∈ envelope.entries, ¬ EntryRaises platform context entry := by
    intro entry hentry hraises
    have hescapes : Escapes (envelope.entries.zipIdx.foldlM
        (bundleStep platform context envelope) {}) := escapes_loop.mpr ⟨entry, hentry, hraises⟩
    rw [hloop] at hescapes
    exact (isolated_ok state).not_escapes hescapes
  rcases loop_entries envelope hentries with ⟨state', hloop', hstate⟩
  rw [hloop] at hloop'
  cases hloop'
  exact ⟨envelope, henvelope, hentries, hstate, rfl, rfl, rfl, rfl, rfl⟩

theorem exists_admitted {β κ : Type} [DecidableEq κ] {key : β → κ} {candidates : List (Option β)}
    {b : β} (h : some b ∈ candidates) : FirstUse.admitted key candidates ≠ [] := by
  have hkey : key b ∈ (FirstUse.admitted key candidates).map key :=
    FirstUse.mem_keys_admitted.mpr (List.mem_map_of_mem (List.reduceOption_mem_iff.mpr h))
  intro hnil
  rw [hnil] at hkey
  exact List.not_mem_nil hkey

/-- A bundle isolates its entries exactly if none of them raises something other than
`ThinSubnetError`, or none is admissible anyway. -/
theorem verifyBundle_admits_iff {raw : Bytes}
    (henvelope : acceptEnvelope platform context raw = .ok envelope) :
    AdmitsExactly platform context envelope raw ↔
      ((∃ receipt, some receipt ∈ candidates platform context envelope envelope.entries) →
        ∀ entry ∈ envelope.entries, ¬ EntryRaises platform context entry) := by
  constructor
  · intro h hadmissible
    rcases h.returns hadmissible with ⟨⟨bundle, checkpoint⟩, hok⟩
    rcases verifyBundle_ok hok with ⟨envelope', henvelope', hentries, _⟩
    rw [henvelope] at henvelope'
    cases henvelope'
    exact hentries
  · intro h
    have hok : ∀ bundle checkpoint,
        verifyBundle platform context raw = .ok (bundle, checkpoint) →
          LoopState platform context envelope envelope.entries
            { verified := bundle.receipts, rejected := bundle.rejections } := by
      intro bundle checkpoint hbundle
      rcases verifyBundle_ok hbundle with ⟨envelope', henvelope', _, hstate, _⟩
      rw [henvelope] at henvelope'
      cases henvelope'
      exact hstate
    refine ⟨fun bundle checkpoint hbundle => (hok bundle checkpoint hbundle).verified,
      fun bundle checkpoint hbundle => (hok bundle checkpoint hbundle).rejected, ?_⟩
    rintro ⟨receipt, hreceipt⟩
    rcases loop_entries envelope (h ⟨receipt, hreceipt⟩) with ⟨state, hloop, hstate⟩
    have hverified : state.verified ≠ [] := by
      rw [hstate.verified]
      exact exists_admitted hreceipt
    exact ⟨_, bind_eq_ok.mpr ⟨envelope, henvelope, bind_eq_ok.mpr ⟨state, hloop,
      bind_eq_ok.mpr ⟨(), refuse_eq_ok.mpr hverified, rfl⟩⟩⟩⟩

end Loop

/-- The canonical bytes of a strict document with the right keys are opened. -/
theorem openBundle_dumps {platform : Platform} {policy : ReceiptPolicy} {depth : ℕ}
    {fields : Fields} (hstrict : Strict depth (.obj fields)) (hread : depth ≤ platform.readDepth)
    (hwrite : depth ≤ platform.writeDepth)
    (hsize : (dumps (.obj fields)).length ≤ maxBundleBytes) (hkeys : fields.HasKeys bundleKeys)
    (hschema : fields.get "schema" = strConst bundleSchema)
    (hchain : fields.get "network" = strConst policy.network ∧
      equalsInt (fields.get "netuid") policy.netuid = true) :
    openBundle platform policy (dumps (.obj fields)) = .ok fields := by
  unfold openBundle
  rw [stripNewline_dumps, parseStrictJson_dumps hstrict hread hsize]
  refine bind_eq_ok.mpr ⟨fields, rfl, ?_⟩
  rw [canonicalJson_strict hstrict hwrite]
  refine bind_eq_ok.mpr ⟨_, rfl, bind_eq_ok.mpr ⟨(), refuse_eq_ok.mpr (not_not.mpr rfl), ?_⟩⟩
  refine bind_eq_ok.mpr ⟨(), refuse_eq_ok.mpr (not_not.mpr hkeys), ?_⟩
  refine bind_eq_ok.mpr ⟨(), refuse_eq_ok.mpr (not_not.mpr hschema), ?_⟩
  refine bind_eq_ok.mpr ⟨(), refuse_eq_ok.mpr ?_, rfl⟩
  rintro (hne | hne)
  · exact hne hchain.1
  · exact Bool.noConfusion (hchain.2.symm.trans hne)

/-! A bundle with the quoted receipt, and an entry whose network is a lone surrogate. -/

def brokenReceipt : Fields :=
  .ofList
    [("attestation", .null), ("completed_at", .null), ("issued_at", .null),
      ("miner_hotkey", .null), ("model", .null), ("netuid", .null), ("network", .str [0xD800]),
      ("nonce_base64", .null), ("receipt_id", strConst "z"), ("request", .null),
      ("request_authorization", .null), ("request_id", .null), ("result", .null),
      ("runtime", .null), ("schema", strConst receiptSchema), ("signature", .null),
      ("source_epoch", .null), ("valid_from_block", .null), ("valid_until_block", .null),
      ("validator_hotkey", .null)]

def brokenBundle : Fields :=
  .ofList
    [("bundle_id", strConst zeroDigest.tagged),
      ("generated_at", strConst "2026-07-26T12:00:00.000000Z"), ("netuid", .num 1),
      ("network", strConst "test"), ("previous_bundle_id", .null),
      ("receipts", .arr [.obj quotedReceipt, .obj brokenReceipt]),
      ("schema", strConst bundleSchema), ("source_epoch", .num 7), ("valid_from_block", .num 100),
      ("valid_until", strConst "2026-07-26T13:00:00.000000Z"), ("valid_until_block", .num 200)]

def brokenContext : BundleContext where
  policy := zeroPolicy none
  now := noonTime
  evidence _ := some [1]
  verifier := some zeroVerifier

theorem brokenReceipt_strict : Strict 2 (.obj brokenReceipt) := by
  refine strict_ofList.mpr ⟨by decide, ?_⟩
  have hnetwork : Strict 1 (.str [0xD800]) := .str (List.isChain_singleton _)
  simp [hnetwork]

theorem brokenBundle_strict : Strict 4 (.obj brokenBundle) := by
  have hreceipts : Strict 3 (.arr [.obj quotedReceipt, .obj brokenReceipt]) := by
    refine .arr ?_
    rintro item (_ | ⟨_, _ | ⟨_, h⟩⟩)
    · exact quotedReceipt_strict
    · exact brokenReceipt_strict
    · cases h
  exact strict_ofList.mpr ⟨by decide, by simp [hreceipts, InRange]⟩

theorem brokenBundle_open :
    openBundle zeroPlatform (zeroPolicy none) (dumps (.obj brokenBundle)) = .ok brokenBundle :=
  openBundle_dumps brokenBundle_strict (by decide) (by decide)
    (length_dumps_le (by decide +kernel)) (by decide +kernel) (by decide +kernel)
    (by decide +kernel)

def brokenHead : BundleHead where
  fields := brokenBundle
  sourceEpoch := 7
  generatedAt := ⟨2026, 7, 26, 12, 0, 0, 0, quotedMoment_valid⟩
  previousBundleId := none
  bundleId := zeroDigest.tagged

def brokenEnvelope : BundleEnvelope where
  head := brokenHead
  accepted :=
    { network := "test"
      netuid := 1
      sourceEpoch := 7
      bundleId := zeroDigest.tagged
      generatedAt := brokenHead.generatedAt }
  cutoff := none
  entries := [quotedReceipt, brokenReceipt]

theorem brokenEnvelope_accepted :
    acceptEnvelope zeroReceipts brokenContext (dumps (.obj brokenBundle)) = .ok brokenEnvelope := by
  have hsorted : ¬ ¬ (brokenEnvelope.entries.map (receiptIdText zeroReceipts)).Pairwise (· < ·) :=
    not_not.mpr (by decide +kernel)
  have hentries : bundleEntries zeroReceipts (brokenBundle.get "receipts") =
      .ok [quotedReceipt, brokenReceipt] :=
    bind_eq_ok.mpr ⟨(), refuse_eq_ok.mpr (not_not.mpr (by decide)),
      bind_eq_ok.mpr ⟨brokenEnvelope.entries, rfl,
        bind_eq_ok.mpr ⟨(), refuse_eq_ok.mpr hsorted, rfl⟩⟩⟩
  refine bind_eq_ok.mpr ⟨brokenHead, ?_, bind_eq_ok.mpr ⟨(brokenEnvelope.accepted, none), rfl,
    bind_eq_ok.mpr ⟨[quotedReceipt, brokenReceipt], hentries, rfl⟩⟩⟩
  refine bind_eq_ok.mpr ⟨_, brokenBundle_open, bind_eq_ok.mpr ⟨7, by decide +kernel,
    bind_eq_ok.mpr ⟨brokenHead.generatedAt, by decide +kernel, ?_⟩⟩⟩
  exact bind_eq_ok.mpr ⟨(none, zeroDigest.tagged), by decide +kernel, rfl⟩

theorem quotedReceipt_eligible :
    eligibleReceipt zeroReceipts brokenContext brokenEnvelope quotedReceipt = .ok zeroReceipt := by
  have hevidence : entryEvidence zeroReceipts brokenContext quotedReceipt = some [1] := by
    decide +kernel
  have hcontext : entryContext zeroReceipts brokenContext quotedReceipt = zeroContext none := by
    unfold entryContext
    rw [hevidence]
    rfl
  refine bind_eq_ok.mpr ⟨_, canonicalJson_strict quotedReceipt_strict (by decide), ?_⟩
  rw [hcontext]
  refine bind_eq_ok.mpr ⟨_, verifyReceipt_quoted, ?_⟩
  decide +kernel

theorem brokenReceipt_raises : EntryRaises zeroReceipts brokenContext brokenReceipt := by
  have hopened : openReceipt zeroPlatform (zeroPolicy none) (dumps (.obj brokenReceipt)) =
      .ok brokenReceipt :=
    openReceipt_dumps zeroPolicy_valid brokenReceipt_strict (by decide) (by decide)
      (length_dumps_le (by decide +kernel)) (by decide +kernel) (by decide +kernel)
  have hnetwork : brokenReceipt.get "network" = .str [0xD800] := by decide +kernel
  exact ⟨_, canonicalJson_strict brokenReceipt_strict (by decide),
    .network hopened ⟨_, hnetwork, by decide⟩⟩

theorem verifyBundle_admits_iff_broken :
    AdmitsExactly zeroReceipts brokenContext brokenEnvelope (dumps (.obj brokenBundle)) ↔
      ((∃ receipt, some receipt ∈
          candidates zeroReceipts brokenContext brokenEnvelope brokenEnvelope.entries) →
        ∀ entry ∈ brokenEnvelope.entries, ¬ EntryRaises zeroReceipts brokenContext entry) :=
  verifyBundle_admits_iff brokenEnvelope_accepted

/-- The entry that raises takes the admissible receipt with it. -/
theorem verifyBundle_surrogate_network :
    acceptEnvelope zeroReceipts brokenContext (dumps (.obj brokenBundle)) = .ok brokenEnvelope ∧
      some zeroReceipt ∈
        candidates zeroReceipts brokenContext brokenEnvelope brokenEnvelope.entries ∧
      ¬ AdmitsExactly zeroReceipts brokenContext brokenEnvelope (dumps (.obj brokenBundle)) := by
  have hcandidate : some zeroReceipt ∈
      candidates zeroReceipts brokenContext brokenEnvelope brokenEnvelope.entries := by
    refine List.mem_map.mpr ⟨quotedReceipt, List.mem_cons_self .., ?_⟩
    rw [quotedReceipt_eligible]
    rfl
  refine ⟨brokenEnvelope_accepted, hcandidate, fun h => ?_⟩
  rcases h.returns ⟨_, hcandidate⟩ with ⟨⟨bundle, checkpoint⟩, hok⟩
  rcases verifyBundle_ok hok with ⟨envelope, henvelope, hentries, _⟩
  rw [brokenEnvelope_accepted] at henvelope
  cases henvelope
  exact hentries brokenReceipt (by decide +kernel) brokenReceipt_raises

end Cathedral.Thin
