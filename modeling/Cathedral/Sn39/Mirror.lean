import Cathedral.Sn39.Writes

/-!
# Cathedral.Sn39.Mirror — the lane state file

The file of `args.state_file`, which the runtime contract of an SN39 broadcast pins to
one path: the rollback fence of the policy versions, and for each lane the record of its
last finalized attempt with the ids of all attempts recorded there. It mirrors what the
common journal has finalized; `_write_state_fenced` guards it too.
-/

namespace Cathedral.Sn39

/-! ## The document -/

/-- The keys `thin_submission_*`, or `authority_submission_*`. -/
structure LaneRecord where
  attemptId : Option String := none
  finalized : Bool := false
  finalizedId : Option String := none
  identity : Option Identity := none
  extrinsicHash : Option String := none
  blockHash : Option String := none
  blockNumber : Option ℤ := none
  attemptIds : List String := []
deriving DecidableEq

/-- The keys `thin_recovered_*`. -/
structure RecoveredVector where
  policyVersion : ℤ
  vectorId : String
  signedVectorSha256 : String
deriving DecidableEq

structure LaneState where
  thin : LaneRecord := {}
  authority : LaneRecord := {}
  lastAcceptedPolicyVersion : Option ℤ := none
  highestAttemptedPolicyVersion : Option ℤ := none
  lastVectorId : Option String := none
  thinRecovered : Option RecoveredVector := none

/-! ## The rollback fence -/

/-- A version of the fence, `-1` when it is absent. -/
def fenceCandidate (value : Option ℤ) (message : String) : Except Exc ℤ :=
  match value with
  | none => pure (-1)
  | some value => do
    reject (value < 0) message
    pure value

/-- The policy version of the thin submission that a document records. -/
def LaneState.submittedFence (document : LaneState) : Except Exc ℤ :=
  match document.thin.identity with
  | none => pure (-1)
  | some identity => do
    let version ← present identity.policyVersion
      "validator state thin submission policy version is malformed"
    fenceCandidate (some version) "validator state thin submission policy version is malformed"

/-- `_state_policy_fence`, which is `load_fence` on a document that has been read. -/
def LaneState.policyFence (document : LaneState) : Except Exc ℤ := do
  let accepted ← fenceCandidate document.lastAcceptedPolicyVersion
    "validator state last_accepted_policy_version is malformed"
  let attempted ← fenceCandidate document.highestAttemptedPolicyVersion
    "validator state highest_attempted_policy_version is malformed"
  let submitted ← document.submittedFence
  reject (document.lastAcceptedPolicyVersion ≠ none ∧
      document.highestAttemptedPolicyVersion ≠ none ∧ attempted < accepted)
    "validator state attempted-policy fence regresses below accepted policy"
  pure (max (max (-1) accepted) (max attempted submitted))

/-! ## Fenced writes -/

/-- The attempt journal of a lane with a new attempt; a single id of older state is
folded in. -/
def LaneRecord.extendHistory (record : LaneRecord) (attemptId : String) :
    Except Exc (List String) := do
  reject (isSha256Id attemptId = false) "submission attempt id is malformed"
  reject (¬ ∀ id ∈ record.attemptIds, isSha256Id id = true)
    "submission attempt journal is corrupt"
  reject (∃ previous ∈ record.attemptId, isSha256Id previous = false)
    "prior submission attempt id is malformed"
  let history :=
    match record.attemptId with
    | none => record.attemptIds
    | some previous =>
      if previous ∈ record.attemptIds then record.attemptIds
      else record.attemptIds ++ [previous]
  reject (attemptId ∈ history)
    "submission was already attempted for this exact evidence/vector identity"
  pure (history ++ [attemptId])

structure FinalizedRecord where
  attemptId : String
  identity : Identity
  extrinsicHash : String
  blockHash : String
  blockNumber : ℤ

def FinalizedRecord.laneRecord (call : FinalizedRecord) (attemptIds : List String) : LaneRecord :=
  { attemptId := some call.attemptId
    finalized := true
    finalizedId := some call.attemptId
    identity := some call.identity
    extrinsicHash := some call.extrinsicHash
    blockHash := some call.blockHash
    blockNumber := some call.blockNumber
    attemptIds := attemptIds }

/-- `_write_state_fenced` with the updates of a finalized thin submission. -/
def LaneState.finalizeThin (document : LaneState) (call : FinalizedRecord)
    (policyVersion : ℤ) (vectorId : String) (recovered : Option RecoveredVector) :
    Except Exc LaneState := do
  reject (policyVersion < 0) "attempted policy version is malformed"
  let stored ← document.policyFence
  reject (policyVersion ≤ stored) "stale attempted policy version"
  let attemptIds ← document.thin.extendHistory call.attemptId
  pure
    { document with
      thin := call.laneRecord attemptIds
      lastAcceptedPolicyVersion := some policyVersion
      highestAttemptedPolicyVersion := some policyVersion
      lastVectorId := some vectorId
      thinRecovered := recovered }

/-- `_write_state_fenced` with the updates of a finalized authority submission. -/
def LaneState.finalizeAuthority (document : LaneState) (call : FinalizedRecord) :
    Except Exc LaneState := do
  let attemptIds ← document.authority.extendHistory call.attemptId
  pure { document with authority := call.laneRecord attemptIds }

def LaneState.finalize (document : LaneState) (call : FinalizedRecord) (recovered : Bool) :
    Except Exc LaneState :=
  match call.identity.evidence with
  | .thin vector =>
    document.finalizeThin call vector.policyVersion vector.vectorId
      (if recovered = true then
        some
          { policyVersion := vector.policyVersion
            vectorId := vector.vectorId
            signedVectorSha256 := vector.signedVectorSha256 }
      else none)
  | .authority _ => document.finalizeAuthority call

/-! ## The mirror test -/

/-- The `mirrored` test of `_recover_common_finalized_submission`. -/
def LaneState.Mirrors (document : LaneState) (call : FinalizedRecord) : Prop :=
  match call.identity.evidence with
  | .thin vector =>
    document.thin = call.laneRecord document.thin.attemptIds ∧
      document.lastAcceptedPolicyVersion = some vector.policyVersion ∧
      document.lastVectorId = some vector.vectorId
  | .authority _ => document.authority = call.laneRecord document.authority.attemptIds

end Cathedral.Sn39
