import Cathedral.Thin.Core
import Mathlib.Data.String.Basic

/-!
# Cathedral.Thin.State — the pending vector and the validator state

The vector digest, the retry metadata of the pending vector, the state file and
the classification of a submission response, from `cathedral_thin/core.py`.
-/

namespace Cathedral.Thin

/-! ## Vector digest -/

/-- The JSON body that `vector_digest` hashes. -/
structure VectorBody where
  pairs : List (ℤ × String × ℚ)
  provenanceDigest : Option String
  registrationIds : Dict String String

/-- The loop of `vector_digest` over the aligned triples. -/
def vectorPairs : List (ℤ × PyFloat × String) → List ℤ → Except Exc (List (ℤ × String × ℚ))
  | [], _ => pure []
  | (uid, weight, hotkey) :: rest, seen =>
    match weight.finite? with
    | none => fail "invalid UID weight vector"
    | some value =>
      if uid < 0 ∨ uid ∈ seen ∨ value < 0 ∨ hotkey = "" then
        fail "invalid UID weight vector"
      else do
        let pairs ← vectorPairs rest (uid :: seen)
        pure ((uid, hotkey, round12 value) :: pairs)

def vectorDigest (hash : VectorBody → Sha256) (uids : List ℤ) (weights : List PyFloat)
    (hotkeys : List String) (provenanceDigest : Option String)
    (registrationIds : Dict String String) : Except Exc String := do
  refuse (uids.length ≠ weights.length ∨ uids.length ≠ hotkeys.length ∨ uids = [])
    "weight vector must be non-empty and aligned"
  let pairs ← vectorPairs (uids.zip (weights.zip hotkeys)) []
  refuse (∃ digest ∈ provenanceDigest, isSha256Ref digest = false)
    "invalid vector provenance digest"
  refuse (∃ kv ∈ registrationIds.items, kv.1 = "" ∨ isSha256Ref kv.2 = false)
    "invalid vector owner registration binding"
  pure (hash ⟨pairs, provenanceDigest, registrationIds.sorted⟩).hex

/-- The triples that the loop of `vector_digest` accepts after the uids `seen`. -/
def PairsValid (triples : List (ℤ × PyFloat × String)) (seen : List ℤ) : Prop :=
  (∀ t ∈ triples, 0 ≤ t.1 ∧ t.1 ∉ seen ∧ t.2.1.FiniteNonneg ∧ t.2.2 ≠ "") ∧
    (triples.map Prod.fst).Nodup

theorem vectorPairs_isOk : ∀ (triples : List (ℤ × PyFloat × String)) (seen : List ℤ),
    (∃ pairs, vectorPairs triples seen = .ok pairs) ↔ PairsValid triples seen
  | [], seen => by simp [vectorPairs, PairsValid, pure, Except.pure]
  | (uid, weight, hotkey) :: rest, seen => by
    have ih := vectorPairs_isOk rest (uid :: seen)
    have hsplit : PairsValid ((uid, weight, hotkey) :: rest) seen ↔
        (0 ≤ uid ∧ uid ∉ seen ∧ weight.FiniteNonneg ∧ hotkey ≠ "") ∧
          PairsValid rest (uid :: seen) := by
      constructor
      · rintro ⟨hall, hnd⟩
        rw [List.map_cons, List.nodup_cons] at hnd
        refine ⟨hall _ (List.mem_cons_self ..), fun t ht => ?_, hnd.2⟩
        obtain ⟨h0, hs, hw, hh⟩ := hall t (List.mem_cons_of_mem _ ht)
        refine ⟨h0, fun hmem => ?_, hw, hh⟩
        rcases List.mem_cons.mp hmem with heq | hmem
        · exact hnd.1 (List.mem_map.mpr ⟨t, ht, heq⟩)
        · exact hs hmem
      · rintro ⟨hhead, htail, hnd⟩
        refine ⟨fun t ht => ?_, List.nodup_cons.mpr ⟨fun hmem => ?_, hnd⟩⟩
        · rcases List.mem_cons.mp ht with rfl | ht
          · exact hhead
          · obtain ⟨h0, hs, hw, hh⟩ := htail t ht
            exact ⟨h0, fun hmem => hs (List.mem_cons_of_mem _ hmem), hw, hh⟩
        · obtain ⟨t, ht, heq⟩ := List.mem_map.mp hmem
          exact (htail t ht).2.1 (heq ▸ List.mem_cons_self ..)
    rw [hsplit, ← ih]
    cases weight with
    | finite value =>
      by_cases hbad : uid < 0 ∨ uid ∈ seen ∨ value < 0 ∨ hotkey = ""
      · have hnot : ¬ (0 ≤ uid ∧ uid ∉ seen ∧ (PyFloat.finite value).FiniteNonneg ∧
            hotkey ≠ "") := by
          rintro ⟨h0, hs, ⟨q, hq, hq0⟩, hh⟩
          cases hq
          rcases hbad with hb | hb | hb | hb
          · omega
          · exact hs hb
          · exact absurd hq0 (not_le.mpr hb)
          · exact hh hb
        simp [vectorPairs, PyFloat.finite?, if_pos hbad, fail, hnot]
      · have hgood : 0 ≤ uid ∧ uid ∉ seen ∧ (PyFloat.finite value).FiniteNonneg ∧
            hotkey ≠ "" := by
          simp only [not_or, not_lt] at hbad
          exact ⟨hbad.1, hbad.2.1, ⟨value, rfl, hbad.2.2.1⟩, hbad.2.2.2⟩
        rw [and_iff_right hgood]
        simp only [vectorPairs, PyFloat.finite?]
        rw [if_neg hbad]
        cases vectorPairs rest (uid :: seen) <;> simp [bind, Except.bind, pure, Except.pure]
    | nan => simp [vectorPairs, PyFloat.finite?, fail, PyFloat.FiniteNonneg]
    | posInf => simp [vectorPairs, PyFloat.finite?, fail, PyFloat.FiniteNonneg]
    | negInf => simp [vectorPairs, PyFloat.finite?, fail, PyFloat.FiniteNonneg]

/-- Registration ids that can be bound into a vector. -/
def BindingsValid (registrationIds : Dict String String) : Prop :=
  ∀ kv ∈ registrationIds.items, kv.1 ≠ "" ∧ isSha256Ref kv.2 = true

instance (registrationIds : Dict String String) : Decidable (BindingsValid registrationIds) :=
  inferInstanceAs (Decidable (∀ _ ∈ _, _))

/-- `vector_digest` returns exactly on aligned, non-empty vectors with valid
triples, provenance digest and registration ids. -/
theorem vectorDigest_isOk (hash : VectorBody → Sha256) (uids : List ℤ) (weights : List PyFloat)
    (hotkeys : List String) (provenanceDigest : Option String)
    (registrationIds : Dict String String) :
    (∃ digest, vectorDigest hash uids weights hotkeys provenanceDigest registrationIds =
        .ok digest) ↔
      (uids.length = weights.length ∧ uids.length = hotkeys.length ∧ uids ≠ []) ∧
      PairsValid (uids.zip (weights.zip hotkeys)) [] ∧
      (∀ digest ∈ provenanceDigest, isSha256Ref digest = true) ∧
      BindingsValid registrationIds := by
  have hprov : (¬ ∃ digest ∈ provenanceDigest, isSha256Ref digest = false) ↔
      ∀ digest ∈ provenanceDigest, isSha256Ref digest = true := by
    simp only [not_exists, not_and, Bool.not_eq_false]
  have hbind : (¬ ∃ kv ∈ registrationIds.items, kv.1 = "" ∨ isSha256Ref kv.2 = false) ↔
      BindingsValid registrationIds := by
    simp only [BindingsValid, not_exists, not_and, not_or, Bool.not_eq_false, ne_eq]
  simp only [vectorDigest, bind_eq_ok, refuse_eq_ok, hprov, hbind, not_or, not_not,
    ← vectorPairs_isOk]
  constructor
  · rintro ⟨digest, -, halign, pairs, hpairs, -, hp, -, hb, -⟩
    exact ⟨halign, ⟨pairs, hpairs⟩, hp, hb⟩
  · rintro ⟨halign, ⟨pairs, hpairs⟩, hp, hb⟩
    exact ⟨_, (), halign, pairs, hpairs, (), hp, (), hb, rfl⟩

/-- The digest does not depend on the order of the registration ids. -/
theorem vectorDigest_sorted (hash : VectorBody → Sha256) (uids : List ℤ)
    (weights : List PyFloat) (hotkeys : List String) (provenanceDigest : Option String)
    (registrationIds : Dict String String) :
    vectorDigest hash uids weights hotkeys provenanceDigest registrationIds.sorted =
      vectorDigest hash uids weights hotkeys provenanceDigest registrationIds := by
  simp only [vectorDigest, refuse, (Dict.sorted_perm registrationIds).mem_iff, Dict.sorted_sorted]

/-! ## Pending vector -/

structure PendingVector where
  digest : String
  uids : List ℤ
  weights : List PyFloat
  hotkeys : List String
  provenanceDigest : Option String
  registrationIds : Dict String String
  attempts : ℤ := 0
  nextRetryAtMs : ℤ := 0
  ambiguous : Bool := false

/-- A position in the newest accepted report of an external source. -/
structure SourceCheckpoint where
  sourceEpoch : ℤ
  reportId : String
deriving DecidableEq, Repr

/-- A position in the newest accepted owner registration of a class. -/
structure RegistrationCheckpoint where
  ownerColdkey : String
  delegateHotkey : String
  sequence : ℤ
  registrationId : String
deriving DecidableEq, Repr

structure ValidatorState where
  schema : ℤ
  configFingerprint : String
  masterSecretHex : String
  lastCompletedRound : ℤ := -1
  emaScores : Dict String PyFloat := ∅
  pendingVector : Option PendingVector := none
  confirmedVectorDigest : Option String := none
  confirmedDecisionDigest : Option String := none
  classCheckpoints : Dict String SourceCheckpoint := ∅
  registrationCheckpoints : Dict String RegistrationCheckpoint := ∅

def markPending (hash : VectorBody → Sha256) (state : ValidatorState) (uids : List ℤ)
    (weights : List PyFloat) (hotkeys : List String) (provenanceDigest : Option String)
    (registrationIds : Dict String String) : Except Exc ValidatorState := do
  let digest ← vectorDigest hash uids weights hotkeys provenanceDigest registrationIds
  pure { state with
    pendingVector := some
      { digest, uids, weights, hotkeys, provenanceDigest
        registrationIds := registrationIds.sorted } }

/-- The delay before attempt number `attempts` may be repeated. -/
def retryDelayMs (attempts : ℤ) : ℤ :=
  min (15 * 60000) (15000 * 2 ^ (min 10 (attempts - 1)).toNat)

/-- The update that `note_submission_failure` makes to the pending vector. -/
def PendingVector.failed (pending : PendingVector) (nowMs : ℤ) (ambiguous : Bool) :
    PendingVector :=
  { pending with
    attempts := pending.attempts + 1
    ambiguous
    nextRetryAtMs := nowMs + retryDelayMs (pending.attempts + 1) }

def noteSubmissionFailure (state : ValidatorState) (nowMs : ℤ) (ambiguous : Bool) :
    Except Exc ValidatorState :=
  match state.pendingVector with
  | none => fail "no pending vector to fail"
  | some pending => pure { state with pendingVector := some (pending.failed nowMs ambiguous) }

def noteSubmissionSuccess (state : ValidatorState) : Except Exc ValidatorState :=
  match state.pendingVector with
  | none => fail "no pending vector to confirm"
  | some pending =>
    pure { state with
      confirmedVectorDigest := some pending.digest
      confirmedDecisionDigest := pending.provenanceDigest
      pendingVector := none }

/-! ## Submission responses -/

/-- The response shapes of `set_weights`: a bare boolean, a tuple with its first
element's truth value, `None`, or an SDK response object. An object's attribute
is `none` when the object lacks it; `error` and `extrinsic` say whether the
attribute is present and not `None`. -/
inductive Response where
  | bool (value : Bool)
  | tuple (first : Option Bool)
  | none
  | object (isSuccess success : Option Bool) (extrinsicReceipt : Option Bool)
      (error extrinsic ambiguous : Bool)
deriving DecidableEq, Repr

def responseSucceeded : Response → Bool
  | .bool value => value
  | .tuple first => first.getD false
  | .none => false
  | .object isSuccess success _ _ _ _ => (isSuccess.or success).getD false

/-- `submission_failure_is_ambiguous`: a receipt means the failure is definite;
without one, an error or a sent extrinsic leaves the outcome open. -/
def submissionFailureIsAmbiguous : Response → Bool
  | .none => true
  | .object _ _ (some hasReceipt) error extrinsic _ =>
    if hasReceipt then false else if error then true else extrinsic
  | .object _ _ .none _ _ ambiguous => ambiguous
  | .bool _ => false
  | .tuple _ => false

/-! ## State file -/

def stateSchema : ℤ := 5

/-- What `load_or_create` finds at the state path. -/
inductive StateFile where
  | missing
  | symlink
  | unsecured
  | corrupt
  | payload (state : ValidatorState)

/-- A `class_checkpoints` item that the loader accepts. -/
def SourceCheckpoint.Valid (classId : String) (checkpoint : SourceCheckpoint) : Prop :=
  classId ≠ "" ∧ 0 ≤ checkpoint.sourceEpoch ∧ isSha256Ref checkpoint.reportId = true

/-- A `registration_checkpoints` item that the loader accepts. -/
def RegistrationCheckpoint.Valid (classId : String) (checkpoint : RegistrationCheckpoint) :
    Prop :=
  classId ≠ "" ∧ checkpoint.ownerColdkey ≠ "" ∧ checkpoint.delegateHotkey ≠ "" ∧
    0 ≤ checkpoint.sequence ∧ isSha256Ref checkpoint.registrationId = true

instance (classId : String) (checkpoint : SourceCheckpoint) :
    Decidable (checkpoint.Valid classId) := inferInstanceAs (Decidable (_ ∧ _))

instance (classId : String) (checkpoint : RegistrationCheckpoint) :
    Decidable (checkpoint.Valid classId) := inferInstanceAs (Decidable (_ ∧ _))

/-- `bytes.fromhex(master_secret_hex)` returns 32 bytes. -/
def masterSecretOk (masterSecretHex : String) : Except Exc Unit :=
  if ¬ fromHexOk masterSecretHex.toList then fail "state master secret is not hex"
  else if (masterSecretHex.toList.filter isHexDigit).length ≠ 64 then
    fail "state master secret must be 32 bytes"
  else pure ()

/-- The comparison of a stored digest; `hmac.compare_digest` refuses text outside ASCII. -/
def compareDigest (expected digest : String) : Except Exc Unit :=
  if digest.toList.any fun c => 128 ≤ c.toNat then
    .error (.other "TypeError" "comparing strings with non-ASCII characters is not supported")
  else refuse (expected ≠ digest) "pending vector digest mismatch"

/-- The checks of `load_or_create` on the pending vector. -/
def checkLoadedPending (hash : VectorBody → Sha256) (pending : Option PendingVector) :
    Except Exc Unit :=
  match pending with
  | none => pure ()
  | some pending => do
    let expected ← vectorDigest hash pending.uids pending.weights pending.hotkeys
      pending.provenanceDigest pending.registrationIds
    compareDigest expected pending.digest
    refuse (pending.attempts < 0 ∨ pending.nextRetryAtMs < 0)
      "invalid pending vector retry metadata"

/-- The checks of `load_or_create` on a state whose fingerprint is accepted. -/
def checkLoadedState (hash : VectorBody → Sha256) (state : ValidatorState) :
    Except Exc ValidatorState := do
  checkLoadedPending hash state.pendingVector
  refuse (∃ kv ∈ state.classCheckpoints.items, ¬ kv.2.Valid kv.1)
    "invalid score class checkpoint"
  refuse (∃ kv ∈ state.registrationCheckpoints.items, ¬ kv.2.Valid kv.1)
    "invalid owner registration checkpoint"
  refuse (∃ kv ∈ state.emaScores.items, ¬ kv.2.FiniteNonneg)
    "invalid score in validator state"
  pure state

/-- The state of a validator that has no file yet. -/
def freshState (fingerprint freshSecret : String) : ValidatorState where
  schema := stateSchema
  configFingerprint := fingerprint
  masterSecretHex := freshSecret

/-- The reset made when a changed configuration is accepted. -/
def ValidatorState.reconfigured (state : ValidatorState) (fingerprint : String) :
    ValidatorState :=
  { state with
    configFingerprint := fingerprint
    lastCompletedRound := -1
    emaScores := ∅
    confirmedVectorDigest := none
    confirmedDecisionDigest := none }

/-- The fingerprint branch of `load_or_create`. -/
def acceptFingerprint (fingerprint : String) (allowConfigChange : Bool)
    (save : ValidatorState → Except Exc Unit) (state : ValidatorState) :
    Except Exc ValidatorState :=
  if state.configFingerprint = fingerprint then pure state
  else do
    refuse (allowConfigChange = false) "config fingerprint changed; use explicit acceptance"
    refuse (state.pendingVector.isSome = true)
      "cannot accept config change with a pending weight vector"
    let state := state.reconfigured fingerprint
    save state
    pure state

/-- The stored digest is the digest of the vector it is stored with. -/
def PendingVector.DigestOk (hash : VectorBody → Sha256) (pending : PendingVector) : Prop :=
  vectorDigest hash pending.uids pending.weights pending.hotkeys pending.provenanceDigest
    pending.registrationIds = .ok pending.digest

/-- `StateStore.load_or_create`; `save` is the outcome of the write it may make. -/
def loadOrCreate (hash : VectorBody → Sha256) (fingerprint freshSecret : String)
    (allowConfigChange : Bool) (save : ValidatorState → Except Exc Unit) (file : StateFile) :
    Except Exc ValidatorState :=
  match file with
  | .missing => do
    let state := freshState fingerprint freshSecret
    save state
    pure state
  | .symlink => fail "validator state must not be a symlink"
  | .unsecured => fail "could not secure validator state permissions"
  | .corrupt => fail "validator state is corrupt"
  | .payload state => do
    refuse (state.schema ≠ stateSchema)
      ("unsupported validator state schema " ++ toString state.schema)
    masterSecretOk state.masterSecretHex
    let state ← acceptFingerprint fingerprint allowConfigChange save state
    checkLoadedState hash state

theorem compareDigest_ok {expected digest : String} {u : Unit}
    (h : compareDigest expected digest = .ok u) : expected = digest := by
  unfold compareDigest at h
  split_ifs at h
  simpa using h

theorem checkLoadedState_digest {hash : VectorBody → Sha256} {state state' : ValidatorState}
    (h : checkLoadedState hash state = .ok state') :
    state' = state ∧ ∀ pending ∈ state.pendingVector, pending.DigestOk hash := by
  obtain ⟨u, hpending, h⟩ := bind_eq_ok.mp h
  obtain ⟨_, -, h⟩ := bind_eq_ok.mp h
  obtain ⟨_, -, h⟩ := bind_eq_ok.mp h
  obtain ⟨_, -, h⟩ := bind_eq_ok.mp h
  refine ⟨(Except.ok.inj h).symm, fun pending hp => ?_⟩
  rw [Option.mem_def] at hp
  rw [hp] at hpending
  obtain ⟨expected, hdigest, hpending⟩ := bind_eq_ok.mp hpending
  obtain ⟨_, hcompare, -⟩ := bind_eq_ok.mp hpending
  rw [PendingVector.DigestOk, hdigest, compareDigest_ok hcompare]

/-- A state that the loader accepts carries a pending vector with its own digest. -/
theorem loadOrCreate_digest {hash : VectorBody → Sha256} {fingerprint freshSecret : String}
    {allowConfigChange : Bool} {save : ValidatorState → Except Exc Unit} {file : StateFile}
    {state : ValidatorState}
    (h : loadOrCreate hash fingerprint freshSecret allowConfigChange save file = .ok state) :
    ∀ pending ∈ state.pendingVector, pending.DigestOk hash := by
  cases file with
  | missing =>
    obtain ⟨_, -, h⟩ := bind_eq_ok.mp h
    cases h
    simp [freshState]
  | payload stored =>
    obtain ⟨_, -, h⟩ := bind_eq_ok.mp h
    obtain ⟨_, -, h⟩ := bind_eq_ok.mp h
    obtain ⟨accepted, -, h⟩ := bind_eq_ok.mp h
    obtain ⟨rfl, hdigest⟩ := checkLoadedState_digest h
    exact hdigest
  | _ => cases h

end Cathedral.Thin
