import Cathedral.Thin.Scores
import Cathedral.Thin.State

/-!
# Cathedral.Thin.ScoreClasses — score classes and their composition

The data model and the decision functions of `cathedral_thin/score_classes.py`:
a policy splits the unit of emission over score classes, each class turns its
report (or the local verification results) into normalized hotkey weights, and
`compose_class_decisions` adds the classes up.

A `ScorePolicy` carries what `load_score_policy` checks before it builds one:
distinct class ids, positive allocations that sum to one, at most one local
class.
-/

namespace Cathedral.Thin

/-! ## Reports -/

structure EvidenceRef where
  kind : String
  id : String
  digest : String
  uri : Option String
deriving DecidableEq, Repr

structure ScoreEntry where
  minerHotkey : String
  metrics : Dict String ℚ
  assertedScore : Option ℚ
  reasonCodes : List String
  evidence : List EvidenceRef
deriving DecidableEq

structure VerifiedReport where
  classId : String
  sourceId : String
  sourceEpoch : ℤ
  reportId : String
  previousReportId : Option String
  validFromBlock : ℤ
  validUntilBlock : ℤ
  policyDigest : String
  verifierDigest : String
  signingKeyId : String
  entries : List ScoreEntry
deriving DecidableEq

/-! ## Policies -/

inductive AssignmentMode where
  | metric
  | assertedScore
deriving DecidableEq, Repr

inductive Transform where
  | linear
  | binary
deriving DecidableEq, Repr

structure AssignmentPolicy where
  mode : AssignmentMode
  metric : Option String
  transform : Transform
  cap : Option ℚ
  requiredReasonCodes : List String := []
  requiredEvidenceKinds : List String := []
deriving DecidableEq, Repr

structure LocalClassPolicy where
  classId : String
  allocation : ℚ
deriving DecidableEq, Repr

structure OwnerRegistrationPolicy where
  sourceNetuid : ℤ
  locations : List String
  maxAgeSeconds : ℤ
  maxFutureSeconds : ℤ
  maxBlockSpan : ℤ
  requireTargetRegistration : Bool
deriving DecidableEq, Repr

abbrev PublicKey := List UInt8

structure ExternalClassPolicy where
  classId : String
  allocation : ℚ
  sourceId : String
  locations : List String
  trustedKeys : Dict String PublicKey
  maxAgeSeconds : ℤ
  maxFutureSeconds : ℤ
  maxBlockSpan : ℤ
  requireEvidence : Bool
  assignment : AssignmentPolicy
  ownerRegistration : Option OwnerRegistrationPolicy := none

/-- The `kind` field of a class and of a decision. -/
inductive ClassKind where
  | localSat
  | external
deriving DecidableEq, Repr

inductive ClassPolicy where
  | localSat (policy : LocalClassPolicy)
  | external (policy : ExternalClassPolicy)

def ClassPolicy.classId : ClassPolicy → String
  | .localSat policy => policy.classId
  | .external policy => policy.classId

def ClassPolicy.allocation : ClassPolicy → ℚ
  | .localSat policy => policy.allocation
  | .external policy => policy.allocation

def ClassPolicy.kind : ClassPolicy → ClassKind
  | .localSat _ => .localSat
  | .external _ => .external

def ClassPolicy.local? : ClassPolicy → Option LocalClassPolicy
  | .localSat policy => some policy
  | .external _ => none

def ClassPolicy.external? : ClassPolicy → Option ExternalClassPolicy
  | .localSat _ => none
  | .external policy => some policy

/-- A score policy as `load_score_policy` builds it. -/
structure ScorePolicy where
  network : String
  netuid : ℤ
  classes : List ClassPolicy
  digest : String
  burnHotkey : Option String := none
  nodup_ids : (classes.map ClassPolicy.classId).Nodup
  allocation_pos : ∀ c ∈ classes, 0 < c.allocation
  sum_allocation : (classes.map ClassPolicy.allocation).sum = 1
  localClass_unique : (classes.filterMap ClassPolicy.local?).length ≤ 1

namespace ScorePolicy

def localClass (policy : ScorePolicy) : Option LocalClassPolicy :=
  (policy.classes.filterMap ClassPolicy.local?).head?

def externalClasses (policy : ScorePolicy) : List ExternalClassPolicy :=
  policy.classes.filterMap ClassPolicy.external?

theorem mem_externalClasses {policy : ScorePolicy} {c : ExternalClassPolicy} :
    c ∈ policy.externalClasses ↔ ClassPolicy.external c ∈ policy.classes := by
  simp only [externalClasses, List.mem_filterMap]
  constructor
  · rintro ⟨(l | e), hmem, heq⟩
    · cases heq
    · cases heq
      exact hmem
  · intro hmem
    exact ⟨_, hmem, rfl⟩

theorem mem_localClass {policy : ScorePolicy} {c : LocalClassPolicy} :
    policy.localClass = some c ↔ ClassPolicy.localSat c ∈ policy.classes := by
  have hmem : c ∈ policy.classes.filterMap ClassPolicy.local? ↔
      ClassPolicy.localSat c ∈ policy.classes := by
    simp only [List.mem_filterMap]
    constructor
    · rintro ⟨(l | e), hmem, heq⟩
      · cases heq
        exact hmem
      · cases heq
    · intro hmem
      exact ⟨_, hmem, rfl⟩
  have hunique := policy.localClass_unique
  rw [← hmem, localClass]
  match policy.classes.filterMap ClassPolicy.local?, hunique with
  | [], _ => simp
  | [l], _ => simp [eq_comm]
  | _ :: _ :: _, h => simp at h

/-- A class of the policy is determined by its id. -/
theorem class_unique {policy : ScorePolicy} {c d : ClassPolicy} (hc : c ∈ policy.classes)
    (hd : d ∈ policy.classes) (h : c.classId = d.classId) : c = d :=
  List.inj_on_of_nodup_map policy.nodup_ids hc hd h

end ScorePolicy

structure VerifiedOwnerRegistration where
  sourceNetuid : ℤ
  targetNetuid : ℤ
  ownerColdkey : String
  delegateHotkey : String
  sourceId : String
  classIds : List String
  reportLocations : List String
  reportKeys : Dict String PublicKey
  sequence : ℤ
  previousRegistrationId : Option String
  registrationId : String
  validFromBlock : ℤ
  validUntilBlock : ℤ
deriving DecidableEq

def materializeRegisteredPolicy (policy : ExternalClassPolicy)
    (registration : VerifiedOwnerRegistration) : Except Exc ExternalClassPolicy :=
  if policy.ownerRegistration.isNone then
    fail "cannot materialize a directly pinned class"
  else if registration.sourceId ≠ policy.sourceId ∨ policy.classId ∉ registration.classIds then
    fail "owner registration does not match score class"
  else pure { policy with trustedKeys := registration.reportKeys }

def enforceCheckpoint (report : VerifiedReport) (checkpoint : Option SourceCheckpoint) :
    Except Exc SourceCheckpoint :=
  match checkpoint with
  | none => pure ⟨report.sourceEpoch, report.reportId⟩
  | some checkpoint =>
    if report.sourceEpoch < checkpoint.sourceEpoch then
      fail "score report source epoch rolled back"
    else if report.sourceEpoch = checkpoint.sourceEpoch then
      if report.reportId ≠ checkpoint.reportId then
        fail "score source equivocated at an accepted epoch"
      else pure checkpoint
    else if report.sourceEpoch = checkpoint.sourceEpoch + 1 ∧
        report.previousReportId ≠ some checkpoint.reportId then
      fail "contiguous score report does not extend the accepted chain"
    else pure ⟨report.sourceEpoch, report.reportId⟩

/-! ## Class decisions -/

inductive DecisionAssignment where
  | validatorLocalSat
  | revokedToBurn
  | external (assignment : AssignmentPolicy) (requireEvidence : Bool)
      (policyDigest verifierDigest signingKeyId : String)
      (ownerRegistration : Option VerifiedOwnerRegistration)
deriving DecidableEq

/-- The provenance record of a decision. -/
inductive Provenance where
  | reasonCodes (reasons : Dict String String)
  | entries (entries : Dict String ScoreEntry)
  | classFailure (reason : String)
deriving DecidableEq

structure ClassDecision where
  classId : String
  kind : ClassKind
  allocation : ℚ
  sourceId : Option String
  sourceEpoch : Option ℤ
  reportId : Option String
  assignment : DecisionAssignment
  rawScores : Dict String ℚ
  normalizedWeights : Dict String ℚ
  provenance : Provenance
deriving DecidableEq

/-- The value that `assignment_score` reads before cap and transform. -/
def assignedValue (entry : ScoreEntry) (assignment : AssignmentPolicy) : Except Exc ℚ :=
  match assignment.mode with
  | .metric =>
    match assignment.metric.bind entry.metrics.get? with
    | some value => pure value
    | none => fail ("entry " ++ entry.minerHotkey ++ " lacks assigned metric " ++
        assignment.metric.getD "None")
  | .assertedScore =>
    match entry.assertedScore with
    | some value => pure value
    | none => fail ("entry " ++ entry.minerHotkey ++ " lacks asserted_score")

def assignmentScore (entry : ScoreEntry) (assignment : AssignmentPolicy) : Except Exc ℚ := do
  let value ← assignedValue entry assignment
  let capped := match assignment.cap with
    | none => value
    | some cap => min value cap
  let score := match assignment.transform with
    | .linear => capped
    | .binary => if 0 < capped then 1 else 0
  refuse (score < 0) "assigned score is non-finite or negative"
  pure score

/-- The score of an entry after the evidence and reason checks. -/
def acceptedScore (policy : ExternalClassPolicy) (entry : ScoreEntry) : Except Exc ℚ := do
  let score ← assignmentScore entry policy.assignment
  refuse (0 < score ∧ policy.requireEvidence = true ∧ entry.evidence = [])
    ("positive score for " ++ entry.minerHotkey ++ " lacks required evidence")
  refuse (0 < score ∧ ¬ policy.assignment.requiredReasonCodes ⊆ entry.reasonCodes)
    ("positive score for " ++ entry.minerHotkey ++ " lacks validator-required reasons")
  refuse (0 < score ∧
      ¬ policy.assignment.requiredEvidenceKinds ⊆ entry.evidence.map EvidenceRef.kind)
    ("positive score for " ++ entry.minerHotkey ++ " lacks validator-required evidence kinds")
  pure score

/-- One pass of the entry loop of `external_class_decision`. -/
def entryStep (policy : ExternalClassPolicy) (coldkeyOf : Dict String String)
    (acc : Dict String ℚ × Dict String ScoreEntry) (entry : ScoreEntry) :
    Except Exc (Dict String ℚ × Dict String ScoreEntry) := do
  let score ← acceptedScore policy entry
  if coldkeyOf.contains entry.minerHotkey then
    pure (acc.1.set entry.minerHotkey score, acc.2.set entry.minerHotkey entry)
  else pure acc

/-- The raw scores and the provenance that a report gives the registered hotkeys. -/
def reportScores (policy : ExternalClassPolicy) (report : VerifiedReport)
    (coldkeyOf : Dict String String) : Except Exc (Dict String ℚ × Dict String ScoreEntry) :=
  report.entries.foldlM (entryStep policy coldkeyOf) (∅, ∅)

def externalClassDecision (policy : ExternalClassPolicy) (report : VerifiedReport)
    (coldkeyOf : Dict String String)
    (ownerRegistration : Option VerifiedOwnerRegistration) : Except Exc ClassDecision := do
  let (rawScores, provenance) ← reportScores policy report coldkeyOf
  let normalized ← coldkeyCollapsedWeights rawScores coldkeyOf
  refuse (normalized.isEmpty = true)
    ("configured class " ++ policy.classId ++ " has no positive scores")
  pure
    { classId := policy.classId
      kind := .external
      allocation := policy.allocation
      sourceId := some policy.sourceId
      sourceEpoch := some report.sourceEpoch
      reportId := some report.reportId
      assignment := .external policy.assignment policy.requireEvidence report.policyDigest
        report.verifierDigest report.signingKeyId ownerRegistration
      rawScores
      normalizedWeights := normalized
      provenance := .entries provenance }

def localClassDecision (policy : LocalClassPolicy) (rawScores : Dict String ℚ)
    (coldkeyOf : Dict String String) (reasons : Dict String String) :
    Except Exc ClassDecision := do
  let normalized ← coldkeyCollapsedWeights rawScores coldkeyOf
  pure
    { classId := policy.classId
      kind := .localSat
      allocation := policy.allocation
      sourceId := none
      sourceEpoch := none
      reportId := none
      assignment := .validatorLocalSat
      rawScores := rawScores.sorted
      normalizedWeights := normalized
      provenance := .reasonCodes
        (rawScores.sorted.mapItems fun hotkey _ => reasons.getD hotkey "missing_result") }

/-- The decision that the runner records for a class that could not be loaded. -/
def revokedClassDecision (policy : ExternalClassPolicy) (reason : String) : ClassDecision where
  classId := policy.classId
  kind := .external
  allocation := policy.allocation
  sourceId := some policy.sourceId
  sourceEpoch := none
  reportId := none
  assignment := .revokedToBurn
  rawScores := ∅
  normalizedWeights := ∅
  provenance := .classFailure reason

/-! ## Composition -/

/-- The tolerance of the two normalization checks. -/
def composeTolerance : ℚ := 1 / 10 ^ 9

/-- `final[hotkey] += allocation * value` over the hotkeys of one class. -/
def addClassWeights (burnHotkey : Option String) (allocation : ℚ) (final : Dict String ℚ)
    (kv : String × ℚ) : Except Exc (Dict String ℚ) :=
  if burnHotkey = some kv.1 then fail "burn hotkey cannot earn validated supply"
  else pure (final.add kv.1 (allocation * kv.2))

/-- One pass of the class loop of `compose_class_decisions`. -/
def composeStep (burnHotkey : Option String) (byId : Dict String ClassDecision)
    (final : Dict String ℚ) (classPolicy : ClassPolicy) : Except Exc (Dict String ℚ) :=
  match byId.get? classPolicy.classId with
  | none => .error (.other "KeyError" classPolicy.classId)
  | some decision =>
    if decision.kind ≠ classPolicy.kind then fail "class decision kind mismatch"
    else if decision.normalizedWeights.isEmpty then
      match burnHotkey with
      | none => fail "class weights are not normalized"
      | some burn => pure (final.add burn classPolicy.allocation)
    else if composeTolerance < |decision.normalizedWeights.total - 1| then
      fail "class weights are not normalized"
    else
      decision.normalizedWeights.items.foldlM
        (addClassWeights burnHotkey classPolicy.allocation) final

/-- The positive entries of `final` over their sum. -/
def normalizedVector (final : Dict String ℚ) : Dict String ℚ :=
  (final.sorted.filterItems fun _ value => 0 < value).mapItems fun _ value => value / final.total

/-- The `by_id` dictionary of `compose_class_decisions`. -/
def decisionsById (decisions : List ClassDecision) : Dict String ClassDecision :=
  Dict.ofList (decisions.map fun item => (item.classId, item))

/-- The decisions are for the classes of the policy, one for each. -/
def Covers (policy : ScorePolicy) (decisions : List ClassDecision) : Prop :=
  (decisionsById decisions).items.length = decisions.length ∧
    (decisionsById decisions).keys.toFinset =
      (policy.classes.map ClassPolicy.classId).toFinset

instance (policy : ScorePolicy) (decisions : List ClassDecision) :
    Decidable (Covers policy decisions) := inferInstanceAs (Decidable (_ ∧ _))

def composeClassDecisions (policy : ScorePolicy) (decisions : List ClassDecision) :
    Except Exc (Dict String ℚ) := do
  refuse (¬ Covers policy decisions) "class decisions do not cover the configured policy"
  if policy.burnHotkey = none ∧ decisions ≠ [] ∧
      (decisions.all fun item => item.normalizedWeights.isEmpty) = true then
    -- a fully empty round without a burn destination keeps the vector on chain
    return ∅
  let final ← policy.classes.foldlM
    (composeStep policy.burnHotkey (decisionsById decisions)) ∅
  refuse (composeTolerance < |final.total - 1|)
    "composed class weights do not conserve allocation"
  return normalizedVector final

end Cathedral.Thin
