import Cathedral.Lib.PyDecimalRead
import Cathedral.Thin.Aggregation

/-!
# Cathedral.Thin.PolicyTasks — tasks of the verified policy protocol

`_validate_task_body` and `verify_task` of `cathedral_thin/verified_policy.py`. A validator
signs a task for one miner: the names of features and labels, public examples, the
commitment to a hidden suite, and the floors below which a policy earns little.
-/

namespace Cathedral.Thin

namespace Policy

/-- What the protocol takes from the interpreter and the wallet library, besides what all
documents take. -/
structure PolicyPlatform extends Platform where
  unicode : UnicodeTables
  /-- `Keypair(ss58_address=hotkey).verify(message, signature)`; `none` where it raises. -/
  sr25519 : PyStr → Bytes → Bytes → Option Bool

def taskSchema : String := "cathedral_verified_policy_task_v1"

def taskDomain : Bytes := domainBytes "cathedral-verified-policy-task-v1"

def taskIdDomain : Bytes := domainBytes "cathedral-verified-policy-task-id-v1"

def maxTaskBytes : ℕ := 4194304

def maxExamples : ℕ := 4096

def maxFeatures : ℕ := 64

def maxLabels : ℕ := 64

def exampleKeys : List String := ["example_id", "features", "label"]

def metricPolicyKeys : List String := ["compactness_max_terms", "quality_floor", "rare_floor"]

def taskKeys : List String :=
  ["schema", "network", "netuid", "source_epoch", "task_class", "validator_hotkey",
    "miner_hotkey", "nonce_base64", "issued_at", "valid_from_block", "valid_until_block",
    "feature_names", "labels", "rare_labels", "public_examples", "hidden_suite_commitment",
    "metric_policy", "task_id", "signature"]

/-! ## Fields -/

/-- `[a-z0-9][a-z0-9._:-]{0,127}`. -/
def isPolicyIdentifier : List Char → Bool
  | [] => false
  | c :: rest =>
    (isLowerAlpha c || c.isDigit) && decide (rest.length ≤ 127) &&
      rest.all fun c => isLowerAlpha c || c.isDigit || c ∈ ['.', '_', ':', '-']

def identifier (value : Document) (label : String) : Except Exc String :=
  matching isPolicyIdentifier value ("invalid " ++ label)

def positiveInt (value : Document) (label : String) : Except Exc ℤ :=
  match value with
  | .num n => if 0 < n then pure n else fail (label ++ " must be a positive integer")
  | _ => fail (label ++ " must be a positive integer")

/-- `_nonnegative_int`. -/
def nonnegative (value : Document) (label : String) : Except Exc ℤ :=
  nonnegativeInt value (label ++ " must be a non-negative integer")

/-- `_digest`. -/
def policyDigest (value : Document) (label : String) : Except Exc String :=
  matching isDigest value ("invalid " ++ label)

/-- A feature's value; `True` is not the number one. -/
inductive Scalar where
  | bool (b : Bool)
  | int (n : ℤ)
  | str (s : String)
deriving DecidableEq

def Scalar.document : Scalar → Document
  | .bool b => .bool b
  | .int n => .num n
  | .str s => strConst s

def scalar (value : Document) (label : String) : Except Exc Scalar :=
  match value with
  | .bool b => pure (.bool b)
  | .num n =>
    if 1000000000000 < |n| then fail (label ++ " integer is out of bounds") else pure (.int n)
  | .str t =>
    .str <$> boundedString (.str t) 256
      (label ++ " must be a bounded string, boolean, or integer")
  | _ => fail (label ++ " must be a bounded string, boolean, or integer")

/-- A list of identifiers, sorted and unique. -/
def sortedIdentifiers (value : Document) (minimum maximum : ℕ) (message : String) :
    Except Exc (List String) :=
  match value with
  | .arr items => do
    refuse (¬ (minimum ≤ items.length ∧ items.length ≤ maximum)) message
    let names ← items.mapM fun item => matching isPolicyIdentifier item message
    refuse (¬ names.Pairwise (· < ·)) message
    pure names
  | _ => fail message

def isText : Document → Bool
  | .str _ => true
  | _ => false

def isNumber : Document → Bool
  | .bool _ => true
  | .num _ => true
  | _ => false

def isContainer : Document → Bool
  | .arr _ => true
  | .obj _ => true
  | _ => false

/-- `rare_labels`: what `set` and `sorted` make of the entries before they are compared
with the labels. -/
def rareLabelsOf (labels : List String) (value : Document) : Except Exc (List String) :=
  let message := "rare labels must be a non-empty sorted label subset"
  match value with
  | .arr items => do
    refuse (items = []) message
    -- `set` raises on a list or a dict, `sorted` where two entries have no order
    if items.any isContainer = true then .error (.other "TypeError" "unhashable type")
    else if items.all isText = false ∧ items.all isNumber = false ∧ 2 ≤ items.dedup.length then
      .error (.other "TypeError" "'<' not supported between instances")
    else do
      let names ← items.mapM fun item => matching (fun _ => true) item message
      refuse (¬ names.Pairwise (· < ·)) message
      refuse (¬ ∀ name ∈ names, name ∈ labels) message
      pure names
  | _ => fail message

/-- What `Decimal(value)` is, where it does not raise. -/
def decimalOf (platform : PolicyPlatform) (value : Document) : Option PyDecimal.Reading :=
  match value with
  | .bool b => some (.finite false (if b then 1 else 0) 0)
  | .num n => some (.finite (n < 0) n.natAbs 0)
  | .str t => PyDecimal.read platform.unicode t
  -- a sign, the digits, and an exponent or the letter of a special value
  | .arr [sign, .arr digits, exponent] =>
    if (equalsInt sign 0 || equalsInt sign 1) &&
        digits.all (fun digit => (List.range 10).any fun n => equalsInt digit n) &&
        (isNumber exponent || exponent ∈ ["F", "n", "N"].map strConst) then
      some .nan
    else none
  | _ => none

/-- `canonical_decimal` of any `Decimal`. -/
def canonicalReading (reading : PyDecimal.Reading) : Except Exc String :=
  match reading.value? with
  | some value => canonicalDecimal value
  | none => fail "value is not a finite non-negative decimal"

def parseFloor (platform : PolicyPlatform) (value : Document) (label : String) : Except Exc ℚ :=
  match decimalOf platform value with
  | none => fail ("invalid " ++ label)
  | some reading =>
    match value with
    | .str t => do
      let text ← canonicalReading reading
      let parsed := reading.value?.getD 0
      refuse (PyStr.ofString text ≠ t ∨ ¬ (0 ≤ parsed ∧ parsed ≤ 1))
        (label ++ " must be a canonical decimal from 0 to 1")
      pure parsed
    | _ => fail (label ++ " must be a canonical decimal from 0 to 1")

/-! ## Examples -/

structure Example where
  exampleId : String
  features : List (String × Scalar)
  label : String

/-- One row of `_validate_examples`. -/
def exampleOf (featureNames labels : List String) (label : String) (row : Document) :
    Except Exc Example := do
  let fields ← object row (label ++ " row must be an object")
  requireExactKeys fields exampleKeys (label ++ " row")
  let exampleId ← identifier (fields.get "example_id") (label ++ " example id")
  let features ← object (fields.get "features")
    (label ++ " features do not match the task schema")
  refuse ((features.map Prod.fst).insertionSort (· ≤ ·) ≠ featureNames.map PyStr.ofString)
    (label ++ " features do not match the task schema")
  let normalized ← featureNames.mapM fun key => do
    let value ← scalar (Fields.get features key) (label ++ " feature " ++ key)
    pure (key, value)
  let decision ← identifier (fields.get "label") (label ++ " decision label")
  refuse (decision ∉ labels) (label ++ " decision label is not allowed")
  pure { exampleId := exampleId, features := normalized, label := decision }

def validateExamples (featureNames labels : List String) (label : String) (minimum : ℕ)
    (raw : Document) : Except Exc (List Example) :=
  let message := label ++ " must contain " ++ toString minimum ++ ".." ++ toString maxExamples ++
    " cases"
  match raw with
  | .arr rows => do
    refuse (¬ (minimum ≤ rows.length ∧ rows.length ≤ maxExamples)) message
    let parsed ← rows.mapM (exampleOf featureNames labels label)
    refuse (¬ (parsed.map Example.exampleId).Pairwise (· < ·))
      (label ++ " example ids must be sorted and unique")
    pure parsed
  | _ => fail message

/-! ## Tasks -/

/-- What a task's document says, as values. -/
structure TaskBody where
  network : String
  netuid : ℤ
  sourceEpoch : ℤ
  validatorHotkey : PyStr
  minerHotkey : PyStr
  issuedAt : UtcTime
  validFromBlock : ℤ
  validUntilBlock : ℤ
  featureNames : List String
  labels : List String
  rareLabels : List String
  publicExamples : List Example
  hiddenSuiteCommitment : String
  qualityFloor : ℚ
  rareFloor : ℚ
  compactnessMaxTerms : ℤ

/-- A string that is not empty. -/
def hotkeyOf (fields : Fields) (name : String) : Except Exc PyStr :=
  match fields.get name with
  | .str t => if t ≠ [] then pure t else fail ("task " ++ name ++ " is invalid")
  | _ => fail ("task " ++ name ++ " is invalid")

/-- The metric policy of a task: the bound on terms and the two floors. -/
def metricPolicyOf (platform : PolicyPlatform) (value : Document) : Except Exc (ℤ × ℚ × ℚ) := do
  let metric ← object value "metric policy must be an object"
  requireExactKeys metric metricPolicyKeys "metric policy"
  let terms ← positiveInt (metric.get "compactness_max_terms") "compactness_max_terms"
  let quality ← parseFloor platform (metric.get "quality_floor") "quality_floor"
  let rare ← parseFloor platform (metric.get "rare_floor") "rare_floor"
  pure (terms, quality, rare)

/-- `_validate_task_body`. -/
def taskBody (platform : PolicyPlatform) (fields : Fields) : Except Exc TaskBody := do
  refuse (fields.get "schema" ≠ strConst taskSchema) "unsupported verified policy task schema"
  let network ← boundedString (fields.get "network") 128 "task network is invalid"
  let netuid ← nonnegative (fields.get "netuid") "task netuid"
  let sourceEpoch ← nonnegative (fields.get "source_epoch") "task source epoch"
  let _ ← identifier (fields.get "task_class") "task class"
  let validatorHotkey ← hotkeyOf fields "validator_hotkey"
  let minerHotkey ← hotkeyOf fields "miner_hotkey"
  let _ ← base64Bytes (fields.get "nonce_base64") 32 "task nonce must be canonical base64"
    "task nonce must be canonical base64 containing 32 bytes"
  let issuedAt ← parseTime (fields.get "issued_at") "task issued_at"
  let first ← nonnegative (fields.get "valid_from_block") "valid_from_block"
  let last ← nonnegative (fields.get "valid_until_block") "valid_until_block"
  refuse (last ≤ first) "task block window is empty"
  let featureNames ← sortedIdentifiers (fields.get "feature_names") 1 maxFeatures
    "feature names must be sorted, unique identifiers"
  let labels ← sortedIdentifiers (fields.get "labels") 2 maxLabels
    "labels must be sorted, unique identifiers"
  let rareLabels ← rareLabelsOf labels (fields.get "rare_labels")
  let examples ← validateExamples featureNames labels "public examples" 2
    (fields.get "public_examples")
  let commitment ← policyDigest (fields.get "hidden_suite_commitment") "hidden suite commitment"
  let (terms, quality, rare) ← metricPolicyOf platform (fields.get "metric_policy")
  pure
    { network := network
      netuid := netuid
      sourceEpoch := sourceEpoch
      validatorHotkey := validatorHotkey
      minerHotkey := minerHotkey
      issuedAt := issuedAt
      validFromBlock := first
      validUntilBlock := last
      featureNames := featureNames
      labels := labels
      rareLabels := rareLabels
      publicExamples := examples
      hiddenSuiteCommitment := commitment
      qualityFloor := quality
      rareFloor := rare
      compactnessMaxTerms := terms }

structure PolicyTask extends TaskBody where
  taskId : String
  document : Fields

/-- What `verify_task` is told besides the bytes. -/
structure TaskContext where
  network : String
  netuid : ℤ
  currentBlock : ℤ
  now : UtcTime
  expectedValidatorHotkey : Option PyStr := none
  expectedMinerHotkey : Option PyStr := none
  maxAgeSeconds : ℤ := 3600
  maxFutureSeconds : ℤ := 30
  maxBlockSpan : ℤ := 7200

/-- `_signature`. -/
def signatureBytes (value : Document) (label : String) : Except Exc Bytes := do
  let signature ← object value (label ++ " signature must be an object")
  requireExactKeys signature signatureKeys (label ++ " signature")
  refuse (signature.get "algorithm" ≠ strConst "sr25519")
    ("unsupported " ++ label ++ " signature algorithm")
  base64Bytes (signature.get "value_base64") 64 (label ++ " signature must be canonical base64")
    (label ++ " signature must be canonical base64 containing 64 bytes")

/-- `_verify_sr25519` over a domain and a document. -/
def verifySr25519 (platform : PolicyPlatform) (hotkey : PyStr) (domain : Bytes) (body : Fields)
    (signature : Bytes) (label : String) : Except Exc Unit := do
  let message ← canonicalJson platform.toPlatform (.obj body)
  match platform.sr25519 hotkey (domain ++ message) signature with
  | none => fail (label ++ " hotkey is invalid")
  | some valid => refuse (valid = false) (label ++ " signature verification failed")

/-- `_signed`. -/
def signedFields (fields : Fields) : Fields := fields.without ["signature"]

/-- `_unsigned`. -/
def unsignedFields (fields : Fields) (idField : String) : Fields :=
  fields.without [idField, "signature"]

/-- An id that is the digest of the document without it, and the signature over the
document. -/
def verifyEnvelope (platform : PolicyPlatform) (fields : Fields) (idField idLabel mismatch : String)
    (idDomain domain : Bytes) (hotkey : PyStr) (label : String) : Except Exc String := do
  let id ← policyDigest (fields.get idField) idLabel
  let expected ← digestOf platform.toPlatform idDomain (unsignedFields fields idField)
  refuse (id ≠ expected.tagged) mismatch
  let signature ← signatureBytes (fields.get "signature") label
  verifySr25519 platform hotkey domain (signedFields fields) signature label
  pure id

/-- The document of a signed artifact of the protocol, in its canonical form. -/
def openCanonical (platform : PolicyPlatform) (raw : Bytes) (maximumBytes : ℕ) (message : String) :
    Except Exc Fields := do
  let fields ← parseStrictJson platform.toPlatform (stripNewline raw) maximumBytes
  let canonical ← canonicalJson platform.toPlatform (.obj fields)
  refuse (stripNewline raw ≠ canonical) message
  pure fields

/-- A task is for the chain, the parties and the block at which it is verified. -/
def checkTaskContext (context : TaskContext) (body : TaskBody) : Except Exc Unit := do
  refuse (body.network ≠ context.network ∨ body.netuid ≠ context.netuid)
    "verified policy task network or netuid mismatch"
  refuse (∃ expected ∈ context.expectedValidatorHotkey,
      expected ≠ [] ∧ body.validatorHotkey ≠ expected) "verified policy task validator mismatch"
  refuse (∃ expected ∈ context.expectedMinerHotkey, expected ≠ [] ∧ body.minerHotkey ≠ expected)
    "verified policy task miner mismatch"
  refuse (context.currentBlock < 0) "current block must be a non-negative integer"
  refuse (context.currentBlock < body.validFromBlock ∨ body.validUntilBlock ≤ context.currentBlock)
    "verified policy task is outside its block window"
  refuse (context.maxBlockSpan < body.validUntilBlock - body.validFromBlock)
    "verified policy task block window is too wide"
  let age := context.now.micros - body.issuedAt.micros
  refuse (age < -context.maxFutureSeconds * 1000000 ∨ context.maxAgeSeconds * 1000000 < age)
    "verified policy task is stale or future-dated"

def verifyTask (platform : PolicyPlatform) (context : TaskContext) (raw : Bytes) :
    Except Exc PolicyTask := do
  let fields ← openCanonical platform raw maxTaskBytes
    "verified policy task JSON must be canonical"
  requireExactKeys fields taskKeys "verified policy task"
  let body ← taskBody platform fields
  checkTaskContext context body
  let taskId ← verifyEnvelope platform fields "task_id" "task id"
    "task id does not match its canonical body" taskIdDomain taskDomain body.validatorHotkey "task"
  pure { body with taskId := taskId, document := fields }

/-! ## What a verified task is -/

/-- The bounds on a feature's value. -/
def Scalar.Bounded : Scalar → Prop
  | .bool _ => True
  | .int n => |n| ≤ 1000000000000
  | .str s => 1 ≤ s.utf8ByteSize ∧ s.utf8ByteSize ≤ 256

/-- Names that are identifiers, sorted and unique. -/
structure SortedNames (names : List String) : Prop where
  identifiers : ∀ name ∈ names, isPolicyIdentifier name.toList = true
  sorted : names.Pairwise (· < ·)

structure Example.Shape (featureNames labels : List String) (e : Example) : Prop where
  identifier : isPolicyIdentifier e.exampleId.toList = true
  keys : e.features.map Prod.fst = featureNames
  bounded : ∀ feature ∈ e.features, feature.2.Bounded
  label_mem : e.label ∈ labels

structure TaskBody.Shape (body : TaskBody) : Prop where
  features : SortedNames body.featureNames
  features_count : 1 ≤ body.featureNames.length ∧ body.featureNames.length ≤ maxFeatures
  labels : SortedNames body.labels
  labels_count : 2 ≤ body.labels.length ∧ body.labels.length ≤ maxLabels
  rare_ne_nil : body.rareLabels ≠ []
  rare_sorted : body.rareLabels.Pairwise (· < ·)
  rare_subset : ∀ label ∈ body.rareLabels, label ∈ body.labels
  ids_sorted : (body.publicExamples.map Example.exampleId).Pairwise (· < ·)
  examples_count : 2 ≤ body.publicExamples.length ∧ body.publicExamples.length ≤ maxExamples
  examples : ∀ e ∈ body.publicExamples, e.Shape body.featureNames body.labels

theorem scalar_eq_ok {value : Document} {label : String} {s : Scalar} :
    scalar value label = .ok s ↔ value = s.document ∧ s.Bounded := by
  constructor
  · intro h
    cases value with
    | bool b =>
      cases h
      exact ⟨rfl, trivial⟩
    | num n =>
      simp only [scalar] at h
      split_ifs at h with hn
      · cases h
      · cases h
        exact ⟨rfl, not_lt.mp hn⟩
    | str t =>
      obtain ⟨text, htext, hs⟩ := map_eq_ok.mp h
      obtain ⟨hvalue, hbounds⟩ := boundedString_eq_ok.mp htext
      rw [← hs]
      exact ⟨hvalue, hbounds⟩
    | null => cases h
    | arr items => cases h
    | obj members => cases h
  · rintro ⟨rfl, hbounds⟩
    cases s with
    | bool b => rfl
    | int n => exact if_neg (not_lt.mpr hbounds)
    | str text => exact map_eq_ok.mpr ⟨text, boundedString_eq_ok.mpr ⟨rfl, hbounds⟩, rfl⟩

theorem mapM_matching {accepts : List Char → Bool} {message : String} :
    ∀ {items : List Document} {names : List String},
    (items.mapM fun item => matching accepts item message) = .ok names ↔
      items = names.map strConst ∧ ∀ name ∈ names, accepts name.toList = true := by
  intro items names
  rw [mapM_eq_ok]
  constructor
  · intro h
    induction h with
    | nil => exact ⟨rfl, fun name hname => absurd hname List.not_mem_nil⟩
    | cons hitem _ ih =>
      obtain ⟨rfl, haccepts⟩ := matching_eq_ok.mp hitem
      obtain ⟨rfl, hall⟩ := ih
      exact ⟨rfl, List.forall_mem_cons.mpr ⟨haccepts, hall⟩⟩
  · rintro ⟨rfl, hall⟩
    induction names with
    | nil => exact .nil
    | cons name names ih =>
      obtain ⟨hname, hnames⟩ := List.forall_mem_cons.mp hall
      exact .cons (matching_eq_ok.mpr ⟨rfl, hname⟩) (ih hnames)

theorem sortedIdentifiers_eq_ok {value : Document} {minimum maximum : ℕ} {message : String}
    {names : List String} :
    sortedIdentifiers value minimum maximum message = .ok names ↔
      value = .arr (names.map strConst) ∧ minimum ≤ names.length ∧ names.length ≤ maximum ∧
        SortedNames names := by
  constructor
  · intro h
    cases value with
    | arr items =>
      obtain ⟨_, hcount, h⟩ := bind_eq_ok.mp h
      obtain ⟨names', hnames, h⟩ := bind_eq_ok.mp h
      obtain ⟨_, hsorted, h⟩ := bind_eq_ok.mp h
      cases h
      obtain ⟨rfl, hids⟩ := mapM_matching.mp hnames
      rw [refuse_eq_ok, not_not, List.length_map] at hcount
      exact ⟨rfl, hcount.1, hcount.2, hids, not_not.mp (refuse_eq_ok.mp hsorted)⟩
    | null => cases h
    | bool b => cases h
    | num n => cases h
    | str t => cases h
    | obj members => cases h
  · rintro ⟨rfl, hmin, hmax, hnames⟩
    refine bind_eq_ok.mpr ⟨(), refuse_eq_ok.mpr ?_, bind_eq_ok.mpr
      ⟨names, mapM_matching.mpr ⟨rfl, hnames.identifiers⟩, bind_eq_ok.mpr
        ⟨(), refuse_eq_ok.mpr (not_not.mpr hnames.sorted), rfl⟩⟩⟩
    rw [not_not, List.length_map]
    exact ⟨hmin, hmax⟩

section Shapes

variable {platform : PolicyPlatform} {featureNames labels : List String} {label : String}

theorem exampleOf_shape {row : Document} {e : Example}
    (h : exampleOf featureNames labels label row = .ok e) : e.Shape featureNames labels := by
  obtain ⟨fields, -, h⟩ := bind_eq_ok.mp h
  obtain ⟨_, -, h⟩ := bind_eq_ok.mp h
  obtain ⟨exampleId, hid, h⟩ := bind_eq_ok.mp h
  obtain ⟨features, -, h⟩ := bind_eq_ok.mp h
  obtain ⟨_, -, h⟩ := bind_eq_ok.mp h
  obtain ⟨normalized, hnormalized, h⟩ := bind_eq_ok.mp h
  obtain ⟨decision, -, h⟩ := bind_eq_ok.mp h
  obtain ⟨_, hallowed, h⟩ := bind_eq_ok.mp h
  cases h
  have hvalues : List.Forall₂ (fun key (feature : String × Scalar) =>
      feature.1 = key ∧ feature.2.Bounded) featureNames normalized := by
    refine (mapM_eq_ok.mp hnormalized).imp fun key feature hfeature => ?_
    obtain ⟨value, hvalue, hfeature⟩ := bind_eq_ok.mp hfeature
    cases hfeature
    exact ⟨rfl, (scalar_eq_ok.mp hvalue).2⟩
  refine ⟨(matching_eq_ok.mp hid).2, ?_, ?_, not_not.mp (refuse_eq_ok.mp hallowed)⟩
  · have hkeys := map_eq_of_forall₂ (f := id) (g := Prod.fst) (hvalues.imp fun _ _ hv => hv.1.symm)
    rw [List.map_id] at hkeys
    exact hkeys.symm
  · intro feature hfeature
    obtain ⟨key, -, hkey⟩ := exists_of_forall₂ hvalues.flip hfeature
    exact hkey.2

theorem validateExamples_shape {minimum : ℕ} {raw : Document} {examples : List Example}
    (h : validateExamples featureNames labels label minimum raw = .ok examples) :
    (examples.map Example.exampleId).Pairwise (· < ·) ∧
      (minimum ≤ examples.length ∧ examples.length ≤ maxExamples) ∧
      ∀ e ∈ examples, e.Shape featureNames labels := by
  cases raw with
  | arr rows =>
    obtain ⟨_, hcount, h⟩ := bind_eq_ok.mp h
    obtain ⟨parsed, hparsed, h⟩ := bind_eq_ok.mp h
    obtain ⟨_, hsorted, h⟩ := bind_eq_ok.mp h
    cases h
    have hrows := mapM_eq_ok.mp hparsed
    rw [refuse_eq_ok, not_not, hrows.length_eq] at hcount
    refine ⟨not_not.mp (refuse_eq_ok.mp hsorted), hcount, fun e he => ?_⟩
    obtain ⟨row, -, hrow⟩ := exists_of_forall₂ hrows.flip he
    exact exampleOf_shape hrow
  | null => cases h
  | bool b => cases h
  | num n => cases h
  | str t => cases h
  | obj members => cases h

theorem rareLabelsOf_shape {value : Document} {rare : List String}
    (h : rareLabelsOf labels value = .ok rare) :
    rare ≠ [] ∧ rare.Pairwise (· < ·) ∧ ∀ name ∈ rare, name ∈ labels := by
  cases value with
  | arr items =>
    obtain ⟨_, hne, h⟩ := bind_eq_ok.mp h
    split_ifs at h
    obtain ⟨names, hnames, h⟩ := bind_eq_ok.mp h
    obtain ⟨_, hsorted, h⟩ := bind_eq_ok.mp h
    obtain ⟨_, hsubset, h⟩ := bind_eq_ok.mp h
    cases h
    obtain ⟨rfl, -⟩ := mapM_matching.mp hnames
    refine ⟨?_, not_not.mp (refuse_eq_ok.mp hsorted), not_not.mp (refuse_eq_ok.mp hsubset)⟩
    rintro rfl
    exact refuse_eq_ok.mp hne rfl
  | null => cases h
  | bool b => cases h
  | num n => cases h
  | str t => cases h
  | obj members => cases h

/-- What the parts of a task's document give. -/
theorem taskBody_parts {fields : Fields} {body : TaskBody}
    (h : taskBody platform fields = .ok body) :
    sortedIdentifiers (fields.get "feature_names") 1 maxFeatures
        "feature names must be sorted, unique identifiers" = .ok body.featureNames ∧
      sortedIdentifiers (fields.get "labels") 2 maxLabels
        "labels must be sorted, unique identifiers" = .ok body.labels ∧
      rareLabelsOf body.labels (fields.get "rare_labels") = .ok body.rareLabels ∧
      validateExamples body.featureNames body.labels "public examples" 2
        (fields.get "public_examples") = .ok body.publicExamples := by
  unfold taskBody at h
  obtain ⟨_, -, h⟩ := bind_eq_ok.mp h
  obtain ⟨network, -, h⟩ := bind_eq_ok.mp h
  obtain ⟨netuid, -, h⟩ := bind_eq_ok.mp h
  obtain ⟨sourceEpoch, -, h⟩ := bind_eq_ok.mp h
  obtain ⟨_, -, h⟩ := bind_eq_ok.mp h
  obtain ⟨validatorHotkey, -, h⟩ := bind_eq_ok.mp h
  obtain ⟨minerHotkey, -, h⟩ := bind_eq_ok.mp h
  obtain ⟨_, -, h⟩ := bind_eq_ok.mp h
  obtain ⟨issuedAt, -, h⟩ := bind_eq_ok.mp h
  obtain ⟨first, -, h⟩ := bind_eq_ok.mp h
  obtain ⟨last, -, h⟩ := bind_eq_ok.mp h
  obtain ⟨_, -, h⟩ := bind_eq_ok.mp h
  obtain ⟨featureNames, hfeatures, h⟩ := bind_eq_ok.mp h
  obtain ⟨labels, hlabels, h⟩ := bind_eq_ok.mp h
  obtain ⟨rareLabels, hrare, h⟩ := bind_eq_ok.mp h
  obtain ⟨examples, hexamples, h⟩ := bind_eq_ok.mp h
  obtain ⟨commitment, -, h⟩ := bind_eq_ok.mp h
  obtain ⟨metric, -, h⟩ := bind_eq_ok.mp h
  cases h
  exact ⟨hfeatures, hlabels, hrare, hexamples⟩

theorem taskBody_shape {fields : Fields} {body : TaskBody}
    (h : taskBody platform fields = .ok body) : body.Shape := by
  obtain ⟨hfeatures, hlabels, hrare, hexamples⟩ := taskBody_parts h
  obtain ⟨-, hfeaturesMin, hfeaturesMax, hfeatures⟩ := sortedIdentifiers_eq_ok.mp hfeatures
  obtain ⟨-, hlabelsMin, hlabelsMax, hlabels⟩ := sortedIdentifiers_eq_ok.mp hlabels
  obtain ⟨hrareNe, hrareSorted, hrareSubset⟩ := rareLabelsOf_shape hrare
  obtain ⟨hids, hcount, hshapes⟩ := validateExamples_shape hexamples
  exact ⟨hfeatures, ⟨hfeaturesMin, hfeaturesMax⟩, hlabels, ⟨hlabelsMin, hlabelsMax⟩, hrareNe,
    hrareSorted, hrareSubset, hids, hcount, hshapes⟩

/-- The names and the examples of a verified task. -/
theorem verifyTask_shape {context : TaskContext} {raw : Bytes} {task : PolicyTask}
    (h : verifyTask platform context raw = .ok task) : task.Shape := by
  obtain ⟨fields, -, h⟩ := bind_eq_ok.mp h
  obtain ⟨_, -, h⟩ := bind_eq_ok.mp h
  obtain ⟨body, hbody, h⟩ := bind_eq_ok.mp h
  obtain ⟨_, -, h⟩ := bind_eq_ok.mp h
  obtain ⟨taskId, -, h⟩ := bind_eq_ok.mp h
  cases h
  exact taskBody_shape hbody

theorem fits_get {depth : ℕ} {fields : Fields}
    (h : Json.fits numeralFits depth (.obj fields) = true) (name : String) :
    fields.get name = .null ∨
      ∃ d, depth = d + 1 ∧ Json.fits numeralFits d (fields.get name) = true := by
  obtain ⟨d, hd, hmembers⟩ := Json.fits_obj h
  unfold Fields.get
  cases hlookup : fields.lookup (PyStr.ofString name) with
  | none => exact .inl rfl
  | some value => exact .inr ⟨d, hd, hmembers _ (mem_of_lookup hlookup)⟩

/-- A row of the examples holds an object, one level below. -/
theorem exampleOf_depth {depth : ℕ} {row : Document} {e : Example}
    (h : exampleOf featureNames labels label row = .ok e)
    (hfits : Json.fits numeralFits depth row = true) : 2 ≤ depth := by
  obtain ⟨fields, hfields, h⟩ := bind_eq_ok.mp h
  obtain ⟨_, -, h⟩ := bind_eq_ok.mp h
  obtain ⟨exampleId, -, h⟩ := bind_eq_ok.mp h
  obtain ⟨features, hfeatures, -⟩ := bind_eq_ok.mp h
  rw [object_eq_ok.mp hfields] at hfits
  rcases fits_get hfits "features" with hnull | ⟨d, rfl, hd⟩
  · rw [hnull] at hfeatures
    cases hfeatures
  · rw [object_eq_ok.mp hfeatures] at hd
    obtain ⟨d', rfl, -⟩ := Json.fits_obj hd
    omega

theorem validateExamples_depth {minimum depth : ℕ} {raw : Document} {examples : List Example}
    (hminimum : 0 < minimum)
    (h : validateExamples featureNames labels label minimum raw = .ok examples)
    (hfits : Json.fits numeralFits depth raw = true) : 3 ≤ depth := by
  cases raw with
  | arr rows =>
    obtain ⟨_, hcount, h⟩ := bind_eq_ok.mp h
    obtain ⟨parsed, hparsed, -⟩ := bind_eq_ok.mp h
    rw [refuse_eq_ok, not_not] at hcount
    obtain ⟨d, rfl, hitems⟩ := Json.fits_arr hfits
    cases rows with
    | nil =>
      rw [List.length_nil] at hcount
      omega
    | cons row rows =>
      obtain ⟨e, -, hrow⟩ := exists_of_forall₂ (mapM_eq_ok.mp hparsed) List.mem_cons_self
      have hdepth := exampleOf_depth hrow (hitems row List.mem_cons_self)
      omega
  | null => cases h
  | bool b => cases h
  | num n => cases h
  | str t => cases h
  | obj members => cases h

/-- Where a task is verified, documents of four levels are written. -/
theorem verifyTask_writeDepth {context : TaskContext} {raw : Bytes} {task : PolicyTask}
    (h : verifyTask platform context raw = .ok task) : 4 ≤ platform.writeDepth := by
  obtain ⟨fields, hopen, h⟩ := bind_eq_ok.mp h
  obtain ⟨_, -, h⟩ := bind_eq_ok.mp h
  obtain ⟨body, hbody, h⟩ := bind_eq_ok.mp h
  obtain ⟨parsed, -, hopen⟩ := bind_eq_ok.mp hopen
  obtain ⟨canonical, hcanonical, hopen⟩ := bind_eq_ok.mp hopen
  obtain ⟨_, -, hopen⟩ := bind_eq_ok.mp hopen
  cases hopen
  have hfits := fits_of_canonicalJson hcanonical
  have hexamples := (taskBody_parts hbody).2.2.2
  rcases fits_get hfits "public_examples" with hnull | ⟨d, hd, hfits⟩
  · rw [hnull] at hexamples
    cases hexamples
  · have hdepth := validateExamples_depth (by omega) hexamples hfits
    omega

end Shapes

end Policy

end Cathedral.Thin
