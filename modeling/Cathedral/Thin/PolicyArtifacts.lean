import Cathedral.Lib.Prune
import Cathedral.Thin.PolicyTasks

/-!
# Cathedral.Thin.PolicyArtifacts — decision lists and the reference miner

`_normalize_rules`, `_validate_artifact_body`, `verify_artifact`, `predict` and
`induce_policy` of `cathedral_thin/verified_policy.py`. An artifact is a list of rules, of
which the first that matches decides, with a default label and, for each rule, the public
examples that support it. The reference miner weakens the conditions of each public example
feature by feature, as long as all examples that match have its label.
-/

namespace Cathedral.Thin

namespace Policy

def artifactSchema : String := "cathedral_verified_policy_artifact_v1"

def maxRules : ℕ := 1024

def maxConditions : ℕ := 64

def conditionKeys : List String := ["feature", "equals"]

def ruleKeys : List String := ["rule_id", "when", "then", "support_example_ids"]

/-! ## Rules -/

@[ext]
structure Condition where
  feature : String
  equals : Scalar
deriving DecidableEq

/-- What a rule says, without its id. -/
structure RuleBody where
  conditions : List Condition
  decision : String
  support : List String
deriving DecidableEq

structure Rule extends RuleBody where
  ruleId : String

/-- `_condition_matches`. -/
def Condition.Matches (condition : Condition) (features : List (String × Scalar)) : Prop :=
  features.lookup condition.feature = some condition.equals

instance (condition : Condition) (features : List (String × Scalar)) :
    Decidable (condition.Matches features) := inferInstanceAs (Decidable (_ = _))

/-- `all(_condition_matches(condition, features) for condition in conditions)`. -/
def AllMatch (conditions : List Condition) (features : List (String × Scalar)) : Prop :=
  ∀ condition ∈ conditions, condition.Matches features

instance (conditions : List Condition) (features : List (String × Scalar)) :
    Decidable (AllMatch conditions features) :=
  inferInstanceAs (Decidable (∀ _ ∈ _, _))

/-- `_rule_matches`. -/
def RuleBody.Matches (rule : RuleBody) (features : List (String × Scalar)) : Prop :=
  AllMatch rule.conditions features

instance (rule : RuleBody) (features : List (String × Scalar)) :
    Decidable (rule.Matches features) := inferInstanceAs (Decidable (AllMatch _ _))

def conditionOf (featureNames : List String) (value : Document) : Except Exc Condition := do
  let fields ← object value "policy condition must be an object"
  requireExactKeys fields conditionKeys "policy condition"
  let feature ← identifier (fields.get "feature") "condition feature"
  refuse (feature ∉ featureNames) "policy condition uses an unknown feature"
  let equals ← scalar (fields.get "equals") "condition value"
  pure { feature := feature, equals := equals }

def conditionsOf (featureNames : List String) (value : Document) : Except Exc (List Condition) :=
  match value with
  | .arr items => do
    refuse (¬ (1 ≤ items.length ∧ items.length ≤ maxConditions))
      "policy rule must contain bounded conditions"
    let conditions ← items.mapM (conditionOf featureNames)
    refuse (¬ (conditions.map Condition.feature).Pairwise (· < ·))
      "policy conditions must be sorted and unique"
    pure conditions
  | _ => fail "policy rule must contain bounded conditions"

/-- One row of `_normalize_rules`, after the rows before it. -/
def ruleStep (task : TaskBody) (output : List Rule) (row : Document) : Except Exc (List Rule) := do
  let fields ← object row "policy rule must be an object"
  requireExactKeys fields ruleKeys "policy rule"
  let ruleId ← identifier (fields.get "rule_id") "rule id"
  refuse (ruleId ∈ output.map Rule.ruleId) "policy rule ids must be unique"
  let conditions ← conditionsOf task.featureNames (fields.get "when")
  let decision ← identifier (fields.get "then") "policy decision"
  refuse (decision ∉ task.labels) "policy rule decision is not allowed"
  let support ← sortedIdentifiers (fields.get "support_example_ids") 0 maxExamples
    "rule support ids must be sorted and unique"
  pure (output ++
    [{ ruleId := ruleId, conditions := conditions, decision := decision, support := support }])

def normalizeRules (task : TaskBody) (raw : Document) : Except Exc (List Rule) :=
  match raw with
  | .arr rows => do
    refuse (maxRules < rows.length) "policy rules must be a bounded list"
    rows.foldlM (ruleStep task) []
  | _ => fail "policy rules must be a bounded list"

/-! ## Artifacts -/

def validateArtifactBody (task : PolicyTask) (fields : Fields) : Except Exc Unit := do
  refuse (fields.get "schema" ≠ strConst artifactSchema)
    "unsupported verified policy artifact schema"
  refuse (fields.get "task_id" ≠ strConst task.taskId) "policy artifact task mismatch"
  refuse (fields.get "miner_hotkey" ≠ .str task.minerHotkey) "policy artifact miner mismatch"
  let created ← parseTime (fields.get "created_at") "artifact created_at"
  refuse (created.micros < task.issuedAt.micros) "policy artifact predates its task"
  let defaultLabel ← identifier (fields.get "default_label") "default label"
  refuse (defaultLabel ∉ task.labels) "policy artifact default label is not allowed"
  let _ ← normalizeRules task.toTaskBody (fields.get "rules")
  pure ()

/-- The document that `make_artifact` puts together. -/
def artifactFields (task : PolicyTask) (rules : List Document) (defaultLabel createdAt : String) :
    Fields :=
  .ofList
    [("schema", strConst artifactSchema), ("task_id", strConst task.taskId),
      ("miner_hotkey", .str task.minerHotkey), ("created_at", strConst createdAt),
      ("rules", .arr rules), ("default_label", strConst defaultLabel)]

def makeArtifact (task : PolicyTask) (rules : List Document) (defaultLabel createdAt : String) :
    Except Exc Fields := do
  let fields := artifactFields task rules defaultLabel createdAt
  validateArtifactBody task fields
  pure fields

structure PolicyArtifact where
  artifactId : String
  taskId : String
  minerHotkey : PyStr
  createdAt : UtcTime
  rules : List Rule
  defaultLabel : String
  document : Fields

def predict (artifact : PolicyArtifact) (features : List (String × Scalar)) : String :=
  match artifact.rules.find? fun rule => rule.Matches features with
  | some rule => rule.decision
  | none => artifact.defaultLabel

/-! ## The reference miner -/

/-- The examples that conditions match. -/
def matchedBy (task : TaskBody) (conditions : List Condition) : List Example :=
  task.publicExamples.filter fun row => AllMatch conditions row.features

/-- Conditions that some example matches, and only examples of a label. -/
def Pure (task : TaskBody) (label : String) (conditions : List Condition) : Prop :=
  conditions ≠ [] ∧ matchedBy task conditions ≠ [] ∧
    ∀ row ∈ matchedBy task conditions, row.label = label

instance (task : TaskBody) (label : String) : DecidablePred (Pure task label) := fun _ =>
  inferInstanceAs (Decidable (_ ∧ _ ∧ _))

/-- All conditions that an example meets; a feature that it lacks raises. -/
def fullConditions (task : TaskBody) (e : Example) : Except Exc (List Condition) :=
  task.featureNames.mapM fun feature =>
    match e.features.lookup feature with
    | some value => pure { feature := feature, equals := value }
    | none => .error (.other "KeyError" feature)

/-- The rule that an example gives. -/
def ruleFor (task : TaskBody) (e : Example) (conditions : List Condition) : RuleBody :=
  let kept := prune Condition.feature (Pure task e.label) task.featureNames conditions
  { conditions := kept
    decision := e.label
    support := (((matchedBy task kept).filter fun row => row.label = e.label).map
      Example.exampleId).insertionSort (· ≤ ·) }

def Condition.document (condition : Condition) : Document :=
  .obj (Fields.ofList
    [("feature", strConst condition.feature), ("equals", condition.equals.document)])

def conditionsDocument (conditions : List Condition) : Document :=
  .arr (conditions.map Condition.document)

/-- The document by which a rule is told from others. -/
def RuleBody.keyDocument (rule : RuleBody) : Document :=
  .obj (Fields.ofList
    [("when", conditionsDocument rule.conditions), ("then", strConst rule.decision)])

def RuleBody.members (rule : RuleBody) : List (String × Document) :=
  [("when", conditionsDocument rule.conditions), ("then", strConst rule.decision),
    ("support_example_ids", .arr (rule.support.map strConst))]

/-- The order of the rules: those of rare labels first, then the shorter ones. -/
structure RuleOrder where
  rank : ℕ
  terms : ℕ
  bytes : Bytes

def RuleOrder.Le (a b : RuleOrder) : Prop :=
  a.rank < b.rank ∨ a.rank = b.rank ∧
    (a.terms < b.terms ∨ a.terms = b.terms ∧ a.bytes ≤ b.bytes)

instance : DecidableRel RuleOrder.Le := fun _ _ => inferInstanceAs (Decidable (_ ∨ _ ∧ _))

def orderOf (platform : PolicyPlatform) (task : TaskBody) (rule : RuleBody) :
    Except Exc (RuleOrder × RuleBody) := do
  let bytes ← canonicalJson platform.toPlatform (.obj (Fields.ofList rule.members))
  pure
    ({ rank := if rule.decision ∈ task.rareLabels then 0 else 1
       terms := rule.conditions.length
       bytes := bytes }, rule)

/-- The rules of the examples, each once. -/
def candidatesOf (platform : PolicyPlatform) (task : TaskBody) :
    Except Exc (Dict Bytes RuleBody) := do
  let pairs ← task.publicExamples.mapM fun e => do
    let conditions ← fullConditions task e
    let rule := ruleFor task e conditions
    let key ← canonicalJson platform.toPlatform rule.keyDocument
    pure (key, rule)
  pure (Dict.ofList pairs)

/-- `f"rule-{index:04d}"`. -/
def ruleName (index : ℕ) : String :=
  String.ofList ("rule-".toList ++ (Nat.toDigits 10 index).leftpad 4 '0')

def ruleDocument (rule : RuleBody) (index : ℕ) : Document :=
  .obj (Fields.ofList (("rule_id", strConst (ruleName index)) :: rule.members))

/-- How many public examples have a label. -/
def labelCount (task : TaskBody) (label : String) : ℕ :=
  (task.publicExamples.map Example.label).count label

/-- `(-counts[a], a) <= (-counts[b], b)`. -/
def CommonerLabel (task : TaskBody) (a b : String) : Prop :=
  labelCount task b < labelCount task a ∨ labelCount task a = labelCount task b ∧ a ≤ b

instance (task : TaskBody) : DecidableRel (CommonerLabel task) := fun _ _ =>
  inferInstanceAs (Decidable (_ ∨ _ ∧ _))

/-- The label that `min` picks, the first in this order. -/
def defaultLabelOf (task : TaskBody) : Except Exc String :=
  match (task.labels.insertionSort (CommonerLabel task)).head? with
  | some label => pure label
  | none => .error (.other "ValueError" "min() arg is an empty sequence")

def inducePolicy (platform : PolicyPlatform) (task : PolicyTask) (createdAt : String) :
    Except Exc Fields := do
  let candidates ← candidatesOf platform task.toTaskBody
  let keyed ← candidates.values.mapM (orderOf platform task.toTaskBody)
  let ordered := (keyed.insertionSort fun a b => a.1.Le b.1).map Prod.snd
  let rules := (ordered.zipIdx 1).map fun row => ruleDocument row.1 row.2
  let defaultLabel ← defaultLabelOf task.toTaskBody
  makeArtifact task rules defaultLabel createdAt

/-! ## Rules that are read back -/

/-- What `_normalize_rules` asks of a rule besides its id. -/
structure RuleBody.Valid (task : TaskBody) (rule : RuleBody) : Prop where
  count : 1 ≤ rule.conditions.length ∧ rule.conditions.length ≤ maxConditions
  sorted : (rule.conditions.map Condition.feature).Pairwise (· < ·)
  features : ∀ condition ∈ rule.conditions, condition.feature ∈ task.featureNames
  identifiers : ∀ condition ∈ rule.conditions,
    isPolicyIdentifier condition.feature.toList = true
  bounded : ∀ condition ∈ rule.conditions, condition.equals.Bounded
  decision : isPolicyIdentifier rule.decision.toList = true
  decision_mem : rule.decision ∈ task.labels
  support_count : rule.support.length ≤ maxExamples
  support : SortedNames rule.support

/-- The rules of an artifact, numbered from one. -/
def numbered (rules : List RuleBody) : List Rule :=
  (rules.zipIdx 1).map fun row => { toRuleBody := row.1, ruleId := ruleName row.2 }

theorem conditionOf_document {featureNames : List String} {condition : Condition}
    (hfeature : condition.feature ∈ featureNames)
    (hid : isPolicyIdentifier condition.feature.toList = true)
    (hbounded : condition.equals.Bounded) :
    conditionOf featureNames condition.document = .ok condition := by
  have hkeys : (Fields.ofList [("feature", strConst condition.feature),
      ("equals", condition.equals.document)]).HasKeys conditionKeys :=
    hasKeys_ofList.mpr ⟨by simp [conditionKeys], by simp [conditionKeys]⟩
  refine bind_eq_ok.mpr ⟨_, rfl, bind_eq_ok.mpr ⟨(), requireExactKeys_eq_ok.mpr hkeys, ?_⟩⟩
  refine bind_eq_ok.mpr ⟨condition.feature, matching_eq_ok.mpr ⟨by simp, hid⟩, ?_⟩
  refine bind_eq_ok.mpr ⟨(), refuse_eq_ok.mpr (not_not.mpr hfeature), ?_⟩
  exact bind_eq_ok.mpr ⟨condition.equals,
    scalar_eq_ok.mpr ⟨by simp [List.lookup_cons], hbounded⟩, rfl⟩

theorem conditionsOf_document {task : TaskBody} {rule : RuleBody} (h : rule.Valid task) :
    conditionsOf task.featureNames (conditionsDocument rule.conditions) = .ok rule.conditions := by
  have hitems : (rule.conditions.map Condition.document).mapM (conditionOf task.featureNames) =
      .ok rule.conditions := by
    rw [mapM_eq_ok, List.forall₂_map_left_iff, List.forall₂_same]
    exact fun condition hmem => conditionOf_document (h.features condition hmem)
      (h.identifiers condition hmem) (h.bounded condition hmem)
  refine bind_eq_ok.mpr ⟨(), refuse_eq_ok.mpr ?_, bind_eq_ok.mpr ⟨_, hitems,
    bind_eq_ok.mpr ⟨(), refuse_eq_ok.mpr (not_not.mpr h.sorted), rfl⟩⟩⟩
  rw [not_not, List.length_map]
  exact h.count

/-- The digits of a rule's number, at least four. -/
def ruleDigits (index : ℕ) : List Char := (Nat.toDigits 10 index).leftpad 4 '0'

theorem isDigit_ruleDigits {index : ℕ} {c : Char} (h : c ∈ ruleDigits index) :
    c.isDigit = true := by
  rcases List.mem_append.mp h with h | h
  · rw [List.eq_of_mem_replicate h]
    rfl
  · exact Nat.isDigit_of_mem_toDigits (by decide) (by decide) h

theorem length_ruleDigits {index : ℕ} (h : index < 10000) : (ruleDigits index).length = 4 := by
  have hlength : (Nat.toDigits 10 index).length ≤ 4 :=
    (Nat.length_toDigits_le_iff (by decide) (by decide)).mpr h
  rw [ruleDigits, List.leftpad, List.length_append, List.length_replicate]
  omega

theorem ofDigitChars_ruleDigits (index : ℕ) : Nat.ofDigitChars 10 (ruleDigits index) 0 = index := by
  have hzeros : ∀ k, Nat.ofDigitChars 10 (List.replicate k '0') 0 = 0 := by
    intro k
    induction k with
    | zero => rfl
    | succ k ih => rw [List.replicate_succ, Nat.ofDigitChars_cons]; exact ih
  rw [ruleDigits, List.leftpad, Nat.ofDigitChars_append, hzeros, Nat.ofDigitChars_ten_toDigits]

theorem toList_ruleName (index : ℕ) :
    (ruleName index).toList = 'r' :: ("ule-".toList ++ ruleDigits index) := String.toList_ofList

theorem isPolicyIdentifier_ruleName {index : ℕ} (h : index < 10000) :
    isPolicyIdentifier (ruleName index).toList = true := by
  have hdigits : ∀ c ∈ ruleDigits index,
      (isLowerAlpha c || c.isDigit || c ∈ ['.', '_', ':', '-']) = true := by
    intro c hc
    rw [isDigit_ruleDigits hc, Bool.or_true, Bool.true_or]
  have hlength : ("ule-".toList ++ ruleDigits index).length ≤ 127 := by
    rw [List.length_append, length_ruleDigits h]
    decide
  rw [toList_ruleName, isPolicyIdentifier, decide_eq_true hlength, List.all_append,
    List.all_eq_true.mpr hdigits]
  rfl

theorem ruleName_injective : Function.Injective ruleName := by
  intro a b h
  have hlist : "ule-".toList ++ ruleDigits a = "ule-".toList ++ ruleDigits b := by
    have hcons := congrArg String.toList h
    rw [toList_ruleName, toList_ruleName] at hcons
    exact List.tail_eq_of_cons_eq hcons
  rw [← ofDigitChars_ruleDigits a, List.append_cancel_left hlist, ofDigitChars_ruleDigits]

/-- One valid rule under a new name. -/
theorem ruleStep_ruleDocument {task : TaskBody} {rule : RuleBody} {index : ℕ} {output : List Rule}
    (h : rule.Valid task) (hindex : index < 10000)
    (hnew : ruleName index ∉ output.map Rule.ruleId) :
    ruleStep task output (ruleDocument rule index) =
      .ok (output ++ [{ toRuleBody := rule, ruleId := ruleName index }]) := by
  have hkeys : (Fields.ofList (("rule_id", strConst (ruleName index)) :: rule.members)).HasKeys
      ruleKeys := hasKeys_ofList.mpr ⟨by simp [ruleKeys, RuleBody.members],
        by simp [ruleKeys, RuleBody.members]⟩
  refine bind_eq_ok.mpr ⟨_, rfl, bind_eq_ok.mpr ⟨(), requireExactKeys_eq_ok.mpr hkeys, ?_⟩⟩
  refine bind_eq_ok.mpr ⟨ruleName index,
    matching_eq_ok.mpr ⟨by simp, isPolicyIdentifier_ruleName hindex⟩, ?_⟩
  refine bind_eq_ok.mpr ⟨(), refuse_eq_ok.mpr hnew, ?_⟩
  have hwhen : (Fields.ofList (("rule_id", strConst (ruleName index)) :: rule.members)).get "when" =
      conditionsDocument rule.conditions := by
    simp [RuleBody.members, List.lookup_cons]
  refine bind_eq_ok.mpr ⟨rule.conditions, hwhen ▸ conditionsOf_document h, ?_⟩
  refine bind_eq_ok.mpr ⟨rule.decision,
    matching_eq_ok.mpr ⟨by simp [RuleBody.members, List.lookup_cons], h.decision⟩, ?_⟩
  refine bind_eq_ok.mpr ⟨(), refuse_eq_ok.mpr (not_not.mpr h.decision_mem), ?_⟩
  refine bind_eq_ok.mpr ⟨rule.support, sortedIdentifiers_eq_ok.mpr
    ⟨by simp [RuleBody.members, List.lookup_cons], Nat.zero_le _, h.support_count, h.support⟩, rfl⟩

theorem foldlM_ruleStep {task : TaskBody} : ∀ {rows : List (RuleBody × ℕ)} {output : List Rule},
    (∀ row ∈ rows, row.1.Valid task ∧ row.2 < 10000) →
    (output.map Rule.ruleId ++ rows.map fun row => ruleName row.2).Nodup →
    (rows.map fun row => ruleDocument row.1 row.2).foldlM (ruleStep task) output =
      .ok (output ++ rows.map fun row => { toRuleBody := row.1, ruleId := ruleName row.2 })
  | [], output, _, _ => by
    rw [List.map_nil, List.map_nil, List.append_nil]
    rfl
  | row :: rows, output, hvalid, hnodup => by
    obtain ⟨⟨hrow, hindex⟩, hrows⟩ := List.forall_mem_cons.mp hvalid
    have hnew : ruleName row.2 ∉ output.map Rule.ruleId := fun hmem =>
      (List.nodup_append.mp hnodup).2.2 _ hmem _ List.mem_cons_self rfl
    rw [List.map_cons, List.foldlM_cons]
    refine bind_eq_ok.mpr ⟨_, ruleStep_ruleDocument hrow hindex hnew, ?_⟩
    have hrest : (List.map Rule.ruleId (output ++
        [{ toRuleBody := row.1, ruleId := ruleName row.2 }]) ++
          rows.map fun row => ruleName row.2).Nodup := by
      rw [List.map_append, List.append_assoc]
      exact hnodup
    rw [foldlM_ruleStep hrows hrest, List.append_assoc]
    rfl

/-- A bounded list of valid rules is read back from its documents. -/
theorem normalizeRules_ruleDocument {task : TaskBody} {rules : List RuleBody}
    (hvalid : ∀ rule ∈ rules, rule.Valid task) (hcount : rules.length ≤ maxRules) :
    normalizeRules task (.arr ((rules.zipIdx 1).map fun row => ruleDocument row.1 row.2)) =
      .ok (numbered rules) := by
  have hrows : ∀ row ∈ rules.zipIdx 1, row.1.Valid task ∧ row.2 < 10000 := by
    intro row hrow
    have hlt := List.snd_lt_add_of_mem_zipIdx hrow
    unfold maxRules at hcount
    exact ⟨hvalid _ (List.fst_mem_of_mem_zipIdx hrow), by omega⟩
  have hnodup : (List.map Rule.ruleId [] ++
      (rules.zipIdx 1).map fun row => ruleName row.2).Nodup := by
    have hindices : ((rules.zipIdx 1).map Prod.snd).Nodup := by
      rw [List.zipIdx_map_snd]
      exact List.nodup_range'
    have hnames := hindices.map ruleName_injective
    rw [List.map_map] at hnames
    exact hnames
  refine bind_eq_ok.mpr ⟨(), refuse_eq_ok.mpr ?_, foldlM_ruleStep hrows hnodup⟩
  rw [List.length_map, List.length_zipIdx]
  exact not_lt.mpr hcount

theorem refuse_bind {α : Type} {condition : Prop} [Decidable condition] {message : String}
    {f : Unit → Except Exc α} (h : ¬ condition) : (refuse condition message >>= f) = f () := by
  rw [refuse, if_neg h]
  rfl

theorem ok_bind {α β : Type} (a : α) (f : α → Except Exc β) : (Except.ok a >>= f) = f a := rfl

section Made

variable {task : PolicyTask} {rules : List RuleBody} {docs : List Document}
  {label createdAt : String} {created : UtcTime}

@[simp] theorem get_rules_artifactFields :
    (artifactFields task docs label createdAt).get "rules" = .arr docs := by
  simp [artifactFields, List.lookup_cons]

@[simp] theorem get_default_artifactFields :
    (artifactFields task docs label createdAt).get "default_label" = strConst label := by
  simp [artifactFields, List.lookup_cons]

theorem makeArtifact_eq : makeArtifact task docs label createdAt =
    (validateArtifactBody task (artifactFields task docs label createdAt)).map fun _ =>
      artifactFields task docs label createdAt := by
  show (validateArtifactBody task (artifactFields task docs label createdAt) >>= fun _ =>
    pure (artifactFields task docs label createdAt)) = _
  cases validateArtifactBody task (artifactFields task docs label createdAt) with
  | error e => rfl
  | ok u => rfl

/-- What a made artifact is refused for, besides its time, is the number of its rules. -/
theorem validateArtifactBody_made (hvalid : ∀ rule ∈ rules, rule.Valid task.toTaskBody)
    (hid : isPolicyIdentifier label.toList = true) (hlabel : label ∈ task.labels)
    (hcreated : parseTime (strConst createdAt) "artifact created_at" = .ok created)
    (hlate : task.issuedAt.micros ≤ created.micros) :
    validateArtifactBody task (artifactFields task
      ((rules.zipIdx 1).map fun row => ruleDocument row.1 row.2) label createdAt) =
        refuse (maxRules < rules.length) "policy rules must be a bounded list" := by
  generalize hdocs : (rules.zipIdx 1).map (fun row => ruleDocument row.1 row.2) = docs
  have hschema : (artifactFields task docs label createdAt).get "schema" =
      strConst artifactSchema := by simp [artifactFields]
  have htask : (artifactFields task docs label createdAt).get "task_id" =
      strConst task.taskId := by simp [artifactFields, List.lookup_cons]
  have hminer : (artifactFields task docs label createdAt).get "miner_hotkey" =
      .str task.minerHotkey := by simp [artifactFields, List.lookup_cons]
  have htime : (artifactFields task docs label createdAt).get "created_at" =
      strConst createdAt := by simp [artifactFields, List.lookup_cons]
  have hdefault : identifier (strConst label) "default label" = .ok label :=
    matching_eq_ok.mpr ⟨rfl, hid⟩
  have hearly : ¬ created.micros < task.issuedAt.micros := not_lt.mpr hlate
  have hread : (normalizeRules task.toTaskBody (.arr docs) >>= fun _ => pure ()) =
      refuse (maxRules < rules.length) "policy rules must be a bounded list" := by
    by_cases hcount : rules.length ≤ maxRules
    · rw [← hdocs, normalizeRules_ruleDocument hvalid hcount, refuse, if_neg (not_lt.mpr hcount)]
      rfl
    · have hlong : maxRules < docs.length := by
        rw [← hdocs, List.length_map, List.length_zipIdx]
        exact not_le.mp hcount
      rw [normalizeRules, refuse, refuse, if_pos hlong, if_pos (not_le.mp hcount)]
      rfl
  rw [validateArtifactBody, refuse_bind (not_not.mpr hschema), refuse_bind (not_not.mpr htask),
    refuse_bind (not_not.mpr hminer), htime, hcreated, ok_bind, refuse_bind hearly,
    get_default_artifactFields, hdefault, ok_bind, refuse_bind (not_not.mpr hlabel),
    get_rules_artifactFields]
  exact hread

end Made

end Policy

end Cathedral.Thin
