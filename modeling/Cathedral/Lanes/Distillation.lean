import Cathedral.Lib.PyRepr
import Cathedral.Lib.PyValue

/-!
# Cathedral.Lanes.Distillation — redacted exports of audit traces

`scaffold/distillation.py`. A trace is any object of the interpreter; what the export asks of
it (`isinstance`, `get`, `bool`, `str`, `float`, `json.dumps`) are parameters.

`export_obeys_policy` is the law of the export: what its header says of the raw parts is true
exactly if the audience is not written in another way than `private`, and a public export says
nothing of the secrets of a trace outside the fields that hold hashes.
-/

namespace Cathedral.Lanes.Distillation

/-! ## Objects -/

inductive Exc where
  | valueError (message : String)
  | typeError (message : String)
  | other (name : String)
deriving DecidableEq

/-- A value of an export. -/
inductive Out (α : Type) where
  | text (s : PyStr)
  | bool (b : Bool)
  | number (x : Option PyFloat)
  | size (n : ℕ)
  | raw (a : α)
  | obj (fields : List (String × Out α))

abbrev Fields (α : Type) : Type := List (String × Out α)

/-- What the interpreter makes of the objects in a trace. -/
structure Host (α : Type) where
  none : α
  isDict : α → Bool
  /-- `value.get(key)` of a dictionary, where it has the key. -/
  get? : α → String → Option α
  truthy : α → Except Exc Bool
  str : α → Except Exc PyStr
  isBool : α → Bool
  isNone : α → Bool
  float : α → Except Exc PyFloat
  dumps : α → Except Exc PyStr
  dumpsExport : Fields α → Except Exc PyStr
  sha256Hex : PyStr → Except Exc PyStr
  hmacHex : PyStr → PyStr → Except Exc PyStr
  lower : PyStr → PyStr
  lower_private : lower (PyStr.ofString "private") = PyStr.ofString "private"

structure RedactionPolicy where
  audience : PyStr := PyStr.ofString "private"
  disclosureStatus : PyStr := PyStr.ofString "private"
  salt : PyStr := []
  includeAgentTrace : Bool := false
  includeRawWitness : Bool := false
  includeReplayArtifacts : Bool := false

def constant {α : Type} (s : String) : Except Exc (Out α) := .ok (.text (PyStr.ofString s))

/-- A literal of a dictionary: its values are computed in order. -/
def literal {α : Type} (entries : List (String × Except Exc (Out α))) : Except Exc (Fields α) :=
  entries.mapM fun e => (e.1, ·) <$> e.2

section Export

variable {α : Type} (H : Host α) (policy : RedactionPolicy)

/-- The entries of a dictionary; what is none has no entries. -/
def member? (v : α) (key : String) : Option α := if H.isDict v then H.get? v key else none

def entry (v : α) (key : String) : α := (member? H v key).getD H.none

/-- `str(value or "")`. -/
def strOf (v : α) : Except Exc PyStr := do
  if ← H.truthy v then H.str v else .ok []

def textOf (v : α) : Except Exc (Out α) := .text <$> strOf H v

def boolOf (v : α) : Except Exc (Out α) := .bool <$> H.truthy v

def safeNumber (v : α) : Except Exc (Option PyFloat) :=
  if H.isBool v || H.isNone v then .ok none
  else
    match H.float v with
    | .ok x => .ok (some x)
    | .error (.valueError _) | .error (.typeError _) => .ok none
    | .error e => .error e

def numberOf (v : α) : Except Exc (Out α) := .number <$> safeNumber H v

/-- A dictionary as it is, or an empty one. -/
def dictOf (v : α) : Except Exc (Out α) := .ok (if H.isDict v then .raw v else .obj [])

def hashValue (v : α) : Except Exc (Out α) := do
  let text ← H.dumps v
  if policy.salt ≠ [] then .text <$> H.hmacHex policy.salt text else .text <$> H.sha256Hex text

/-- `str(policy.audience or "private").lower()`. -/
def audience : PyStr :=
  H.lower (if policy.audience = [] then PyStr.ofString "private" else policy.audience)

def IsPublic : Prop := audience H policy = PyStr.ofString "public"

def IsPrivate : Prop := audience H policy = PyStr.ofString "private"

instance : Decidable (IsPublic H policy) := inferInstanceAs (Decidable (_ = _))

instance : Decidable (IsPrivate H policy) := inferInstanceAs (Decidable (_ = _))

/-- `policy.audience == "private"`, as two of the redactors ask. -/
def rawPrivate : Bool := policy.audience = PyStr.ofString "private"

def secretIsStrong (value : PyStr) : Bool :=
  let secret := PyStr.strip value
  32 ≤ secret.length && 8 ≤ secret.dedup.length

def redactTask (value : α) : Except Exc (Fields α) :=
  let target := entry H value "target"
  literal [
    ("task_id_hash", hashValue H policy (entry H value "task_id")),
    ("target_id_hash", hashValue H policy (entry H target "target_id")),
    ("repo_url", if IsPublic H policy then constant "" else textOf H (entry H target "repo_url")),
    ("commit", if IsPublic H policy then constant "" else textOf H (entry H target "commit")),
    ("netuid", .ok (.raw (if IsPublic H policy then H.none else entry H target "netuid"))),
    ("invariant_id", textOf H (entry H value "invariant_id")),
    ("invariant_hash", hashValue H policy (entry H value "invariant")),
    ("challenge_id_hash", hashValue H policy (entry H value "challenge_id")),
    ("cnf_sha256", textOf H (entry H value "cnf_sha256")),
    ("decode_kind", textOf H (entry H value "decode_kind")),
    ("decode_map_sha256", textOf H (entry H value "decode_map_sha256")),
    ("audit_package_sha256", textOf H (entry H value "audit_package_sha256")),
    ("severity_hint", textOf H (entry H value "severity_hint")),
    ("replay_kind", textOf H (entry H value "replay_kind")),
    ("earning_policy", textOf H (entry H value "earning_policy"))]

def redactSubmission (value : α) : Except Exc (Fields α) :=
  literal [
    ("miner_hotkey_hash", hashValue H policy (entry H value "miner_hotkey")),
    ("dimacs_solution_sha256", textOf H (entry H value "dimacs_solution_sha256")),
    if policy.includeAgentTrace && rawPrivate policy then
      ("agent_trace", dictOf H (entry H value "agent_trace"))
    else ("agent_trace_hash", hashValue H policy (entry H value "agent_trace"))]

/-- `verdict.get(key, other.get(key))`. -/
def entryOr (verdict other : α) (key : String) : α :=
  (member? H verdict key).getD (entry H other key)

def redactReplay (replay : α) : Except Exc (Fields α) :=
  literal [
    ("reproduced", boolOf H (entry H replay "reproduced")),
    ("reason", textOf H (entry H replay "reason")),
    ("score_before", numberOf H (entry H replay "score_before")),
    ("score_after", numberOf H (entry H replay "score_after")),
    ("estimated_earning", numberOf H (entry H replay "estimated_earning")),
    ("severity", numberOf H (entry H replay "severity")),
    if policy.includeReplayArtifacts && rawPrivate policy then
      ("artifacts", dictOf H (entry H replay "artifacts"))
    else ("artifacts_hash", hashValue H policy (entry H replay "artifacts"))]

def redactVerdict (trace : α) : Except Exc (Fields α) :=
  let supervision := entry H trace "supervision"
  let verdict := entry H trace "verdict"
  let witness := entryOr H verdict trace "decoded_witness"
  literal ([
    ("accepted", boolOf H (entryOr H verdict supervision "accepted")),
    ("stage", textOf H (entryOr H verdict supervision "stage")),
    ("rejection_reason", textOf H (entryOr H verdict supervision "rejection_reason")),
    ("decoded_witness_hash", hashValue H policy witness),
    ("replay", .obj <$> redactReplay H policy (entryOr H verdict trace "replay"))] ++
    if policy.includeRawWitness && rawPrivate policy then [("decoded_witness", .ok (.raw witness))]
    else [])

/-- `str(a or b or "")`. -/
def textOr (a b : α) : Except Exc (Out α) := do
  if ← H.truthy a then .text <$> H.str a else textOf H b

def redactSupervision (trace : α) : Except Exc (Fields α) := do
  let supervision := entry H trace "supervision"
  let accepted ← H.truthy (entry H supervision "accepted")
  literal [
    ("label", textOr H (entry H trace "label") (entry H supervision "label")),
    ("live_earning_policy", textOf H (entry H supervision "live_earning_policy")),
    ("accepted", .ok (.bool accepted)),
    ("stage", textOf H (entry H supervision "stage")),
    ("rejection_reason", textOf H (entry H supervision "rejection_reason")),
    ("training_value",
      constant (if accepted then "positive_replay_example" else "valuable_negative_control"))]

/-- `_dataset_metadata`; its third branch is never taken. -/
def datasetMetadata (trace : α) : Except Exc (Fields α) := do
  let supervision := entry H trace "supervision"
  let accepted ← H.truthy (entry H supervision "accepted")
  let label ← strOf H (entry H trace "label")
  let kind := if accepted ∨ label = PyStr.ofString "reproduced_witness" then
    ("accepted_reproduced_witness", "positive_replay_example")
  else ("rejected_claim_negative_control", "valuable_negative_control")
  literal [
    ("category", constant kind.1),
    ("retention_value", constant kind.2),
    ("visibility", constant (if IsPublic H policy then "public_redacted" else "private_training")),
    ("rejected_traces_are_valuable", .ok (.bool true))]

def redaction : Fields α := [
  ("miner_hotkey_hashed", .bool true),
  ("hash_algorithm",
    .text (PyStr.ofString (if PyStr.strip policy.salt ≠ [] then "hmac-sha256" else "sha256"))),
  ("raw_witness_included", .bool (policy.includeRawWitness && IsPrivate H policy)),
  ("agent_trace_included", .bool (policy.includeAgentTrace && IsPrivate H policy)),
  ("replay_artifacts_included", .bool (policy.includeReplayArtifacts && IsPrivate H policy)),
  ("public_export_requires_disclosure_gate", .bool true),
  ("public_hash_secret_required", .bool (IsPublic H policy)),
  ("public_hash_secret_min_chars", .size 32),
  ("public_hash_guidance", .text (if IsPublic H policy then PyStr.ofString
    ("Use a 128-bit-or-stronger random redaction salt or server-side HMAC secret; " ++
      "never publish the secret with public traces.") else []))]

def allowedDisclosure : List PyStr :=
  ["fixed", "public", "opt_in", "cathedral_owned"].map PyStr.ofString

/-- What an export is refused for. -/
def refusal? (trace : α) : Option String :=
  if ¬ IsPublic H policy ∧ ¬ IsPrivate H policy then some "invalid_export_audience"
  else if IsPublic H policy ∧ policy.disclosureStatus ∉ allowedDisclosure then
    some "public_export_requires_fixed_public_opt_in_or_cathedral_owned"
  else if IsPublic H policy ∧ PyStr.strip policy.salt = [] then
    some "public_export_requires_non_empty_redaction_salt"
  else if IsPublic H policy ∧ ¬ secretIsStrong policy.salt then
    some "public_export_requires_strong_salt_or_hmac_secret"
  else if ¬ H.isDict trace then some "trace_must_be_object"
  else none

/-- The export before its hash. -/
def body (trace : α) : Except Exc (Fields α) :=
  literal [
    ("schema_version", constant "cathedral.audit_trace.export.v1"),
    ("source_schema_version", textOf H (entry H trace "schema_version")),
    ("audience", .ok (.text (audience H policy))),
    ("disclosure_status", .ok (.text policy.disclosureStatus)),
    ("source_trace_hash", textOf H (entry H trace "trace_hash")),
    ("private", .ok (.bool (!decide (IsPublic H policy)))),
    ("task", .obj <$> redactTask H policy (entry H trace "task")),
    ("submission", .obj <$> redactSubmission H policy (entry H trace "submission")),
    ("verdict", .obj <$> redactVerdict H policy trace),
    ("supervision", .obj <$> redactSupervision H trace),
    ("dataset", .obj <$> datasetMetadata H policy trace),
    ("redaction", .ok (.obj (redaction H policy)))]

def exportTrace (trace : α) : Except Exc (Fields α) :=
  match refusal? H policy trace with
  | some message => .error (.valueError message)
  | none => do
    let out ← body H policy trace
    let text ← H.dumpsExport out
    let hash ← H.sha256Hex text
    .ok (out ++ [("export_hash", .text hash)])

end Export

/-! ## Literals -/

section Literal

variable {α : Type}

/-- The value of a field. -/
def lookup (name : String) (fields : Fields α) : Option (Out α) := Dict.find name fields

theorem literal_ok {entries : List (String × Except Exc (Out α))} {fields : Fields α}
    (h : literal entries = .ok fields) :
    List.Forall₂ (fun e f => f.1 = e.1 ∧ e.2 = .ok f.2) entries fields := by
  refine (mapM_eq_ok.mp h).imp ?_
  rintro e f hf
  obtain ⟨v, hv, rfl⟩ := map_eq_ok.mp hf
  exact ⟨rfl, hv⟩

theorem lookup_of_forall₂ {name : String} {entries : List (String × Except Exc (Out α))}
    {fields : Fields α}
    (h : List.Forall₂ (fun e f => f.1 = e.1 ∧ e.2 = .ok f.2) entries fields) :
    Dict.find name entries = (lookup name fields).map .ok := by
  induction h with
  | nil => rfl
  | @cons e f _ _ hef _ ih =>
    obtain ⟨key, x⟩ := e
    obtain ⟨key', v⟩ := f
    obtain ⟨rfl, rfl⟩ := hef
    simp only [lookup, Dict.find] at ih ⊢
    split_ifs
    · rfl
    · exact ih

/-- A field of a literal holds the value of its entry. -/
theorem lookup_literal {name : String} {entries : List (String × Except Exc (Out α))}
    {fields : Fields α} {x : Except Exc (Out α)} (h : literal entries = .ok fields)
    (hx : Dict.find name entries = some x) : ∃ v, x = .ok v ∧ lookup name fields = some v := by
  rw [lookup_of_forall₂ (literal_ok h)] at hx
  obtain ⟨v, hv, rfl⟩ := Option.map_eq_some_iff.mp hx
  exact ⟨v, rfl, hv⟩

theorem lookup_literal_none {name : String} {entries : List (String × Except Exc (Out α))}
    {fields : Fields α} (h : literal entries = .ok fields) (hx : Dict.find name entries = none) :
    lookup name fields = none := by
  rw [lookup_of_forall₂ (literal_ok h)] at hx
  exact Option.map_eq_none_iff.mp hx

/-- A nested literal. -/
theorem lookup_obj {name : String} {entries : List (String × Except Exc (Out α))}
    {fields : Fields α} {x : Except Exc (Fields α)} (h : literal entries = .ok fields)
    (hx : Dict.find name entries = some (.obj <$> x)) :
    ∃ inner, x = .ok inner ∧ lookup name fields = some (.obj inner) := by
  obtain ⟨v, hv, hlookup⟩ := lookup_literal h hx
  obtain ⟨inner, hinner, rfl⟩ := map_eq_ok.mp hv
  exact ⟨inner, hinner, hlookup⟩

end Literal

/-! ## The header -/

section Header

variable {α : Type} {H : Host α} {policy : RedactionPolicy} {trace : α} {out : Fields α}

/-- The fields of an entry that is a dictionary. -/
def nested (name : String) (fields : Fields α) : Fields α :=
  match lookup name fields with
  | some (.obj inner) => inner
  | _ => []

/-- A flag of the header tells whether the raw part is there, and its hash is, otherwise. -/
def Agrees (header : Fields α) (flag : String) (inside : Fields α) (part hash : String) : Prop :=
  (lookup flag header = some (.bool true) ∧ (lookup part inside).isSome) ∨
    (lookup flag header = some (.bool false) ∧ lookup part inside = none ∧
      (lookup hash inside).isSome)

/-- The redaction header says which raw parts the export contains. -/
structure HeaderAgrees (out : Fields α) : Prop where
  witness : Agrees (nested "redaction" out) "raw_witness_included" (nested "verdict" out)
    "decoded_witness" "decoded_witness_hash"
  agentTrace : Agrees (nested "redaction" out) "agent_trace_included" (nested "submission" out)
    "agent_trace" "agent_trace_hash"
  artifacts : Agrees (nested "redaction" out) "replay_artifacts_included"
    (nested "replay" (nested "verdict" out)) "artifacts" "artifacts_hash"

theorem lookup_append {name : String} {fields more : Fields α} {v : Out α}
    (h : lookup name fields = some v) : lookup name (fields ++ more) = some v := by
  induction fields with
  | nil => cases h
  | cons f rest ih =>
    simp only [lookup, List.cons_append, Dict.find] at h ih ⊢
    split_ifs at h ⊢
    · exact h
    · exact ih h

/-- The sections of an export, each from its redactor. -/
theorem exportTrace_sections (h : exportTrace H policy trace = .ok out) :
    nested "redaction" out = redaction H policy ∧
      redactSubmission H policy (entry H trace "submission") = .ok (nested "submission" out) ∧
      redactVerdict H policy trace = .ok (nested "verdict" out) ∧
      (IsPublic H policy ∨ IsPrivate H policy) := by
  unfold exportTrace at h
  cases hrefusal : refusal? H policy trace with
  | some message =>
    rw [hrefusal] at h
    cases h
  | none =>
    rw [hrefusal] at h
    obtain ⟨fields, hbody, h⟩ := bind_eq_ok.mp h
    obtain ⟨text, -, h⟩ := bind_eq_ok.mp h
    obtain ⟨hash, -, h⟩ := bind_eq_ok.mp h
    cases h
    obtain ⟨sub, hsub, hsubmission⟩ := @lookup_obj α "submission" _ _ _ hbody rfl
    obtain ⟨ver, hver, hverdict⟩ := @lookup_obj α "verdict" _ _ _ hbody rfl
    obtain ⟨red, hred, hredaction⟩ := @lookup_literal α "redaction" _ _ _ hbody rfl
    cases hred
    have haudience : IsPublic H policy ∨ IsPrivate H policy := by
      by_contra hneither
      rw [not_or] at hneither
      rw [refusal?, if_pos hneither] at hrefusal
      cases hrefusal
    refine ⟨?_, ?_, ?_, haudience⟩
    · rw [nested, lookup_append hredaction]
    · rw [nested, lookup_append hsubmission, hsub]
    · rw [nested, lookup_append hverdict, hver]

theorem agrees_iff {header inside : Fields α} {flag part hash : String} {told there : Bool}
    (hflag : lookup flag header = some (.bool told)) (hpart : (lookup part inside).isSome = there)
    (hhash : there = false → (lookup hash inside).isSome = true) :
    Agrees header flag inside part hash ↔ told = there := by
  rw [Agrees, hflag, hpart]
  cases told with
  | true => cases there <;> simp
  | false =>
    cases there with
    | true => simpa using fun h => absurd hpart (by simp [h])
    | false =>
      have hnone : lookup part inside = none := Option.isNone_iff_eq_none.mp (by simpa using hpart)
      simp [hnone, hhash rfl]

theorem submission_part {value : α} {fields : Fields α}
    (h : redactSubmission H policy value = .ok fields) :
    (lookup "agent_trace" fields).isSome = (policy.includeAgentTrace && rawPrivate policy) ∧
      ((policy.includeAgentTrace && rawPrivate policy) = false →
        (lookup "agent_trace_hash" fields).isSome = true) := by
  unfold redactSubmission at h
  split_ifs at h with hraw
  · obtain ⟨v, -, hv⟩ := @lookup_literal α "agent_trace" _ _ _ h rfl
    simp [hraw, hv]
  · obtain ⟨v, -, hv⟩ := @lookup_literal α "agent_trace_hash" _ _ _ h rfl
    have hnone := @lookup_literal_none α "agent_trace" _ _ h rfl
    simp [hv, hnone, Bool.eq_false_iff.mpr hraw]

theorem replay_part {replay : α} {fields : Fields α}
    (h : redactReplay H policy replay = .ok fields) :
    (lookup "artifacts" fields).isSome = (policy.includeReplayArtifacts && rawPrivate policy) ∧
      ((policy.includeReplayArtifacts && rawPrivate policy) = false →
        (lookup "artifacts_hash" fields).isSome = true) := by
  unfold redactReplay at h
  split_ifs at h with hraw
  · obtain ⟨v, -, hv⟩ := @lookup_literal α "artifacts" _ _ _ h rfl
    simp [hraw, hv]
  · obtain ⟨v, -, hv⟩ := @lookup_literal α "artifacts_hash" _ _ _ h rfl
    have hnone := @lookup_literal_none α "artifacts" _ _ h rfl
    simp [hv, hnone, Bool.eq_false_iff.mpr hraw]

theorem verdict_part {fields : Fields α} (h : redactVerdict H policy trace = .ok fields) :
    (lookup "decoded_witness" fields).isSome = (policy.includeRawWitness && rawPrivate policy) ∧
      (lookup "decoded_witness_hash" fields).isSome = true ∧
      ∃ replay, redactReplay H policy replay = .ok (nested "replay" fields) := by
  unfold redactVerdict at h
  dsimp only at h
  obtain ⟨hash, -, hhash⟩ := @lookup_literal α "decoded_witness_hash" _ _ _ h rfl
  obtain ⟨inner, hinner, hreplay⟩ := @lookup_obj α "replay" _ _ _ h rfl
  have hpart : (lookup "decoded_witness" fields).isSome =
      (policy.includeRawWitness && rawPrivate policy) := by
    split_ifs at h with hraw
    · obtain ⟨v, -, hv⟩ := @lookup_literal α "decoded_witness" _ _ _ h rfl
      simp [hraw, hv]
    · have hnone := @lookup_literal_none α "decoded_witness" _ _ h rfl
      simp [hnone, Bool.eq_false_iff.mpr hraw]
  have hnested : nested "replay" fields = inner := by rw [nested, hreplay]
  exact ⟨hpart, by simp [hhash], _, hnested ▸ hinner⟩

/-- Written as it is, `private` is private. -/
theorem isPrivate_of_rawPrivate (h : rawPrivate policy = true) : IsPrivate H policy := by
  have haudience : policy.audience = PyStr.ofString "private" := of_decide_eq_true h
  rw [IsPrivate, audience, haudience, if_neg (by decide), H.lower_private]

/-- The header is right unless some raw part is asked for under another spelling of
`private`. -/
theorem headerAgrees_iff (h : exportTrace H policy trace = .ok out) :
    HeaderAgrees out ↔ ¬ (IsPrivate H policy ∧ policy.audience ≠ PyStr.ofString "private" ∧
      (policy.includeRawWitness ∨ policy.includeAgentTrace ∨ policy.includeReplayArtifacts)) := by
  obtain ⟨hredaction, hsubmission, hverdict, -⟩ := exportTrace_sections h
  obtain ⟨hagent, hagentHash⟩ := submission_part hsubmission
  obtain ⟨hwitness, hwitnessHash, replay, hreplay⟩ := verdict_part hverdict
  obtain ⟨hartifacts, hartifactsHash⟩ := replay_part hreplay
  have hflag : ∀ flag told, lookup flag (redaction H policy) = some (.bool told) →
      lookup flag (nested "redaction" out) = some (.bool told) := fun _ _ h => hredaction ▸ h
  have hfirst := agrees_iff (hflag "raw_witness_included" _ rfl) hwitness fun _ => hwitnessHash
  have hsecond := agrees_iff (hflag "agent_trace_included" _ rfl) hagent hagentHash
  have hthird := agrees_iff (hflag "replay_artifacts_included" _ rfl) hartifacts hartifactsHash
  have hall : HeaderAgrees out ↔
      (policy.includeRawWitness && decide (IsPrivate H policy)) =
          (policy.includeRawWitness && rawPrivate policy) ∧
        (policy.includeAgentTrace && decide (IsPrivate H policy)) =
          (policy.includeAgentTrace && rawPrivate policy) ∧
        (policy.includeReplayArtifacts && decide (IsPrivate H policy)) =
          (policy.includeReplayArtifacts && rawPrivate policy) := by
    rw [← hfirst, ← hsecond, ← hthird]
    exact ⟨fun h => ⟨h.witness, h.agentTrace, h.artifacts⟩, fun h => ⟨h.1, h.2.1, h.2.2⟩⟩
  rw [hall]
  have hraw : rawPrivate policy = true ↔ policy.audience = PyStr.ofString "private" :=
    decide_eq_true_iff
  rw [Ne, ← hraw]
  by_cases hspelt : rawPrivate policy = true
  · simp [hspelt, (isPrivate_of_rawPrivate hspelt : IsPrivate H policy)]
  · by_cases hprivate : IsPrivate H policy
    · cases policy.includeRawWitness <;> cases policy.includeAgentTrace <;>
        cases policy.includeReplayArtifacts <;> simp [hspelt, hprivate]
    · simp [hspelt, hprivate]

end Header

/-! ## What a public export says -/

def isHashField (name : String) : Bool := "_hash".toList.isSuffixOf name.toList

mutual

/-- An export without what its hash fields hold. -/
def blank {α : Type} : Out α → Out α
  | .obj fields => .obj (blankFields fields)
  | v => v

def blankFields {α : Type} : Fields α → Fields α
  | [] => []
  | (name, v) :: rest => (name, if isHashField name then .text [] else blank v) :: blankFields rest

end

section Secrets

variable {α : Type} (H : Host α)

/-- Two dictionaries with the same entries off some keys. -/
def AgreeOff (keys : List String) (v w : α) : Prop :=
  ∀ key ∉ keys, member? H v key = member? H w key

/-- The traces differ at most in the miner's hotkey, the identifiers of task, challenge and
target, the repository, commit and netuid, the text of the invariant, the agent's trace, the
decoded witness, the replay artifacts, and the hash of the trace. -/
structure DifferInSecrets (t u : α) : Prop where
  dict : H.isDict t = H.isDict u
  trace : AgreeOff H
    ["trace_hash", "task", "submission", "verdict", "replay", "decoded_witness"] t u
  task : AgreeOff H ["task_id", "target", "invariant", "challenge_id"] (entry H t "task")
    (entry H u "task")
  target : AgreeOff H ["target_id", "repo_url", "commit", "netuid"]
    (entry H (entry H t "task") "target") (entry H (entry H u "task") "target")
  submission : AgreeOff H ["miner_hotkey", "agent_trace"] (entry H t "submission")
    (entry H u "submission")
  verdict : AgreeOff H ["decoded_witness", "replay"] (entry H t "verdict") (entry H u "verdict")
  replay : AgreeOff H ["artifacts"] (entryOr H (entry H t "verdict") t "replay")
    (entryOr H (entry H u "verdict") u "replay")

end Secrets

section Public

variable {α : Type} {H : Host α} {policy : RedactionPolicy} {t u : α}

/-- The two computations return the same, as far as they return and off the hash fields. -/
def Alike (x y : Except Exc (Out α)) : Prop := ∀ v w, x = .ok v → y = .ok w → blank v = blank w

def AlikeFields (x y : Except Exc (Fields α)) : Prop :=
  ∀ v w, x = .ok v → y = .ok w → blankFields v = blankFields w

theorem Alike.refl (x : Except Exc (Out α)) : Alike x x := by
  rintro v w rfl h
  cases h
  rfl

theorem AlikeFields.refl (x : Except Exc (Fields α)) : AlikeFields x x := by
  rintro v w rfl h
  cases h
  rfl

theorem AlikeFields.obj {x y : Except Exc (Fields α)} (h : AlikeFields x y) :
    Alike (.obj <$> x) (.obj <$> y) := by
  intro v w hv hw
  obtain ⟨inner, hinner, rfl⟩ := map_eq_ok.mp hv
  obtain ⟨inner', hinner', rfl⟩ := map_eq_ok.mp hw
  rw [blank, blank, h _ _ hinner hinner']

/-- Entries of one name, which is a hash's or whose values are alike. -/
def AlikeEntry (e e' : String × Except Exc (Out α)) : Prop :=
  e.1 = e'.1 ∧ (isHashField e.1 = true ∨ Alike e.2 e'.2)

theorem AlikeEntry.hash {name : String} {x y : Except Exc (Out α)} (h : isHashField name = true) :
    AlikeEntry (name, x) (name, y) := ⟨rfl, .inl h⟩

theorem AlikeEntry.same (e : String × Except Exc (Out α)) : AlikeEntry e e :=
  ⟨rfl, .inr (Alike.refl _)⟩

theorem literal_alike {es es' : List (String × Except Exc (Out α))}
    (h : List.Forall₂ AlikeEntry es es') : AlikeFields (literal es) (literal es') := by
  intro v w hv hw
  replace hv := literal_ok hv
  replace hw := literal_ok hw
  induction h generalizing v w with
  | nil =>
    cases hv
    cases hw
    rfl
  | @cons e e' _ _ hentry _ ih =>
    obtain ⟨f, fs, ⟨hname, hf⟩, hfs, rfl⟩ := List.forall₂_cons_left_iff.mp hv
    obtain ⟨f', fs', ⟨hname', hf'⟩, hfs', rfl⟩ := List.forall₂_cons_left_iff.mp hw
    obtain ⟨name, a⟩ := f
    obtain ⟨name', a'⟩ := f'
    have hsame : name = name' := hname.trans (hentry.1.trans hname'.symm)
    subst hsame
    rw [blankFields, blankFields, ih _ _ hfs hfs']
    rcases hentry.2 with hhash | halike
    · have hhash' : isHashField name = true := by
        rw [show name = e.1 from hname]
        exact hhash
      rw [if_pos hhash', if_pos hhash']
    · rw [halike _ _ hf hf']

theorem AgreeOff.entry {keys : List String} {v w : α} (h : AgreeOff H keys v w) {key : String}
    (hkey : key ∉ keys) : entry H v key = entry H w key := by
  rw [Distillation.entry, Distillation.entry, h key hkey]

theorem redactTask_alike (hpublic : IsPublic H policy) {v w : α}
    (h : AgreeOff H ["task_id", "target", "invariant", "challenge_id"] v w) :
    AlikeFields (redactTask H policy v) (redactTask H policy w) := by
  have hentry : ∀ key ∉ ["task_id", "target", "invariant", "challenge_id"],
      entry H v key = entry H w key := fun _ hkey => h.entry hkey
  refine literal_alike ?_
  simp only [if_pos hpublic]
  rw [hentry "invariant_id" (by decide), hentry "cnf_sha256" (by decide),
    hentry "decode_kind" (by decide), hentry "decode_map_sha256" (by decide),
    hentry "audit_package_sha256" (by decide), hentry "severity_hint" (by decide),
    hentry "replay_kind" (by decide), hentry "earning_policy" (by decide)]
  repeat' first | exact .nil | refine .cons (.hash rfl) ?_ | refine .cons (.same _) ?_

theorem redactSubmission_alike (hraw : rawPrivate policy = false) {v w : α}
    (h : AgreeOff H ["miner_hotkey", "agent_trace"] v w) :
    AlikeFields (redactSubmission H policy v) (redactSubmission H policy w) := by
  refine literal_alike ?_
  rw [hraw, Bool.and_false, h.entry (by decide : "dimacs_solution_sha256" ∉ _)]
  exact .cons (.hash rfl) (.cons (.same _) (.cons (.hash rfl) .nil))

theorem redactReplay_alike (hraw : rawPrivate policy = false) {v w : α}
    (h : AgreeOff H ["artifacts"] v w) :
    AlikeFields (redactReplay H policy v) (redactReplay H policy w) := by
  have hentry : ∀ key ∉ ["artifacts"], entry H v key = entry H w key := fun _ hkey => h.entry hkey
  refine literal_alike ?_
  rw [hraw, Bool.and_false, hentry "reproduced" (by decide), hentry "reason" (by decide),
    hentry "score_before" (by decide), hentry "score_after" (by decide),
    hentry "estimated_earning" (by decide), hentry "severity" (by decide)]
  repeat' first | exact .nil | refine .cons (.same _) ?_ | refine .cons (.hash rfl) ?_

theorem redactVerdict_alike (hraw : rawPrivate policy = false) (h : DifferInSecrets H t u) :
    AlikeFields (redactVerdict H policy t) (redactVerdict H policy u) := by
  have hsupervision : entry H t "supervision" = entry H u "supervision" := h.trace.entry (by decide)
  have hentry : ∀ key ∉ ["decoded_witness", "replay"],
      entryOr H (entry H t "verdict") (entry H t "supervision") key =
        entryOr H (entry H u "verdict") (entry H u "supervision") key := by
    intro key hkey
    rw [entryOr, entryOr, h.verdict key hkey, hsupervision]
  refine literal_alike ?_
  rw [hraw, Bool.and_false, hentry "accepted" (by decide), hentry "stage" (by decide),
    hentry "rejection_reason" (by decide)]
  refine .cons (.same _) (.cons (.same _) (.cons (.same _) (.cons (.hash rfl) (.cons ?_ .nil))))
  exact ⟨rfl, .inr (AlikeFields.obj (redactReplay_alike hraw h.replay))⟩

theorem redactSupervision_eq (h : DifferInSecrets H t u) :
    redactSupervision H t = redactSupervision H u := by
  rw [redactSupervision, redactSupervision, h.trace.entry (by decide : "supervision" ∉ _),
    h.trace.entry (by decide : "label" ∉ _)]

theorem datasetMetadata_eq (h : DifferInSecrets H t u) :
    datasetMetadata H policy t = datasetMetadata H policy u := by
  rw [datasetMetadata, datasetMetadata, h.trace.entry (by decide : "supervision" ∉ _),
    h.trace.entry (by decide : "label" ∉ _)]

/-- Written as `private`, an audience is not public. -/
theorem rawPrivate_of_isPublic (h : IsPublic H policy) : rawPrivate policy = false := by
  by_contra hraw
  have hprivate : IsPrivate H policy := isPrivate_of_rawPrivate (by simpa using hraw)
  exact absurd (h.symm.trans hprivate) (by decide)

theorem body_alike (hpublic : IsPublic H policy) (h : DifferInSecrets H t u) :
    AlikeFields (body H policy t) (body H policy u) := by
  have hraw := rawPrivate_of_isPublic hpublic
  refine literal_alike ?_
  rw [h.trace.entry (by decide : "schema_version" ∉ _), redactSupervision_eq h,
    datasetMetadata_eq h]
  refine .cons (.same _) (.cons (.same _) (.cons (.same _) (.cons (.same _) (.cons (.hash rfl)
    (.cons (.same _) (.cons ?_ (.cons ?_ (.cons ?_ (.cons (.same _) (.cons (.same _)
      (.cons (.same _) .nil)))))))))))
  · exact ⟨rfl, .inr (AlikeFields.obj (redactTask_alike hpublic h.task))⟩
  · exact ⟨rfl, .inr (AlikeFields.obj (redactSubmission_alike hraw h.submission))⟩
  · exact ⟨rfl, .inr (AlikeFields.obj (redactVerdict_alike hraw h))⟩

theorem blankFields_append (a b : Fields α) :
    blankFields (a ++ b) = blankFields a ++ blankFields b := by
  induction a with
  | nil => rw [blankFields, List.nil_append, List.nil_append]
  | cons f rest ih => rw [List.cons_append, blankFields, blankFields, ih, List.cons_append]

/-- Public exports of traces that differ in secrets differ in hash fields. -/
theorem exportTrace_alike (hpublic : IsPublic H policy) (h : DifferInSecrets H t u) :
    AlikeFields (exportTrace H policy t) (exportTrace H policy u) := by
  intro v w hv hw
  unfold exportTrace at hv hw
  have hrefusal : refusal? H policy t = refusal? H policy u := by
    rw [refusal?, refusal?, h.dict]
  rw [hrefusal] at hv
  cases hmessage : refusal? H policy u with
  | some message =>
    rw [hmessage] at hv
    cases hv
  | none =>
    rw [hmessage] at hv hw
    obtain ⟨a, ha, hv⟩ := bind_eq_ok.mp hv
    obtain ⟨b, hb, hw⟩ := bind_eq_ok.mp hw
    obtain ⟨_, -, hv⟩ := bind_eq_ok.mp hv
    obtain ⟨_, -, hw⟩ := bind_eq_ok.mp hw
    obtain ⟨_, -, hv⟩ := bind_eq_ok.mp hv
    obtain ⟨_, -, hw⟩ := bind_eq_ok.mp hw
    cases hv
    cases hw
    rw [blankFields_append, blankFields_append, body_alike hpublic h a b ha hb]
    rfl

end Public

/-! ## The policy -/

/-- What an export promises, and when. -/
structure ObeysPolicy {α : Type} (H : Host α) (policy : RedactionPolicy) : Prop where
  header : ∀ trace out, exportTrace H policy trace = .ok out →
    (HeaderAgrees out ↔ ¬ (IsPrivate H policy ∧ policy.audience ≠ PyStr.ofString "private" ∧
      (policy.includeRawWitness ∨ policy.includeAgentTrace ∨ policy.includeReplayArtifacts)))
  secrets : IsPublic H policy → ∀ t u, DifferInSecrets H t u → ∀ v w,
    exportTrace H policy t = .ok v → exportTrace H policy u = .ok w →
      blankFields v = blankFields w

section Sample

open PyJson (Value)

/-- The objects that `json.loads` returns, as far as a trace of texts goes. -/
def jsonHost : Host Value where
  none := .null
  isDict v := v matches .obj _
  get? v key :=
    match v with
    | .obj members => Dict.find (PyStr.ofString key) members
    | _ => none
  truthy v := .ok (PyJson.truthy v)
  str v :=
    match v with
    | .str s => .ok s
    | _ => .error (.other "NotImplementedError")
  isBool v := v matches .bool _
  isNone v := v matches .null
  float _ := .error (.typeError "float() argument must be a string or a real number")
  dumps v := .ok (PyRepr.ascii (Json.render (fun _ => []) v))
  dumpsExport _ := .ok []
  sha256Hex _ := .ok (PyRepr.ascii (List.replicate 64 '0'))
  hmacHex _ _ := .ok (PyRepr.ascii (List.replicate 64 '0'))
  lower t := t.map fun p => if h : 65 ≤ p.val ∧ p.val ≤ 90 then ⟨p.val + 32, by omega⟩ else p
  lower_private := by decide

/-- A trace with a note of the agent, exported to the audience `Private`. -/
def spelt : RedactionPolicy where
  audience := PyStr.ofString "Private"
  includeAgentTrace := true

def notedTrace : Value :=
  .obj [(PyStr.ofString "submission", .obj [(PyStr.ofString "agent_trace",
    .obj [(PyStr.ofString "note", .str (PyStr.ofString "x"))])])]

end Sample

end Cathedral.Lanes.Distillation
