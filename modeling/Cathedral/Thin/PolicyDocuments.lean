import Cathedral.Thin.PolicyInduction

/-!
# Cathedral.Thin.PolicyDocuments — tasks as a validator writes them

Examples and tasks in the form in which they are signed, which the checks read back.
-/

namespace Cathedral.Thin

namespace Policy

/-! ## Examples -/

def Example.featuresDocument (e : Example) : Fields :=
  .ofList (e.features.map fun feature => (feature.1, feature.2.document))

def Example.document (e : Example) : Document :=
  .obj (Fields.ofList [("example_id", strConst e.exampleId),
    ("features", .obj e.featuresDocument), ("label", strConst e.label)])

section Examples

variable {featureNames labels : List String} {label : String} {e : Example}

theorem get_featuresDocument (hnodup : (e.features.map Prod.fst).Nodup) {feature : String × Scalar}
    (hfeature : feature ∈ e.features) :
    e.featuresDocument.get feature.1 = feature.2.document := by
  rw [Example.featuresDocument, get_ofList, lookup_map_snd,
    (lookup_eq_some_iff_mem hnodup).mpr hfeature]
  rfl

/-- An example is read back from its document. -/
theorem exampleOf_document (hnames : SortedNames featureNames) (hlabels : SortedNames labels)
    (h : e.Shape featureNames labels) :
    exampleOf featureNames labels label e.document = .ok e := by
  have hnodup : (e.features.map Prod.fst).Nodup := h.keys ▸ hnames.sorted.imp ne_of_lt
  have hkeys : (e.featuresDocument.map Prod.fst).insertionSort (· ≤ ·) =
      featureNames.map PyStr.ofString := by
    have hmap : (e.features.map fun feature => (feature.1, feature.2.document)).map Prod.fst =
        featureNames := by
      rw [List.map_map]
      exact h.keys
    rw [Example.featuresDocument, keys_ofList, hmap]
    refine List.Pairwise.insertionSort_eq (List.pairwise_map.mpr ?_)
    exact hnames.sorted.imp fun hlt => le_of_lt (PyStr.ofString_lt_iff.mpr hlt)
  have hfields : (Fields.ofList [("example_id", strConst e.exampleId),
      ("features", .obj e.featuresDocument), ("label", strConst e.label)]).HasKeys exampleKeys :=
    hasKeys_ofList.mpr ⟨by simp [exampleKeys], by simp [exampleKeys]⟩
  refine bind_eq_ok.mpr ⟨_, rfl, bind_eq_ok.mpr ⟨(), requireExactKeys_eq_ok.mpr hfields, ?_⟩⟩
  refine bind_eq_ok.mpr ⟨e.exampleId, matching_eq_ok.mpr ⟨by simp, h.identifier⟩, ?_⟩
  refine bind_eq_ok.mpr ⟨e.featuresDocument, by simp [List.lookup_cons, object]; rfl, ?_⟩
  refine bind_eq_ok.mpr ⟨(), refuse_eq_ok.mpr (not_not.mpr hkeys), ?_⟩
  refine bind_eq_ok.mpr ⟨e.features, ?_, ?_⟩
  · rw [← h.keys, mapM_eq_ok, List.forall₂_map_left_iff, List.forall₂_same]
    intro feature hfeature
    refine bind_eq_ok.mpr ⟨feature.2, scalar_eq_ok.mpr ⟨?_, h.bounded feature hfeature⟩, rfl⟩
    exact get_featuresDocument hnodup hfeature
  · refine bind_eq_ok.mpr ⟨e.label, matching_eq_ok.mpr
      ⟨by simp [List.lookup_cons], hlabels.identifiers _ h.label_mem⟩, ?_⟩
    exact bind_eq_ok.mpr ⟨(), refuse_eq_ok.mpr (not_not.mpr h.label_mem), rfl⟩

theorem strict_example (hnames : SortedNames featureNames) (h : e.Shape featureNames labels) :
    Strict 2 e.document := by
  have hfeatures : Strict 1 (.obj e.featuresDocument) := by
    refine strict_ofList.mpr ⟨?_, fun m hm => ?_⟩
    · rw [List.map_map]
      exact h.keys.symm ▸ hnames.sorted
    · obtain ⟨feature, hfeature, rfl⟩ := List.mem_map.mp hm
      have hbounded := h.bounded feature hfeature
      show Strict 0 feature.2.document
      cases hvalue : feature.2 with
      | bool b => exact .bool b
      | int n => exact .num (inRange_of_bounded (hvalue ▸ hbounded))
      | str text => exact wf_strConst text
  have hsorted : ["example_id", "features", "label"].Pairwise (· < ·) := by decide
  exact strict_ofList.mpr ⟨hsorted, by simp [hfeatures]⟩

/-- Examples in the order of their ids are read back from their documents. -/
theorem validateExamples_document {minimum : ℕ} {examples : List Example}
    (hnames : SortedNames featureNames) (hlabels : SortedNames labels)
    (hshapes : ∀ e ∈ examples, e.Shape featureNames labels)
    (hids : (examples.map Example.exampleId).Pairwise (· < ·))
    (hcount : minimum ≤ examples.length ∧ examples.length ≤ maxExamples) :
    validateExamples featureNames labels label minimum (.arr (examples.map Example.document)) =
      .ok examples := by
  have hrows : (examples.map Example.document).mapM (exampleOf featureNames labels label) =
      .ok examples := by
    rw [mapM_eq_ok, List.forall₂_map_left_iff, List.forall₂_same]
    exact fun e he => exampleOf_document hnames hlabels (hshapes e he)
  refine bind_eq_ok.mpr ⟨(), refuse_eq_ok.mpr ?_, bind_eq_ok.mpr ⟨_, hrows,
    bind_eq_ok.mpr ⟨(), refuse_eq_ok.mpr (not_not.mpr hids), rfl⟩⟩⟩
  rw [not_not, List.length_map]
  exact hcount

end Examples

theorem any_isContainer_strConst (names : List String) :
    (names.map strConst).any isContainer = false := by
  rw [List.any_map, List.any_eq_false]
  exact fun name _ => Bool.false_ne_true

theorem all_isText_strConst (names : List String) : (names.map strConst).all isText = true := by
  rw [List.all_map, List.all_eq_true]
  exact fun name _ => rfl

theorem rareLabelsOf_document {labels rare : List String} (hne : rare ≠ [])
    (hsorted : rare.Pairwise (· < ·)) (hsubset : ∀ name ∈ rare, name ∈ labels) :
    rareLabelsOf labels (.arr (rare.map strConst)) = .ok rare := by
  refine bind_eq_ok.mpr ⟨(), refuse_eq_ok.mpr (by simpa using hne), ?_⟩
  rw [any_isContainer_strConst, all_isText_strConst, if_neg Bool.false_ne_true, if_neg (by simp)]
  refine bind_eq_ok.mpr ⟨rare, mapM_matching.mpr ⟨rfl, fun _ _ => rfl⟩, ?_⟩
  exact bind_eq_ok.mpr ⟨(), refuse_eq_ok.mpr (not_not.mpr hsorted),
    bind_eq_ok.mpr ⟨(), refuse_eq_ok.mpr (not_not.mpr hsubset), rfl⟩⟩

/-! ## Tasks -/

/-- A platform whose hash is constant and on which every signature is valid. -/
def zeroPolicies : PolicyPlatform where
  toPlatform := zeroPlatform
  unicode := ⟨fun _ => none, fun p => [p]⟩
  sr25519 _ _ _ := some true

def zeroTaskContext : TaskContext where
  network := "test"
  netuid := 1
  currentBlock := 105
  now := noonTime

section Signed

variable {depth : ℕ} {fields : Fields}

theorem openCanonical_dumps {maximumBytes : ℕ} {message : String}
    (hstrict : Strict depth (.obj fields)) (hdepth : depth ≤ 100)
    (hsize : (dumps (.obj fields)).length ≤ maximumBytes) :
    openCanonical zeroPolicies (dumps (.obj fields)) maximumBytes message = .ok fields := by
  unfold openCanonical
  rw [stripNewline_dumps]
  refine bind_eq_ok.mpr ⟨fields, parseStrictJson_dumps hstrict hdepth hsize, ?_⟩
  refine bind_eq_ok.mpr ⟨_, canonicalJson_strict hstrict hdepth, ?_⟩
  exact bind_eq_ok.mpr ⟨(), refuse_eq_ok.mpr (not_not.mpr rfl), rfl⟩

/-- The id and the signature of zeros are those of every document. -/
theorem verifyEnvelope_zero {idField idLabel mismatch : String} {idDomain domain : Bytes}
    {hotkey : PyStr} {label : String} (hstrict : Strict depth (.obj fields)) (hdepth : depth ≤ 100)
    (hid : fields.get idField = strConst zeroDigest.tagged)
    (hsignature : fields.get "signature" = .obj quotedSignature) :
    verifyEnvelope zeroPolicies fields idField idLabel mismatch idDomain domain hotkey label =
      .ok zeroDigest.tagged := by
  have hwritten : ∀ names, canonicalJson zeroPlatform (.obj (fields.without names)) =
      .ok (dumps (.obj (fields.without names))) := fun names =>
    canonicalJson_writable (writable_without hstrict.writable names) hdepth
  have hkeys : quotedSignature.HasKeys signatureKeys := by decide +kernel
  refine bind_eq_ok.mpr ⟨zeroDigest.tagged, matching_eq_ok.mpr ⟨hid, by decide⟩, ?_⟩
  refine bind_eq_ok.mpr ⟨zeroDigest, bind_eq_ok.mpr ⟨_, hwritten _, rfl⟩, ?_⟩
  refine bind_eq_ok.mpr ⟨(), refuse_eq_ok.mpr (not_not.mpr rfl), ?_⟩
  refine bind_eq_ok.mpr ⟨zeroSignature, ?_, ?_⟩
  · rw [hsignature]
    refine bind_eq_ok.mpr ⟨quotedSignature, rfl, ?_⟩
    refine bind_eq_ok.mpr ⟨(), requireExactKeys_eq_ok.mpr hkeys, ?_⟩
    refine bind_eq_ok.mpr ⟨(), refuse_eq_ok.mpr (by decide +kernel), ?_⟩
    exact base64Bytes_eq_ok.mpr ⟨by decide +kernel, by decide⟩
  · exact bind_eq_ok.mpr ⟨(), bind_eq_ok.mpr ⟨_, hwritten _, rfl⟩, rfl⟩

end Signed

/-- What differs from one of these tasks to the next. -/
structure TaskTerms where
  featureNames : List String
  labels : List String
  rareLabels : List String
  publicExamples : List Example
  compactnessMaxTerms : ℤ
  qualityFloor : String
  rareFloor : String

def TaskTerms.metric (t : TaskTerms) : Fields :=
  .ofList [("compactness_max_terms", .num t.compactnessMaxTerms),
    ("quality_floor", strConst t.qualityFloor), ("rare_floor", strConst t.rareFloor)]

def TaskTerms.members (t : TaskTerms) : List (String × Document) :=
  [("feature_names", .arr (t.featureNames.map strConst)),
    ("hidden_suite_commitment", strConst zeroDigest.tagged),
    ("issued_at", strConst "2026-07-26T12:00:00.000000Z"),
    ("labels", .arr (t.labels.map strConst)), ("metric_policy", .obj t.metric),
    ("miner_hotkey", strConst "miner"), ("netuid", .num 1), ("network", strConst "test"),
    ("nonce_base64", strConst (String.ofList (Base64.encode zeroNonce))),
    ("public_examples", .arr (t.publicExamples.map Example.document)),
    ("rare_labels", .arr (t.rareLabels.map strConst)), ("schema", strConst taskSchema),
    ("signature", .obj quotedSignature), ("source_epoch", .num 7),
    ("task_class", strConst "policy"), ("task_id", strConst zeroDigest.tagged),
    ("valid_from_block", .num 100),
    ("valid_until_block", .num 200), ("validator_hotkey", strConst "validator")]

def TaskTerms.document (t : TaskTerms) : Fields := .ofList t.members

/-- What is read from the document, with the two floors as numbers. -/
def TaskTerms.task (t : TaskTerms) (quality rare : ℚ) : PolicyTask where
  network := "test"
  netuid := 1
  sourceEpoch := 7
  validatorHotkey := PyStr.ofString "validator"
  minerHotkey := PyStr.ofString "miner"
  issuedAt := ⟨2026, 7, 26, 12, 0, 0, 0, quotedMoment_valid⟩
  validFromBlock := 100
  validUntilBlock := 200
  featureNames := t.featureNames
  labels := t.labels
  rareLabels := t.rareLabels
  publicExamples := t.publicExamples
  hiddenSuiteCommitment := zeroDigest.tagged
  qualityFloor := quality
  rareFloor := rare
  compactnessMaxTerms := t.compactnessMaxTerms
  taskId := zeroDigest.tagged
  document := t.document

structure TaskTerms.Valid (t : TaskTerms) (quality rare : ℚ) : Prop where
  features : SortedNames t.featureNames
  features_count : 1 ≤ t.featureNames.length ∧ t.featureNames.length ≤ maxFeatures
  labels : SortedNames t.labels
  labels_count : 2 ≤ t.labels.length ∧ t.labels.length ≤ maxLabels
  rare_ne_nil : t.rareLabels ≠ []
  rare_sorted : t.rareLabels.Pairwise (· < ·)
  rare_subset : ∀ name ∈ t.rareLabels, name ∈ t.labels
  examples : ∀ e ∈ t.publicExamples, e.Shape t.featureNames t.labels
  ids_sorted : (t.publicExamples.map Example.exampleId).Pairwise (· < ·)
  examples_count : 2 ≤ t.publicExamples.length ∧ t.publicExamples.length ≤ maxExamples
  terms : InRange t.compactnessMaxTerms
  metric : metricPolicyOf zeroPolicies (.obj t.metric) = .ok (t.compactnessMaxTerms, quality, rare)
  size : (dumps (.obj t.document)).length ≤ maxTaskBytes

section Tasks

variable {t : TaskTerms} {quality rare : ℚ}

theorem get_document {name : String} {v : Document}
    (h : t.members.lookup name = some v) : t.document.get name = v := by
  rw [TaskTerms.document, get_ofList, h]
  rfl

theorem taskNames_sorted : (t.members.map Prod.fst).Pairwise (· < ·) := by
  have hsorted : ["feature_names", "hidden_suite_commitment", "issued_at", "labels",
      "metric_policy", "miner_hotkey", "netuid", "network", "nonce_base64", "public_examples",
      "rare_labels", "schema", "signature", "source_epoch", "task_class", "task_id",
      "valid_from_block", "valid_until_block", "validator_hotkey"].Pairwise (· < ·) := by decide
  exact hsorted

theorem TaskTerms.Valid.strict (h : t.Valid quality rare) : Strict 4 (.obj t.document) := by
  have hnames : ∀ names : List String, Strict 3 (.arr (names.map strConst)) := by
    intro names
    refine .arr fun item hitem => ?_
    obtain ⟨name, -, rfl⟩ := List.mem_map.mp hitem
    exact wf_strConst name
  have hexamples : Strict 3 (.arr (t.publicExamples.map Example.document)) := by
    refine .arr fun item hitem => ?_
    obtain ⟨e, he, rfl⟩ := List.mem_map.mp hitem
    exact strict_example h.features (h.examples e he)
  have hmetric : Strict 3 (.obj t.metric) := by
    have hsorted : metricPolicyKeys.Pairwise (· < ·) := by decide
    exact strict_ofList.mpr ⟨hsorted, by simp [h.terms]⟩
  have hsignature : Strict 3 (.obj quotedSignature) := strict_ofList.mpr ⟨by decide, by simp⟩
  refine strict_ofList.mpr ⟨taskNames_sorted, ?_⟩
  simp [TaskTerms.members, hnames, hexamples, hmetric, hsignature, InRange]

theorem hotkeyOf_eq_ok {fields : Fields} {name : String} {hotkey : PyStr}
    (hget : fields.get name = .str hotkey) (hne : hotkey ≠ []) :
    hotkeyOf fields name = .ok hotkey := by
  rw [hotkeyOf, hget]
  exact if_pos hne

theorem taskBody_document (h : t.Valid quality rare) :
    taskBody zeroPolicies t.document = .ok (t.task quality rare).toTaskBody := by
  unfold taskBody
  refine bind_eq_ok.mpr ⟨(), refuse_eq_ok.mpr (not_not.mpr (get_document rfl)), ?_⟩
  refine bind_eq_ok.mpr ⟨"test", boundedString_eq_ok.mpr ⟨get_document rfl, by decide⟩, ?_⟩
  refine bind_eq_ok.mpr ⟨1, by rw [get_document (v := .num 1) rfl]; rfl, ?_⟩
  refine bind_eq_ok.mpr ⟨7, by rw [get_document (v := .num 7) rfl]; rfl, ?_⟩
  refine bind_eq_ok.mpr ⟨"policy", matching_eq_ok.mpr ⟨get_document rfl, by decide⟩, ?_⟩
  refine bind_eq_ok.mpr
    ⟨PyStr.ofString "validator", hotkeyOf_eq_ok (get_document rfl) (by decide), ?_⟩
  refine bind_eq_ok.mpr ⟨PyStr.ofString "miner", hotkeyOf_eq_ok (get_document rfl) (by decide), ?_⟩
  refine bind_eq_ok.mpr ⟨zeroNonce, base64Bytes_eq_ok.mpr ⟨get_document rfl, by decide⟩, ?_⟩
  refine bind_eq_ok.mpr ⟨⟨2026, 7, 26, 12, 0, 0, 0, quotedMoment_valid⟩,
    by rw [get_document (v := strConst "2026-07-26T12:00:00.000000Z") rfl]; decide +kernel, ?_⟩
  refine bind_eq_ok.mpr ⟨100, by rw [get_document (v := .num 100) rfl]; rfl, ?_⟩
  refine bind_eq_ok.mpr ⟨200, by rw [get_document (v := .num 200) rfl]; rfl, ?_⟩
  refine bind_eq_ok.mpr ⟨(), refuse_eq_ok.mpr (by decide), ?_⟩
  refine bind_eq_ok.mpr ⟨t.featureNames, sortedIdentifiers_eq_ok.mpr
    ⟨get_document rfl, h.features_count.1, h.features_count.2, h.features⟩, ?_⟩
  refine bind_eq_ok.mpr ⟨t.labels, sortedIdentifiers_eq_ok.mpr
    ⟨get_document rfl, h.labels_count.1, h.labels_count.2, h.labels⟩, ?_⟩
  refine bind_eq_ok.mpr ⟨t.rareLabels, ?_, bind_eq_ok.mpr ⟨t.publicExamples, ?_, ?_⟩⟩
  · rw [get_document (v := .arr (t.rareLabels.map strConst)) rfl]
    exact rareLabelsOf_document h.rare_ne_nil h.rare_sorted h.rare_subset
  · rw [get_document (v := .arr (t.publicExamples.map Example.document)) rfl]
    exact validateExamples_document h.features h.labels h.examples h.ids_sorted h.examples_count
  · refine bind_eq_ok.mpr ⟨zeroDigest.tagged, matching_eq_ok.mpr ⟨get_document rfl, by decide⟩, ?_⟩
    refine bind_eq_ok.mpr ⟨(t.compactnessMaxTerms, quality, rare), ?_, rfl⟩
    rw [get_document (v := .obj t.metric) rfl]
    exact h.metric

theorem checkTaskContext_document :
    checkTaskContext zeroTaskContext (t.task quality rare).toTaskBody = .ok () := by
  have hchain : ¬ (("test" : String) ≠ "test" ∨ (1 : ℤ) ≠ 1) := by decide
  refine bind_eq_ok.mpr ⟨(), refuse_eq_ok.mpr hchain, ?_⟩
  have hany : ∀ hotkey : PyStr, ¬ ∃ expected ∈ (none : Option PyStr),
      expected ≠ [] ∧ hotkey ≠ expected := by
    rintro hotkey ⟨expected, hexpected, -⟩
    cases hexpected
  refine bind_eq_ok.mpr ⟨(), refuse_eq_ok.mpr (hany _), ?_⟩
  refine bind_eq_ok.mpr ⟨(), refuse_eq_ok.mpr (hany _), ?_⟩
  have hblock : ¬ (105 : ℤ) < 0 := by decide
  have hwindow : ¬ ((105 : ℤ) < 100 ∨ (200 : ℤ) ≤ 105) := by decide
  have hspan : ¬ (7200 : ℤ) < 200 - 100 := by decide
  refine bind_eq_ok.mpr ⟨(), refuse_eq_ok.mpr hblock, ?_⟩
  refine bind_eq_ok.mpr ⟨(), refuse_eq_ok.mpr hwindow, ?_⟩
  refine bind_eq_ok.mpr ⟨(), refuse_eq_ok.mpr hspan, ?_⟩
  have hage : noonTime.micros -
      (⟨2026, 7, 26, 12, 0, 0, 0, quotedMoment_valid⟩ : UtcTime).micros = 60000000 := by
    decide +kernel
  refine refuse_eq_ok.mpr ?_
  show ¬ (noonTime.micros - UtcTime.micros ⟨2026, 7, 26, 12, 0, 0, 0, quotedMoment_valid⟩ <
      -30 * 1000000 ∨
    3600 * 1000000 <
      noonTime.micros - UtcTime.micros ⟨2026, 7, 26, 12, 0, 0, 0, quotedMoment_valid⟩)
  rw [hage]
  decide

/-- The task is verified. -/
theorem verifyTask_document (h : t.Valid quality rare) :
    verifyTask zeroPolicies zeroTaskContext (dumps (.obj t.document)) =
      .ok (t.task quality rare) := by
  have hkeys : t.document.HasKeys taskKeys :=
    hasKeys_ofList.mpr
      ⟨by simp [taskKeys, TaskTerms.members], by simp [taskKeys, TaskTerms.members]⟩
  refine bind_eq_ok.mpr ⟨t.document, openCanonical_dumps h.strict (by decide) h.size, ?_⟩
  refine bind_eq_ok.mpr ⟨(), requireExactKeys_eq_ok.mpr hkeys, ?_⟩
  refine bind_eq_ok.mpr ⟨_, taskBody_document h, bind_eq_ok.mpr ⟨(), checkTaskContext_document, ?_⟩⟩
  exact bind_eq_ok.mpr ⟨zeroDigest.tagged,
    verifyEnvelope_zero h.strict (by decide) (get_document rfl) (get_document rfl), rfl⟩

end Tasks

/-! ## Tasks of many kinds

The one feature of these tasks is a number, which is another in each of the examples. -/

def crowdExample (row : String × ℕ) : Example where
  exampleId := row.1
  features := [("value", .int row.2)]
  label := if row.2 % 2 = 0 then "no" else "yes"

def crowdRows (n : ℕ) : List (String × ℕ) :=
  (((List.range n).map ruleName).insertionSort (· ≤ ·)).zipIdx

def crowdTerms (n : ℕ) : TaskTerms where
  featureNames := ["value"]
  labels := ["no", "yes"]
  rareLabels := ["yes"]
  publicExamples := (crowdRows n).map crowdExample
  compactnessMaxTerms := 64
  qualityFloor := "0.7"
  rareFloor := "0.5"

def crowdTask (n : ℕ) : PolicyTask := (crowdTerms n).task (7 / 10) (1 / 2)

section Crowd

variable {n : ℕ}

theorem length_crowdRows (n : ℕ) : (crowdRows n).length = n := by
  rw [crowdRows, List.length_zipIdx, List.length_insertionSort, List.length_map, List.length_range]

theorem mem_crowdRows (hn : n ≤ maxExamples) {row : String × ℕ} (h : row ∈ crowdRows n) :
    (∃ index, index < 10000 ∧ ruleName index = row.1) ∧ row.2 < 10000 := by
  have hmem := (List.mem_insertionSort _).mp (List.fst_mem_of_mem_zipIdx h)
  obtain ⟨index, hindex, hname⟩ := List.mem_map.mp hmem
  have hlt := List.snd_lt_of_mem_zipIdx h
  rw [List.length_insertionSort, List.length_map, List.length_range] at hlt
  rw [List.mem_range] at hindex
  unfold maxExamples at hn
  exact ⟨⟨index, by omega, hname⟩, by omega⟩

theorem crowd_ids (n : ℕ) :
    ((crowdTerms n).publicExamples.map Example.exampleId).Pairwise (· < ·) := by
  have hids : (crowdTerms n).publicExamples.map Example.exampleId =
      ((List.range n).map ruleName).insertionSort (· ≤ ·) := by
    show ((crowdRows n).map crowdExample).map Example.exampleId = _
    rw [List.map_map]
    exact List.zipIdx_map_fst 0 _
  have hnodup : (((List.range n).map ruleName).insertionSort (· ≤ ·)).Nodup :=
    (List.perm_insertionSort _ _).nodup_iff.mpr (List.nodup_range.map ruleName_injective)
  rw [hids]
  exact (List.pairwise_insertionSort (· ≤ ·) _).imp₂ (fun _ _ hle hne => lt_of_le_of_ne hle hne)
    hnodup

theorem crowd_shape (hn : n ≤ maxExamples) {e : Example} (he : e ∈ (crowdTerms n).publicExamples) :
    e.Shape ["value"] ["no", "yes"] := by
  obtain ⟨row, hrow, rfl⟩ := List.mem_map.mp he
  obtain ⟨⟨index, hindex, hname⟩, hvalue⟩ := mem_crowdRows hn hrow
  refine ⟨?_, rfl, ?_, ?_⟩
  · show isPolicyIdentifier row.1.toList = true
    rw [← hname]
    exact isPolicyIdentifier_ruleName hindex
  · intro feature hfeature
    rw [List.mem_singleton.mp hfeature]
    show |(row.2 : ℤ)| ≤ 1000000000000
    rw [Nat.abs_cast]
    omega
  · show (if row.2 % 2 = 0 then "no" else "yes") ∈ ["no", "yes"]
    split_ifs
    · exact List.mem_cons_self
    · exact List.mem_cons_of_mem _ List.mem_cons_self

theorem length_ofString (s : String) : (PyStr.ofString s).length = s.length := by
  rw [PyStr.ofString, List.length_map, String.length_toList]

theorem weightItems_le {b : ℕ} : ∀ {items : List Document},
    (∀ item ∈ items, item.weight Json.intNumeral ≤ b) →
      Json.weightItems Json.intNumeral items ≤ (b + 1) * items.length
  | [], _ => Nat.zero_le _
  | item :: items, h => by
    obtain ⟨hitem, hitems⟩ := List.forall_mem_cons.mp h
    have ih := weightItems_le hitems
    rw [Json.weightItems, List.length_cons, Nat.mul_succ]
    omega

theorem weight_crowdExample (hn : n ≤ maxExamples) {row : String × ℕ} (hrow : row ∈ crowdRows n) :
    (crowdExample row).document.weight Json.intNumeral ≤ 600 := by
  obtain ⟨⟨index, hindex, hname⟩, hvalue⟩ := mem_crowdRows hn hrow
  have hid : row.1.length = 9 := by
    rw [← hname, ← String.length_toList, toList_ruleName, List.length_cons, List.length_append,
      length_ruleDigits hindex]
    rfl
  have hnumeral := length_intNumeral (n := row.2) (by constructor <;> omega)
  have hlabel : (if row.2 % 2 = 0 then "no" else "yes").length ≤ 3 := by
    split_ifs <;> decide
  have hkeys : "example_id".length = 10 ∧ "features".length = 8 ∧ "value".length = 5 ∧
      "label".length = 5 := by decide
  simp only [Example.document, Example.featuresDocument, crowdExample, Fields.ofList, Json.weight,
    Json.weightMembers, Json.quoteWeight, length_ofString, Scalar.document, strConst, hid, hkeys,
    List.map_cons, List.map_nil]
  omega

theorem crowd_size (hn : n ≤ maxExamples) :
    (dumps (.obj (crowdTerms n).document)).length ≤ maxTaskBytes := by
  refine length_dumps_le ?_
  have hrows : Json.weightItems Json.intNumeral
      ((crowdTerms n).publicExamples.map Example.document) ≤ 601 * n := by
    have hbound : ∀ item ∈ (crowdTerms n).publicExamples.map Example.document,
        item.weight Json.intNumeral ≤ 600 := by
      intro item hitem
      obtain ⟨e, he, rfl⟩ := List.mem_map.mp hitem
      obtain ⟨row, hrow, rfl⟩ := List.mem_map.mp he
      exact weight_crowdExample hn hrow
    have hle := weightItems_le hbound
    have hlength : ((crowdTerms n).publicExamples.map Example.document).length = n := by
      rw [List.length_map]
      exact (List.length_map _).trans (length_crowdRows n)
    rw [hlength] at hle
    exact hle
  have hrest : (Json.obj (TaskTerms.document { crowdTerms n with publicExamples := [] })).weight
      Json.intNumeral ≤ 100000 := by
    show (Json.obj (TaskTerms.document { crowdTerms 0 with publicExamples := [] })).weight
      Json.intNumeral ≤ 100000
    decide +kernel
  have hsplit : (Json.obj (crowdTerms n).document).weight Json.intNumeral =
      (Json.obj (TaskTerms.document { crowdTerms n with publicExamples := [] })).weight
        Json.intNumeral + Json.weightItems Json.intNumeral
          ((crowdTerms n).publicExamples.map Example.document) := by
    simp only [TaskTerms.document, TaskTerms.members, Fields.ofList, List.map_cons, List.map_nil,
      Json.weight, Json.weightMembers, Json.weightItems, TaskTerms.metric, crowdTerms]
    omega
  unfold maxExamples at hn
  unfold maxTaskBytes
  omega

theorem crowd_features : SortedNames ["value"] :=
  ⟨List.all_eq_true.mp (show ["value"].all (fun name => isPolicyIdentifier name.toList) = true by
    decide), List.pairwise_singleton _ _⟩

theorem crowd_labels : SortedNames ["no", "yes"] :=
  ⟨List.all_eq_true.mp (show
    ["no", "yes"].all (fun name => isPolicyIdentifier name.toList) = true by decide), by decide⟩

theorem crowd_metric : metricPolicyOf zeroPolicies (.obj (crowdTerms 0).metric) =
    .ok (64, 7 / 10, 1 / 2) := by
  decide +kernel

theorem length_crowdExamples (n : ℕ) : (crowdTerms n).publicExamples.length = n :=
  (List.length_map _).trans (length_crowdRows n)

theorem crowd_valid (htwo : 2 ≤ n) (hn : n ≤ maxExamples) :
    (crowdTerms n).Valid (7 / 10) (1 / 2) where
  features := crowd_features
  features_count := ⟨le_rfl, by unfold maxFeatures; exact Nat.le_of_ble_eq_true rfl⟩
  labels := crowd_labels
  labels_count := ⟨le_rfl, by unfold maxLabels; exact Nat.le_of_ble_eq_true rfl⟩
  rare_ne_nil := List.cons_ne_nil _ _
  rare_sorted := List.pairwise_singleton _ _
  rare_subset := fun name hname => List.mem_cons_of_mem _ hname
  examples := fun _ he => crowd_shape hn he
  ids_sorted := crowd_ids n
  examples_count := (length_crowdExamples n).symm ▸ ⟨htwo, hn⟩
  terms := show InRange 64 by constructor <;> decide
  metric := crowd_metric
  size := crowd_size hn

/-- The tasks are verified. -/
theorem crowd_verified (htwo : 2 ≤ n) (hn : n ≤ maxExamples) :
    verifyTask zeroPolicies zeroTaskContext (dumps (.obj (crowdTerms n).document)) =
      .ok (crowdTask n) := verifyTask_document (crowd_valid htwo hn)

/-- Each example has a rule of its own, since its one condition stays. -/
theorem crowd_rules (htwo : 2 ≤ n) (hn : n ≤ maxExamples) :
    (inducedRules (crowdTask n).toTaskBody).length = n := by
  have hshape : (crowdTask n).Shape := verifyTask_shape (crowd_verified htwo hn)
  have hkept : ∀ row ∈ crowdRows n,
      (inducedRule (crowdTask n).toTaskBody (crowdExample row)).conditions =
        [{ feature := "value", equals := .int row.2 }] := by
    intro row hrow
    have he : crowdExample row ∈ (crowdTask n).publicExamples := List.mem_map_of_mem hrow
    have hsub := kept_sublist (crowdTask n).toTaskBody (crowdExample row)
    have hne := inducedRule_conditions_ne_nil hshape he
    exact (List.sublist_singleton.mp hsub).resolve_left hne
  have hnumbers : ((crowdRows n).map fun row =>
      (inducedRule (crowdTask n).toTaskBody (crowdExample row)).conditions) =
        (List.range n).map fun i => [{ feature := "value", equals := .int i }] := by
    have hsnd : (crowdRows n).map Prod.snd = List.range n := by
      rw [crowdRows, List.zipIdx_map_snd, List.length_insertionSort, List.length_map,
        List.length_range, List.range_eq_range']
    rw [← hsnd, List.map_map]
    exact List.map_congr_left hkept
  have hdistinct : ((List.range n).map fun i : ℕ =>
      [({ feature := "value", equals := .int i } : Condition)]).Nodup := by
    refine List.nodup_range.map fun i j hij => ?_
    simpa using hij
  have hnodup :
      ((crowdTask n).publicExamples.map (inducedRule (crowdTask n).toTaskBody)).Nodup := by
    refine List.Nodup.of_map (fun rule : RuleBody => rule.conditions) ?_
    show ((((crowdRows n).map crowdExample).map _).map _).Nodup
    rw [List.map_map, List.map_map]
    exact hnumbers ▸ hdistinct
  unfold inducedRules
  rw [hnodup.dedup, List.length_map]
  exact length_crowdExamples n

theorem noon_issued : parseTime (strConst "2026-07-26T12:00:00.000000Z") "artifact created_at" =
    .ok ⟨2026, 7, 26, 12, 0, 0, 0, quotedMoment_valid⟩ := by
  decide +kernel

/-- What the miner makes of the examples of these tasks is refused beyond a number. -/
theorem crowd_made (htwo : 2 ≤ n) (hn : n ≤ maxExamples) :
    ∃ body, validateArtifactBody (crowdTask n) body =
        refuse (maxRules < n) "policy rules must be a bounded list" ∧
      inducePolicy zeroPolicies (crowdTask n) "2026-07-26T12:00:00.000000Z" =
        (validateArtifactBody (crowdTask n) body).map fun _ => body := by
  have hmade := inducePolicy_made (verifyTask_shape (crowd_verified htwo hn))
    (show 3 ≤ zeroPolicies.writeDepth by decide) noon_issued le_rfl
  rw [crowd_rules htwo hn] at hmade
  exact hmade

end Crowd

end Policy

end Cathedral.Thin
