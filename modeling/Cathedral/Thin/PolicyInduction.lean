import Cathedral.Thin.PolicyArtifacts

/-!
# Cathedral.Thin.PolicyInduction — what the reference miner returns

The rules that `induce_policy` makes of the public examples of a verified task, one for
each example, each kept once.
-/

namespace Cathedral.Thin

namespace Policy

/-! ## One rule -/

/-- All conditions that an example meets. -/
def Example.conditions (e : Example) : List Condition :=
  e.features.map fun feature => { feature := feature.1, equals := feature.2 }

/-- The rule that the miner makes of an example. -/
def inducedRule (task : TaskBody) (e : Example) : RuleBody := ruleFor task e e.conditions

/-- Examples of equal features have one label. -/
def Consistent (task : TaskBody) : Prop :=
  ∀ a ∈ task.publicExamples, ∀ b ∈ task.publicExamples, a.features = b.features →
    a.label = b.label

section Rule

variable {task : TaskBody} {e row : Example}

theorem TaskBody.Shape.keys_nodup (h : task.Shape) (he : e ∈ task.publicExamples) :
    (e.features.map Prod.fst).Nodup := by
  rw [(h.examples e he).keys]
  exact h.features.sorted.imp ne_of_lt

theorem allMatch_conditions (hnodup : (e.features.map Prod.fst).Nodup) :
    AllMatch e.conditions e.features := by
  intro condition hcondition
  obtain ⟨feature, hfeature, rfl⟩ := List.mem_map.mp hcondition
  exact (lookup_eq_some_iff_mem hnodup).mpr hfeature

/-- Items under the same keys that are looked up in one another are the same. -/
theorem eq_of_lookup {α β : Type} [BEq α] [LawfulBEq α] : ∀ {l l' : List (α × β)},
    l.map Prod.fst = l'.map Prod.fst → (l'.map Prod.fst).Nodup →
    (∀ m ∈ l', l.lookup m.1 = some m.2) → l = l'
  | [], [], _, _, _ => rfl
  | m :: l, m' :: l', hkeys, hnodup, h => by
    obtain ⟨hkey, hrest⟩ := List.cons_eq_cons.mp hkeys
    obtain ⟨hfresh, hnodup'⟩ := List.nodup_cons.mp hnodup
    have hm : m = m' := by
      have hlookup := h m' List.mem_cons_self
      rw [← hkey, List.lookup_cons_self] at hlookup
      exact Prod.ext hkey (Option.some.inj hlookup)
    have htail : ∀ n ∈ l', l.lookup n.1 = some n.2 := by
      intro n hn
      have hne : (n.1 == m.1) = false := by
        refine beq_false_of_ne fun heq => hfresh ?_
        rw [← hkey, ← heq]
        exact List.mem_map_of_mem hn
      have hlookup := h n (List.mem_cons_of_mem m' hn)
      rwa [List.lookup_cons, hne] at hlookup
    rw [hm, eq_of_lookup hrest hnodup' htail]
  | [], _ :: _, hkeys, _, _ => by cases hkeys
  | _ :: _, [], hkeys, _, _ => by cases hkeys

/-- Only examples of the same features meet all conditions. -/
theorem features_eq_of_allMatch (hnodup : (e.features.map Prod.fst).Nodup)
    (hkeys : row.features.map Prod.fst = e.features.map Prod.fst)
    (h : AllMatch e.conditions row.features) : row.features = e.features :=
  eq_of_lookup hkeys hnodup fun _ hfeature => h _ (List.mem_map_of_mem hfeature)

theorem fullConditions_eq_ok (h : task.Shape) (he : e ∈ task.publicExamples) :
    fullConditions task e = .ok e.conditions := by
  have hnodup := h.keys_nodup he
  unfold fullConditions
  rw [← (h.examples e he).keys, mapM_eq_ok, List.forall₂_map_left_iff, Example.conditions,
    List.forall₂_map_right_iff, List.forall₂_same]
  intro feature hfeature
  rw [(lookup_eq_some_iff_mem hnodup).mpr hfeature]
  rfl

/-- The conditions that are kept are among those that the example meets. -/
theorem kept_sublist (task : TaskBody) (e : Example) :
    (inducedRule task e).conditions.Sublist e.conditions := prune_sublist _ _

theorem inducedRule_matches (h : task.Shape) (he : e ∈ task.publicExamples) :
    (inducedRule task e).Matches e.features := fun condition hcondition =>
  allMatch_conditions (h.keys_nodup he) condition ((kept_sublist task e).subset hcondition)

theorem conditions_ne_nil (h : task.Shape) (he : e ∈ task.publicExamples) : e.conditions ≠ [] := by
  intro hnil
  have hkeys := congrArg List.length (h.examples e he).keys
  have hlength := congrArg List.length hnil
  have hcount := h.features_count.1
  simp only [Example.conditions, List.length_map, List.length_nil] at hkeys hlength
  omega

theorem inducedRule_conditions_ne_nil (h : task.Shape) (he : e ∈ task.publicExamples) :
    (inducedRule task e).conditions ≠ [] :=
  prune_keeps (P := fun kept => kept ≠ []) (fun _ hpure => hpure.1) _ (conditions_ne_nil h he)

theorem mem_matchedBy {conditions : List Condition} :
    row ∈ matchedBy task conditions ↔
      row ∈ task.publicExamples ∧ AllMatch conditions row.features := by
  unfold matchedBy
  rw [List.mem_filter, decide_eq_true_iff]

/-- The rule that an example gives matches only examples of its label. -/
theorem inducedRule_pure (h : task.Shape) (hconsistent : Consistent task)
    (he : e ∈ task.publicExamples) (hrow : row ∈ task.publicExamples)
    (hmatches : (inducedRule task e).Matches row.features) : row.label = e.label := by
  have hfull : Pure task e.label e.conditions := by
    have hself : e ∈ matchedBy task e.conditions :=
      mem_matchedBy.mpr ⟨he, allMatch_conditions (h.keys_nodup he)⟩
    refine ⟨conditions_ne_nil h he, List.ne_nil_of_mem hself, fun other hother => ?_⟩
    obtain ⟨hmem, hall⟩ := mem_matchedBy.mp hother
    refine hconsistent other hmem e he (features_eq_of_allMatch (h.keys_nodup he) ?_ hall)
    rw [(h.examples other hmem).keys, (h.examples e he).keys]
  have hpure : Pure task e.label (inducedRule task e).conditions :=
    prune_keeps (P := Pure task e.label) (fun _ hpure => hpure) _ hfull
  exact hpure.2.2 row (mem_matchedBy.mpr ⟨hrow, hmatches⟩)

/-- The examples that support a rule are those of its label that it matches. -/
theorem mem_support {id : String} :
    id ∈ (inducedRule task e).support ↔ ∃ row ∈ task.publicExamples,
      (inducedRule task e).Matches row.features ∧ row.label = e.label ∧ row.exampleId = id := by
  have hperm := List.perm_insertionSort (· ≤ ·)
    (((matchedBy task (inducedRule task e).conditions).filter fun row => row.label = e.label).map
      Example.exampleId)
  refine hperm.mem_iff.trans ?_
  simp only [List.mem_map, List.mem_filter, mem_matchedBy, decide_eq_true_iff, and_assoc]
  rfl

/-- The support needs no sorting, since the examples come in the order of their ids. -/
theorem support_eq (h : task.Shape) : (inducedRule task e).support =
    ((matchedBy task (inducedRule task e).conditions).filter fun row => row.label = e.label).map
      Example.exampleId := by
  refine List.Pairwise.insertionSort_eq ?_
  have hids : (((matchedBy task (inducedRule task e).conditions).filter fun row =>
      row.label = e.label).map Example.exampleId).Pairwise (· < ·) :=
    h.ids_sorted.sublist ((List.filter_sublist.trans List.filter_sublist).map _)
  exact hids.imp le_of_lt

theorem inducedRule_valid (h : task.Shape) (he : e ∈ task.publicExamples) :
    (inducedRule task e).Valid task := by
  have hkept := kept_sublist task e
  have hkeys : e.conditions.map Condition.feature = task.featureNames := by
    rw [← (h.examples e he).keys, Example.conditions, List.map_map]
    rfl
  have hfeature : ∀ condition ∈ (inducedRule task e).conditions,
      condition.feature ∈ task.featureNames := by
    intro condition hcondition
    rw [← hkeys]
    exact List.mem_map_of_mem (hkept.subset hcondition)
  have hcount : (inducedRule task e).conditions.length ≤ maxConditions := by
    have hlength := congrArg List.length hkeys
    rw [List.length_map] at hlength
    exact hkept.length_le.trans (hlength.le.trans h.features_count.2)
  refine ⟨⟨List.length_pos_of_ne_nil (inducedRule_conditions_ne_nil h he), hcount⟩, ?_, hfeature,
    fun condition hcondition => h.features.identifiers _ (hfeature condition hcondition), ?_,
    h.labels.identifiers _ (h.examples e he).label_mem, (h.examples e he).label_mem, ?_, ?_, ?_⟩
  · exact (hkeys ▸ h.features.sorted).sublist (hkept.map _)
  · intro condition hcondition
    obtain ⟨feature, hmem, rfl⟩ := List.mem_map.mp (hkept.subset hcondition)
    exact (h.examples e he).bounded feature hmem
  · rw [support_eq h, List.length_map]
    exact (List.length_filter_le _ _).trans ((List.length_filter_le _ _).trans h.examples_count.2)
  · intro id hid
    obtain ⟨row, hrow, -, -, rfl⟩ := mem_support.mp hid
    exact (h.examples row hrow).identifier
  · rw [support_eq h]
    exact h.ids_sorted.sublist ((List.filter_sublist.trans List.filter_sublist).map _)

end Rule

/-! ## Rules and their documents -/

section Documents

variable {task : TaskBody}

theorem inRange_of_bounded {n : ℤ} (h : (Scalar.int n).Bounded) : InRange n := by
  have hle := abs_le.mp h
  constructor <;> omega

theorem writable_scalar {depth : ℕ} {s : Scalar} (h : s.Bounded) : Writable depth s.document := by
  cases s with
  | bool b => exact .bool b
  | int n => exact .num (inRange_of_bounded h)
  | str text => exact wf_strConst text

theorem writable_condition {condition : Condition} (h : condition.equals.Bounded) :
    Writable 1 condition.document := by
  refine writable_ofList (by simp) ?_
  simp only [List.mem_cons, List.not_mem_nil, or_false, forall_eq_or_imp, forall_eq]
  exact ⟨wf_strConst _, writable_scalar h⟩

theorem writable_conditions {conditions : List Condition}
    (h : ∀ condition ∈ conditions, condition.equals.Bounded) :
    Writable 2 (conditionsDocument conditions) := by
  refine .arr fun item hitem => ?_
  obtain ⟨condition, hcondition, rfl⟩ := List.mem_map.mp hitem
  exact writable_condition (h condition hcondition)

theorem writable_keyDocument {rule : RuleBody} (h : rule.Valid task) :
    Writable 3 rule.keyDocument := by
  refine writable_ofList (by simp) ?_
  simp only [List.mem_cons, List.not_mem_nil, or_false, forall_eq_or_imp, forall_eq]
  exact ⟨writable_conditions h.bounded, wf_strConst _⟩

theorem writable_members {rule : RuleBody} (h : rule.Valid task) :
    Writable 3 (.obj (Fields.ofList rule.members)) := by
  refine writable_ofList (by simp [RuleBody.members]) ?_
  simp only [RuleBody.members, List.mem_cons, List.not_mem_nil, or_false, forall_eq_or_imp,
    forall_eq]
  refine ⟨writable_conditions h.bounded, wf_strConst _, .arr fun item hitem => ?_⟩
  obtain ⟨id, -, rfl⟩ := List.mem_map.mp hitem
  exact wf_strConst id

theorem scalar_document_injective {a b : Scalar} (h : a.document.sorted = b.document.sorted) :
    a = b := by
  cases a <;> cases b <;> simp_all [Scalar.document, strConst, Json.sorted]
  exact PyStr.ofString_injective h

theorem condition_eq_of_sorted {a b : Condition} (ha : a.equals.Bounded) (hb : b.equals.Bounded)
    (h : a.document.sorted = b.document.sorted) : a = b := by
  have hbytes : dumps a.document = dumps b.document :=
    (dumps_sorted (writable_condition ha)).symm.trans
      ((congrArg dumps h).trans (dumps_sorted (writable_condition hb)))
  have hget := get_of_dumps_eq (writable_condition ha) (writable_condition hb) hbytes
  have hne : ("equals" == "feature") = false := by decide
  have hfeature := hget "feature"
  have hequals := hget "equals"
  simp only [get_ofList, List.lookup_cons_self, Option.getD_some, strConst, Json.sorted,
    Json.str.injEq] at hfeature
  simp only [get_ofList, List.lookup_cons, hne, BEq.rfl, Option.getD_some] at hequals
  exact Condition.ext (PyStr.ofString_injective hfeature) (scalar_document_injective hequals)

theorem eq_of_map_eq {α β : Type} {f : α → β} : ∀ {l l' : List α},
    (∀ a ∈ l, ∀ b ∈ l', f a = f b → a = b) → l.map f = l'.map f → l = l'
  | [], [], _, _ => rfl
  | a :: l, b :: l', hinj, h => by
    obtain ⟨hab, hrest⟩ := List.cons_eq_cons.mp h
    rw [hinj a List.mem_cons_self b List.mem_cons_self hab, eq_of_map_eq (fun c hc d hd =>
      hinj c (List.mem_cons_of_mem a hc) d (List.mem_cons_of_mem b hd)) hrest]
  | [], _ :: _, _, h => by cases h
  | _ :: _, [], _, h => by cases h

/-- A rule's key document gives its conditions and its decision. -/
theorem eq_of_keyDocument {a b : RuleBody} (ha : a.Valid task) (hb : b.Valid task)
    (h : dumps a.keyDocument = dumps b.keyDocument) :
    a.conditions = b.conditions ∧ a.decision = b.decision := by
  have hget := get_of_dumps_eq (writable_keyDocument ha) (writable_keyDocument hb) h
  have hne : ("then" == "when") = false := by decide
  have hwhen := hget "when"
  have hthen := hget "then"
  simp only [get_ofList, List.lookup_cons_self, Option.getD_some, conditionsDocument, Json.sorted,
    Json.arr.injEq, Json.sortedItems_eq_map, List.map_map] at hwhen
  simp only [get_ofList, List.lookup_cons, hne, BEq.rfl, Option.getD_some, strConst, Json.sorted,
    Json.str.injEq] at hthen
  exact ⟨eq_of_map_eq (fun c hc d hd => condition_eq_of_sorted (ha.bounded c hc) (hb.bounded d hd))
    hwhen, PyStr.ofString_injective hthen⟩

end Documents

/-! ## All rules -/

section Induce

variable {platform : PolicyPlatform} {task : TaskBody}

/-- The rules of the examples, each once. -/
def inducedRules (task : TaskBody) : List RuleBody :=
  (task.publicExamples.map (inducedRule task)).dedup

theorem mem_inducedRules {rule : RuleBody} :
    rule ∈ inducedRules task ↔ ∃ e ∈ task.publicExamples, inducedRule task e = rule := by
  unfold inducedRules
  rw [List.mem_dedup, List.mem_map]

/-- Conditions and decision determine a rule that the miner makes. -/
theorem inducedRule_eq {a b : Example}
    (hconditions : (inducedRule task a).conditions = (inducedRule task b).conditions)
    (hdecision : a.label = b.label) : inducedRule task a = inducedRule task b := by
  have hrule : ∀ e, inducedRule task e = RuleBody.mk (inducedRule task e).conditions e.label
      ((((matchedBy task (inducedRule task e).conditions).filter fun row =>
        row.label = e.label).map Example.exampleId).insertionSort (· ≤ ·)) := fun _ => rfl
  rw [hrule a, hrule b, hconditions, hdecision]

theorem inducedRule_eq_of_key (h : task.Shape) {a b : Example} (ha : a ∈ task.publicExamples)
    (hb : b ∈ task.publicExamples) (hkey : dumps (inducedRule task a).keyDocument =
      dumps (inducedRule task b).keyDocument) : inducedRule task a = inducedRule task b := by
  obtain ⟨hconditions, hdecision⟩ :=
    eq_of_keyDocument (inducedRule_valid h ha) (inducedRule_valid h hb) hkey
  exact inducedRule_eq hconditions hdecision

/-- The candidates of the examples under their keys. -/
def keyedRules (task : TaskBody) : Dict Bytes RuleBody :=
  Dict.ofList (task.publicExamples.map fun e =>
    (dumps (inducedRule task e).keyDocument, inducedRule task e))

theorem candidatesOf_eq_ok (h : task.Shape) (hdepth : 3 ≤ platform.writeDepth) :
    candidatesOf platform task = .ok (keyedRules task) := by
  have hpairs : ∀ e ∈ task.publicExamples,
      (do
        let conditions ← fullConditions task e
        let rule := ruleFor task e conditions
        let key ← canonicalJson platform.toPlatform rule.keyDocument
        pure (key, rule) : Except Exc (Bytes × RuleBody)) =
      .ok (dumps (inducedRule task e).keyDocument, inducedRule task e) := fun e he =>
    bind_eq_ok.mpr ⟨e.conditions, fullConditions_eq_ok h he, bind_eq_ok.mpr
      ⟨_, canonicalJson_writable (writable_keyDocument (inducedRule_valid h he)) hdepth, rfl⟩⟩
  refine bind_eq_ok.mpr ⟨_, ?_, rfl⟩
  rw [mapM_eq_ok, List.forall₂_map_right_iff, List.forall₂_same]
  exact hpairs

theorem keyedRules_item {item : Bytes × RuleBody} (hitem : item ∈ (keyedRules task).items) :
    ∃ e ∈ task.publicExamples,
      item = (dumps (inducedRule task e).keyDocument, inducedRule task e) := by
  obtain ⟨e, he, heq⟩ := List.mem_map.mp (Dict.mem_of_get?_ofList (Dict.mem_items.mp hitem))
  exact ⟨e, he, heq.symm⟩

theorem mem_values_keyedRules (h : task.Shape) {rule : RuleBody} :
    rule ∈ (keyedRules task).values ↔ rule ∈ inducedRules task := by
  rw [mem_inducedRules, Dict.values, List.mem_map]
  constructor
  · rintro ⟨item, hitem, rfl⟩
    obtain ⟨e, he, rfl⟩ := keyedRules_item hitem
    exact ⟨e, he, rfl⟩
  · rintro ⟨e, he, rfl⟩
    have hkey : dumps (inducedRule task e).keyDocument ∈ (keyedRules task).keys :=
      Dict.mem_keys_ofList.mpr (List.mem_map.mpr ⟨_, List.mem_map_of_mem he, rfl⟩)
    obtain ⟨rule, hrule⟩ := Dict.mem_keys.mp hkey
    have hitem := Dict.mem_items.mpr hrule
    obtain ⟨e', he', heq⟩ := keyedRules_item hitem
    obtain ⟨hkey', rfl⟩ := Prod.mk.inj heq
    exact ⟨_, hitem, inducedRule_eq_of_key h he' he hkey'.symm⟩

/-- The candidates are the rules, each once. -/
theorem keyedRules_perm (h : task.Shape) : (keyedRules task).values.Perm (inducedRules task) := by
  have hnodup : (keyedRules task).values.Nodup := by
    -- a key is made of the rule under it
    have hkeys : (keyedRules task).keys =
        (keyedRules task).values.map fun rule => dumps rule.keyDocument := by
      rw [Dict.keys, Dict.values, List.map_map]
      refine List.map_congr_left fun item hitem => ?_
      obtain ⟨e, -, rfl⟩ := keyedRules_item hitem
      rfl
    have hdistinct : (keyedRules task).keys.Nodup := (keyedRules task).nodup
    rw [hkeys] at hdistinct
    exact hdistinct.of_map
  exact (List.perm_ext_iff_of_nodup hnodup (List.nodup_dedup _)).mpr fun rule =>
    mem_values_keyedRules h

/-- The rules in the order in which the artifact has them. -/
theorem keyed_eq_ok (hdepth : 3 ≤ platform.writeDepth) {rules : List RuleBody}
    (hrules : ∀ rule ∈ rules, rule.Valid task) :
    rules.mapM (orderOf platform task) = .ok (rules.map fun rule =>
      ({ rank := if rule.decision ∈ task.rareLabels then 0 else 1
         terms := rule.conditions.length
         bytes := dumps (.obj (Fields.ofList rule.members)) }, rule)) := by
  rw [mapM_eq_ok, List.forall₂_map_right_iff, List.forall₂_same]
  intro rule hrule
  exact bind_eq_ok.mpr
    ⟨_, canonicalJson_writable (writable_members (hrules rule hrule)) hdepth, rfl⟩

/-- The default label is one of the labels. -/
theorem defaultLabelOf_eq_ok (h : task.Shape) :
    ∃ label ∈ task.labels, defaultLabelOf task = .ok label := by
  have hlabels := h.labels_count.1
  unfold defaultLabelOf
  cases hsorted : task.labels.insertionSort (CommonerLabel task) with
  | nil =>
    have hlength := (List.perm_insertionSort (CommonerLabel task) task.labels).length_eq
    rw [hsorted, List.length_nil] at hlength
    omega
  | cons label rest =>
    refine ⟨label, (List.perm_insertionSort (CommonerLabel task) task.labels).subset ?_, rfl⟩
    rw [hsorted]
    exact List.mem_cons_self

/-- The artifact has the rules of the examples, each once, in some order. -/
theorem inducePolicy_eq {task : PolicyTask} (h : task.Shape) (hdepth : 3 ≤ platform.writeDepth)
    (createdAt : String) :
    ∃ rules : List RuleBody, rules.Perm (inducedRules task.toTaskBody) ∧
      ∃ label ∈ task.labels, inducePolicy platform task createdAt =
        makeArtifact task ((rules.zipIdx 1).map fun row => ruleDocument row.1 row.2) label
          createdAt := by
  have hvalid : ∀ rule ∈ (keyedRules task.toTaskBody).values, rule.Valid task.toTaskBody := by
    intro rule hrule
    obtain ⟨e, he, rfl⟩ := mem_inducedRules.mp ((mem_values_keyedRules h).mp hrule)
    exact inducedRule_valid h he
  obtain ⟨label, hlabel, hdefault⟩ := defaultLabelOf_eq_ok h
  have hkeyed := keyed_eq_ok hdepth hvalid
  generalize hpairs : (keyedRules task.toTaskBody).values.map _ = pairs at hkeyed
  refine ⟨(pairs.insertionSort fun a b => a.1.Le b.1).map Prod.snd, ?_, label, hlabel, ?_⟩
  · have hperm := (List.perm_insertionSort (fun a b => a.1.Le b.1) pairs).map Prod.snd
    have hvalues : pairs.map Prod.snd = (keyedRules task.toTaskBody).values := by
      rw [← hpairs, List.map_map]
      exact List.map_id _
    rw [hvalues] at hperm
    exact hperm.trans (keyedRules_perm h)
  · have hunfold : inducePolicy platform task createdAt =
        ((keyedRules task.toTaskBody).values.mapM (orderOf platform task.toTaskBody) >>=
          fun keyed => defaultLabelOf task.toTaskBody >>= fun label =>
            makeArtifact task (((((keyed.insertionSort fun a b => a.1.Le b.1).map Prod.snd).zipIdx
              1).map fun row => ruleDocument row.1 row.2)) label createdAt) := by
      rw [inducePolicy, candidatesOf_eq_ok h hdepth]
      rfl
    rw [hunfold, hkeyed, hdefault]
    rfl

/-- The miner's artifact is refused for its number of rules, and for nothing else. -/
theorem inducePolicy_made {task : PolicyTask} {createdAt : String} {created : UtcTime}
    (h : task.Shape) (hdepth : 3 ≤ platform.writeDepth)
    (hcreated : parseTime (strConst createdAt) "artifact created_at" = .ok created)
    (hlate : task.issuedAt.micros ≤ created.micros) :
    ∃ body, validateArtifactBody task body = refuse
        (maxRules < (inducedRules task.toTaskBody).length) "policy rules must be a bounded list" ∧
      inducePolicy platform task createdAt =
        (validateArtifactBody task body).map fun _ => body := by
  obtain ⟨rules, hperm, label, hlabel, hinduce⟩ := inducePolicy_eq h hdepth createdAt
  have hvalid : ∀ rule ∈ rules, rule.Valid task.toTaskBody := by
    intro rule hrule
    obtain ⟨e, he, rfl⟩ := mem_inducedRules.mp (hperm.subset hrule)
    exact inducedRule_valid h he
  have hmade := validateArtifactBody_made hvalid (h.labels.identifiers label hlabel) hlabel
    hcreated hlate
  rw [hperm.length_eq] at hmade
  exact ⟨_, hmade, hinduce.trans makeArtifact_eq⟩

end Induce

end Policy

end Cathedral.Thin
