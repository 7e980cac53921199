import Cathedral.Thin.PolicyDocuments

/-!
# Cathedral.Thin.PolicyEvidence — ratios, and the evidence for rules

`_ratio`, `_score_decimal` and `_evidence_faithfulness` of
`cathedral_thin/verified_policy.py`: the share of the rules whose support holds up.
-/

namespace Cathedral.Thin

namespace Policy

/-! ## Ratios -/

/-- `_score_decimal`; the coefficient of what `quantize` returns has at most 28 digits. -/
def scoreDecimal (value : ℚ) : Except Exc String :=
  if 10 ^ 28 ≤ |roundHalfEven (value * 10 ^ 12)| then
    .error (.other "InvalidOperation" "quantize result has too many digits")
  else canonicalDecimal (round12 value)

def ratio (numerator denominator : ℤ) : Except Exc String := do
  refuse (denominator ≤ 0 ∨ numerator < 0 ∨ denominator < numerator) "invalid score ratio"
  scoreDecimal (significant 28 (numerator / denominator))

/-- A score is written as a number of units of the last place. -/
theorem scoreDecimal_eq_ok {value : ℚ} {n : ℕ} (hround : roundHalfEven (value * 10 ^ 12) = n)
    (hn : n < 10 ^ 28) : scoreDecimal value = .ok (String.ofList (PyDecimal.text 12 n)) := by
  have hsmall : ¬ 10 ^ 28 ≤ |roundHalfEven (value * 10 ^ 12)| := by
    rw [hround, Nat.abs_cast, not_le]
    exact_mod_cast hn
  have hvalue : round12 value = decimalUnit n := by
    rw [round12, hround, decimalUnit, Int.cast_natCast]
  rw [scoreDecimal, if_neg hsmall, hvalue]
  exact canonicalDecimal_unit (hn.trans (Nat.pow_lt_pow_right (by decide) (by decide)))

/-- All of them. -/
theorem ratio_self {n : ℤ} (hn : 0 < n) : ratio n n = .ok "1" := by
  have hone : ((n : ℚ) / n) = (1 : ℕ) / 10 ^ 0 := by
    rw [div_self (by exact_mod_cast hn.ne'), Nat.cast_one, pow_zero, div_one]
  have hround : roundHalfEven (((1 : ℕ) : ℚ) / 10 ^ 0 * 10 ^ 12) = ((10 ^ 12 : ℕ) : ℤ) := by
    rw [Nat.cast_one, pow_zero, div_one, one_mul, ← roundHalfEven_intCast ((10 ^ 12 : ℕ) : ℤ)]
    norm_num
  have htext : String.ofList (PyDecimal.text 12 (10 ^ 12)) = "1" := by decide
  refine bind_eq_ok.mpr ⟨(), refuse_eq_ok.mpr (by omega), ?_⟩
  rw [hone, significant_eq_self (by decide), scoreDecimal_eq_ok hround (by decide), htext]

/-! ## Evidence -/

/-- `by_id`. -/
def exampleById (task : TaskBody) (id : String) : Option Example :=
  (Dict.ofList (task.publicExamples.map fun e => (e.exampleId, e))).get? id

/-- The support of a rule is of examples that it matches and decides as they are labelled. -/
def Evidenced (task : TaskBody) (rule : RuleBody) : Prop :=
  rule.support ≠ [] ∧ ∀ id ∈ rule.support, ∃ row ∈ exampleById task id,
    row.label = rule.decision ∧ rule.Matches row.features

instance (task : TaskBody) (rule : RuleBody) : Decidable (Evidenced task rule) :=
  inferInstanceAs (Decidable (_ ∧ _))

def evidenceFaithfulness (task : TaskBody) (artifact : PolicyArtifact) : Except Exc String :=
  if artifact.rules = [] then pure "0"
  else
    ratio (artifact.rules.countP fun rule => Evidenced task rule.toRuleBody) artifact.rules.length

theorem evidenceFaithfulness_eq_one {task : TaskBody} {artifact : PolicyArtifact}
    (hne : artifact.rules ≠ [])
    (h : ∀ rule ∈ artifact.rules, Evidenced task rule.toRuleBody) :
    evidenceFaithfulness task artifact = .ok "1" := by
  have hall : artifact.rules.countP (fun rule => Evidenced task rule.toRuleBody) =
      artifact.rules.length :=
    List.countP_eq_length.mpr fun rule hrule => decide_eq_true (h rule hrule)
  have hpos := List.length_pos_of_ne_nil hne
  unfold evidenceFaithfulness
  rw [if_neg hne, hall]
  exact ratio_self (by omega)

/-! ## The artifact of the reference miner -/

/-- An artifact decides as a body says, which is read as `verify_artifact` reads it. -/
structure PolicyArtifact.Carries (task : TaskBody) (body : Fields) (artifact : PolicyArtifact) :
    Prop where
  rules : normalizeRules task (body.get "rules") = .ok artifact.rules
  defaultLabel : identifier (body.get "default_label") "default label" = .ok artifact.defaultLabel

/-- A body that is accepted is carried by some artifact. -/
theorem exists_carries {task : PolicyTask} {body : Fields}
    (h : validateArtifactBody task body = .ok ()) :
    ∃ artifact : PolicyArtifact, artifact.Carries task.toTaskBody body := by
  obtain ⟨_, -, h⟩ := bind_eq_ok.mp h
  obtain ⟨_, -, h⟩ := bind_eq_ok.mp h
  obtain ⟨_, -, h⟩ := bind_eq_ok.mp h
  obtain ⟨created, hcreated, h⟩ := bind_eq_ok.mp h
  obtain ⟨_, -, h⟩ := bind_eq_ok.mp h
  obtain ⟨defaultLabel, hdefault, h⟩ := bind_eq_ok.mp h
  obtain ⟨_, -, h⟩ := bind_eq_ok.mp h
  obtain ⟨rules, hrules, -⟩ := bind_eq_ok.mp h
  let artifact : PolicyArtifact :=
    { artifactId := ""
      taskId := task.taskId
      minerHotkey := task.minerHotkey
      createdAt := created
      rules := rules
      defaultLabel := defaultLabel
      document := body }
  exact ⟨artifact, hrules, hdefault⟩

theorem map_toRuleBody_numbered (rules : List RuleBody) :
    (numbered rules).map Rule.toRuleBody = rules := by
  rw [numbered, List.map_map]
  exact List.zipIdx_map_fst 1 rules

section Induced

variable {platform : PolicyPlatform} {context : TaskContext} {raw : Bytes} {task : PolicyTask}
  {createdAt : String} {body : Fields} {artifact : PolicyArtifact}

/-- The rules of the artifact are those of the examples. -/
theorem induced_rules (htask : verifyTask platform context raw = .ok task)
    (hbody : inducePolicy platform task createdAt = .ok body)
    (hartifact : artifact.Carries task.toTaskBody body) {rule : RuleBody} :
    rule ∈ artifact.rules.map Rule.toRuleBody ↔
      ∃ e ∈ task.publicExamples, inducedRule task.toTaskBody e = rule := by
  have hshape := verifyTask_shape htask
  have hdepth : 3 ≤ platform.writeDepth := (verifyTask_writeDepth htask).trans' (by decide)
  obtain ⟨rules, hperm, label, -, hinduce⟩ := inducePolicy_eq hshape hdepth createdAt
  rw [hinduce] at hbody
  obtain ⟨_, -, hmade⟩ := bind_eq_ok.mp hbody
  have hread := hartifact.rules
  rw [← Except.ok.inj hmade] at hread
  rw [get_rules_artifactFields] at hread
  have hvalid : ∀ rule ∈ rules, rule.Valid task.toTaskBody := by
    intro rule hrule
    obtain ⟨e, he, rfl⟩ := mem_inducedRules.mp (hperm.subset hrule)
    exact inducedRule_valid hshape he
  have hcount : rules.length ≤ maxRules := by
    obtain ⟨_, hcount, -⟩ := bind_eq_ok.mp hread
    rw [refuse_eq_ok, not_lt, List.length_map, List.length_zipIdx] at hcount
    exact hcount
  have hrules := (normalizeRules_ruleDocument hvalid hcount).symm.trans hread
  rw [← Except.ok.inj hrules, map_toRuleBody_numbered, hperm.mem_iff, mem_inducedRules]

theorem exampleById_of_mem (htask : verifyTask platform context raw = .ok task) {e : Example}
    (he : e ∈ task.publicExamples) : exampleById task.toTaskBody e.exampleId = some e := by
  refine Dict.get?_ofList_of_mem ?_ (List.mem_map_of_mem he)
  rw [List.map_map]
  exact (verifyTask_shape htask).ids_sorted.imp ne_of_lt

/-- On examples that agree with one another, the artifact of the reference miner decides
each as it is labelled, by rules that have evidence and match no example of another label. -/
theorem induced_decides (htask : verifyTask platform context raw = .ok task)
    (hconsistent : Consistent task.toTaskBody)
    (hbody : inducePolicy platform task createdAt = .ok body)
    (hartifact : artifact.Carries task.toTaskBody body) :
    (∀ e ∈ task.publicExamples, predict artifact e.features = e.label) ∧
      (∀ rule ∈ artifact.rules, rule.support ≠ [] ∧ ∀ id ∈ rule.support,
        ∃ row ∈ task.publicExamples, row.exampleId = id ∧ row.label = rule.decision ∧
          rule.Matches row.features) ∧
      evidenceFaithfulness task.toTaskBody artifact = .ok "1" ∧
      ∀ rule ∈ artifact.rules, ∀ row ∈ task.publicExamples, rule.Matches row.features →
        row.label = rule.decision := by
  have hshape := verifyTask_shape htask
  have hinduced : ∀ rule ∈ artifact.rules, ∃ e ∈ task.publicExamples,
      inducedRule task.toTaskBody e = rule.toRuleBody := fun rule hrule =>
    (induced_rules htask hbody hartifact).mp (List.mem_map_of_mem hrule)
  have hpure : ∀ rule ∈ artifact.rules, ∀ row ∈ task.publicExamples,
      rule.Matches row.features → row.label = rule.decision := by
    intro rule hrule row hrow hmatches
    obtain ⟨e, he, heq⟩ := hinduced rule hrule
    rw [← heq] at hmatches ⊢
    exact inducedRule_pure hshape hconsistent he hrow hmatches
  have hsupport : ∀ rule ∈ artifact.rules, rule.support ≠ [] ∧ ∀ id ∈ rule.support,
      ∃ row ∈ task.publicExamples, row.exampleId = id ∧ row.label = rule.decision ∧
        rule.Matches row.features := by
    intro rule hrule
    obtain ⟨e, he, heq⟩ := hinduced rule hrule
    rw [← heq]
    constructor
    · exact List.ne_nil_of_mem (mem_support.mpr ⟨e, he, inducedRule_matches hshape he, rfl, rfl⟩)
    · intro id hid
      obtain ⟨row, hrow, hmatches, hlabel, hname⟩ := mem_support.mp hid
      exact ⟨row, hrow, hname, hlabel, hmatches⟩
  -- the rule of an example is among those of the artifact
  have howner : ∀ e ∈ task.publicExamples, ∃ rule ∈ artifact.rules, rule.Matches e.features := by
    intro e he
    obtain ⟨rule, hrule, heq⟩ :=
      List.mem_map.mp ((induced_rules htask hbody hartifact).mpr ⟨e, he, rfl⟩)
    exact ⟨rule, hrule, heq ▸ inducedRule_matches hshape he⟩
  refine ⟨?_, hsupport, ?_, hpure⟩
  · intro e he
    unfold predict
    split
    · rename_i rule hfind
      have hmatches := List.find?_some hfind
      exact (hpure rule (List.mem_of_find?_eq_some hfind) e he (of_decide_eq_true hmatches)).symm
    · rename_i hfind
      obtain ⟨rule, hrule, hmatches⟩ := howner e he
      exact absurd (decide_eq_true hmatches) (List.find?_eq_none.mp hfind rule hrule)
  · refine evidenceFaithfulness_eq_one ?_ fun rule hrule => ?_
    · obtain ⟨e, he⟩ : ∃ e, e ∈ task.publicExamples :=
        List.exists_mem_of_length_pos (by have hcount := hshape.examples_count.1; omega)
      obtain ⟨rule, hrule, -⟩ := howner e he
      exact List.ne_nil_of_mem hrule
    · obtain ⟨hne, hall⟩ := hsupport rule hrule
      refine ⟨hne, fun id hid => ?_⟩
      obtain ⟨row, hrow, rfl, hlabel, hmatches⟩ := hall id hid
      exact ⟨row, exampleById_of_mem htask hrow, hlabel, hmatches⟩

end Induced

theorem crowd_consistent (n : ℕ) : Consistent (crowdTask n).toTaskBody := by
  intro a ha b hb hfeatures
  obtain ⟨row, -, rfl⟩ := List.mem_map.mp ha
  obtain ⟨row', -, rfl⟩ := List.mem_map.mp hb
  have hvalue : row.2 = row'.2 := by
    simpa [crowdExample] using hfeatures
  simp only [crowdExample, hvalue]

/-- A task of two examples meets the hypotheses. -/
theorem induced_decides_pair : ∃ body artifact,
    inducePolicy zeroPolicies (crowdTask 2) "2026-07-26T12:00:00.000000Z" = .ok body ∧
      artifact.Carries (crowdTask 2).toTaskBody body ∧
      ∀ e ∈ (crowdTask 2).publicExamples, predict artifact e.features = e.label := by
  obtain ⟨body, hbody, hinduce⟩ := crowd_made (n := 2) (by decide) (by decide)
  have haccepted : validateArtifactBody (crowdTask 2) body = .ok () := by
    rw [hbody]
    decide
  rw [haccepted] at hinduce
  obtain ⟨artifact, hartifact⟩ := exists_carries haccepted
  have hverified := crowd_verified (n := 2) (by decide) (by decide)
  exact ⟨body, artifact, hinduce, hartifact,
    (induced_decides hverified (crowd_consistent 2) hinduce hartifact).1⟩

end Policy

end Cathedral.Thin
