import Cathedral.Thin.PolicyDocuments

/-!
# Cathedral.Thin.PolicyTotal — when the reference miner returns

A task may have more public examples than an artifact may have rules. The reference miner
returns exactly if the examples are of no more kinds than there may be rules, where the kind of
an example is its label with the values that decide it.
-/

namespace Cathedral.Thin

namespace Policy

/-! ## What decides an example -/

/-- The conditions that decide an example: of its values that only examples of its label share,
those that do without the first features; all of its values, if some other label shares them. -/
def Deciding (task : TaskBody) (e : Example) (conditions : List Condition) : Prop :=
  conditions.Sublist e.conditions ∧
    ((Pure task e.label conditions ∧ ∀ others : List Condition, others.Sublist e.conditions →
        Pure task e.label others →
          Before Condition.feature task.featureNames conditions others) ∨
      ((∀ others : List Condition, others.Sublist e.conditions → ¬ Pure task e.label others) ∧
        conditions = e.conditions))

/-- The examples are of no more kinds than there may be rules. -/
def FewKinds (task : TaskBody) : Prop :=
  ∃ kinds : List (String × List Condition), kinds.length ≤ maxRules ∧
    ∀ e ∈ task.publicExamples, ∃ conditions, Deciding task e conditions ∧
      (e.label, conditions) ∈ kinds

section Deciding

variable {task : TaskBody} {e : Example} {conditions : List Condition}

theorem AllMatch.sublist {few many : List Condition} {features : List (String × Scalar)}
    (h : AllMatch many features) (hsub : few.Sublist many) : AllMatch few features :=
  fun condition hcondition => h condition (hsub.subset hcondition)

/-- More of the values of an example are shared by fewer. -/
theorem pure_mono (h : task.Shape) (he : e ∈ task.publicExamples) {few many : List Condition}
    (hsub : few.Sublist many) (hmany : many.Sublist e.conditions) (hfew : Pure task e.label few) :
    Pure task e.label many := by
  obtain ⟨hne, -, hlabels⟩ := hfew
  refine ⟨?_, ?_, fun row hrow => ?_⟩
  · rintro rfl
    exact hne (List.sublist_nil.mp hsub)
  · have hself : AllMatch many e.features := (allMatch_conditions (h.keys_nodup he)).sublist hmany
    exact List.ne_nil_of_mem (mem_matchedBy.mpr ⟨he, hself⟩)
  · obtain ⟨hmem, hall⟩ := mem_matchedBy.mp hrow
    exact hlabels row (mem_matchedBy.mpr ⟨hmem, hall.sublist hsub⟩)

theorem names_conditions (h : task.Shape) (he : e ∈ task.publicExamples) :
    e.conditions.map Condition.feature = task.featureNames := by
  rw [← (h.examples e he).keys, Example.conditions, List.map_map]
  rfl

theorem names_nodup (h : task.Shape) : task.featureNames.Nodup := h.features.sorted.imp ne_of_lt

/-- The rule of an example has the conditions that decide it. -/
theorem inducedRule_deciding (h : task.Shape) (he : e ∈ task.publicExamples) :
    Deciding task e (inducedRule task e).conditions := by
  refine ⟨kept_sublist task e, ?_⟩
  by_cases hpure : ∃ others : List Condition, others.Sublist e.conditions ∧ Pure task e.label others
  · obtain ⟨others, hsub, hothers⟩ := hpure
    have hfull := pure_mono h he hsub (List.Sublist.refl _) hothers
    refine .inl ⟨prune_keeps (P := Pure task e.label) (fun _ hkept => hkept) _ hfull, ?_⟩
    intro others hsub hothers
    exact prune_before (names_nodup h) (pure_mono h he) hsub hothers
  · have hnone : ∀ others : List Condition, others.Sublist e.conditions →
        ¬ Pure task e.label others := fun others hsub hothers => hpure ⟨others, hsub, hothers⟩
    refine .inr ⟨hnone, ?_⟩
    -- no condition is dropped
    have hkept : ∀ order : List String,
        prune Condition.feature (Pure task e.label) order e.conditions = e.conditions := by
      intro order
      induction order with
      | nil => rfl
      | cons b order ih =>
        have hdrop : ¬ Pure task e.label (dropName Condition.feature b e.conditions) :=
          hnone _ (dropName_sublist b e.conditions)
        show prune _ _ order (pruneStep _ _ e.conditions b) = e.conditions
        rw [pruneStep, if_neg hdrop, ih]
    exact hkept task.featureNames

theorem deciding_unique (h : task.Shape) (he : e ∈ task.publicExamples)
    {others : List Condition} (hone : Deciding task e conditions)
    (hother : Deciding task e others) : conditions = others := by
  obtain ⟨hsub, hleast⟩ := hone
  obtain ⟨hsub', hleast'⟩ := hother
  rcases hleast with ⟨hpure, hbefore⟩ | ⟨hnone, rfl⟩
  · rcases hleast' with ⟨hpure', hbefore'⟩ | ⟨hnone', -⟩
    · have hnames := names_conditions h he
      refine eq_of_names (hnames ▸ names_nodup h) hsub hsub' fun name hname => ?_
      exact mem_iff_of_before (hbefore _ hsub' hpure') (hbefore' _ hsub hpure) (hnames ▸ hname)
    · exact absurd hpure (hnone' _ hsub)
  · rcases hleast' with ⟨hpure', -⟩ | ⟨-, rfl⟩
    · exact absurd hpure' (hnone _ hsub')
    · rfl

theorem deciding_iff (h : task.Shape) (he : e ∈ task.publicExamples) :
    Deciding task e conditions ↔ (inducedRule task e).conditions = conditions := by
  constructor
  · exact fun hdeciding => deciding_unique h he (inducedRule_deciding h he) hdeciding
  · rintro rfl
    exact inducedRule_deciding h he

/-- There are as many rules as kinds. -/
theorem fewKinds_iff (h : task.Shape) : FewKinds task ↔ (inducedRules task).length ≤ maxRules := by
  constructor
  · rintro ⟨kinds, hcount, hkinds⟩
    have hnodup : ((inducedRules task).map fun rule => (rule.decision, rule.conditions)).Nodup := by
      refine List.Nodup.map_on ?_ (List.nodup_dedup _)
      intro rule hrule rule' hrule' heq
      obtain ⟨e, he, rfl⟩ := mem_inducedRules.mp hrule
      obtain ⟨e', he', rfl⟩ := mem_inducedRules.mp hrule'
      obtain ⟨hlabel, hconditions⟩ := Prod.mk.inj heq
      exact inducedRule_eq hconditions hlabel
    have hsubset : ((inducedRules task).map fun rule => (rule.decision, rule.conditions)) ⊆
        kinds := by
      intro kind hkind
      obtain ⟨rule, hrule, rfl⟩ := List.mem_map.mp hkind
      obtain ⟨e, he, rfl⟩ := mem_inducedRules.mp hrule
      obtain ⟨conditions, hdeciding, hmem⟩ := hkinds e he
      rw [(deciding_iff h he).mp hdeciding]
      exact hmem
    have hlength := (hnodup.subperm hsubset).length_le
    rw [List.length_map] at hlength
    exact hlength.trans hcount
  · intro hcount
    refine ⟨(inducedRules task).map fun rule => (rule.decision, rule.conditions), ?_, ?_⟩
    · rw [List.length_map]
      exact hcount
    · intro e he
      refine ⟨_, inducedRule_deciding h he, List.mem_map.mpr ⟨inducedRule task e, ?_, rfl⟩⟩
      exact mem_inducedRules.mpr ⟨e, he, rfl⟩

end Deciding

/-! ## What the miner returns -/

section Returns

variable {platform : PolicyPlatform} {context : TaskContext} {raw : Bytes} {task : PolicyTask}
  {createdAt : String} {created : UtcTime}

/-- The reference miner returns a body that is accepted, exactly for the tasks whose examples
are of no more kinds than there may be rules. -/
theorem inducePolicy_returns_iff (htask : verifyTask platform context raw = .ok task)
    (hcreated : parseTime (strConst createdAt) "artifact created_at" = .ok created)
    (hlate : task.issuedAt.micros ≤ created.micros) :
    (∃ body, inducePolicy platform task createdAt = .ok body ∧
        validateArtifactBody task body = .ok ()) ↔
      FewKinds task.toTaskBody := by
  have hshape := verifyTask_shape htask
  have hdepth : 3 ≤ platform.writeDepth := (verifyTask_writeDepth htask).trans' (by decide)
  obtain ⟨body, hbody, hinduce⟩ := inducePolicy_made hshape hdepth hcreated hlate
  rw [fewKinds_iff hshape]
  constructor
  · rintro ⟨body', hreturned, -⟩
    rw [hinduce, hbody] at hreturned
    by_contra hmany
    rw [refuse, if_pos (not_le.mp hmany)] at hreturned
    cases hreturned
  · intro hfew
    have haccepted : validateArtifactBody task body = .ok () := by
      rw [hbody, refuse_eq_ok]
      exact not_lt.mpr hfew
    exact ⟨body, by rw [hinduce, haccepted]; rfl, haccepted⟩

end Returns

/-- For a verified task with one example more than there may be rules, the miner raises. -/
theorem inducePolicy_crowd :
    verifyTask zeroPolicies zeroTaskContext (dumps (.obj (crowdTerms (maxRules + 1)).document)) =
        .ok (crowdTask (maxRules + 1)) ∧
      (crowdTask (maxRules + 1)).issuedAt.micros ≤
        (⟨2026, 7, 26, 12, 0, 0, 0, quotedMoment_valid⟩ : UtcTime).micros ∧
      parseTime (strConst "2026-07-26T12:00:00.000000Z") "artifact created_at" =
        .ok ⟨2026, 7, 26, 12, 0, 0, 0, quotedMoment_valid⟩ ∧
      inducePolicy zeroPolicies (crowdTask (maxRules + 1)) "2026-07-26T12:00:00.000000Z" =
        fail "policy rules must be a bounded list" := by
  have htwo : 2 ≤ maxRules + 1 := by decide
  have hn : maxRules + 1 ≤ maxExamples := by decide
  obtain ⟨body, hbody, hinduce⟩ := crowd_made htwo hn
  refine ⟨crowd_verified htwo hn, le_rfl, noon_issued, ?_⟩
  rw [hinduce, hbody, refuse, if_pos (Nat.lt_succ_self maxRules)]
  rfl

/-- A task of two examples meets the hypotheses. -/
theorem inducePolicy_returns_pair :
    (∃ body, inducePolicy zeroPolicies (crowdTask 2) "2026-07-26T12:00:00.000000Z" = .ok body ∧
        validateArtifactBody (crowdTask 2) body = .ok ()) ∧
      FewKinds (crowdTask 2).toTaskBody := by
  have hverified := crowd_verified (n := 2) (by decide) (by decide)
  have hiff := inducePolicy_returns_iff hverified noon_issued le_rfl
  have hfew : FewKinds (crowdTask 2).toTaskBody := by
    refine (fewKinds_iff (verifyTask_shape hverified)).mpr ?_
    rw [crowd_rules (by decide) (by decide)]
    decide
  exact ⟨hiff.mpr hfew, hfew⟩

end Policy

end Cathedral.Thin
