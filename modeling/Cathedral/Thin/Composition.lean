import Cathedral.Thin.ScoreClasses

/-!
# Cathedral.Thin.Composition — what a composed vector distributes

`compose_class_decisions` adds allocation-weighted class weights up in one
dictionary, sends the allocation of an empty class to the burn hotkey, and
normalises the result. Its specification is the allocation-weighted sum of the
class shares:

* `classShare` — what one class gives a hotkey, the whole unit going to the
  burn hotkey when the class is empty;
* `composeClassDecisions_ok` — when the composition returns, and that what it
  returns is `Σ allocation * classShare` for every set of hotkeys.

Over it stands the account by coldkey: each class gives a coldkey its peak
score over the sum of all peaks, whatever the number of its hotkeys.
-/

namespace Cathedral.Thin

open Share

/-! ## Class shares -/

/-- The part of a class's unit that goes to the hotkeys satisfying `p`. -/
def classPart (burnHotkey : Option String) (weights : Dict String ℚ) (p : String → Prop)
    [DecidablePred p] : ℚ :=
  if weights.isEmpty then
    match burnHotkey with
    | none => 0
    | some burn => if p burn then 1 else 0
  else weights.sumOn p

/-- The part of a class's unit that goes to one hotkey. -/
def classShare (burnHotkey : Option String) (weights : Dict String ℚ) (hotkey : String) : ℚ :=
  if weights.isEmpty then if burnHotkey = some hotkey then 1 else 0
  else weights.getD hotkey 0

theorem classPart_eq_classShare (burnHotkey : Option String) (weights : Dict String ℚ)
    (hotkey : String) :
    classPart burnHotkey weights (fun hk => hk = hotkey) =
      classShare burnHotkey weights hotkey := by
  simp only [classPart, classShare, Dict.sumOn_eq]
  cases burnHotkey <;> simp

/-- Weights as the collapse returns them: empty, or positive with sum one. -/
def WellNormalized (weights : Dict String ℚ) : Prop :=
  (∀ hk w, weights.get? hk = some w → 0 < w) ∧ (weights.isEmpty = false → weights.total = 1)

theorem wellNormalized_empty : WellNormalized ∅ :=
  ⟨fun _ _ h => (by cases h), fun h => (by cases h)⟩

theorem classPart_true {burnHotkey : Option String} {weights : Dict String ℚ}
    (h : WellNormalized weights) (hburn : weights.isEmpty = true → burnHotkey.isSome) :
    classPart burnHotkey weights (fun _ => True) = 1 := by
  unfold classPart
  split_ifs with hempty
  · obtain ⟨burn, rfl⟩ := Option.isSome_iff_exists.mp (hburn hempty)
    simp
  · rw [Dict.sumOn_true]
    exact h.2 (by simpa using hempty)

/-! ## The loops of the composition -/

/-- The class loop accepts a class: its decision has the right kind, and it
either is empty with a burn destination or keeps clear of the burn hotkey. -/
structure ClassAccepted (burnHotkey : Option String) (kind : ClassKind)
    (decision : ClassDecision) : Prop where
  kind_eq : decision.kind = kind
  burn_of_empty : decision.normalizedWeights.isEmpty = true → burnHotkey.isSome
  burn_absent : ∀ burn ∈ burnHotkey, decision.normalizedWeights.get? burn = none

theorem addClassWeights_foldlM (burnHotkey : Option String) (allocation : ℚ)
    (items : List (String × ℚ)) (final : Dict String ℚ) :
    (∀ burn ∈ burnHotkey, burn ∉ items.map Prod.fst) ∧
        items.foldlM (addClassWeights burnHotkey allocation) final =
          .ok (items.foldl (fun d kv => d.add kv.1 (allocation * kv.2)) final) ∨
      (∃ burn ∈ burnHotkey, burn ∈ items.map Prod.fst) ∧
        items.foldlM (addClassWeights burnHotkey allocation) final =
          .error (.thinSubnetError "burn hotkey cannot earn validated supply") := by
  induction items generalizing final with
  | nil =>
    left
    exact ⟨by simp, rfl⟩
  | cons kv rest ih =>
    rw [List.foldlM_cons]
    by_cases hburn : burnHotkey = some kv.1
    · right
      exact ⟨⟨kv.1, hburn, by simp⟩, by simp [addClassWeights, hburn, fail, bind, Except.bind]⟩
    · have hstep : addClassWeights burnHotkey allocation final kv =
          .ok (final.add kv.1 (allocation * kv.2)) := by
        simp [addClassWeights, hburn, pure, Except.pure]
      rw [hstep]
      rcases ih (final.add kv.1 (allocation * kv.2)) with ⟨habsent, heq⟩ | ⟨hpresent, heq⟩
      · left
        refine ⟨fun burn hb => ?_, heq⟩
        rw [List.map_cons, List.mem_cons, not_or]
        exact ⟨fun h => hburn (by rw [← h]; exact hb), habsent burn hb⟩
      · right
        obtain ⟨burn, hb, hmem⟩ := hpresent
        exact ⟨⟨burn, hb, List.mem_cons_of_mem _ hmem⟩, heq⟩

/-- What one class adds to the accumulator. -/
def addClass (burnHotkey : Option String) (allocation : ℚ) (weights final : Dict String ℚ) :
    Dict String ℚ :=
  if weights.isEmpty then
    match burnHotkey with
    | none => final
    | some burn => final.add burn allocation
  else weights.items.foldl (fun d kv => d.add kv.1 (allocation * kv.2)) final

theorem addClass_sumOn (burnHotkey : Option String) (allocation : ℚ)
    (weights final : Dict String ℚ) (p : String → Prop) [DecidablePred p] :
    (addClass burnHotkey allocation weights final).sumOn p =
      final.sumOn p + allocation * classPart burnHotkey weights p := by
  unfold addClass classPart
  split_ifs with hempty
  · cases burnHotkey with
    | none => simp
    | some burn =>
      rw [Dict.sumOn_add]
      by_cases hp : p burn <;> simp [hp]
  · rw [Dict.sumOn_foldl_add, List.sum_map_mul_left]
    rfl

theorem addClass_pos {burnHotkey : Option String} {allocation : ℚ}
    {weights final : Dict String ℚ} (hw : WellNormalized weights) (ha : 0 < allocation)
    (hf : ∀ hk w, final.get? hk = some w → 0 < w) :
    ∀ hk w, (addClass burnHotkey allocation weights final).get? hk = some w → 0 < w := by
  have hadd : ∀ (d : Dict String ℚ) (k : String) (x : ℚ), 0 < x →
      (∀ hk w, d.get? hk = some w → 0 < w) → ∀ hk w, (d.add k x).get? hk = some w → 0 < w := by
    intro d k x hx hd hk w hw
    rw [Dict.get?_add] at hw
    split_ifs at hw
    · cases hw
      cases hget : d.get? k with
      | none => simpa [Dict.getD, hget] using hx
      | some y => simpa [Dict.getD, hget] using add_pos (hd k y hget) hx
    · exact hd hk w hw
  unfold addClass
  split_ifs with hempty
  · cases burnHotkey with
    | none => exact hf
    | some burn => exact hadd final burn allocation ha hf
  · have hitems : ∀ kv ∈ weights.items, 0 < allocation * kv.2 := fun kv hkv =>
      mul_pos ha (hw.1 kv.1 kv.2 (Dict.mem_items.mp hkv))
    revert hitems
    generalize weights.items = items
    intro hitems
    induction items generalizing final with
    | nil => exact hf
    | cons kv rest ih =>
      exact ih (hadd final kv.1 _ (hitems kv (by simp)) hf)
        fun kv' hkv' => hitems kv' (List.mem_cons_of_mem _ hkv')

/-- One pass of the class loop, for a class whose weights are well normalized. -/
theorem composeStep_eq (burnHotkey : Option String) (final : Dict String ℚ)
    {byId : Dict String ClassDecision} {classPolicy : ClassPolicy} {decision : ClassDecision}
    (hget : byId.get? classPolicy.classId = some decision)
    (hw : WellNormalized decision.normalizedWeights) :
    (ClassAccepted burnHotkey classPolicy.kind decision →
      composeStep burnHotkey byId final classPolicy =
        .ok (addClass burnHotkey classPolicy.allocation decision.normalizedWeights final)) ∧
    (∀ final', composeStep burnHotkey byId final classPolicy = .ok final' →
      ClassAccepted burnHotkey classPolicy.kind decision) := by
  have habsent : ∀ burn, burn ∉ decision.normalizedWeights.items.map Prod.fst ↔
      decision.normalizedWeights.get? burn = none := fun burn => Dict.get?_eq_none.symm
  unfold composeStep
  simp only [hget]
  by_cases hkind : decision.kind = classPolicy.kind
  · rw [if_neg (not_not.mpr hkind)]
    by_cases hempty : decision.normalizedWeights.isEmpty = true
    · rw [if_pos hempty]
      have hnone := Dict.isEmpty_iff.mp hempty
      cases burnHotkey with
      | none =>
        exact ⟨fun h => absurd (h.burn_of_empty hempty) (by simp), fun _ h => by cases h⟩
      | some burn =>
        refine ⟨fun _ => ?_, fun _ _ => ⟨hkind, fun _ => rfl, fun b _ => hnone b⟩⟩
        simp [addClass, hempty, pure, Except.pure]
    · have htotal : decision.normalizedWeights.total = 1 := hw.2 (by simpa using hempty)
      have htol : ¬ composeTolerance < |decision.normalizedWeights.total - 1| := by
        rw [htotal]
        norm_num [composeTolerance]
      rw [if_neg hempty, if_neg htol]
      rcases addClassWeights_foldlM burnHotkey classPolicy.allocation
        decision.normalizedWeights.items final with ⟨hfree, heq⟩ | ⟨hpresent, heq⟩
      · rw [heq]
        refine ⟨fun _ => by simp [addClass, hempty], fun _ _ => ?_⟩
        exact ⟨hkind, fun h => absurd h hempty, fun burn hb => (habsent burn).mp (hfree burn hb)⟩
      · rw [heq]
        obtain ⟨burn, hb, hmem⟩ := hpresent
        refine ⟨fun h => ?_, fun _ h => by cases h⟩
        exact absurd hmem ((habsent burn).mpr (h.burn_absent burn hb))
  · rw [if_pos hkind]
    exact ⟨fun h => absurd h.kind_eq hkind, fun _ h => by cases h⟩

/-- The weights that the decisions record for a class. -/
def weightsOf (byId : Dict String ClassDecision) (classPolicy : ClassPolicy) : Dict String ℚ :=
  ((byId.get? classPolicy.classId).map ClassDecision.normalizedWeights).getD ∅

/-- Every class has a decision, and its weights are well normalized. -/
def Decided (byId : Dict String ClassDecision) (classes : List ClassPolicy) : Prop :=
  ∀ c ∈ classes, ∃ d, byId.get? c.classId = some d ∧ WellNormalized d.normalizedWeights

/-- Every class is accepted by the class loop. -/
def AllAccepted (burnHotkey : Option String) (byId : Dict String ClassDecision)
    (classes : List ClassPolicy) : Prop :=
  ∀ c ∈ classes, ∀ d, byId.get? c.classId = some d → ClassAccepted burnHotkey c.kind d

/-- The class loop raises exactly when a class is not accepted, and otherwise
adds every class's part. -/
theorem compose_loop (burnHotkey : Option String) {byId : Dict String ClassDecision} :
    ∀ {classes : List ClassPolicy} (final : Dict String ℚ), Decided byId classes →
      (∀ c ∈ classes, 0 < c.allocation) → (∀ hk w, final.get? hk = some w → 0 < w) →
      (AllAccepted burnHotkey byId classes → ∃ final',
        classes.foldlM (composeStep burnHotkey byId) final = .ok final' ∧
        (∀ hk w, final'.get? hk = some w → 0 < w) ∧
        ∀ (p : String → Prop) [DecidablePred p], final'.sumOn p = final.sumOn p +
          (classes.map fun c => c.allocation * classPart burnHotkey (weightsOf byId c) p).sum) ∧
      (∀ final', classes.foldlM (composeStep burnHotkey byId) final = .ok final' →
        AllAccepted burnHotkey byId classes)
  | [], final, _, _, hf =>
    ⟨fun _ => ⟨final, rfl, hf, fun p _ => by simp⟩, fun _ _ c hc => by simp at hc⟩
  | c :: rest, final, hdec, halloc, hf => by
    obtain ⟨d, hget, hw⟩ := hdec c (List.mem_cons_self ..)
    obtain ⟨hstep, haccept⟩ := composeStep_eq burnHotkey final hget hw
    have hweights : weightsOf byId c = d.normalizedWeights := by simp [weightsOf, hget]
    have ih := fun final (hf : ∀ hk w, final.get? hk = some w → 0 < w) =>
      compose_loop burnHotkey final (show Decided byId rest from
        fun c' hc' => hdec c' (List.mem_cons_of_mem _ hc'))
        (fun c' hc' => halloc c' (List.mem_cons_of_mem _ hc')) hf
    rw [List.foldlM_cons]
    constructor
    · intro hall
      rw [hstep (hall c (List.mem_cons_self ..) d hget)]
      obtain ⟨final', hrun, hpos, hsum⟩ :=
        (ih _ (addClass_pos hw (halloc c (List.mem_cons_self ..)) hf)).1
          fun c' hc' => hall c' (List.mem_cons_of_mem _ hc')
      refine ⟨final', hrun, hpos, fun p _ => ?_⟩
      rw [hsum, addClass_sumOn, List.map_cons, List.sum_cons, hweights, add_assoc]
    · intro final' hrun
      cases hfirst : composeStep burnHotkey byId final c with
      | error e => simp [hfirst, bind, Except.bind] at hrun
      | ok mid =>
        have hacc := haccept mid hfirst
        rw [hfirst] at hrun
        have hmid : mid = addClass burnHotkey c.allocation d.normalizedWeights final := by
          rw [hstep hacc] at hfirst
          exact (Except.ok.inj hfirst).symm
        have hrest := (ih mid (hmid ▸ addClass_pos hw (halloc c (List.mem_cons_self ..)) hf)).2
          final' hrun
        intro c' hc' d' hd'
        rcases List.mem_cons.mp hc' with rfl | hc'
        · rw [hget] at hd'
          cases hd'
          exact hacc
        · exact hrest c' hc' d' hd'

/-! ## The composition -/

theorem mem_of_decisionsById {decisions : List ClassDecision} {classId : String}
    {d : ClassDecision} (h : (decisionsById decisions).get? classId = some d) :
    d ∈ decisions ∧ d.classId = classId := by
  obtain ⟨d', hmem, heq⟩ := List.mem_map.mp (Dict.mem_of_get?_ofList h)
  cases heq
  exact ⟨hmem, rfl⟩

theorem Covers.get? {policy : ScorePolicy} {decisions : List ClassDecision}
    (h : Covers policy decisions) {c : ClassPolicy} (hc : c ∈ policy.classes) :
    ∃ d, (decisionsById decisions).get? c.classId = some d := by
  refine Dict.mem_keys.mp (List.mem_toFinset.mp ?_)
  rw [h.2, List.mem_toFinset]
  exact List.mem_map_of_mem hc

/-- Every decision's weights are well normalized. -/
def AllWellNormalized (decisions : List ClassDecision) : Prop :=
  ∀ d ∈ decisions, WellNormalized d.normalizedWeights

theorem Covers.decided {policy : ScorePolicy} {decisions : List ClassDecision}
    (h : Covers policy decisions) (hw : AllWellNormalized decisions) :
    Decided (decisionsById decisions) policy.classes := by
  intro c hc
  obtain ⟨d, hd⟩ := h.get? hc
  exact ⟨d, hd, hw d (mem_of_decisionsById hd).1⟩

/-- The vector that the decisions of a policy compose to. -/
structure Composed (policy : ScorePolicy) (decisions : List ClassDecision)
    (vector : Dict String ℚ) : Prop where
  positive : ∀ hk w, vector.get? hk = some w → 0 < w
  total : vector.total = 1
  sumOn : ∀ (p : String → Prop) [DecidablePred p], vector.sumOn p =
    (policy.classes.map fun c => c.allocation *
      classPart policy.burnHotkey (weightsOf (decisionsById decisions) c) p).sum

/-- Normalising positive entries that already sum to one changes nothing. -/
theorem get?_normalizedVector {final : Dict String ℚ} (htotal : final.total = 1)
    (hpos : ∀ hk w, final.get? hk = some w → 0 < w) (hk : String) :
    (normalizedVector final).get? hk = final.get? hk := by
  rw [normalizedVector, Dict.get?_mapItems, Dict.get?_filterItems, Dict.get?_sorted, htotal]
  cases hget : final.get? hk with
  | none => rfl
  | some w => simp [Option.filter, hpos hk w hget]

theorem perm_normalizedVector {final : Dict String ℚ} (htotal : final.total = 1)
    (hpos : ∀ hk w, final.get? hk = some w → 0 < w) :
    (normalizedVector final).items.Perm final.items := by
  refine (List.perm_ext_iff_of_nodup (Dict.nodup _).of_map final.nodup.of_map).mpr ?_
  rintro ⟨hk, w⟩
  rw [Dict.mem_items, Dict.mem_items, get?_normalizedVector htotal hpos]

theorem composed_of_loop {policy : ScorePolicy} {decisions : List ClassDecision}
    (hcovers : Covers policy decisions) (hw : AllWellNormalized decisions)
    (hacc : AllAccepted policy.burnHotkey (decisionsById decisions) policy.classes)
    (hsome : ¬ (policy.burnHotkey = none ∧ decisions ≠ [] ∧
      (decisions.all fun item => item.normalizedWeights.isEmpty) = true)) :
    ∃ vector, composeClassDecisions policy decisions = .ok vector ∧
      Composed policy decisions vector := by
  have hdec := hcovers.decided hw
  obtain ⟨final, hrun, hpos, hsum⟩ := (compose_loop policy.burnHotkey ∅
    hdec policy.allocation_pos (fun hk w h => by cases h)).1 hacc
  have hsum' : ∀ (p : String → Prop) [DecidablePred p], final.sumOn p =
      (policy.classes.map fun c => c.allocation *
        classPart policy.burnHotkey (weightsOf (decisionsById decisions) c) p).sum := by
    intro p _
    rw [hsum]
    exact zero_add _
  have htotal : final.total = 1 := by
    rw [← Dict.sumOn_true, hsum', ← policy.sum_allocation]
    refine congrArg List.sum (List.map_congr_left fun c hc => ?_)
    obtain ⟨d, hd, hdw⟩ := hdec c hc
    have hweights : weightsOf (decisionsById decisions) c = d.normalizedWeights := by
      simp [weightsOf, hd]
    rw [hweights, classPart_true hdw (hacc c hc d hd).burn_of_empty, mul_one]
  have hresult : ∀ hk, (normalizedVector final).get? hk = final.get? hk :=
    get?_normalizedVector htotal hpos
  have hperm := perm_normalizedVector htotal hpos
  have htol : ¬ composeTolerance < |final.total - 1| := by
    rw [htotal]
    norm_num [composeTolerance]
  refine ⟨normalizedVector final, ?_, ⟨?_, ?_, ?_⟩⟩
  · simp only [composeClassDecisions, bind_eq_ok, refuse_eq_ok, if_neg hsome]
    exact ⟨(), not_not.mpr hcovers, final, hrun, (), htol, rfl⟩
  · intro hk w h
    exact hpos hk w (hresult hk ▸ h)
  · rw [← Dict.sumOn_true, Dict.sumOn_congr_of_perm _ hperm, Dict.sumOn_true, htotal]
  · intro p _
    rw [Dict.sumOn_congr_of_perm _ hperm, hsum']

/-- What a returned vector is: empty only when every class is and there is no
burn destination, the composition of the class shares otherwise. -/
theorem composeClassDecisions_ok {policy : ScorePolicy} {decisions : List ClassDecision}
    {vector : Dict String ℚ} (hw : AllWellNormalized decisions)
    (h : composeClassDecisions policy decisions = .ok vector) :
    Covers policy decisions ∧
      (policy.burnHotkey = none ∧ vector = ∅ ∨
        AllAccepted policy.burnHotkey (decisionsById decisions) policy.classes ∧
          Composed policy decisions vector) := by
  obtain ⟨_, hcovers, hrest⟩ := bind_eq_ok.mp h
  rw [refuse_eq_ok, not_not] at hcovers
  refine ⟨hcovers, ?_⟩
  by_cases hnone : policy.burnHotkey = none ∧ decisions ≠ [] ∧
      (decisions.all fun item => item.normalizedWeights.isEmpty) = true
  · left
    rw [if_pos hnone] at hrest
    exact ⟨hnone.1, (Except.ok.inj hrest).symm⟩
  · right
    rw [if_neg hnone] at hrest
    obtain ⟨final, hrun, -⟩ := bind_eq_ok.mp hrest
    have hacc : AllAccepted policy.burnHotkey (decisionsById decisions) policy.classes :=
      (compose_loop policy.burnHotkey ∅ (hcovers.decided hw)
        policy.allocation_pos (fun hk w h => by cases h)).2 final hrun
    obtain ⟨vector', heq, hcomposed⟩ := composed_of_loop hcovers hw hacc hnone
    rw [h] at heq
    cases heq
    exact ⟨hacc, hcomposed⟩

/-! ## The account by coldkey -/

/-- A decision as the runner obtains it for a class. -/
inductive DecidedFrom (coldkeyOf : Dict String String) : ClassPolicy → ClassDecision → Prop where
  | localSat {policy : LocalClassPolicy} {rawScores : Dict String ℚ}
      {reasons : Dict String String} {d : ClassDecision} :
      localClassDecision policy rawScores coldkeyOf reasons = .ok d →
        DecidedFrom coldkeyOf (.localSat policy) d
  | external {policy : ExternalClassPolicy} {report : VerifiedReport}
      {registration : Option VerifiedOwnerRegistration} {d : ClassDecision} :
      externalClassDecision policy report coldkeyOf registration = .ok d →
        DecidedFrom coldkeyOf (.external policy) d
  | revoked (policy : ExternalClassPolicy) (reason : String) :
      DecidedFrom coldkeyOf (.external policy) (revokedClassDecision policy reason)

/-- What an external decision records. -/
theorem externalClassDecision_ok {policy : ExternalClassPolicy} {report : VerifiedReport}
    {coldkeyOf : Dict String String} {registration : Option VerifiedOwnerRegistration}
    {d : ClassDecision}
    (h : externalClassDecision policy report coldkeyOf registration = .ok d) :
    d.classId = policy.classId ∧ d.kind = .external ∧
      (∃ provenance, reportScores policy report coldkeyOf = .ok (d.rawScores, provenance)) ∧
      coldkeyCollapsedWeights d.rawScores coldkeyOf = .ok d.normalizedWeights ∧
      d.normalizedWeights.isEmpty = false := by
  obtain ⟨acc, hscores, h⟩ := bind_eq_ok.mp h
  obtain ⟨normalized, hnorm, h⟩ := bind_eq_ok.mp h
  obtain ⟨_, hempty, h⟩ := bind_eq_ok.mp h
  cases h
  exact ⟨rfl, rfl, ⟨acc.2, hscores⟩, hnorm, by simpa using hempty⟩

theorem localClassDecision_ok {policy : LocalClassPolicy} {rawScores : Dict String ℚ}
    {coldkeyOf reasons : Dict String String} {d : ClassDecision}
    (h : localClassDecision policy rawScores coldkeyOf reasons = .ok d) :
    d.classId = policy.classId ∧ d.kind = .localSat ∧ d.rawScores = rawScores.sorted ∧
      coldkeyCollapsedWeights rawScores coldkeyOf = .ok d.normalizedWeights := by
  obtain ⟨normalized, hnorm, h⟩ := bind_eq_ok.mp h
  cases h
  exact ⟨rfl, rfl, rfl, hnorm⟩

theorem DecidedFrom.collapsed {coldkeyOf : Dict String String} {c : ClassPolicy}
    {d : ClassDecision} (h : DecidedFrom coldkeyOf c d) :
    coldkeyCollapsedWeights d.rawScores coldkeyOf = .ok d.normalizedWeights := by
  cases h with
  | localSat hd =>
    obtain ⟨-, -, hraw, hnorm⟩ := localClassDecision_ok hd
    rw [hraw, coldkeyCollapsedWeights_sorted, hnorm]
  | external hd => exact (externalClassDecision_ok hd).2.2.2.1
  | revoked => rfl

theorem wellNormalized_of_collapse {scores weights : Dict String ℚ}
    {coldkeyOf : Dict String String}
    (h : coldkeyCollapsedWeights scores coldkeyOf = .ok weights) : WellNormalized weights :=
  ⟨fun _ _ => pos_of_collapse h, total_of_collapse h⟩

/-- The scores that the decisions record for a class. -/
def classScores (decisions : List ClassDecision) (c : ClassPolicy) : Dict String ℚ :=
  (((decisionsById decisions).get? c.classId).map ClassDecision.rawScores).getD ∅

/-- The largest score of a coldkey over the sum of all coldkeys' largest scores. -/
def coldkeyShare (scores : Dict String ℚ) (coldkeyOf : Dict String String) (k : String) : ℚ :=
  peak scores.keys.toFinset (coldkey coldkeyOf) (score scores) k /
    peakTotal scores.keys.toFinset (coldkey coldkeyOf) (score scores)

/-- The allocations of the classes in which no hotkey scored. -/
def emptyAllocation (policy : ScorePolicy) (decisions : List ClassDecision) : ℚ :=
  ((policy.classes.filter fun c => positives (classScores decisions c) = ∅).map
    ClassPolicy.allocation).sum

theorem emptyAllocation_eq (policy : ScorePolicy) (decisions : List ClassDecision) :
    emptyAllocation policy decisions = (policy.classes.map fun c =>
      if positives (classScores decisions c) = ∅ then c.allocation else 0).sum := by
  rw [List.sum_map_ite]
  simp [emptyAllocation]

/-- What `coldkey` owns of the burn hotkey's weight. -/
def burnOwned (burnHotkey : Option String) (coldkeyOf : Dict String String)
    (vector : Dict String ℚ) (k : String) : ℚ :=
  match burnHotkey with
  | none => 0
  | some burn => if coldkey coldkeyOf burn = k then vector.getD burn 0 else 0

section Account

variable {policy : ScorePolicy} {coldkeyOf : Dict String String}
  {decisions : List ClassDecision} {vector : Dict String ℚ}

/-- A class as the composition sees it: its weights are the collapse of its scores. -/
theorem Covers.class_collapsed (hcovers : Covers policy decisions)
    (hdec : ∀ d ∈ decisions, ∃ c ∈ policy.classes, DecidedFrom coldkeyOf c d)
    {c : ClassPolicy} (hc : c ∈ policy.classes) :
    coldkeyCollapsedWeights (classScores decisions c) coldkeyOf =
      .ok (weightsOf (decisionsById decisions) c) := by
  obtain ⟨d, hd⟩ := hcovers.get? hc
  obtain ⟨c', -, hfrom⟩ := hdec d (mem_of_decisionsById hd).1
  simpa [classScores, weightsOf, hd] using hfrom.collapsed

theorem allWellNormalized_of_decidedFrom
    (hdec : ∀ d ∈ decisions, ∃ c ∈ policy.classes, DecidedFrom coldkeyOf c d) :
    AllWellNormalized decisions := by
  intro d hd
  obtain ⟨c, -, hfrom⟩ := hdec d hd
  exact wellNormalized_of_collapse hfrom.collapsed

/-- The burn hotkey receives the allocations of the empty classes. -/
theorem Composed.burn_amount (hcovers : Covers policy decisions)
    (hdec : ∀ d ∈ decisions, ∃ c ∈ policy.classes, DecidedFrom coldkeyOf c d)
    (hacc : AllAccepted policy.burnHotkey (decisionsById decisions) policy.classes)
    (hcomp : Composed policy decisions vector) {burn : String}
    (hburn : policy.burnHotkey = some burn) :
    vector.getD burn 0 = emptyAllocation policy decisions := by
  rw [← Dict.sumOn_eq, hcomp.sumOn, emptyAllocation_eq]
  refine congrArg List.sum (List.map_congr_left fun c hc => ?_)
  have hempty := isEmpty_of_collapse (hcovers.class_collapsed hdec hc)
  rw [classPart_eq_classShare, classShare, hburn]
  by_cases h : positives (classScores decisions c) = ∅
  · simp [hempty.mpr h, h]
  · obtain ⟨d, hd⟩ := hcovers.get? hc
    have habsent := (hacc c hc d hd).burn_absent burn hburn
    have hnot : ¬ (weightsOf (decisionsById decisions) c).isEmpty = true := fun h' => h (hempty.mp h')
    rw [if_neg hnot, if_neg h]
    simp [weightsOf, hd, Dict.getD, habsent]

/-- Every coldkey receives, from each class, its largest score over the sum of
all largest scores, besides what the burn hotkey brings it. -/
theorem Composed.coldkey_amount (hcovers : Covers policy decisions)
    (hdec : ∀ d ∈ decisions, ∃ c ∈ policy.classes, DecidedFrom coldkeyOf c d)
    (hacc : AllAccepted policy.burnHotkey (decisionsById decisions) policy.classes)
    (hcomp : Composed policy decisions vector) (k : String) :
    vector.sumOn (fun hk => coldkey coldkeyOf hk = k) =
      (policy.classes.map fun c => c.allocation *
        coldkeyShare (classScores decisions c) coldkeyOf k).sum +
      burnOwned policy.burnHotkey coldkeyOf vector k := by
  have hclass : ∀ c ∈ policy.classes, c.allocation *
      classPart policy.burnHotkey (weightsOf (decisionsById decisions) c)
        (fun hk => coldkey coldkeyOf hk = k) =
      c.allocation * coldkeyShare (classScores decisions c) coldkeyOf k +
        if positives (classScores decisions c) = ∅ then c.allocation *
          (match policy.burnHotkey with
            | none => 0
            | some burn => if coldkey coldkeyOf burn = k then 1 else 0) else 0 := by
    intro c hc
    have hcollapse := hcovers.class_collapsed hdec hc
    have hempty := isEmpty_of_collapse hcollapse
    have hshare := sumOn_coldkey_of_collapse hcollapse k
    simp only [classPart, coldkeyShare]
    split_ifs with h1 h2 h2
    · have hzero : (weightsOf (decisionsById decisions) c).sumOn
          (fun hk => coldkey coldkeyOf hk = k) = 0 := by
        have hnil : (weightsOf (decisionsById decisions) c).items = [] := List.isEmpty_iff.mp h1
        simp [Dict.sumOn, hnil]
      rw [← hshare, hzero, mul_zero, zero_add]
    · exact absurd (hempty.mp h1) h2
    · exact absurd (hempty.mpr h2) h1
    · rw [hshare, add_zero]
  rw [hcomp.sumOn, List.map_congr_left hclass, List.sum_map_add]
  congr 1
  unfold burnOwned
  cases hburn : policy.burnHotkey with
  | none => simp
  | some burn =>
    simp only
    by_cases hk : coldkey coldkeyOf burn = k
    · rw [if_pos hk, hcomp.burn_amount hcovers hdec hacc hburn, emptyAllocation_eq]
      simp [hk]
    · simp [hk]

end Account

/-- A returned vector is positive and sums to one; every coldkey receives from
each class its allocation times the coldkey's largest score over the sum of all
largest scores, and besides that the weight of the burn hotkey if it owns it;
the burn hotkey receives the allocations of the classes without a positive
score. -/
theorem composeClassDecisions_account (policy : ScorePolicy) (coldkeyOf : Dict String String)
    (decisions : List ClassDecision) (vector : Dict String ℚ)
    (hdec : ∀ d ∈ decisions, ∃ c ∈ policy.classes, DecidedFrom coldkeyOf c d)
    (hok : composeClassDecisions policy decisions = .ok vector)
    (hne : vector.isEmpty = false) :
    (∀ hk w, vector.get? hk = some w → 0 < w) ∧ vector.total = 1 ∧
      (∀ k, vector.sumOn (fun hk => coldkey coldkeyOf hk = k) =
        (policy.classes.map fun c => c.allocation *
          coldkeyShare (classScores decisions c) coldkeyOf k).sum +
        burnOwned policy.burnHotkey coldkeyOf vector k) ∧
      ∀ burn, policy.burnHotkey = some burn →
        vector.getD burn 0 = emptyAllocation policy decisions := by
  obtain ⟨hcovers, hcase⟩ := composeClassDecisions_ok (allWellNormalized_of_decidedFrom hdec) hok
  rcases hcase with ⟨-, rfl⟩ | ⟨hacc, hcomp⟩
  · cases hne
  · exact ⟨hcomp.positive, hcomp.total, hcomp.coldkey_amount hcovers hdec hacc,
      fun burn => hcomp.burn_amount hcovers hdec hacc⟩

/-! A local class without scores beside an external class; the burn hotkey `b`
and the scoring hotkey `a` belong to one coldkey. -/

def sharedColdkeys : Dict String String := Dict.ofList [("a", "K"), ("b", "K")]

def localHalf : LocalClassPolicy := { classId := "local_sat", allocation := 1 / 2 }

def externalHalf : ExternalClassPolicy where
  classId := "external_class"
  allocation := 1 / 2
  sourceId := "source"
  locations := []
  trustedKeys := ∅
  maxAgeSeconds := 60
  maxFutureSeconds := 60
  maxBlockSpan := 100
  requireEvidence := false
  assignment :=
    { mode := .assertedScore, metric := none, transform := .linear, cap := none }

def halvesPolicy : ScorePolicy where
  network := "test"
  netuid := 1
  classes := [.localSat localHalf, .external externalHalf]
  digest := "digest"
  burnHotkey := some "b"
  nodup_ids := by decide
  allocation_pos := by decide +kernel
  sum_allocation := by decide +kernel
  localClass_unique := by decide

def reportOf (entries : List ScoreEntry) : VerifiedReport where
  classId := "external_class"
  sourceId := "source"
  sourceEpoch := 1
  reportId := "report"
  previousReportId := none
  validFromBlock := 0
  validUntilBlock := 100
  policyDigest := "policy"
  verifierDigest := "verifier"
  signingKeyId := "key"
  entries := entries

def entryOf (hotkey : String) (score : ℚ) : ScoreEntry where
  minerHotkey := hotkey
  metrics := ∅
  assertedScore := some score
  reasonCodes := []
  evidence := []

/-- The local class verified nobody. -/
def idleLocal : ClassDecision where
  classId := "local_sat"
  kind := .localSat
  allocation := 1 / 2
  sourceId := none
  sourceEpoch := none
  reportId := none
  assignment := .validatorLocalSat
  rawScores := ∅
  normalizedWeights := ∅
  provenance := .reasonCodes ∅

/-- The external class scored `a` only. -/
def scoredExternal : ClassDecision where
  classId := "external_class"
  kind := .external
  allocation := 1 / 2
  sourceId := some "source"
  sourceEpoch := some 1
  reportId := some "report"
  assignment := .external externalHalf.assignment false "policy" "verifier" "key" none
  rawScores := Dict.ofList [("a", 1)]
  normalizedWeights := Dict.ofList [("a", 1)]
  provenance := .entries (Dict.ofList [("a", entryOf "a" 1)])

theorem halves_decidedFrom : ∀ d ∈ [idleLocal, scoredExternal],
    ∃ c ∈ halvesPolicy.classes, DecidedFrom sharedColdkeys c d := by
  intro d hd
  simp only [List.mem_cons, List.not_mem_nil, or_false] at hd
  rcases hd with rfl | rfl
  · refine ⟨.localSat localHalf, by simp [halvesPolicy], ?_⟩
    have hlocal : localClassDecision localHalf ∅ sharedColdkeys ∅ = .ok idleLocal := by
      decide +kernel
    exact .localSat hlocal
  · refine ⟨.external externalHalf, by simp [halvesPolicy], ?_⟩
    have hexternal : externalClassDecision externalHalf (reportOf [entryOf "a" 1])
        sharedColdkeys none = .ok scoredExternal := by decide +kernel
    exact .external hexternal

/-- The vector of the two halves: `b` receives the local half, `a` the external one. -/
def halvesVector : Dict String ℚ := Dict.ofList [("a", 1 / 2), ("b", 1 / 2)]

/-- Without the burn hotkey's part the account is wrong: the coldkey receives
one, its scores explain a half. -/
theorem coldkey_total_exceeds_scores :
    (∀ d ∈ [idleLocal, scoredExternal],
      ∃ c ∈ halvesPolicy.classes, DecidedFrom sharedColdkeys c d) ∧
    composeClassDecisions halvesPolicy [idleLocal, scoredExternal] = .ok halvesVector ∧
    halvesVector.isEmpty = false ∧
    halvesVector.sumOn (fun hk => coldkey sharedColdkeys hk = "K") ≠
      (halvesPolicy.classes.map fun c => c.allocation *
        coldkeyShare (classScores [idleLocal, scoredExternal] c) sharedColdkeys "K").sum :=
  ⟨halves_decidedFrom, by decide +kernel, by decide +kernel, by decide +kernel⟩

theorem composeClassDecisions_account_halves :
    halvesVector.total = 1 ∧ halvesVector.getD "b" 0 = 1 / 2 ∧
      halvesVector.sumOn (fun hk => coldkey sharedColdkeys hk = "K") = 1 / 2 + 1 / 2 := by
  obtain ⟨-, htotal, hcoldkey, hburn⟩ := composeClassDecisions_account halvesPolicy
    sharedColdkeys [idleLocal, scoredExternal] halvesVector halves_decidedFrom
    (by decide +kernel) (by decide +kernel)
  refine ⟨htotal, ?_, ?_⟩
  · rw [hburn "b" rfl]
    decide +kernel
  · rw [hcoldkey "K"]
    decide +kernel

end Cathedral.Thin
