import Cathedral.Thin.Composition
import Cathedral.Thin.Submission

/-!
# Cathedral.Thin.Isolation — one class against the others

With a burn destination a class that fails should cost only itself: its own
allocation is burnt, and the other classes distribute theirs as if they were
alone. Here a class *alone* is `ownDecision`: its own owner registration, its
own report, its own scores.

The tick falls short of this in three places. The owner registrations are loaded
together, and one that fails empties all registered classes; the decision of a
report that was loaded is not guarded, so that a report without positive scores
stops the tick; so does a class that scores the burn hotkey.
`tick_isolates_iff` says that there are no others.
-/

namespace Cathedral.Thin

/-! ## Gathering -/

theorem gatherErrors_eq_nil {α : Type} {results : List (Except Exc α)} :
    gatherErrors results = [] ↔ ∀ r ∈ results, ∃ x, r = .ok x := by
  rw [gatherErrors, List.filterMap_eq_nil_iff]
  refine forall_congr' fun r => imp_congr_right fun _ => ?_
  cases r <;> simp

theorem gather_eq_ok {α : Type} {pick : ℕ} {results : List (Except Exc α)} {xs : List α} :
    gather pick results = .ok xs ↔ List.Forall₂ (fun r x => r = .ok x) results xs := by
  unfold gather
  cases herrors : gatherErrors results with
  | nil => exact mapM_eq_ok
  | cons e rest =>
    constructor
    · intro h
      cases h
    · intro h
      have hnil : gatherErrors results = [] := by
        rw [gatherErrors_eq_nil]
        intro r hr
        rcases exists_of_forall₂ h hr with ⟨x, -, hx⟩
        exact ⟨x, hx⟩
      rw [hnil] at herrors
      cases herrors

theorem gather_isOk {α : Type} (pick : ℕ) {results : List (Except Exc α)} :
    (∃ xs, gather pick results = .ok xs) ↔ ∀ r ∈ results, ∃ x, r = .ok x := by
  constructor
  · rintro ⟨xs, h⟩ r hr
    rcases exists_of_forall₂ (gather_eq_ok.mp h) hr with ⟨x, -, hx⟩
    exact ⟨x, hx⟩
  · intro h
    have hnil := gatherErrors_eq_nil.mpr h
    simp only [gather, hnil]
    exact mapM_isOk h

/-! ## A class alone -/

section Alone

variable (setup : Setup) (env : TickEnv) (state : ValidatorState) (round : OpenRound)

/-- The owner registration of one class, read and loaded for it alone. -/
def ownRegistration (registered : ExternalClassPolicy × OwnerRegistrationPolicy) :
    Except Exc (String × VerifiedOwnerRegistration × RegistrationCheckpoint) :=
  match env.subnetOwner with
  | none => fail "runtime lacks source subnet owner verification"
  | some getter => do
    let owner ← readOwner getter round.block registered.2.sourceNetuid
    loadRegistration setup env state round.peers round.block false (Dict.ofList [owner])
      registered

/-- The registrations of a policy with this class alone. -/
def ownRegistrations (classPolicy : ExternalClassPolicy) : Except Exc Registrations :=
  match classPolicy.ownerRegistration with
  | none => pure ∅
  | some registration => do
    let loaded ← ownRegistration setup env state round (classPolicy, registration)
    pure (Dict.ofList [loaded])

/-- The report of a class, loaded for it alone. -/
def ownLoad (classPolicy : ExternalClassPolicy) : Except Exc LoadedExternal := do
  let registrations ← ownRegistrations setup env state round classPolicy
  loadExternal setup env state round.block registrations classPolicy

/-- The decision on a loaded report. -/
def decideLoaded (loaded : LoadedExternal) : Except Exc ClassDecision :=
  externalClassDecision loaded.policy loaded.report (coldkeyByHotkey round.peers)
    (loaded.registration.map Prod.fst)

/-- The decision of a class alone. -/
def ownDecision (classPolicy : ExternalClassPolicy) : Except Exc ClassDecision := do
  let loaded ← ownLoad setup env state round classPolicy
  decideLoaded round loaded

/-- What a class distributes when it is alone: nothing when it fails. -/
def ownWeights (localDecisions : List ClassDecision) : ClassPolicy → Dict String ℚ
  | .localSat _ => (localDecisions.head?.map ClassDecision.normalizedWeights).getD ∅
  | .external classPolicy =>
    match ownDecision setup env state round classPolicy with
    | .ok decision => decision.normalizedWeights
    | .error _ => ∅

/-- Every registered class can be authorized by itself. -/
def AllAuthorized : Prop :=
  ∀ registered ∈ registeredClasses setup.policy,
    ∃ loaded, ownRegistration setup env state round registered = .ok loaded

end Alone

/-! ## The owner registrations of a round -/

section Registrations

variable {setup : Setup} {env : TickEnv} {state : ValidatorState} {round : OpenRound}

theorem mem_registeredClasses {policy : ScorePolicy} {c : ExternalClassPolicy}
    {r : OwnerRegistrationPolicy} :
    (c, r) ∈ registeredClasses policy ↔
      c ∈ policy.externalClasses ∧ c.ownerRegistration = some r := by
  simp only [registeredClasses, List.mem_filterMap, Option.map_eq_some_iff, Prod.mk.injEq]
  constructor
  · rintro ⟨c', hc', r', hr', rfl, rfl⟩
    exact ⟨hc', hr'⟩
  · rintro ⟨hc, hr⟩
    exact ⟨c, hc, r, hr, rfl, rfl⟩

theorem nodup_externalClasses (policy : ScorePolicy) : policy.externalClasses.Nodup := by
  refine policy.nodup_ids.of_map.filterMap ?_
  intro c c' e he he'
  cases c <;> cases c' <;> simp_all [ClassPolicy.external?]

theorem nodup_registeredIds (policy : ScorePolicy) :
    ((registeredClasses policy).map fun r => r.1.classId).Nodup := by
  have hnodup : (registeredClasses policy).Nodup := by
    refine (nodup_externalClasses policy).filterMap ?_
    intro c c' r hr hr'
    simp only [Option.mem_def, Option.map_eq_some_iff] at hr hr'
    rcases hr with ⟨_, _, rfl⟩
    rcases hr' with ⟨_, _, h⟩
    exact (congrArg Prod.fst h).symm
  refine hnodup.map_on ?_
  rintro ⟨c, r⟩ hc ⟨c', r'⟩ hc' hid
  rw [mem_registeredClasses] at hc hc'
  have heq : ClassPolicy.external c = ClassPolicy.external c' :=
    ScorePolicy.class_unique (ScorePolicy.mem_externalClasses.mp hc.1)
      (ScorePolicy.mem_externalClasses.mp hc'.1) hid
  cases heq
  rw [hc.2, Option.some.injEq] at hc'
  rw [hc'.2]

theorem mem_sourceNetuids {policy : ScorePolicy} {n : ℤ} :
    n ∈ sourceNetuids policy ↔ ∃ r ∈ registeredClasses policy, r.2.sourceNetuid = n := by
  simp [sourceNetuids]

theorem nodup_sourceNetuids (policy : ScorePolicy) : (sourceNetuids policy).Nodup :=
  (List.perm_insertionSort _ _).nodup_iff.mpr (List.nodup_dedup _)

theorem readOwner_fst {getter : ℤ → ℤ → Except Exc String} {block n : ℤ} {owner : ℤ × String}
    (h : readOwner getter block n = .ok owner) : owner.1 = n := by
  rcases bind_eq_ok.mp h with ⟨coldkey, -, h⟩
  rcases bind_eq_ok.mp h with ⟨_, -, h⟩
  cases h
  rfl

/-- The owners read together are the owners read one by one. -/
theorem getOwner_of_gather {getter : ℤ → ℤ → Except Exc String} {policy : ScorePolicy}
    {pick : ℕ} {block : ℤ} {owners : List (ℤ × String)}
    (h : gather pick ((sourceNetuids policy).map (readOwner getter block)) = .ok owners)
    {n : ℤ} (hn : n ∈ sourceNetuids policy) :
    ∃ owner, readOwner getter block n = .ok owner ∧
      getOwner (Dict.ofList owners) n = getOwner (Dict.ofList [owner]) n := by
  have hall := gather_eq_ok.mp h
  rw [List.forall₂_map_left_iff] at hall
  have hkeys : owners.map Prod.fst = sourceNetuids policy := by
    refine List.ext_getElem (by rw [List.length_map, hall.length_eq]) fun i hi hi' => ?_
    rw [List.getElem_map]
    exact readOwner_fst ((List.forall₂_iff_get.mp hall).2 i hi' (by simpa using hi))
  rcases exists_of_forall₂ hall hn with ⟨owner, howner, hread⟩
  have hfst : owner.1 = n := readOwner_fst hread
  have hget : (Dict.ofList owners).get? n = some owner.2 :=
    Dict.get?_ofList_of_mem (hkeys ▸ nodup_sourceNetuids policy) (hfst ▸ howner)
  have hone : (Dict.ofList [owner]).get? n = some owner.2 :=
    Dict.get?_ofList_of_mem (by simp) (by rw [← hfst]; exact List.mem_singleton_self _)
  refine ⟨owner, hread, ?_⟩
  rw [getOwner, getOwner, hget, hone]

theorem loadRegistration_congr {peers : List Peer} {block : ℤ} {same : Bool}
    {owners owners' : Dict ℤ String} {registered : ExternalClassPolicy × OwnerRegistrationPolicy}
    (h : getOwner owners registered.2.sourceNetuid = getOwner owners' registered.2.sourceNetuid) :
    loadRegistration setup env state peers block same owners registered =
      loadRegistration setup env state peers block same owners' registered := by
  simp only [loadRegistration, h]

theorem loadRegistration_fst {peers : List Peer} {block : ℤ} {same : Bool}
    {owners : Dict ℤ String} {registered : ExternalClassPolicy × OwnerRegistrationPolicy}
    {loaded : String × VerifiedOwnerRegistration × RegistrationCheckpoint}
    (h : loadRegistration setup env state peers block same owners registered = .ok loaded) :
    loaded.1 = registered.1.classId := by
  rcases bind_eq_ok.mp h with ⟨owner, -, h⟩
  rcases bind_eq_ok.mp h with ⟨_, -, h⟩
  rcases bind_eq_ok.mp h with ⟨pair, -, h⟩
  cases h
  rfl

/-- With the owners read together, each class is loaded as it is alone. -/
theorem loadRegistration_alone {getter : ℤ → ℤ → Except Exc String} {owners : List (ℤ × String)}
    (hgetter : env.subnetOwner = some getter)
    (howners : gather env.gatherPick
      ((sourceNetuids setup.policy).map (readOwner getter round.block)) = .ok owners)
    {registered : ExternalClassPolicy × OwnerRegistrationPolicy}
    (hmem : registered ∈ registeredClasses setup.policy) :
    loadRegistration setup env state round.peers round.block false (Dict.ofList owners) registered =
      ownRegistration setup env state round registered := by
  rcases getOwner_of_gather howners (mem_sourceNetuids.mpr ⟨registered, hmem, rfl⟩) with
    ⟨owner, hread, hget⟩
  rw [loadRegistration_congr hget]
  simp [ownRegistration, hgetter, hread, bind, Except.bind]

/-- The registrations load together exactly when each one loads alone, and then
they are the same. -/
theorem loadOwnerRegistrations_ok {registrations : Registrations}
    (h : loadOwnerRegistrations setup env state round.peers round.block false =
      .ok registrations) :
    ∀ registered ∈ registeredClasses setup.policy, ∃ loaded,
      ownRegistration setup env state round registered =
        .ok (registered.1.classId, loaded) ∧
      registrations.get? registered.1.classId = some loaded := by
  intro registered hmem
  unfold loadOwnerRegistrations at h
  rw [if_neg (List.ne_nil_of_mem hmem)] at h
  cases hgetter : env.subnetOwner with
  | none =>
    rw [hgetter] at h
    cases h
  | some getter =>
    simp only [hgetter] at h
    rcases bind_eq_ok.mp h with ⟨owners, howners, h⟩
    rcases bind_eq_ok.mp h with ⟨loaded, hloaded, h⟩
    cases h
    have hall := gather_eq_ok.mp hloaded
    rw [List.forall₂_map_left_iff] at hall
    have hids : loaded.map Prod.fst =
        (registeredClasses setup.policy).map fun r => r.1.classId := by
      refine List.ext_getElem (by simp [hall.length_eq]) fun i hi hi' => ?_
      rw [List.getElem_map, List.getElem_map]
      exact loadRegistration_fst
        ((List.forall₂_iff_get.mp hall).2 i (by simpa using hi') (by simpa using hi))
    rcases exists_of_forall₂ hall hmem with ⟨found, hfound, hload⟩
    have hfst : found.1 = registered.1.classId := loadRegistration_fst hload
    rw [loadRegistration_alone hgetter howners hmem] at hload
    refine ⟨found.2, by rw [hload, ← hfst], ?_⟩
    refine Dict.get?_ofList_of_mem (hids ▸ nodup_registeredIds setup.policy) ?_
    rw [← hfst]
    exact hfound

theorem loadOwnerRegistrations_isOk :
    (∃ registrations, loadOwnerRegistrations setup env state round.peers round.block false =
      .ok registrations) ↔ AllAuthorized setup env state round := by
  constructor
  · rintro ⟨registrations, h⟩ registered hmem
    rcases loadOwnerRegistrations_ok h registered hmem with ⟨loaded, hloaded, -⟩
    exact ⟨_, hloaded⟩
  · intro hall
    unfold loadOwnerRegistrations
    by_cases hnil : registeredClasses setup.policy = []
    · exact ⟨∅, by rw [if_pos hnil]; rfl⟩
    · rw [if_neg hnil]
      cases hgetter : env.subnetOwner with
      | none =>
        rcases List.exists_mem_of_ne_nil _ hnil with ⟨registered, hmem⟩
        rcases hall registered hmem with ⟨loaded, hloaded⟩
        rw [ownRegistration, hgetter] at hloaded
        cases hloaded
      | some getter =>
        -- the owner of every source subnet is read for some registered class
        have hread : ∀ r ∈ (sourceNetuids setup.policy).map (readOwner getter round.block),
            ∃ owner, r = .ok owner := by
          intro r hr
          rcases List.mem_map.mp hr with ⟨n, hn, rfl⟩
          rcases mem_sourceNetuids.mp hn with ⟨registered, hmem, rfl⟩
          rcases hall registered hmem with ⟨loaded, hloaded⟩
          rw [ownRegistration, hgetter] at hloaded
          rcases bind_eq_ok.mp hloaded with ⟨owner, howner, -⟩
          exact ⟨owner, howner⟩
        rcases (gather_isOk env.gatherPick).mpr hread with ⟨owners, howners⟩
        have hload : ∀ r ∈ (registeredClasses setup.policy).map (loadRegistration setup env state
            round.peers round.block false (Dict.ofList owners)), ∃ loaded, r = .ok loaded := by
          intro r hr
          rcases List.mem_map.mp hr with ⟨registered, hmem, rfl⟩
          rw [loadRegistration_alone hgetter howners hmem]
          exact hall registered hmem
        rcases (gather_isOk env.gatherPick).mpr hload with ⟨loaded, hloaded⟩
        exact ⟨_, bind_eq_ok.mpr ⟨owners, howners, bind_eq_ok.mpr ⟨loaded, hloaded, rfl⟩⟩⟩

/-- The report of a class depends on its own registration only. -/
theorem loadExternal_congr {registrations registrations' : Registrations}
    {c : ExternalClassPolicy} {block : ℤ}
    (h : c.ownerRegistration = none ∨
      registrations.get? c.classId = registrations'.get? c.classId) :
    loadExternal setup env state block registrations c =
      loadExternal setup env state block registrations' c := by
  have hpolicy : effectivePolicy registrations c = effectivePolicy registrations' c := by
    unfold effectivePolicy
    rcases h with h | h <;> rw [h]
  simp only [loadExternal, hpolicy]

/-- When all registrations load, every class is loaded as it is alone. -/
theorem loadExternal_alone {registrations : Registrations}
    (h : loadOwnerRegistrations setup env state round.peers round.block false =
      .ok registrations) {c : ExternalClassPolicy} (hc : c ∈ setup.policy.externalClasses) :
    loadExternal setup env state round.block registrations c =
      ownLoad setup env state round c := by
  unfold ownLoad ownRegistrations
  cases hr : c.ownerRegistration with
  | none => exact loadExternal_congr (.inl hr)
  | some r =>
    rcases loadOwnerRegistrations_ok h (c, r) (mem_registeredClasses.mpr ⟨hc, hr⟩) with
      ⟨loaded, hown, hget⟩
    simp only [hown]
    refine loadExternal_congr (.inr ?_)
    rw [hget]
    exact (Dict.get?_ofList_of_mem (by simp) (List.mem_singleton_self _)).symm

/-- A class without an owner registration is loaded as it is alone. -/
theorem loadExternal_direct (registrations : Registrations) {c : ExternalClassPolicy}
    (hr : c.ownerRegistration = none) :
    loadExternal setup env state round.block registrations c =
      ownLoad setup env state round c := by
  unfold ownLoad ownRegistrations
  rw [hr]
  exact loadExternal_congr (.inl hr)

/-- Without registrations a registered class fails. -/
theorem loadExternal_unregistered {c : ExternalClassPolicy} (hr : c.ownerRegistration ≠ none) :
    loadExternal setup env state round.block ∅ c = .error (.other "KeyError" c.classId) := by
  cases hsome : c.ownerRegistration with
  | none => exact absurd hsome hr
  | some r =>
    have hnone : (∅ : Registrations).get? c.classId = none := rfl
    simp [loadExternal, effectivePolicy, hsome, hnone, bind, Except.bind]

end Registrations

/-! ## The class loop -/

section Loop

variable {setup : Setup} {env : TickEnv} {state : ValidatorState} {round : OpenRound}
  {registrations : Registrations} {localDecisions : List ClassDecision} {burn : String}

/-- The decision recorded for an external class in a round with a burn destination. -/
def recordedDecision (round : OpenRound) (c : ExternalClassPolicy) :
    Except Exc LoadedExternal → Except Exc ClassDecision
  | .error e => pure (revokedClassDecision c (classFailure e))
  | .ok loaded => decideLoaded round loaded

theorem decideExternal_ok (hburn : setup.policy.burnHotkey = some burn)
    {acc acc' : ClassRound} {configured : ExternalClassPolicy × Except Exc LoadedExternal}
    (h : decideExternal setup (coldkeyByHotkey round.peers) acc configured = .ok acc') :
    ∃ d, recordedDecision round configured.1 configured.2 = .ok d ∧
      acc'.decisions = acc.decisions ++ [d] := by
  rcases configured with ⟨c, loaded⟩
  cases loaded with
  | error e =>
    simp only [decideExternal, hburn, reduceCtorEq, if_false] at h
    cases h
    exact ⟨_, rfl, rfl⟩
  | ok loaded =>
    rcases bind_eq_ok.mp h with ⟨d, hd, h⟩
    cases h
    exact ⟨d, hd, rfl⟩

theorem decideExternal_of_recorded (hburn : setup.policy.burnHotkey = some burn)
    (acc : ClassRound) {configured : ExternalClassPolicy × Except Exc LoadedExternal}
    {d : ClassDecision} (h : recordedDecision round configured.1 configured.2 = .ok d) :
    ∃ acc', decideExternal setup (coldkeyByHotkey round.peers) acc configured = .ok acc' ∧
      acc'.decisions = acc.decisions ++ [d] := by
  rcases configured with ⟨c, loaded⟩
  cases loaded with
  | error e =>
    cases h
    exact ⟨_, by simp only [decideExternal, hburn, reduceCtorEq, if_false]; rfl, rfl⟩
  | ok loaded => exact ⟨_, bind_eq_ok.mpr ⟨d, h, rfl⟩, rfl⟩

/-- The class loop returns exactly when every class is decided. -/
theorem decideExternal_foldlM (hburn : setup.policy.burnHotkey = some burn)
    (load : ExternalClassPolicy → Except Exc LoadedExternal) {decisions : List ClassDecision} :
    ∀ (classes : List ExternalClassPolicy) (acc : ClassRound),
      (∃ acc', (classes.zip (classes.map load)).foldlM
          (decideExternal setup (coldkeyByHotkey round.peers)) acc = .ok acc' ∧
        acc'.decisions = decisions) ↔
      ∃ recorded, List.Forall₂ (fun c d => recordedDecision round c (load c) = .ok d)
        classes recorded ∧ decisions = acc.decisions ++ recorded
  | [], acc => by
    constructor
    · rintro ⟨acc', h, rfl⟩
      cases h
      exact ⟨[], .nil, by simp⟩
    · rintro ⟨recorded, hall, rfl⟩
      cases hall
      exact ⟨acc, rfl, by simp⟩
  | c :: rest, acc => by
    rw [List.map_cons, List.zip_cons_cons, List.foldlM_cons]
    constructor
    · rintro ⟨acc', h, hdecisions⟩
      rcases bind_eq_ok.mp h with ⟨mid, hfirst, hrest⟩
      rcases decideExternal_ok hburn hfirst with ⟨d, hd, hmid⟩
      rcases (decideExternal_foldlM hburn load rest mid).mp ⟨acc', hrest, hdecisions⟩ with
        ⟨recorded, hall, heq⟩
      exact ⟨d :: recorded, .cons hd hall, by simp [heq, hmid]⟩
    · rintro ⟨_, hall, rfl⟩
      rcases List.forall₂_cons_left_iff.mp hall with ⟨d, recorded, hd, htail, rfl⟩
      have hd' : recordedDecision round (c, load c).1 (c, load c).2 = .ok d := hd
      rcases decideExternal_of_recorded hburn acc hd' with ⟨mid, hfirst, hmid⟩
      rcases (decideExternal_foldlM hburn load rest mid).mpr ⟨recorded, htail, rfl⟩ with
        ⟨acc', hrest, hdecisions⟩
      exact ⟨acc', bind_eq_ok.mpr ⟨mid, hfirst, hrest⟩, by simp [hdecisions, hmid]⟩

/-- The decision of a class in the round: the local one, or the recorded one. -/
inductive RoundDecision (setup : Setup) (env : TickEnv) (state : ValidatorState)
    (round : OpenRound) (registrations : Registrations) (localDecisions : List ClassDecision) :
    ClassPolicy → ClassDecision → Prop where
  | localSat {policy : LocalClassPolicy} {d : ClassDecision} : localDecisions = [d] →
      d.classId = policy.classId → d.kind = .localSat → WellNormalized d.normalizedWeights →
      RoundDecision setup env state round registrations localDecisions (.localSat policy) d
  | external {c : ExternalClassPolicy} {d : ClassDecision} :
      recordedDecision round c (loadExternal setup env state round.block registrations c) = .ok d →
      RoundDecision setup env state round registrations localDecisions (.external c) d

theorem effectivePolicy_classId {c : ExternalClassPolicy}
    {effective : ExternalClassPolicy ×
      Option (VerifiedOwnerRegistration × RegistrationCheckpoint)}
    (h : effectivePolicy registrations c = .ok effective) : effective.1.classId = c.classId := by
  unfold effectivePolicy at h
  split at h
  · cases h
    rfl
  · split at h
    · cases h
    · rcases bind_eq_ok.mp h with ⟨policy, hpolicy, h⟩
      cases h
      unfold materializeRegisteredPolicy at hpolicy
      split_ifs at hpolicy
      · cases hpolicy
      · cases hpolicy
      · cases hpolicy
        rfl

theorem loadExternal_classId {block : ℤ} {c : ExternalClassPolicy} {loaded : LoadedExternal}
    (h : loadExternal setup env state block registrations c = .ok loaded) :
    loaded.policy.classId = c.classId := by
  rcases bind_eq_ok.mp h with ⟨effective, heffective, h⟩
  rcases bind_eq_ok.mp h with ⟨answer, -, h⟩
  cases h
  exact effectivePolicy_classId heffective

theorem decideLoaded_ok {loaded : LoadedExternal} {d : ClassDecision}
    (h : decideLoaded round loaded = .ok d) :
    d.classId = loaded.policy.classId ∧ d.kind = .external ∧
      WellNormalized d.normalizedWeights := by
  rcases externalClassDecision_ok h with ⟨hid, hkind, -, hcollapse, -⟩
  exact ⟨hid, hkind, wellNormalized_of_collapse hcollapse⟩

/-- A decision of the round is a decision for its class. -/
theorem RoundDecision.wellFormed {c : ClassPolicy} {d : ClassDecision}
    (h : RoundDecision setup env state round registrations localDecisions c d) :
    d.classId = c.classId ∧ d.kind = c.kind ∧ WellNormalized d.normalizedWeights := by
  cases h with
  | localSat _ hid hkind hweights => exact ⟨hid, hkind, hweights⟩
  | @external c d hrecorded =>
    cases hload : loadExternal setup env state round.block registrations c with
    | error e =>
      rw [hload] at hrecorded
      cases hrecorded
      exact ⟨rfl, rfl, wellNormalized_empty⟩
    | ok loaded =>
      rw [hload] at hrecorded
      rcases decideLoaded_ok hrecorded with ⟨hid, hkind, hweights⟩
      exact ⟨hid.trans (loadExternal_classId hload), hkind, hweights⟩

theorem scoreLocal_ok {emaScores : Dict String PyFloat}
    (h : scoreLocal setup env state round.peers = .ok (emaScores, localDecisions)) :
    setup.policy.localClass = none ∧ localDecisions = [] ∨
      ∃ c d, setup.policy.localClass = some c ∧ localDecisions = [d] ∧
        d.classId = c.classId ∧ d.kind = .localSat ∧ WellNormalized d.normalizedWeights := by
  unfold scoreLocal at h
  cases hlocal : setup.policy.localClass with
  | none =>
    rw [hlocal] at h
    cases h
    exact .inl ⟨rfl, rfl⟩
  | some c =>
    simp only [hlocal] at h
    rcases bind_eq_ok.mp h with ⟨results, -, h⟩
    rcases bind_eq_ok.mp h with ⟨newEma, -, h⟩
    rcases bind_eq_ok.mp h with ⟨eligible, -, h⟩
    rcases bind_eq_ok.mp h with ⟨d, hd, h⟩
    cases h
    rcases localClassDecision_ok hd with ⟨hid, hkind, -, hcollapse⟩
    exact .inr ⟨c, d, rfl, rfl, hid, hkind, wellNormalized_of_collapse hcollapse⟩

/-! ## Ordering and composing -/

/-- Decisions in the order of the classes, one for each. -/
theorem ordered_covers {policy : ScorePolicy} {decisions : List ClassDecision}
    (h : List.Forall₂ (fun c d => d.classId = ClassPolicy.classId c) policy.classes decisions) :
    Covers policy decisions ∧
      ∀ c d, (c, d) ∈ policy.classes.zip decisions →
        (decisionsById decisions).get? c.classId = some d := by
  have hids : decisions.map ClassDecision.classId = policy.classes.map ClassPolicy.classId := by
    refine List.ext_getElem (by simp [h.length_eq]) fun i hi hi' => ?_
    rw [List.getElem_map, List.getElem_map]
    exact (List.forall₂_iff_get.mp h).2 i (by simpa using hi') (by simpa using hi)
  have hkeys : (decisions.map fun item => (item.classId, item)).map Prod.fst =
      policy.classes.map ClassPolicy.classId := by
    rw [← hids, List.map_map]
    rfl
  have hnodup : ((decisions.map fun item => (item.classId, item)).map Prod.fst).Nodup :=
    hkeys ▸ policy.nodup_ids
  refine ⟨⟨?_, ?_⟩, fun c d hmem => ?_⟩
  · rw [decisionsById, Dict.items_ofList hnodup, List.length_map]
  · rw [decisionsById, Dict.keys, Dict.items_ofList hnodup, hkeys]
  · have hid : d.classId = c.classId := (List.forall₂_iff_zip.mp h).2 hmem
    refine Dict.get?_ofList_of_mem hnodup ?_
    rw [← hid]
    exact List.mem_map_of_mem (List.of_mem_zip hmem).2

/-- In the order of the policy every class stands with its own decision. -/
theorem orderDecisions_ok {emaScores : Dict String PyFloat}
    {recorded ordered : List ClassDecision}
    (hlocal : scoreLocal setup env state round.peers = .ok (emaScores, localDecisions))
    (hrecorded : List.Forall₂ (fun c d => recordedDecision round c
      (loadExternal setup env state round.block registrations c) = .ok d)
      setup.policy.externalClasses recorded)
    (h : orderDecisions setup.policy (localDecisions ++ recorded) = .ok ordered) :
    List.Forall₂ (RoundDecision setup env state round registrations localDecisions)
      setup.policy.classes ordered := by
  have hget := mapM_eq_ok.mp h
  refine List.forall₂_iff_zip.mpr ⟨hget.length_eq, fun {c d} hmem => ?_⟩
  have hc : c ∈ setup.policy.classes := (List.of_mem_zip hmem).1
  have hlookup : (decisionsById (localDecisions ++ recorded)).get? c.classId = some d := by
    have hitem := (List.forall₂_iff_zip.mp hget).2 hmem
    simp only [decisionsById]
    split at hitem
    · cases hitem
    · cases hitem
      assumption
  rcases mem_of_decisionsById hlookup with ⟨hd, hid⟩
  rcases List.mem_append.mp hd with hd | hd
  -- the class of a decision is the class with the decision's id
  · rcases scoreLocal_ok hlocal with ⟨-, rfl⟩ | ⟨p, d', hp, rfl, hpid, hkind, hw⟩
    · cases hd
    · rw [List.mem_singleton] at hd
      subst hd
      have heq : c = ClassPolicy.localSat p :=
        ScorePolicy.class_unique hc (ScorePolicy.mem_localClass.mp hp) (hid.symm.trans hpid)
      subst heq
      exact .localSat rfl hpid hkind hw
  · rcases exists_of_forall₂ hrecorded.flip hd with ⟨e, he, hrec⟩
    have hround : RoundDecision setup env state round registrations localDecisions
        (.external e) d := .external hrec
    have heq : c = ClassPolicy.external e :=
      ScorePolicy.class_unique hc (ScorePolicy.mem_externalClasses.mp he)
        (hid.symm.trans hround.wellFormed.1)
    rw [heq]
    exact hround

/-- Every class of the policy finds a decision. -/
theorem orderDecisions_isOk {emaScores : Dict String PyFloat} {recorded : List ClassDecision}
    (hlocal : scoreLocal setup env state round.peers = .ok (emaScores, localDecisions))
    (hrecorded : List.Forall₂ (fun c d => recordedDecision round c
      (loadExternal setup env state round.block registrations c) = .ok d)
      setup.policy.externalClasses recorded) :
    ∃ ordered, orderDecisions setup.policy (localDecisions ++ recorded) = .ok ordered := by
  refine mapM_isOk fun c hc => ?_
  have hfound : ∃ d ∈ localDecisions ++ recorded, d.classId = c.classId := by
    cases c with
    | localSat p =>
      have hp := ScorePolicy.mem_localClass.mpr hc
      rcases scoreLocal_ok hlocal with ⟨hnone, -⟩ | ⟨p', d, hp', rfl, hid, -⟩
      · rw [hp] at hnone
        cases hnone
      · rw [hp] at hp'
        cases hp'
        exact ⟨d, by simp, hid⟩
    | external e =>
      rcases exists_of_forall₂ hrecorded (ScorePolicy.mem_externalClasses.mpr hc) with
        ⟨d, hd, hrec⟩
      have hround : RoundDecision setup env state round registrations localDecisions
          (.external e) d := .external hrec
      exact ⟨d, List.mem_append_right _ hd, hround.wellFormed.1⟩
  rcases hfound with ⟨d, hd, hid⟩
  have hkey : c.classId ∈ (decisionsById (localDecisions ++ recorded)).keys := by
    rw [decisionsById, Dict.mem_keys_ofList, List.map_map, ← hid]
    exact List.mem_map_of_mem hd
  rcases Dict.mem_keys.mp hkey with ⟨d', hd'⟩
  refine ⟨d', ?_⟩
  rw [decisionsById] at hd'
  simp only [hd']
  rfl

/-- A round that composes: its registrations, its recorded decisions and their order. -/
theorem composeRound_ok {emaScores : Dict String PyFloat} {composed : ComposedRound}
    (hburn : setup.policy.burnHotkey = some burn)
    (hlocal : scoreLocal setup env state round.peers = .ok (emaScores, localDecisions))
    (h : composeRound setup env state round = .ok composed) :
    ∃ registrations, roundRegistrations setup env state round = .ok registrations ∧
      (∀ c ∈ setup.policy.externalClasses, ∃ d, recordedDecision round c
        (loadExternal setup env state round.block registrations c) = .ok d) ∧
      List.Forall₂ (RoundDecision setup env state round registrations localDecisions)
        setup.policy.classes composed.decisions ∧
      composeClassDecisions setup.policy composed.decisions = .ok composed.hotkeyWeights := by
  unfold composeRound at h
  rw [hlocal] at h
  rcases bind_eq_ok.mp h with ⟨pair, hpair, h⟩
  cases hpair
  rcases bind_eq_ok.mp h with ⟨registrations, hregistrations, h⟩
  rcases bind_eq_ok.mp h with ⟨classes, hclasses, h⟩
  rcases bind_eq_ok.mp h with ⟨ordered, hordered, h⟩
  rcases bind_eq_ok.mp h with ⟨hotkeyWeights, hweights, h⟩
  cases h
  rcases (decideExternal_foldlM hburn
    (loadExternal setup env state round.block registrations) _ _).mp ⟨classes, hclasses, rfl⟩ with
    ⟨recorded, hrecorded, hdecisions⟩
  rw [hdecisions] at hordered
  refine ⟨registrations, hregistrations, fun c hc => ?_,
    orderDecisions_ok hlocal hrecorded hordered, hweights⟩
  rcases exists_of_forall₂ hrecorded hc with ⟨d, -, hd⟩
  exact ⟨d, hd⟩

theorem forall₂_classId {decisions : List ClassDecision}
    (h : List.Forall₂ (RoundDecision setup env state round registrations localDecisions)
      setup.policy.classes decisions) :
    List.Forall₂ (fun c d => d.classId = ClassPolicy.classId c) setup.policy.classes decisions :=
  h.imp fun _ _ hround => hround.wellFormed.1

theorem allWellNormalized_of_round {decisions : List ClassDecision}
    (h : List.Forall₂ (RoundDecision setup env state round registrations localDecisions)
      setup.policy.classes decisions) : AllWellNormalized decisions := by
  intro d hd
  rcases exists_of_forall₂ h.flip hd with ⟨c, -, hround⟩
  exact hround.wellFormed.2.2

/-- The converse: decided classes that keep clear of the burn hotkey compose. -/
theorem composeRound_isOk {emaScores : Dict String PyFloat}
    (hburn : setup.policy.burnHotkey = some burn)
    (hlocal : scoreLocal setup env state round.peers = .ok (emaScores, localDecisions))
    (hregistrations : roundRegistrations setup env state round = .ok registrations)
    (hrecorded : ∀ c ∈ setup.policy.externalClasses, ∃ d, recordedDecision round c
      (loadExternal setup env state round.block registrations c) = .ok d)
    (hfree : ∀ c ∈ setup.policy.classes, ∀ d,
      RoundDecision setup env state round registrations localDecisions c d →
        d.normalizedWeights.get? burn = none) :
    ∃ composed, composeRound setup env state round = .ok composed := by
  rcases mapM_isOk hrecorded with ⟨recorded, hrecorded⟩
  rw [mapM_eq_ok] at hrecorded
  rcases orderDecisions_isOk hlocal hrecorded with ⟨ordered, hordered⟩
  have hround := orderDecisions_ok hlocal hrecorded hordered
  rcases ordered_covers (forall₂_classId hround) with ⟨hcovers, -⟩
  have hacc : AllAccepted setup.policy.burnHotkey (decisionsById ordered) setup.policy.classes := by
    intro c hc d hd
    rcases mem_of_decisionsById hd with ⟨hmem, hid⟩
    rcases exists_of_forall₂ hround.flip hmem with ⟨c', hc', hdecided⟩
    have heq : c' = c :=
      ScorePolicy.class_unique hc' hc (hdecided.wellFormed.1.symm.trans hid)
    subst heq
    refine ⟨hdecided.wellFormed.2.1, fun _ => by rw [hburn]; rfl, fun b hb => ?_⟩
    rw [hburn, Option.mem_some_iff] at hb
    subst hb
    exact hfree c' hc' d hdecided
  have hsome : ¬ (setup.policy.burnHotkey = none ∧ ordered ≠ [] ∧
      (ordered.all fun item => item.normalizedWeights.isEmpty) = true) := by
    rw [hburn]
    simp
  rcases composed_of_loop hcovers (allWellNormalized_of_round hround) hacc hsome with
    ⟨vector, hvector, -⟩
  rcases (decideExternal_foldlM hburn
    (loadExternal setup env state round.block registrations) setup.policy.externalClasses
    { decisions := localDecisions
      classCheckpoints := state.classCheckpoints
      registrationCheckpoints := state.registrationCheckpoints }).mpr ⟨recorded, hrecorded, rfl⟩
    with ⟨classes, hclasses, hdecisions⟩
  refine ⟨⟨emaScores, registrations, classes, ordered, vector⟩, ?_⟩
  refine bind_eq_ok.mpr ⟨_, hlocal, bind_eq_ok.mpr ⟨_, hregistrations, ?_⟩⟩
  refine bind_eq_ok.mpr ⟨classes, hclasses, bind_eq_ok.mpr ⟨ordered, ?_, ?_⟩⟩
  · rw [hdecisions]
    exact hordered
  · exact bind_eq_ok.mpr ⟨vector, hvector, rfl⟩

/-- What a composed round gives: every class its decision's weights, clear of the
burn hotkey, and every hotkey the sum of the class shares. -/
theorem composeRound_shares {composed : ComposedRound}
    (hburn : setup.policy.burnHotkey = some burn)
    (hround : List.Forall₂ (RoundDecision setup env state round registrations localDecisions)
      setup.policy.classes composed.decisions)
    (hok : composeClassDecisions setup.policy composed.decisions = .ok composed.hotkeyWeights) :
    (∀ c ∈ setup.policy.classes, ∃ d,
      RoundDecision setup env state round registrations localDecisions c d ∧
      weightsOf (decisionsById composed.decisions) c = d.normalizedWeights ∧
      d.normalizedWeights.get? burn = none) ∧
    ∀ hotkey, composed.hotkeyWeights.getD hotkey 0 =
      (setup.policy.classes.map fun c => c.allocation *
        classShare (some burn) (weightsOf (decisionsById composed.decisions) c) hotkey).sum := by
  rcases composeClassDecisions_ok (allWellNormalized_of_round hround) hok with ⟨-, hcase⟩
  rcases hcase with ⟨hnone, -⟩ | ⟨hacc, hcomposed⟩
  · rw [hburn] at hnone
    cases hnone
  · constructor
    · intro c hc
      rcases List.mem_iff_getElem.mp hc with ⟨i, hi, rfl⟩
      have hi' : i < composed.decisions.length := hround.length_eq ▸ hi
      have hdecided := (List.forall₂_iff_get.mp hround).2 i hi hi'
      have hmem : (setup.policy.classes[i], composed.decisions[i]) ∈
          setup.policy.classes.zip composed.decisions :=
        List.mem_iff_getElem.mpr ⟨i, by simp only [List.length_zip]; omega, by simp⟩
      have hget := (ordered_covers (forall₂_classId hround)).2 _ _ hmem
      refine ⟨composed.decisions[i], hdecided, by simp [weightsOf, hget], ?_⟩
      exact (hacc _ hc _ hget).burn_absent burn hburn
    · intro hotkey
      rw [← Dict.sumOn_eq, hcomposed.sumOn]
      simp only [classPart_eq_classShare, hburn]

end Loop

/-! ## Isolation -/

section Isolation

variable {setup : Setup} {env : TickEnv} {state : ValidatorState} {round : OpenRound}
  {registrations : Registrations} {localDecisions : List ClassDecision} {burn : String}

theorem roundRegistrations_ok (hburn : setup.policy.burnHotkey = some burn)
    (h : roundRegistrations setup env state round = .ok registrations) :
    loadOwnerRegistrations setup env state round.peers round.block false = .ok registrations ∨
      (∃ message, loadOwnerRegistrations setup env state round.peers round.block false =
        fail message) ∧ registrations = ∅ := by
  unfold roundRegistrations at h
  split at h
  · cases h
    left
    assumption
  · rename_i message heq
    rw [hburn] at h
    cases h
    exact .inr ⟨⟨message, heq⟩, rfl⟩
  · cases h

theorem roundRegistrations_of_fail (hburn : setup.policy.burnHotkey = some burn)
    {message : String}
    (h : loadOwnerRegistrations setup env state round.peers round.block false = fail message) :
    roundRegistrations setup env state round = .ok ∅ := by
  simp [roundRegistrations, h, fail, hburn, pure, Except.pure]

theorem ownWeights_localSat {policy : LocalClassPolicy} {d : ClassDecision}
    (h : localDecisions = [d]) :
    ownWeights setup env state round localDecisions (.localSat policy) = d.normalizedWeights := by
  simp [ownWeights, h]

/-- A class that is loaded as it is alone records what it decides alone. -/
theorem ownWeights_of_alone {c : ExternalClassPolicy} {d : ClassDecision}
    (halone : loadExternal setup env state round.block registrations c =
      ownLoad setup env state round c)
    (h : recordedDecision round c (loadExternal setup env state round.block registrations c) =
      .ok d) :
    ownWeights setup env state round localDecisions (.external c) = d.normalizedWeights := by
  rw [halone] at h
  cases hload : ownLoad setup env state round c with
  | error e =>
    rw [hload] at h
    cases h
    simp [ownWeights, ownDecision, hload, bind, Except.bind, revokedClassDecision]
  | ok loaded =>
    rw [hload] at h
    have hdecided : decideLoaded round loaded = .ok d := h
    simp [ownWeights, ownDecision, hload, hdecided, bind, Except.bind]

/-- The composed vector shows every class as it is alone: a class with scores
distributes its allocation over them, any other gives it to the burn hotkey. -/
def Isolates (setup : Setup) (env : TickEnv) (runner : Runner) (round : OpenRound)
    (localDecisions : List ClassDecision) (burn : String) : Prop :=
  ∃ composed, composeRound setup env runner.state round = .ok composed ∧
    .composed composed.hotkeyWeights ∈ (tick setup env runner).events ∧
    (∀ c ∈ setup.policy.classes,
      weightsOf (decisionsById composed.decisions) c =
        ownWeights setup env runner.state round localDecisions c ∧
      WellNormalized (ownWeights setup env runner.state round localDecisions c)) ∧
    ∀ hotkey, composed.hotkeyWeights.getD hotkey 0 =
      (setup.policy.classes.map fun c => c.allocation * classShare (some burn)
        (ownWeights setup env runner.state round localDecisions c) hotkey).sum

/-- The failures of the classes stay where they are: if the registrations do not
all load, they fail with the error that the tick expects and cost no class that
has scores of its own; every report that is loaded can be decided; no class
scores the burn hotkey. -/
structure FailuresContained (setup : Setup) (env : TickEnv) (state : ValidatorState)
    (round : OpenRound) (localDecisions : List ClassDecision) (burn : String) : Prop where
  authorized : AllAuthorized setup env state round ∨
    (∃ message, loadOwnerRegistrations setup env state round.peers round.block false =
      fail message) ∧
    ∀ c ∈ setup.policy.externalClasses, c.ownerRegistration ≠ none →
      ownWeights setup env state round localDecisions (.external c) = ∅
  decided : ∀ c ∈ setup.policy.externalClasses,
    c.ownerRegistration = none ∨ AllAuthorized setup env state round →
    ∀ loaded, ownLoad setup env state round c = .ok loaded → ∃ d, decideLoaded round loaded = .ok d
  burnFree : ∀ c ∈ setup.policy.classes,
    (ownWeights setup env state round localDecisions c).get? burn = none

/-- In a round whose registrations are `registrations`, a class is either loaded
as it is alone, or it is registered and there are no registrations. -/
theorem load_cases (hburn : setup.policy.burnHotkey = some burn)
    (h : roundRegistrations setup env state round = .ok registrations)
    {c : ExternalClassPolicy} (hc : c ∈ setup.policy.externalClasses) :
    loadExternal setup env state round.block registrations c = ownLoad setup env state round c ∧
        (c.ownerRegistration = none ∨ AllAuthorized setup env state round) ∨
      c.ownerRegistration ≠ none ∧ ¬ AllAuthorized setup env state round ∧
        loadExternal setup env state round.block registrations c =
          .error (.other "KeyError" c.classId) := by
  rcases roundRegistrations_ok hburn h with hload | ⟨⟨message, hfail⟩, rfl⟩
  · exact .inl ⟨loadExternal_alone hload hc, .inr (loadOwnerRegistrations_isOk.mp ⟨_, hload⟩)⟩
  · have hnot : ¬ AllAuthorized setup env state round := by
      intro hall
      rcases loadOwnerRegistrations_isOk.mpr hall with ⟨regs, hregs⟩
      rw [hfail] at hregs
      cases hregs
    by_cases hr : c.ownerRegistration = none
    · exact .inl ⟨loadExternal_direct ∅ hr, .inl hr⟩
    · exact .inr ⟨hr, hnot, loadExternal_unregistered hr⟩

/-- When failures are contained, a decision of the round is the class's own. -/
theorem FailuresContained.own_eq (hburn : setup.policy.burnHotkey = some burn)
    (hcontained : FailuresContained setup env state round localDecisions burn)
    (hregistrations : roundRegistrations setup env state round = .ok registrations)
    {c : ClassPolicy} (hc : c ∈ setup.policy.classes) {d : ClassDecision}
    (h : RoundDecision setup env state round registrations localDecisions c d) :
    ownWeights setup env state round localDecisions c = d.normalizedWeights := by
  cases h with
  | localSat hsingle _ _ _ => exact ownWeights_localSat hsingle
  | @external c d hrecorded =>
    have hmem := ScorePolicy.mem_externalClasses.mpr hc
    rcases load_cases hburn hregistrations hmem with ⟨halone, -⟩ | ⟨hr, hnot, hload⟩
    · exact ownWeights_of_alone halone hrecorded
    · rw [hload] at hrecorded
      cases hrecorded
      rcases hcontained.authorized with hall | ⟨-, hempty⟩
      · exact absurd hall hnot
      · exact hempty c hmem hr

/-- The registrations of a round whose failures are contained. -/
theorem FailuresContained.registered (hburn : setup.policy.burnHotkey = some burn)
    (hcontained : FailuresContained setup env state round localDecisions burn) :
    ∃ registrations, roundRegistrations setup env state round = .ok registrations := by
  rcases hcontained.authorized with hall | ⟨⟨message, hfail⟩, -⟩
  · rcases loadOwnerRegistrations_isOk.mpr hall with ⟨registrations, h⟩
    exact ⟨registrations, by simp [roundRegistrations, h, pure, Except.pure]⟩
  · exact ⟨∅, roundRegistrations_of_fail hburn hfail⟩

/-- Every external class of such a round is decided. -/
theorem FailuresContained.recorded (hburn : setup.policy.burnHotkey = some burn)
    (hcontained : FailuresContained setup env state round localDecisions burn)
    (hregistrations : roundRegistrations setup env state round = .ok registrations) :
    ∀ c ∈ setup.policy.externalClasses, ∃ d, recordedDecision round c
      (loadExternal setup env state round.block registrations c) = .ok d := by
  intro c hc
  rcases load_cases hburn hregistrations hc with ⟨halone, hreach⟩ | ⟨-, -, hload⟩
  · rw [halone]
    cases hload : ownLoad setup env state round c with
    | error e => exact ⟨_, rfl⟩
    | ok loaded => exact hcontained.decided c hc hreach loaded hload
  · rw [hload]
    exact ⟨_, rfl⟩

theorem composed_mem_tick {runner : Runner} {composed : ComposedRound}
    (hp : runner.state.pendingVector = none)
    (hopen : openRound setup env runner = .ok (some round))
    (hcomposed : composeRound setup env runner.state round = .ok composed) :
    .composed composed.hotkeyWeights ∈ (tick setup env runner).events := by
  simp only [tick, hp, hopen, scoreRound, hcomposed]
  cases prepareRound setup env round composed with
  | error e => exact List.mem_singleton_self _
  | ok prepared =>
    simp only
    split_ifs <;> exact List.mem_cons_self ..

end Isolation

/-- The classes of a round are isolated from each other exactly when the
failures are contained. -/
theorem tick_isolates_iff (setup : Setup) (env : TickEnv) (runner : Runner) (round : OpenRound)
    (emaScores : Dict String PyFloat) (localDecisions : List ClassDecision) (burn : String)
    (hp : runner.state.pendingVector = none)
    (hburn : setup.policy.burnHotkey = some burn)
    (hopen : openRound setup env runner = .ok (some round))
    (hlocal : scoreLocal setup env runner.state round.peers = .ok (emaScores, localDecisions)) :
    Isolates setup env runner round localDecisions burn ↔
      FailuresContained setup env runner.state round localDecisions burn := by
  constructor
  · rintro ⟨composed, hcomposed, -, hown, -⟩
    rcases composeRound_ok hburn hlocal hcomposed with
      ⟨registrations, hregistrations, hrecorded, hround, hok⟩
    rcases composeRound_shares hburn hround hok with ⟨hshares, -⟩
    refine ⟨?_, fun c hc hreach loaded hload => ?_, fun c hc => ?_⟩
    · rcases roundRegistrations_ok hburn hregistrations with hload | ⟨hfail, rfl⟩
      · exact .inl (loadOwnerRegistrations_isOk.mp ⟨_, hload⟩)
      -- the registered classes were revoked, so none of them has scores of its own
      · refine .inr ⟨hfail, fun c hc hr => ?_⟩
        have hmem := ScorePolicy.mem_externalClasses.mp hc
        rcases hshares _ hmem with ⟨d, hdecided, hweights, -⟩
        rw [← (hown _ hmem).1, hweights]
        cases hdecided with
        | external hrec =>
          rw [loadExternal_unregistered hr] at hrec
          cases hrec
          rfl
    · rcases load_cases hburn hregistrations hc with ⟨halone, -⟩ | ⟨hr, hnot, -⟩
      · rcases hrecorded c hc with ⟨d, hd⟩
        rw [halone, hload] at hd
        exact ⟨d, hd⟩
      · rcases hreach with hnone | hall
        · exact absurd hnone hr
        · exact absurd hall hnot
    · rcases hshares c hc with ⟨d, -, hweights, habsent⟩
      rw [← (hown c hc).1, hweights]
      exact habsent
  · intro hcontained
    rcases hcontained.registered hburn with ⟨registrations, hregistrations⟩
    have hrecorded := hcontained.recorded hburn hregistrations
    rcases composeRound_isOk hburn hlocal hregistrations hrecorded
      (fun c hc d hd => hcontained.own_eq hburn hregistrations hc hd ▸ hcontained.burnFree c hc)
      with ⟨composed, hcomposed⟩
    rcases composeRound_ok hburn hlocal hcomposed with ⟨registrations', hregs', -, hround, hok⟩
    rw [hregistrations] at hregs'
    cases hregs'
    rcases composeRound_shares hburn hround hok with ⟨hshares, hvector⟩
    have hown : ∀ c ∈ setup.policy.classes, weightsOf (decisionsById composed.decisions) c =
        ownWeights setup env runner.state round localDecisions c ∧
        WellNormalized (ownWeights setup env runner.state round localDecisions c) := by
      intro c hc
      rcases hshares c hc with ⟨d, hdecided, hweights, -⟩
      rw [hcontained.own_eq hburn hregistrations hc hdecided]
      exact ⟨hweights, hdecided.wellFormed.2.2⟩
    refine ⟨composed, hcomposed, composed_mem_tick hp hopen hcomposed, hown, fun hotkey => ?_⟩
    rw [hvector]
    refine congrArg List.sum (List.map_congr_left fun c hc => ?_)
    rw [(hown c hc).1]

/-! The policy of two halves, with one miner. -/

def halvesSetup : Setup := { soloSetup with policy := halvesPolicy }

/-- The external report scores the miner `score`. -/
def reportEnv (score : ℚ) : TickEnv :=
  { soloEnv with
    reportLoader := fun _ => .ok (reportOf [entryOf "miner" score], ⟨1, "report"⟩) }

def soloRound : OpenRound where
  metagraph := soloMetagraph
  peers := [{ uid := 7, hotkey := "miner", coldkey := "owner", serviceable := true }]
  block := 105
  roundId := 10

/-- The local class verified the miner. -/
def soloLocal : ClassDecision where
  classId := "local_sat"
  kind := .localSat
  allocation := 1 / 2
  sourceId := none
  sourceEpoch := none
  reportId := none
  assignment := .validatorLocalSat
  rawScores := Dict.ofList [("miner", 1)]
  normalizedWeights := Dict.ofList [("miner", 1)]
  provenance := .reasonCodes (Dict.ofList [("miner", "verified")])

theorem tick_isolates_iff_halves :
    Isolates halvesSetup (reportEnv 3) soloRunner soloRound [soloLocal] "b" := by
  have hlocal : scoreLocal halvesSetup (reportEnv 3) soloRunner.state soloRound.peers =
      .ok (Dict.ofList [("miner", .finite 1)], [soloLocal]) := by decide +kernel
  refine (tick_isolates_iff halvesSetup (reportEnv 3) soloRunner soloRound _ [soloLocal] "b"
    rfl rfl rfl hlocal).mpr ⟨.inl ?_, ?_, ?_⟩
  · intro registered hmem
    cases hmem
  · intro c hc _ loaded hload
    have hc' : c ∈ [externalHalf] := hc
    rw [List.mem_singleton] at hc'
    subst hc'
    have hdecided : (ownDecision halvesSetup (reportEnv 3) soloRunner.state soloRound
        externalHalf).toBool = true := by decide +kernel
    rw [ownDecision, hload] at hdecided
    cases hd : decideLoaded soloRound loaded with
    | ok d => exact ⟨d, rfl⟩
    | error e => simp [bind, Except.bind, hd, Except.toBool] at hdecided
  · decide +kernel

/-- A class whose report locations come from the owner of `sourceNetuid`. -/
def registeredHalf (classId : String) (sourceNetuid : ℤ) : ExternalClassPolicy :=
  { externalHalf with
    classId
    ownerRegistration := some
      { sourceNetuid
        locations := []
        maxAgeSeconds := 60
        maxFutureSeconds := 60
        maxBlockSpan := 100
        requireTargetRegistration := false } }

def registeredPolicy : ScorePolicy where
  network := "test"
  netuid := 1
  classes := [.external (registeredHalf "x" 5), .external (registeredHalf "y" 6)]
  digest := "digest"
  burnHotkey := some "b"
  nodup_ids := by decide
  allocation_pos := by decide +kernel
  sum_allocation := by decide +kernel
  localClass_unique := by decide

def registeredSetup : Setup := { soloSetup with policy := registeredPolicy }

def registrationOf (classPolicy : ExternalClassPolicy) : VerifiedOwnerRegistration where
  sourceNetuid := 5
  targetNetuid := 1
  ownerColdkey := "subnet owner"
  delegateHotkey := "delegate"
  sourceId := classPolicy.sourceId
  classIds := [classPolicy.classId]
  reportLocations := []
  reportKeys := ∅
  sequence := 1
  previousRegistrationId := none
  registrationId := zeroDigest.tagged
  validFromBlock := 0
  validUntilBlock := 200

/-- Subnet 6 has no owner; everything else answers, and both reports score the miner. -/
def ownerlessEnv : TickEnv :=
  { reportEnv 3 with
    subnetOwner := some fun sourceNetuid _ => .ok (if sourceNetuid = 5 then "subnet owner" else "")
    registrationLoader := fun request => .ok
      (registrationOf request.policy, ⟨"subnet owner", "delegate", 1, zeroDigest.tagged⟩) }

/-- A report that scores nobody stops the tick, and a class without an owner
takes the other registered class with it. -/
theorem class_failures_spread :
    ((tick halvesSetup (reportEnv 0) soloRunner).result =
        fail "configured class external_class has no positive scores" ∧
      openRound halvesSetup (reportEnv 0) soloRunner = .ok (some soloRound) ∧
      ¬ Isolates halvesSetup (reportEnv 0) soloRunner soloRound [soloLocal] "b") ∧
    (openRound registeredSetup ownerlessEnv soloRunner = .ok (some soloRound) ∧
      ownWeights registeredSetup ownerlessEnv soloRunner.state soloRound []
        (.external (registeredHalf "x" 5)) = Dict.ofList [("miner", 1)] ∧
      ¬ Isolates registeredSetup ownerlessEnv soloRunner soloRound [] "b") := by
  refine ⟨⟨by decide +kernel, rfl, ?_⟩, rfl, by decide +kernel, ?_⟩
  · rintro ⟨composed, -, hmem, -⟩
    have hnone : (tick halvesSetup (reportEnv 0) soloRunner).events.length = 0 := by decide +kernel
    rw [List.eq_nil_of_length_eq_zero hnone] at hmem
    cases hmem
  · rintro ⟨composed, hcomposed, -, -, hvector⟩
    have hburnt : (composeRound registeredSetup ownerlessEnv soloRunner.state soloRound).map
        ComposedRound.hotkeyWeights = .ok (Dict.ofList [("b", 1)]) := by decide +kernel
    rw [hcomposed] at hburnt
    have hminer := hvector "miner"
    rw [show composed.hotkeyWeights = _ from Except.ok.inj hburnt] at hminer
    exact absurd hminer (by decide +kernel)

end Cathedral.Thin
