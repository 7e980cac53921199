import Cathedral.Lanes.SolverArena

/-!
# Cathedral.Lanes.ArenaSteps — what a submission does to the arena

A submission is refused, or its solver is run over the batch and past the champion;
`validateSubmission_cases` says which, and what is left of the lane. The champion only
changes in `consider`.
-/

namespace Cathedral.Lanes.SolverArena

def VerifierResult.evaluation? (r : VerifierResult) : Option Evaluation :=
  match r.details with
  | .evaluated ev => some ev
  | _ => none

/-! ## The registry -/

section Registry

variable {lane : SolverArenaLane} {spec : SolverSpec} {cid : PyStr}

theorem register_get (r : SolverRegistry) (spec : SolverSpec) (cid : PyStr) :
    (r.register spec).2.get cid =
      if r.get spec.commitmentId = none ∧ spec.commitmentId = cid then some spec else r.get cid := by
  unfold SolverRegistry.register SolverRegistry.get
  cases h : r.byCommitment.get? spec.commitmentId with
  | some old => simp
  | none =>
    dsimp only
    rw [Dict.get?_set]
    by_cases hcid : spec.commitmentId = cid <;> simp [hcid]

theorem register_evaluated (r : SolverRegistry) (spec : SolverSpec) :
    (r.register spec).2.evaluated = r.evaluated := by
  unfold SolverRegistry.register
  split <;> rfl

/-- Registering keeps whoever was registered first. -/
theorem withSpec_get (lane : SolverArenaLane) (spec : SolverSpec) (cid : PyStr) :
    (lane.withSpec spec).registry.get cid =
      if lane.registry.get spec.commitmentId = none ∧ spec.commitmentId = cid then some spec
      else lane.registry.get cid := by
  unfold SolverArenaLane.withSpec
  split_ifs with hnone hboth hboth
  · show (lane.registry.register spec).2.get cid = some spec
    rw [register_get, if_pos hboth]
  · show (lane.registry.register spec).2.get cid = lane.registry.get cid
    rw [register_get, if_neg hboth]
  · rw [hboth.1] at hnone
    exact absurd rfl hnone
  · rfl

@[simp] theorem withSpec_evaluated :
    (lane.withSpec spec).registry.evaluated = lane.registry.evaluated := by
  unfold SolverArenaLane.withSpec
  split_ifs
  · exact register_evaluated _ _
  · rfl

@[simp] theorem withSpec_champion : (lane.withSpec spec).champion = lane.champion := by
  unfold SolverArenaLane.withSpec
  split_ifs <;> rfl

@[simp] theorem withSpec_adapters : (lane.withSpec spec).adapters = lane.adapters := by
  unfold SolverArenaLane.withSpec
  split_ifs <;> rfl

end Registry

/-! ## The champion -/

section Champion

variable {m m' : ChampionMachine} {spec : SolverSpec} {results : List InstanceResult}
  {timeouts : Dict String ℚ} {fall : Option RecordFall}

/-- When the record falls, there was no champion or its stored PAR-2 was beaten by the margin. -/
theorem consider_cases (h : m.consider spec results timeouts = (fall, m')) :
    (fall = none ∧ m' = m) ∨ (fall.isSome = true ∧
      m' = { m with champion := .crowned spec (par2Ms results timeouts) results } ∧
        (m.champion.commitmentId = none ∨ ∃ oldId, m.champion.commitmentId = some oldId ∧
          PyFloat.le (.finite m.dethroneMarginMs)
            (m.champion.par2Ms.sub (par2Ms results timeouts)) = true)) := by
  unfold ChampionMachine.consider at h
  dsimp only at h
  split at h
  · next hnone =>
      cases h
      exact Or.inr ⟨rfl, rfl, Or.inl hnone⟩
  · next oldId hold =>
      split_ifs at h with hsame hmargin
      · cases h
        exact Or.inl ⟨rfl, rfl⟩
      · cases h
        exact Or.inr ⟨rfl, rfl, Or.inr ⟨oldId, hold, hmargin⟩⟩
      · cases h
        exact Or.inl ⟨rfl, rfl⟩

end Champion

/-! ## A submission -/

/-- A submission whose solver was run. -/
structure Evaluated (H : Host) (lane : SolverArenaLane) (instances : List Instance)
    (sub : Submission) (result : Option VerifierResult) (lane' : SolverArenaLane)
    (spec : SolverSpec) (adapter : SolverAdapter) (results : List InstanceResult) : Prop where
  spec_eq : sub.spec = some spec
  needsEval : (lane.withSpec spec).registry.needsEval spec.commitmentId = true
  adapter_eq : lane.adapters.get? spec.commitmentId = some adapter
  ran : runBatch H adapter instances = some results
  result_eq : result = some ((lane.withSpec spec).judge instances sub spec results).1
  lane_eq : lane' = ((lane.withSpec spec).judge instances sub spec results).2

theorem validateSubmission_cases {H : Host} {lane lane' : SolverArenaLane}
    {instances : List Instance} {sub : Submission} {result : Option VerifierResult}
    (h : lane.validateSubmission H instances sub = (result, lane')) :
    (((sub.spec = none ∧ lane' = lane) ∨
        ∃ spec, sub.spec = some spec ∧ lane' = lane.withSpec spec) ∧
      ∀ r ∈ result, r.evaluation? = none ∧ r.rawMetric = 0 ∧ r.outcome = .invalid) ∨
    ∃ spec adapter results,
      Evaluated H lane instances sub result lane' spec adapter results := by
  unfold SolverArenaLane.validateSubmission at h
  split at h
  · next hnone =>
      cases h
      exact Or.inl ⟨Or.inl ⟨hnone, rfl⟩, by simp [refused, VerifierResult.evaluation?]⟩
  · next spec hspec =>
      dsimp only at h
      split_ifs at h with hneeds
      · cases h
        exact Or.inl ⟨Or.inr ⟨spec, hspec, rfl⟩, by simp [refused, VerifierResult.evaluation?]⟩
      · rw [withSpec_adapters] at h
        split at h
        · cases h
          exact Or.inl ⟨Or.inr ⟨spec, hspec, rfl⟩, by simp [refused, VerifierResult.evaluation?]⟩
        · next adapter hadapter =>
            split at h
            · cases h
              exact Or.inl ⟨Or.inr ⟨spec, hspec, rfl⟩, by simp⟩
            · next results hran =>
                cases h
                exact Or.inr ⟨spec, adapter, results, hspec, by simpa using hneeds, hadapter,
                  hran, rfl, rfl⟩

/-- A registered solver that was not evaluated and has an adapter is run. -/
theorem validateSubmission_of_ran {H : Host} {lane : SolverArenaLane} {instances : List Instance}
    {sub : Submission} {spec : SolverSpec} {adapter : SolverAdapter}
    {results : List InstanceResult} (hspec : sub.spec = some spec)
    (hneeds : (lane.withSpec spec).registry.needsEval spec.commitmentId = true)
    (hadapter : lane.adapters.get? spec.commitmentId = some adapter)
    (hran : runBatch H adapter instances = some results) :
    lane.validateSubmission H instances sub =
      (some ((lane.withSpec spec).judge instances sub spec results).1,
        ((lane.withSpec spec).judge instances sub spec results).2) := by
  unfold SolverArenaLane.validateSubmission
  rw [hspec]
  dsimp only
  rw [hneeds, withSpec_adapters, hadapter]
  dsimp only
  rw [hran]
  rfl

/-- What is reported of an evaluation. -/
theorem Evaluated.evaluation {H : Host} {lane lane' : SolverArenaLane} {instances : List Instance}
    {sub : Submission} {result : Option VerifierResult} {spec : SolverSpec}
    {adapter : SolverAdapter} {results : List InstanceResult} {r : VerifierResult}
    {ev : Evaluation} (h : Evaluated H lane instances sub result lane' spec adapter results)
    (hr : result = some r) (hev : r.evaluation? = some ev) :
    ev.commitmentId = spec.commitmentId ∧ ev.ownerHotkey = sub.minerHotkey ∧
      ev.marginalVbs = marginalVbsCount results lane.champion.champion.results ∧
        ev.recordFell = (lane.champion.consider spec results (timeoutsOf instances)).1.isSome ∧
          lane'.champion = (lane.champion.consider spec results (timeoutsOf instances)).2 := by
  have hresult := h.result_eq
  rw [hr, Option.some.injEq] at hresult
  subst hresult
  rw [SolverArenaLane.judge, VerifierResult.evaluation?, Option.some.injEq] at hev
  subst hev
  rw [h.lane_eq, SolverArenaLane.judge]
  simp only [withSpec_champion]
  exact ⟨trivial, trivial, trivial, trivial, trivial⟩

end Cathedral.Lanes.SolverArena
