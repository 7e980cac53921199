import Cathedral.Lanes.ArenaReign
import Cathedral.Lib.Once

/-!
# Cathedral.Lanes.ArenaCredit — who is paid for a published source

A source is registered by a submission or at the registry itself, its adapter turns up at
some time, and the first submission after that is evaluated. Every source is evaluated once
and earns the merit of that evaluation, however many identities submit it; the evaluation
and the crown go to whoever made that submission.

`sources_credited_iff` says when that is the identity that registered the source first,
`late_copy_credited` what a copy earns that is submitted at the right time. The fraction of
a score is an exact rational before it is rounded.
-/

namespace Cathedral.Lanes.SolverArena

/-! ## The score -/

structure ScoreResult where
  weightedScore : ℚ
  rejectionReason : Option String
  scoreParts : List (String × PyFloat)

/-- `speed_bonus`: half at the reference time. -/
def speedBonus (wallMs referenceMs : PyFloat) : ℚ :=
  match referenceMs, wallMs with
  | .finite reference, .finite wall =>
    if reference ≤ 0 then 0 else if wall < 0 then 0 else round6 (reference / (reference + wall))
  | _, _ => 0

/-- `reason or default`. -/
def reasonOr (reason : Option String) (default : String) : String :=
  match reason with
  | some r => if r = "" then default else r
  | none => default

def grade (v : VerifierResult) (wallMs timeLimitMs : ℚ) (referenceMs : Option ℚ)
    (attestedOk : Option Bool) (speedAware : Bool) : ScoreResult :=
  if !v.parsedOk || v.outcome = .invalid then ⟨0, some (reasonOr v.rejectionReason "invalid"), []⟩
  else if v.outcome = .timeout then
    ⟨0, some (reasonOr v.rejectionReason
      (if attestedOk = some false then "timeout_not_attested" else "timeout")),
      [("raw", .finite v.rawMetric)]⟩
  else
    let base := max 0 (min 1 v.rawMetric)
    let bonus := speedBonus (.finite wallMs) (.finite (referenceMs.getD timeLimitMs))
    let folded := if speedAware then round6 (1 / 2 * base + 1 / 2 * base * bonus) else base
    let score := max 0 (min 1 folded)
    ⟨score, if score = 0 then v.rejectionReason else none,
      [("base", .finite base), ("speed", .finite bonus)]⟩

/-- `score`, with the defaults of a result without an evaluation. -/
def score (timeLimitSeconds : ℕ) (v : VerifierResult) : ScoreResult :=
  let ev := v.evaluation?
  if !(v.parsedOk && v.outcome = .sat && 0 < v.rawMetric) then
    let graded := grade v 0 (timeLimitSeconds * 1000) none none false
    ⟨graded.weightedScore, graded.rejectionReason,
      [("par2_ms", (ev.map (·.par2Ms)).getD (.finite 0))]⟩
  else
    let par2 := (ev.map (·.par2Ms)).getD .posInf
    let championPar2 := (ev.map (·.championPar2Ms)).getD .posInf
    let base :=
      if championPar2 = .finite 0 ∨ championPar2 = .posInf then v.rawMetric
      else speedBonus par2 championPar2
    let fell := ev.any (·.recordFell)
    let reigns := ev.any (·.isChampion)
    let crown := max base (if fell || reigns then 1 else base)
    let mvbs := (ev.map (·.marginalVbs)).getD 0
    let bonus : ℚ := min (3 / 10) (1 / 10 * mvbs)
    ⟨round6 (min 1 (max 0 (7 / 10 * crown + bonus))), none,
      [("base_par2", .finite (round6 base)), ("crown", .finite (round6 crown)),
        ("marginal_vbs", .finite mvbs), ("vbs_bonus", .finite (round6 bonus)),
        ("par2_ms", par2), ("champion_par2_ms", championPar2),
        ("record_fell", .finite (if fell then 1 else 0)),
        ("is_champion", .finite (if reigns then 1 else 0))]⟩

/-- A refused submission scores nothing. -/
theorem score_of_invalid {v : VerifierResult} (h : v.outcome = .invalid) (timeLimitSeconds : ℕ) :
    (score timeLimitSeconds v).weightedScore = 0 := by
  rw [score, if_pos (by simp [h]), grade, if_pos (by simp [h])]

/-! ## Runs -/

/-- What changes a lane: a submission scored for a problem of some length, a commitment at
the registry, an adapter at the eval host. -/
inductive Action where
  | submit (instances : List Instance) (sub : Submission) (timeLimitSeconds : ℕ)
  | register (spec : SolverSpec)
  | install (cid : PyStr) (adapter : SolverAdapter)

def act (H : Host) (lane : SolverArenaLane) :
    Action → Option VerifierResult × SolverArenaLane
  | .submit instances sub _ => lane.validateSubmission H instances sub
  | .register spec => (none, { lane with registry := (lane.registry.register spec).2 })
  | .install cid adapter => (none, { lane with adapters := lane.adapters.set cid adapter })

/-- An action, with what it returned and the lane before and after it. -/
structure Event where
  before : SolverArenaLane
  action : Action
  result : Option VerifierResult
  after : SolverArenaLane

def actStep (H : Host) (s : SolverArenaLane) (l : Event) (t : SolverArenaLane) : Prop :=
  l.before = s ∧ l.after = t ∧ act H s l.action = (l.result, t)

/-- The commitment that an action registers, unless its source already is. -/
def Event.registered? (l : Event) : Option SolverSpec :=
  match l.action with
  | .submit _ sub _ => sub.spec
  | .register spec => some spec
  | .install _ _ => none

def Event.source? (l : Event) : Option PyStr :=
  match l.action with
  | .submit _ sub _ => sub.spec.map (·.commitmentId)
  | _ => none

def Event.evaluation? (l : Event) : Option Evaluation := l.result.bind (·.evaluation?)

def Event.evaluatedSource (l : Event) : Option PyStr := l.evaluation?.map (·.commitmentId)

/-- What a submission earns. -/
def Event.merit (l : Event) : ℚ :=
  match l.action, l.result with
  | .submit _ _ timeLimitSeconds, some r => (score timeLimitSeconds r).weightedScore
  | _, _ => 0

/-! ## Credit -/

/-- What was registered first for a source. -/
def firstSpec (start : SolverArenaLane) (ls : List Event) (cid : PyStr) : Option SolverSpec :=
  (start.registry.get cid).or ((ls.filterMap Event.registered?).find? (·.commitmentId = cid))

def firstRegistrant (start : SolverArenaLane) (ls : List Event) (cid : PyStr) : Option PyStr :=
  (firstSpec start ls cid).map (·.ownerHotkey)

/-- An evaluation, and the crown that it wins, go to the first registrant of the source. -/
def Credited (start : SolverArenaLane) (ls : List Event) (l : Event) : Prop :=
  ∀ ev, l.evaluation? = some ev →
    firstRegistrant start ls ev.commitmentId = some ev.ownerHotkey ∧
      (ev.recordFell = true → ∃ spec, l.after.champion.champion.spec = some spec ∧
        firstRegistrant start ls ev.commitmentId = some spec.ownerHotkey)

/-- What all submissions of a source earn together. -/
def meritOf (ls : List Event) (cid : PyStr) : ℚ :=
  ((ls.filter (·.source? = some cid)).map Event.merit).sum

/-- The promise of the arena to whoever publishes a source first. -/
structure SourcesCredited (start : SolverArenaLane) (ls : List Event) : Prop where
  once : (ls.filterMap Event.evaluatedSource).Nodup
  merit : ∀ cid, (∃ l ∈ ls, l.evaluatedSource = some cid ∧ meritOf ls cid = l.merit) ∨
    (cid ∉ ls.filterMap Event.evaluatedSource ∧ meritOf ls cid = 0)
  credited : ∀ l ∈ ls, Credited start ls l

/-- A submission whose solver is run comes from whoever has registered the source, if anybody
has before it. -/
def FromOwner (H : Host) (l : Event) : Prop :=
  ∀ instances sub timeLimitSeconds, l.action = .submit instances sub timeLimitSeconds →
    ∀ spec adapter results, sub.spec = some spec →
      (l.before.withSpec spec).registry.needsEval spec.commitmentId = true →
        l.before.adapters.get? spec.commitmentId = some adapter →
          runBatch H adapter instances = some results →
            ∀ first, l.before.registry.get spec.commitmentId = some first →
              first.ownerHotkey = sub.minerHotkey

section Credit

variable {H : Host} {s t start : SolverArenaLane} {l : Event} {ls : List Event}

/-- A submission is recorded under the hotkey that makes it. -/
theorem Submission.spec_owner {sub : Submission} {spec : SolverSpec} (h : sub.spec = some spec) :
    spec.ownerHotkey = sub.minerHotkey := by
  simp only [Submission.spec, Option.bind_eq_bind, Option.bind_eq_some_iff, Option.some.injEq] at h
  obtain ⟨-, -, -, -, -, -, rfl⟩ := h
  rfl

/-! ### One action -/

def Event.Ran (H : Host) (l : Event) (spec : SolverSpec) (adapter : SolverAdapter)
    (results : List InstanceResult) : Prop :=
  ∃ instances sub timeLimitSeconds, l.action = .submit instances sub timeLimitSeconds ∧
    Evaluated H l.before instances sub l.result l.after spec adapter results

/-- An action evaluates nothing and earns nothing, or runs a solver. -/
theorem actStep_cases (hl : actStep H s l t) :
    (l.evaluation? = none ∧ l.merit = 0 ∧ t.registry.evaluated = s.registry.evaluated) ∨
      ∃ spec adapter results, l.Ran H spec adapter results := by
  rcases l with ⟨before, action, result, after⟩
  obtain ⟨hbefore, hafter, hact⟩ := hl
  dsimp only at hbefore hafter hact
  subst hbefore hafter
  cases action with
  | submit instances sub timeLimitSeconds =>
    rcases validateSubmission_cases hact with ⟨hkept, hresult⟩ | ⟨spec, adapter, results, he⟩
    · refine Or.inl ⟨?_, ?_, ?_⟩
      · cases result with
        | none => rfl
        | some r => exact (hresult r rfl).1
      · cases result with
        | none => rfl
        | some r => exact score_of_invalid (hresult r rfl).2.2 timeLimitSeconds
      · rcases hkept with ⟨-, hsame⟩ | ⟨spec, -, hspec⟩
        · rw [hsame]
        · rw [hspec, withSpec_evaluated]
    · exact Or.inr ⟨spec, adapter, results, instances, sub, timeLimitSeconds, rfl, he⟩
  | register spec =>
    cases hact
    exact Or.inl ⟨rfl, rfl, register_evaluated _ _⟩
  | install cid adapter =>
    cases hact
    exact Or.inl ⟨rfl, rfl, rfl⟩

/-- What is reported of a solver that was run. -/
theorem Event.Ran.evaluation {spec : SolverSpec} {adapter : SolverAdapter}
    {results : List InstanceResult} (h : l.Ran H spec adapter results) :
    ∃ ev, l.evaluation? = some ev ∧ ev.commitmentId = spec.commitmentId ∧
      ev.ownerHotkey = spec.ownerHotkey ∧ l.source? = some spec.commitmentId ∧
        l.registered? = some spec ∧
          (ev.recordFell = true → l.after.champion.champion.spec = some spec) := by
  obtain ⟨instances, sub, timeLimitSeconds, haction, he⟩ := h
  obtain ⟨ev, hev⟩ : ∃ ev, l.evaluation? = some ev := by
    rw [Event.evaluation?, he.result_eq]
    exact ⟨_, rfl⟩
  obtain ⟨r, hr, hrev⟩ := Option.bind_eq_some_iff.mp hev
  obtain ⟨hcid, howner, -, hfell, hchampion⟩ := he.evaluation hr hrev
  refine ⟨ev, hev, hcid, ?_, ?_, ?_, fun hrecord => ?_⟩
  · rw [howner, Submission.spec_owner he.spec_eq]
  · rw [Event.source?, haction]
    simp only [he.spec_eq, Option.map_some]
  · rw [Event.registered?, haction]
    exact he.spec_eq
  · rcases hconsider : l.before.champion.consider spec results (timeoutsOf instances) with
      ⟨fall, m'⟩
    rw [hconsider] at hfell hchampion
    rcases consider_cases hconsider with ⟨hnone, -⟩ | ⟨-, hcrown, -⟩
    · rw [hfell, hnone] at hrecord
      cases hrecord
    · rw [hchampion, hcrown]
      rfl

/-- Only a source that was not evaluated is, and it is marked. -/
theorem actStep_uses (hl : actStep H s l t) :
    Once.StepUses Event.evaluatedSource (fun lane cid => cid ∈ lane.registry.evaluated) s l t := by
  rcases actStep_cases hl with ⟨hnone, -, hsame⟩ | ⟨spec, adapter, results, hran⟩
  · refine ⟨fun cid hcid => ?_, fun cid hcid => ?_⟩
    · rw [Event.evaluatedSource, hnone] at hcid
      cases hcid
    · rw [hsame]
      exact hcid
  · obtain ⟨ev, hev, hsource, -⟩ := hran.evaluation
    obtain ⟨instances, sub, timeLimitSeconds, -, he⟩ := hran
    obtain ⟨rfl, rfl, -⟩ := hl
    have hafter : l.after.registry.evaluated =
        spec.commitmentId :: l.before.registry.evaluated := by
      rw [he.lane_eq]
      show spec.commitmentId :: (l.before.withSpec spec).registry.evaluated = _
      rw [withSpec_evaluated]
    refine ⟨fun cid hcid => ?_, fun cid hcid => ?_⟩
    · rw [Event.evaluatedSource, hev, Option.map_some, hsource] at hcid
      cases hcid
      have hneeds := he.needsEval
      rw [SolverRegistry.needsEval, withSpec_evaluated, Bool.and_eq_true] at hneeds
      refine ⟨of_decide_eq_true hneeds.2, ?_⟩
      rw [hafter]
      exact List.mem_cons_self
    · rw [hafter]
      exact List.mem_cons_of_mem _ hcid

/-- Whoever was registered first stays registered. -/
theorem actStep_registry (hl : actStep H s l t) (cid : PyStr) :
    t.registry.get cid =
      (s.registry.get cid).or (l.registered?.filter (·.commitmentId = cid)) := by
  -- an entry that is there already wins over the new one
  have hwithSpec : ∀ (lane : SolverArenaLane) (spec : SolverSpec),
      (if lane.registry.get spec.commitmentId = none ∧ spec.commitmentId = cid then some spec
        else lane.registry.get cid) =
        (lane.registry.get cid).or ((some spec).filter (·.commitmentId = cid)) := by
    intro lane spec
    rw [Option.filter_some]
    by_cases hcid : spec.commitmentId = cid
    · subst hcid
      cases hget : lane.registry.get spec.commitmentId <;> simp
    · simp [hcid]
  rcases l with ⟨before, action, result, after⟩
  obtain ⟨hbefore, hafter, hact⟩ := hl
  dsimp only at hbefore hafter hact
  subst hbefore hafter
  cases action with
  | submit instances sub timeLimitSeconds =>
    rcases validateSubmission_cases hact with ⟨hkept, -⟩ | ⟨spec, adapter, results, he⟩
    · show after.registry.get cid = (before.registry.get cid).or (sub.spec.filter _)
      rcases hkept with ⟨hnone, hsame⟩ | ⟨spec, hspec, hadded⟩
      · rw [hnone, hsame, Option.filter_none, Option.or_none]
      · rw [hspec, ← hwithSpec, ← withSpec_get, hadded]
    · show after.registry.get cid = (before.registry.get cid).or (sub.spec.filter _)
      rw [he.spec_eq, ← hwithSpec, ← withSpec_get, show after = _ from he.lane_eq]
      rfl
  | register spec =>
    cases hact
    exact (register_get _ _ _).trans (hwithSpec before spec)
  | install cid' adapter =>
    cases hact
    simp [Event.registered?]

/-! ### Whole runs -/

theorem firstSpec_append (ls ls' : List Event) (cid : PyStr) :
    firstSpec start (ls ++ ls') cid = (firstSpec start ls cid).or
      ((ls'.filterMap Event.registered?).find? (·.commitmentId = cid)) := by
  rw [firstSpec, firstSpec, List.filterMap_append, List.find?_append, Option.or_assoc]

/-- The registry holds what was registered first. -/
theorem registry_eq_firstSpec (h : Run (actStep H) start ls t) (cid : PyStr) :
    t.registry.get cid = firstSpec start ls cid := by
  refine Run.history (P := fun ls t => t.registry.get cid = firstSpec start ls cid) ?_ ?_ h
  · rw [firstSpec, List.filterMap_nil, List.find?_nil, Option.or_none]
  · intro ls t l u ih hl
    rw [firstSpec_append, ← ih, actStep_registry hl cid]
    cases hregistered : l.registered? with
    | none => simp [hregistered]
    | some spec =>
      rw [List.filterMap_cons_some hregistered, List.filterMap_nil, Option.filter_some]
      by_cases hcid : spec.commitmentId = cid <;> simp [hcid]

/-- Of a source that is submitted, the first commitment is that of the registry before the
submission, or its own. -/
theorem firstSpec_of_mem (h : Run (actStep H) start ls t) (hl : l ∈ ls) {spec : SolverSpec}
    (hspec : l.registered? = some spec) :
    firstSpec start ls spec.commitmentId =
      some ((l.before.registry.get spec.commitmentId).getD spec) := by
  obtain ⟨pre, post, rfl⟩ := List.append_of_mem hl
  obtain ⟨m, m', hpre, ⟨rfl, -⟩, -⟩ := h.step_at
  rw [firstSpec_append, ← registry_eq_firstSpec hpre, List.filterMap_cons_some hspec,
    List.find?_cons_of_pos (by simp)]
  cases l.before.registry.get spec.commitmentId <;> rfl

/-- An event of a run is credited to the first registrant exactly when it comes from it. -/
theorem credited_iff (h : Run (actStep H) start ls t) (hl : l ∈ ls) :
    Credited start ls l ↔ FromOwner H l := by
  obtain ⟨pre, post, hsplit⟩ := List.append_of_mem hl
  obtain ⟨m, m', -, hstep, -⟩ := (hsplit ▸ h).step_at
  rcases actStep_cases hstep with ⟨hnone, -⟩ | ⟨spec, adapter, results, hran⟩
  · -- nothing was evaluated, so the solver cannot have been run
    have hcredited : Credited start ls l := by
      intro ev hev
      rw [hnone] at hev
      cases hev
    refine iff_of_true hcredited ?_
    intro instances sub timeLimitSeconds haction spec adapter results hspec hneeds hadapter hran
    obtain ⟨rfl, -, hact⟩ := hstep
    rw [haction, act, validateSubmission_of_ran hspec hneeds hadapter hran] at hact
    rw [Event.evaluation?, ← (Prod.mk.inj hact).1] at hnone
    cases hnone
  · obtain ⟨ev, hev, hcid, howner, -, hregistered, hcrown⟩ := hran.evaluation
    obtain ⟨instances, sub, timeLimitSeconds, haction, he⟩ := hran
    have hfirst := firstSpec_of_mem h hl hregistered
    have hminer := Submission.spec_owner he.spec_eq
    constructor
    · intro hcredited instances' sub' timeLimitSeconds' haction' spec' _ _ hspec' _ _ _ first hget
      rw [haction, Action.submit.injEq] at haction'
      obtain ⟨-, rfl, -⟩ := haction'
      rw [he.spec_eq, Option.some.injEq] at hspec'
      subst hspec'
      have hgiven := (hcredited ev hev).1
      rw [firstRegistrant, hcid, hfirst, hget, howner, hminer] at hgiven
      exact Option.some.inj hgiven
    · intro hfrom ev' hev'
      rw [hev, Option.some.injEq] at hev'
      subst hev'
      have hfirstOwner :
          firstRegistrant start ls ev.commitmentId = some spec.ownerHotkey := by
        rw [firstRegistrant, hcid, hfirst, Option.map_some, Option.some.injEq]
        cases hget : l.before.registry.get spec.commitmentId with
        | none => rfl
        | some first =>
          rw [hminer]
          exact hfrom _ _ _ haction spec adapter results he.spec_eq he.needsEval he.adapter_eq
            he.ran first hget
      refine ⟨hfirstOwner.trans (by rw [howner]), fun hfell => ?_⟩
      exact ⟨spec, hcrown hfell, hfirstOwner⟩

/-- No source is evaluated twice, and all submissions of a source earn together the merit of
its evaluation. -/
theorem once_and_merit (h : Run (actStep H) start ls t) :
    (ls.filterMap Event.evaluatedSource).Nodup ∧
      ∀ cid, (∃ l ∈ ls, l.evaluatedSource = some cid ∧ meritOf ls cid = l.merit) ∨
        (cid ∉ ls.filterMap Event.evaluatedSource ∧ meritOf ls cid = 0) := by
  have hnodup := (Once.nodup_uses (fun _ _ _ => actStep_uses) h).1
  have hevents : ∀ l ∈ ls, (l.evaluatedSource = none → l.merit = 0) ∧
      ∀ cid ∈ l.evaluatedSource, l.source? = some cid := by
    refine Run.forall_labels (I := fun _ => True) trivial (fun s l t _ hl => ⟨trivial, ?_⟩) h
    rcases actStep_cases hl with ⟨hnone, hmerit, -⟩ | ⟨spec, adapter, results, hran⟩
    · refine ⟨fun _ => hmerit, fun cid hcid => ?_⟩
      rw [Event.evaluatedSource, hnone] at hcid
      cases hcid
    · obtain ⟨ev, hev, hcid, -, hsource, -⟩ := hran.evaluation
      have hevaluated : l.evaluatedSource = some spec.commitmentId := by
        rw [Event.evaluatedSource, hev, Option.map_some, hcid]
      rw [hevaluated]
      refine ⟨nofun, fun cid hsome => ?_⟩
      cases hsome
      exact hsource
  refine ⟨hnodup, fun cid => ?_⟩
  by_cases hmem : cid ∈ ls.filterMap Event.evaluatedSource
  · obtain ⟨l, hl, hcid⟩ := List.mem_filterMap.mp hmem
    exact Or.inl ⟨l, hl, hcid, Once.sum_filed (fun l hl => (hevents l hl).1)
      (fun l hl => (hevents l hl).2) hnodup hl hcid⟩
  · exact Or.inr ⟨hmem, Once.sum_filed_of_unused (fun l hl => (hevents l hl).1)
      (fun l hl => (hevents l hl).2) hmem⟩

/-- Sources are credited to their first registrants exactly in the runs in which every
submission that is evaluated comes from the owner of the registry's entry, if there is one. -/
theorem sources_credited_iff (h : Run (actStep H) start ls t) :
    SourcesCredited start ls ↔ ∀ l ∈ ls, FromOwner H l := by
  constructor
  · intro hcredited l hl
    exact (credited_iff h hl).mp (hcredited.credited l hl)
  · intro hfrom
    obtain ⟨honce, hmerit⟩ := once_and_merit h
    exact ⟨honce, hmerit, fun l hl => (credited_iff h hl).mpr (hfrom l hl)⟩

end Credit

/-! ## A copy that is submitted at the right time -/

def eventOf (H : Host) (lane : SolverArenaLane) (action : Action) : Event :=
  ⟨lane, action, (act H lane action).1, (act H lane action).2⟩

theorem actStep_eventOf (H : Host) (lane : SolverArenaLane) (action : Action) :
    actStep H lane (eventOf H lane action) (eventOf H lane action).after := ⟨rfl, rfl, rfl⟩

def submitAs (hotkey : String) : Action :=
  .submit largeBatch { sampleSubmission "source" with minerHotkey := PyStr.ofString hotkey } 60

def installSource : Action := .install (PyStr.ofString "source") levelAdapter

/-- The author is early, then the adapter turns up, then the copy comes. -/
def earlyEvent : Event := eventOf sampleHost (.fresh 1) (submitAs "author")

def lateInstall : Event := eventOf sampleHost earlyEvent.after installSource

def copyEvent : Event := eventOf sampleHost lateInstall.after (submitAs "copy")

/-- What an evaluation is credited to: the hotkey, whether the record fell, the merit. -/
def Event.credit (l : Event) : Option (PyStr × Bool × ℚ) :=
  l.evaluation?.map fun ev => (ev.ownerHotkey, ev.recordFell, l.merit)

/-- The author registers a source before its adapter is there; a copy of the submission is
credited with the evaluation, its merit and the crown. -/
theorem late_copy_credited :
    ∃ ls t, Run (actStep sampleHost) (.fresh 1) ls t ∧
      firstRegistrant (.fresh 1) ls (PyStr.ofString "source") = some (PyStr.ofString "author") ∧
        ls.map Event.credit = [none, none, some (PyStr.ofString "copy", true, 4 / 5)] ∧
          t.champion.champion.spec.map (·.ownerHotkey) = some (PyStr.ofString "copy") ∧
            ¬ SourcesCredited (.fresh 1) ls := by
  have hfirst : firstRegistrant (.fresh 1) [earlyEvent, lateInstall, copyEvent]
      (PyStr.ofString "source") = some (PyStr.ofString "author") := by decide +kernel
  have hcopy : copyEvent.evaluation?.map (fun ev => (ev.commitmentId, ev.ownerHotkey)) =
      some (PyStr.ofString "source", PyStr.ofString "copy") := by decide +kernel
  refine ⟨[earlyEvent, lateInstall, copyEvent], copyEvent.after,
    ((Run.nil.snoc (actStep_eventOf ..)).snoc (actStep_eventOf ..)).snoc (actStep_eventOf ..),
    hfirst, by decide +kernel, by decide +kernel, fun hcredited => ?_⟩
  obtain ⟨ev, hev, hfields⟩ := Option.map_eq_some_iff.mp hcopy
  obtain ⟨hcid, howner⟩ := Prod.mk.inj hfields
  have hgiven := (hcredited.credited copyEvent (by simp) ev hev).1
  rw [hcid, hfirst, howner] at hgiven
  exact absurd hgiven (by decide +kernel)

/-- The adapter is there first, then the author, then the copy. -/
def earlyInstall : Event := eventOf sampleHost (.fresh 1) installSource

def authorEvent : Event := eventOf sampleHost earlyInstall.after (submitAs "author")

def lateEvent : Event := eventOf sampleHost authorEvent.after (submitAs "copy")

theorem author_credited : SourcesCredited (.fresh 1) [earlyInstall, authorEvent, lateEvent] := by
  have hrun : Run (actStep sampleHost) (.fresh 1) [earlyInstall, authorEvent, lateEvent]
      lateEvent.after :=
    ((Run.nil.snoc (actStep_eventOf ..)).snoc (actStep_eventOf ..)).snoc (actStep_eventOf ..)
  refine (sources_credited_iff hrun).mpr fun l hl => ?_
  intro instances sub timeLimitSeconds haction spec adapter results hspec hneeds _ _ first hget
  rcases List.mem_cons.mp hl with rfl | hl
  · cases haction
  rcases List.mem_cons.mp hl with rfl | hl
  · cases haction
    cases hspec
    cases hget
  · rw [List.mem_singleton] at hl
    subst hl
    cases haction
    cases hspec
    -- the copy is not evaluated
    exact absurd hneeds (by decide +kernel)

end Cathedral.Lanes.SolverArena
