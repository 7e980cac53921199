import Cathedral.Lanes.ArenaSteps

/-!
# Cathedral.Lanes.ArenaReign — what it takes to beat the champion

The champion's PAR-2 and solved tasks are those of the batch on which it was crowned; a
later challenger is compared with them, whatever batch it runs on.

`record_falls_on_batch` is the law of the arena, that a challenger is better than the
champion on the very batch, for runs in which a champion is only challenged on its own
batch; `stale_champion_beaten` is a crown lost to a slower solver.
-/

namespace Cathedral.Lanes.SolverArena

/-! ## Runs -/

/-- A submission on a hidden batch, with the lane before and after it. -/
structure Call where
  before : SolverArenaLane
  instances : List Instance
  sub : Submission
  result : Option VerifierResult
  after : SolverArenaLane

def Call.evaluation? (l : Call) : Option Evaluation := l.result.bind (·.evaluation?)

/-- The lane, with the batch that its champion's scoreboard comes from. -/
structure Reign where
  lane : SolverArenaLane
  scoredOn : List Instance

/-- One submission; when the record falls, the new champion is scored on its batch. -/
def step (H : Host) (s : Reign) (l : Call) (t : Reign) : Prop :=
  l.before = s.lane ∧ s.lane.validateSubmission H l.instances l.sub = (l.result, l.after) ∧
    t.lane = l.after ∧
      t.scoredOn = if l.evaluation?.any (·.recordFell) then l.instances else s.scoredOn

/-! ## The law -/

/-- What the champion closes of a batch. -/
def championResults (H : Host) (lane : SolverArenaLane) (instances : List Instance) :
    Option (List InstanceResult) :=
  match lane.champion.champion.commitmentId with
  | none => some []
  | some cid => (lane.adapters.get? cid).bind fun adapter => runBatch H adapter instances

/-- The new solver beats the champion on a batch; a first champion has closed something. -/
def Falls (lane : SolverArenaLane) (timeouts : Dict String ℚ)
    (oldResults results : List InstanceResult) : Prop :=
  match lane.champion.champion.commitmentId with
  | none => ∃ r ∈ results, r.solved = true
  | some _ => PyFloat.le (.finite lane.champion.dethroneMarginMs)
      ((par2Ms oldResults timeouts).sub (par2Ms results timeouts)) = true

/-- An evaluation counts what the solver closes of the batch and the champion does not, and
crowns the solver only when it beats the champion on the batch. -/
def Lawful (H : Host) (l : Call) : Prop :=
  ∀ ev, l.evaluation? = some ev → ∃ adapter results oldResults,
    l.before.adapters.get? ev.commitmentId = some adapter ∧
      runBatch H adapter l.instances = some results ∧
        championResults H l.before l.instances = some oldResults ∧
          ev.marginalVbs = results.countP (fun r => r.solved && r.taskId ∉ solvedTasks oldResults) ∧
            (ev.recordFell = true →
              l.after.champion.champion.commitmentId = some ev.commitmentId ∧
                Falls l.before (timeoutsOf l.instances) oldResults results)

/-- A solver that is run is run on the batch of the champion's scoreboard; without a champion
it closes an instance. -/
def OnScoredBatch (H : Host) (s : Reign) (l : Call) : Prop :=
  ∀ spec adapter results, l.sub.spec = some spec →
    (s.lane.withSpec spec).registry.needsEval spec.commitmentId = true →
      s.lane.adapters.get? spec.commitmentId = some adapter →
        runBatch H adapter l.instances = some results →
          match s.lane.champion.champion.commitmentId with
          | none => ∃ r ∈ results, r.solved = true
          | some _ => l.instances = s.scoredOn

/-- The champion's scoreboard is that of its solver on the batch. -/
def Scored (H : Host) (s : Reign) : Prop :=
  ∀ cid, s.lane.champion.champion.commitmentId = some cid → ∃ adapter,
    s.lane.adapters.get? cid = some adapter ∧
      runBatch H adapter s.scoredOn = some s.lane.champion.champion.results ∧
        s.lane.champion.champion.par2Ms =
          par2Ms s.lane.champion.champion.results (timeoutsOf s.scoredOn)

/-- Without a champion nothing was closed before. -/
def Vacant (s : Reign) : Prop :=
  s.lane.champion.champion.commitmentId = none → s.lane.champion.champion.results = []

section Law

variable {H : Host} {s t start : Reign} {l : Call} {ls : List Call}

/-- A call that does not run a solver leaves the crown alone. -/
theorem step_unevaluated (hl : SolverArena.step H s l t)
    (hkept : (l.sub.spec = none ∧ l.after = s.lane) ∨
      ∃ spec, l.sub.spec = some spec ∧ l.after = s.lane.withSpec spec)
    (hresult : ∀ r ∈ l.result, r.evaluation? = none ∧ r.rawMetric = 0 ∧ r.outcome = .invalid) :
    l.evaluation? = none ∧ t.lane.champion = s.lane.champion ∧
      t.lane.adapters = s.lane.adapters ∧ t.scoredOn = s.scoredOn := by
  obtain ⟨-, -, hlane, hscoredOn⟩ := hl
  have hevaluation : l.evaluation? = none := by
    cases hr : l.result with
    | none => simp [Call.evaluation?, hr]
    | some r =>
      rw [Call.evaluation?, hr, Option.bind_some]
      exact (hresult r hr).1
  rw [hevaluation] at hscoredOn
  refine ⟨hevaluation, ?_, ?_, by simpa using hscoredOn⟩
  · rw [hlane]
    rcases hkept with ⟨-, hsame⟩ | ⟨spec, -, hspec⟩
    · rw [hsame]
    · rw [hspec, withSpec_champion]
  · rw [hlane]
    rcases hkept with ⟨-, hsame⟩ | ⟨spec, -, hspec⟩
    · rw [hsame]
    · rw [hspec, withSpec_adapters]

/-- What a call that runs a solver does to the crown. -/
theorem step_evaluated {spec : SolverSpec} {adapter : SolverAdapter}
    {results : List InstanceResult} (hl : SolverArena.step H s l t)
    (he : Evaluated H s.lane l.instances l.sub l.result l.after spec adapter results) :
    ∃ ev, l.evaluation? = some ev ∧ t.lane.adapters = s.lane.adapters ∧
      ((ev.recordFell = false ∧ t.lane.champion = s.lane.champion ∧ t.scoredOn = s.scoredOn) ∨
        (ev.recordFell = true ∧ t.scoredOn = l.instances ∧
          t.lane.champion.champion =
            .crowned spec (par2Ms results (timeoutsOf l.instances)) results)) := by
  obtain ⟨-, -, hlane, hscoredOn⟩ := hl
  have hev : l.evaluation? = some
      (((s.lane.withSpec spec).judge l.instances l.sub spec results).1.evaluation?.get rfl) := by
    rw [Call.evaluation?, he.result_eq]
    rfl
  obtain ⟨-, -, -, hfell, hchampion⟩ := he.evaluation he.result_eq (Option.some_get rfl).symm
  refine ⟨_, hev, ?_, ?_⟩
  · rw [hlane, he.lane_eq, SolverArenaLane.judge]
    exact withSpec_adapters
  · rw [hev, Option.any_some] at hscoredOn
    rcases hconsider : s.lane.champion.consider spec results (timeoutsOf l.instances) with ⟨fall, m'⟩
    rw [hconsider] at hfell hchampion
    rcases consider_cases hconsider with ⟨hnone, hsame⟩ | ⟨hsome, hcrown, -⟩
    · refine Or.inl ⟨?_, ?_, ?_⟩
      · rw [hfell, hnone]
        rfl
      · rw [hlane, hchampion, hsame]
      · rw [hfell, hnone] at hscoredOn
        simpa using hscoredOn
    · refine Or.inr ⟨?_, ?_, ?_⟩
      · rw [hfell, hsome]
      · rw [hfell, hsome] at hscoredOn
        simpa using hscoredOn
      · rw [hlane, hchampion, hcrown]

/-- The scoreboard is that of the batch, after every submission. -/
theorem Scored.step (h : Scored H s) (hv : Vacant s) (hl : SolverArena.step H s l t) :
    Scored H t ∧ Vacant t := by
  rcases validateSubmission_cases hl.2.1 with ⟨hkept, hresult⟩ | ⟨spec, adapter, results, he⟩
  · obtain ⟨-, hchampion, hadapters, hscoredOn⟩ := step_unevaluated hl hkept hresult
    refine ⟨?_, ?_⟩
    · rw [Scored, hchampion, hadapters, hscoredOn]
      exact h
    · rw [Vacant, hchampion]
      exact hv
  · obtain ⟨ev, -, hadapters, ⟨-, hchampion, hscoredOn⟩ | ⟨-, hscoredOn, hcrown⟩⟩ :=
      step_evaluated hl he
    · refine ⟨?_, ?_⟩
      · rw [Scored, hchampion, hadapters, hscoredOn]
        exact h
      · rw [Vacant, hchampion]
        exact hv
    · -- the new champion: its own results, on the batch that was just run
      refine ⟨?_, ?_⟩
      · intro cid hcid
        rw [hcrown] at hcid ⊢
        rw [ChampionState.crowned, Option.some.injEq] at hcid
        subst hcid
        rw [hadapters, hscoredOn]
        exact ⟨adapter, he.adapter_eq, he.ran, rfl⟩
      · intro hnone
        rw [hcrown] at hnone
        cases hnone

/-- On the batch of the champion's scoreboard a submission is lawful. -/
theorem OnScoredBatch.lawful (hon : OnScoredBatch H s l) (h : Scored H s) (hv : Vacant s)
    (hl : SolverArena.step H s l t) : Lawful H l := by
  intro ev hev
  rcases validateSubmission_cases hl.2.1 with ⟨hkept, hresult⟩ | ⟨spec, adapter, results, he⟩
  · rw [(step_unevaluated hl hkept hresult).1] at hev
    cases hev
  · have hbatch := hon spec adapter results he.spec_eq he.needsEval he.adapter_eq he.ran
    obtain ⟨hbefore, -, -, -⟩ := hl
    obtain ⟨r, hr, hrev⟩ := Option.bind_eq_some_iff.mp hev
    obtain ⟨hcid, -, hmarginal, hfell, hchampion⟩ := he.evaluation hr hrev
    have hold : championResults H s.lane l.instances = some s.lane.champion.champion.results := by
      rw [championResults]
      cases hc : s.lane.champion.champion.commitmentId with
      | none =>
        rw [hv hc]
      | some cid =>
        rw [hc] at hbatch
        obtain ⟨champion, hadapter, hran, -⟩ := h cid hc
        show (s.lane.adapters.get? cid).bind _ = _
        rw [hadapter, Option.bind_some, show l.instances = s.scoredOn from hbatch, hran]
    rw [hbefore, hcid]
    refine ⟨adapter, results, _, he.adapter_eq, he.ran, hold, hmarginal, ?_⟩
    intro hrecord
    rcases hconsider : s.lane.champion.consider spec results (timeoutsOf l.instances) with ⟨fall, m'⟩
    rw [hconsider] at hfell hchampion
    rcases consider_cases hconsider with ⟨hnone, -⟩ | ⟨-, hcrown, hwhy⟩
    · rw [hfell, hnone] at hrecord
      cases hrecord
    · refine ⟨?_, ?_⟩
      · rw [hchampion, hcrown]
        rfl
      · rw [Falls]
        cases hc : s.lane.champion.champion.commitmentId with
        | none =>
          rw [hc] at hbatch
          exact hbatch
        | some cid =>
          rw [hc] at hbatch
          obtain ⟨-, -, -, hpar2⟩ := h cid hc
          rcases hwhy with hnone | ⟨oldId, -, hmargin⟩
          · rw [hc] at hnone
            cases hnone
          · rw [hpar2, ← hbatch] at hmargin
            exact hmargin

/-- While every challenger runs on the batch on which the champion was crowned, and a first
champion closes an instance, the record falls only to a solver that is better on the batch. -/
theorem record_falls_on_batch (h : Scored H start) (hv : Vacant start)
    (hrun : Run (fun s l t => SolverArena.step H s l t ∧ OnScoredBatch H s l) start ls t) :
    ∀ l ∈ ls, Lawful H l :=
  Run.forall_labels (I := fun s => Scored H s ∧ Vacant s) ⟨h, hv⟩
    (fun _ _ _ hinv hstep =>
      ⟨hinv.1.step hinv.2 hstep.1, hstep.2.lawful hinv.1 hinv.2 hstep.1⟩) hrun

end Law

/-! ## A champion judged by an old batch -/

def Reign.submit (H : Host) (s : Reign) (instances : List Instance) (sub : Submission) :
    Call × Reign :=
  let validated := s.lane.validateSubmission H instances sub
  let call : Call := ⟨s.lane, instances, sub, validated.1, validated.2⟩
  (call, ⟨validated.2, if call.evaluation?.any (·.recordFell) then instances else s.scoredOn⟩)

theorem step_submit (H : Host) (s : Reign) (instances : List Instance) (sub : Submission) :
    step H s (s.submit H instances sub).1 (s.submit H instances sub).2 := ⟨rfl, rfl, rfl, rfl⟩

/-- Every formula is the same, and every proof is accepted. -/
def sampleHost : Host where
  tables := ⟨fun _ => none, fun p => [p]⟩
  haveDratTrim := true
  verifyDrat := fun _ _ => some (true, "")
  genPlanted3sat := fun _ _ _ => "p cnf 1 1\n1 0\n"
  sha256Hex := fun bs => String.ofList (bs.map fun b => Char.ofNat b.toNat)

/-- Five seconds on the large formulas, and next to nothing on the others. -/
def steadyAdapter : SolverAdapter :=
  fun _ timeoutMs => some ⟨.sat, [1], [], ⟨if timeoutMs = 60000 then 5000 else 10, false⟩⟩

/-- Almost four seconds on every formula. -/
def levelAdapter : SolverAdapter := fun _ _ => some ⟨.sat, [1], [], ⟨3900, false⟩⟩

def idleAdapter : SolverAdapter := fun _ timeoutMs => some ⟨.timeout, [], [], ⟨timeoutMs, true⟩⟩

def sampleSubmission (source : String) : Submission :=
  ⟨PyStr.ofString source, [(PyStr.ofString "source_url", .str (PyStr.ofString "u")),
    (PyStr.ofString "container_digest", .str (PyStr.ofString "d")),
    (PyStr.ofString "source_sha256", .str (PyStr.ofString source))]⟩

def sampleAdapters : Dict PyStr SolverAdapter :=
  Dict.ofList [(PyStr.ofString "steady", steadyAdapter), (PyStr.ofString "level", levelAdapter),
    (PyStr.ofString "idle", idleAdapter)]

def sampleLane : SolverArenaLane := { SolverArenaLane.fresh 1 with adapters := sampleAdapters }

def sampleReign : Reign := ⟨sampleLane, []⟩

def largeBatch : List Instance := sampleLane.buildBatch sampleHost 1 2 0

def smallBatch : List Instance := sampleLane.buildBatch sampleHost 2 0 0

def steadyCall : Call × Reign :=
  sampleReign.submit sampleHost largeBatch (sampleSubmission "steady")

def levelCall : Call × Reign :=
  steadyCall.2.submit sampleHost smallBatch (sampleSubmission "level")

def idleCall : Call × Reign := sampleReign.submit sampleHost smallBatch (sampleSubmission "idle")

/-- What a call reports: the solver, PAR-2, marginal closes, whether the record fell. -/
def Call.verdict (l : Call) : Option (PyStr × PyFloat × ℕ × Bool) :=
  l.evaluation?.map fun ev => (ev.commitmentId, ev.par2Ms, ev.marginalVbs, ev.recordFell)

/-- The PAR-2 of the champion of a call on its batch, with the tasks that it closes there. -/
def Call.champion (l : Call) : Option (PyFloat × List String) :=
  (championResults sampleHost l.before l.instances).map fun results =>
    (par2Ms results (timeoutsOf l.instances), solvedTasks results)

/-- What the solver of a lawful evaluation closes, and the champion. -/
theorem Lawful.closes {H : Host} {l : Call} {cid : PyStr} {par2 : PyFloat} {n : ℕ} {fell : Bool}
    {results oldResults : List InstanceResult} (h : Lawful H l)
    (hverdict : l.verdict = some (cid, par2, n, fell))
    (hnew : (l.before.adapters.get? cid).bind (runBatch H · l.instances) = some results)
    (hold : championResults H l.before l.instances = some oldResults) :
    n = results.countP (fun r => r.solved && r.taskId ∉ solvedTasks oldResults) ∧
      (fell = true → Falls l.before (timeoutsOf l.instances) oldResults results) := by
  obtain ⟨ev, hev, hfields⟩ := Option.map_eq_some_iff.mp hverdict
  simp only [Prod.mk.injEq] at hfields
  obtain ⟨rfl, -, rfl, rfl⟩ := hfields
  obtain ⟨adapter, results', oldResults', hadapter, hran, hold', hmarginal, hfalls⟩ := h ev hev
  rw [hadapter, Option.bind_some, hran, Option.some.injEq] at hnew
  rw [hold', Option.some.injEq] at hold
  subst hnew hold
  exact ⟨hmarginal, fun hfell => (hfalls hfell).2⟩

/-- A champion that is crowned on large formulas loses the crown, on small ones, to a solver
that is slower there and closes nothing more; a first champion has closed nothing. -/
theorem stale_champion_beaten :
    (∃ l₁ l₂ t, Run (step sampleHost) sampleReign [l₁, l₂] t ∧
      l₁.instances = sampleLane.buildBatch sampleHost 1 2 0 ∧
        l₂.instances = sampleLane.buildBatch sampleHost 2 0 0 ∧
          l₂.verdict = some (PyStr.ofString "level", .finite 3900, 1, true) ∧
            l₂.champion = some (.finite 10, l₂.instances.map (·.taskId)) ∧
              ¬ Lawful sampleHost l₂) ∧
    ∃ l t, Run (step sampleHost) sampleReign [l] t ∧
      l.instances = sampleLane.buildBatch sampleHost 2 0 0 ∧
        l.verdict = some (PyStr.ofString "idle", .finite 10000, 0, true) ∧
          ¬ Lawful sampleHost l := by
  constructor
  · have hverdict : levelCall.1.verdict =
        some (PyStr.ofString "level", .finite 3900, 1, true) := by decide +kernel
    have hchampion : levelCall.1.champion =
        some (.finite 10, levelCall.1.instances.map (·.taskId)) := by decide +kernel
    have hnew : (levelCall.1.before.adapters.get? (PyStr.ofString "level")).bind
        (runBatch sampleHost · levelCall.1.instances) =
          some [⟨"solver_arena_v1:2000006:0", .sat, 3900, true, "witness", ""⟩] := by
      decide +kernel
    have hold : championResults sampleHost levelCall.1.before levelCall.1.instances =
        some [⟨"solver_arena_v1:2000006:0", .sat, 10, true, "witness", ""⟩] := by
      decide +kernel
    refine ⟨steadyCall.1, levelCall.1, levelCall.2,
      (Run.nil.snoc (step_submit ..)).snoc (step_submit ..), rfl, rfl, hverdict, hchampion, ?_⟩
    intro hlawful
    -- one close is reported that the champion makes too
    exact absurd (hlawful.closes hverdict hnew hold).1 (by decide)
  · have hverdict : idleCall.1.verdict =
        some (PyStr.ofString "idle", .finite 10000, 0, true) := by decide +kernel
    have hnew : (idleCall.1.before.adapters.get? (PyStr.ofString "idle")).bind
        (runBatch sampleHost · idleCall.1.instances) =
          some [⟨"solver_arena_v1:2000006:0", .timeout, 5000, false, "",
            "host_observed_timeout"⟩] := by
      decide +kernel
    refine ⟨idleCall.1, idleCall.2, Run.nil.snoc (step_submit ..), rfl, hverdict, ?_⟩
    intro hlawful
    have hfalls : ∃ r ∈ _, InstanceResult.solved r = true :=
      (hlawful.closes hverdict hnew rfl).2 rfl
    simp [InstanceResult.solved] at hfalls

/-- A solver that is more than a second faster than the champion, on the champion's batch. -/
def rivalCall : Call × Reign :=
  steadyCall.2.submit sampleHost largeBatch (sampleSubmission "level")

theorem record_falls_on_large_batch :
    rivalCall.1.verdict = some (PyStr.ofString "level", .finite 3900, 0, true) ∧
      ∀ l ∈ [steadyCall.1, rivalCall.1], Lawful sampleHost l := by
  have hsteady : (runBatch sampleHost steadyAdapter largeBatch).all
      (fun results => results.any (·.solved)) = true := by decide +kernel
  have hfell : steadyCall.1.evaluation?.any (·.recordFell) = true := by decide +kernel
  have hreigns : steadyCall.2.lane.champion.champion.commitmentId =
      some (PyStr.ofString "steady") := by decide +kernel
  have hfirst : OnScoredBatch sampleHost sampleReign steadyCall.1 := by
    intro spec adapter results hspec _ hadapter hran
    cases hspec
    have hsome : some steadyAdapter = some adapter := hadapter
    cases hsome
    show ∃ r ∈ results, r.solved = true
    rw [show runBatch sampleHost steadyAdapter largeBatch = some results from hran] at hsteady
    exact List.any_eq_true.mp hsteady
  have hsecond : OnScoredBatch sampleHost steadyCall.2 rivalCall.1 := by
    intro spec adapter results _ _ _ _
    rw [hreigns]
    show largeBatch =
      if steadyCall.1.evaluation?.any (·.recordFell) then largeBatch else sampleReign.scoredOn
    rw [if_pos hfell]
  exact ⟨by decide +kernel, record_falls_on_batch (t := rivalCall.2)
    (fun cid hcid => by cases hcid) (fun _ => rfl)
    ((Run.nil.snoc ⟨step_submit .., hfirst⟩).snoc ⟨step_submit .., hsecond⟩)⟩

end Cathedral.Lanes.SolverArena
