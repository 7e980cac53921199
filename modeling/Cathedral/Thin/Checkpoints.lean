import Cathedral.Lib.Fence
import Cathedral.Thin.Isolation

/-!
# Cathedral.Thin.Checkpoints — which reports a validator accepts over time

`load_best_report` asks every mirror of a class for its report, takes the report
of highest source epoch and holds it against the checkpoint stored for the
class. The tick threads the accepted checkpoint through a copied dictionary into
the state, and only a broadcast tick that completes its round stores it.

A checkpoint is a mark of the class's line of reports (`Cathedral.Mark`), and:

* `enforceCheckpoint_ok` — what one acceptance says about the two checkpoints;
* `tick_accepts` — what one tick does to the checkpoint of a class, and which
  decisions it composes;
* `run_checkpoints` — the law of a whole run.
-/

namespace Cathedral.Thin

/-! ## Mirrors -/

/-- One pass of the loop over the mirrors: a `ThinSubnetError` is noted, any
other exception leaves the loop. -/
def mirrorStep {α : Type} (acc : List α × List String) (answer : Except Exc α × ℕ) :
    Except Exc (List α × List String) :=
  match answer.1 with
  | .ok value => pure (acc.1 ++ [value], acc.2)
  | .error (.thinSubnetError message) =>
    pure (acc.1, acc.2 ++ ["mirror[" ++ toString answer.2 ++ "]:" ++ message])
  | .error e => .error e

/-- The values that the mirrors yield, and the errors noted. -/
def collectMirrors {α : Type} (answers : List (Except Exc α)) :
    Except Exc (List α × List String) :=
  answers.zipIdx.foldlM mirrorStep ([], [])

/-- The first of the documents with the highest number, unless two of them differ. -/
def selectNewest {α : Type} (number : α → ℤ) (id : α → String) (equivocation : String) :
    List α → Except Exc α
  | [] => .error (.other "ValueError" "max() arg is an empty sequence")
  | first :: rest =>
    let highest := rest.foldl (fun m item => max m (number item)) (number first)
    match (first :: rest).filter fun item => number item = highest with
    | [] => .error (.other "IndexError" "list index out of range")
    | selected :: others =>
      if others.all fun item => id item = id selected then pure selected
      else fail equivocation

/-- `load_best_report`; `mirror` is `verify_report` on what `fetch_report`
returns for a location. -/
def loadBestReport (mirror : ReportRequest → String → Except Exc VerifiedReport)
    (request : ReportRequest) : Except Exc (VerifiedReport × SourceCheckpoint) := do
  let (valid, errors) ← collectMirrors (request.policy.locations.map (mirror request))
  refuse (valid = []) ("no valid report for class " ++ request.policy.classId ++ ": " ++
    "; ".intercalate errors)
  let selected ← selectNewest VerifiedReport.sourceEpoch VerifiedReport.reportId
    "score report mirrors expose same-epoch equivocation" valid
  let checkpoint ← enforceCheckpoint selected request.checkpoint
  pure (selected, checkpoint)

variable {checkpoint : SourceCheckpoint}

theorem loadBestReport_ok {mirror : ReportRequest → String → Except Exc VerifiedReport}
    {request : ReportRequest} {report : VerifiedReport}
    (h : loadBestReport mirror request = .ok (report, checkpoint)) :
    enforceCheckpoint report request.checkpoint = .ok checkpoint := by
  rcases bind_eq_ok.mp h with ⟨_, _, h⟩
  rcases bind_eq_ok.mp h with ⟨_, _, h⟩
  rcases bind_eq_ok.mp h with ⟨selected, _, h⟩
  rcases bind_eq_ok.mp h with ⟨accepted, haccepted, h⟩
  cases h
  exact haccepted

/-! ## Checkpoints as marks -/

def SourceCheckpoint.mark (checkpoint : SourceCheckpoint) : Mark ℤ String :=
  ⟨checkpoint.sourceEpoch, checkpoint.reportId⟩

/-- The fence of a class: nothing, or its stored checkpoint. -/
def ValidatorState.fence (state : ValidatorState) (classId : String) :
    WithBot (Mark ℤ String) :=
  match state.classCheckpoints.get? classId with
  | none => ⊥
  | some checkpoint => checkpoint.mark

/-- The new report continues the stored one: it is that report, or a later one
that names it when its epoch is the next. -/
structure Continues (stored : SourceCheckpoint) (report : VerifiedReport) : Prop where
  mark_le : stored.mark ≤ ⟨report.sourceEpoch, report.reportId⟩
  names : report.sourceEpoch = stored.sourceEpoch + 1 →
    report.previousReportId = some stored.reportId

/-- An accepted report is named by the checkpoint that is returned, and
continues the stored one. -/
theorem enforceCheckpoint_ok {report : VerifiedReport} {stored : Option SourceCheckpoint}
    (h : enforceCheckpoint report stored = .ok checkpoint) :
    checkpoint = ⟨report.sourceEpoch, report.reportId⟩ ∧
      ∀ old ∈ stored, Continues old report := by
  cases stored with
  | none =>
    cases h
    exact ⟨rfl, by simp⟩
  | some old =>
    simp only [enforceCheckpoint] at h
    split_ifs at h with hback hsame hid hnext
    -- a rolled back epoch and an equivocation raise
    · cases h
    · cases h
    · cases h
      rw [not_not] at hid
      have heq : checkpoint = ⟨report.sourceEpoch, report.reportId⟩ := by rw [hsame, hid]
      refine ⟨heq, fun stored hstored => ?_⟩
      cases hstored
      constructor
      · rw [heq]
        exact le_rfl
      · intro hepoch
        omega
    · cases h
    · cases h
      refine ⟨rfl, fun stored hstored => ?_⟩
      cases hstored
      constructor
      · refine Or.inl ?_
        show old.sourceEpoch < report.sourceEpoch
        omega
      · intro hepoch
        by_contra hnames
        exact hnext ⟨hepoch, hnames⟩

/-! ## One round -/

/-- A report loader that answers as `load_best_report` does, whatever the
mirrors serve. -/
def TickEnv.Mirrored (env : TickEnv) : Prop :=
  ∃ mirror, env.reportLoader = loadBestReport mirror

/-- A report of the class has been accepted against the stored checkpoint. -/
structure Accepted (env : TickEnv) (state : ValidatorState) (classId : String)
    (report : VerifiedReport) (checkpoint : SourceCheckpoint) : Prop where
  loaded : ∃ request : ReportRequest, request.policy.classId = classId ∧
    request.checkpoint = state.classCheckpoints.get? classId ∧
    env.reportLoader request = .ok (report, checkpoint)

variable {env : TickEnv} {state : ValidatorState} {classId : String}

theorem Accepted.enforced {report : VerifiedReport} (hmirrored : env.Mirrored)
    (h : Accepted env state classId report checkpoint) :
    enforceCheckpoint report (state.classCheckpoints.get? classId) = .ok checkpoint := by
  rcases hmirrored with ⟨mirror, hmirror⟩
  rcases h.loaded with ⟨request, _, hcheckpoint, hload⟩
  rw [hmirror] at hload
  exact hcheckpoint ▸ loadBestReport_ok hload

/-- A decision that has been composed from the report. -/
def ClassDecision.ComposedFrom (decision : ClassDecision) (report : VerifiedReport) : Prop :=
  decision.sourceEpoch = some report.sourceEpoch ∧ decision.reportId = some report.reportId

/-- What the class loop does to the checkpoint of one class, from the decisions
`before` it to the decisions after it. -/
inductive ClassOutcome (env : TickEnv) (state : ValidatorState) (before : List ClassDecision)
    (classes : ClassRound) (classId : String) : Prop where
  | kept :
      classes.classCheckpoints.get? classId = state.classCheckpoints.get? classId →
      (∀ d ∈ classes.decisions, d.classId = classId → d ∈ before ∨ d.reportId = none) →
      ClassOutcome env state before classes classId
  | accepted {report : VerifiedReport} {checkpoint : SourceCheckpoint} :
      Accepted env state classId report checkpoint →
      classes.classCheckpoints.get? classId = some checkpoint →
      (∀ d ∈ classes.decisions, d.classId = classId → d ∈ before ∨ d.ComposedFrom report) →
      ClassOutcome env state before classes classId

variable {setup : Setup}

theorem loadExternal_accepted {block : ℤ} {registrations : Registrations} {c : ExternalClassPolicy}
    {loaded : LoadedExternal}
    (h : loadExternal setup env state block registrations c = .ok loaded) :
    loaded.policy.classId = c.classId ∧
      Accepted env state c.classId loaded.report loaded.checkpoint := by
  rcases bind_eq_ok.mp h with ⟨effective, heffective, h⟩
  rcases bind_eq_ok.mp h with ⟨answer, hanswer, h⟩
  cases h
  have hid := effectivePolicy_classId heffective
  exact ⟨hid, ⟨_, hid, rfl, hanswer⟩⟩

variable {coldkeyOf : Dict String String}

/-- One pass of the class loop touches its own class only. -/
theorem decideExternal_other {acc acc' : ClassRound} {c : ExternalClassPolicy}
    {loaded : Except Exc LoadedExternal} (hother : c.classId ≠ classId)
    (hid : ∀ l, loaded = .ok l → l.policy.classId = c.classId)
    (h : decideExternal setup coldkeyOf acc (c, loaded) = .ok acc') :
    acc'.classCheckpoints.get? classId = acc.classCheckpoints.get? classId ∧
      ∀ d ∈ acc'.decisions, d.classId = classId → d ∈ acc.decisions := by
  have hsplit : ∀ {old : List ClassDecision} {new : ClassDecision}, new.classId = c.classId →
      ∀ d ∈ old ++ [new], d.classId = classId → d ∈ old := by
    intro old new hnew d hd hclass
    rcases List.mem_append.mp hd with hmem | hmem
    · exact hmem
    · rw [List.mem_singleton] at hmem
      exact absurd (hnew.symm.trans (hmem ▸ hclass)) hother
  cases loaded with
  | error e =>
    simp only [decideExternal] at h
    split_ifs at h
    cases h
    exact ⟨rfl, hsplit rfl⟩
  | ok l =>
    rcases bind_eq_ok.mp h with ⟨decision, hdecision, h⟩
    cases h
    have hl := hid l rfl
    constructor
    · exact Dict.get?_set_ne _ _ (hl ▸ hother)
    · exact hsplit ((externalClassDecision_ok hdecision).1.trans hl)

/-- One pass of the class loop on its own class. -/
theorem decideExternal_own {acc acc' : ClassRound} {c : ExternalClassPolicy}
    {loaded : Except Exc LoadedExternal}
    (hstart : acc.classCheckpoints.get? c.classId = state.classCheckpoints.get? c.classId)
    (hid : ∀ l, loaded = .ok l → l.policy.classId = c.classId ∧
      Accepted env state c.classId l.report l.checkpoint)
    (h : decideExternal setup coldkeyOf acc (c, loaded) = .ok acc') :
    ClassOutcome env state acc.decisions acc' c.classId := by
  cases loaded with
  | error e =>
    simp only [decideExternal] at h
    split_ifs at h
    cases h
    refine .kept hstart fun d hd _ => ?_
    rcases List.mem_append.mp hd with hmem | hmem
    · exact Or.inl hmem
    · rw [List.mem_singleton] at hmem
      exact Or.inr (hmem ▸ rfl)
  | ok l =>
    rcases bind_eq_ok.mp h with ⟨decision, hdecision, h⟩
    cases h
    rcases hid l rfl with ⟨hclass, haccepted⟩
    refine .accepted haccepted (hclass ▸ Dict.get?_set_self _ _ _) fun d hd _ => ?_
    rcases List.mem_append.mp hd with hmem | hmem
    · exact Or.inl hmem
    · rw [List.mem_singleton] at hmem
      subst hmem
      rcases bind_eq_ok.mp hdecision with ⟨_, _, hdecision⟩
      rcases bind_eq_ok.mp hdecision with ⟨_, _, hdecision⟩
      rcases bind_eq_ok.mp hdecision with ⟨_, _, hdecision⟩
      cases hdecision
      exact Or.inr ⟨rfl, rfl⟩

/-- The rest of the loop leaves a class that is not in it alone. -/
theorem decideExternal_rest {load : ExternalClassPolicy → Except Exc LoadedExternal}
    (hid : ∀ c l, load c = .ok l → l.policy.classId = c.classId) :
    ∀ {classes : List ExternalClassPolicy} {acc acc' : ClassRound},
      classId ∉ classes.map ExternalClassPolicy.classId →
      (classes.zip (classes.map load)).foldlM (decideExternal setup coldkeyOf) acc = .ok acc' →
      acc'.classCheckpoints.get? classId = acc.classCheckpoints.get? classId ∧
        ∀ d ∈ acc'.decisions, d.classId = classId → d ∈ acc.decisions
  | [], acc, acc', _, h => by
    cases h
    exact ⟨rfl, fun _ hd _ => hd⟩
  | c :: rest, acc, acc', hnot, h => by
    rw [List.map_cons, List.zip_cons_cons, List.foldlM_cons] at h
    rw [List.map_cons, List.mem_cons, not_or] at hnot
    rcases bind_eq_ok.mp h with ⟨mid, hfirst, hrest⟩
    rcases decideExternal_other (Ne.symm hnot.1) (hid c) hfirst with ⟨hget, hdecisions⟩
    rcases decideExternal_rest hid hnot.2 hrest with ⟨hget', hdecisions'⟩
    exact ⟨hget'.trans hget, fun d hd hclass => hdecisions d (hdecisions' d hd hclass) hclass⟩

/-- The class loop, for a class in it. The induction is on the classes; at the
class itself the rest of the loop no longer matters, because class ids are
unique. -/
theorem decideExternal_loop {load : ExternalClassPolicy → Except Exc LoadedExternal}
    (hid : ∀ c l, load c = .ok l → l.policy.classId = c.classId ∧
      Accepted env state c.classId l.report l.checkpoint) :
    ∀ {classes : List ExternalClassPolicy} {acc acc' : ClassRound} {classId : String},
      (classes.map ExternalClassPolicy.classId).Nodup →
      classId ∈ classes.map ExternalClassPolicy.classId →
      acc.classCheckpoints.get? classId = state.classCheckpoints.get? classId →
      (classes.zip (classes.map load)).foldlM (decideExternal setup coldkeyOf) acc = .ok acc' →
      ClassOutcome env state acc.decisions acc' classId
  | [], _, _, _, _, hmem, _, _ => by cases hmem
  | c :: rest, acc, acc', classId, hnodup, hmem, hstart, h => by
    rw [List.map_cons, List.zip_cons_cons, List.foldlM_cons] at h
    rw [List.map_cons, List.nodup_cons] at hnodup
    rcases bind_eq_ok.mp h with ⟨mid, hfirst, hrest⟩
    by_cases hown : c.classId = classId
    · subst hown
      have hkept := decideExternal_rest (fun c l hl => (hid c l hl).1) hnodup.1 hrest
      cases decideExternal_own hstart (hid c) hfirst with
      | kept hget hdecisions =>
        refine .kept (hkept.1.trans hget) fun d hd hclass => ?_
        exact hdecisions d (hkept.2 d hd hclass) hclass
      | accepted haccepted hget hdecisions =>
        refine .accepted haccepted (hkept.1.trans hget) fun d hd hclass => ?_
        exact hdecisions d (hkept.2 d hd hclass) hclass
    · have hother := decideExternal_other hown (fun l hl => (hid c l hl).1) hfirst
      have hin : classId ∈ rest.map ExternalClassPolicy.classId := by
        rcases List.mem_cons.mp hmem with heq | hin
        · exact absurd heq.symm hown
        · exact hin
      -- the decisions of the class among `mid` are those it started with
      cases decideExternal_loop hid hnodup.2 hin (hother.1.trans hstart) hrest with
      | kept hget hdecisions =>
        refine .kept hget fun d hd hclass => ?_
        rcases hdecisions d hd hclass with hmid | hnone
        · exact Or.inl (hother.2 d hmid hclass)
        · exact Or.inr hnone
      | accepted haccepted hget hdecisions =>
        refine .accepted haccepted hget fun d hd hclass => ?_
        rcases hdecisions d hd hclass with hmid | hfrom
        · exact Or.inl (hother.2 d hmid hclass)
        · exact Or.inr hfrom

theorem localClassDecision_reportId {policy : LocalClassPolicy} {rawScores : Dict String ℚ}
    {coldkeyOf reasons : Dict String String} {d : ClassDecision}
    (h : localClassDecision policy rawScores coldkeyOf reasons = .ok d) : d.reportId = none := by
  rcases bind_eq_ok.mp h with ⟨_, _, h⟩
  cases h
  rfl

theorem scoreLocal_reportId {peers : List Peer} {emaScores : Dict String PyFloat}
    {decisions : List ClassDecision}
    (h : scoreLocal setup env state peers = .ok (emaScores, decisions)) :
    ∀ d ∈ decisions, d.reportId = none := by
  unfold scoreLocal at h
  split at h
  · cases h
    simp
  · rcases bind_eq_ok.mp h with ⟨_, _, h⟩
    rcases bind_eq_ok.mp h with ⟨_, _, h⟩
    rcases bind_eq_ok.mp h with ⟨_, _, h⟩
    rcases bind_eq_ok.mp h with ⟨decision, hdecision, h⟩
    cases h
    simp [localClassDecision_reportId hdecision]

/-- A composed round: for each class, its checkpoint is kept and it is not
composed from a report, or a report has been accepted and the class is composed
from that report. -/
inductive RoundOutcome (env : TickEnv) (state : ValidatorState) (composed : ComposedRound)
    (classId : String) : Prop where
  | kept :
      composed.classes.classCheckpoints.get? classId = state.classCheckpoints.get? classId →
      (∀ d ∈ composed.decisions, d.classId = classId → d.reportId = none) →
      RoundOutcome env state composed classId
  | accepted {report : VerifiedReport} {checkpoint : SourceCheckpoint} :
      Accepted env state classId report checkpoint →
      composed.classes.classCheckpoints.get? classId = some checkpoint →
      (∀ d ∈ composed.decisions, d.classId = classId →
        d.reportId = none ∨ d.ComposedFrom report) →
      RoundOutcome env state composed classId

/-- Different external classes have different ids. -/
theorem nodup_externalIds (policy : ScorePolicy) :
    (policy.externalClasses.map ExternalClassPolicy.classId).Nodup := by
  refine (nodup_externalClasses policy).map_on ?_
  intro c hc c' hc' hid
  have heq : ClassPolicy.external c = ClassPolicy.external c' :=
    ScorePolicy.class_unique (ScorePolicy.mem_externalClasses.mp hc)
      (ScorePolicy.mem_externalClasses.mp hc') hid
  exact ClassPolicy.external.inj heq

variable {composed : ComposedRound}

theorem composeRound_outcome {round : OpenRound}
    (h : composeRound setup env state round = .ok composed) (classId : String) :
    RoundOutcome env state composed classId := by
  rcases bind_eq_ok.mp h with ⟨⟨emaScores, localDecisions⟩, hlocal, h⟩
  rcases bind_eq_ok.mp h with ⟨registrations, _, h⟩
  rcases bind_eq_ok.mp h with ⟨classes, hclasses, h⟩
  rcases bind_eq_ok.mp h with ⟨ordered, hordered, h⟩
  rcases bind_eq_ok.mp h with ⟨weights, _, h⟩
  cases h
  have hnone := scoreLocal_reportId hlocal
  have hmem : ∀ d ∈ ordered, d ∈ classes.decisions := by
    intro d hd
    rcases exists_of_forall₂ (mapM_eq_ok.mp hordered).flip hd with ⟨c, _, hget⟩
    split at hget
    · cases hget
    · rename_i decision hfound
      cases hget
      exact (mem_of_decisionsById hfound).1
  by_cases hin : classId ∈ setup.policy.externalClasses.map ExternalClassPolicy.classId
  · cases decideExternal_loop (fun c l hl => loadExternal_accepted hl)
      (nodup_externalIds setup.policy) hin rfl hclasses with
    | kept hget hdecisions =>
      refine .kept hget fun d hd hclass => ?_
      rcases hdecisions d (hmem d hd) hclass with hlocal | hnone'
      · exact hnone d hlocal
      · exact hnone'
    | accepted haccepted hget hdecisions =>
      refine .accepted haccepted hget fun d hd hclass => ?_
      rcases hdecisions d (hmem d hd) hclass with hlocal | hfrom
      · exact Or.inl (hnone d hlocal)
      · exact Or.inr hfrom
  · have hrest := decideExternal_rest (fun c l hl => (loadExternal_accepted hl).1) hin hclasses
    refine .kept hrest.1 fun d hd hclass => ?_
    exact hnone d (hrest.2 d (hmem d hd) hclass)

/-! ## One tick -/

theorem decisionDocument_classes {roundId block : ℤ} {decisions : List ClassDecision}
    {peers : List Peer} {uids : List ℤ} {weights : List PyFloat} {document : DecisionDocument}
    {digest : String}
    (h : decisionDocument setup roundId block decisions peers uids weights =
      .ok (document, digest)) : document.classes = decisions := by
  unfold decisionDocument at h
  split_ifs at h
  · cases h
  · cases h
  · cases h
    rfl

/-- What a tick does to the checkpoint of a class: nothing, or it stores the
checkpoint of a report that continues the stored one. -/
inductive TickOutcome (env : TickEnv) (state state' : ValidatorState) (classId : String) :
    Prop where
  | kept : state'.classCheckpoints.get? classId = state.classCheckpoints.get? classId →
      TickOutcome env state state' classId
  | accepted {report : VerifiedReport} :
      Accepted env state classId report ⟨report.sourceEpoch, report.reportId⟩ →
      (∀ old ∈ state.classCheckpoints.get? classId, Continues old report) →
      state'.classCheckpoints.get? classId = some ⟨report.sourceEpoch, report.reportId⟩ →
      TickOutcome env state state' classId

/-- The decisions of a marked vector that rest on a report rest on the report
that the stored checkpoint names, and the vector carries the digest of its
decisions. -/
structure ComposedStored (setup : Setup) (env : TickEnv) (state state' : ValidatorState)
    (document : DecisionDocument) (pending : PendingVector) : Prop where
  bound : pending.provenanceDigest = some (setup.decisionHash document).tagged
  stored : ∀ d ∈ document.classes, d.reportId ≠ none → ∃ report,
    Accepted env state d.classId report ⟨report.sourceEpoch, report.reportId⟩ ∧
      d.ComposedFrom report ∧
      state'.classCheckpoints.get? d.classId = some ⟨report.sourceEpoch, report.reportId⟩

variable {o : Outcome ValidatorState}

theorem submitCase_checkpoints {metagraph : Option Metagraph}
    {current : Option (Dict String String)} {pending : PendingVector}
    (h : SubmitCase setup env state metagraph current pending o) :
    o.state.classCheckpoints = state.classCheckpoints := by
  cases h with
  | submitted outcome _ => cases outcome <;> rfl
  | _ => rfl

theorem submitMarked_case (setup : Setup) (env : TickEnv) (state : ValidatorState)
    (pending : PendingVector) (metagraph : Option Metagraph)
    (current : Option (Dict String String)) :
    SubmitCase setup env { state with pendingVector := some pending } metagraph current pending
      (submitPending setup env { state with pendingVector := some pending } metagraph current) :=
  submitPending_case setup env metagraph current rfl

theorem commitCase_checkpoints {round : OpenRound} {prepared : PreparedRound}
    (h : CommitCase setup env state round composed prepared o) :
    o.state.classCheckpoints = composed.classes.classCheckpoints := by
  cases h with
  | @marked pending _ _ _ _ houtcome =>
    rw [houtcome]
    exact submitCase_checkpoints (submitMarked_case setup env _ pending _ _)
  | _ => rfl

/-- A marked event of the commit is the one of the prepared round. -/
theorem commitCase_marked {round : OpenRound} {prepared : PreparedRound}
    {document : DecisionDocument} {pending : PendingVector}
    (h : CommitCase setup env state round composed prepared o)
    (hmem : .marked document pending ∈ o.events) :
    document = prepared.decision ∧ pending.provenanceDigest = some prepared.decisionDigest := by
  cases h with
  | empty _ => simp [saveAndReturn] at hmem
  | unmarked _ _ => simp at hmem
  | unsaved _ hmarked _ =>
    simp only [List.mem_singleton, Event.marked.injEq] at hmem
    rcases hmem with ⟨rfl, rfl⟩
    exact ⟨rfl, hmarked.provenance⟩
  | @marked pending' _ _ hmarked _ houtcome =>
    have hsubmit := submitMarked_case setup env (state.completeRound round.roundId composed)
      pending' (some round.metagraph) (some (registrationIds composed.registrations))
    rw [← houtcome] at hsubmit
    rcases List.mem_cons.mp hmem with heq | hrest
    · cases heq
      exact ⟨rfl, hmarked.provenance⟩
    · -- a submission marks nothing
      cases hsubmit with
      | submitted outcome _ => simp at hrest
      | cancelled => simp at hrest
      | _ => cases hrest

theorem tick_accepts (setup : Setup) (runner : Runner) (hmirrored : env.Mirrored)
    (classId : String) :
    TickOutcome env runner.state (tick setup env runner).state.state classId ∧
      ∀ document pending, .marked document pending ∈ (tick setup env runner).events →
        ComposedStored setup env runner.state (tick setup env runner).state.state
          document pending := by
  have hcase := tick_case setup env runner
  generalize tick setup env runner = o at hcase ⊢
  cases hcase with
  | idle hevents =>
    refine ⟨.kept rfl, fun document pending hmem => ?_⟩
    rcases hevents _ hmem with ⟨weights, heq⟩
    cases heq
  | resumed _ hsubmit =>
    refine ⟨.kept (by rw [submitCase_checkpoints hsubmit]), fun document pending hmem => ?_⟩
    cases hsubmit with
    | submitted outcome _ => simp at hmem
    | cancelled => simp at hmem
    | _ => cases hmem
  | @committed round composed prepared o _ _ _ hcomposed hprepared hcommit =>
    have hstate := commitCase_checkpoints hcommit
    constructor
    · cases composeRound_outcome hcomposed classId with
      | kept hget _ => exact .kept (hstate ▸ hget)
      | accepted haccepted hget _ =>
        rcases enforceCheckpoint_ok (haccepted.enforced hmirrored) with ⟨rfl, hcontinues⟩
        exact .accepted haccepted hcontinues (hstate ▸ hget)
    · intro document pending hmem
      have hmem' : .marked document pending ∈ o.events := by simpa using hmem
      rcases commitCase_marked hcommit hmem' with ⟨rfl, hdigest⟩
      have hdocument := prepareRound_ok hprepared
      have hclasses := decisionDocument_classes hdocument
      refine ⟨by rw [hdigest, (decisionDocument_ok hdocument).2.1], fun d hd hreport => ?_⟩
      rw [hclasses] at hd
      cases composeRound_outcome hcomposed d.classId with
      | kept _ hnone => exact absurd (hnone d hd rfl) hreport
      | @accepted report checkpoint haccepted hget hfrom =>
        rcases enforceCheckpoint_ok (haccepted.enforced hmirrored) with ⟨rfl, _⟩
        rcases hfrom d hd rfl with hnone | hfrom
        · exact absurd hnone hreport
        · exact ⟨report, haccepted, hfrom, hstate ▸ hget⟩

/-! ## Runs -/

/-- A later state holds a checkpoint of the class at least as new, and at the
same epoch the same report. -/
def CheckpointKept (classId : String) (early late : ValidatorState) : Prop :=
  ∀ old ∈ early.classCheckpoints.get? classId, ∃ new ∈ late.classCheckpoints.get? classId,
    old.sourceEpoch ≤ new.sourceEpoch ∧
      (new.sourceEpoch = old.sourceEpoch → new.reportId = old.reportId)

/-- A move to the next epoch names the stored report. -/
def NamesPredecessor (env : TickEnv) (classId : String) (state state' : ValidatorState) : Prop :=
  ∀ old ∈ state.classCheckpoints.get? classId, ∀ new ∈ state'.classCheckpoints.get? classId,
    new.sourceEpoch = old.sourceEpoch + 1 → ∃ report, Accepted env state classId report new ∧
      report.reportId = new.reportId ∧ report.previousReportId = some old.reportId

/-- The order of the fences is the law of the checkpoints. -/
theorem checkpointKept_of_le {early late : ValidatorState}
    (h : early.fence classId ≤ late.fence classId) : CheckpointKept classId early late := by
  intro old hold
  rw [Option.mem_def] at hold
  simp only [ValidatorState.fence, hold] at h
  cases hlate : late.classCheckpoints.get? classId with
  | none =>
    rw [hlate] at h
    exact absurd h (WithBot.not_coe_le_bot _)
  | some new =>
    rw [hlate] at h
    have hle : old.mark ≤ new.mark := WithBot.coe_le_coe.mp h
    refine ⟨new, rfl, Mark.number_le hle, fun hepoch => ?_⟩
    exact (congrArg Mark.id (Mark.eq_of_number_eq hle hepoch.symm)).symm

theorem TickOutcome.fence_le {state state' : ValidatorState}
    (h : TickOutcome env state state' classId) : state.fence classId ≤ state'.fence classId := by
  cases h with
  | kept hget =>
    have heq : state'.fence classId = state.fence classId := by
      simp only [ValidatorState.fence, hget]
    exact heq.ge
  | accepted _ hcontinues hget =>
    simp only [ValidatorState.fence, hget]
    cases hold : state.classCheckpoints.get? classId with
    | none => exact bot_le
    | some old => exact WithBot.coe_le_coe.mpr (hcontinues old hold).mark_le

theorem TickOutcome.names {state state' : ValidatorState}
    (h : TickOutcome env state state' classId) : NamesPredecessor env classId state state' := by
  intro old hold new hnew hepoch
  cases h with
  | kept hget =>
    -- an untouched checkpoint does not move to the next epoch
    rw [Option.mem_def] at hold hnew
    rw [hget, hold] at hnew
    cases hnew
    omega
  | @accepted report haccepted hcontinues hget =>
    rw [Option.mem_def, hget] at hnew
    cases hnew
    exact ⟨report, haccepted, rfl, (hcontinues old hold).names hepoch⟩

/-- The checkpoints over every run of ticks, whatever the mirrors serve: they
move forward only, keep one report per epoch, the report of the next epoch names
the stored one, and a round is composed from the reports that the state it
leaves names. -/
theorem run_checkpoints (setup : Setup) (runner runner' : Runner) (labels : List TickLabel)
    (hrun : Run (TickStep setup) runner labels runner')
    (hmirrored : ∀ label ∈ labels, label.env.Mirrored) (classId : String) :
    (∀ before mid after, labels = before ++ mid ++ after → ∃ early late,
      Run (TickStep setup) runner before early ∧ Run (TickStep setup) early mid late ∧
        CheckpointKept classId early.state late.state) ∧
    ∀ before label after, labels = before ++ label :: after → ∃ old new,
      Run (TickStep setup) runner before old ∧ TickStep setup old label new ∧
        NamesPredecessor label.env classId old.state new.state ∧
        ∀ document pending, .marked document pending ∈ label.events →
          ComposedStored setup label.env old.state new.state document pending := by
  constructor
  · intro before mid after hlabels
    subst hlabels
    rcases hrun.split with ⟨late, hearly, _⟩
    rcases hearly.split with ⟨early, hbefore, hmid⟩
    refine ⟨early, late, hbefore, hmid, checkpointKept_of_le ?_⟩
    have hserved : ∀ label ∈ mid, label.env.Mirrored := by
      intro label hlabel
      exact hmirrored label (by simp [hlabel])
    refine Run.monotone (fun r : Runner => r.state.fence classId) ?_
      (hmid.restrict hserved)
    rintro old label new ⟨hlabel, hstep⟩
    have houtcome := (tick_accepts setup old hlabel classId).1
    rw [hstep] at houtcome
    exact houtcome.fence_le
  · intro before label after hlabels
    subst hlabels
    rcases hrun.step_at with ⟨old, new, hbefore, hstep, _⟩
    have hlabel := hmirrored label (by simp)
    rcases tick_accepts setup old hlabel classId with ⟨houtcome, hmarked⟩
    rw [hstep] at houtcome hmarked
    exact ⟨old, new, hbefore, hstep, houtcome.names, hmarked⟩

/-! Two rounds of the policy of two halves: its mirror serves epoch 4, then epoch 5. -/

def mirroredPolicy : ScorePolicy where
  network := "test"
  netuid := 1
  classes := [.localSat localHalf, .external { externalHalf with locations := ["mirror"] }]
  digest := "digest"
  nodup_ids := by decide
  allocation_pos := by decide +kernel
  sum_allocation := by decide +kernel
  localClass_unique := by decide

def mirroredSetup : Setup := { soloSetup with policy := mirroredPolicy }

/-- At `block` the mirror serves the report of the epoch. -/
def mirroredLabel (block epoch : ℤ) (id : String) (previous : Option String)
    (runner : Runner) : TickLabel :=
  let env := { soloEnv with
    block := .ok block
    reportLoader := loadBestReport fun _ _ => .ok
      { reportOf [entryOf "miner" 3] with
        sourceEpoch := epoch
        reportId := id
        previousReportId := previous } }
  ⟨env, (tick mirroredSetup env runner).result, (tick mirroredSetup env runner).events⟩

def firstLabel : TickLabel := mirroredLabel 105 4 "r4" none soloRunner

def firstRunner : Runner := (tick mirroredSetup firstLabel.env soloRunner).state

def secondLabel : TickLabel := mirroredLabel 115 5 "r5" (some "r4") firstRunner

def secondRunner : Runner := (tick mirroredSetup secondLabel.env firstRunner).state

theorem run_checkpoints_two_rounds :
    firstRunner.state.classCheckpoints.get? "external_class" = some ⟨4, "r4"⟩ ∧
      secondRunner.state.classCheckpoints.get? "external_class" = some ⟨5, "r5"⟩ ∧
      NamesPredecessor secondLabel.env "external_class" firstRunner.state secondRunner.state := by
  have hfirst : Run (TickStep mirroredSetup) soloRunner [firstLabel] firstRunner :=
    Run.single_iff.mpr rfl
  have hrun : Run (TickStep mirroredSetup) soloRunner ([firstLabel] ++ [secondLabel])
      secondRunner := hfirst.append (Run.single_iff.mpr rfl)
  have hmirrored : ∀ label ∈ [firstLabel] ++ [secondLabel], label.env.Mirrored := by
    intro label hlabel
    simp only [List.cons_append, List.nil_append, List.mem_cons, List.not_mem_nil, or_false]
      at hlabel
    rcases hlabel with rfl | rfl
    · exact ⟨_, rfl⟩
    · exact ⟨_, rfl⟩
  rcases (run_checkpoints mirroredSetup soloRunner secondRunner _ hrun hmirrored
    "external_class").2 [firstLabel] secondLabel [] rfl with ⟨old, new, hold, hnew, hnames, _⟩
  have hold' : old = firstRunner := by
    have hstep := Run.single_iff.mp hold
    exact (congrArg Outcome.state hstep).symm
  subst hold'
  have hnew' : new = secondRunner := (congrArg Outcome.state hnew).symm
  subst hnew'
  exact ⟨by decide +kernel, by decide +kernel, hnames⟩

end Cathedral.Thin
