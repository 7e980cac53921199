import Cathedral.Sn39.Release

/-!
# Cathedral.Sn39.Dedup — what names an attempt

A broadcast tick names its attempt by the digest of its identity, of which it leaves out the
mapping block and the uid safety: a later block with the same evidence and the same
allocation is not new work. What stays in the identity is the inclusion window. An authority
tick takes it from the audited report and a launch from its gate, but a tick that relays a
signed vector begins it at the block of its snapshot.

`attemptId_eq_iff` says which two ticks of one lane that do the same work at different blocks
of one epoch share their attempt id; `later_block_new_attempt` is a vector relayed twice.
-/

namespace Cathedral.Sn39

/-! ## The same work -/

/-- The vector as it is signed, without the records of a launch. -/
def VectorEvidence.signed (vector : VectorEvidence) : VectorEvidence :=
  { vector with fullProvenance := none, launchApproval := none }

/-- A policy as an identity records it, but for the epoch. -/
def InclusionPolicy.window (policy : InclusionPolicy) : InclusionPolicy :=
  { policy.identity with expectedNextEpochStartBlock := none }

/-- The same signed vector, or the same report with its window. -/
def SameEvidence (s s' : Submission) : Prop :=
  match s.identity.evidence, s'.identity.evidence with
  | .thin vector, .thin vector' => vector.signed = vector'.signed
  | .authority report, .authority report' =>
    report = report' ∧ s.policy.window = s'.policy.window
  | _, _ => False

/-- The same evidence, signer, burn hotkey and resolved allocation, in one epoch. -/
structure SameWork (s s' : Submission) : Prop where
  evidence : SameEvidence s s'
  validatorHotkey : s.identity.validatorHotkey = s'.identity.validatorHotkey
  validatorUid : s.identity.validatorUid = s'.identity.validatorUid
  burnHotkey : s.identity.burnHotkey = s'.identity.burnHotkey
  uidWeights : s.identity.uidWeights = s'.identity.uidWeights
  uidHotkeys : s.identity.uidHotkeys = s'.identity.uidHotkeys
  epoch : s.identity.nextEpochStartBlock = s'.identity.nextEpochStartBlock

/-- What is fetched carries no record of a launch. -/
def BroadcastTick.Plain : BroadcastTick → Prop
  | .thin answers _ _ => ∀ vector, answers.fetched = .ok vector → vector.signed = vector
  | .authority _ _ _ => True

/-- What the identity of a launch takes from its gate. -/
def LaunchGate.records (gate : LaunchGate) : InclusionPolicy × String × String :=
  (gate.policy.window, gate.fullProvenance, gate.launchApproval)

/-- No part of the identities comes from a block: two thin ticks are launches with the same
records. -/
def BlockFree : BroadcastTick → BroadcastTick → Prop
  | .thin answers args _, .thin answers' args' _ =>
    args.launch = true ∧ args'.launch = true ∧
      answers.launchGate.toOption.map LaunchGate.records =
        answers'.launchGate.toOption.map LaunchGate.records
  | _, _ => True

/-! ## Identities -/

section Identities

variable {s s' : Submission}

theorem dedup_eq_iff {a b : Identity} :
    a.dedup = b.dedup ↔ a.network = b.network ∧ a.netuid = b.netuid ∧
      a.validatorHotkey = b.validatorHotkey ∧ a.validatorUid = b.validatorUid ∧
      a.burnHotkey = b.burnHotkey ∧ a.uidWeights = b.uidWeights ∧ a.uidHotkeys = b.uidHotkeys ∧
      a.nextEpochStartBlock = b.nextEpochStartBlock ∧ a.inclusionPolicy = b.inclusionPolicy ∧
      a.continuousAuthorization = b.continuousAuthorization ∧ a.evidence = b.evidence := by
  cases a
  cases b
  simp [Identity.dedup]

theorem attemptId_eq {sdk : Sdk} {a b : Identity} :
    sdk.attemptId a = sdk.attemptId b ↔
      sdk.identityDigest a.dedup = sdk.identityDigest b.dedup := by
  unfold Sdk.attemptId
  exact String.append_right_inj _

theorem identity_eq_iff {policy policy' : InclusionPolicy}
    (hepoch : policy.expectedNextEpochStartBlock = policy'.expectedNextEpochStartBlock) :
    policy.identity = policy'.identity ↔ policy.window = policy'.window := by
  cases policy
  cases policy'
  simp only at hepoch
  simp [InclusionPolicy.window, InclusionPolicy.identity, hepoch]

/-- An accepted policy names the epoch of the snapshot. -/
theorem expectedEpoch_of_ready {policy : InclusionPolicy} {preflight : ChainPreflight} {moment : ℤ}
    {u : Unit} (h : requireInclusionPolicyReady policy preflight moment = .ok u) :
    policy.expectedNextEpochStartBlock = preflight.nextEpochStartBlock := by
  unfold requireInclusionPolicyReady at h
  rcases bind_eq_ok.mp h with ⟨block, _, h⟩
  rcases bind_eq_ok.mp h with ⟨_, _, h⟩
  rcases bind_eq_ok.mp h with ⟨_, _, h⟩
  rcases bind_eq_ok.mp h with ⟨_, _, h⟩
  rcases bind_eq_ok.mp h with ⟨_, _, h⟩
  rcases bind_eq_ok.mp h with ⟨_, _, h⟩
  rcases bind_eq_ok.mp h with ⟨_, _, h⟩
  rcases bind_eq_ok.mp h with ⟨_, _, h⟩
  rcases bind_eq_ok.mp h with ⟨_, _, h⟩
  rcases bind_eq_ok.mp h with ⟨_, _, h⟩
  rcases bind_eq_ok.mp h with ⟨_, _, h⟩
  rcases bind_eq_ok.mp h with ⟨epoch, hepoch, h⟩
  rw [refuse_eq_ok, not_or, not_or, not_not, not_not] at h
  rw [h.2.1, required_eq_ok.mp hepoch]

/-- What every identity takes from its tick. -/
structure Derived (s : Submission) : Prop where
  network : s.identity.network = s.contract.network
  netuid : s.identity.netuid = sn39Netuid
  authorization : s.identity.continuousAuthorization = s.contract.authorization
  policy : s.identity.inclusionPolicy = s.policy.identity
  epoch : s.policy.expectedNextEpochStartBlock = s.identity.nextEpochStartBlock

/-- Of two identities of the same work only four fields can differ. -/
theorem dedup_eq_iff_of_sameWork (hs : Derived s) (hs' : Derived s') (hwork : SameWork s s') :
    s.identity.dedup = s'.identity.dedup ↔ s.contract.network = s'.contract.network ∧
      s.contract.authorization = s'.contract.authorization ∧
      s.policy.window = s'.policy.window ∧ s.identity.evidence = s'.identity.evidence := by
  have hepoch : s.policy.expectedNextEpochStartBlock = s'.policy.expectedNextEpochStartBlock := by
    rw [hs.epoch, hs'.epoch, hwork.epoch]
  rw [dedup_eq_iff, hs.network, hs'.network, hs.netuid, hs'.netuid, hs.authorization,
    hs'.authorization, hs.policy, hs'.policy, identity_eq_iff hepoch]
  constructor
  · rintro ⟨hnetwork, _, _, _, _, _, _, _, hwindow, hauthorization, hevidence⟩
    exact ⟨hnetwork, hauthorization, hwindow, hevidence⟩
  · rintro ⟨hnetwork, hauthorization, hwindow, hevidence⟩
    exact ⟨hnetwork, rfl, hwork.validatorHotkey, hwork.validatorUid, hwork.burnHotkey,
      hwork.uidWeights, hwork.uidHotkeys, hwork.epoch, hwindow, hauthorization, hevidence⟩

end Identities

/-! ## What a tick derives -/

section Derivation

variable {sdk : Sdk} {world : World} {s : Submission}

/-- Where the evidence and the window of a thin submission come from. -/
inductive ThinSource (answers : ThinAnswers) (args : Args) (s : Submission) : Prop where
  | launch {gate : LaunchGate} {vector : VectorEvidence} (hlaunch : args.launch = true)
      (hgate : answers.launchGate = .ok gate) (hfetched : answers.fetched = .ok vector)
      (hpolicy : s.policy = gate.policy)
      (hevidence : s.identity.evidence = .thin
        { vector with
          fullProvenance := some gate.fullProvenance, launchApproval := some gate.launchApproval })
  | relay {vector : VectorEvidence} {block : ℤ} (hlaunch : args.launch = false)
      (hfetched : answers.fetched = .ok vector) (hblock : s.identity.mappingBlock = some block)
      (hfrom : s.policy.validFromBlock = block) (hevidence : s.identity.evidence = .thin vector)

theorem derived_thin {answers : ThinAnswers} {args : Args} {locked : LockedTick}
    {vector : VectorEvidence} (hfetched : answers.fetched = .ok vector)
    (h : deriveThinSubmission sdk answers args locked vector = .ok s) :
    Derived s ∧ ThinSource answers args s := by
  unfold deriveThinSubmission at h
  rcases bind_eq_ok.mp h with ⟨_, _, h⟩
  rcases bind_eq_ok.mp h with ⟨gated, hgated, h⟩
  rcases bind_eq_ok.mp h with ⟨uidWeights, _, h⟩
  rcases bind_eq_ok.mp h with ⟨_, _, h⟩
  rcases bind_eq_ok.mp h with ⟨_, _, h⟩
  rcases bind_eq_ok.mp h with ⟨policy, hpolicy, h⟩
  rcases bind_eq_ok.mp h with ⟨uidSafety, _, h⟩
  cases h
  unfold gateVector at hgated
  split_ifs at hgated with hlaunch
  · rcases bind_eq_ok.mp hgated with ⟨gate, hgate, hgated⟩
    rcases bind_eq_ok.mp hgated with ⟨_, _, hgated⟩
    rcases bind_eq_ok.mp hgated with ⟨_, _, hgated⟩
    rcases bind_eq_ok.mp hgated with ⟨_, hready, hgated⟩
    cases hgated
    cases hpolicy
    exact ⟨⟨rfl, rfl, rfl, rfl, expectedEpoch_of_ready hready⟩,
      .launch hlaunch hgate hfetched rfl rfl⟩
  · rcases bind_eq_ok.mp hgated with ⟨_, _, hgated⟩
    cases hgated
    unfold vectorInclusionPolicy at hpolicy
    rcases bind_eq_ok.mp hpolicy with ⟨block, hblock, hpolicy⟩
    rcases bind_eq_ok.mp hpolicy with ⟨times, _, hpolicy⟩
    rcases bind_eq_ok.mp hpolicy with ⟨_, hready, hpolicy⟩
    cases hpolicy
    exact ⟨⟨rfl, rfl, rfl, rfl, expectedEpoch_of_ready hready⟩,
      .relay (eq_false_of_ne_true hlaunch) hfetched (required_eq_ok.mp hblock) rfl rfl⟩

theorem derived_of_thinSubmission {answers : ThinAnswers} {args : Args} {bound : Option Signer}
    (h : thinSubmission sdk answers args bound world = .ok (some s)) :
    Derived s ∧ ThinSource answers args s := by
  unfold thinSubmission at h
  split_ifs at h with hbroadcasts
  · rcases bind_eq_ok.mp h with ⟨_, _, h⟩
    rcases bind_eq_ok.mp h with ⟨_, _, h⟩
    rcases bind_eq_ok.mp h with ⟨locked, _, h⟩
    rcases bind_eq_ok.mp h with ⟨vector, hfetched, h⟩
    split_ifs at h with hidle
    · rcases bind_eq_ok.mp h with ⟨_, _, h⟩
      cases h
    · rcases bind_eq_ok.mp h with ⟨_, _, h⟩
      rcases bind_eq_ok.mp h with ⟨_, _, h⟩
      rcases bind_eq_ok.mp h with ⟨submission, hderive, h⟩
      cases h
      exact derived_thin hfetched hderive
  · rcases bind_eq_ok.mp h with ⟨_, _, h⟩
    cases h

/-- A tick holds an authorization only where the transition is required. -/
theorem authorization_of_enterTick {transition : TransitionAnswers}
    {refreshed : Except Exc ChainPreflight} {args : Args} {preflight : ChainPreflight}
    {signer : Signer} {required_ : Bool} {state : Journal} {locked : LockedTick}
    (h : enterTick transition refreshed args preflight signer required_ state = .ok locked) :
    (if required_ = true then locked.authorization else none) = locked.authorization := by
  unfold enterTick at h
  split_ifs at h ⊢
  · rfl
  · cases h
    rfl

theorem derived_of_authoritySubmission {answers : AuthorityAnswers} {args : Args}
    {bound : Option Signer} (h : authoritySubmission answers args bound world = .ok (some s)) :
    Derived s ∧ ∃ report, s.identity.evidence = .authority report := by
  unfold authoritySubmission at h
  split_ifs at h with hbroadcasts
  · rcases bind_eq_ok.mp h with ⟨_, _, h⟩
    rcases bind_eq_ok.mp h with ⟨_, _, h⟩
    rcases bind_eq_ok.mp h with ⟨locked, hlocked, h⟩
    rcases bind_eq_ok.mp h with ⟨submission, hderive, h⟩
    cases h
    unfold deriveAuthoritySubmission at hderive
    rcases bind_eq_ok.mp hderive with ⟨_, _, hderive⟩
    rcases bind_eq_ok.mp hderive with ⟨audit, _, hderive⟩
    rcases bind_eq_ok.mp hderive with ⟨_, _, hderive⟩
    rcases bind_eq_ok.mp hderive with ⟨fresh, _, hderive⟩
    rcases bind_eq_ok.mp hderive with ⟨_, _, hderive⟩
    rcases bind_eq_ok.mp hderive with ⟨_, _, hderive⟩
    rcases bind_eq_ok.mp hderive with ⟨_, _, hderive⟩
    rcases bind_eq_ok.mp hderive with ⟨_, _, hderive⟩
    rcases bind_eq_ok.mp hderive with ⟨_, _, hderive⟩
    rcases bind_eq_ok.mp hderive with ⟨_, _, hderive⟩
    rcases bind_eq_ok.mp hderive with ⟨_, hready, hderive⟩
    rcases bind_eq_ok.mp hderive with ⟨_, _, hderive⟩
    rcases bind_eq_ok.mp hderive with ⟨_, _, hderive⟩
    rcases bind_eq_ok.mp hderive with ⟨_, _, hderive⟩
    cases hderive
    exact ⟨⟨rfl, rfl, authorization_of_enterTick hlocked, rfl, expectedEpoch_of_ready hready⟩,
      _, rfl⟩
  · rcases bind_eq_ok.mp h with ⟨_, _, h⟩
    cases h

end Derivation

/-! ## Attempt ids -/

section Attempts

variable {sdk : Sdk} {s s' : Submission}

/-- Two thin submissions of one signed vector at different blocks agree in window and evidence
exactly if both come from launches with the same records. -/
theorem thin_agree_iff {answers answers' : ThinAnswers} {args args' : Args}
    (h : ThinSource answers args s) (h' : ThinSource answers' args' s')
    (hplain : ∀ vector, answers.fetched = .ok vector → vector.signed = vector)
    (hplain' : ∀ vector, answers'.fetched = .ok vector → vector.signed = vector)
    (hevidence : SameEvidence s s')
    (hblocks : s.identity.mappingBlock ≠ s'.identity.mappingBlock) :
    (s.policy.window = s'.policy.window ∧ s.identity.evidence = s'.identity.evidence) ↔
      (args.launch = true ∧ args'.launch = true ∧
        answers.launchGate.toOption.map LaunchGate.records =
          answers'.launchGate.toOption.map LaunchGate.records) := by
  unfold SameEvidence at hevidence
  cases h with
  | launch hlaunch hgate hfetched hpolicy hev =>
    rename_i gate vector
    cases h' with
    | launch hlaunch' hgate' hfetched' hpolicy' hev' =>
      rename_i gate' vector'
      rw [hev, hev'] at hevidence
      have hsame : vector = vector' := by
        rw [← hplain vector hfetched, ← hplain' vector' hfetched']
        exact hevidence
      subst hsame
      rw [hpolicy, hpolicy', hev, hev', hgate, hgate']
      simp [hlaunch, hlaunch', Except.toOption, LaunchGate.records]
    | relay hlaunch' hfetched' hblock' hfrom' hev' =>
      rename_i vector' block'
      refine iff_of_false (fun hboth => ?_) fun hboth => ?_
      · -- a relayed vector has no record of a launch
        have heq := hboth.2
        rw [hev, hev'] at heq
        have hnone := hplain' vector' hfetched'
        rw [← Evidence.thin.inj heq] at hnone
        have hsome : (none : Option String) = some gate.fullProvenance :=
          congrArg VectorEvidence.fullProvenance hnone
        cases hsome
      · rw [hlaunch'] at hboth
        cases hboth.2.1
  | relay hlaunch hfetched hblock hfrom hev =>
    rename_i vector block
    refine iff_of_false (fun hboth => ?_) fun hboth => ?_
    · cases h' with
      | launch hlaunch' hgate' hfetched' hpolicy' hev' =>
        rename_i gate' vector'
        have heq := hboth.2
        rw [hev, hev'] at heq
        have hnone := hplain vector hfetched
        rw [Evidence.thin.inj heq] at hnone
        have hsome : (none : Option String) = some gate'.fullProvenance :=
          congrArg VectorEvidence.fullProvenance hnone
        cases hsome
      | relay hlaunch' hfetched' hblock' hfrom' hev' =>
        -- the window of a relayed vector begins at its block
        have hstart : s.policy.window.validFromBlock = s'.policy.window.validFromBlock :=
          congrArg InclusionPolicy.validFromBlock hboth.1
        change s.policy.validFromBlock = s'.policy.validFromBlock at hstart
        rw [hfrom, hfrom'] at hstart
        rw [hblock, hblock', hstart] at hblocks
        exact hblocks rfl
    · rw [hlaunch] at hboth
      cases hboth.1

/-- Two ticks of one lane that do the same work at different blocks of one epoch have the same
attempt id exactly if they run under one network and one authorization and no part of their
identities comes from a block. -/
theorem attemptId_eq_iff {tick tick' : BroadcastTick} {world world' : World}
    (h : tick.submission sdk world = .ok (some s))
    (h' : tick'.submission sdk world' = .ok (some s'))
    (hplain : tick.Plain) (hplain' : tick'.Plain) (hwork : SameWork s s')
    (hblocks : s.identity.mappingBlock ≠ s'.identity.mappingBlock)
    (hdigest : sdk.identityDigest s.identity.dedup = sdk.identityDigest s'.identity.dedup →
      s.identity.dedup = s'.identity.dedup) :
    sdk.attemptId s.identity = sdk.attemptId s'.identity ↔
      s.contract.network = s'.contract.network ∧
        s.contract.authorization = s'.contract.authorization ∧ BlockFree tick tick' := by
  have hdedup : sdk.attemptId s.identity = sdk.attemptId s'.identity ↔
      s.identity.dedup = s'.identity.dedup :=
    attemptId_eq.trans ⟨hdigest, fun heq => congrArg sdk.identityDigest heq⟩
  have hevidence := hwork.evidence
  rw [hdedup]
  cases tick with
  | thin answers args bound =>
    obtain ⟨hs, hsource⟩ := derived_of_thinSubmission h
    cases tick' with
    | thin answers' args' bound' =>
      obtain ⟨hs', hsource'⟩ := derived_of_thinSubmission h'
      rw [dedup_eq_iff_of_sameWork hs hs' hwork,
        thin_agree_iff hsource hsource' hplain hplain' hevidence hblocks]
      rfl
    | authority answers' args' bound' =>
      obtain ⟨_, report', hev'⟩ := derived_of_authoritySubmission h'
      unfold SameEvidence at hevidence
      cases hsource with
      | launch _ _ _ _ hev => simp only [hev, hev'] at hevidence
      | relay _ _ _ _ hev => simp only [hev, hev'] at hevidence
  | authority answers args bound =>
    obtain ⟨hs, report, hev⟩ := derived_of_authoritySubmission h
    unfold SameEvidence at hevidence
    cases tick' with
    | thin answers' args' bound' =>
      obtain ⟨_, hsource'⟩ := derived_of_thinSubmission h'
      cases hsource' with
      | launch _ _ _ _ hev' => simp only [hev, hev'] at hevidence
      | relay _ _ _ _ hev' => simp only [hev, hev'] at hevidence
    | authority answers' args' bound' =>
      obtain ⟨hs', report', hev'⟩ := derived_of_authoritySubmission h'
      rw [hev, hev'] at hevidence
      rw [dedup_eq_iff_of_sameWork hs hs' hwork, hev, hev', hevidence.1]
      exact ⟨fun heq => ⟨heq.1, heq.2.1, trivial⟩,
        fun heq => ⟨heq.1, heq.2.1, hevidence.2, rfl⟩⟩

end Attempts

/-! ## One vector at two blocks -/

section Relay

/-- A digest that tells apart where a window begins. -/
def windowSdk : Sdk where
  wireWeights := relaySdk.wireWeights
  identityDigest identity :=
    String.ofList (List.replicate 64 (if identity.inclusionPolicy.validFromBlock = 1000 then 'a'
      else 'b'))

/-- The chain one block later. -/
def laterPreflight : ChainPreflight :=
  { relayPreflight with
    block := some 1001
    blocksUntilNextEpoch := some 99
    validatorBlocksSinceLastUpdate := some 21 }

/-- A tick that relays the vector at a snapshot. -/
def relayTick (preflight : ChainPreflight) : BroadcastTick :=
  .thin { relayAnswers 3 (.ok ⟨"stable"⟩) with chainPreflight := .ok preflight } relayArgs none

def reportWindow : InclusionPolicy where
  validFromBlock := 990
  validUntilBlock := 1090
  validFromTime := 0
  validUntilTime := 600000000
  expectedNextEpochStartBlock := some 1100

/-- A tick that launches the vector at a snapshot. -/
def launchTick (preflight : ChainPreflight) : BroadcastTick :=
  .thin
    { relayAnswers 3 (.ok ⟨"stable"⟩) with
      chainPreflight := .ok preflight
      launchGate := .ok ⟨preflight, reportWindow, "replayed", "approved"⟩ }
    { relayArgs with launch := true } none

/-- The identity that the vector has at a block, under a window. -/
def relayedIdentity (vector : VectorEvidence) (block : ℤ) (policy : InclusionPolicy) :
    Identity where
  network := "finney"
  netuid := 39
  mappingBlock := some block
  validatorHotkey := "validator"
  validatorUid := 2
  burnHotkey := some sn39BurnHotkey
  uidWeights := [(0, 1 / 10), (1, 9 / 10)]
  uidHotkeys := [(0, sn39BurnHotkey), (1, "a")]
  nextEpochStartBlock := some 1100
  inclusionPolicy := policy
  uidSafety := some ⟨"stable"⟩
  evidence := .thin vector

theorem sameWork_relayed {s s' : Submission} {vector : VectorEvidence} {block block' : ℤ}
    {policy policy' : InclusionPolicy} (hs : s.identity = relayedIdentity vector block policy)
    (hs' : s'.identity = relayedIdentity vector block' policy') : SameWork s s' where
  evidence := by
    unfold SameEvidence
    rw [hs, hs']
    rfl
  validatorHotkey := by rw [hs, hs']; rfl
  validatorUid := by rw [hs, hs']; rfl
  burnHotkey := by rw [hs, hs']; rfl
  uidWeights := by rw [hs, hs']; rfl
  uidHotkeys := by rw [hs, hs']; rfl
  epoch := by rw [hs, hs']; rfl

def firstSubmission (tick : BroadcastTick) : Option Submission :=
  (tick.submission windowSdk {}).toOption.join

theorem submission_of_first {tick : BroadcastTick} {s : Submission}
    (h : firstSubmission tick = some s) : tick.submission windowSdk {} = .ok (some s) :=
  toOption_eq_some.mp (Option.join_eq_some_iff.mp h)

theorem relay_identity (preflight : ChainPreflight) (block : ℤ)
    (h : (preflight, block) ∈ [(relayPreflight, (1000 : ℤ)), (laterPreflight, 1001)]) :
    (firstSubmission (relayTick preflight)).map Submission.identity =
      some (relayedIdentity (relayVector 3) block
        ⟨block, block + 4, 0, 600000000, true, 4, some 1100⟩) := by
  simp only [List.mem_cons, List.not_mem_nil, or_false, Prod.mk.injEq] at h
  obtain ⟨rfl, rfl⟩ | ⟨rfl, rfl⟩ := h <;> decide +kernel

/-- A vector relayed at two blocks of one epoch is two attempts. -/
theorem later_block_new_attempt : ∃ s s',
    (relayTick relayPreflight).submission windowSdk {} = .ok (some s) ∧
      (relayTick laterPreflight).submission windowSdk {} = .ok (some s') ∧ SameWork s s' ∧
      s.identity.mappingBlock ≠ s'.identity.mappingBlock ∧
      windowSdk.attemptId s.identity ≠ windowSdk.attemptId s'.identity := by
  obtain ⟨s, hfirst, hs⟩ := Option.map_eq_some_iff.mp
    (relay_identity relayPreflight 1000 (by simp))
  obtain ⟨s', hfirst', hs'⟩ := Option.map_eq_some_iff.mp
    (relay_identity laterPreflight 1001 (by simp))
  refine ⟨s, s', submission_of_first hfirst, submission_of_first hfirst', sameWork_relayed hs hs',
    ?_, ?_⟩
  · rw [hs, hs']
    decide
  · rw [hs, hs']
    decide +kernel

def launchedVector : VectorEvidence :=
  { relayVector 3 with fullProvenance := some "replayed", launchApproval := some "approved" }

theorem launch_identity (preflight : ChainPreflight) (block : ℤ)
    (h : (preflight, block) ∈ [(relayPreflight, (1000 : ℤ)), (laterPreflight, 1001)]) :
    (firstSubmission (launchTick preflight)).map
        (fun s => (s.identity, s.contract.network, s.contract.authorization)) =
      some (relayedIdentity launchedVector block reportWindow, "finney", none) := by
  simp only [List.mem_cons, List.not_mem_nil, or_false, Prod.mk.injEq] at h
  obtain ⟨rfl, rfl⟩ | ⟨rfl, rfl⟩ := h <;> decide +kernel

theorem plain_launch (preflight : ChainPreflight) : (launchTick preflight).Plain := by
  intro vector hfetched
  cases hfetched
  rfl

/-- A vector launched at two blocks of one epoch is one attempt. -/
theorem attemptId_eq_launch : ∃ s s',
    (launchTick relayPreflight).submission windowSdk {} = .ok (some s) ∧
      (launchTick laterPreflight).submission windowSdk {} = .ok (some s') ∧
      s.identity.mappingBlock ≠ s'.identity.mappingBlock ∧
      windowSdk.attemptId s.identity = windowSdk.attemptId s'.identity := by
  obtain ⟨s, hfirst, hs⟩ := Option.map_eq_some_iff.mp
    (launch_identity relayPreflight 1000 (by simp))
  obtain ⟨s', hfirst', hs'⟩ := Option.map_eq_some_iff.mp
    (launch_identity laterPreflight 1001 (by simp))
  simp only [Prod.mk.injEq] at hs hs'
  obtain ⟨hid, hnetwork, hauthorization⟩ := hs
  obtain ⟨hid', hnetwork', hauthorization'⟩ := hs'
  have hblocks : s.identity.mappingBlock ≠ s'.identity.mappingBlock := by
    rw [hid, hid']
    decide
  have hdedup : s.identity.dedup = s'.identity.dedup := by
    rw [hid, hid']
    rfl
  refine ⟨s, s', submission_of_first hfirst, submission_of_first hfirst', hblocks, ?_⟩
  refine (attemptId_eq_iff (submission_of_first hfirst) (submission_of_first hfirst')
    (plain_launch _) (plain_launch _) (sameWork_relayed hid hid') hblocks fun _ => hdedup).mpr ?_
  exact ⟨hnetwork.trans hnetwork'.symm, hauthorization.trans hauthorization'.symm, rfl, rfl, rfl⟩

end Relay

end Cathedral.Sn39
