import Cathedral.Arena.Engine

/-!
# Cathedral.Arena.SubmittedAgents — what a submitted agent is graded for

The gates read the submission of an envelope, the provenance its receipt. What joins the two
is the hotkey, the mission and the nonce: the artifact of the receipt is compared with a copy
of itself, and the attestation that is graded is the one the receipt declares.

`passed_iff` and `grade_iff` say what a pass and the best grade rest on, and
`submitted_fair_iff` which envelopes make the code break its promise: those of `OtherWork` and
of `SelfAttested`.
-/

namespace Cathedral.Arena

open PyJson (Value)

/-! ## What is asked -/

/-- The artifact of the receipt names the challenge and the formula of the submission. -/
def HalvesAgree (s : Submission) (r : Receipt) : Prop :=
  ∃ artifact, r.artifact = .obj artifact ∧
    PyJson.pyEqGet (get artifact "challenge_id") (some s.submittedCid) = true ∧
    PyJson.pyEqGet (get artifact "cnf_sha256") (some s.submittedCnfHash) = true

/-- The arena asked for the attestation of the submission, and it verified. -/
def ArenaAttested (A : ArenaEngine) (s : Submission) : Prop :=
  s.mission.attestationRequired = true ∧ A.attest s = some true

/-- What a graded agent is promised to be. -/
structure Fair (A : ArenaEngine) (o : Graded) : Prop where
  bound : o.gates.passed = true → HalvesAgree o.submission o.receipt
  graded : o.gates.provenanceGrade = .a → ArenaAttested A o.submission

/-! ## What the gates rest on -/

/-- The witness is the miner's own, and the replay of the issued formula's target succeeds. -/
structure Replayed (A : ArenaEngine) (s : Submission) : Prop where
  witness : ∃ tier seq reason,
    A.perMiner.recoverTierSeqFor s.spec.hotkey A.epoch s.submittedCid = some (some (tier, seq)) ∧
      A.perMiner.verifyMinerSubmissionFor s.spec.hotkey A.epoch tier seq s.submittedCid
        s.assignment = some (true, reason)
  formula : s.submittedCnfHash = .str s.issuedCnfHash
  violates : ∃ target, A.targets s.mission.replayTargetId = some target ∧
    PyJson.truthy s.replayWitness = true ∧
      containsAll s.replayWitness target.decode = some true ∧ Violates target s.replayWitness

/-- The receipt is signed, linked and new, and names the miner, the mission and the nonce. Of
its artifact no more is asked than that the two values are not a NaN. -/
structure Intact (A : ArenaEngine) (memory : Memory) (s : Submission) (r : Receipt) : Prop where
  signed : r.signed A.crypto = true
  chain : r.chainIntact A.crypto = true
  head : r.headMatches A.crypto = true
  artifact : ∃ artifact, r.artifact = .obj artifact ∧
    get artifact "challenge_id" ≠ some (.num (.float .nan)) ∧
    get artifact "cnf_sha256" ≠ some (.num (.float .nan))
  hotkey : r.minerHotkey = .str s.spec.hotkey
  mission : r.missionId = .str s.mission.missionId
  nonce : PyJson.pyEq r.nonce s.submittedNonce = true
  fresh : ∃ rid, r.id A.crypto = some rid ∧ rid ∉ memory.seenReceipts

/-- An advertised environment that is trusted is backed. -/
def AgentSpec.Honest (spec : AgentSpec) : Prop :=
  (if spec.claimedEnv = [] then spec.environment else spec.claimedEnv) ∈ trustedEnvs →
    spec.canAttest = true

/-- All that a pass rests on. -/
structure Admitted (A : ArenaEngine) (memory : Memory) (s : Submission) (r : Receipt) : Prop where
  known : s.spec.hotkey ∈ A.knownHotkeys
  delegated : A.delegated s.spec r = true
  assigned : s.mission.missionId ≠ []
  nonce : s.submittedNonce = .str s.issuedNonce
  current : A.nowTick - s.mission.nonceIssuedTick ≤ nonceTtlTicks
  unseen : ∃ ledger, ledgerBefore memory s.spec s = some ledger ∧
    inLedger ledger s.spec.hotkey s.submittedCid = some false
  complete : PyJson.truthy s.assignment = true ∧ PyJson.truthy s.submittedCnfHash = true ∧
    PyJson.truthy s.submittedNonce = true
  honest : s.spec.Honest
  attested : s.mission.attestationRequired = true → A.attest s = some true
  aligned : A.aligned s = true
  replayed : Replayed A s
  intact : Intact A memory s r

/-- A receipt for other work, with all that a pass rests on. -/
structure OtherWork (A : ArenaEngine) (memory : Memory) (s : Submission) (r : Receipt) : Prop where
  admitted : Admitted A memory s r
  disagree : ¬ HalvesAgree s r

/-- A receipt that declares its own attestation valid, with all else that the best grade rests
on. -/
structure SelfAttested (A : ArenaEngine) (memory : Memory) (s : Submission) (r : Receipt) :
    Prop where
  declared : r.attestedClaim = some true
  unverified : ¬ ArenaAttested A s
  replayed : Replayed A s
  intact : Intact A memory s r

structure GatesSay (A : ArenaEngine) (memory : Memory) (s : Submission) (g : GateOutcome) :
    Prop where
  validIdentity : g.validIdentity = true ↔ s.spec.hotkey ∈ A.knownHotkeys
  assignedMission : g.assignedMission = true ↔ s.mission.missionId ≠ []
  freshNonce : g.freshNonce = true ↔ s.submittedNonce = .str s.issuedNonce ∧
    A.nowTick - s.mission.nonceIssuedTick ≤ nonceTtlTicks
  noReplay : g.noReplay = true ↔ inLedger memory.ledger s.spec.hotkey s.submittedCid = some false
  correctOwner : g.witnessVerifies = true → g.correctOwner = true
  completeArtifact : g.completeArtifact = true ↔ PyJson.truthy s.assignment = true ∧
    PyJson.truthy s.submittedCnfHash = true ∧ PyJson.truthy s.submittedNonce = true
  decodeMapPresent : g.replaySucceeds = true → g.decodeMapPresent = true
  parts : g.replaySucceeds = true → g.cnfHashMatches = true ∧ g.witnessVerifies = true
  replaySucceeds : g.replaySucceeds = true ↔ Replayed A s
  computeProfileHonest : g.computeProfileHonest = true ↔ s.spec.Honest
  attestationValid : g.attestationValid = true ↔
    (s.mission.attestationRequired = true → A.attest s = some true)
  hypothesisAligned : g.hypothesisAligned = A.aligned s

section Gates

variable {A : ArenaEngine} {memory : Memory} {s : Submission} {r : Receipt} {g : GateOutcome}

theorem witnessGate_verifies {owner witness : Bool} {reasons : List GateReason}
    (h : A.witnessGate s = some (owner, witness, reasons)) :
    (witness = true → owner = true) ∧ (witness = true ↔ ∃ tier seq reason,
      A.perMiner.recoverTierSeqFor s.spec.hotkey A.epoch s.submittedCid = some (some (tier, seq)) ∧
        A.perMiner.verifyMinerSubmissionFor s.spec.hotkey A.epoch tier seq s.submittedCid
          s.assignment = some (true, reason)) := by
  simp only [ArenaEngine.witnessGate, Option.bind_eq_bind, Option.bind_eq_some_iff] at h
  obtain ⟨-, -, recovered, hrecovered, h⟩ := h
  cases recovered with
  | none =>
    cases h
    simp [hrecovered]
  | some slot =>
    obtain ⟨tier, seq⟩ := slot
    simp only [Option.bind_eq_some_iff] at h
    obtain ⟨⟨ok, reason⟩, hverify, h⟩ := h
    cases h
    refine ⟨fun _ => rfl, fun hok => ⟨tier, seq, reason, hrecovered, hok ▸ hverify⟩, ?_⟩
    rintro ⟨tier', seq', reason', hrecovered', hverify'⟩
    rw [hrecovered, Option.some.injEq, Option.some.injEq, Prod.mk.injEq] at hrecovered'
    obtain ⟨rfl, rfl⟩ := hrecovered'
    rw [hverify, Option.some.injEq, Prod.mk.injEq] at hverify'
    exact hverify'.1

theorem gatesSay (h : A.gates memory s = some g) : GatesSay A memory s g := by
  simp only [ArenaEngine.gates, Option.bind_eq_bind, Option.bind_eq_some_iff] at h
  obtain ⟨replayed, hreplayed, ⟨owner, witness, reasons⟩, hwitness, decodeMap, hdecode, out, hout,
    attestation, hattestation, h⟩ := h
  cases h
  obtain ⟨howner, hverifies⟩ := witnessGate_verifies hwitness
  have hreplay : (witness && decide (s.submittedCnfHash = .str s.issuedCnfHash) && out.reproduced) =
      true ↔ Replayed A s := by
    rw [Bool.and_eq_true, Bool.and_eq_true, decide_eq_true_eq, hverifies, reproduced_iff hout]
    exact ⟨fun ⟨⟨hw, hf⟩, hv⟩ => ⟨hw, hf, hv⟩, fun hr => ⟨⟨hr.witness, hr.formula⟩, hr.violates⟩⟩
  constructor
  · exact decide_eq_true_iff
  · exact decide_eq_true_iff
  · rw [Bool.and_eq_true, decide_eq_true_eq, decide_eq_true_eq]
  · rw [Bool.not_eq_true', hreplayed, Option.some.injEq]
  · exact howner
  · rw [Bool.and_eq_true, Bool.and_eq_true, and_assoc]
  · -- what is replayed has been looked up with all keys of the harness
    intro hsucceeds
    obtain ⟨target, htarget, htruthy, hkeys, -⟩ := (hreplay.mp hsucceeds).violates
    rw [ArenaEngine.decodeGate, htarget] at hdecode
    dsimp only at hdecode
    rw [htruthy, if_pos rfl, hkeys, Option.some.injEq] at hdecode
    exact hdecode.symm
  · intro hsucceeds
    rw [Bool.and_eq_true, Bool.and_eq_true] at hsucceeds
    exact ⟨hsucceeds.1.2, hsucceeds.1.1⟩
  · exact hreplay
  · rw [Bool.or_eq_true, Bool.not_eq_true', decide_eq_false_iff_not, AgentSpec.Honest,
      Decidable.imp_iff_not_or]
  · rw [ArenaEngine.attestationGate] at hattestation
    cases hrequired : s.mission.attestationRequired with
    | false =>
      rw [hrequired, if_neg (by simp), Option.some.injEq] at hattestation
      simp [← hattestation]
    | true =>
      rw [hrequired, if_pos rfl] at hattestation
      rw [hattestation]
      simp
  · rfl

end Gates

/-! ## A pass -/

section Pass

variable {A : ArenaEngine} {memory : Memory} {spec : AgentSpec} {m : Mission} {envelope : Value}
  {o : Graded}

theorem spec_of_ingest {s : Submission} {r : Receipt}
    (h : A.ingest envelope spec m = some (s, r)) : s.spec = spec := by
  unfold ArenaEngine.ingest at h
  split at h
  · simp only [Option.bind_eq_bind, Option.bind_eq_some_iff] at h
    obtain ⟨_, -, _, -, _, -, _, -, h⟩ := h
    split at h
    · simp only [Option.bind_eq_some_iff] at h
      obtain ⟨_, -, _, -, _, -, _, -, _, -, h⟩ := h
      cases h
      rfl
    · cases h
  · cases h

/-- The parts of a pass: the gates of the submission, the verdict on the receipt, and the key. -/
theorem parts_of_submitted (h : A.submitted memory spec m envelope = some o) :
    ∃ ledger g v, o.submission.spec = spec ∧ ledgerBefore memory spec o.submission = some ledger ∧
      A.gates ⟨ledger, memory.seenReceipts⟩ o.submission = some g ∧
      verifyReceipt A.crypto o.receipt o.submission.expected g.replaySucceeds
        o.submission.mission.attestationRequired memory.seenReceipts = some v ∧
      o.gates.provenanceGrade = v.grade ∧
      (o.gates.passed = true ↔ A.delegated spec o.receipt = true ∧ v.signatureOk = true ∧
        (v.chainIntact = true ∧ v.headBindsArtifact = true ∧ v.notReplayedReceipt = true) ∧
        (g.validIdentity = true ∧ g.assignedMission = true ∧ g.freshNonce = true ∧
          g.noReplay = true ∧ g.correctOwner = true ∧ g.completeArtifact = true ∧
          g.cnfHashMatches = true ∧ g.decodeMapPresent = true ∧ g.witnessVerifies = true ∧
          g.replaySucceeds = true ∧ g.computeProfileHonest = true ∧ g.attestationValid = true ∧
          g.hypothesisAligned = true)) := by
  simp only [ArenaEngine.submitted, Option.bind_eq_bind, Option.bind_eq_some_iff] at h
  obtain ⟨⟨s, r⟩, hingest, ledger, hledger, g, hg, g', hg', after, -, h⟩ := h
  obtain ⟨v, hv, rfl⟩ := Option.map_eq_some_iff.mp hg'
  dsimp only at h
  split at h
  · cases h
    refine ⟨ledger, g, v, spec_of_ingest hingest, hledger, hg, hv, ?_, ?_⟩
    · cases A.delegated spec r <;> rfl
    · cases A.delegated spec r
      · simp [GateOutcome.passed]
      · simp [GateOutcome.passed]
        tauto
  · cases h

/-- Where nothing raises there is something graded. -/
theorem exists_submitted {s : Submission} {r : Receipt} {ledger ledger' : List (PyStr × Value)}
    {g : GateOutcome} {v : ProvenanceVerdict} {sig : PyStr}
    (hingest : A.ingest envelope spec m = some (s, r))
    (hledger : ledgerBefore memory spec s = some ledger)
    (hg : A.gates ⟨ledger, memory.seenReceipts⟩ s = some g)
    (hv : verifyReceipt A.crypto r s.expected g.replaySucceeds s.mission.attestationRequired
      memory.seenReceipts = some v)
    (hadd : addLedger ledger spec.hotkey s.submittedCid = some ledger') (hsig : r.sig = .str sig) :
    ∃ o, A.submitted memory spec m envelope = some o ∧ o.submission = s ∧ o.receipt = r := by
  simp only [ArenaEngine.submitted, hingest, hledger, hg, ArenaEngine.provenance, hv, hadd, hsig,
    Option.bind_eq_bind, Option.bind_some, Option.map_some]
  exact ⟨_, rfl, rfl, rfl⟩

/-- The receipt is intact exactly when its verdict says so. -/
theorem intact_iff {s : Submission} {r : Receipt} {replayOk : Bool} {v : ProvenanceVerdict}
    (h : verifyReceipt A.crypto r s.expected replayOk s.mission.attestationRequired
      memory.seenReceipts = some v) :
    v.ok = true ↔ Intact A memory s r := by
  have hv := isVerdict_of_verifyReceipt h
  rw [ProvenanceVerdict.ok, Bool.and_eq_true, Bool.and_eq_true, Bool.and_eq_true, hv.signed,
    hv.chain]
  obtain ⟨rid, hrid, hfresh⟩ := hv.fresh
  constructor
  · rintro ⟨⟨⟨hsigned, hchain⟩, hbinds⟩, hnew⟩
    obtain ⟨hhead, artifact, hartifact, hchallenge, hformula, hhotkey, hmission, hnonce⟩ :=
      binds_eq_true (hbinds ▸ hv.binds)
    simp only [Submission.expected, ExpectedArtifact.agrees, Option.some.injEq,
      decide_eq_true_eq] at hchallenge hformula
    exact ⟨hsigned, hchain, hhead, ⟨artifact, hartifact, hchallenge, hformula⟩,
      PyJson.pyEq_str.mp hhotkey, PyJson.pyEq_str.mp hmission, hnonce, rid, hrid, hfresh.mp hnew⟩
  · intro hi
    obtain ⟨artifact, hartifact, hchallenge, hformula⟩ := hi.artifact
    have hbinds : r.binds A.crypto s.expected = some true := by
      rw [Receipt.binds, hi.head, if_pos rfl, hartifact]
      simp [Submission.expected, ExpectedArtifact.agrees, hchallenge, hformula, hi.hotkey,
        hi.mission, hi.nonce, PyJson.pyEq_str.mpr]
    rw [hv.binds, Option.some.injEq] at hbinds
    obtain ⟨rid', hrid', hnew⟩ := hi.fresh
    rw [hrid, Option.some.injEq] at hrid'
    subst hrid'
    exact ⟨⟨⟨hi.signed, hi.chain⟩, hbinds⟩, hfresh.mpr hnew⟩

/-- A pass is all that the gates ask of the two halves. -/
theorem passed_iff (h : A.submitted memory spec m envelope = some o) :
    o.gates.passed = true ↔ Admitted A memory o.submission o.receipt := by
  obtain ⟨ledger, g, v, hspec, hledger, hg, hv, -, hpassed⟩ := parts_of_submitted h
  have hsay := gatesSay hg
  have hintact := intact_iff hv
  rw [ProvenanceVerdict.ok, Bool.and_eq_true, Bool.and_eq_true, Bool.and_eq_true] at hintact
  subst hspec
  rw [hpassed]
  constructor
  · rintro ⟨hkey, hsigned, ⟨hchain, hbinds, hnew⟩, hid, hmission, hnonce, hseen, -, hcomplete,
      -, -, -, hreplay, hhonest, hattested, haligned⟩
    obtain ⟨hmatches, hcurrent⟩ := hsay.freshNonce.mp hnonce
    exact ⟨hsay.validIdentity.mp hid, hkey, hsay.assignedMission.mp hmission, hmatches, hcurrent,
      ⟨ledger, hledger, hsay.noReplay.mp hseen⟩, hsay.completeArtifact.mp hcomplete,
      hsay.computeProfileHonest.mp hhonest, hsay.attestationValid.mp hattested,
      hsay.hypothesisAligned ▸ haligned, hsay.replaySucceeds.mp hreplay,
      hintact.mp ⟨⟨⟨hsigned, hchain⟩, hbinds⟩, hnew⟩⟩
  · intro ha
    obtain ⟨⟨⟨hsigned, hchain⟩, hbinds⟩, hnew⟩ := hintact.mpr ha.intact
    have hreplay := hsay.replaySucceeds.mpr ha.replayed
    obtain ⟨hhash, hwitness⟩ := hsay.parts hreplay
    obtain ⟨ledger', hledger', hunseen⟩ := ha.unseen
    rw [hledger, Option.some.injEq] at hledger'
    subst hledger'
    exact ⟨ha.delegated, hsigned, ⟨hchain, hbinds, hnew⟩, hsay.validIdentity.mpr ha.known,
      hsay.assignedMission.mpr ha.assigned, hsay.freshNonce.mpr ⟨ha.nonce, ha.current⟩,
      hsay.noReplay.mpr hunseen, hsay.correctOwner hwitness, hsay.completeArtifact.mpr ha.complete,
      hhash, hsay.decodeMapPresent hreplay, hwitness, hreplay,
      hsay.computeProfileHonest.mpr ha.honest, hsay.attestationValid.mpr ha.attested,
      hsay.hypothesisAligned.trans ha.aligned⟩

/-- The best grade is for an intact receipt and a replay, and what the receipt declares. -/
theorem grade_iff (h : A.submitted memory spec m envelope = some o) :
    o.gates.provenanceGrade = .a ↔ Intact A memory o.submission o.receipt ∧
      Replayed A o.submission ∧ o.receipt.attestedClaim = some true := by
  obtain ⟨ledger, g, v, -, -, hg, hv, hgrade, -⟩ := parts_of_submitted h
  have hverdict := isVerdict_of_verifyReceipt hv
  rw [hgrade, hverdict.grade, gradeOf_eq_a, intact_iff hv, (gatesSay hg).replaySucceeds,
    hverdict.attested, Option.some.injEq]

/-- An envelope is graded as promised unless its receipt is for other work, or attests itself. -/
theorem submitted_fair_iff (h : A.submitted memory spec m envelope = some o) :
    Fair A o ↔ ¬ OtherWork A memory o.submission o.receipt ∧
      ¬ SelfAttested A memory o.submission o.receipt := by
  constructor
  · intro hfair
    refine ⟨fun hother => hother.disagree (hfair.bound ((passed_iff h).mpr hother.admitted)), ?_⟩
    intro hself
    exact hself.unverified (hfair.graded
      ((grade_iff h).mpr ⟨hself.intact, hself.replayed, hself.declared⟩))
  · rintro ⟨hother, hself⟩
    constructor
    · intro hpassed
      by_contra hdisagree
      exact hother ⟨(passed_iff h).mp hpassed, hdisagree⟩
    · intro hgrade
      by_contra hunverified
      obtain ⟨hintact, hreplayed, hdeclared⟩ := (grade_iff h).mp hgrade
      exact hself ⟨hdeclared, hunverified, hreplayed, hintact⟩

end Pass

/-! ## An envelope whose halves are of different work -/

section Sample

def sampleSpec : AgentSpec where
  agentId := PyStr.ofString "agent-aurora"
  hotkey := PyStr.ofString "hk_aurora"
  archetype := PyStr.ofString "honest"
  environment := PyStr.ofString "local-untrusted"
  provisioned := true
  claimedEnv := []

/-- A mission of the floor tier: no attestation is asked for. -/
def sampleMission : Mission where
  missionId := PyStr.ofString "mission-1"
  attestationRequired := false
  nonce := PyStr.ofString "nonce-1"
  tier := 1
  replayTargetId := multiTakeSplitId
  nonceIssuedTick := 1

def sampleCid : PyStr := PyStr.ofString "pm-t1-e0-0a"

def sampleCnf : PyStr := PyStr.ofString "p cnf 1 1\n1 0\n"

/-- The witness of the one clause. -/
def sampleAssignment : Value := .arr [integer 1]

/-- The miner has one challenge, and its witness is the literal of the clause. -/
def samplePerMiner : PerMiner where
  generateInstance _ _ _ _ := some (sampleCid, sampleCnf)
  verifyMinerSubmission _ _ cid assignment :=
    some (decide (cid = .str sampleCid ∧ assignment = sampleAssignment), none)
  recoverTierSeqFor _ _ cid := some (if cid = .str sampleCid then some (1, 0) else none)
  verifyMinerSubmissionFor _ _ _ _ cid assignment :=
    some (decide (cid = .str sampleCid ∧ assignment = sampleAssignment), none)

/-- One registered target, one agent with its key, and an attestation service that verifies
nothing. -/
def sampleEngine {C : Crypto} (key : SigningKey C) : ArenaEngine where
  crypto := C
  targets := splitTargets
  perMiner := samplePerMiner
  verifyAttestation _ _ _ _ _ := some false
  str _ := []
  knownHotkeys := [sampleSpec.hotkey]
  delegations hotkey := if hotkey = sampleSpec.hotkey then some (Hex.encode key.publicKey) else none
  nowTick := 1
  epoch := 0

def sampleHash (C : Crypto) : PyStr := C.sha256Hex (asciiBytes "p cnf 1 1\n1 0\n".toList)

/-- An artifact that names a challenge. -/
def sampleArtifact (C : Crypto) (challenge : PyStr) : Members :=
  record [("challenge_id", .str challenge), ("cnf_sha256", .str (sampleHash C)),
    ("proof_family", text "F_emission")]

/-- A receipt for that challenge, and what it says of its attestation. -/
def sampleReceipt {C : Crypto} (key : SigningKey C) (challenge : PyStr) (attestation : Value) :
    Receipt :=
  buildReceipt C key sampleSpec.agentId sampleSpec.hotkey sampleMission.missionId
    sampleMission.nonce sampleSpec.environment
    [⟨PyStr.ofString "tool_call", PyStr.ofString "solver.search", text "", text ""⟩]
    (sampleArtifact C challenge) attestation

def sampleHalf (C : Crypto) : Members :=
  record [("submitted_cid", .str sampleCid), ("submitted_nonce", text "nonce-1"),
    ("submitted_cnf_hash", .str (sampleHash C)), ("assignment", sampleAssignment),
    ("wall_ms", integer 5), ("replay_witness", .obj splitWitness)]

def sampleEnvelope {C : Crypto} (key : SigningKey C) (challenge : PyStr) (attestation : Value) :
    Value :=
  .obj (record [("submission", .obj (sampleHalf C)),
    ("receipt", receiptToDict (sampleReceipt key challenge attestation))])

/-- What the arena makes of the submission half. -/
def sampleSubmission (C : Crypto) : Submission where
  spec := sampleSpec
  mission := sampleMission
  cid := sampleCid
  issuedCnfHash := sampleHash C
  issuedNonce := sampleMission.nonce
  submittedCid := .str sampleCid
  submittedNonce := text "nonce-1"
  submittedCnfHash := .str (sampleHash C)
  assignment := sampleAssignment
  wallMs := integer 5
  replayWitness := .obj splitWitness
  claimedFamily := text "F_emission"

variable {C : Crypto} (key : SigningKey C) {challenge : PyStr}
  {attestation : Value}

theorem sample_ingest : (sampleEngine key).ingest (sampleEnvelope key challenge attestation)
    sampleSpec sampleMission =
      some (sampleSubmission C, sampleReceipt key challenge attestation) := by
  have hcnf : utf8 sampleCnf = some (asciiBytes "p cnf 1 1\n1 0\n".toList) := by decide +kernel
  have hreceipt : ("receipt" == "submission") = false := by decide
  have hartifact : (sampleReceipt key challenge attestation).artifact =
      .obj (sampleArtifact C challenge) := rfl
  simp only [ArenaEngine.ingest, sampleEnvelope, get_record, List.lookup_cons, List.lookup_nil, beq_self_eq_true,
    hreceipt, Option.bind_eq_bind, Option.bind_some, receiptFromDict_receiptToDict, sampleEngine,
    samplePerMiner, hcnf, hartifact]
  simp [sampleHalf, sampleArtifact, get_record, List.lookup_cons, List.lookup_nil, sampleSubmission, sampleHash]

theorem sample_replay : ∃ observed, runReplay (sampleEngine key).targets multiTakeSplitId
    (.obj splitWitness) = some ⟨true, false, observed, none⟩ := ⟨_, rfl⟩

theorem sample_gates : ∃ g, (sampleEngine key).gates ⟨[], []⟩ (sampleSubmission C) = some g :=
  ⟨_, rfl⟩

theorem sample_replayed : Replayed (sampleEngine key) (sampleSubmission C) := by
  obtain ⟨observed, hreplay⟩ := sample_replay key
  exact ⟨⟨1, 0, none, rfl, rfl⟩, rfl, (reproduced_iff hreplay).mp rfl⟩

theorem sample_verify {claim : Bool} (replayOk : Bool)
    (hclaim : (sampleReceipt key challenge attestation).attestedClaim = some claim) :
    ∃ v, verifyReceipt C (sampleReceipt key challenge attestation) (sampleSubmission C).expected
      replayOk false [] = some v ∧ v.ok = true := by
  have hown : ∀ name, name = "challenge_id" ∨ name = "cnf_sha256" →
      ExpectedArtifact.own.agrees (sampleArtifact C challenge) name = some true := by
    rintro name (rfl | rfl) <;>
      simp [ExpectedArtifact.agrees, sampleArtifact, get_record, List.lookup_cons, List.lookup_nil]
  obtain ⟨v, hv, hok, -⟩ := verifyReceipt_buildReceipt key (List.cons_ne_nil _ _) hclaim
    (hown _ (Or.inl rfl)) (hown _ (Or.inr rfl))
  exact ⟨v, hv, hok⟩

theorem sample_admitted {claim : Bool}
    (hclaim : (sampleReceipt key challenge attestation).attestedClaim = some claim) :
    Admitted (sampleEngine key) ⟨[], []⟩ (sampleSubmission C)
      (sampleReceipt key challenge attestation) := by
  obtain ⟨v, hv, hok⟩ := sample_verify key true hclaim
  constructor
  · exact List.mem_singleton_self _
  · simp [ArenaEngine.delegated, sampleEngine, sampleReceipt, buildReceipt, sampleSubmission]
  · show sampleMission.missionId ≠ []
    decide
  · rfl
  · show (1 : ℤ) - 1 ≤ nonceTtlTicks
    decide
  · exact ⟨[], rfl, rfl⟩
  · refine ⟨rfl, ?_, rfl⟩
    have hlen : (sampleHash C).length = 64 := Crypto.length_sha256Hex C _
    have hne : sampleHash C ≠ [] := List.ne_nil_of_length_pos (by omega)
    simp [sampleSubmission, PyJson.truthy, hne]
  · intro htrusted
    have huntrusted : sampleSpec.environment ∉ trustedEnvs := by decide +kernel
    exact absurd htrusted huntrusted
  · intro hrequired
    cases hrequired
  · rfl
  · exact sample_replayed key
  · exact (intact_iff hv).mp hok

theorem sample_submitted {claim : Bool}
    (hclaim : (sampleReceipt key challenge attestation).attestedClaim = some claim) :
    ∃ o, (sampleEngine key).submitted ⟨[], []⟩ sampleSpec sampleMission
        (sampleEnvelope key challenge attestation) = some o ∧ o.submission = sampleSubmission C ∧
      o.receipt = sampleReceipt key challenge attestation := by
  obtain ⟨g, hg⟩ := sample_gates key
  obtain ⟨v, hv, -⟩ := sample_verify key g.replaySucceeds hclaim
  exact exists_submitted (sample_ingest key) rfl hg hv rfl rfl

theorem sample_halvesAgree : HalvesAgree (sampleSubmission C)
    (sampleReceipt key challenge attestation) ↔ challenge = sampleCid := by
  have hformula : PyJson.pyEqGet (get (sampleArtifact C challenge) "cnf_sha256")
      (some (sampleSubmission C).submittedCnfHash) = true := by
    simp [sampleArtifact, get_record, List.lookup_cons, List.lookup_nil, sampleSubmission, PyJson.pyEqGet,
      PyJson.pyEq_str]
  have hchallenge : PyJson.pyEqGet (get (sampleArtifact C challenge) "challenge_id")
      (some (sampleSubmission C).submittedCid) = true ↔ challenge = sampleCid := by
    simp [sampleArtifact, get_record, List.lookup_cons, List.lookup_nil, sampleSubmission, PyJson.pyEqGet,
      PyJson.pyEq_str]
  constructor
  · rintro ⟨artifact, hartifact, hagree, -⟩
    cases hartifact
    exact hchallenge.mp hagree
  · intro hcid
    exact ⟨_, rfl, hchallenge.mpr hcid, hformula⟩

/-- What an agent says of its own attestation. -/
def declaredValid : Value := .obj (record [("valid", .bool true)])

/-- The id of another challenge. -/
def otherCid : PyStr := PyStr.ofString "pm-t1-e0-0b"

theorem otherCid_ne : otherCid ≠ sampleCid := by decide

/-- All gates pass with a receipt for another challenge, and a receipt that says so is graded as
attested where the arena attested nothing. -/
theorem other_work_passes :
    (∀ (C : Crypto) (key : SigningKey C), ∃ o,
      (sampleEngine key).submitted ⟨[], []⟩ sampleSpec sampleMission
          (sampleEnvelope key otherCid .null) = some o ∧ o.gates.passed = true ∧
        ¬ HalvesAgree o.submission o.receipt) ∧
    ∀ (C : Crypto) (key : SigningKey C), ∃ o,
      (sampleEngine key).submitted ⟨[], []⟩ sampleSpec sampleMission
          (sampleEnvelope key sampleCid declaredValid) = some o ∧ o.gates.provenanceGrade = .a ∧
        ¬ ArenaAttested (sampleEngine key) o.submission := by
  constructor
  · intro C key
    have hclaim : (sampleReceipt key otherCid .null).attestedClaim = some false := rfl
    obtain ⟨o, ho, hs, hr⟩ := sample_submitted key hclaim
    refine ⟨o, ho, (passed_iff ho).mpr ?_, ?_⟩
    · rw [hs, hr]
      exact sample_admitted key hclaim
    · rw [hs, hr, sample_halvesAgree]
      exact otherCid_ne
  · intro C key
    have hclaim : (sampleReceipt key sampleCid declaredValid).attestedClaim = some true := rfl
    obtain ⟨o, ho, hs, hr⟩ := sample_submitted key hclaim
    refine ⟨o, ho, (grade_iff ho).mpr ?_, ?_⟩
    · rw [hs, hr]
      have hadmitted := sample_admitted key hclaim
      exact ⟨hadmitted.intact, hadmitted.replayed, hclaim⟩
    · rintro ⟨hrequired, -⟩
      rw [hs] at hrequired
      cases hrequired

/-- An honest envelope is graded as promised, one with a receipt for another challenge is not. -/
theorem honest_fair :
    (∀ (C : Crypto) (key : SigningKey C), ∃ o,
      (sampleEngine key).submitted ⟨[], []⟩ sampleSpec sampleMission
          (sampleEnvelope key sampleCid .null) = some o ∧ o.gates.passed = true ∧
        Fair (sampleEngine key) o) ∧
    ∀ (C : Crypto) (key : SigningKey C), ∃ o,
      (sampleEngine key).submitted ⟨[], []⟩ sampleSpec sampleMission
          (sampleEnvelope key otherCid .null) = some o ∧
        ¬ Fair (sampleEngine key) o := by
  constructor
  · intro C key
    have hclaim : (sampleReceipt key sampleCid .null).attestedClaim = some false := rfl
    obtain ⟨o, ho, hs, hr⟩ := sample_submitted key hclaim
    refine ⟨o, ho, (passed_iff ho).mpr ?_, (submitted_fair_iff ho).mpr ⟨?_, ?_⟩⟩
    · rw [hs, hr]
      exact sample_admitted key hclaim
    · intro hother
      apply hother.disagree
      rw [hs, hr, sample_halvesAgree]
    · intro hself
      have hdeclared := hself.declared
      rw [hr, hclaim] at hdeclared
      cases hdeclared
  · intro C key
    have hclaim : (sampleReceipt key otherCid .null).attestedClaim = some false := rfl
    obtain ⟨o, ho, hs, hr⟩ := sample_submitted key hclaim
    refine ⟨o, ho, fun hfair => ((submitted_fair_iff ho).mp hfair).1 ⟨?_, ?_⟩⟩
    · rw [hs, hr]
      exact sample_admitted key hclaim
    · rw [hs, hr, sample_halvesAgree]
      exact otherCid_ne

end Sample

end Cathedral.Arena
