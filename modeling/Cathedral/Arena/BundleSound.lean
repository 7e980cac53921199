import Cathedral.Arena.BundleBuilt

/-!
# Cathedral.Arena.BundleSound — what an accepted bundle proves

A bundle that is accepted shows who signed its receipt, and that the steps of the receipt hang
together. The rest depends on what the bundle has in it: `bundle_proves_iff` says for which
accepted bundles the witness, the place in the tree and the weight are as they are presented.

Under a root the head of a receipt cannot stand above the leaves, whatever the path: what is
hashed to the head is longer than a pair of nodes. It can stand below a leaf.
-/

namespace Cathedral.Arena

open PyJson (Value)

/-! ## What is promised -/

/-- The invariant of the target fails of a witness that has all keys. -/
def Reproduces (target : ReplayTarget) (witness : Value) : Prop :=
  PyJson.truthy witness = true ∧ containsAll witness target.decode = some true ∧
    Violates target witness

/-- The replay part is of a registered target, and the source and the code hash that the bundle
claims are those of the target. -/
structure Names (targets : Registry) (b : Presented) (rp : Members) (target : ReplayTarget) :
    Prop where
  replay : partOf b.bundle "replay" = .there rp
  registered : ∃ id, get rp "target_id" = some (.str id) ∧ targets id = some target
  claimed : ∃ pp, partOf b.bundle "proof_provenance" = .there pp ∧
    PyJson.pyEqGet (some (.str target.source)) (get pp "source") = true ∧
    PyJson.pyEqGet (some (.str target.codeSha256)) (get pp "code_sha256") = true

/-- The round that an anchor commits to. -/
def CommitsTo (C : Crypto) (b : Presented) (r : Round) : Prop :=
  ∃ root, b.merkleRoot = .str root ∧ merkleRoot C (r.leaves C) = some root

/-- The holder of the key that a document names signed the message. -/
def SignedUnder (SignedBy : Bytes → Bytes → Prop) (key : Option Value) (message : Bytes) : Prop :=
  ∃ digits publicKey, key = some (.str digits) ∧ Hex.decode digits = some publicKey ∧
    SignedBy publicKey message

/-- The weight entry that is shown is the one of the miner in the vector. -/
def Weighed (b : Presented) (r : Round) : Prop :=
  ∃ hotkey, b.expected.hotkey = .str hotkey ∧
    PyJson.pyEq ((get b.bundle "weight_entry").getD .null) (weightEntry r.vector hotkey) = true

/-- What an accepted bundle is promised to prove of a round. -/
structure Proven (C : Crypto) (targets : Registry) (SignedBy : Bytes → Bytes → Prop)
    (b : Presented) (r : Round) : Prop where
  signed : SignedUnder SignedBy (some b.receipt.agentPubkey) (C.message b.receipt.body)
  chain : b.receipt.chainIntact C = true
  violated : ∃ rp target witness, Names targets b rp target ∧ get rp "witness" = some witness ∧
    Reproduces target witness
  anchored : SignedUnder SignedBy (get b.anchor "pubkey") (C.canonical (unsigned b.anchor))
  included : ∃ head, b.receipt.head = .str head ∧ head ∈ r.leaves C
  weighed : Weighed b r

/-! ## What may be missing -/

/-- The bundle expects its witness to reproduce. -/
def ExpectsReplay (targets : Registry) (b : Presented) : Prop :=
  ∃ rp target expected, Names targets b rp target ∧
    get rp "expect_reproduced" = some expected ∧ PyJson.pyEq (.bool true) expected = true

/-- The path goes on below the leaves, or some leaf is no digest, and the head is not a leaf. -/
structure Beneath (C : Crypto) (b : Presented) (r : Round) : Prop where
  deep : ¬ (∀ s ∈ r.leaves C, IsHexLeaf s) ∨ Nat.clog 2 (r.leaves C).length < b.path.length
  beside : b.receipt.head ∉ (r.leaves C).map Json.str

/-! ## The head of a receipt -/

section Heads

variable {C : Crypto}

/-- What is hashed of a step is longer than two nodes. -/
theorem length_canonical_step (s : Step) : 64 < (C.canonical s.asDict).length := by
  have hkeys := PyJson.length_keys_le C.numeral s.asDict
  have hnames : (["idx", "kind", "name", "input_digest", "output_digest", "prev_hash"].map fun k =>
      (Json.quote (PyStr.ofString k)).length + 2).sum = 69 := by decide +kernel
  have hlen : (s.asDict.map fun m => (Json.quote m.1).length + 2).sum = 69 := by
    simpa only [Step.asDict, record, List.map_cons, List.map_nil] using hnames
  rw [Crypto.canonical, asciiBytes, List.length_map]
  omega

/-- A digest of a text that is longer than two nodes is a leaf, if the path from it to the root
is no longer than the tree is deep. -/
theorem mem_of_path {leaves : List PyStr} {path : List PathStep} {root : PyStr} {text : Bytes}
    (h : ∀ s ∈ leaves, IsHexLeaf s) (hne : leaves ≠ []) (hlong : 64 < text.length)
    (hpath : path.length ≤ Nat.clog 2 leaves.length)
    (hfree : CollisionFree C
      (rootTexts C leaves ++ pathTexts C (C.sha256Hex text) path ++ [text]))
    (hroot : merkleRoot C leaves = some root)
    (hverify : verifyMerkleProof C (C.sha256Hex text) path root = some true) :
    C.sha256Hex text ∈ leaves := by
  have hleaf : IsHexLeaf (C.sha256Hex text) := isHexLeaf_encode (C.length_sha256 text)
  have hpos : 0 < leaves.length := List.length_pos_iff.mpr hne
  rcases Nat.eq_or_lt_of_le hpath with hsame | hshort
  · exact mem_of_verifyMerkleProof h hleaf (hfree.mono (List.subset_append_left _ _))
      (Or.inr ⟨hpos, hsame⟩) hroot hverify
  · -- the head would be a node above the leaves: a digest of two nodes
    exfalso
    obtain ⟨nodes, hnodes, rfl⟩ := exists_nodes h
    have hne' : nodes ≠ [] := by
      rintro rfl
      exact hne rfl
    obtain ⟨node, steps, hnode, hsteps, hwalk⟩ := verifyMerkleProof_eq_true hverify
    rw [Crypto.sha256Hex, leafNode_encode (C.length_sha256 text), Option.some.injEq] at hnode
    subst hnode
    have htexts : pathTexts C (C.sha256Hex text) path =
        (Merkle.walked C.join (C.sha256 text) steps).map concat := by
      rw [pathTexts, Crypto.sha256Hex, leafNode_encode (C.length_sha256 text), hsteps]
    rw [htexts, rootTexts_encode hnodes hne'] at hfree
    rw [merkleRoot_encode hnodes hne'] at hroot
    obtain ⟨top, htop, rfl⟩ := Option.map_eq_some_iff.mp hroot
    rw [Hex.encode_injective hwalk.symm] at htop
    have hapart := apart_of_collisionFree (length_of_mem_walked (C.length_sha256 text))
      (length_of_mem_joined hnodes) (hfree.mono fun x hx => by
        rw [List.mem_append] at hx
        rw [List.mem_append, List.mem_append]
        exact Or.inl hx.symm)
    rw [List.length_map, ← length_of_mapM hsteps] at hshort
    obtain ⟨p, hp, hjoin⟩ := Merkle.joined_of_walk hshort hapart htop
    have htext : text = concat p :=
      hfree _ (by simp) _ (by simp [List.mem_map_of_mem hp]) hjoin
    obtain ⟨hfirst, hsecond⟩ := length_of_mem_joined hnodes p hp
    have hlength := congrArg List.length htext
    rw [concat, List.length_append, hfirst, hsecond] at hlength
    omega

/-- The head of an intact receipt is the digest of its last step. -/
theorem exists_last {r : Receipt} (hchain : r.chainIntact C = true)
    (hhead : r.headMatches C = true) :
    ∃ s, r.steps.getLast? = some s ∧ r.head = .str (C.digest s.asDict) := by
  rw [Receipt.chainIntact, Bool.and_eq_true, Bool.not_eq_true', List.isEmpty_eq_false_iff] at hchain
  rw [Receipt.headMatches, decide_eq_true_eq] at hhead
  refine ⟨r.steps.getLast hchain.2, List.getLast?_eq_some_getLast hchain.2, ?_⟩
  rw [hhead, headOf, List.getLast?_eq_some_getLast hchain.2]

end Heads

/-! ## Accepted bundles -/

section Accepted

variable {C : Crypto} {targets : Registry} {b : Presented} {r : Round} {checks : BundleChecks}

/-- What an accepted bundle has passed. -/
structure Passed (C : Crypto) (targets : Registry) (b : Presented) : Prop where
  signed : b.receipt.signed C = true
  chain : b.receipt.chainIntact C = true
  head : b.receipt.headMatches C = true
  replay : replayCheck targets b.bundle = some true
  included : ∃ root, b.root = .str root ∧ verifyMerkleProof C b.leaf b.path root = some true
  root : PyJson.pyEq b.root b.merkleRoot = true
  anchor : C.signatureOk b.anchor = true
  leaf : b.receipt.head = .str b.leaf

theorem passed_of_ok (h : checkPresented C targets b = some checks) (hok : checks.ok = true) :
    Passed C targets b := by
  simp only [checkPresented, Option.bind_eq_bind, Option.bind_eq_some_iff] at h
  obtain ⟨v, hv, replayed, hreplayed, included, hincluded, registered, -, corroborated, -, h⟩ := h
  cases h
  simp only [BundleChecks.ok, Bool.and_eq_true, decide_eq_true_eq] at hok
  obtain ⟨⟨⟨⟨⟨⟨⟨⟨⟨hsigned, hchain⟩, hbinds⟩, hreplay⟩, ⟨hin, htext⟩⟩, hroot⟩, hanchor⟩, hleaf⟩,
    -⟩, -⟩ := hok
  have hverdict := isVerdict_of_verifyReceipt hv
  refine ⟨hverdict.signed ▸ hsigned, hverdict.chain ▸ hchain,
    (binds_eq_true (hbinds ▸ hverdict.binds)).1, hreplay ▸ hreplayed, ?_, hroot, hanchor, hleaf⟩
  cases hb : b.root with
  | str root =>
    rw [hb, hin] at hincluded
    exact ⟨root, rfl, hincluded⟩
  | _ =>
    rw [hb] at htext
    cases htext

/-- A bundle that names a target shows that its witness reproduces exactly when it expects it. -/
theorem violated_iff (h : Passed C targets b) :
    (∃ rp target witness, Names targets b rp target ∧ get rp "witness" = some witness ∧
      Reproduces target witness) ↔ ExpectsReplay targets b := by
  -- the outcome for a target that is named, and what is expected of it
  have hout : ∀ rp target, Names targets b rp target → ∃ id witness out expected,
      targets id = some target ∧ get rp "witness" = some witness ∧
      runReplay targets id witness = some out ∧ get rp "expect_reproduced" = some expected ∧
      PyJson.pyEq (.bool out.reproduced) expected = true := by
    intro rp target hnames
    have hcheck := h.replay
    obtain ⟨id, hid, htarget⟩ := hnames.registered
    rw [replayCheck, hnames.replay] at hcheck
    simp only [hid, Option.bind_eq_bind, Option.bind_some, Option.bind_eq_some_iff,
      Option.some.injEq] at hcheck
    obtain ⟨witness, hwitness, out, hout, expected, hexpected, heq⟩ := hcheck
    exact ⟨id, witness, out, expected, htarget, hwitness, hout, hexpected, heq⟩
  constructor
  · rintro ⟨rp, target, witness, hnames, hwitness, hreproduces⟩
    obtain ⟨id, witness', out, expected, htarget, hwitness', hrun, hexpected, heq⟩ :=
      hout rp target hnames
    rw [hwitness, Option.some.injEq] at hwitness'
    subst hwitness'
    have htrue : out.reproduced = true :=
      (reproduced_iff hrun).mpr ⟨target, htarget, hreproduces⟩
    rw [htrue] at heq
    exact ⟨rp, target, expected, hnames, hexpected, heq⟩
  · rintro ⟨rp, target, expected, hnames, hexpected, htrue⟩
    obtain ⟨id, witness, out, expected', htarget, hwitness, hrun, hexpected', heq⟩ :=
      hout rp target hnames
    rw [hexpected, Option.some.injEq] at hexpected'
    subst hexpected'
    have hreproduced : out.reproduced = true := by
      cases hfalse : out.reproduced with
      | true => rfl
      | false =>
        -- nothing equals both truth values
        rw [hfalse] at heq
        exact absurd htrue (PyJson.not_pyEq_true_of_pyEq_false heq)
    obtain ⟨target', htarget', hreproduces⟩ := (reproduced_iff hrun).mp hreproduced
    rw [htarget, Option.some.injEq] at htarget'
    subst htarget'
    exact ⟨rp, target, witness, hnames, hwitness, hreproduces⟩

/-- A bundle that shows a witness of a registered target expects it to reproduce. -/
theorem expectsReplay_presented {source : BundleSource} {path : List PathStep} {entry : Value}
    {id : PyStr} {witness : Value} {target : ReplayTarget}
    (htheater : source.theater = some (id, witness, true)) (htarget : targets id = some target) :
    ExpectsReplay targets (presented targets source path entry) := by
  have hreplay : get (presented targets source path entry).bundle "replay" =
      some (replayPart source.theater) := get_replay_assembled
  have hclaimed : get (presented targets source path entry).bundle "proof_provenance" =
      some (provenancePart targets source.theater) := get_provenance_assembled
  rw [htheater] at hreplay hclaimed
  rw [provenancePart, htarget] at hclaimed
  refine ⟨_, target, .bool true, ⟨partOf_eq_there hreplay (List.cons_ne_nil _ _), ⟨id, ?_, htarget⟩,
    _, partOf_eq_there hclaimed (List.cons_ne_nil _ _), ?_, ?_⟩, ?_, rfl⟩ <;>
    simp [get_record, List.lookup_cons, List.lookup_nil, PyJson.pyEqGet, PyJson.pyEq_str]

/-- What is hashed of a bundle and of the round it is compared with. -/
def bundleTexts (C : Crypto) (b : Presented) (r : Round) : List Bytes :=
  rootTexts C (r.leaves C) ++ pathTexts C b.leaf b.path ++
    (b.receipt.steps.getLast?.map fun s => C.canonical s.asDict).toList

/-- A head that is not beneath is a leaf. -/
theorem included_iff (h : Passed C targets b) (hcommits : CommitsTo C b r)
    (hfree : CollisionFree C (bundleTexts C b r)) :
    (∃ head, b.receipt.head = .str head ∧ head ∈ r.leaves C) ↔ ¬ Beneath C b r := by
  constructor
  · rintro ⟨head, hhead, hmem⟩ hbeneath
    apply hbeneath.beside
    rw [hhead]
    exact List.mem_map_of_mem hmem
  · intro hnot
    refine ⟨b.leaf, h.leaf, ?_⟩
    by_contra hmem
    apply hnot
    refine ⟨?_, ?_⟩
    · by_contra hdeep
      rw [not_or, not_not, Nat.not_lt] at hdeep
      obtain ⟨s, hlast, hhead⟩ := exists_last h.chain h.head
      obtain ⟨root, hroot, hverify⟩ := h.included
      obtain ⟨root', hroot', hcommitted⟩ := hcommits
      have hsame : root = root' := by
        have heq := h.root
        rw [hroot, hroot', PyJson.pyEq_str, Json.str.injEq] at heq
        exact heq
      subst hsame
      have hleaf : b.leaf = C.sha256Hex (C.canonical s.asDict) := by
        have heq := h.leaf
        rw [hhead, Json.str.injEq] at heq
        exact heq.symm
      rw [bundleTexts, hlast, Option.map_some, Option.toList_some, hleaf] at hfree
      rw [hleaf] at hmem hverify
      refine hmem (mem_of_path hdeep.1 ?_ (length_canonical_step s) hdeep.2 hfree hcommitted
        hverify)
      simp [Round.leaves, roundLeaves]
    · rw [h.leaf, List.mem_map]
      rintro ⟨s, hs, heq⟩
      rw [Json.str.injEq] at heq
      exact hmem (heq ▸ hs)

/-- A signature that verifies was made by the holder of the key. -/
theorem signedUnder_receipt {SignedBy : Bytes → Bytes → Prop}
    (hunforgeable : ∀ key signature message, C.ed25519 key signature message = true →
      SignedBy key message) {r : Receipt} (h : r.signed C = true) :
    SignedUnder SignedBy (some r.agentPubkey) (C.message r.body) := by
  unfold Receipt.signed at h
  split at h
  · rename_i digits signature hkey hsig
    split at h
    · rename_i key sig hdecode hdecode'
      exact ⟨digits, key, congrArg some hkey, hdecode, hunforgeable key sig _ h⟩
    · cases h
  · cases h

theorem signedUnder_anchor {SignedBy : Bytes → Bytes → Prop}
    (hunforgeable : ∀ key signature message, C.ed25519 key signature message = true →
      SignedBy key message) {members : Members} (h : C.signatureOk members = true) :
    SignedUnder SignedBy (get members "pubkey") (C.canonical (unsigned members)) := by
  unfold Crypto.signatureOk at h
  split at h
  · rename_i digits signature hkey hsig
    split at h
    · rename_i key sig hdecode hdecode'
      exact ⟨digits, key, hkey, hdecode, hunforgeable key sig _ h⟩
    · cases h
  · cases h

/-- An accepted bundle proves what it is promised to prove of a round that its anchor commits to
exactly when it expects a replay of the target it claims, its head does not hang below the
leaves, and the weight it shows is the one of the round. -/
theorem bundle_proves_iff {bundle : Value} {SignedBy : Bytes → Bytes → Prop}
    (hpresent : present bundle = some b) (hcheck : verifyBundle C targets bundle = some checks)
    (hok : checks.ok = true) (hcommits : CommitsTo C b r)
    (hunforgeable : ∀ key signature message, C.ed25519 key signature message = true →
      SignedBy key message)
    (hfree : CollisionFree C (bundleTexts C b r)) :
    Proven C targets SignedBy b r ↔
      ExpectsReplay targets b ∧ ¬ Beneath C b r ∧ Weighed b r := by
  rw [verifyBundle, hpresent, Option.bind_some] at hcheck
  have hpassed := passed_of_ok hcheck hok
  constructor
  · intro hproven
    exact ⟨(violated_iff hpassed).mp hproven.violated,
      (included_iff hpassed hcommits hfree).mp hproven.included, hproven.weighed⟩
  · rintro ⟨hexpects, hnot, hweighed⟩
    exact ⟨signedUnder_receipt hunforgeable hpassed.signed, hpassed.chain,
      (violated_iff hpassed).mpr hexpects, signedUnder_anchor hunforgeable hpassed.anchor,
      (included_iff hpassed hcommits hfree).mpr hnot, hweighed⟩

end Accepted

/-! ## A round of one receipt -/

section OneReceipt

/-- The step, the artifact and the vector of the round. -/
def soleStep : RawStep where
  kind := PyStr.ofString "tool_call"
  name := PyStr.ofString "solver.search"
  input := text ""
  output := text ""

def soleArtifact : Members :=
  record [("challenge_id", text "pm-t1-e0-0a"), ("cnf_sha256", text "00")]

def soleEntry : Value := .obj (record [("miner_hotkey", text "hk_aurora"), ("weight", integer 1)])

def soleVector : Members := record [("policy_version", text "v1"), ("weights", .arr [soleEntry])]

variable {C : Crypto} (key : SigningKey C)

variable (C) in
/-- The text that is hashed to the head. -/
def soleText : Bytes := C.canonical (rawStep C 0 genesis soleStep).asDict

variable (C) in
def soleRound : Round where
  heads := [C.sha256Hex (soleText C)]
  vector := soleVector
  season := PyStr.ofString "S1"
  roundNo := 1
  epoch := 1
  anchoredAt := []

variable (C) in
/-- The node of the vector, next to the one of the head. -/
def soleDigest : Bytes := C.sha256 (C.canonical soleVector)

variable (C) in
def soleRoot : PyStr := Hex.encode (C.join (C.sha256 (soleText C)) (soleDigest C))

variable (C) in
def solePath : List PathStep := [⟨Hex.encode (soleDigest C), PyStr.ofString "right"⟩]

def soleAnchor : Members :=
  anchorBody C (soleRound C) (soleRoot C) (Hex.encode key.publicKey) ++
    record [("signature", .str (Hex.encode (key.sign (C.canonical
      (anchorBody C (soleRound C) (soleRoot C) (Hex.encode key.publicKey))))))]

/-- What a bundle of the agent is built of, with a replay or without. -/
def soleSource (theater : Option (PyStr × Value × Bool)) : BundleSource where
  agentId := PyStr.ofString "agent-aurora"
  minerHotkey := PyStr.ofString "hk_aurora"
  season := PyStr.ofString "S1"
  roundNo := 1
  environment := PyStr.ofString "local-untrusted"
  targetNetuid := 1
  missionId := PyStr.ofString "mission-1"
  nonce := PyStr.ofString "nonce-1"
  receipt := buildReceipt C key (PyStr.ofString "agent-aurora") (PyStr.ofString "hk_aurora")
    (PyStr.ofString "mission-1") (PyStr.ofString "nonce-1") (PyStr.ofString "local-untrusted")
    [soleStep] soleArtifact .null
  artifact := soleArtifact
  head := C.sha256Hex (soleText C)
  theater := theater
  evidence := .null
  anchor := soleAnchor key
  root := soleRoot C
  leaves := (soleRound C).leaves C
  vector := soleVector
  gatesPassed := true
  grade := PyStr.ofString "B"

theorem soleRound_leaves : (soleRound C).leaves C =
    [C.sha256 (soleText C), soleDigest C].map Hex.encode := by
  rw [leaves_eq]
  · rfl
  · intro s hs
    rw [List.mem_singleton.mp hs]
    exact isHexLeaf_encode (C.length_sha256 _)

theorem soleNodes_length : ∀ node ∈ [C.sha256 (soleText C), soleDigest C], node.length = 32 := by
  simp [soleDigest, C.length_sha256]

theorem soleRound_root : merkleRoot C ((soleRound C).leaves C) = some (soleRoot C) := by
  rw [soleRound_leaves, merkleRoot_encode soleNodes_length (List.cons_ne_nil _ _),
    ← Merkle.root_levelUp (by simp)]
  show (Merkle.root C.join [_]).map Hex.encode = _
  rw [Merkle.root_singleton]
  rfl

theorem solePath_steps : (solePath C).mapM PathStep.step = some [⟨soleDigest C, true⟩] := by
  rw [solePath, List.mapM_cons, PathStep.step, Hex.decode_encode]
  rfl

theorem solePath_verifies :
    verifyMerkleProof C (C.sha256Hex (soleText C)) (solePath C) (soleRoot C) = some true := by
  rw [verifyMerkleProof, Crypto.sha256Hex, leafNode_encode (C.length_sha256 _), solePath_steps]
  show some (decide (Hex.encode
    (Merkle.walk C.join (C.sha256 (soleText C)) [⟨soleDigest C, true⟩]) = soleRoot C)) = some true
  rw [decide_eq_true]
  rfl

theorem sole_genuine {theater : Option (PyStr × Value × Bool)}
    (htheater : ∀ id witness reproduced, theater = some (id, witness, reproduced) →
      ∃ target out, splitTargets id = some target ∧ runReplay splitTargets id witness = some out ∧
        out.reproduced = reproduced) :
    Genuine C splitTargets (soleSource key theater) (soleRound C) := by
  constructor
  · exact ⟨key, [soleStep], .null, false, List.cons_ne_nil _ _, rfl, rfl⟩
  · rfl
  · intro name
    show PyJson.pyEqGet (get soleArtifact name) (get soleArtifact name) = true
    rw [soleArtifact, get_record]
    simp only [List.lookup_cons, List.lookup_nil]
    split
    · exact PyJson.pyEq_str.mpr rfl
    · split
      · exact PyJson.pyEq_str.mpr rfl
      · rfl
  · show ∀ s ∈ (soleRound C).leaves C, IsHexLeaf s
    rw [soleRound_leaves]
    intro s hs
    obtain ⟨node, hnode, rfl⟩ := List.mem_map.mp hs
    exact isHexLeaf_encode (soleNodes_length node hnode)
  · rfl
  · show C.sha256Hex (soleText C) ∈ (soleRound C).leaves C
    rw [soleRound_leaves]
    exact List.mem_cons_self
  · refine ⟨key, ?_⟩
    rw [buildAnchor, soleRound_root]
    rfl
  · show get (soleAnchor key) "merkle_root" = some (.str (soleRoot C))
    rw [soleAnchor, anchorBody, record_append, get_record]
    simp [List.lookup_cons, List.lookup_nil]
  · rfl
  · exact htheater
  · rfl

/-- The bundle of the agent, with a weight entry. -/
def soleBundle (theater : Option (PyStr × Value × Bool)) (entry : Value) : Value :=
  assemble splitTargets (soleSource key theater) (solePath C) entry

/-- What is taken out of it. -/
def solePresented (theater : Option (PyStr × Value × Bool)) (entry : Value) : Presented :=
  presented splitTargets (soleSource key theater) (solePath C) entry

variable {key} {theater : Option (PyStr × Value × Bool)} {entry : Value}

/-- With whatever weight entry, the bundle is accepted. -/
theorem sole_accepted (h : Genuine C splitTargets (soleSource key theater) (soleRound C)) :
    present (soleBundle key theater entry) = some (solePresented key theater entry) ∧
      ∃ checks, verifyBundle C splitTargets (soleBundle key theater entry) = some checks ∧
        checks.ok = true :=
  ⟨present_assemble h.root, verifyBundle_assemble h solePath_verifies⟩

theorem sole_commits : CommitsTo C (solePresented key theater entry) (soleRound C) :=
  ⟨soleRoot C, rfl, soleRound_root⟩

/-- The take that is more than the pool. -/
def soleTheater : PyStr × Value × Bool := (multiTakeSplitId, .obj splitWitness, true)

theorem sole_replay : ∃ out,
    runReplay splitTargets multiTakeSplitId (.obj splitWitness) = some out ∧
      out.reproduced = true :=
  ⟨_, rfl, rfl⟩

theorem sole_theater : ∀ id witness reproduced, some soleTheater = some (id, witness, reproduced) →
    ∃ target out, splitTargets id = some target ∧ runReplay splitTargets id witness = some out ∧
      out.reproduced = reproduced := by
  intro id witness reproduced h
  cases h
  obtain ⟨out, hout, hreproduced⟩ := sole_replay
  exact ⟨_, out, if_pos rfl, hout, hreproduced⟩

theorem sole_weighed : Weighed (solePresented key theater entry) (soleRound C) ↔
    PyJson.pyEq entry soleEntry = true := by
  have hown : weightEntry soleVector (PyStr.ofString "hk_aurora") = soleEntry := by decide +kernel
  have hentry : get (solePresented key theater entry).bundle "weight_entry" = some entry :=
    get_weight_assembled
  constructor
  · rintro ⟨hotkey, hname, hsame⟩
    cases hname
    rw [hentry] at hsame
    exact hown ▸ hsame
  · intro hsame
    refine ⟨PyStr.ofString "hk_aurora", rfl, ?_⟩
    rw [hentry]
    exact hown.symm ▸ hsame

/-- Without a replay the bundle is accepted and shows no witness; with one it is accepted and may
show a weight that is not the one of the round. -/
theorem accepted_unproven :
    (∀ (C : Crypto) (key : SigningKey C) (SignedBy : Bytes → Bytes → Prop), ∃ b checks,
      present (soleBundle key none soleEntry) = some b ∧
        verifyBundle C splitTargets (soleBundle key none soleEntry) = some checks ∧
        checks.ok = true ∧ CommitsTo C b (soleRound C) ∧ Weighed b (soleRound C) ∧
          ¬ Proven C splitTargets SignedBy b (soleRound C)) ∧
    ∀ (C : Crypto) (key : SigningKey C) (SignedBy : Bytes → Bytes → Prop), ∃ b checks,
      present (soleBundle key (some soleTheater) .null) = some b ∧
        verifyBundle C splitTargets (soleBundle key (some soleTheater) .null) = some checks ∧
        checks.ok = true ∧ CommitsTo C b (soleRound C) ∧ ExpectsReplay splitTargets b ∧
          ¬ Proven C splitTargets SignedBy b (soleRound C) := by
  constructor
  · intro C key SignedBy
    have hnone : Genuine C splitTargets (soleSource key none) (soleRound C) :=
      sole_genuine key (by simp)
    obtain ⟨hpresent, checks, hchecks, hok⟩ := sole_accepted hnone
    refine ⟨_, checks, hpresent, hchecks, hok, sole_commits, sole_weighed.mpr (by decide +kernel),
      fun hproven => ?_⟩
    obtain ⟨rp, target, witness, hnames, -⟩ := hproven.violated
    have hreplay := hnames.replay
    rw [solePresented, presented, partOf_eq_absent get_replay_assembled] at hreplay
    cases hreplay
  · intro C key SignedBy
    obtain ⟨hpresent, checks, hchecks, hok⟩ := sole_accepted (sole_genuine key sole_theater)
    refine ⟨_, checks, hpresent, hchecks, hok, sole_commits,
      expectsReplay_presented rfl (if_pos rfl), fun hproven => ?_⟩
    have hsame := sole_weighed.mp hproven.weighed
    cases hsame

/-! ### Signed and hashed in the open -/

/-- Texts are told apart only by whether they are longer than two nodes, and a signature is the
key and the message. -/
def plainCrypto : Crypto where
  sha256 text := (if 64 < text.length then 1 else 0) :: List.replicate 31 0
  length_sha256 _ := rfl
  ed25519 key signature message := decide (signature = key ++ message)
  floatRepr _ := []

def plainKey : SigningKey plainCrypto where
  publicKey := []
  sign := id
  verifies _ := decide_eq_true rfl

theorem soleTexts : bundleTexts C (solePresented key theater entry) (soleRound C) =
    [concat (C.sha256 (soleText C), soleDigest C), concat (C.sha256 (soleText C), soleDigest C),
      soleText C] := by
  have hroot : rootTexts C ((soleRound C).leaves C) =
      [concat (C.sha256 (soleText C), soleDigest C)] := by
    rw [soleRound_leaves, rootTexts_encode soleNodes_length (List.cons_ne_nil _ _),
      Merkle.joined_eq (by simp)]
    show (_ :: Merkle.joined C.join [_]).map concat = _
    rw [Merkle.joined_of_le_one (List.length_singleton ▸ le_rfl)]
    rfl
  have hpath : pathTexts C (C.sha256Hex (soleText C)) (solePath C) =
      [concat (C.sha256 (soleText C), soleDigest C)] := by
    rw [pathTexts, Crypto.sha256Hex, leafNode_encode (C.length_sha256 _), solePath_steps]
    rfl
  show rootTexts C ((soleRound C).leaves C) ++
    pathTexts C (C.sha256Hex (soleText C)) (solePath C) ++ [soleText C] = _
  rw [hroot, hpath]
  rfl

/-- A step is longer than a pair of nodes. -/
theorem plain_collisionFree : CollisionFree plainCrypto
    (bundleTexts plainCrypto (solePresented plainKey theater entry) (soleRound plainCrypto)) := by
  have hshort : ¬ 64 < (concat (plainCrypto.sha256 (soleText plainCrypto),
      soleDigest plainCrypto)).length := by
    rw [concat, List.length_append, soleDigest, plainCrypto.length_sha256,
      plainCrypto.length_sha256]
    omega
  have hlong : 64 < (soleText plainCrypto).length := length_canonical_step _
  have hapart : ∀ {x y : Bytes}, ¬ 64 < x.length → 64 < y.length →
      plainCrypto.sha256 x ≠ plainCrypto.sha256 y := by
    intro x y hx hy heq
    simp [plainCrypto, hx, hy] at heq
  intro x hx y hy heq
  rw [soleTexts] at hx hy
  simp only [List.mem_cons, List.not_mem_nil, or_false, or_self_left] at hx hy
  rcases hx with rfl | rfl <;> rcases hy with rfl | rfl
  · rfl
  · exact absurd heq (hapart hshort hlong)
  · exact absurd heq.symm (hapart hshort hlong)
  · rfl

/-- A bundle with the replay and the weight of the round proves what it is promised to prove. -/
theorem plain_proven : ∃ b checks,
    present (soleBundle plainKey (some soleTheater) soleEntry) = some b ∧
      verifyBundle plainCrypto splitTargets (soleBundle plainKey (some soleTheater) soleEntry) =
        some checks ∧ checks.ok = true ∧
      Proven plainCrypto splitTargets (fun key message => ∃ signature,
        plainCrypto.ed25519 key signature message = true) b (soleRound plainCrypto) := by
  obtain ⟨hpresent, checks, hchecks, hok⟩ := sole_accepted (sole_genuine plainKey sole_theater)
  refine ⟨_, checks, hpresent, hchecks, hok,
    (bundle_proves_iff hpresent hchecks hok sole_commits (fun key signature message h =>
      ⟨signature, h⟩) plain_collisionFree).mpr ⟨expectsReplay_presented rfl (if_pos rfl), ?_,
        sole_weighed.mpr (by decide +kernel)⟩⟩
  -- its head is the first of the two leaves
  intro hbeneath
  refine hbeneath.beside (List.mem_map_of_mem ?_)
  rw [soleRound_leaves]
  exact List.mem_cons_self

theorem buildBundle_accepted_sole : ∃ bundle checks,
    buildBundle plainCrypto splitTargets (soleSource plainKey (some soleTheater)) = some bundle ∧
      verifyBundle plainCrypto splitTargets bundle = some checks ∧ checks.ok = true :=
  buildBundle_accepted (sole_genuine plainKey sole_theater)

end OneReceipt

end Cathedral.Arena
